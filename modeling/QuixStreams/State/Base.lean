import QuixStreams.Builtins

namespace quixstreams.state

/-- The store classes the manager compares against or builds. `other` is any further
    class given as `store_type`, named by its qualified name. -/
inductive StoreType where
  | RocksDBStore
  | MemoryStore
  | WindowedRocksDBStore
  | other (qualname : String)
  deriving DecidableEq, Repr

/-- `str(cls)` for a store class. -/
def StoreType.str : StoreType → String
  | .RocksDBStore => "<class 'quixstreams.state.rocksdb.store.RocksDBStore'>"
  | .MemoryStore => "<class 'quixstreams.state.memory.store.MemoryStore'>"
  | .WindowedRocksDBStore => "<class 'quixstreams.state.rocksdb.windowed.store.WindowedRocksDBStore'>"
  | .other qualname => "<class '" ++ qualname ++ "'>"

/-- A `TopicConfig`, which the manager only passes on to the changelog topic: its settings are
    read by nothing modelled, so a token tells one config from another. -/
structure TopicConfig where
  token : Nat
  deriving DecidableEq, Repr

/-- Modelled from the spec: a changelog topic, "named deterministically from (group_id,
    store_name, source_topic)". One recovery manager serves one consumer group. -/
structure ChangelogTopic where
  source_topic : Option String
  store_name : String
  config : Option TopicConfig
  deriving DecidableEq, Repr

/-- `changelog_topic.name`, up to the fixed consumer group. -/
def ChangelogTopic.name (topic : ChangelogTopic) : Option String × String :=
  (topic.source_topic, topic.store_name)

/-- `ChangelogProducerFactory(changelog_name=..., producer=self._producer)`. The producer is
    always the manager's own, so only the changelog name is recorded. -/
structure ChangelogProducerFactory where
  changelog_name : Option String × String
  deriving DecidableEq, Repr

/-- The `StorePartition` a store holds for one partition number. -/
structure StorePartition where
  store_name : String
  topic : Option String
  partition : Int
  deriving DecidableEq, Repr

/-- Modelled from the spec (4.2): a store object. Every field but `partitions` is an
    argument of its constructor and never changes. -/
structure Store where
  cls : StoreType
  name : String
  topic : Option String
  base_dir : Option String
  changelog_producer_factory : Option ChangelogProducerFactory
  partitions : List Int
  deriving DecidableEq, Repr

/-- A store as its constructor built it: two stores are the same object exactly when
    these agree. -/
def Store.created (store : Store) : Store := { store with partitions := [] }

/-- Modelled from the spec: `assign_partition` is idempotent and returns the partition. -/
def Store.assign_partition (self : Store) (partition : Int) : Store × StorePartition :=
  (if partition ∈ self.partitions then self
    else { self with partitions := self.partitions ++ [partition] },
   ⟨self.name, self.topic, partition⟩)

/-- Modelled from the spec: `revoke_partition` closes and forgets the partition. -/
def Store.revoke_partition (self : Store) (partition : Int) : Store :=
  { self with partitions := self.partitions.filter (· ≠ partition) }

/-- Modelled from the spec: `close` revokes every partition. -/
def Store.close (self : Store) : Store := { self with partitions := [] }

@[simp] theorem Store.assign_partition_created (store : Store) (partition : Int) :
    (store.assign_partition partition).1.created = store.created := by
  unfold Store.assign_partition; split <;> rfl

@[simp] theorem Store.revoke_partition_created (store : Store) (partition : Int) :
    (store.revoke_partition partition).created = store.created := rfl

@[simp] theorem Store.close_created (store : Store) : store.close.created = store.created := rfl

@[simp] theorem Store.mem_assign_partition (store : Store) (partition p : Int) :
    p ∈ (store.assign_partition partition).1.partitions ↔ p = partition ∨ p ∈ store.partitions := by
  unfold Store.assign_partition
  split <;> simp_all [or_comm, or_iff_left_of_imp]

@[simp] theorem Store.mem_revoke_partition (store : Store) (partition p : Int) :
    p ∈ (store.revoke_partition partition).partitions ↔ p ≠ partition ∧ p ∈ store.partitions := by
  simp [Store.revoke_partition, and_comm]

@[simp] theorem Store.close_partitions (store : Store) : store.close.partitions = [] := rfl

/-- Modelled from the spec (4.4): the replay of a store partition's changelog. -/
structure RecoveryPartition where
  topic : Option String
  store_name : String
  partition : Int
  committed_offset : Option Int
  deriving DecidableEq, Repr

/-- Modelled from the spec (4.4): the recovery manager, with the changelogs registered
    with it and the replays it holds for assigned store partitions. -/
structure RecoveryManager where
  changelogs : List ChangelogTopic
  recovery_partitions : List RecoveryPartition
  deriving DecidableEq, Repr

/-- Modelled from the spec: `register_changelog` records and returns the changelog topic. -/
def RecoveryManager.register_changelog (self : RecoveryManager) (topic_name : Option String)
    (store_name : String) (topic_config : Option TopicConfig) : RecoveryManager × ChangelogTopic :=
  let changelog : ChangelogTopic := ⟨topic_name, store_name, topic_config⟩
  ({ self with changelogs := self.changelogs ++ [changelog] }, changelog)

/-- Modelled from the spec: `assign_partition` enlists the replay of every given store
    partition, each with its topic's committed offset. -/
def RecoveryManager.assign_partition (self : RecoveryManager) (topic : Option String)
    (partition : Int) (committed_offsets : List (String × Int))
    (store_partitions : List (String × StorePartition)) : RecoveryManager :=
  { self with
    recovery_partitions := self.recovery_partitions ++ store_partitions.map fun item =>
      ⟨topic, item.1, partition, topic.bind (dict_get committed_offsets)⟩ }

/-- Modelled from the spec: `revoke_partition(partition_num)` abandons every replay on
    that partition number. -/
def RecoveryManager.revoke_partition (self : RecoveryManager) (partition_num : Int) :
    RecoveryManager :=
  { self with recovery_partitions := self.recovery_partitions.filter (·.partition ≠ partition_num) }

/-- Modelled from the spec: `has_assignments`. -/
def RecoveryManager.has_assignments (self : RecoveryManager) : Bool :=
  !self.recovery_partitions.isEmpty

/-- The exceptions the manager raises. -/
inductive StateError where
  | StoreNotRegisteredError (store_name : String) (topic : Option String)
  | WindowedStoreAlreadyRegisteredError
  | ValueError (store_type : StoreType)
  | PartitionStoreIsUsed
  deriving DecidableEq, Repr

/-- `str(value)` for an optional string. -/
def py_str : Option String → String
  | none => "None"
  | some text => text

/-- The message each exception is raised with. -/
def StateError.message : StateError → String
  | .StoreNotRegisteredError store_name topic =>
    "Store \"" ++ store_name ++ "\" (topic \"" ++ py_str topic ++ "\") is not registered"
  | .WindowedStoreAlreadyRegisteredError =>
    "This window range and type combination already exists; " ++
      "to use this window, provide a unique name via the `name` parameter."
  | .ValueError store_type => "invalid store type: " ++ store_type.str
  | .PartitionStoreIsUsed => "Cannot clear stores with active partitions assigned"

/-- Every message names what the error is about: the store and the topic that are not
    registered, and the invalid store type. -/
theorem StateError.message_names :
    (∀ store_name topic, store_name.data <:+: (StoreNotRegisteredError store_name topic).message.data ∧
      (py_str topic).data <:+: (StoreNotRegisteredError store_name topic).message.data) ∧
    ∀ store_type, store_type.str.data <:+: (ValueError store_type).message.data := by
  refine ⟨fun store_name topic => ⟨?_, ?_⟩, fun store_type => ?_⟩ <;>
    simp only [StateError.message, String.data_append, List.append_assoc]
  · exact List.infix_append' _ _ _
  · exact (List.infix_append' _ _ _).trans ((List.suffix_append _ _).trans (List.suffix_append _ _)).isInfix
  · exact (List.suffix_append _ _).isInfix

end quixstreams.state
