import QuixStreams.State.Base
import QuixStreams.Pathlib

namespace quixstreams.state

/-- `SUPPORTED_STORES`. -/
def SUPPORTED_STORES : List StoreType := [.RocksDBStore, .MemoryStore]

/-- `StateStoreManager`, with the attributes its modelled methods read. `producer` says
    whether a `RowProducer` was given. -/
structure StateStoreManager where
  state_dir : Option PosixPath
  stores : List (Option String × List (String × Store))
  producer : Bool
  recovery_manager : Option RecoveryManager
  default_store_type : StoreType

/-- `StateStoreManager.__init__`; `cwd` is the working directory `Path.absolute()` reads. -/
def StateStoreManager.init (cwd : String) (group_id state_dir : Option String)
    (producer : Bool) (recovery_manager : Option RecoveryManager)
    (default_store_type : StoreType) : StateStoreManager where
  state_dir := state_dir.map fun state_dir =>
    let state_dir := (PosixPath.of_str state_dir).absolute cwd
    match group_id with
    | some group_id => state_dir.div group_id
    | none => state_dir
  stores := []
  producer := producer
  recovery_manager := recovery_manager
  default_store_type := default_store_type

namespace StateStoreManager

/-- `str(self._state_dir)`, the `base_dir` of the RocksDB-backed stores. -/
def base_dir (self : StateStoreManager) : String :=
  match self.state_dir with
  | some state_dir => state_dir.str
  | none => "None"

/-- `self._stores.get(topic, {}).get(store_name)`. -/
def lookup_store (self : StateStoreManager) (topic : Option String) (store_name : String) :
    Option Store :=
  dict_get ((dict_get self.stores topic).getD []) store_name

/-- `self._stores.setdefault(topic_name, {})[store_name] = store`. -/
def setdefault_store (self : StateStoreManager) (topic_name : Option String)
    (store_name : String) (store : Store) : StateStoreManager :=
  { self with
    stores := dict_set self.stores topic_name
      (dict_set ((dict_get self.stores topic_name).getD []) store_name store) }

/-- `recovery_required`. -/
def recovery_required (self : StateStoreManager) : Bool :=
  match self.recovery_manager with
  | some recovery_manager => recovery_manager.has_assignments
  | none => false

/-- `using_changelogs`. -/
def using_changelogs (self : StateStoreManager) : Bool := self.recovery_manager.isSome

/-- `get_store`. -/
def get_store (self : StateStoreManager) (topic : Option String) (store_name : String) :
    Except StateError Store :=
  match self.lookup_store topic store_name with
  | some store => .ok store
  | none => .error (.StoreNotRegisteredError store_name topic)

/-- `_setup_changelogs`. -/
def setup_changelogs (self : StateStoreManager) (topic_name : Option String)
    (store_name : String) (topic_config : Option TopicConfig) :
    StateStoreManager × Option ChangelogProducerFactory :=
  match self.recovery_manager, self.producer with
  | some recovery_manager, true =>
    let (recovery_manager, changelog_topic) :=
      recovery_manager.register_changelog topic_name store_name topic_config
    ({ self with recovery_manager := some recovery_manager }, some ⟨changelog_topic.name⟩)
  | _, _ => (self, none)

/-- `register_store`. A raised exception keeps the changes made before it. -/
def register_store (self : StateStoreManager) (topic_name : Option String) (store_name : String)
    (store_type : Option StoreType) (topic_config : Option TopicConfig) :
    StateStoreManager × Except StateError Unit :=
  match self.lookup_store topic_name store_name with
  | some _ => (self, .ok ())
  | none =>
    let (self, changelog_producer_factory) := self.setup_changelogs topic_name store_name topic_config
    match store_type.getD self.default_store_type with
    | .RocksDBStore =>
      (self.setdefault_store topic_name store_name
        ⟨.RocksDBStore, store_name, topic_name, some self.base_dir, changelog_producer_factory, []⟩,
       .ok ())
    | .MemoryStore =>
      (self.setdefault_store topic_name store_name
        ⟨.MemoryStore, store_name, topic_name, none, changelog_producer_factory, []⟩, .ok ())
    | store_type => (self, .error (.ValueError store_type))

/-- `register_windowed_store`. Store objects are always truthy. -/
def register_windowed_store (self : StateStoreManager) (topic_name : Option String)
    (store_name : String) : StateStoreManager × Except StateError Unit :=
  match self.lookup_store topic_name store_name with
  | some _ => (self, .error .WindowedStoreAlreadyRegisteredError)
  | none =>
    let (self, changelog_producer_factory) := self.setup_changelogs topic_name store_name none
    (self.setdefault_store topic_name store_name
      ⟨.WindowedRocksDBStore, store_name, topic_name, some self.base_dir,
        changelog_producer_factory, []⟩, .ok ())

/-- `clear_stores`: the directory that `shutil.rmtree` removes, if any. -/
def clear_stores (self : StateStoreManager) : Except StateError (Option PosixPath) :=
  if self.stores.any fun topic_stores => topic_stores.2.any fun item => !item.2.partitions.isEmpty
  then .error .PartitionStoreIsUsed
  else .ok self.state_dir

/-- `on_partition_assign`: the stores of `topic` assign the partition in place. -/
def on_partition_assign (self : StateStoreManager) (topic : Option String) (partition : Int)
    (committed_offsets : List (String × Int)) :
    StateStoreManager × List (String × StorePartition) :=
  let store_partitions := dict_map_values ((dict_get self.stores topic).getD []) fun store =>
    (store.assign_partition partition).2
  let self := { self with
    stores := dict_update self.stores topic fun topic_stores =>
      dict_map_values topic_stores fun store => (store.assign_partition partition).1 }
  match self.recovery_manager, store_partitions with
  | some recovery_manager, _ :: _ =>
    ({ self with
        recovery_manager := some (recovery_manager.assign_partition topic partition
          committed_offsets store_partitions) }, store_partitions)
  | _, _ => (self, store_partitions)

/-- `on_partition_revoke`: the recovery manager hears only the partition number. -/
def on_partition_revoke (self : StateStoreManager) (topic : Option String) (partition : Int) :
    StateStoreManager :=
  match (dict_get self.stores topic).getD [] with
  | [] => self
  | _ :: _ =>
    { self with
      recovery_manager := self.recovery_manager.map (·.revoke_partition partition)
      stores := dict_update self.stores topic fun topic_stores =>
        dict_map_values topic_stores (·.revoke_partition partition) }

/-- `close`: every registered store is closed. -/
def close (self : StateStoreManager) : StateStoreManager :=
  { self with
    stores := dict_map_values self.stores fun topic_stores => dict_map_values topic_stores Store.close }

end StateStoreManager

/-- The calls a caller can make on a manager. -/
inductive Op where
  | register_store (topic_name : Option String) (store_name : String)
      (store_type : Option StoreType) (topic_config : Option TopicConfig)
  | register_windowed_store (topic_name : Option String) (store_name : String)
  | on_partition_assign (topic : Option String) (partition : Int)
      (committed_offsets : List (String × Int))
  | on_partition_revoke (topic : Option String) (partition : Int)
  | clear_stores
  | close
  deriving DecidableEq, Repr

namespace StateStoreManager

/-- One call, with the state it leaves and whether it returned or raised. -/
def call (self : StateStoreManager) : Op → StateStoreManager × Except StateError Unit
  | .register_store topic_name store_name store_type topic_config =>
    self.register_store topic_name store_name store_type topic_config
  | .register_windowed_store topic_name store_name => self.register_windowed_store topic_name store_name
  | .on_partition_assign topic partition committed_offsets =>
    ((self.on_partition_assign topic partition committed_offsets).1, .ok ())
  | .on_partition_revoke topic partition => (self.on_partition_revoke topic partition, .ok ())
  | .clear_stores => (self, (self.clear_stores).map fun _ => ())
  | .close => (self.close, .ok ())

/-- A sequence of calls; a raised exception is caught and the next call made. -/
def run (self : StateStoreManager) (ops : List Op) : StateStoreManager :=
  ops.foldl (fun manager op => (manager.call op).1) self

@[simp] theorem run_nil (self : StateStoreManager) : self.run [] = self := rfl

@[simp] theorem run_append (self : StateStoreManager) (ops ops' : List Op) :
    self.run (ops ++ ops') = (self.run ops).run ops' := List.foldl_append _ _ _ _

@[simp] theorem run_cons (self : StateStoreManager) (op : Op) (ops : List Op) :
    self.run (op :: ops) = (self.call op).1.run ops := rfl

section lookup

variable (m : StateStoreManager)

/-- `_setup_changelogs` writes only the recovery manager, and keeps it set. -/
theorem setup_changelogs_writes (t : Option String) (s : String) (c : Option TopicConfig) :
    ∃ recovery_manager, (m.setup_changelogs t s c).1 = { m with recovery_manager := recovery_manager } ∧
      recovery_manager.isSome = m.recovery_manager.isSome := by
  unfold setup_changelogs
  split
  · rename_i h _; exact ⟨_, rfl, by simp [h]⟩
  · exact ⟨m.recovery_manager, rfl, rfl⟩

@[simp] theorem setup_changelogs_stores (t : Option String) (s : String) (c : Option TopicConfig) :
    (m.setup_changelogs t s c).1.stores = m.stores := by
  obtain ⟨_, h, -⟩ := m.setup_changelogs_writes t s c; rw [h]

@[simp] theorem setup_changelogs_state_dir (t : Option String) (s : String)
    (c : Option TopicConfig) : (m.setup_changelogs t s c).1.state_dir = m.state_dir := by
  obtain ⟨_, h, -⟩ := m.setup_changelogs_writes t s c; rw [h]

@[simp] theorem setup_changelogs_default_store_type (t : Option String) (s : String)
    (c : Option TopicConfig) :
    (m.setup_changelogs t s c).1.default_store_type = m.default_store_type := by
  obtain ⟨_, h, -⟩ := m.setup_changelogs_writes t s c; rw [h]

@[simp] theorem base_dir_setup_changelogs (t : Option String) (s : String)
    (c : Option TopicConfig) : (m.setup_changelogs t s c).1.base_dir = m.base_dir := by
  simp only [base_dir, setup_changelogs_state_dir]

@[simp] theorem lookup_store_setup_changelogs (t : Option String) (s : String)
    (c : Option TopicConfig) (t' : Option String) (s' : String) :
    (m.setup_changelogs t s c).1.lookup_store t' s' = m.lookup_store t' s' := by
  simp only [lookup_store, setup_changelogs_stores]

@[simp] theorem lookup_store_setdefault_store (t : Option String) (s : String) (store : Store)
    (t' : Option String) (s' : String) :
    (m.setdefault_store t s store).lookup_store t' s' =
      if t = t' ∧ s = s' then some store else m.lookup_store t' s' := by
  unfold lookup_store setdefault_store
  by_cases ht : t = t' <;> by_cases hs : s = s' <;> simp [ht, hs]

/-- The store `register_store` builds for a pair that is not yet registered. -/
def new_store (t : Option String) (s : String) (store_type : Option StoreType)
    (c : Option TopicConfig) : Option Store :=
  match store_type.getD m.default_store_type with
  | .RocksDBStore =>
    some ⟨.RocksDBStore, s, t, some m.base_dir, (m.setup_changelogs t s c).2, []⟩
  | .MemoryStore => some ⟨.MemoryStore, s, t, none, (m.setup_changelogs t s c).2, []⟩
  | _ => none

theorem new_store_isSome_iff (t : Option String) (s : String) (store_type : Option StoreType)
    (c : Option TopicConfig) :
    (m.new_store t s store_type c).isSome ↔ store_type.getD m.default_store_type ∈ SUPPORTED_STORES := by
  unfold new_store SUPPORTED_STORES; split <;> simp_all

theorem register_store_of_lookup_store {t : Option String} {s : String} {store : Store}
    (h : m.lookup_store t s = some store) (store_type : Option StoreType)
    (c : Option TopicConfig) : m.register_store t s store_type c = (m, .ok ()) := by
  simp [register_store, h]

@[simp] theorem lookup_store_register_store (t : Option String) (s : String)
    (store_type : Option StoreType) (c : Option TopicConfig) (t' : Option String) (s' : String) :
    (m.register_store t s store_type c).1.lookup_store t' s' =
      if t = t' ∧ s = s' then (m.lookup_store t s).or (m.new_store t s store_type c)
      else m.lookup_store t' s' := by
  cases hlookup : m.lookup_store t s with
  | some store =>
    rw [register_store_of_lookup_store m hlookup]
    split_ifs with h
    · obtain ⟨rfl, rfl⟩ := h; simp [hlookup]
    · rfl
  | none =>
    unfold register_store new_store
    simp only [hlookup, Option.none_or]
    split <;> split_ifs with h <;> simp_all

theorem register_store_result (t : Option String) (s : String) (store_type : Option StoreType)
    (c : Option TopicConfig) :
    (m.register_store t s store_type c).2 =
      if m.lookup_store t s = none ∧ store_type.getD m.default_store_type ∉ SUPPORTED_STORES
      then .error (.ValueError (store_type.getD m.default_store_type)) else .ok () := by
  cases hlookup : m.lookup_store t s with
  | some store => simp [register_store_of_lookup_store m hlookup]
  | none =>
    unfold register_store SUPPORTED_STORES
    simp only [hlookup, setup_changelogs_default_store_type]
    split <;> simp_all

@[simp] theorem lookup_store_register_windowed_store (t : Option String) (s : String)
    (t' : Option String) (s' : String) :
    (m.register_windowed_store t s).1.lookup_store t' s' =
      if t = t' ∧ s = s' then
        (m.lookup_store t s).or (some ⟨.WindowedRocksDBStore, s, t, some m.base_dir,
          (m.setup_changelogs t s none).2, []⟩)
      else m.lookup_store t' s' := by
  unfold register_windowed_store
  cases hlookup : m.lookup_store t s with
  | some store =>
    split_ifs with h
    · obtain ⟨rfl, rfl⟩ := h; simp [hlookup]
    · rfl
  | none => simp_all

theorem register_windowed_store_result (t : Option String) (s : String) :
    (m.register_windowed_store t s).2 =
      if m.lookup_store t s = none then .ok () else .error .WindowedStoreAlreadyRegisteredError := by
  unfold register_windowed_store; split <;> simp_all

theorem getD_map_values {κ : Type} (o : Option (List (κ × Store))) (f : Store → Store) :
    ((o.map fun d => dict_map_values d f).getD []) = dict_map_values (o.getD []) f := by
  cases o <;> rfl

@[simp] theorem on_partition_assign_stores (t : Option String) (p : Int)
    (offsets : List (String × Int)) :
    (m.on_partition_assign t p offsets).1.stores =
      dict_update m.stores t fun d => dict_map_values d fun store => (store.assign_partition p).1 := by
  unfold on_partition_assign; dsimp only; split <;> rfl

@[simp] theorem lookup_store_on_partition_assign (t : Option String) (p : Int)
    (offsets : List (String × Int)) (t' : Option String) (s' : String) :
    (m.on_partition_assign t p offsets).1.lookup_store t' s' =
      (m.lookup_store t' s').map fun store => if t = t' then (store.assign_partition p).1 else store := by
  unfold lookup_store
  by_cases ht : t = t' <;> simp [ht, getD_map_values]

@[simp] theorem lookup_store_on_partition_revoke (t : Option String) (p : Int)
    (t' : Option String) (s' : String) :
    (m.on_partition_revoke t p).lookup_store t' s' =
      (m.lookup_store t' s').map fun store => if t = t' then store.revoke_partition p else store := by
  unfold on_partition_revoke lookup_store
  split
  · by_cases ht : t = t'
    · subst ht; simp_all
    · simp [ht]
  · by_cases ht : t = t' <;> simp [ht, getD_map_values]

@[simp] theorem lookup_store_close (t : Option String) (s : String) :
    m.close.lookup_store t s = (m.lookup_store t s).map Store.close := by
  simp [close, lookup_store, getD_map_values]

end lookup

section writes

variable (m : StateStoreManager)

/-- A call writes only the stores and the recovery manager, and neither sets nor unsets the
    recovery manager. -/
theorem call_writes (op : Op) : ∃ stores recovery_manager,
    (m.call op).1 = { m with stores := stores, recovery_manager := recovery_manager } ∧
      recovery_manager.isSome = m.recovery_manager.isSome := by
  cases op with
  | register_store t s store_type c =>
    obtain ⟨rm, hsetup, hrm⟩ := m.setup_changelogs_writes t s c
    simp only [call, register_store]
    split
    · exact ⟨_, _, rfl, rfl⟩
    · rw [hsetup]
      split <;> exact ⟨_, _, rfl, hrm⟩
  | register_windowed_store t s =>
    obtain ⟨rm, hsetup, hrm⟩ := m.setup_changelogs_writes t s none
    simp only [call, register_windowed_store]
    split
    · exact ⟨_, _, rfl, rfl⟩
    · rw [hsetup]
      exact ⟨_, _, rfl, hrm⟩
  | on_partition_assign t p offsets =>
    simp only [call, on_partition_assign]
    split
    · exact ⟨_, _, rfl, by simp_all⟩
    · exact ⟨_, _, rfl, rfl⟩
  | on_partition_revoke t p =>
    simp only [call, on_partition_revoke]
    split
    · exact ⟨_, _, rfl, rfl⟩
    · exact ⟨_, _, rfl, by simp⟩
  | clear_stores => exact ⟨_, _, rfl, rfl⟩
  | close => exact ⟨_, _, rfl, rfl⟩

variable (op : Op)

@[simp] theorem state_dir_call : (m.call op).1.state_dir = m.state_dir := by
  obtain ⟨_, _, h, -⟩ := m.call_writes op; rw [h]

@[simp] theorem producer_call : (m.call op).1.producer = m.producer := by
  obtain ⟨_, _, h, -⟩ := m.call_writes op; rw [h]

@[simp] theorem default_store_type_call : (m.call op).1.default_store_type = m.default_store_type := by
  obtain ⟨_, _, h, -⟩ := m.call_writes op; rw [h]

@[simp] theorem recovery_manager_isSome_call :
    (m.call op).1.recovery_manager.isSome = m.recovery_manager.isSome := by
  obtain ⟨_, _, h, hrm⟩ := m.call_writes op; rw [h, hrm]

/-- A call that raises leaves the manager as it was, except the `ValueError` of `register_store`,
    which is raised after `_setup_changelogs` has run. -/
theorem call_eq_of_error {e : StateError} (h : (m.call op).2 = .error e)
    (hvalue : ∀ store_type, e ≠ .ValueError store_type) : (m.call op).1 = m := by
  cases op with
  | register_store t s store_type c =>
    rw [call, register_store_result] at h
    split_ifs at h
    cases h
    exact absurd rfl (hvalue _)
  | register_windowed_store t s =>
    cases hlookup : m.lookup_store t s with
    | none => simp [call, register_windowed_store_result, hlookup] at h
    | some store => simp [call, register_windowed_store, hlookup]
  | on_partition_assign | on_partition_revoke | close => cases h
  | clear_stores => rfl

end writes

end StateStoreManager

end quixstreams.state
