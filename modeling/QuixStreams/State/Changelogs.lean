import QuixStreams.State.Registration

namespace quixstreams.state

namespace StateStoreManager

/-- Whether `_setup_changelogs` registers changelogs: a recovery manager and a producer
    were both given. No method changes either. -/
def changelogs_enabled (m : StateStoreManager) : Bool := m.recovery_manager.isSome && m.producer

/-- What a registered store records about itself: its name, its topic, and the changelog
    producer factory of its own pair when changelogs are enabled. -/
def StoreFits (m : StateStoreManager) (t : Option String) (s : String) (store : Store) : Prop :=
  store.name = s ∧ store.topic = t ∧
    store.changelog_producer_factory = if m.changelogs_enabled then some ⟨(t, s)⟩ else none

/-- Every registered store fits the pair it is registered under. -/
def RegistryWF (m : StateStoreManager) : Prop :=
  ∀ t s store, m.lookup_store t s = some store → m.StoreFits t s store

variable (m : StateStoreManager) (op : Op) (t : Option String) (s : String)

theorem setup_changelogs_factory (c : Option TopicConfig) :
    (m.setup_changelogs t s c).2 = if m.changelogs_enabled then some ⟨(t, s)⟩ else none := by
  unfold setup_changelogs changelogs_enabled
  cases m.recovery_manager <;> cases m.producer <;> rfl

@[simp] theorem changelogs_enabled_call : (m.call op).1.changelogs_enabled = m.changelogs_enabled := by
  simp [changelogs_enabled]

theorem StoreFits.of_created {store store' : Store} (h : m.StoreFits t s store)
    (hsame : store'.created = store.created) : m.StoreFits t s store' := by
  have hfields := congrArg (fun store : Store => (store.name, store.topic, store.changelog_producer_factory)) hsame
  simp only [Store.created, Prod.mk.injEq] at hfields
  exact ⟨hfields.1.trans h.1, hfields.2.1.trans h.2.1, hfields.2.2.trans h.2.2⟩

/-- Every call keeps each registered store fitting its pair. -/
theorem RegistryWF.call (h : m.RegistryWF) : (m.call op).1.RegistryWF := by
  intro t s store' h'
  unfold StoreFits
  rw [changelogs_enabled_call]
  cases hlookup : m.lookup_store t s with
  | some store =>
    obtain ⟨store'', h'', hsame⟩ := created_lookup_store_call m op t s hlookup
    rw [h'] at h''
    cases h''
    exact (h t s store hlookup).of_created m t s hsame
  | none =>
    obtain ⟨hname, htopic, -, ⟨c, hfactory⟩, -⟩ := created_store_call m op t s hlookup h'
    exact ⟨hname, htopic, hfactory.trans (setup_changelogs_factory m t s c)⟩

theorem RegistryWF.run (h : m.RegistryWF) (ops : List Op) : (m.run ops).RegistryWF := by
  induction ops generalizing m with
  | nil => exact h
  | cons op ops ih => exact ih _ (h.call m op)

@[simp] theorem changelogs_enabled_run (ops : List Op) :
    (m.run ops).changelogs_enabled = m.changelogs_enabled := by
  induction ops generalizing m with
  | nil => rfl
  | cons op ops ih => rw [run_cons, ih, changelogs_enabled_call]

/-- Every store `get_store` returns, after any run from a new manager, was built for its own
    name and topic, and with the changelog producer factory of its own pair's changelog topic
    exactly when a recovery manager and a producer were given. -/
theorem get_store_changelog_producer_factory (cwd : String)
    (group_id state_dir : Option String) (producer : Bool)
    (recovery_manager : Option RecoveryManager) (default_store_type : StoreType) (ops : List Op)
    (store : Store) :
    ((init cwd group_id state_dir producer recovery_manager default_store_type).run ops).get_store t s
        = .ok store →
      store.name = s ∧ store.topic = t ∧ store.changelog_producer_factory =
        if recovery_manager.isSome && producer then some ⟨(t, s)⟩ else none := by
  intro hget
  have hwf := RegistryWF.run (init cwd group_id state_dir producer recovery_manager default_store_type)
    (fun _ _ _ h => by simp at h) ops
  have hlookup : ((init cwd group_id state_dir producer recovery_manager default_store_type).run
      ops).lookup_store t s = some store := by
    unfold get_store at hget; split at hget <;> simp_all
  obtain ⟨hname, htopic, hfactory⟩ := hwf t s store hlookup
  rw [changelogs_enabled_run] at hfactory
  exact ⟨hname, htopic, hfactory⟩

theorem get_store_changelog_producer_factory_registered :
    let store : Store := ⟨.RocksDBStore, "s", some "t", some "None", some ⟨(some "t", "s")⟩, []⟩
    ((init "/" none none true (some ⟨[], []⟩) .RocksDBStore).run
        [.register_store (some "t") "s" none none]).get_store (some "t") "s" = .ok store ∧
      store.name = "s" ∧ store.topic = some "t" ∧ store.changelog_producer_factory =
        if (some (⟨[], []⟩ : RecoveryManager)).isSome && true then some ⟨(some "t", "s")⟩ else none :=
  ⟨rfl, get_store_changelog_producer_factory (some "t") "s" "/" none none true (some ⟨[], []⟩)
    .RocksDBStore [.register_store (some "t") "s" none none] _ rfl⟩

end StateStoreManager

/-- `register_store` sets up the pair's changelog before it checks the store type: a call
    naming an unsupported class raises `ValueError` and leaves a changelog for a store that
    does not exist, and the next registration of the pair sets up a second one. -/
theorem register_store_value_error_keeps_changelog :
    (StateStoreManager.init "/" none none true (some ⟨[], []⟩) .RocksDBStore).register_store
        (some "t") "s" (some .WindowedRocksDBStore) none =
      ({ state_dir := none, stores := [], producer := true,
         recovery_manager := some ⟨[⟨some "t", "s", none⟩], []⟩, default_store_type := .RocksDBStore },
       .error (.ValueError .WindowedRocksDBStore)) ∧
    ({ state_dir := none, stores := [], producer := true,
       recovery_manager := some ⟨[⟨some "t", "s", none⟩], []⟩,
       default_store_type := .RocksDBStore } : StateStoreManager).register_store (some "t") "s" none none =
      ({ state_dir := none,
         stores := [(some "t", [("s", ⟨.RocksDBStore, "s", some "t", some "None", some ⟨(some "t", "s")⟩, []⟩)])],
         producer := true,
         recovery_manager := some ⟨[⟨some "t", "s", none⟩, ⟨some "t", "s", none⟩], []⟩,
         default_store_type := .RocksDBStore }, .ok ()) :=
  ⟨rfl, rfl⟩

/-- `op` names no store type outside `SUPPORTED_STORES`. -/
def Op.Supported : Op → Prop
  | .register_store _ _ (some store_type) _ => store_type ∈ SUPPORTED_STORES
  | _ => True

namespace StateStoreManager

/-- How many changelogs the recovery manager holds for the pair `(t, s)`. -/
def changelog_count (m : StateStoreManager) (t : Option String) (s : String) : Nat :=
  (m.recovery_manager.map fun rm => (rm.changelogs.filter (·.name = (t, s))).length).getD 0

/-- Every pair with a store has exactly one changelog, and no other pair has one. -/
def ChangelogsExact (m : StateStoreManager) : Prop :=
  ∀ t s, m.changelog_count t s = if (m.lookup_store t s).isSome then 1 else 0

variable (m : StateStoreManager) (op : Op) (t : Option String) (s : String)

theorem changelog_count_setup_changelogs (c : Option TopicConfig) (t' : Option String) (s' : String) :
    (m.setup_changelogs t s c).1.changelog_count t' s' =
      m.changelog_count t' s' + if m.changelogs_enabled ∧ t = t' ∧ s = s' then 1 else 0 := by
  unfold setup_changelogs changelog_count changelogs_enabled
  split
  · by_cases h : t = t' ∧ s = s' <;>
      simp_all [RecoveryManager.register_changelog, List.filter_append, ChangelogTopic.name]
  · rename_i hnone
    cases hrm : m.recovery_manager <;> cases hproducer : m.producer <;> simp_all

@[simp] theorem changelog_count_setdefault_store (store : Store) (t' : Option String) (s' : String) :
    (m.setdefault_store t s store).changelog_count t' s' = m.changelog_count t' s' := rfl

/-- A call adds a changelog for a pair exactly when it registers the pair while it has no store
    and changelogs are enabled, whether or not the call then raises. -/
theorem changelog_count_call :
    (m.call op).1.changelog_count t s = m.changelog_count t s +
      if m.changelogs_enabled ∧ op.Registers t s ∧ m.lookup_store t s = none then 1 else 0 := by
  cases op with
  | register_store t' s' store_type c =>
    by_cases hts : t' = t ∧ s' = s
    · obtain ⟨rfl, rfl⟩ := hts
      cases hlookup : m.lookup_store t' s' with
      | some store => simp [call, register_store_of_lookup_store m hlookup]
      | none =>
        simp only [call, register_store, hlookup]
        split <;> simp [changelog_count_setup_changelogs, Op.Registers]
    · have hother : ¬ (m.changelogs_enabled ∧ t' = t ∧ s' = s) := fun h => hts h.2
      simp only [call, register_store, Op.Registers, hts, false_and, and_false, if_false]
      split
      · rfl
      · split <;> simp [changelog_count_setup_changelogs, hother]
  | register_windowed_store t' s' =>
    by_cases hts : t' = t ∧ s' = s
    · obtain ⟨rfl, rfl⟩ := hts
      cases hlookup : m.lookup_store t' s' with
      | some store => simp [call, register_windowed_store, hlookup]
      | none => simp [call, register_windowed_store, hlookup, changelog_count_setup_changelogs, Op.Registers]
    · have hother : ¬ (m.changelogs_enabled ∧ t' = t ∧ s' = s) := fun h => hts h.2
      simp only [call, register_windowed_store, Op.Registers, hts, false_and, and_false, if_false]
      split
      · rfl
      · simp [changelog_count_setup_changelogs, hother]
  | on_partition_assign t' p offsets =>
    simp only [call, on_partition_assign, Op.Registers]
    split <;> simp [changelog_count, RecoveryManager.assign_partition, *]
  | on_partition_revoke t' p =>
    simp only [call, on_partition_revoke, Op.Registers]
    split
    · simp
    · cases hrm : m.recovery_manager <;> simp [changelog_count, RecoveryManager.revoke_partition, hrm]
  | clear_stores => simp [call, Op.Registers]
  | close => simp [call, Op.Registers, changelog_count, close]

/-- With supported types only, a registering call on a pair without a store returns normally. -/
theorem call_ok_of_supported (hdefault : m.default_store_type ∈ SUPPORTED_STORES)
    (hop : op.Supported) (hregisters : op.Registers t s) (hlookup : m.lookup_store t s = none) :
    (m.call op).2 = .ok () := by
  cases op with
  | register_store t' s' store_type c =>
    obtain ⟨rfl, rfl⟩ := hregisters
    have htype : store_type.getD m.default_store_type ∈ SUPPORTED_STORES := by
      cases store_type with
      | none => exact hdefault
      | some store_type => exact hop
    simp [call, register_store_result, htype]
  | register_windowed_store t' s' =>
    obtain ⟨rfl, rfl⟩ := hregisters
    simp [call, register_windowed_store_result, hlookup]
  | _ => simp [Op.Registers] at hregisters

theorem ChangelogsExact.call (h : m.ChangelogsExact) (henabled : m.changelogs_enabled)
    (hdefault : m.default_store_type ∈ SUPPORTED_STORES) (hop : op.Supported) :
    (m.call op).1.ChangelogsExact := by
  intro t s
  rw [changelog_count_call, h t s]
  have hisSome := lookup_store_call_isSome m op t s
  cases hlookup : m.lookup_store t s with
  | some store => simp_all
  | none =>
    by_cases hregisters : op.Registers t s
    · simp_all [call_ok_of_supported m op t s hdefault hop hregisters hlookup]
    · simp_all

theorem ChangelogsExact.run (h : m.ChangelogsExact) (henabled : m.changelogs_enabled)
    (hdefault : m.default_store_type ∈ SUPPORTED_STORES) (ops : List Op)
    (hops : ∀ op ∈ ops, op.Supported) : (m.run ops).ChangelogsExact := by
  induction ops generalizing m with
  | nil => exact h
  | cons op ops ih =>
    exact ih _ (h.call m op henabled hdefault (hops op (List.mem_cons_self _ _)))
      (by rwa [changelogs_enabled_call]) (by rwa [default_store_type_call])
      fun op' hop' => hops op' (List.mem_cons_of_mem _ hop')

/-- From a new manager with a producer, a fresh recovery manager and a supported default store
    type, after any calls naming only supported store types, the recovery manager has received
    `register_changelog` exactly once for each pair that `get_store` resolves and never for
    another pair. -/
theorem changelogs_exactly_once (cwd : String) (group_id state_dir : Option String)
    (recovery_manager : RecoveryManager) (hfresh : recovery_manager.changelogs = [])
    (default_store_type : StoreType) (hdefault : default_store_type ∈ SUPPORTED_STORES)
    (ops : List Op) (hops : ∀ op ∈ ops, op.Supported) :
    let m := (init cwd group_id state_dir true (some recovery_manager) default_store_type).run ops
    ∀ t s, m.changelog_count t s = if (m.lookup_store t s).isSome then 1 else 0 :=
  ChangelogsExact.run _ (fun t s => by simp [changelog_count, hfresh, init, lookup_store])
    (by simp [changelogs_enabled, init]) hdefault ops hops

theorem changelogs_exactly_once_two_stores :
    ([] : List ChangelogTopic) = [] ∧ StoreType.MemoryStore ∈ SUPPORTED_STORES ∧
    (∀ op ∈ [Op.register_store (some "t") "s" none none, .register_windowed_store (some "t") "w",
        .register_store (some "t") "s" (some .RocksDBStore) none], op.Supported) ∧
    let m := (init "/" none none true (some ⟨[], []⟩) .MemoryStore).run
      [.register_store (some "t") "s" none none, .register_windowed_store (some "t") "w",
        .register_store (some "t") "s" (some .RocksDBStore) none]
    ∀ t s, m.changelog_count t s = if (m.lookup_store t s).isSome then 1 else 0 :=
  have hops : ∀ op ∈ [Op.register_store (some "t") "s" none none, .register_windowed_store (some "t") "w",
      .register_store (some "t") "s" (some .RocksDBStore) none], op.Supported := by
    simp [Op.Supported, SUPPORTED_STORES]
  ⟨rfl, by simp [SUPPORTED_STORES], hops,
    changelogs_exactly_once "/" none none ⟨[], []⟩ rfl .MemoryStore (by simp [SUPPORTED_STORES]) _ hops⟩

end StateStoreManager

end quixstreams.state
