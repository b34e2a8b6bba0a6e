import QuixStreams.State.Assignment

namespace quixstreams.state

/-- The replays the recovery manager holds for the store partitions `partition` of `topic`. -/
def RecoveryManager.replays (rm : RecoveryManager) (topic : Option String) (partition : Int) :
    List RecoveryPartition :=
  rm.recovery_partitions.filter fun rp => rp.topic = topic ∧ rp.partition = partition

@[simp] theorem RecoveryManager.replays_revoke_partition (rm : RecoveryManager) (p : Int)
    (t : Option String) (q : Int) :
    (rm.revoke_partition p).replays t q = if q = p then [] else rm.replays t q := by
  unfold replays revoke_partition
  split_ifs with hq
  · subst hq
    simp only [List.filter_filter, List.filter_eq_nil_iff]
    intro rp _
    simp only [Bool.and_eq_true, decide_eq_true_eq, ne_eq, not_and]
    exact fun h => not_not_intro h.2
  · simp only [List.filter_filter]
    congr 1
    funext rp
    by_cases h : rp.partition = q <;> simp [h, hq]

namespace StateStoreManager

variable (m : StateStoreManager) (t : Option String) (p : Int)

theorem topic_stores_eq_nil_iff :
    (dict_get m.stores t).getD [] = [] ↔ ∀ s, m.lookup_store t s = none := by
  unfold lookup_store
  constructor
  · intro h s; rw [h]; rfl
  · intro h
    cases hstores : (dict_get m.stores t).getD [] with
    | nil => rfl
    | cons item items =>
      have := h item.1
      rw [hstores] at this
      simp [dict_get] at this

/-- `on_partition_revoke` on a topic with no store does nothing. -/
theorem on_partition_revoke_of_no_store (h : ∀ s, m.lookup_store t s = none) :
    m.on_partition_revoke t p = m := by
  unfold on_partition_revoke
  rw [(topic_stores_eq_nil_iff m t).mpr h]

/-- On a topic with a store, the recovery manager is told only the partition number. -/
theorem on_partition_revoke_recovery_manager (h : ∃ s, (m.lookup_store t s).isSome) :
    (m.on_partition_revoke t p).recovery_manager =
      m.recovery_manager.map (·.revoke_partition p) := by
  unfold on_partition_revoke
  split
  · obtain ⟨s, hs⟩ := h
    rename_i hnil
    rw [(topic_stores_eq_nil_iff m t).mp hnil s] at hs
    cases hs
  · rfl

/-- `on_partition_revoke(t, p)` hands the recovery manager the partition number alone, the
    same call for every topic that has a store, so with the spec's recovery manager every
    replay of partition `p` is abandoned, another topic's included, and the replays of other
    partitions are kept; the stores of other topics are left as they are. -/
theorem on_partition_revoke_abandons_partition_number :
    (∀ t', (∃ s, (m.lookup_store t s).isSome) → (∃ s, (m.lookup_store t' s).isSome) →
      (m.on_partition_revoke t p).recovery_manager = (m.on_partition_revoke t' p).recovery_manager) ∧
    (∀ t', t' ≠ t → ∀ s, (m.on_partition_revoke t p).lookup_store t' s = m.lookup_store t' s) ∧
    (∀ rm, m.recovery_manager = some rm → (∃ s, (m.lookup_store t s).isSome) →
      ∀ t' q, (m.on_partition_revoke t p).recovery_manager.map (·.replays t' q) =
        some (if q = p then [] else rm.replays t' q)) := by
  refine ⟨fun t' h h' => ?_, fun t' hne s => ?_, fun rm hrm h t' q => ?_⟩
  · rw [on_partition_revoke_recovery_manager m t p h, on_partition_revoke_recovery_manager m t' p h']
  · simp [Ne.symm hne]
  · simp [on_partition_revoke_recovery_manager m t p h, hrm]

end StateStoreManager

/-- Revoking partition 0 of topic `a` also abandons the replay of partition 0 of topic `b`,
    though both topics have a store holding partition 0 under recovery. -/
theorem on_partition_revoke_drops_other_topic_replay :
    let m := (StateStoreManager.init "/" none none true (some ⟨[], []⟩) .MemoryStore).run
      [.register_store (some "a") "s" none none, .register_store (some "b") "s" none none,
        .on_partition_assign (some "a") 0 [], .on_partition_assign (some "b") 0 []]
    m.Holds (some "a") "s" 0 ∧ m.Holds (some "b") "s" 0 ∧
    m.recovery_manager.map (·.replays (some "a") 0) = some [⟨some "a", "s", 0, none⟩] ∧
    m.recovery_manager.map (·.replays (some "b") 0) = some [⟨some "b", "s", 0, none⟩] ∧
    (m.on_partition_revoke (some "a") 0).recovery_manager.map (·.replays (some "b") 0) = some [] :=
  ⟨⟨_, rfl, by decide⟩, ⟨_, rfl, by decide⟩, by decide, by decide, by decide⟩

namespace StateStoreManager

variable (m : StateStoreManager)

/-- Every replay the recovery manager holds is of a partition the registered store of its topic
    and name holds. -/
def ReplaysHeld : Prop :=
  ∀ rm, m.recovery_manager = some rm → ∀ rp ∈ rm.recovery_partitions,
    m.Holds rp.topic rp.store_name rp.partition

theorem recovery_partitions_setup_changelogs (t : Option String) (s : String)
    (c : Option TopicConfig) :
    (m.setup_changelogs t s c).1.recovery_manager.map (·.recovery_partitions) =
      m.recovery_manager.map (·.recovery_partitions) := by
  unfold setup_changelogs; split <;> simp_all [RecoveryManager.register_changelog]

/-- Registrations leave the replays as they are. -/
theorem recovery_partitions_call_registers (t : Option String) (s : String) {op : Op}
    (hop : op.Registers t s) :
    (m.call op).1.recovery_manager.map (·.recovery_partitions) =
      m.recovery_manager.map (·.recovery_partitions) := by
  cases op with
  | register_store t s store_type c =>
    simp only [call, register_store]
    split
    · rfl
    · split <;> simpa [setdefault_store] using m.recovery_partitions_setup_changelogs t s c
  | register_windowed_store t s =>
    simp only [call, register_windowed_store]
    split
    · rfl
    · simpa [setdefault_store] using m.recovery_partitions_setup_changelogs t s none
  | _ => exact hop.elim

/-- `on_partition_assign` hands the recovery manager a replay for each store of the topic. -/
theorem on_partition_assign_recovery_manager (t : Option String) (p : Int)
    (offsets : List (String × Int)) :
    (m.on_partition_assign t p offsets).1.recovery_manager =
      m.recovery_manager.map fun rm => rm.assign_partition t p offsets
        (dict_map_values ((dict_get m.stores t).getD []) fun store =>
          (store.assign_partition p).2) := by
  unfold on_partition_assign
  dsimp only
  split
  · rename_i rm _ _ hrm _; simp [hrm]
  · rename_i hnot
    cases hrm : m.recovery_manager with
    | none => rfl
    | some rm =>
      cases hpartitions : dict_map_values ((dict_get m.stores t).getD []) fun store =>
          (store.assign_partition p).2 with
      | nil => simp [RecoveryManager.assign_partition, hpartitions]
      | cons item items => exact absurd hpartitions (hnot rm item items hrm)

theorem ReplaysHeld.call (h : m.ReplaysHeld) (op : Op) (hop : op ≠ .close) :
    (m.call op).1.ReplaysHeld := by
  intro rm' h' rp hrp
  rw [holds_call]
  have hkept : ∀ {rm : RecoveryManager}, m.recovery_manager = some rm →
      rp ∈ rm.recovery_partitions → ¬ op.Revokes rp.topic rp.partition →
      (op.Assigns rp.topic rp.partition ∧ (m.lookup_store rp.topic rp.store_name).isSome) ∨
        (m.Holds rp.topic rp.store_name rp.partition ∧ ¬ op.Revokes rp.topic rp.partition) :=
    fun hrm hrp hrevokes => .inr ⟨h _ hrm rp hrp, hrevokes⟩
  have hsame : (m.call op).1.recovery_manager.map (·.recovery_partitions) =
      m.recovery_manager.map (·.recovery_partitions) → ∃ rm, m.recovery_manager = some rm ∧
        rp ∈ rm.recovery_partitions := fun hsame => by
    cases hrm : m.recovery_manager with
    | none => simp [h', hrm] at hsame
    | some rm =>
      simp only [h', hrm, Option.map_some', Option.some.injEq] at hsame
      exact ⟨rm, rfl, hsame ▸ hrp⟩
  cases op with
  | register_store t s _ _ | register_windowed_store t s =>
    obtain ⟨rm, hrm, hrp⟩ := hsame (m.recovery_partitions_call_registers t s ⟨rfl, rfl⟩)
    exact hkept hrm hrp (by simp [Op.Revokes])
  | on_partition_assign t p offsets =>
    simp only [StateStoreManager.call, on_partition_assign_recovery_manager,
      Option.map_eq_some'] at h'
    obtain ⟨rm, hrm, rfl⟩ := h'
    simp only [RecoveryManager.assign_partition, List.mem_append, List.mem_map] at hrp
    rcases hrp with hrp | ⟨item, hitem, rfl⟩
    · exact hkept hrm hrp (by simp [Op.Revokes])
    · refine .inl ⟨⟨rfl, rfl⟩, ?_⟩
      have hkey : item.1 ∈ ((dict_get m.stores t).getD []).map Prod.fst := by
        simpa using List.mem_map_of_mem Prod.fst hitem
      exact (mem_keys_iff_dict_get_isSome _ _).mp hkey
  | on_partition_revoke t p =>
    by_cases hstores : ∃ s, (m.lookup_store t s).isSome
    · simp only [StateStoreManager.call, on_partition_revoke_recovery_manager m t p hstores,
        Option.map_eq_some'] at h'
      obtain ⟨rm, hrm, rfl⟩ := h'
      simp only [RecoveryManager.revoke_partition, List.mem_filter, decide_eq_true_eq] at hrp
      exact hkept hrm hrp.1 fun hrevokes => hrp.2 hrevokes.2.symm
    · have hnone : ∀ s, m.lookup_store t s = none := by simpa using hstores
      simp only [StateStoreManager.call, on_partition_revoke_of_no_store m t p hnone] at h'
      refine hkept h' hrp fun hrevokes => ?_
      obtain ⟨store, hstore, -⟩ := h rm' h' rp hrp
      rw [← hrevokes.1, hnone] at hstore
      cases hstore
  | clear_stores => exact hkept h' hrp (by simp [Op.Revokes])
  | close => exact absurd rfl hop

theorem ReplaysHeld.run (h : m.ReplaysHeld) (ops : List Op) (hops : Op.close ∉ ops) :
    (m.run ops).ReplaysHeld := by
  induction ops generalizing m with
  | nil => exact h
  | cons op ops ih =>
    exact ih _ (h.call m op fun hclose => hops (hclose ▸ List.mem_cons_self _ _))
      fun hclose => hops (List.mem_cons_of_mem _ hclose)

/-- From a new manager with a recovery manager holding no replay, after any run without
    `close`, every replay the recovery manager holds is of a partition that the registered store
    of its topic and name holds, and so `recovery_required` implies that some store holds a
    partition. `close` is the exception: it closes the stores and leaves the replays. -/
theorem replays_held_by_stores (cwd : String) (group_id state_dir : Option String)
    (producer : Bool) (recovery_manager : RecoveryManager)
    (hfresh : recovery_manager.recovery_partitions = []) (default_store_type : StoreType)
    (ops : List Op) (hops : Op.close ∉ ops) :
    let m :=
      (init cwd group_id state_dir producer (some recovery_manager) default_store_type).run ops
    (∀ rm, m.recovery_manager = some rm → ∀ rp ∈ rm.recovery_partitions,
      m.Holds rp.topic rp.store_name rp.partition) ∧
    (m.recovery_required → ∃ t s p, m.Holds t s p) := by
  intro m
  have hheld : m.ReplaysHeld := ReplaysHeld.run _ (fun rm hrm rp hrp => by
    simp only [init, Option.some.injEq] at hrm
    rw [← hrm, hfresh] at hrp
    cases hrp) ops hops
  refine ⟨hheld, fun hrequired => ?_⟩
  unfold recovery_required at hrequired
  split at hrequired
  · rename_i rm hrm
    obtain ⟨rp, hrp⟩ := List.exists_mem_of_ne_nil _
      (by simpa [RecoveryManager.has_assignments] using hrequired)
    exact ⟨_, _, _, hheld rm hrm rp hrp⟩
  · cases hrequired

theorem replays_held_by_stores_assign_revoke :
    (⟨[], []⟩ : RecoveryManager).recovery_partitions = [] ∧
    Op.close ∉ [.register_store (some "a") "s" none none, .on_partition_assign (some "a") 0 [],
      .on_partition_assign (some "a") 1 [], .on_partition_revoke (some "a") 0] ∧
    let m := (init "/" none none true (some ⟨[], []⟩) .MemoryStore).run
      [.register_store (some "a") "s" none none, .on_partition_assign (some "a") 0 [],
        .on_partition_assign (some "a") 1 [], .on_partition_revoke (some "a") 0]
    (∀ rm, m.recovery_manager = some rm → ∀ rp ∈ rm.recovery_partitions,
      m.Holds rp.topic rp.store_name rp.partition) ∧
    (m.recovery_required → ∃ t s p, m.Holds t s p) :=
  ⟨rfl, by decide,
    replays_held_by_stores "/" none none true ⟨[], []⟩ rfl .MemoryStore _ (by decide)⟩

end StateStoreManager

/-- The `RuntimeError` that `do_recovery` and `stop_recovery` raise without a recovery manager. -/
structure RuntimeError where
  message : String
  deriving DecidableEq, Repr

namespace StateStoreManager

/-- The check `do_recovery` and `stop_recovery` share: the recovery manager they delegate to,
    or the `RuntimeError` with `message` when there is none. -/
def recovery_manager_call (self : StateStoreManager) (message : String) :
    Except RuntimeError RecoveryManager :=
  match self.recovery_manager with
  | none => .error ⟨message⟩
  | some recovery_manager => .ok recovery_manager

/-- `do_recovery`, up to the `RecoveryManager.do_recovery` call on the manager it reaches. -/
def do_recovery (self : StateStoreManager) : Except RuntimeError RecoveryManager :=
  self.recovery_manager_call "a recovery manager is needed to do a recovery"

/-- `stop_recovery`, up to the `RecoveryManager.stop_recovery` call on the manager it reaches. -/
def stop_recovery (self : StateStoreManager) : Except RuntimeError RecoveryManager :=
  self.recovery_manager_call "a recovery manager is needed to do a recovery"

end StateStoreManager

end quixstreams.state
