import QuixStreams.State.Registration

namespace quixstreams.state

/-- `op` assigns partition `p` of `topic`. -/
def Op.Assigns (topic : Option String) (p : Int) : Op → Prop
  | .on_partition_assign t p' _ => t = topic ∧ p' = p
  | _ => False

/-- `op` takes partition `p` of `topic` from the stores: its revocation, or `close`. -/
def Op.Revokes (topic : Option String) (p : Int) : Op → Prop
  | .on_partition_revoke t p' => t = topic ∧ p' = p
  | .close => True
  | _ => False

/-- One call on the assignment set of the spec: "populated on assign and emptied on
    revoke"; `close` gives every partition up. -/
def assignment_step (owned : List (Option String × Int)) : Op → List (Option String × Int)
  | .on_partition_assign t p _ => if (t, p) ∈ owned then owned else owned ++ [(t, p)]
  | .on_partition_revoke t p => owned.filter (· ≠ (t, p))
  | .close => []
  | _ => owned

/-- The topic partitions owned after a sequence of calls. -/
def assignment_set (ops : List Op) : List (Option String × Int) := ops.foldl assignment_step []

section abstract

variable (t : Option String) (p : Int)

theorem mem_assignment_step (owned : List (Option String × Int)) (op : Op) :
    (t, p) ∈ assignment_step owned op ↔ op.Assigns t p ∨ ((t, p) ∈ owned ∧ ¬ op.Revokes t p) := by
  cases op with
  | on_partition_assign t' p' =>
    simp only [assignment_step, Op.Assigns, Op.Revokes, not_false_eq_true, and_true]
    split_ifs with h
    · constructor
      · exact .inr
      · rintro (⟨rfl, rfl⟩ | h') <;> assumption
    · simp [Prod.ext_iff, eq_comm, or_comm]
  | on_partition_revoke t' p' =>
    simp only [assignment_step, Op.Assigns, Op.Revokes, List.mem_filter, false_or, ne_eq,
      decide_eq_true_eq, Prod.mk.injEq]
    exact and_congr_right fun _ => not_congr ⟨fun h => ⟨h.1.symm, h.2.symm⟩, fun h => ⟨h.1.symm, h.2.symm⟩⟩
  | close => simp [assignment_step, Op.Assigns, Op.Revokes]
  | register_store | register_windowed_store | clear_stores =>
    simp only [assignment_step, Op.Assigns, Op.Revokes, false_or, not_false_eq_true, and_true]

theorem mem_foldl_assignment_step (owned : List (Option String × Int)) (ops : List Op) :
    (t, p) ∈ ops.foldl assignment_step owned ↔ ((t, p) ∈ owned ∧ ∀ op ∈ ops, ¬ op.Revokes t p) ∨
      ∃ pre op post, ops = pre ++ op :: post ∧ op.Assigns t p ∧ ∀ op' ∈ post, ¬ op'.Revokes t p := by
  induction ops generalizing owned with
  | nil => simp
  | cons op ops ih =>
    rw [List.foldl_cons, ih, mem_assignment_step,
      exists_cons_eq_append_cons op ops (fun _ op post => op.Assigns t p ∧ ∀ op' ∈ post, ¬ op'.Revokes t p)]
    simp only [List.forall_mem_cons]
    exact or_and_or_shuffle

end abstract

namespace StateStoreManager

/-- The store `store_name` of `topic` is registered and holds partition `p`. -/
def Holds (m : StateStoreManager) (t : Option String) (s : String) (p : Int) : Prop :=
  ∃ store, m.lookup_store t s = some store ∧ p ∈ store.partitions

variable (m : StateStoreManager) (op : Op) (t : Option String) (s : String) (p : Int)

/-- What one call does to the partitions of a registered store. -/
theorem mem_partitions_call {store store' : Store} (h : m.lookup_store t s = some store)
    (h' : (m.call op).1.lookup_store t s = some store') :
    p ∈ store'.partitions ↔ op.Assigns t p ∨ (p ∈ store.partitions ∧ ¬ op.Revokes t p) := by
  cases op with
  | register_store t' s' =>
    simp only [call, lookup_store_register_store, h] at h'
    split_ifs at h' <;> simp_all [Op.Assigns, Op.Revokes]
  | register_windowed_store t' s' =>
    simp only [call, lookup_store_register_windowed_store, h] at h'
    split_ifs at h' <;> simp_all [Op.Assigns, Op.Revokes]
  | on_partition_assign t' p' =>
    simp only [call, lookup_store_on_partition_assign, h, Option.map_some', Option.some.injEq] at h'
    subst h'
    by_cases ht : t' = t <;> simp [ht, Op.Assigns, Op.Revokes, eq_comm]
  | on_partition_revoke t' p' =>
    simp only [call, lookup_store_on_partition_revoke, h, Option.map_some', Option.some.injEq] at h'
    subst h'
    by_cases ht : t' = t <;> simp [ht, Op.Assigns, Op.Revokes, eq_comm, and_comm]
  | clear_stores => simp_all [call, Op.Assigns, Op.Revokes]
  | close =>
    simp only [call, lookup_store_close, h, Option.map_some', Option.some.injEq] at h'
    simp [← h', Op.Assigns, Op.Revokes]

theorem holds_call :
    (m.call op).1.Holds t s p ↔
      (op.Assigns t p ∧ (m.lookup_store t s).isSome) ∨ (m.Holds t s p ∧ ¬ op.Revokes t p) := by
  cases hlookup : m.lookup_store t s with
  | some store =>
    obtain ⟨store', h', -⟩ := created_lookup_store_call m op t s hlookup
    simp [Holds, hlookup, h', mem_partitions_call m op t s p hlookup h']
  | none =>
    simp only [Holds, hlookup, Option.isSome_none, Bool.false_eq_true, and_false, false_or,
      reduceCtorEq, false_and, exists_false, iff_false, not_exists, not_and]
    intro store' h'
    simp [(created_store_call m op t s hlookup h').2.2.1]

/-- A registered store holds `p` after a run exactly when it held `p` and the run never
    revoked it, or some call of the run assigned `p` while the store was registered and no
    later call revoked it. -/
theorem holds_run (ops : List Op) :
    (m.run ops).Holds t s p ↔ (m.Holds t s p ∧ ∀ op ∈ ops, ¬ op.Revokes t p) ∨
      ∃ pre op post, ops = pre ++ op :: post ∧ op.Assigns t p ∧
        ((m.run pre).lookup_store t s).isSome ∧ ∀ op' ∈ post, ¬ op'.Revokes t p := by
  induction ops generalizing m with
  | nil => simp
  | cons op ops ih =>
    rw [run_cons, ih, holds_call, exists_cons_eq_append_cons op ops (fun pre op post =>
      op.Assigns t p ∧ ((m.run pre).lookup_store t s).isSome ∧ ∀ op' ∈ post, ¬ op'.Revokes t p)]
    simp only [run_nil, run_cons, List.forall_mem_cons]
    rw [or_and_or_shuffle, and_assoc]

theorem holds_iff_mem {store : Store} (h : m.lookup_store t s = some store) :
    m.Holds t s p ↔ p ∈ store.partitions := by
  simp [Holds, h]

/-- Calls that only register stores assign no partition. -/
theorem not_holds_run_of_registrations (ops : List Op) (hops : ∀ op ∈ ops, ∃ t s, op.Registers t s)
    (hm : ¬ m.Holds t s p) : ¬ (m.run ops).Holds t s p := by
  rw [holds_run]
  rintro (⟨h, -⟩ | ⟨pre, op, post, rfl, hassign, -⟩)
  · exact hm h
  · obtain ⟨t', s', hreg⟩ := hops op (by simp)
    cases op <;> simp only [Op.Assigns, Op.Registers] at hassign hreg

theorem on_partition_assign_result (offsets : List (String × Int)) :
    (m.on_partition_assign t p offsets).2 =
      dict_map_values ((dict_get m.stores t).getD []) fun store => (store.assign_partition p).2 := by
  unfold on_partition_assign; dsimp only; split <;> rfl

/-- From a new manager, after any sequence of calls, a registered store holds partition `p`
    exactly when `p` was assigned while the store was registered and neither revoked nor
    closed since. `on_partition_assign` returns the partition of exactly the stores of its
    topic, and when every registration comes first, each store of a topic holds exactly the
    topic's assignment set. -/
theorem store_partitions_follow_assignments (cwd : String)
    (group_id state_dir : Option String) (producer : Bool)
    (recovery_manager : Option RecoveryManager) (default_store_type : StoreType) :
    let m₀ := init cwd group_id state_dir producer recovery_manager default_store_type
    (∀ ops t s store p, (m₀.run ops).lookup_store t s = some store →
      (p ∈ store.partitions ↔ ∃ pre op post, ops = pre ++ op :: post ∧ op.Assigns t p ∧
        ((m₀.run pre).lookup_store t s).isSome ∧ ∀ op' ∈ post, ¬ op'.Revokes t p)) ∧
    (∀ (m : StateStoreManager) t p offsets name,
      dict_get (m.on_partition_assign t p offsets).2 name =
        (m.lookup_store t name).map (fun store => ⟨store.name, store.topic, p⟩) ∧
      ∀ store, (m.on_partition_assign t p offsets).1.lookup_store t name = some store →
        p ∈ store.partitions) ∧
    (∀ regs events, (∀ op ∈ regs, ∃ t s, op.Registers t s) →
      (∀ op ∈ events, ∀ t s, ¬ op.Registers t s) →
      ∀ t s store, (m₀.run (regs ++ events)).lookup_store t s = some store →
        ∀ p, p ∈ store.partitions ↔ (t, p) ∈ assignment_set events) := by
  intro m₀
  have hnew : ∀ t s p, ¬ m₀.Holds t s p := fun t s p => by simp [Holds, m₀]
  refine ⟨fun ops t s store p h => ?_, fun m t p offsets name => ⟨?_, fun store h => ?_⟩, ?_⟩
  · rw [← holds_iff_mem _ t s p h, holds_run]
    simp [hnew t s p]
  · simp [on_partition_assign_result, lookup_store, Store.assign_partition]
  · simp only [lookup_store_on_partition_assign, if_true, Option.map_eq_some'] at h
    obtain ⟨store', -, rfl⟩ := h
    simp
  · intro regs events hregs hevents t s store h p
    rw [run_append] at h
    have hregistered : ((m₀.run regs).lookup_store t s).isSome := by
      have hsome : (((m₀.run regs).run events).lookup_store t s).isSome := by simp [h]
      rw [lookup_store_run_isSome] at hsome
      rcases hsome with hsome | ⟨pre, op, post, rfl, hreg, -⟩
      · exact hsome
      · exact absurd hreg (hevents op (by simp) t s)
    rw [← holds_iff_mem _ t s p h, holds_run, assignment_set, mem_foldl_assignment_step]
    simp only [not_holds_run_of_registrations m₀ t s p regs hregs (hnew t s p), false_and,
      false_or, List.not_mem_nil]
    refine exists_congr fun pre => exists_congr fun op => exists_congr fun post =>
      and_congr_right fun _ => and_congr_right fun _ => ?_
    simp [lookup_store_run_isSome, hregistered]

end StateStoreManager

end quixstreams.state
