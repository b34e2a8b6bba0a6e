import QuixStreams.State.Manager

namespace quixstreams.state

/-- `op` is a call registering the store `store_name` of `topic`. -/
def Op.Registers (topic : Option String) (store_name : String) : Op → Prop
  | .register_store t s _ _ => t = topic ∧ s = store_name
  | .register_windowed_store t s => t = topic ∧ s = store_name
  | _ => False

instance (topic : Option String) (store_name : String) : DecidablePred (Op.Registers topic store_name)
  | .register_store t s _ _ => inferInstanceAs (Decidable (t = topic ∧ s = store_name))
  | .register_windowed_store t s => inferInstanceAs (Decidable (t = topic ∧ s = store_name))
  | .on_partition_assign .. => inferInstanceAs (Decidable False)
  | .on_partition_revoke .. => inferInstanceAs (Decidable False)
  | .clear_stores => inferInstanceAs (Decidable False)
  | .close => inferInstanceAs (Decidable False)

namespace StateStoreManager

variable (m : StateStoreManager) (op : Op) (t : Option String) (s : String)

/-- A call registers the pair exactly when it registers it and returns normally. -/
theorem lookup_store_call_isSome :
    ((m.call op).1.lookup_store t s).isSome ↔
      (m.lookup_store t s).isSome ∨ (op.Registers t s ∧ (m.call op).2 = .ok ()) := by
  cases op with
  | register_store t' s' store_type c =>
    simp only [call, lookup_store_register_store, register_store_result, Op.Registers]
    by_cases h : t' = t ∧ s' = s
    · obtain ⟨rfl, rfl⟩ := h
      cases hlookup : m.lookup_store t' s' <;>
        simp [hlookup, Option.ne_none_iff_isSome, new_store_isSome_iff]
    · simp [h]
  | register_windowed_store t' s' =>
    simp only [call, lookup_store_register_windowed_store, register_windowed_store_result,
      Op.Registers]
    by_cases h : t' = t ∧ s' = s
    · obtain ⟨rfl, rfl⟩ := h
      cases m.lookup_store t' s' <;> simp
    · simp [h]
  | on_partition_assign => simp [call, Op.Registers]
  | on_partition_revoke => simp [call, Op.Registers]
  | clear_stores => simp [call, Op.Registers]
  | close => simp [call, Op.Registers]

/-- A registered store stays the same object through every call. -/
theorem created_lookup_store_call {store : Store} (h : m.lookup_store t s = some store) :
    ∃ store', (m.call op).1.lookup_store t s = some store' ∧ store'.created = store.created := by
  cases op with
  | register_store t' s' =>
    simp only [call, lookup_store_register_store]
    split_ifs with hts
    · obtain ⟨rfl, rfl⟩ := hts; simp [h]
    · simp [h]
  | register_windowed_store t' s' =>
    simp only [call, lookup_store_register_windowed_store]
    split_ifs with hts
    · obtain ⟨rfl, rfl⟩ := hts; simp [h]
    · simp [h]
  | on_partition_assign t' => simp only [call, lookup_store_on_partition_assign, h]; split_ifs <;> simp
  | on_partition_revoke t' => simp only [call, lookup_store_on_partition_revoke, h]; split_ifs <;> simp
  | clear_stores => exact ⟨store, h, rfl⟩
  | close => simp [call, h]

/-- A store a call creates is built for its own pair, with no partitions, the factory that
    `_setup_changelogs` returned, and either no `base_dir` or the manager's. -/
theorem created_store_call {store : Store} (h : m.lookup_store t s = none)
    (h' : (m.call op).1.lookup_store t s = some store) :
    store.name = s ∧ store.topic = t ∧ store.partitions = [] ∧
      (∃ c, store.changelog_producer_factory = (m.setup_changelogs t s c).2) ∧
      (store.base_dir = none ∨ store.base_dir = some m.base_dir) := by
  cases op with
  | register_store t' s' store_type c =>
    simp only [call, lookup_store_register_store] at h'
    split_ifs at h' with hts
    · obtain ⟨rfl, rfl⟩ := hts
      simp only [h, Option.none_or, new_store] at h'
      split at h' <;> cases h' <;> exact ⟨rfl, rfl, rfl, ⟨c, rfl⟩, by simp⟩
    · simp [h] at h'
  | register_windowed_store t' s' =>
    simp only [call, lookup_store_register_windowed_store] at h'
    split_ifs at h' with hts
    · obtain ⟨rfl, rfl⟩ := hts
      simp only [h, Option.none_or, Option.some.injEq] at h'
      subst h'
      exact ⟨rfl, rfl, rfl, ⟨none, rfl⟩, .inr rfl⟩
    · simp [h] at h'
  | on_partition_assign => simp [call, h] at h'
  | on_partition_revoke => simp [call, h] at h'
  | clear_stores => simp [call, h] at h'
  | close => simp [call, h] at h'

/-- Registering a store under another topic leaves this topic's store untouched. -/
theorem lookup_store_call_of_registers_ne {t' : Option String} (hreg : op.Registers t' s)
    (hne : t' ≠ t) : (m.call op).1.lookup_store t s = m.lookup_store t s := by
  cases op with
  | register_store => obtain ⟨rfl, rfl⟩ := hreg; simp [call, hne]
  | register_windowed_store => obtain ⟨rfl, rfl⟩ := hreg; simp [call, hne]
  | _ => exact hreg.elim

theorem register_windowed_store_of_lookup_store {store : Store}
    (h : m.lookup_store t s = some store) :
    m.register_windowed_store t s = (m, .error .WindowedStoreAlreadyRegisteredError) := by
  simp [register_windowed_store, h]

theorem created_lookup_store_run (ops : List Op) {store : Store}
    (h : m.lookup_store t s = some store) :
    ∃ store', (m.run ops).lookup_store t s = some store' ∧ store'.created = store.created := by
  induction ops generalizing m store with
  | nil => exact ⟨store, h, rfl⟩
  | cons op ops ih =>
    obtain ⟨store', h', hcreated⟩ := created_lookup_store_call m op t s h
    obtain ⟨store'', h'', hcreated'⟩ := ih (m.call op).1 h'
    exact ⟨store'', h'', hcreated'.trans hcreated⟩

/-- After a run, a pair is registered exactly when it was before or some call of the run
    registered it and returned normally. -/
theorem lookup_store_run_isSome (ops : List Op) :
    ((m.run ops).lookup_store t s).isSome ↔ (m.lookup_store t s).isSome ∨
      ∃ pre op post, ops = pre ++ op :: post ∧ op.Registers t s ∧ ((m.run pre).call op).2 = .ok () := by
  induction ops generalizing m with
  | nil => simp
  | cons op ops ih =>
    rw [run_cons, ih, lookup_store_call_isSome,
      exists_cons_eq_append_cons op ops (fun pre op _ => op.Registers t s ∧ ((m.run pre).call op).2 = .ok ())]
    simp only [run_nil, run_cons, or_assoc]

@[simp] theorem init_lookup_store (cwd : String) (group_id state_dir : Option String)
    (producer : Bool) (recovery_manager : Option RecoveryManager) (default_store_type : StoreType) :
    (init cwd group_id state_dir producer recovery_manager default_store_type).lookup_store t s =
      none := rfl

theorem get_store_ok_iff :
    (∃ store, m.get_store t s = .ok store) ↔ (m.lookup_store t s).isSome := by
  unfold get_store; split <;> simp_all

/-- From a new manager, `get_store(t, s)` returns exactly when some call registering the pair
    returned normally, and then it returns the store the first such call created. Afterwards
    `register_store` is a no-op, `register_windowed_store` raises, no call replaces the store,
    and registrations under another topic do not touch it. -/
theorem get_store_returns_first_registered (cwd : String) (group_id state_dir : Option String)
    (producer : Bool) (recovery_manager : Option RecoveryManager) (default_store_type : StoreType)
    (ops : List Op) :
    let m₀ := init cwd group_id state_dir producer recovery_manager default_store_type
    ((∃ store, (m₀.run ops).get_store t s = .ok store) ↔
      ∃ pre op post, ops = pre ++ op :: post ∧ op.Registers t s ∧ ((m₀.run pre).call op).2 = .ok ()) ∧
    (∀ pre op post, ops = pre ++ op :: post → op.Registers t s → ((m₀.run pre).call op).2 = .ok () →
      (∀ pre' op' post', pre = pre' ++ op' :: post' → op'.Registers t s →
        ((m₀.run pre').call op').2 ≠ .ok ()) →
      ∃ created store, ((m₀.run pre).call op).1.lookup_store t s = some created ∧
        created.partitions = [] ∧ (m₀.run ops).get_store t s = .ok store ∧ store.created = created) ∧
    (∀ (m : StateStoreManager) (store : Store), m.lookup_store t s = some store →
      (∀ store_type topic_config, m.register_store t s store_type topic_config = (m, .ok ())) ∧
      m.register_windowed_store t s = (m, .error .WindowedStoreAlreadyRegisteredError) ∧
      ∀ op, ∃ store', (m.call op).1.lookup_store t s = some store' ∧ store'.created = store.created) ∧
    (∀ (m : StateStoreManager) (op : Op) (t' : Option String), op.Registers t' s → t' ≠ t →
      (m.call op).1.lookup_store t s = m.lookup_store t s) := by
  intro m₀
  have hrun : ∀ ops, ((m₀.run ops).lookup_store t s).isSome ↔
      ∃ pre op post, ops = pre ++ op :: post ∧ op.Registers t s ∧ ((m₀.run pre).call op).2 = .ok () := by
    intro ops
    rw [lookup_store_run_isSome]
    simp only [m₀, init_lookup_store, Option.isSome_none, Bool.false_eq_true, false_or]
  refine ⟨by rw [get_store_ok_iff, hrun], ?_, ?_, fun m op t' hreg hne =>
    lookup_store_call_of_registers_ne m op t s hreg hne⟩
  · intro pre op post hops hreg hok hfirst
    have hnone : (m₀.run pre).lookup_store t s = none := by
      rw [← Option.not_isSome_iff_eq_none, hrun]
      rintro ⟨pre', op', post', hpre, hreg', hok'⟩
      exact hfirst pre' op' post' hpre hreg' hok'
    obtain ⟨created, hcreated⟩ := Option.isSome_iff_exists.mp
      ((lookup_store_call_isSome _ op t s).mpr (.inr ⟨hreg, hok⟩))
    have hempty := (created_store_call _ op t s hnone hcreated).2.2.1
    obtain ⟨store, hstore, hsame⟩ := created_lookup_store_run _ t s post hcreated
    refine ⟨created, store, hcreated, hempty, ?_, ?_⟩
    · simp [hops, get_store, hstore]
    · rw [hsame, Store.created, ← hempty]
  · exact fun m store h => ⟨register_store_of_lookup_store m h,
      register_windowed_store_of_lookup_store m t s h, fun op => created_lookup_store_call m op t s h⟩

end StateStoreManager

end quixstreams.state
