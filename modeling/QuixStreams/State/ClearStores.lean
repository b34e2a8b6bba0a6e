import QuixStreams.State.Assignment
import QuixStreams.State.Directory

namespace quixstreams.state

namespace StateStoreManager

/-- The keys of `self._stores` are distinct, and so are the store names of each topic. -/
def StoresWF (stores : List (Option String × List (String × Store))) : Prop :=
  (stores.map Prod.fst).Nodup ∧ ∀ topic_stores ∈ stores, (topic_stores.2.map Prod.fst).Nodup

section stores

variable {stores : List (Option String × List (String × Store))}

theorem StoresWF.setdefault (h : StoresWF stores) (t : Option String) (s : String) (store : Store) :
    StoresWF (dict_set stores t (dict_set ((dict_get stores t).getD []) s store)) := by
  refine ⟨dict_set_keys_nodup h.1 _ _, fun topic_stores hmem => ?_⟩
  rcases mem_dict_set hmem with hmem | rfl
  · exact h.2 topic_stores hmem
  · apply dict_set_keys_nodup
    cases hget : dict_get stores t with
    | none => simp
    | some topic_stores => exact h.2 _ (mem_of_dict_get hget)

theorem StoresWF.update (h : StoresWF stores) (t : Option String) (f : Store → Store) :
    StoresWF (dict_update stores t fun topic_stores => dict_map_values topic_stores f) := by
  refine ⟨by simpa using h.1, fun topic_stores hmem => ?_⟩
  rcases mem_dict_update hmem with hmem | ⟨value, hvalue, rfl⟩
  · exact h.2 topic_stores hmem
  · simpa using h.2 _ hvalue

theorem StoresWF.map_values (h : StoresWF stores) (f : Store → Store) :
    StoresWF (dict_map_values stores fun topic_stores => dict_map_values topic_stores f) := by
  refine ⟨by simpa using h.1, fun topic_stores hmem => ?_⟩
  obtain ⟨item, hitem, rfl⟩ := List.mem_map.mp hmem
  simpa using h.2 item hitem

end stores

variable (m : StateStoreManager)

theorem StoresWF.call (h : StoresWF m.stores) (op : Op) : StoresWF (m.call op).1.stores := by
  cases op with
  | register_store t s store_type c =>
    simp only [StateStoreManager.call, register_store]
    split
    · exact h
    · split <;> simp only [setdefault_store, setup_changelogs_stores]
      exacts [h.setdefault t s _, h.setdefault t s _, h]
  | register_windowed_store t s =>
    simp only [StateStoreManager.call, register_windowed_store]
    split
    · exact h
    · simpa only [setdefault_store, setup_changelogs_stores] using h.setdefault t s _
  | on_partition_assign t p offsets =>
    simpa only [StateStoreManager.call, on_partition_assign_stores] using h.update t _
  | on_partition_revoke t p =>
    simp only [StateStoreManager.call, on_partition_revoke]
    split
    · exact h
    · exact h.update t _
  | clear_stores => exact h
  | close => exact h.map_values Store.close

theorem StoresWF.run (h : StoresWF m.stores) (ops : List Op) : StoresWF (m.run ops).stores := by
  induction ops generalizing m with
  | nil => exact h
  | cons op ops ih => exact ih _ (h.call m op)

/-- With distinct keys, the scan of `clear_stores` finds a partition exactly when some
    registered store holds one. -/
theorem any_partitions_iff_holds (h : StoresWF m.stores) :
    (m.stores.any fun topic_stores => topic_stores.2.any fun item => !item.2.partitions.isEmpty) ↔
      ∃ t s p, m.Holds t s p := by
  simp only [List.any_eq_true, Bool.not_eq_true', List.isEmpty_eq_false_iff_exists_mem, Holds,
    lookup_store]
  constructor
  · rintro ⟨⟨t, topic_stores⟩, hmem, ⟨s, store⟩, hstore, p, hp⟩
    refine ⟨t, s, p, store, ?_, hp⟩
    rw [dict_get_of_mem h.1 hmem, Option.getD_some, dict_get_of_mem (h.2 _ hmem) hstore]
  · rintro ⟨t, s, p, store, hlookup, hp⟩
    cases hget : dict_get m.stores t with
    | none => simp [hget] at hlookup
    | some topic_stores =>
      rw [hget, Option.getD_some] at hlookup
      exact ⟨_, mem_of_dict_get hget, _, mem_of_dict_get hlookup, p, hp⟩

theorem clear_stores_eq_error_iff (h : StoresWF m.stores) :
    m.clear_stores = .error .PartitionStoreIsUsed ↔ ∃ t s p, m.Holds t s p := by
  rw [← any_partitions_iff_holds m h, clear_stores]
  split <;> rename_i hany <;> simp [hany]

theorem clear_stores_of_not_holds (h : StoresWF m.stores) (hfree : ¬ ∃ t s p, m.Holds t s p) :
    m.clear_stores = .ok m.state_dir := by
  rw [← any_partitions_iff_holds m h] at hfree
  simp [clear_stores, hfree]

/-- From a new manager, after any run, `clear_stores` raises `PartitionStoreIsUsed` exactly when
    some registered store holds a partition: one assigned while the store was registered, and
    neither revoked nor closed since. Otherwise it returns and removes the manager's own state
    directory. -/
theorem clear_stores_raises_iff_assigned (cwd : String) (group_id state_dir : Option String)
    (producer : Bool) (recovery_manager : Option RecoveryManager) (default_store_type : StoreType)
    (ops : List Op) :
    let m₀ := init cwd group_id state_dir producer recovery_manager default_store_type
    ((m₀.run ops).clear_stores = .error .PartitionStoreIsUsed ↔
      ∃ t s p pre op post, ops = pre ++ op :: post ∧ op.Assigns t p ∧
        ((m₀.run pre).lookup_store t s).isSome ∧ ∀ op' ∈ post, ¬ op'.Revokes t p) ∧
    ((m₀.run ops).clear_stores ≠ .error .PartitionStoreIsUsed →
      (m₀.run ops).clear_stores = .ok m₀.state_dir) := by
  intro m₀
  have hwf : StoresWF (m₀.run ops).stores := StoresWF.run m₀ ⟨List.nodup_nil, by simp [m₀, init]⟩ ops
  have hnew : ∀ t s p, ¬ m₀.Holds t s p := fun t s p => by simp [Holds, m₀]
  have hholds : (∃ t s p, (m₀.run ops).Holds t s p) ↔ ∃ t s p pre op post, ops = pre ++ op :: post ∧
      op.Assigns t p ∧ ((m₀.run pre).lookup_store t s).isSome ∧ ∀ op' ∈ post, ¬ op'.Revokes t p := by
    simp only [holds_run, hnew, false_and, false_or]
  refine ⟨(clear_stores_eq_error_iff _ hwf).trans hholds, fun hok => ?_⟩
  rw [clear_stores_of_not_holds _ hwf (mt (clear_stores_eq_error_iff _ hwf).mpr hok), state_dir_run]

end StateStoreManager

end quixstreams.state
