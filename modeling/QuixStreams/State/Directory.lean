import QuixStreams.State.Registration

namespace quixstreams.state

/-- Modelled from the spec ("`<state_dir>/<group_id>/<store_name>/<partition>/`"): the directory
    of partition `partition` of a store built with a `base_dir`, which the manager sets to
    `str(<state_dir>/<group_id>)`. -/
def Store.partition_dir (store : Store) (partition : Int) : Option PosixPath :=
  store.base_dir.map fun base_dir =>
    ((PosixPath.of_str base_dir).div store.name).div (toString partition)

namespace StateStoreManager

variable (m : StateStoreManager) (op : Op)

@[simp] theorem state_dir_run (ops : List Op) : (m.run ops).state_dir = m.state_dir := by
  induction ops generalizing m with
  | nil => rfl
  | cons op ops ih => rw [run_cons, ih, state_dir_call]

/-- Every store with a `base_dir` got the manager's own. -/
def BaseDirsWF (m : StateStoreManager) : Prop :=
  ∀ t s store, m.lookup_store t s = some store → store.base_dir = none ∨ store.base_dir = some m.base_dir

theorem BaseDirsWF.call (h : m.BaseDirsWF) : (m.call op).1.BaseDirsWF := by
  intro t s store' h'
  have hbase : (m.call op).1.base_dir = m.base_dir := by simp [base_dir]
  rw [hbase]
  cases hlookup : m.lookup_store t s with
  | some store =>
    obtain ⟨store'', h'', hsame⟩ := created_lookup_store_call m op t s hlookup
    rw [h'] at h''
    cases h''
    have hfield := congrArg Store.base_dir hsame
    simp only [Store.created] at hfield
    rw [hfield]
    exact h t s store hlookup
  | none => exact (created_store_call m op t s hlookup h').2.2.2.2

theorem BaseDirsWF.run (h : m.BaseDirsWF) (ops : List Op) : (m.run ops).BaseDirsWF := by
  induction ops generalizing m with
  | nil => exact h
  | cons op ops ih => exact ih _ (h.call m op)

/-- After any run, every partition directory of a store is `base_dir / name / str(partition)`
    for the manager's own `base_dir`. -/
theorem partition_dir_run (cwd : String) (group_id state_dir : Option String) (producer : Bool)
    (recovery_manager : Option RecoveryManager) (default_store_type : StoreType) (ops : List Op)
    {t : Option String} {s : String} {store : Store} {p : Int} {dir : PosixPath}
    (hlookup : ((init cwd group_id state_dir producer recovery_manager default_store_type).run
      ops).lookup_store t s = some store)
    (hdir : store.partition_dir p = some dir) :
    dir = ((PosixPath.of_str
      (init cwd group_id state_dir producer recovery_manager default_store_type).base_dir).div
        store.name).div (toString p) := by
  have hwf := BaseDirsWF.run (init cwd group_id state_dir producer recovery_manager default_store_type)
    (fun _ _ _ h => by simp at h) ops
  rcases hwf t s store hlookup with hbase | hbase <;>
    simp [Store.partition_dir, hbase, base_dir] at hdir ⊢
  exact hdir.symm

theorem clear_stores_run (cwd : String) (group_id state_dir : Option String) (producer : Bool)
    (recovery_manager : Option RecoveryManager) (default_store_type : StoreType) (ops : List Op)
    {dir : PosixPath}
    (h : ((init cwd group_id state_dir producer recovery_manager default_store_type).run
      ops).clear_stores = .ok (some dir)) :
    (init cwd group_id state_dir producer recovery_manager default_store_type).state_dir = some dir := by
  unfold clear_stores at h
  split at h
  · cases h
  · rw [← state_dir_run _ ops]
    injection h

section group_dirs

variable (cwd state_dir : String) {group_id : String}

theorem init_state_dir_plain (hg : PlainPart group_id) (producer : Bool)
    (recovery_manager : Option RecoveryManager) (default_store_type : StoreType) :
    (init cwd (some group_id) (some state_dir) producer recovery_manager default_store_type).state_dir =
      some (((PosixPath.of_str state_dir).absolute cwd).child group_id) := by
  simp [init, PosixPath.div, PosixPath.of_str_plain hg, PosixPath.child]

theorem init_base_dir_plain (hg : PlainPart group_id) (producer : Bool)
    (recovery_manager : Option RecoveryManager) (default_store_type : StoreType) :
    PosixPath.of_str
        (init cwd (some group_id) (some state_dir) producer recovery_manager default_store_type).base_dir =
      ((PosixPath.of_str state_dir).absolute cwd).child group_id := by
  rw [base_dir, init_state_dir_plain cwd state_dir hg]
  exact PosixPath.of_str_str
    (PosixPath.child_WF (PosixPath.absolute_WF (PosixPath.of_str_WF state_dir) cwd) hg)

/-- A file in a partition directory of a store with a descending name lies below the directory
    of its manager's group. -/
theorem within_group_dir (hg : PlainPart group_id) (producer : Bool)
    (recovery_manager : Option RecoveryManager) (default_store_type : StoreType) (ops : List Op)
    {t : Option String} {s : String} {store : Store} {p : Int} {dir q : PosixPath}
    (hlookup : ((init cwd (some group_id) (some state_dir) producer recovery_manager
      default_store_type).run ops).lookup_store t s = some store)
    (hname : Descending store.name) (hdir : store.partition_dir p = some dir)
    (hq : q.Within cwd dir) : q.Within cwd (((PosixPath.of_str state_dir).absolute cwd).child group_id) := by
  refine List.IsPrefix.trans ⟨(PosixPath.of_str store.name).parts ++ [toString p], ?_⟩ hq
  rw [partition_dir_run cwd _ _ _ _ _ ops hlookup hdir, init_base_dir_plain cwd state_dir hg,
    PosixPath.div_plain _ (int_repr_plain p).1, PosixPath.location_child _ _ (int_repr_plain p).2,
    PosixPath.location_div _ _ hname, List.append_assoc]

end group_dirs

theorem not_within_both {cwd : String} {dir₁ dir₂ q : PosixPath} {parent : List String}
    {g₁ g₂ : String} (hne : g₁ ≠ g₂) (h₁ : dir₁.location cwd = parent ++ [g₁])
    (h₂ : dir₂.location cwd = parent ++ [g₂]) : ¬ (q.Within cwd dir₁ ∧ q.Within cwd dir₂) := by
  rintro ⟨hq₁, hq₂⟩
  unfold PosixPath.Within at hq₁ hq₂
  rw [h₁] at hq₁
  rw [h₂] at hq₂
  have heq := (List.prefix_of_prefix_length_le hq₁ hq₂ (by simp)).eq_of_length (by simp)
  simp at heq
  exact hne heq

/-- Managers of distinct plain group ids under one `state_dir` keep the partition directories
    of their stores with descending names in disjoint trees, and `clear_stores` on one removes
    nothing the other's stores keep. -/
theorem group_state_dirs_disjoint (cwd state_dir g₁ g₂ : String) (hg₁ : PlainPart g₁)
    (hg₂ : PlainPart g₂) (hdots₁ : g₁ ≠ "..") (hdots₂ : g₂ ≠ "..") (hne : g₁ ≠ g₂)
    (producer₁ producer₂ : Bool) (rm₁ rm₂ : Option RecoveryManager) (ty₁ ty₂ : StoreType) :
    let M₁ := init cwd (some g₁) (some state_dir) producer₁ rm₁ ty₁
    let M₂ := init cwd (some g₂) (some state_dir) producer₂ rm₂ ty₂
    ∀ ops₁ ops₂ t₂ s₂ store₂ p₂ dir₂, (M₂.run ops₂).lookup_store t₂ s₂ = some store₂ →
      Descending store₂.name → store₂.partition_dir p₂ = some dir₂ →
      ∀ q : PosixPath, q.Within cwd dir₂ →
      (∀ t₁ s₁ store₁ p₁ dir₁, (M₁.run ops₁).lookup_store t₁ s₁ = some store₁ →
        Descending store₁.name → store₁.partition_dir p₁ = some dir₁ → ¬ q.Within cwd dir₁) ∧
      (∀ dir, (M₁.run ops₁).clear_stores = .ok (some dir) → ¬ q.Within cwd dir) := by
  intro M₁ M₂ ops₁ ops₂ t₂ s₂ store₂ p₂ dir₂ hlookup₂ hname₂ hdir₂ q hq₂
  have hq₂' := within_group_dir cwd state_dir hg₂ _ _ _ ops₂ hlookup₂ hname₂ hdir₂ hq₂
  have hloc : ∀ g, g ≠ ".." → (((PosixPath.of_str state_dir).absolute cwd).child g).location cwd =
      ((PosixPath.of_str state_dir).absolute cwd).location cwd ++ [g] :=
    fun g hdots => PosixPath.location_child _ _ hdots
  refine ⟨fun t₁ s₁ store₁ p₁ dir₁ hlookup₁ hname₁ hdir₁ hq₁ => ?_, fun dir hclear hq₁ => ?_⟩
  · exact not_within_both hne (hloc g₁ hdots₁) (hloc g₂ hdots₂)
      ⟨within_group_dir cwd state_dir hg₁ _ _ _ ops₁ hlookup₁ hname₁ hdir₁ hq₁, hq₂'⟩
  · have hdir := clear_stores_run cwd _ _ _ _ _ ops₁ hclear
    rw [init_state_dir_plain cwd state_dir hg₁, Option.some.injEq] at hdir
    rw [← hdir] at hq₁
    exact not_within_both hne (hloc g₁ hdots₁) (hloc g₂ hdots₂) ⟨hq₁, hq₂'⟩

theorem group_state_dirs_disjoint_a_b :
    PlainPart "a" ∧ PlainPart "b" ∧ "a" ≠ ".." ∧ "b" ≠ ".." ∧ "a" ≠ "b" ∧
    let M₁ := init "/" (some "a") (some "/r") false none .RocksDBStore
    let M₂ := init "/" (some "b") (some "/r") false none .RocksDBStore
    ∀ ops₁ ops₂ t₂ s₂ store₂ p₂ dir₂, (M₂.run ops₂).lookup_store t₂ s₂ = some store₂ →
      Descending store₂.name → store₂.partition_dir p₂ = some dir₂ →
      ∀ q : PosixPath, q.Within "/" dir₂ →
      (∀ t₁ s₁ store₁ p₁ dir₁, (M₁.run ops₁).lookup_store t₁ s₁ = some store₁ →
        Descending store₁.name → store₁.partition_dir p₁ = some dir₁ → ¬ q.Within "/" dir₁) ∧
      (∀ dir, (M₁.run ops₁).clear_stores = .ok (some dir) → ¬ q.Within "/" dir) :=
  have ha : PlainPart "a" := ⟨by decide, by decide, by decide⟩
  have hb : PlainPart "b" := ⟨by decide, by decide, by decide⟩
  ⟨ha, hb, by decide, by decide, by decide,
    group_state_dirs_disjoint "/" "/r" "a" "b" ha hb (by decide) (by decide) (by decide)
      false false none none .RocksDBStore .RocksDBStore⟩

end StateStoreManager

/-- Two ways one manager's store files end up in another's tree under `/r`. Group ids `a` and
    `a/b` nest: partition 0 of store `s` of the second lies in `/r/a`. With group ids `a` and
    `b`, a store of the second named `../a` keeps partition 0 in `/r/b/../a/0`, also in `/r/a`.
    `clear_stores` on the manager of group `a` removes `/r/a`. -/
theorem group_state_dirs_overlap :
    ((StateStoreManager.init "/" (some "a/b") (some "/r") false none .RocksDBStore).run
        [.register_store none "s" none none]).lookup_store none "s" =
      some ⟨.RocksDBStore, "s", none, some "/r/a/b", none, []⟩ ∧
    Store.partition_dir ⟨.RocksDBStore, "s", none, some "/r/a/b", none, []⟩ 0 =
      some (PosixPath.of_str "/r/a/b/s/0") ∧
    ((StateStoreManager.init "/" (some "b") (some "/r") false none .RocksDBStore).run
        [.register_store none "../a" none none]).lookup_store none "../a" =
      some ⟨.RocksDBStore, "../a", none, some "/r/b", none, []⟩ ∧
    Store.partition_dir ⟨.RocksDBStore, "../a", none, some "/r/b", none, []⟩ 0 =
      some (PosixPath.of_str "/r/b/../a/0") ∧
    (PosixPath.of_str "/r/a/b/s/0").Within "/" (PosixPath.of_str "/r/a") ∧
    (PosixPath.of_str "/r/b/../a/0").Within "/" (PosixPath.of_str "/r/a") ∧
    ((StateStoreManager.init "/" (some "a") (some "/r") false none .RocksDBStore).run
        [.register_store none "s" none none]).clear_stores = .ok (some (PosixPath.of_str "/r/a")) :=
  ⟨rfl, by decide, rfl, by decide, by decide, by decide, rfl⟩

end quixstreams.state
