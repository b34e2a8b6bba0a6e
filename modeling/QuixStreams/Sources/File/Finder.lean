import QuixStreams.Pathlib
import QuixStreams.Builtins
import Mathlib.Data.List.Sort

namespace quixstreams.sources.community.file

/-- What a path names on disk: a file (any entry that is not a directory), or a directory with
    the entries `iterdir()` lists, in the order it lists them. There are no symbolic links. -/
inductive Entry where
  | file (name : String)
  | dir (name : String) (entries : List Entry)

/-- `path.name` of the entry's path. -/
def Entry.name : Entry → String
  | .file name => name
  | .dir name _ => name

/-- `sorted(entries, key=lambda x: x.name)`: a stable sort by Python's string `<`. -/
def sort_by_name (entries : List Entry) : List Entry :=
  entries.insertionSort fun a b => str_lt b.name a.name = false

theorem sort_by_name_perm (entries : List Entry) : (sort_by_name entries).Perm entries :=
  List.perm_insertionSort _ entries

theorem mem_sort_by_name {entries : List Entry} {e : Entry} :
    e ∈ sort_by_name entries ↔ e ∈ entries :=
  (sort_by_name_perm entries).mem_iff

theorem Entry.sizeOf_lt_of_mem_sort_by_name {name : String} {entries : List Entry} {e : Entry}
    (h : e ∈ sort_by_name entries) : sizeOf e < sizeOf (Entry.dir name entries) := by
  have := List.sizeOf_lt_of_mem (mem_sort_by_name.mp h)
  simp only [Entry.dir.sizeOf_spec]
  omega

/-- `_file_finder(filepath)`, for the entry `filepath` names. -/
def file_finder (filepath : PosixPath) : Entry → List PosixPath
  | .file _ => [filepath]
  | .dir _ entries => (sort_by_name entries).attach.flatMap fun i =>
      file_finder (filepath.child i.1.name) i.1
termination_by e => e
decreasing_by exact Entry.sizeOf_lt_of_mem_sort_by_name i.2

@[simp] theorem file_finder_file (filepath : PosixPath) (name : String) :
    file_finder filepath (.file name) = [filepath] := by
  rw [file_finder]

theorem file_finder_dir (filepath : PosixPath) (name : String) (entries : List Entry) :
    file_finder filepath (.dir name entries) =
      (sort_by_name entries).flatMap fun e => file_finder (filepath.child e.name) e := by
  rw [file_finder]
  simp only [List.flatMap, List.attach_map_val _ fun e => file_finder (filepath.child e.name) e]

/-- A directory lists each name once. -/
def Entry.WF : Entry → Prop
  | .file _ => True
  | .dir _ entries => (entries.map Entry.name).Nodup ∧ ∀ e ∈ entries, e.WF

@[simp] theorem Entry.wf_file (name : String) : (Entry.file name).WF := by
  rw [Entry.WF]; trivial

@[simp] theorem Entry.wf_dir (name : String) (entries : List Entry) :
    (Entry.dir name entries).WF ↔ (entries.map Entry.name).Nodup ∧ ∀ e ∈ entries, e.WF := by
  rw [Entry.WF]

/-- `rel` leads from an entry down to a file: the names on the way, the file's last (none when
    the entry is a file itself). -/
inductive Entry.FileAt : Entry → List String → Prop
  | file (name : String) : Entry.FileAt (.file name) []
  | dir {name : String} {entries : List Entry} {e : Entry} {rel : List String}
      (hmem : e ∈ entries) (hfile : e.FileAt rel) : Entry.FileAt (.dir name entries) (e.name :: rel)

/-- `rel` leads from an entry down to the entry `sub`. -/
inductive Entry.EntryAt : Entry → List String → Entry → Prop
  | refl (e : Entry) : Entry.EntryAt e [] e
  | dir {name : String} {entries : List Entry} {e sub : Entry} {rel : List String}
      (hmem : e ∈ entries) (hsub : e.EntryAt rel sub) : Entry.EntryAt (.dir name entries) (e.name :: rel) sub

@[simp] theorem Entry.fileAt_file_iff {name : String} {rel : List String} :
    (Entry.file name).FileAt rel ↔ rel = [] := by
  constructor
  · rintro ⟨⟩; rfl
  · rintro rfl; exact .file name

@[simp] theorem Entry.fileAt_dir_iff {name : String} {entries : List Entry} {rel : List String} :
    (Entry.dir name entries).FileAt rel ↔ ∃ e ∈ entries, ∃ rel', rel = e.name :: rel' ∧ e.FileAt rel' := by
  constructor
  · rintro ⟨⟩; exact ⟨_, ‹_›, _, rfl, ‹_›⟩
  · rintro ⟨e, hmem, rel', rfl, hfile⟩; exact .dir hmem hfile

/-- Below a directory whose names are distinct, the first name of a path picks the entry. -/
theorem Entry.fileAt_append {e sub : Entry} {d : List String} (hsub : e.EntryAt d sub) (hwf : e.WF)
    (rel : List String) : e.FileAt (d ++ rel) ↔ sub.FileAt rel := by
  induction hsub with
  | refl => rfl
  | @dir name entries e sub d hmem hsub ih =>
    obtain ⟨hnodup, hall⟩ := (Entry.wf_dir _ _).mp hwf
    rw [← ih (hall e hmem), List.cons_append, Entry.fileAt_dir_iff]
    constructor
    · rintro ⟨e', hmem', rel', heq, hfile⟩
      obtain ⟨hname, rfl⟩ := List.cons.inj heq
      rwa [List.inj_on_of_nodup_map hnodup hmem hmem' hname]
    · exact fun hfile => ⟨e, hmem, _, rfl, hfile⟩

section finder

variable (filepath : PosixPath) (e : Entry)

theorem mem_file_finder (q : PosixPath) :
    q ∈ file_finder filepath e ↔ ∃ rel, e.FileAt rel ∧ q = filepath.joinpath rel := by
  induction filepath, e using file_finder.induct generalizing q with
  | case1 filepath name => simp
  | case2 filepath name entries ih =>
    rw [file_finder_dir]
    simp only [List.mem_flatMap, Entry.fileAt_dir_iff]
    constructor
    · rintro ⟨e, hsorted, hq⟩
      obtain ⟨rel, hfile, rfl⟩ := (ih ⟨e, hsorted⟩ q).mp hq
      exact ⟨e.name :: rel, ⟨e, mem_sort_by_name.mp hsorted, rel, rfl, hfile⟩, by simp⟩
    · rintro ⟨_, ⟨e, hmem, rel, rfl, hfile⟩, rfl⟩
      have hsorted := mem_sort_by_name.mpr hmem
      exact ⟨e, hsorted, (ih ⟨e, hsorted⟩ _).mpr ⟨rel, hfile, by simp⟩⟩

/-- No entry of the sorted list has a name below an earlier one's. -/
theorem sort_by_name_sorted (entries : List Entry) :
    (sort_by_name entries).Pairwise fun a b => str_lt b.name a.name = false := by
  have htotal : IsTotal Entry fun a b => str_lt b.name a.name = false := ⟨fun a b => by
    cases hba : str_lt b.name a.name
    · exact .inl rfl
    · exact .inr (str_lt_asymm hba)⟩
  have htrans : IsTrans Entry fun a b => str_lt b.name a.name = false := ⟨fun a b c hab hbc => by
    cases hca : str_lt c.name a.name
    · rfl
    · rcases str_lt_or_lt hca b.name with h | h <;> simp_all⟩
  exact List.sorted_insertionSort _ entries

/-- A directory of files yields the paths of its files, and nothing else. -/
theorem mem_file_finder_files {dir : PosixPath} {name : String} {names : List String} {q : PosixPath} :
    q ∈ file_finder dir (.dir name (names.map .file)) ↔ ∃ file ∈ names, q = dir.child file := by
  simp only [mem_file_finder, Entry.fileAt_dir_iff, List.mem_map]
  constructor
  · rintro ⟨_, ⟨_, ⟨file, hfile, rfl⟩, rel, rfl, hat⟩, rfl⟩
    rw [Entry.fileAt_file_iff.mp hat]
    exact ⟨file, hfile, rfl⟩
  · rintro ⟨file, hfile, rfl⟩
    exact ⟨[file], ⟨_, ⟨file, hfile, rfl⟩, [], rfl, .file file⟩, rfl⟩

theorem sort_by_name_pairwise {entries : List Entry} (h : (entries.map Entry.name).Nodup) :
    (sort_by_name entries).Pairwise fun a b => str_lt a.name b.name := by
  have hnodup : ((sort_by_name entries).map Entry.name).Nodup :=
    ((sort_by_name_perm entries).map Entry.name).nodup_iff.mpr h
  refine ((sort_by_name_sorted entries).and (List.pairwise_map.mp hnodup)).imp ?_
  rintro a b ⟨hba, hne⟩
  simpa [hba] using str_lt_total hne

/-- Every file below `filepath` comes after those below an earlier name, in Python's order. -/
theorem file_finder_pairwise (hwf : e.WF) :
    (file_finder filepath e).Pairwise fun q q' => seq_lt str_lt q.parts q'.parts := by
  induction filepath, e using file_finder.induct with
  | case1 filepath name => simp
  | case2 filepath name entries ih =>
    obtain ⟨hnodup, hall⟩ := (Entry.wf_dir _ _).mp hwf
    rw [file_finder_dir, List.pairwise_flatMap]
    refine ⟨fun e he => ih ⟨e, he⟩ (hall e (mem_sort_by_name.mp he)),
      (sort_by_name_pairwise hnodup).imp fun {a b} hab q hq q' hq' => ?_⟩
    obtain ⟨rel, -, rfl⟩ := (mem_file_finder _ _ q).mp hq
    obtain ⟨rel', -, rfl⟩ := (mem_file_finder _ _ q').mp hq'
    have hne : a.name ≠ b.name := fun h => by simp [h] at hab
    simp [PosixPath.joinpath, PosixPath.child, seq_lt, hne, hab]

theorem file_finder_infix {d : List String} {sub : Entry} (hsub : e.EntryAt d sub) :
    file_finder (filepath.joinpath d) sub <:+: file_finder filepath e := by
  induction hsub generalizing filepath with
  | refl => simp
  | @dir name entries e sub d hmem hsub ih =>
    rw [file_finder_dir, ← PosixPath.child_joinpath]
    exact (ih _).trans (List.infix_of_mem_flatten (List.mem_map_of_mem _ (mem_sort_by_name.mpr hmem)))

end finder

/-- `_file_finder(p)` yields `p` alone when `p` is a file. Below a directory it yields every file
    exactly once and nothing else, in Python's order of the sequences of names from `p` down, and
    the files below any one directory as one unbroken run. Only distinct names per directory are
    assumed; termination is by the size of the tree. -/
theorem file_finder_spec (filepath : PosixPath) (e : Entry) (hwf : e.WF) :
    (∀ name, file_finder filepath (.file name) = [filepath]) ∧
    (∃ rels : List (List String), file_finder filepath e = rels.map filepath.joinpath ∧
      (∀ rel, rel ∈ rels ↔ e.FileAt rel) ∧ rels.Pairwise fun rel rel' => seq_lt str_lt rel rel') ∧
    (file_finder filepath e).Nodup ∧
    (∀ d sub, e.EntryAt d sub → ∃ pre post,
      file_finder filepath e = pre ++ file_finder (filepath.joinpath d) sub ++ post ∧
      ∀ q ∈ pre ++ post, ¬ filepath.parts ++ d <+: q.parts) := by
  have hpairwise := file_finder_pairwise filepath e hwf
  have hnodup : (file_finder filepath e).Nodup := hpairwise.imp fun {q q'} h heq => by simp [heq] at h
  let rels := (file_finder filepath e).map fun q => q.parts.drop filepath.parts.length
  have hrel : ∀ q ∈ file_finder filepath e, filepath.joinpath (q.parts.drop filepath.parts.length) = q := by
    intro q hq
    obtain ⟨rel, -, rfl⟩ := (mem_file_finder _ _ q).mp hq
    simp [PosixPath.joinpath]
  refine ⟨fun name => file_finder_file filepath name, ⟨rels, ?_, fun rel => ?_, ?_⟩, hnodup, ?_⟩
  · rw [List.map_map]
    exact ((List.map_congr_left hrel).trans (List.map_id _)).symm
  · simp only [rels, List.mem_map, mem_file_finder]
    constructor
    · rintro ⟨_, ⟨rel', hfile, rfl⟩, rfl⟩
      simpa [PosixPath.joinpath] using hfile
    · exact fun hfile => ⟨_, ⟨rel, hfile, rfl⟩, by simp [PosixPath.joinpath]⟩
  · refine List.pairwise_map.mpr (hpairwise.imp_of_mem fun {q q'} hq hq' h => ?_)
    obtain ⟨rel, -, rfl⟩ := (mem_file_finder _ _ q).mp hq
    obtain ⟨rel', -, rfl⟩ := (mem_file_finder _ _ q').mp hq'
    simpa [PosixPath.joinpath] using h
  · intro d sub hsub
    obtain ⟨pre, post, hsplit⟩ := file_finder_infix filepath e hsub
    refine ⟨pre, post, hsplit.symm, fun q hq hprefix => ?_⟩
    have hq' : q ∈ file_finder filepath e := by
      rw [← hsplit]; rcases List.mem_append.mp hq with h | h <;> simp [h]
    obtain ⟨rel, hfile, rfl⟩ := (mem_file_finder _ _ q).mp hq'
    obtain ⟨rel', hrel'⟩ := hprefix
    simp only [PosixPath.joinpath, List.append_assoc, List.append_cancel_left_eq] at hrel'
    subst hrel'
    have hmid : filepath.joinpath (d ++ rel') ∈ file_finder (filepath.joinpath d) sub :=
      (mem_file_finder _ _ _).mpr ⟨rel', (Entry.fileAt_append hsub hwf rel').mp hfile,
        by simp [PosixPath.joinpath]⟩
    rw [← hsplit] at hnodup
    rcases List.mem_append.mp hq with hpre | hpost
    · exact List.disjoint_of_nodup_append (List.nodup_append.mp hnodup).1 hpre hmid
    · exact List.disjoint_of_nodup_append hnodup (List.mem_append_right pre hmid) hpost

theorem file_finder_spec_topic :
    let tree := Entry.dir "topic" [.dir "1" [.file "b", .file "a"], .dir "0" [.file "c"]]
    let filepath : PosixPath := ⟨"/", ["topic"]⟩
    tree.WF ∧
    (∀ name, file_finder filepath (.file name) = [filepath]) ∧
    (∃ rels : List (List String), file_finder filepath tree = rels.map filepath.joinpath ∧
      (∀ rel, rel ∈ rels ↔ tree.FileAt rel) ∧ rels.Pairwise fun rel rel' => seq_lt str_lt rel rel') ∧
    (file_finder filepath tree).Nodup ∧
    (∀ d sub, tree.EntryAt d sub → ∃ pre post,
      file_finder filepath tree = pre ++ file_finder (filepath.joinpath d) sub ++ post ∧
      ∀ q ∈ pre ++ post, ¬ filepath.parts ++ d <+: q.parts) :=
  have hwf : (Entry.dir "topic" [.dir "1" [.file "b", .file "a"], .dir "0" [.file "c"]]).WF := by
    simp [Entry.name]
  ⟨hwf, file_finder_spec _ _ hwf⟩

theorem of_str_topic : PosixPath.of_str "/topic" = ⟨"/", ["topic"]⟩ := by decide

/-- The files of a topic directory whose partitions `1` and `0` are listed out of order. -/
theorem file_finder_two_partitions :
    file_finder (PosixPath.of_str "/topic") (.dir "topic" [.dir "1" [.file "b"], .dir "0" [.file "a"]]) =
      [⟨"/", ["topic", "0", "a"]⟩, ⟨"/", ["topic", "1", "b"]⟩] := by
  have hlt : str_lt "0" "1" = true := by decide
  simp [of_str_topic, hlt, file_finder_dir, sort_by_name, Entry.name, PosixPath.child]

/-- The files of a topic directory whose partitions `0` and `00` have one value. -/
theorem file_finder_zero_zero :
    file_finder (PosixPath.of_str "/topic")
      (.dir "topic" [.dir "1" [.file "c"], .dir "00" [.file "b"], .dir "0" [.file "a"]]) =
        [⟨"/", ["topic", "0", "a"]⟩, ⟨"/", ["topic", "00", "b"]⟩, ⟨"/", ["topic", "1", "c"]⟩] := by
  have h₁ : str_lt "00" "1" = true := by decide
  have h₂ : str_lt "0" "00" = true := by decide
  have h₃ : str_lt "0" "1" = true := by decide
  simp [of_str_topic, h₁, h₂, h₃, file_finder_dir, sort_by_name, Entry.name, PosixPath.child]

/-- The file of a topic directory with one partition holding one file. -/
theorem file_finder_one_file :
    file_finder (PosixPath.of_str "/topic") (.dir "topic" [.dir "0" [.file "data"]]) =
      [⟨"/", ["topic", "0", "data"]⟩] := by
  simp [of_str_topic, file_finder_dir, sort_by_name, Entry.name, PosixPath.child]

end quixstreams.sources.community.file
