import QuixStreams.Sources.File.Source
import Mathlib.Algebra.Order.Field.Rat
import Mathlib.Algebra.Order.Field.Basic
import Mathlib.Tactic.NormNum.Basic

namespace quixstreams.sources.community.file

/-- Modelled from the spec: one partition's records replayed in order, each one produced after
    a sleep of `(ts - ts_prev) / 1000` seconds when it is later than the partition's previous
    record `ts_prev`, and at once otherwise or when it is the partition's first. -/
def paced_replay : Option Int → List Record → List Event
  | _, [] => []
  | ts_prev, record :: records =>
    (match ts_prev with
     | some ts_prev =>
       if record.timestamp > ts_prev then
         [.sleep (((record.timestamp - ts_prev : Int) : ℚ) / 1000)] else []
     | none => []) ++
    produce record :: paced_replay (some record.timestamp) records

/-- The layout the source is meant for: every entry is a directory named by a decimal numeral
    and holding files, and no two numerals have the same value. -/
structure ReplayLayout (partitions : List Entry) : Prop where
  files : ∀ partition ∈ partitions, ∃ names : List String,
    partition = .dir partition.name (names.map .file)
  numeral : ∀ partition ∈ partitions, (py_int partition.name).isSome
  distinct : (partitions.map fun partition => py_int partition.name).Nodup

/-- The timestamp of the last of `records`, `previous` when there is none. -/
def last_timestamp (previous : Option Int) (records : List Record) : Option Int :=
  records.foldl (fun _ record => some record.timestamp) previous

theorem paced_replay_append (previous : Option Int) (records records' : List Record) :
    paced_replay previous (records ++ records') =
      paced_replay previous records ++ paced_replay (last_timestamp previous records) records' := by
  induction records generalizing previous with
  | nil => rfl
  | cons record records ih => simp [paced_replay, ih, last_timestamp]

theorem flush_not_mem_paced_replay (previous : Option Int) (records : List Record) :
    Event.flush ∉ paced_replay previous records := by
  induction records generalizing previous with
  | nil => simp [paced_replay]
  | cons record records ih =>
    cases previous with
    | none => simp [paced_replay, produce, ih]
    | some previous => simp only [paced_replay]; split_ifs <;> simp [produce, ih]

@[simp] theorem filter_paced_replay (previous : Option Int) (records : List Record) :
    (paced_replay previous records).filter (· ≠ .flush) = paced_replay previous records :=
  List.filter_eq_self.mpr fun _ he => by
    simpa using ne_of_mem_of_not_mem he (flush_not_mem_paced_replay previous records)

theorem time_diff_pos_iff (current previous : Int) :
    ((current - previous : Int) : ℚ) / 1000 > 0 ↔ current > previous := by
  rw [gt_iff_lt, div_pos_iff_of_pos_right (by norm_num : (0 : ℚ) < 1000), Int.cast_pos, sub_pos]

/-- In replay mode the record loop paces the records from the last timestamp it saw. -/
theorem FileSource.read_records_replay (self : FileSource) (hreplay : self.as_replay = true)
    (records : List Record) :
    self.read_records records =
      ({ self with previous_timestamp := last_timestamp self.previous_timestamp records },
        paced_replay self.previous_timestamp records) := by
  induction records generalizing self with
  | nil => rfl
  | cons record records ih =>
    rw [FileSource.read_records,
      ih _ (by simp [FileSource.read_record, FileSource.replay_delay, hreplay])]
    cases hprevious : self.previous_timestamp <;>
      simp [FileSource.read_record, FileSource.replay_delay, hreplay, hprevious, paced_replay,
        last_timestamp, time_diff_pos_iff]

/-- On the layout the source is meant for, with a file in every partition directory, the
    partition count `default_topic()` gives its topic is the number of distinct values `int()`
    gives the directories of the files `run` reads. -/
theorem FileSource.get_partition_count_replay_layout (filepath : PosixPath) (name : String)
    {partitions : List Entry} (hlayout : ReplayLayout partitions)
    (hnonempty : ∀ partition ∈ partitions, partition ≠ .dir partition.name []) :
    ∃ values : List (Option Int), values.Nodup ∧
      (∀ value, value ∈ values ↔
        ∃ file ∈ file_finder filepath (.dir name partitions), py_int file.parent.name = value) ∧
      FileSource.get_partition_count (.dir name partitions) = some values.length := by
  refine ⟨partitions.map fun partition => py_int partition.name, hlayout.distinct, fun value => ?_,
    by simp [FileSource.get_partition_count]⟩
  simp only [List.mem_map, file_finder_dir, List.mem_flatMap, mem_sort_by_name]
  constructor
  · rintro ⟨partition, hmem, rfl⟩
    obtain ⟨names, hentry⟩ := hlayout.files partition hmem
    obtain ⟨file, hfile⟩ : ∃ file, file ∈ names := by
      cases names with
      | nil => exact absurd hentry (hnonempty partition hmem)
      | cons file _ => exact ⟨file, List.mem_cons_self _ _⟩
    refine ⟨(filepath.child partition.name).child file, ⟨partition, hmem, ?_⟩, by simp⟩
    rw [hentry]
    exact mem_file_finder_files.mpr ⟨file, hfile, rfl⟩
  · rintro ⟨q, ⟨partition, hmem, hq⟩, rfl⟩
    obtain ⟨names, hentry⟩ := hlayout.files partition hmem
    rw [hentry] at hq
    obtain ⟨file, -, rfl⟩ := mem_file_finder_files.mp hq
    exact ⟨partition, hmem, by simp [Entry.name]⟩

end quixstreams.sources.community.file
