import QuixStreams.Sources.File.Replay
import Mathlib.Algebra.Order.BigOperators.Group.List
import Mathlib.Tactic.Linarith
import Mathlib.Tactic.Ring

namespace quixstreams.sources.community.file

/-- `runs` cuts `files` into maximal runs of consecutive files whose directories have the same
    partition value, each run with its value. -/
structure PartitionRuns (files : List PosixPath) (runs : List (Int × List PosixPath)) : Prop where
  flatten : files = runs.flatMap Prod.snd
  nonempty : ∀ run ∈ runs, run.2 ≠ []
  value : ∀ run ∈ runs, ∀ file ∈ run.2, py_int file.parent.name = some run.1
  maximal : (runs.map Prod.fst).Chain' (· ≠ ·)

namespace PartitionRuns

theorem nil : PartitionRuns [] [] := ⟨rfl, by simp, by simp, trivial⟩

/-- A file with the first run's value joins that run. -/
theorem extend {files : List PosixPath} {partition : Int} {run : List PosixPath}
    {runs : List (Int × List PosixPath)} (h : PartitionRuns files ((partition, run) :: runs))
    {file : PosixPath} (hfile : py_int file.parent.name = some partition) :
    PartitionRuns (file :: files) ((partition, file :: run) :: runs) where
  flatten := by simp [h.flatten]
  nonempty r hr := by
    rcases List.mem_cons.mp hr with rfl | hr
    · simp
    · exact h.nonempty r (List.mem_cons_of_mem _ hr)
  value r hr f hf := by
    rcases List.mem_cons.mp hr with rfl | hr
    · rcases List.mem_cons.mp hf with rfl | hf
      · exact hfile
      · exact h.value _ (List.mem_cons_self _ _) f hf
    · exact h.value r (List.mem_cons_of_mem _ hr) f hf
  maximal := h.maximal

/-- A file whose value differs from the first run's opens a run of its own. -/
theorem cons {files : List PosixPath} {runs : List (Int × List PosixPath)}
    (h : PartitionRuns files runs) {file : PosixPath} {partition : Int}
    (hfile : py_int file.parent.name = some partition)
    (hnext : ∀ run ∈ runs.head?, run.1 ≠ partition) :
    PartitionRuns (file :: files) ((partition, [file]) :: runs) where
  flatten := by simp [h.flatten]
  nonempty r hr := by
    rcases List.mem_cons.mp hr with rfl | hr
    · simp
    · exact h.nonempty r hr
  value r hr f hf := by
    rcases List.mem_cons.mp hr with rfl | hr
    · rw [List.mem_singleton.mp hf]; exact hfile
    · exact h.value r hr f hf
  maximal := by
    cases runs with
    | nil => exact .nil
    | cons run runs => exact .cons (Ne.symm (hnext run rfl)) h.maximal

end PartitionRuns

/-- The timestamp the pacing of `partition` resumes from: the last one seen when the source is
    already on that partition, none otherwise. -/
def FileSource.resume_timestamp (self : FileSource) (partition : Int) : Option Int :=
  if self.previous_partition = some partition then self.previous_timestamp else none

/-- Modelled from the spec: each run of files paced on its own, the first one resuming the
    pacing `self` is in. -/
def FileSource.paced_runs (self : FileSource) (file_read : PosixPath → List Record) :
    List (Int × List PosixPath) → List Event
  | [] => []
  | run :: runs => paced_replay (self.resume_timestamp run.1) (run.2.flatMap file_read) ++
      runs.flatMap fun run => paced_replay none (run.2.flatMap file_read)

section pacing

variable (file_read : PosixPath → List Record)

/-- One file in replay mode: its records paced from where its partition's pacing resumes, then
    the flush; the source is then on the file's partition. -/
theorem FileSource.read_files_cons_replay (self : FileSource) (hreplay : self.as_replay = true)
    {file : PosixPath} {partition : Int} (hpartition : py_int file.parent.name = some partition)
    (files : List PosixPath) :
    let next : FileSource := { self with
      previous_timestamp := last_timestamp (self.resume_timestamp partition) (file_read file),
      previous_partition := some partition }
    self.read_files file_read (file :: files) =
      (paced_replay (self.resume_timestamp partition) (file_read file) ++
        .flush :: (next.read_files file_read files).1, (next.read_files file_read files).2) := by
  intro next
  by_cases hsame : self.previous_partition = some partition
  · have hcheck : self.check_file_partition_number file = .ok self := by
      simp [FileSource.check_file_partition_number, hpartition, hsame]
    have hnext : next = { self with
        previous_timestamp := last_timestamp self.previous_timestamp (file_read file) } := by
      simp [next, FileSource.resume_timestamp, hsame]
    simp only [FileSource.read_files, hcheck, FileSource.read_records_replay _ hreplay, hnext,
      FileSource.resume_timestamp, if_pos hsame]
  · let reset : FileSource :=
      { self with previous_timestamp := none, previous_partition := some partition }
    have hcheck : self.check_file_partition_number file = .ok reset := by
      simp [FileSource.check_file_partition_number, hpartition, hsame, reset]
    simp only [FileSource.read_files, hcheck, FileSource.read_records_replay reset hreplay, next,
      reset, FileSource.resume_timestamp, if_neg hsame]

theorem FileSource.read_files_partition_runs (files : List PosixPath)
    (hnumeral : ∀ file ∈ files, (py_int file.parent.name).isSome) (self : FileSource)
    (hreplay : self.as_replay = true) :
    ∃ events final runs, self.read_files file_read files = (events, .ok final) ∧
      PartitionRuns files runs ∧
        events.filter (· ≠ .flush) = self.paced_runs file_read runs := by
  induction files generalizing self with
  | nil => exact ⟨[], self, [], rfl, .nil, rfl⟩
  | cons file files ih =>
    obtain ⟨partition, hpartition⟩ := Option.isSome_iff_exists.mp (hnumeral file (.head _))
    set next : FileSource := { self with
      previous_timestamp := last_timestamp (self.resume_timestamp partition) (file_read file),
      previous_partition := some partition } with hnext
    obtain ⟨events, final, runs, hread, hruns, hfilter⟩ :=
      ih (fun f hf => hnumeral f (List.mem_cons_of_mem _ hf)) next hreplay
    rw [FileSource.read_files_cons_replay file_read self hreplay hpartition, ← hnext, hread]
    have hevents : (paced_replay (self.resume_timestamp partition) (file_read file) ++
        .flush :: events).filter (· ≠ .flush) =
        paced_replay (self.resume_timestamp partition) (file_read file) ++
          next.paced_runs file_read runs := by
      rw [List.filter_append, filter_paced_replay, List.filter_cons_of_neg (by simp), hfilter]
    cases runs with
    | nil =>
      refine ⟨_, final, [(partition, [file])], rfl, hruns.cons hpartition (by simp), ?_⟩
      rw [hevents]; simp [FileSource.paced_runs]
    | cons run runs =>
      by_cases hsame : run.1 = partition
      · -- the file opens the first run of the rest: one run, paced without a restart
        obtain ⟨value, rest⟩ := run
        subst hsame
        refine ⟨_, final, (value, file :: rest) :: runs, rfl, hruns.extend hpartition, ?_⟩
        have hresume : next.resume_timestamp value =
            last_timestamp (self.resume_timestamp value) (file_read file) := by
          simp [FileSource.resume_timestamp, hnext]
        rw [hevents, FileSource.paced_runs, FileSource.paced_runs, hresume, List.flatMap_cons,
          paced_replay_append, List.append_assoc]
      · -- the file's partition differs from the next run's: a run of its own, then a restart
        refine ⟨_, final, (partition, [file]) :: run :: runs, rfl,
          hruns.cons hpartition (by simpa using hsame), ?_⟩
        have hresume : next.resume_timestamp run.1 = none := by
          simp [FileSource.resume_timestamp, hnext, Ne.symm hsame]
        rw [hevents, FileSource.paced_runs, FileSource.paced_runs, hresume]
        simp [FileSource.paced_runs]

/-- A source on no partition yet paces every run from none. -/
theorem FileSource.paced_runs_of_fresh (self : FileSource) (hfresh : self.previous_partition = none)
    (runs : List (Int × List PosixPath)) :
    self.paced_runs file_read runs =
      runs.flatMap fun run => paced_replay none (run.2.flatMap file_read) := by
  cases runs with
  | nil => rfl
  | cons run runs => simp [FileSource.paced_runs, FileSource.resume_timestamp, hfresh]

end pacing

/-- In replay mode, for every tree whose files all lie in directories named by numerals, one call
    of `run` returns, and apart from the flushes its events are these: the files in the order of
    `_file_finder` are cut into maximal runs of consecutive files whose directory names have the
    same integer value, and each run's records are paced on their own, with no sleep before its
    first record. Directories are not the unit: two adjacent directories with one value, such
    as `0` and `00`, share one pacing. -/
theorem run_paces_partition_runs (filepath : String) (tree : Entry)
    (file_read : PosixPath → List Record)
    (hnumeral : ∀ file ∈ file_finder (PosixPath.of_str filepath) tree,
      (py_int file.parent.name).isSome) :
    ∃ events final, (FileSource.init filepath true).run tree file_read = (events, .ok final) ∧
      ∃ runs, PartitionRuns (file_finder (PosixPath.of_str filepath) tree) runs ∧
        events.filter (· ≠ .flush) =
          runs.flatMap fun run => paced_replay none (run.2.flatMap file_read) := by
  obtain ⟨events, final, runs, hread, hruns, hfilter⟩ :=
    FileSource.read_files_partition_runs file_read _ hnumeral (FileSource.init filepath true) rfl
  exact ⟨events, final, hread, runs, hruns,
    hfilter.trans (FileSource.paced_runs_of_fresh file_read _ rfl runs)⟩

theorem run_paces_partition_runs_zero_zero :
    let tree :=
      Entry.dir "topic" [.dir "1" [.file "c"], .dir "00" [.file "b"], .dir "0" [.file "a"]]
    let file_read : PosixPath → List Record := fun file => [⟨file.name, "v", 0⟩]
    (∀ file ∈ file_finder (PosixPath.of_str "/topic") tree,
      (py_int file.parent.name).isSome) ∧
    ∃ events final, (FileSource.init "/topic" true).run tree file_read = (events, .ok final) ∧
      ∃ runs, PartitionRuns (file_finder (PosixPath.of_str "/topic") tree) runs ∧
        events.filter (· ≠ .flush) =
          runs.flatMap fun run => paced_replay none (run.2.flatMap file_read) :=
  have hnumeral : ∀ file ∈ file_finder (PosixPath.of_str "/topic")
      (.dir "topic" [.dir "1" [.file "c"], .dir "00" [.file "b"], .dir "0" [.file "a"]]),
        (py_int file.parent.name).isSome := by
    rw [file_finder_zero_zero]; decide
  ⟨hnumeral, run_paces_partition_runs "/topic" _ _ hnumeral⟩

/-- The seconds that `events` spend in `time.sleep`. -/
def slept : List Event → ℚ
  | [] => 0
  | .sleep seconds :: events => seconds + slept events
  | .produce _ _ _ :: events => slept events
  | .flush :: events => slept events

/-- The seconds from the first of `records`' timestamps to the last, as the data recorded them. -/
def recorded_span : List Record → ℚ
  | [] => 0
  | first :: records =>
    (((records.getLast?.getD first).timestamp - first.timestamp : Int) : ℚ) / 1000

@[simp] theorem slept_append (events events' : List Event) :
    slept (events ++ events') = slept events + slept events' := by
  induction events with
  | nil => simp [slept]
  | cons event events ih => cases event <;> simp [slept, ih, add_assoc]

theorem slept_filter_flush (events : List Event) :
    slept (events.filter (· ≠ .flush)) = slept events := by
  induction events with
  | nil => rfl
  | cons event events ih => cases event <;> simp_all [slept]

theorem slept_flatMap {α : Type} (f : α → List Event) (items : List α) :
    slept (items.flatMap f) = (items.map fun item => slept (f item)).sum := by
  induction items with
  | nil => rfl
  | cons item items ih => simp [ih]

/-- One record paced from `previous`: the sleep `_replay_delay` starts, if the record is later. -/
theorem slept_paced_replay_cons (previous : Int) (record : Record) (records : List Record) :
    slept (paced_replay (some previous) (record :: records)) =
      max (((record.timestamp - previous : Int) : ℚ) / 1000) 0 +
        slept (paced_replay (some record.timestamp) records) := by
  simp only [paced_replay]
  split_ifs with h
  · rw [max_eq_left ((time_diff_pos_iff _ _).mpr h).le]; simp [slept, produce]
  · rw [max_eq_right (not_lt.mp (mt (time_diff_pos_iff _ _).mp h))]; simp [slept, produce]

/-- The seconds from `first` to `last` are those from `first` to `middle` and on to `last`. -/
theorem time_diff_add (first middle last : Int) :
    ((last - first : Int) : ℚ) / 1000 =
      ((middle - first : Int) : ℚ) / 1000 + ((last - middle : Int) : ℚ) / 1000 := by
  push_cast; ring

theorem span_le_slept_paced_replay (first : Record) (records : List Record) :
    (((records.getLast?.getD first).timestamp - first.timestamp : Int) : ℚ) / 1000 ≤
      slept (paced_replay (some first.timestamp) records) := by
  induction records generalizing first with
  | nil => simp [slept, paced_replay]
  | cons record records ih =>
    rw [slept_paced_replay_cons, List.getLast?_cons, Option.getD_some,
      time_diff_add first.timestamp record.timestamp]
    linarith [le_max_left (((record.timestamp - first.timestamp : Int) : ℚ) / 1000) 0, ih record]

theorem slept_paced_replay_of_sorted (first : Record) (records : List Record)
    (hsorted : (records.map Record.timestamp).Chain (· ≤ ·) first.timestamp) :
    slept (paced_replay (some first.timestamp) records) =
      (((records.getLast?.getD first).timestamp - first.timestamp : Int) : ℚ) / 1000 := by
  induction records generalizing first with
  | nil => simp [slept, paced_replay]
  | cons record records ih =>
    cases hsorted with
    | cons hle hrest =>
      have hdiff : (0 : ℚ) ≤ ((record.timestamp - first.timestamp : Int) : ℚ) / 1000 :=
        div_nonneg (Int.cast_nonneg.mpr (sub_nonneg.mpr hle)) (by norm_num)
      rw [slept_paced_replay_cons, List.getLast?_cons, Option.getD_some, ih record hrest,
        max_eq_left hdiff, ← time_diff_add]

/-- Paced from none, records sleep at least their recorded span. -/
theorem recorded_span_le_slept (records : List Record) :
    recorded_span records ≤ slept (paced_replay none records) := by
  cases records with
  | nil => exact le_refl 0
  | cons first records => exact span_le_slept_paced_replay first records

/-- Paced from none, records whose timestamps never go back sleep exactly their recorded span. -/
theorem slept_eq_recorded_span (records : List Record)
    (hsorted : (records.map Record.timestamp).Chain' (· ≤ ·)) :
    slept (paced_replay none records) = recorded_span records := by
  cases records with
  | nil => rfl
  | cons first records => exact slept_paced_replay_of_sorted first records hsorted

/-- In replay mode, for every tree whose files all lie in directories named by numerals, one call
    of `run` returns and sleeps, in all, at least the recorded spans of its runs of one partition
    value, summed; exactly that sum when within each run the timestamps never go back. The
    partitions are replayed one after another, so their spans add up rather than overlap, and a
    record older than the one before it is produced at once and the next delay counts from it. -/
theorem run_sleeps_recorded_spans (filepath : String) (tree : Entry)
    (file_read : PosixPath → List Record)
    (hnumeral : ∀ file ∈ file_finder (PosixPath.of_str filepath) tree,
      (py_int file.parent.name).isSome) :
    ∃ events final, (FileSource.init filepath true).run tree file_read = (events, .ok final) ∧
      ∃ runs, PartitionRuns (file_finder (PosixPath.of_str filepath) tree) runs ∧
        (runs.map fun run => recorded_span (run.2.flatMap file_read)).sum ≤ slept events ∧
        ((∀ run ∈ runs, ((run.2.flatMap file_read).map Record.timestamp).Chain' (· ≤ ·)) →
          slept events = (runs.map fun run => recorded_span (run.2.flatMap file_read)).sum) := by
  obtain ⟨events, final, runs, hread, hruns, hfilter⟩ :=
    FileSource.read_files_partition_runs file_read _ hnumeral (FileSource.init filepath true) rfl
  have hslept : slept events =
      (runs.map fun run => slept (paced_replay none (run.2.flatMap file_read))).sum := by
    rw [← slept_filter_flush, hfilter, FileSource.paced_runs_of_fresh file_read _ rfl,
      slept_flatMap]
  refine ⟨events, final, hread, runs, hruns, ?_, fun hsorted => ?_⟩
  · rw [hslept]
    exact List.sum_le_sum fun run _ => recorded_span_le_slept _
  · rw [hslept]
    exact congrArg List.sum
      (List.map_congr_left fun run hrun => slept_eq_recorded_span _ (hsorted run hrun))

theorem run_sleeps_recorded_spans_two_partitions :
    let tree := Entry.dir "topic" [.dir "1" [.file "b"], .dir "0" [.file "a"]]
    let file_read : PosixPath → List Record := fun _ => [⟨"k", "v", 0⟩, ⟨"k", "v", 2000⟩]
    (∀ file ∈ file_finder (PosixPath.of_str "/topic") tree,
      (py_int file.parent.name).isSome) ∧
    ∃ events final, (FileSource.init "/topic" true).run tree file_read = (events, .ok final) ∧
      ∃ runs, PartitionRuns (file_finder (PosixPath.of_str "/topic") tree) runs ∧
        (runs.map fun run => recorded_span (run.2.flatMap file_read)).sum ≤ slept events ∧
        ((∀ run ∈ runs, ((run.2.flatMap file_read).map Record.timestamp).Chain' (· ≤ ·)) →
          slept events = (runs.map fun run => recorded_span (run.2.flatMap file_read)).sum) :=
  have hnumeral : ∀ file ∈ file_finder (PosixPath.of_str "/topic")
      (.dir "topic" [.dir "1" [.file "b"], .dir "0" [.file "a"]]),
        (py_int file.parent.name).isSome := by
    rw [file_finder_two_partitions]; decide
  ⟨hnumeral, run_sleeps_recorded_spans "/topic" _ _ hnumeral⟩

/-- The events of `events` other than sleeps: what reaches the producer, in order. -/
def unpaced (events : List Event) : List Event :=
  events.filter fun event => match event with
    | .sleep _ => false
    | _ => true

@[simp] theorem unpaced_nil : unpaced [] = [] := rfl

@[simp] theorem unpaced_flush_cons (events : List Event) :
    unpaced (.flush :: events) = .flush :: unpaced events := rfl

@[simp] theorem unpaced_append (events events' : List Event) :
    unpaced (events ++ events') = unpaced events ++ unpaced events' :=
  List.filter_append _ _

end quixstreams.sources.community.file
