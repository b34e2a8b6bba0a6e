import QuixStreams.Sources.File.Finder
import Mathlib.Data.Rat.Defs

namespace quixstreams.sources.community.file

/-- A record `file_read` returns: the dict with `_key`, `_value` and `_timestamp`. -/
structure Record where
  key : String
  value : String
  timestamp : Int
  deriving DecidableEq, Repr

/-- What `run` does outside the source: `sleep(seconds)`, `self.produce(...)`, `self.flush()`. -/
inductive Event where
  | sleep (seconds : ℚ)
  | produce (key value : String) (timestamp : Int)
  | flush
  deriving DecidableEq, Repr

/-- The exception `run` can raise: `int()` of a directory name that is not a numeral. -/
inductive FileSourceError where
  | ValueError (literal : String)
  deriving DecidableEq, Repr

/-- The fields of a `FileSource` that `run` reads or writes. `running` is the flag of the
    `Source` base class: set while the source runs, cleared by `stop()`. -/
structure FileSource where
  filepath : PosixPath
  as_replay : Bool
  previous_timestamp : Option Int
  previous_partition : Option Int
  running : Bool
  deriving DecidableEq, Repr

/-- `FileSource(filepath, ..., as_replay=as_replay)`, started. -/
def FileSource.init (filepath : String) (as_replay : Bool) : FileSource :=
  ⟨PosixPath.of_str filepath, as_replay, none, none, true⟩

/-- `_get_partition_count()`, for the entry `self._filepath` names: the number of entries
    `iterdir()` lists, none when it raises on a path that is not a directory. -/
def FileSource.get_partition_count : Entry → Option Nat
  | .dir _ entries => some entries.length
  | .file _ => none

/-- `stop()`, from the `Source` base class. -/
def FileSource.stop (self : FileSource) : FileSource := { self with running := false }

/-- `_produce(record)`: the record's key, value and timestamp go to `self.produce`. The
    topic's serializers are left out. -/
def produce (record : Record) : Event := .produce record.key record.value record.timestamp

/-- `_replay_delay(current_timestamp)`: the state after it, and the sleep it starts, if any. -/
def FileSource.replay_delay (self : FileSource) (current_timestamp : Int) : FileSource × List Event :=
  ({ self with previous_timestamp := some current_timestamp },
   match self.previous_timestamp with
   | none => []
   | some previous_timestamp =>
     let time_diff : ℚ := ((current_timestamp - previous_timestamp : Int) : ℚ) / 1000
     if time_diff > 0 then [.sleep time_diff] else [])

/-- `_check_file_partition_number(file)`: a new partition resets the timestamp tracker. -/
def FileSource.check_file_partition_number (self : FileSource) (file : PosixPath) :
    Except FileSourceError FileSource :=
  match py_int file.parent.name with
  | none => .error (.ValueError file.parent.name)
  | some partition =>
    .ok (if self.previous_partition ≠ some partition then
      { self with previous_timestamp := none, previous_partition := some partition } else self)

/-- One iteration of the `for record in self._formatter.file_read(file)` loop. -/
def FileSource.read_record (self : FileSource) (record : Record) : FileSource × List Event :=
  let delayed := if self.as_replay then self.replay_delay record.timestamp else (self, [])
  (delayed.1, delayed.2 ++ [produce record])

/-- The `for record in self._formatter.file_read(file)` loop. -/
def FileSource.read_records (self : FileSource) : List Record → FileSource × List Event
  | [] => (self, [])
  | record :: records =>
    let rest := (self.read_record record).1.read_records records
    (rest.1, (self.read_record record).2 ++ rest.2)

/-- The `for file in _file_finder(self._filepath)` loop: each file's partition check, its
    records, then `flush()`. An exception ends the loop; what was done before it stays done. -/
def FileSource.read_files (file_read : PosixPath → List Record) (self : FileSource) :
    List PosixPath → List Event × Except FileSourceError FileSource
  | [] => ([], .ok self)
  | file :: files =>
    match self.check_file_partition_number file with
    | .error err => ([], .error err)
    | .ok checked =>
      let read := checked.read_records (file_read file)
      let rest := read.1.read_files file_read files
      (read.2 ++ .flush :: rest.1, rest.2)

/-- `run()` on the tree `tree` that `self._filepath` names, reading each file with the
    formatter's `file_read`: `while self._running` is tested once, as the pass over the files
    ends in `return`. -/
def FileSource.run (tree : Entry) (file_read : PosixPath → List Record) (self : FileSource) :
    List Event × Except FileSourceError FileSource :=
  if self.running then self.read_files file_read (file_finder self.filepath tree) else ([], .ok self)

/-- Where `run` stands between two steps: before the `while` test, in the `for file` loop with
    these files left, in a file's `for record` loop with these records and files left, or
    returned. -/
inductive RunPc where
  | while_test
  | for_file (files : List PosixPath)
  | for_record (records : List Record) (files : List PosixPath)
  | returned
  deriving DecidableEq, Repr

section machine

variable (tree : Entry) (file_read : PosixPath → List Record)

/-- One step of `run`: the `while` test, a file's partition check, one record, the `flush()`
    after a file's records, or the `return` after the pass. -/
def FileSource.run_step (self : FileSource) :
    RunPc → Except FileSourceError (FileSource × RunPc × List Event)
  | .while_test =>
    .ok (if self.running then (self, .for_file (file_finder self.filepath tree), [])
      else (self, .returned, []))
  | .for_file [] => .ok (self, .returned, [])
  | .for_file (file :: files) =>
    (self.check_file_partition_number file).map fun checked =>
      (checked, .for_record (file_read file) files, [])
  | .for_record [] files => .ok (self, .for_file files, [.flush])
  | .for_record (record :: records) files =>
    .ok ((self.read_record record).1, .for_record records files, (self.read_record record).2)
  | .returned => .ok (self, .returned, [])

/-- Who moves next: `run` takes a step, or another thread calls `stop()`. -/
inductive Turn where
  | run
  | stop
  deriving DecidableEq, Repr

/-- `run` interleaved with `stop()` calls, turn by turn: the events, and where `run` stands
    after the turns, or the exception it raised. -/
def FileSource.interleave : List Turn → FileSource → RunPc →
    List Event × Except FileSourceError (FileSource × RunPc)
  | [], self, pc => ([], .ok (self, pc))
  | .stop :: turns, self, pc => FileSource.interleave turns self.stop pc
  | .run :: turns, self, pc =>
    match self.run_step tree file_read pc with
    | .error err => ([], .error err)
    | .ok (next, pc', events) =>
      let rest := FileSource.interleave turns next pc'
      (events ++ rest.1, rest.2)

end machine

section refinement

variable (tree : Entry) (file_read : PosixPath → List Record)

theorem FileSource.interleave_append_of_ok {t₁ : List Turn} {self s : FileSource} {pc pc' : RunPc}
    {events : List Event} (h : self.interleave tree file_read t₁ pc = (events, .ok (s, pc')))
    (t₂ : List Turn) :
    self.interleave tree file_read (t₁ ++ t₂) pc =
      (events ++ (s.interleave tree file_read t₂ pc').1, (s.interleave tree file_read t₂ pc').2) := by
  induction t₁ generalizing self pc events with
  | nil =>
    simp only [FileSource.interleave, Prod.mk.injEq, Except.ok.injEq] at h
    obtain ⟨rfl, rfl, rfl⟩ := h
    simp
  | cons turn t₁ ih =>
    rw [List.cons_append]
    cases turn with
    | stop => exact ih h
    | run =>
      simp only [FileSource.interleave] at h ⊢
      cases hstep : self.run_step tree file_read pc with
      | error => simp [hstep] at h
      | ok result =>
        obtain ⟨next, pc'', step_events⟩ := result
        simp only [hstep] at h ⊢
        obtain ⟨hevents, hrest⟩ := Prod.mk.inj h
        rw [ih (Prod.ext rfl hrest), ← hevents, List.append_assoc]

theorem FileSource.interleave_append_of_error {t₁ : List Turn} {self : FileSource} {pc : RunPc}
    {events : List Event} {err : FileSourceError}
    (h : self.interleave tree file_read t₁ pc = (events, .error err)) (t₂ : List Turn) :
    self.interleave tree file_read (t₁ ++ t₂) pc = (events, .error err) := by
  induction t₁ generalizing self pc events with
  | nil => cases h
  | cons turn t₁ ih =>
    rw [List.cons_append]
    cases turn with
    | stop => exact ih h
    | run =>
      simp only [FileSource.interleave] at h ⊢
      cases hstep : self.run_step tree file_read pc with
      | error => simp only [hstep] at h ⊢; exact h
      | ok result =>
        obtain ⟨next, pc'', step_events⟩ := result
        simp only [hstep] at h ⊢
        obtain ⟨hevents, hrest⟩ := Prod.mk.inj h
        rw [ih (Prod.ext rfl hrest), ← hevents]

/-- Once returned, `run` does nothing more. -/
theorem FileSource.interleave_returned (turns : List Turn) (self : FileSource) :
    ∃ s, self.interleave tree file_read turns .returned = ([], .ok (s, .returned)) := by
  induction turns generalizing self with
  | nil => exact ⟨self, rfl⟩
  | cons turn turns ih =>
    cases turn with
    | stop => exact ih self.stop
    | run => simpa [FileSource.interleave, FileSource.run_step] using ih self

@[simp] theorem FileSource.interleave_replicate_returned (n : Nat) (self : FileSource) :
    self.interleave tree file_read (List.replicate n .run) .returned = ([], .ok (self, .returned)) := by
  induction n with
  | zero => rfl
  | succ n ih => simpa [List.replicate_succ, FileSource.interleave, FileSource.run_step] using ih

theorem FileSource.interleave_for_record (records : List Record) (files : List PosixPath)
    (self : FileSource) :
    self.interleave tree file_read (List.replicate records.length .run) (.for_record records files) =
      ((self.read_records records).2, .ok ((self.read_records records).1, .for_record [] files)) := by
  induction records generalizing self with
  | nil => rfl
  | cons record records ih =>
    simp only [List.length_cons, List.replicate_succ, FileSource.interleave, FileSource.run_step, ih,
      FileSource.read_records]

/-- Run for long enough, the step machine ends where the loop over `files` ends. -/
theorem FileSource.interleave_for_file (files : List PosixPath) (self : FileSource) :
    ∃ fuel, self.interleave tree file_read (List.replicate fuel .run) (.for_file files) =
      ((self.read_files file_read files).1, (self.read_files file_read files).2.map (·, .returned)) := by
  induction files generalizing self with
  | nil => exact ⟨1, rfl⟩
  | cons file files ih =>
    cases hcheck : self.check_file_partition_number file with
    | error err =>
      refine ⟨1, ?_⟩
      simp [FileSource.interleave, FileSource.run_step, FileSource.read_files, hcheck, Except.map]
    | ok checked =>
      obtain ⟨fuel, hfuel⟩ := ih (checked.read_records (file_read file)).1
      refine ⟨1 + ((file_read file).length + 1) + fuel, ?_⟩
      have hcheck_step : self.interleave tree file_read [.run] (.for_file (file :: files)) =
          ([], .ok (checked, .for_record (file_read file) files)) := by
        simp [FileSource.interleave, FileSource.run_step, hcheck, Except.map]
      have hfile : checked.interleave tree file_read (List.replicate ((file_read file).length + 1) .run)
          (.for_record (file_read file) files) =
          ((checked.read_records (file_read file)).2 ++ [.flush],
            .ok ((checked.read_records (file_read file)).1, .for_file files)) := by
        rw [List.replicate_succ', FileSource.interleave_append_of_ok tree file_read
          (FileSource.interleave_for_record tree file_read _ files checked)]
        rfl
      rw [List.replicate_add, List.replicate_add, List.replicate_one, List.append_assoc,
        FileSource.interleave_append_of_ok tree file_read hcheck_step,
        FileSource.interleave_append_of_ok tree file_read hfile, hfuel]
      simp [FileSource.read_files, hcheck]

/-- Once the machine has returned or raised, more steps change nothing. -/
theorem FileSource.interleave_replicate_of_done {fuel : Nat} {self : FileSource} {pc : RunPc}
    {events : List Event} {result : Except FileSourceError FileSource}
    (h : self.interleave tree file_read (List.replicate fuel .run) pc = (events, result.map (·, .returned)))
    (n : Nat) (hn : fuel ≤ n) :
    self.interleave tree file_read (List.replicate n .run) pc = (events, result.map (·, .returned)) := by
  obtain ⟨k, rfl⟩ := Nat.exists_eq_add_of_le hn
  rw [List.replicate_add]
  cases result with
  | error err => exact FileSource.interleave_append_of_error tree file_read h _
  | ok s =>
    rw [FileSource.interleave_append_of_ok tree file_read h]
    simp [Except.map]

/-- The step machine refines `run`: driven with enough steps and no `stop()`, it produces the
    events of `run` and returns with its state, or raises its exception. -/
theorem FileSource.interleave_run (self : FileSource) :
    ∃ fuel, ∀ n, fuel ≤ n → self.interleave tree file_read (List.replicate n .run) .while_test =
      ((self.run tree file_read).1, (self.run tree file_read).2.map (·, .returned)) := by
  by_cases hrunning : self.running
  · obtain ⟨fuel, hfuel⟩ := FileSource.interleave_for_file tree file_read (file_finder self.filepath tree) self
    refine ⟨fuel + 1, FileSource.interleave_replicate_of_done tree file_read ?_⟩
    simp [List.replicate_succ, FileSource.interleave, FileSource.run_step, hrunning, hfuel, FileSource.run]
  · refine ⟨1, FileSource.interleave_replicate_of_done tree file_read ?_⟩
    simp [FileSource.interleave, FileSource.run_step, hrunning, FileSource.run, Except.map]

end refinement

end quixstreams.sources.community.file
