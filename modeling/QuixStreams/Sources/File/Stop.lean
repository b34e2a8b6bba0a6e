import QuixStreams.Sources.File.Source
import Mathlib.Tactic.NormNum.Basic
import Mathlib.Algebra.Order.Field.Rat

namespace quixstreams.sources.community.file

@[simp] theorem FileSource.stop_running (self : FileSource) : self.stop.running = false := rfl

@[simp] theorem FileSource.stop_stop (self : FileSource) : self.stop.stop = self.stop := rfl

theorem FileSource.check_file_partition_number_stop (self : FileSource) (file : PosixPath) :
    self.stop.check_file_partition_number file =
      (self.check_file_partition_number file).map FileSource.stop := by
  unfold FileSource.check_file_partition_number
  split
  · rfl
  · rename_i partition _
    by_cases h : self.previous_partition = some partition <;> simp [FileSource.stop, Except.map, h]

theorem FileSource.read_record_stop (self : FileSource) (record : Record) :
    self.stop.read_record record = ((self.read_record record).1.stop, (self.read_record record).2) := by
  cases h : self.as_replay <;>
    simp [FileSource.read_record, FileSource.replay_delay, FileSource.stop, h]

section machine

variable (tree : Entry) (file_read : PosixPath → List Record)

/-- Past the `while` test, a stopped source takes the same step, and stays stopped. -/
theorem FileSource.run_step_stop (self : FileSource) {pc : RunPc} (hpc : pc ≠ .while_test) :
    self.stop.run_step tree file_read pc =
      (self.run_step tree file_read pc).map fun step => (step.1.stop, step.2) := by
  cases pc with
  | while_test => exact absurd rfl hpc
  | for_file files =>
    cases files with
    | nil => rfl
    | cons file files =>
      cases h : self.check_file_partition_number file <;>
        simp [FileSource.run_step, FileSource.check_file_partition_number_stop, h, Except.map]
  | for_record records files =>
    cases records with
    | nil => rfl
    | cons record records => simp [FileSource.run_step, FileSource.read_record_stop, Except.map]
  | returned => rfl

/-- `run` never comes back to its `while` test. -/
theorem FileSource.run_step_ne_while_test {self next : FileSource} {pc pc' : RunPc}
    {events : List Event} (h : self.run_step tree file_read pc = .ok (next, pc', events)) :
    pc' ≠ .while_test := by
  cases pc with
  | while_test =>
    simp only [FileSource.run_step] at h
    split_ifs at h <;> cases h <;> simp
  | for_file files =>
    cases files with
    | nil => cases h; simp
    | cons file files =>
      simp only [FileSource.run_step, Except.map] at h
      split at h <;> cases h
      simp
  | for_record records files => cases records <;> cases h <;> simp
  | returned => cases h; simp

/-- Past the `while` test, a stop changes nothing but the flag: the same events, and the same
    place or exception. -/
theorem FileSource.interleave_stop (turns : List Turn) (self : FileSource) {pc : RunPc}
    (hpc : pc ≠ .while_test) :
    self.stop.interleave tree file_read turns pc =
      ((self.interleave tree file_read turns pc).1,
        (self.interleave tree file_read turns pc).2.map fun r => (r.1.stop, r.2)) := by
  induction turns generalizing self pc with
  | nil => rfl
  | cons turn turns ih =>
    cases turn with
    | stop =>
      simp only [FileSource.interleave, FileSource.stop_stop, ih self hpc]
      cases (self.interleave tree file_read turns pc).2 <;> rfl
    | run =>
      simp only [FileSource.interleave, FileSource.run_step_stop tree file_read self hpc]
      cases hstep : self.run_step tree file_read pc with
      | error => rfl
      | ok step =>
        obtain ⟨next, pc', events⟩ := step
        simp [Except.map, ih next (FileSource.run_step_ne_while_test tree file_read hstep)]

/-- Past the `while` test, the events of `run` do not depend on when, or whether, `stop()`
    comes. -/
theorem FileSource.interleave_filter_run (turns : List Turn) (self : FileSource) {pc : RunPc}
    (hpc : pc ≠ .while_test) :
    (self.interleave tree file_read turns pc).1 =
      (self.interleave tree file_read (turns.filter (· = .run)) pc).1 := by
  induction turns generalizing self pc with
  | nil => rfl
  | cons turn turns ih =>
    cases turn with
    | stop =>
      simp only [FileSource.interleave, FileSource.interleave_stop tree file_read turns self hpc,
        ih self hpc, List.filter_cons]
      rfl
    | run =>
      simp only [FileSource.interleave, List.filter_cons, decide_True, if_true]
      cases hstep : self.run_step tree file_read pc with
      | error => rfl
      | ok step =>
        obtain ⟨next, pc', events⟩ := step
        simp only [ih next (FileSource.run_step_ne_while_test tree file_read hstep)]

theorem FileSource.interleave_while_test {self : FileSource} (h : self.running = true)
    (turns : List Turn) :
    self.interleave tree file_read (.run :: turns) .while_test =
      self.interleave tree file_read turns (.for_file (file_finder self.filepath tree)) := by
  simp [FileSource.interleave, FileSource.run_step, h]

/-- A source stopped before the `while` test produces nothing, whatever comes after. -/
theorem FileSource.interleave_of_stopped (turns : List Turn) (self : FileSource)
    (h : self.running = false) : (self.interleave tree file_read turns .while_test).1 = [] := by
  induction turns generalizing self with
  | nil => rfl
  | cons turn turns ih =>
    cases turn with
    | stop => exact ih self.stop rfl
    | run =>
      obtain ⟨s, hs⟩ := FileSource.interleave_returned tree file_read turns self
      simp [FileSource.interleave, FileSource.run_step, h, hs]

end machine

/-- `run` tests `running` once, before its only pass over the files. A `stop()` before that
    test leaves it producing nothing. A `stop()` at any later point changes none of its sleeps,
    produce calls and flushes, which, given enough steps, are those of `run` with no `stop()`. -/
theorem run_tests_running_once (tree : Entry) (file_read : PosixPath → List Record)
    (self : FileSource) :
    (∀ turns, (self.interleave tree file_read (.stop :: turns) .while_test).1 = []) ∧
    (∀ turns, (self.interleave tree file_read (.run :: turns) .while_test).1 =
      (self.interleave tree file_read (.run :: turns.filter (· = .run)) .while_test).1) ∧
    (∃ fuel, ∀ turns, fuel ≤ (turns.filter (· = .run)).length + 1 →
      (self.interleave tree file_read (.run :: turns) .while_test).1 = (self.run tree file_read).1) := by
  have hafter : ∀ turns, (self.interleave tree file_read (.run :: turns) .while_test).1 =
      (self.interleave tree file_read (.run :: turns.filter (· = .run)) .while_test).1 := by
    intro turns
    simp only [FileSource.interleave]
    cases hstep : self.run_step tree file_read .while_test with
    | error => rfl
    | ok step =>
      obtain ⟨next, pc, events⟩ := step
      simp only [FileSource.interleave_filter_run tree file_read turns next
        (FileSource.run_step_ne_while_test tree file_read hstep)]
  obtain ⟨fuel, hfuel⟩ := FileSource.interleave_run tree file_read self
  refine ⟨fun turns => FileSource.interleave_of_stopped tree file_read turns self.stop rfl, hafter,
    fuel, fun turns hturns => ?_⟩
  have hruns : turns.filter (· = .run) = List.replicate (turns.filter (· = .run)).length .run :=
    List.eq_replicate_iff.mpr ⟨rfl, fun turn hturn => by simpa using (List.mem_filter.mp hturn).2⟩
  rw [hafter, hruns, ← List.replicate_succ, hfuel _ hturns]

/-- `stop()` right after `run` has passed its `while` test: `run` still reads the file and,
    after the stop, produces both records, with the replay sleep between them. -/
theorem run_produces_after_stop :
    let tree := Entry.dir "topic" [.dir "0" [.file "data"]]
    let file_read : PosixPath → List Record := fun _ => [⟨"k", "a", 0⟩, ⟨"k", "b", 1000⟩]
    let source := FileSource.init "/topic" true
    (source.interleave tree file_read [.run] .while_test).1 = [] ∧
    source.interleave tree file_read [.run, .stop, .run, .run, .run, .run, .run] .while_test =
      ([.produce "k" "a" 0, .sleep 1, .produce "k" "b" 1000, .flush],
        .ok (⟨⟨"/", ["topic"]⟩, true, some 1000, some 0, false⟩, .returned)) := by
  intro tree file_read source
  have hcheck : source.stop.check_file_partition_number ⟨"/", ["topic", "0", "data"]⟩ =
      .ok ⟨⟨"/", ["topic"]⟩, true, none, some 0, false⟩ := rfl
  have hfirst : (FileSource.mk ⟨"/", ["topic"]⟩ true none (some 0) false).read_record ⟨"k", "a", 0⟩ =
      (⟨⟨"/", ["topic"]⟩, true, some 0, some 0, false⟩, [.produce "k" "a" 0]) := rfl
  have hsecond : (FileSource.mk ⟨"/", ["topic"]⟩ true (some 0) (some 0) false).read_record
      ⟨"k", "b", 1000⟩ = (⟨⟨"/", ["topic"]⟩, true, some 1000, some 0, false⟩,
        [.sleep 1, .produce "k" "b" 1000]) := by
    norm_num [FileSource.read_record, FileSource.replay_delay, produce]
  refine ⟨rfl, ?_⟩
  rw [FileSource.interleave_while_test tree file_read rfl,
    show file_finder source.filepath tree = _ from file_finder_one_file]
  simp only [FileSource.interleave, FileSource.run_step, Except.map, hcheck, file_read, hfirst, hsecond]
  rfl

end quixstreams.sources.community.file
