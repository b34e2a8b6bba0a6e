import QuixStreams.Builtins
import Mathlib.Data.Fintype.Basic

namespace tutorial_app

open quixstreams

/-- `probabilities_normal`: the weights of a change of `-1`, `0`, `+1` for a temperature in the
    40s, 50s, and so on. -/
def probabilities_normal : List (Int × List Nat) :=
  [(40, [0, 0, 100]), (50, [20, 30, 50]), (60, [30, 40, 30]), (70, [40, 50, 10]),
    (80, [80, 10, 10]), (90, [100, 0, 0])]

/-- `probabilities_issue`: the weights for the malfunctioning machine. -/
def probabilities_issue : List (Int × List Nat) :=
  [(40, [0, 0, 100]), (50, [0, 10, 90]), (60, [5, 15, 80]), (70, [5, 20, 75]),
    (80, [5, 20, 75]), (90, [10, 20, 70])]

/-- `self.machine_types`, set in `__init__` and never changed. -/
def machine_types : List (Nat × List (Int × List Nat)) :=
  [(0, probabilities_normal), (1, probabilities_normal), (2, probabilities_issue)]

/-- `random.choices([-1, 0, 1], weights)[0]`, given the option it drew. -/
def choices (drawn : Fin 3) : Int := [-1, 0, 1].getD drawn 0

/-- The `KeyError` a failed dict lookup raises, with the missing key. -/
structure KeyError where
  key : Int
  deriving DecidableEq, Repr

/-- The event `generate_event` returns: its `key`, `str(machine_id)`, and its
    `Temperature_C`. The `Timestamp` is left out. -/
structure Event where
  key : String
  temperature : Int
  deriving DecidableEq, Repr

/-- The fields of a `TemperatureGenerator` that change. `running` is the flag of the `Source`
    base class: set while the source runs, cleared by `stop()`. -/
structure TemperatureGenerator where
  event_count : Nat
  machine_temps : List (Nat × Int)
  running : Bool
  deriving DecidableEq, Repr

/-- `TemperatureGenerator()`, started. -/
def TemperatureGenerator.init : TemperatureGenerator := ⟨0, [(0, 66), (1, 58), (2, 62)], true⟩

/-- `stop()`, from the `Source` base class. -/
def TemperatureGenerator.stop (self : TemperatureGenerator) : TemperatureGenerator :=
  { self with running := false }

/-- `update_machine_temp(machine_id)`; `draw` is the option `random.choices` picks from the
    weights it is given. -/
def TemperatureGenerator.update_machine_temp (self : TemperatureGenerator) (machine_id : Nat)
    (draw : List Nat → Fin 3) : Except KeyError TemperatureGenerator :=
  match dict_get self.machine_temps machine_id, dict_get machine_types machine_id with
  | none, _ => .error ⟨machine_id⟩
  | _, none => .error ⟨machine_id⟩
  | some temp, some probabilities =>
    match dict_get probabilities (temp.fdiv 10 * 10) with
    | none => .error ⟨temp.fdiv 10 * 10⟩
    | some weights =>
      .ok { self with
        machine_temps := dict_set self.machine_temps machine_id (temp + choices (draw weights)) }

/-- `generate_event()`: the next machine in turn moves, and a machine at 100 stops the source. -/
def TemperatureGenerator.generate_event (self : TemperatureGenerator) (draw : List Nat → Fin 3) :
    Except KeyError (TemperatureGenerator × Event) :=
  let machine_id := self.event_count % 3
  match self.update_machine_temp machine_id draw with
  | .error err => .error err
  | .ok updated =>
    match dict_get updated.machine_temps machine_id with
    | none => .error ⟨machine_id⟩
    | some temp =>
      let counted := { updated with event_count := updated.event_count + 1 }
      .ok (if temp = 100 then counted.stop else counted, ⟨Nat.repr machine_id, temp⟩)

/-- `run()`, for at most `fuel` iterations: `while self.running`, one event, produced. The
    `k`-th call of `random.choices` draws `draw k weights`. -/
def TemperatureGenerator.run (self : TemperatureGenerator) (draw : Nat → List Nat → Fin 3) :
    Nat → List Event × Except KeyError TemperatureGenerator
  | 0 => ([], .ok self)
  | fuel + 1 =>
    if self.running then
      match self.generate_event (draw self.event_count) with
      | .error err => ([], .error err)
      | .ok (next, event) =>
        let rest := next.run draw fuel
        (event :: rest.1, rest.2)
    else ([], .ok self)

/-- `random.choices` draws only options of positive weight, whenever there is one. -/
def PositiveDraws (draw : Nat → List Nat → Fin 3) : Prop :=
  ∀ k (weights : List Nat), (∃ i : Fin 3, 0 < weights.getD i 0) → 0 < weights.getD (draw k weights) 0

theorem fdiv_ten_mul_ten_eq_ediv (t : Int) : t.fdiv 10 * 10 = t / 10 * 10 := by
  rw [Int.fdiv_eq_ediv _ (by decide)]

/-- Every row of `probabilities_normal` has an option of positive weight, and each such option
    keeps a temperature of the row's decade, at most 90, between 40 and 90. -/
theorem probabilities_normal_rows : ∀ row ∈ probabilities_normal,
    (∃ i : Fin 3, 0 < row.2.getD i 0) ∧
    ∀ i : Fin 3, 0 < row.2.getD i 0 → 40 ≤ row.1 + choices i ∧ min (row.1 + 9) 90 + choices i ≤ 90 := by
  decide

/-- Every row of `probabilities_issue` has an option of positive weight, and each such option
    keeps a temperature of the row's decade, at most 99, between 40 and 100. -/
theorem probabilities_issue_rows : ∀ row ∈ probabilities_issue,
    (∃ i : Fin 3, 0 < row.2.getD i 0) ∧
    ∀ i : Fin 3, 0 < row.2.getD i 0 → 40 ≤ row.1 + choices i ∧ min (row.1 + 9) 99 + choices i ≤ 100 := by
  decide

/-- Both tables have a row for every decade from 40 to 90. -/
theorem dict_get_decade {probabilities : List (Int × List Nat)} {t : Int} (hlow : 40 ≤ t) (hhigh : t ≤ 99)
    (hrows : ∀ d ∈ [40, 50, 60, 70, 80, 90], (dict_get probabilities d).isSome) :
    ∃ weights, dict_get probabilities (t.fdiv 10 * 10) = some weights := by
  rw [fdiv_ten_mul_ten_eq_ediv t, ← Option.isSome_iff_exists]
  have hdecade : t / 10 * 10 ∈ [40, 50, 60, 70, 80, 90] := by
    simp only [List.mem_cons, List.not_mem_nil, or_false]
    omega
  exact hrows _ hdecade

/-- A normal machine between 40 and 90 finds its row and stays between 40 and 90. -/
theorem probabilities_normal_step {t : Int} (hlow : 40 ≤ t) (hhigh : t ≤ 90) :
    ∃ weights, dict_get probabilities_normal (t.fdiv 10 * 10) = some weights ∧
      (∃ i : Fin 3, 0 < weights.getD i 0) ∧
      ∀ i : Fin 3, 0 < weights.getD i 0 → 40 ≤ t + choices i ∧ t + choices i ≤ 90 := by
  obtain ⟨weights, hweights⟩ :=
    @dict_get_decade probabilities_normal t hlow (hhigh.trans (by decide)) (by decide)
  obtain ⟨hpositive, hmove⟩ := probabilities_normal_rows _ (mem_of_dict_get hweights)
  refine ⟨weights, hweights, hpositive, fun i hi => ?_⟩
  have hrow := hmove i hi
  rw [fdiv_ten_mul_ten_eq_ediv] at hrow
  omega

/-- The issue machine between 40 and 99 finds its row and stays between 40 and 100. -/
theorem probabilities_issue_step {t : Int} (hlow : 40 ≤ t) (hhigh : t ≤ 99) :
    ∃ weights, dict_get probabilities_issue (t.fdiv 10 * 10) = some weights ∧
      (∃ i : Fin 3, 0 < weights.getD i 0) ∧
      ∀ i : Fin 3, 0 < weights.getD i 0 → 40 ≤ t + choices i ∧ t + choices i ≤ 100 := by
  obtain ⟨weights, hweights⟩ := @dict_get_decade probabilities_issue t hlow hhigh (by decide)
  obtain ⟨hpositive, hmove⟩ := probabilities_issue_rows _ (mem_of_dict_get hweights)
  refine ⟨weights, hweights, hpositive, fun i hi => ?_⟩
  have hrow := hmove i hi
  rw [fdiv_ten_mul_ten_eq_ediv] at hrow
  omega

/-- The three machines in `__init__`'s order, the normal ones between 40 and 90, the issue
    machine between 40 and 100, and `running` cleared exactly when it is at 100. -/
def Safe (self : TemperatureGenerator) : Prop :=
  ∃ t₀ t₁ t₂ : Int, self.machine_temps = [(0, t₀), (1, t₁), (2, t₂)] ∧
    40 ≤ t₀ ∧ t₀ ≤ 90 ∧ 40 ≤ t₁ ∧ t₁ ≤ 90 ∧ 40 ≤ t₂ ∧ t₂ ≤ 100 ∧ (self.running = false ↔ t₂ = 100)

/-- `generate_event` once its machine's temperature, table and row are found. -/
theorem generate_event_eq {self : TemperatureGenerator} {draw : List Nat → Fin 3} {temp : Int}
    {probabilities : List (Int × List Nat)} {weights : List Nat}
    (htemp : dict_get self.machine_temps (self.event_count % 3) = some temp)
    (htype : dict_get machine_types (self.event_count % 3) = some probabilities)
    (hweights : dict_get probabilities (temp.fdiv 10 * 10) = some weights) :
    let moved := temp + choices (draw weights)
    let counted : TemperatureGenerator := ⟨self.event_count + 1,
      dict_set self.machine_temps (self.event_count % 3) moved, self.running⟩
    self.generate_event draw =
      .ok (if moved = 100 then counted.stop else counted, ⟨Nat.repr (self.event_count % 3), moved⟩) := by
  simp [TemperatureGenerator.generate_event, TemperatureGenerator.update_machine_temp, htemp, htype,
    hweights]

/-- One event from a safe, running state: no `KeyError`, a safe state again, and the source
    stopped when the machine reached 100. -/
theorem generate_event_safe {self : TemperatureGenerator} (hsafe : Safe self)
    (hrunning : self.running = true) {draw : List Nat → Fin 3}
    (hdraw : ∀ weights : List Nat, (∃ i : Fin 3, 0 < weights.getD i 0) →
      0 < weights.getD (draw weights) 0) :
    ∃ next event, self.generate_event draw = .ok (next, event) ∧ Safe next ∧
      next.event_count = self.event_count + 1 ∧
      40 ≤ event.temperature ∧ event.temperature ≤ 100 ∧
      (event.key ≠ "2" → event.temperature ≤ 90) ∧
      (event.temperature = 100 → next.running = false) := by
  obtain ⟨t₀, t₁, t₂, hm, h₀, h₀', h₁, h₁', h₂, h₂', hstop⟩ := hsafe
  have h₂'' : t₂ ≤ 99 := by
    have : t₂ ≠ 100 := fun h => by simp [hstop.mpr h] at hrunning
    omega
  have hid : self.event_count % 3 = 0 ∨ self.event_count % 3 = 1 ∨ self.event_count % 3 = 2 := by
    omega
  rcases hid with hid | hid | hid
  · obtain ⟨weights, hweights, hpositive, hmove⟩ := probabilities_normal_step h₀ h₀'
    have hbounds := hmove _ (hdraw weights hpositive)
    have hne : t₀ + choices (draw weights) ≠ 100 := by omega
    rw [generate_event_eq (by rw [hm, hid]; rfl) (by rw [hid]; rfl) hweights, if_neg hne]
    exact ⟨_, _, rfl, ⟨_, t₁, t₂, by rw [hm, hid]; rfl, hbounds.1, hbounds.2, h₁, h₁', h₂, h₂', hstop⟩,
      rfl, hbounds.1, hbounds.2.trans (by decide), fun _ => hbounds.2, fun h => absurd h hne⟩
  · obtain ⟨weights, hweights, hpositive, hmove⟩ := probabilities_normal_step h₁ h₁'
    have hbounds := hmove _ (hdraw weights hpositive)
    have hne : t₁ + choices (draw weights) ≠ 100 := by omega
    rw [generate_event_eq (by rw [hm, hid]; rfl) (by rw [hid]; rfl) hweights, if_neg hne]
    exact ⟨_, _, rfl, ⟨t₀, _, t₂, by rw [hm, hid]; rfl, h₀, h₀', hbounds.1, hbounds.2, h₂, h₂', hstop⟩,
      rfl, hbounds.1, hbounds.2.trans (by decide), fun _ => hbounds.2, fun h => absurd h hne⟩
  · obtain ⟨weights, hweights, hpositive, hmove⟩ := probabilities_issue_step h₂ h₂''
    have hbounds := hmove _ (hdraw weights hpositive)
    have htemps : dict_set self.machine_temps (self.event_count % 3) (t₂ + choices (draw weights)) =
        [(0, t₀), (1, t₁), (2, t₂ + choices (draw weights))] := by rw [hm, hid]; rfl
    have hkey : Nat.repr (self.event_count % 3) = "2" := by rw [hid]; rfl
    rw [generate_event_eq (by rw [hm, hid]; rfl) (by rw [hid]; rfl) hweights]
    by_cases h100 : t₂ + choices (draw weights) = 100
    · rw [if_pos h100]
      exact ⟨_, _, rfl, ⟨t₀, t₁, _, htemps, h₀, h₀', h₁, h₁', hbounds.1, hbounds.2,
        by simp [TemperatureGenerator.stop, h100]⟩, rfl, hbounds.1, hbounds.2,
        fun h => absurd hkey h, fun _ => rfl⟩
    · rw [if_neg h100]
      exact ⟨_, _, rfl, ⟨t₀, t₁, _, htemps, h₀, h₀', h₁, h₁', hbounds.1, hbounds.2,
        by simp [hrunning, h100]⟩, rfl, hbounds.1, hbounds.2, fun h => absurd hkey h,
        fun h => absurd h h100⟩

theorem TemperatureGenerator.run_of_stopped {self : TemperatureGenerator} (h : self.running = false)
    (draw : Nat → List Nat → Fin 3) (fuel : Nat) : self.run draw fuel = ([], .ok self) := by
  cases fuel <;> simp [TemperatureGenerator.run, h]

/-- Over any number of iterations from a safe state: no `KeyError`, a safe state at the end,
    every event's temperature in range, and no event after one at 100. -/
theorem TemperatureGenerator.run_safe {draw : Nat → List Nat → Fin 3} (hdraw : PositiveDraws draw)
    (fuel : Nat) (self : TemperatureGenerator) (hsafe : Safe self) :
    ∃ final, (self.run draw fuel).2 = .ok final ∧ Safe final ∧
      (∀ event ∈ (self.run draw fuel).1, 40 ≤ event.temperature ∧ event.temperature ≤ 100 ∧
        (event.key ≠ "2" → event.temperature ≤ 90)) ∧
      (∀ pre event post, (self.run draw fuel).1 = pre ++ event :: post →
        event.temperature = 100 → post = []) := by
  induction fuel generalizing self with
  | zero => exact ⟨self, rfl, hsafe, by simp [TemperatureGenerator.run], by simp [TemperatureGenerator.run]⟩
  | succ fuel ih =>
    cases hrunning : self.running with
    | false =>
      rw [TemperatureGenerator.run_of_stopped hrunning]
      exact ⟨self, rfl, hsafe, by simp, by simp⟩
    | true =>
      obtain ⟨next, event, hgenerate, hsafe', -, hlow, hhigh, hnormal, hstop⟩ :=
        generate_event_safe hsafe hrunning (hdraw self.event_count)
      obtain ⟨final, hfinal, hsafe_final, hevents, hlast⟩ := ih next hsafe'
      simp only [TemperatureGenerator.run, hrunning, hgenerate, if_true]
      refine ⟨final, hfinal, hsafe_final, ?_, ?_⟩
      · intro e he
        rcases List.mem_cons.mp he with rfl | he
        · exact ⟨hlow, hhigh, hnormal⟩
        · exact hevents e he
      · intro pre e post h h100
        cases pre with
        | nil =>
          obtain ⟨rfl, hpost⟩ := List.cons.inj h
          rw [← hpost, TemperatureGenerator.run_of_stopped (hstop h100)]
        | cons e' pre => exact hlast pre e post (List.cons.inj h).2 h100

theorem TemperatureGenerator.init_safe : Safe TemperatureGenerator.init :=
  ⟨66, 58, 62, rfl, by decide⟩

/-- Every run of the generator, of any length, whose draws pick only options of positive weight:
    every lookup finds its key, so no `KeyError` is raised; machines 0 and 1 stay between 40 and
    90 and machine 2 between 40 and 100; the source is stopped exactly when machine 2 is at 100,
    and no event follows the one at 100. -/
theorem temperature_generator_safe (draw : Nat → List Nat → Fin 3) (hdraw : PositiveDraws draw)
    (fuel : Nat) :
    ∃ final, (TemperatureGenerator.init.run draw fuel).2 = .ok final ∧
      (∃ t₀ t₁ t₂ : Int, final.machine_temps = [(0, t₀), (1, t₁), (2, t₂)] ∧
        40 ≤ t₀ ∧ t₀ ≤ 90 ∧ 40 ≤ t₁ ∧ t₁ ≤ 90 ∧ 40 ≤ t₂ ∧ t₂ ≤ 100 ∧
        (final.running = false ↔ t₂ = 100)) ∧
      (∀ event ∈ (TemperatureGenerator.init.run draw fuel).1,
        40 ≤ event.temperature ∧ event.temperature ≤ 100 ∧
        (event.key ≠ "2" → event.temperature ≤ 90)) ∧
      (∀ pre event post, (TemperatureGenerator.init.run draw fuel).1 = pre ++ event :: post →
        event.temperature = 100 → post = []) :=
  TemperatureGenerator.run_safe hdraw fuel _ TemperatureGenerator.init_safe

/-- Drawing the highest option of positive weight. -/
theorem positive_draws_highest :
    PositiveDraws fun _ weights =>
      if 0 < weights.getD 2 0 then 2 else if 0 < weights.getD 1 0 then 1 else 0 := by
  rintro k weights ⟨i, hi⟩
  dsimp only
  split_ifs with h2 h1
  · exact h2
  · exact h1
  · match i, hi with
    | 0, hi => exact hi
    | 1, hi => exact absurd hi h1
    | 2, hi => exact absurd hi h2

theorem temperature_generator_safe_highest :
    let draw : Nat → List Nat → Fin 3 := fun _ weights =>
      if 0 < weights.getD 2 0 then 2 else if 0 < weights.getD 1 0 then 1 else 0
    PositiveDraws draw ∧
    ∃ final, (TemperatureGenerator.init.run draw 100).2 = .ok final ∧
      (∃ t₀ t₁ t₂ : Int, final.machine_temps = [(0, t₀), (1, t₁), (2, t₂)] ∧
        40 ≤ t₀ ∧ t₀ ≤ 90 ∧ 40 ≤ t₁ ∧ t₁ ≤ 90 ∧ 40 ≤ t₂ ∧ t₂ ≤ 100 ∧
        (final.running = false ↔ t₂ = 100)) ∧
      (∀ event ∈ (TemperatureGenerator.init.run draw 100).1,
        40 ≤ event.temperature ∧ event.temperature ≤ 100 ∧
        (event.key ≠ "2" → event.temperature ≤ 90)) ∧
      (∀ pre event post, (TemperatureGenerator.init.run draw 100).1 = pre ++ event :: post →
        event.temperature = 100 → post = []) :=
  ⟨positive_draws_highest, temperature_generator_safe _ positive_draws_highest 100⟩

/-- Modelled from the docstring of `TemperatureGenerator` ("It cycles through the ID's,
    generating random temperature changes of -1, 0, or 1"): from event count `count` and the
    machines' temperatures `temps`, the events report the machines in turn, each within one
    degree of its machine's previous temperature. -/
def ReadingsWalk : Nat → List (Nat × Int) → List Event → Prop
  | _, _, [] => True
  | count, temps, event :: events => ∃ temp, dict_get temps (count % 3) = some temp ∧
      event.key = Nat.repr (count % 3) ∧
      temp - 1 ≤ event.temperature ∧ event.temperature ≤ temp + 1 ∧
      ReadingsWalk (count + 1) (dict_set temps (count % 3) event.temperature) events

theorem choices_bounds (drawn : Fin 3) : -1 ≤ choices drawn ∧ choices drawn ≤ 1 := by
  revert drawn; decide

/-- What one event is: the next machine's temperature moved by the drawn change. -/
theorem generate_event_reading {self next : TemperatureGenerator} {draw : List Nat → Fin 3}
    {event : Event} (h : self.generate_event draw = .ok (next, event)) :
    ∃ temp, dict_get self.machine_temps (self.event_count % 3) = some temp ∧
      event.key = Nat.repr (self.event_count % 3) ∧
      temp - 1 ≤ event.temperature ∧ event.temperature ≤ temp + 1 ∧
      next.event_count = self.event_count + 1 ∧
      next.machine_temps =
        dict_set self.machine_temps (self.event_count % 3) event.temperature := by
  cases htemp : dict_get self.machine_temps (self.event_count % 3) with
  | none =>
    simp [TemperatureGenerator.generate_event, TemperatureGenerator.update_machine_temp, htemp] at h
  | some temp =>
    cases htype : dict_get machine_types (self.event_count % 3) with
    | none =>
      simp [TemperatureGenerator.generate_event, TemperatureGenerator.update_machine_temp, htemp,
        htype] at h
    | some probabilities =>
      cases hweights : dict_get probabilities (temp.fdiv 10 * 10) with
      | none =>
        simp [TemperatureGenerator.generate_event, TemperatureGenerator.update_machine_temp, htemp,
          htype, hweights] at h
      | some weights =>
        rw [generate_event_eq htemp htype hweights] at h
        have hbounds := choices_bounds (draw weights)
        split_ifs at h <;> cases h <;>
          exact ⟨temp, rfl, rfl, by dsimp only; omega, by dsimp only; omega, rfl, rfl⟩

/-- Whatever `random.choices` returns, every run's events report the machines in turn, starting
    from machine `event_count % 3`, and each event's temperature is within one degree of its
    machine's temperature before it; a run that raises `KeyError` keeps this for the events
    before it. -/
theorem TemperatureGenerator.run_readings_walk (draw : Nat → List Nat → Fin 3) (fuel : Nat)
    (self : TemperatureGenerator) :
    ReadingsWalk self.event_count self.machine_temps (self.run draw fuel).1 := by
  induction fuel generalizing self with
  | zero => trivial
  | succ fuel ih =>
    cases hrunning : self.running with
    | false => simp [TemperatureGenerator.run, hrunning, ReadingsWalk]
    | true =>
      cases hgenerate : self.generate_event (draw self.event_count) with
      | error err => simp [TemperatureGenerator.run, hrunning, hgenerate, ReadingsWalk]
      | ok result =>
        obtain ⟨next, event⟩ := result
        obtain ⟨temp, htemp, hkey, hlow, hhigh, hcount, htemps⟩ :=
          generate_event_reading hgenerate
        simp only [TemperatureGenerator.run, hrunning, hgenerate, if_true]
        exact ⟨temp, htemp, hkey, hlow, hhigh, hcount ▸ htemps ▸ ih next⟩

/-- Machine 2, which `__init__` sets to 62, has risen at most one degree per reading so far; it
    is read at every third event. -/
def Heating (self : TemperatureGenerator) : Prop :=
  ∃ t₂ : Int, dict_get self.machine_temps 2 = some t₂ ∧
    t₂ ≤ 62 + (self.event_count / 3 : Nat)

theorem generate_event_heating {self next : TemperatureGenerator} {draw : List Nat → Fin 3}
    {event : Event} (h : self.generate_event draw = .ok (next, event)) (hheat : Heating self) :
    Heating next := by
  obtain ⟨temp, htemp, -, -, hhigh, hcount, htemps⟩ := generate_event_reading h
  obtain ⟨t₂, ht₂, hle⟩ := hheat
  rw [Heating, htemps, hcount]
  by_cases hid : self.event_count % 3 = 2
  · rw [hid, ht₂] at htemp
    cases htemp
    exact ⟨event.temperature, by simp [hid], by omega⟩
  · exact ⟨t₂, by simp [hid, ht₂], by omega⟩

/-- From a safe, running state: no event at 100 before the one at event count 113, and, given
    the iterations, no stop before it. -/
theorem TemperatureGenerator.run_before_alert {draw : Nat → List Nat → Fin 3}
    (hdraw : PositiveDraws draw) (fuel : Nat) (self : TemperatureGenerator) (hsafe : Safe self)
    (hheat : Heating self) (hrunning : self.running = true) :
    min fuel (114 - self.event_count) ≤ (self.run draw fuel).1.length ∧
      ∀ event ∈ (self.run draw fuel).1.take (113 - self.event_count),
        event.temperature < 100 := by
  induction fuel generalizing self with
  | zero => simp [TemperatureGenerator.run]
  | succ fuel ih =>
    obtain ⟨next, event, hgenerate, hsafe', hcount, -, hhigh, -, hstop⟩ :=
      generate_event_safe hsafe hrunning (hdraw self.event_count)
    have hheat' := generate_event_heating hgenerate hheat
    simp only [TemperatureGenerator.run, hrunning, hgenerate, if_true, List.length_cons]
    by_cases hlate : 113 ≤ self.event_count
    · rw [show 113 - self.event_count = 0 by omega]
      exact ⟨by omega, by simp⟩
    · -- machine 2 is at most 99 after this event, so the source is still running
      have hrunning' : next.running = true := by
        obtain ⟨t₀, t₁, t₂, hm, -, -, -, -, -, -, hstopped⟩ := hsafe'
        obtain ⟨t, ht, hle⟩ := hheat'
        rw [hm] at ht
        cases ht
        cases hnext : next.running
        · exact absurd (hstopped.mp hnext) (by rw [hcount] at hle; omega)
        · rfl
      have htemp : event.temperature < 100 :=
        lt_of_le_of_ne hhigh fun h => by simp [hstop h] at hrunning'
      obtain ⟨hlength, htake⟩ := ih next hsafe' hheat' hrunning'
      rw [hcount] at hlength htake
      refine ⟨by omega, ?_⟩
      rw [show 113 - self.event_count = 113 - (self.event_count + 1) + 1 by omega,
        List.take_succ_cons]
      intro e he
      rcases List.mem_cons.mp he with rfl | he
      · exact htemp
      · exact htake e he

/-- Whatever the draws, as long as `random.choices` picks only options of positive weight:
    machine 2 starts at 62 and moves at most one degree each time it is read, once every three
    events, and machines 0 and 1 stay at most 90. So none of the generator's first 113 events is
    at 100, and, given the iterations, it does not stop before its 114th event. -/
theorem TemperatureGenerator.init_runs_before_alert (draw : Nat → List Nat → Fin 3)
    (hdraw : PositiveDraws draw) (fuel : Nat) :
    min fuel 114 ≤ (TemperatureGenerator.init.run draw fuel).1.length ∧
      ∀ event ∈ (TemperatureGenerator.init.run draw fuel).1.take 113, event.temperature < 100 :=
  TemperatureGenerator.run_before_alert hdraw fuel _ TemperatureGenerator.init_safe
    ⟨62, rfl, by decide⟩ rfl

theorem TemperatureGenerator.init_runs_before_alert_highest :
    let draw : Nat → List Nat → Fin 3 := fun _ weights =>
      if 0 < weights.getD 2 0 then 2 else if 0 < weights.getD 1 0 then 1 else 0
    PositiveDraws draw ∧ (TemperatureGenerator.init.run draw 200).1.length = 114 ∧
    min 200 114 ≤ (TemperatureGenerator.init.run draw 200).1.length ∧
      ∀ event ∈ (TemperatureGenerator.init.run draw 200).1.take 113, event.temperature < 100 :=
  ⟨positive_draws_highest, by decide,
    TemperatureGenerator.init_runs_before_alert _ positive_draws_highest 200⟩

end tutorial_app
