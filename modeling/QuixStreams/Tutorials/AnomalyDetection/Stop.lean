import QuixStreams.Tutorials.AnomalyDetection

namespace tutorial_app

open quixstreams

theorem TemperatureGenerator.stop_of_not_running {self : TemperatureGenerator}
    (h : self.running = false) : self.stop = self := by
  cases self; simp_all [TemperatureGenerator.stop]

theorem TemperatureGenerator.update_machine_temp_stop (self : TemperatureGenerator)
    (machine_id : Nat) (draw : List Nat → Fin 3) :
    self.stop.update_machine_temp machine_id draw =
      (self.update_machine_temp machine_id draw).map TemperatureGenerator.stop := by
  simp only [TemperatureGenerator.update_machine_temp, TemperatureGenerator.stop]
  cases dict_get self.machine_temps machine_id with
  | none => cases dict_get machine_types machine_id <;> rfl
  | some temp =>
    cases dict_get machine_types machine_id with
    | none => rfl
    | some probabilities => dsimp only; cases dict_get probabilities (temp.fdiv 10 * 10) <;> rfl

/-- `generate_event()` never reads `running`: after a `stop()` it returns the same event. -/
theorem TemperatureGenerator.generate_event_stop (self : TemperatureGenerator)
    (draw : List Nat → Fin 3) :
    self.stop.generate_event draw = (self.generate_event draw).map fun r => (r.1.stop, r.2) := by
  simp only [TemperatureGenerator.generate_event]
  rw [show self.stop.event_count = self.event_count from rfl,
    TemperatureGenerator.update_machine_temp_stop]
  cases self.update_machine_temp (self.event_count % 3) draw with
  | error => rfl
  | ok updated =>
    dsimp only [Except.map, TemperatureGenerator.stop]
    cases dict_get updated.machine_temps (self.event_count % 3) with
    | none => rfl
    | some temp => dsimp only; split_ifs <;> rfl

/-- A stopped generator stays stopped through `generate_event()`. -/
theorem TemperatureGenerator.generate_event_running {self next : TemperatureGenerator}
    {draw : List Nat → Fin 3} {event : Event} (h : self.generate_event draw = .ok (next, event))
    (hrunning : self.running = false) : next.running = false := by
  rw [← TemperatureGenerator.stop_of_not_running hrunning,
    TemperatureGenerator.generate_event_stop] at h
  cases hgenerate : self.generate_event draw with
  | error => simp [hgenerate, Except.map] at h
  | ok result =>
    simp only [hgenerate, Except.map, Except.ok.injEq, Prod.mk.injEq] at h
    rw [← h.1]; rfl

theorem eq_nil_or_eq_of_prefix_singleton {α : Type} {l : List α} {a : α} (h : l <+: [a]) :
    l = [] ∨ l = [a] := by
  rcases List.prefix_cons_iff.mp h with hnil | ⟨rest, hcons, hrest⟩
  · exact .inl hnil
  · exact .inr (by rw [hcons, List.eq_nil_of_prefix_nil hrest])

/-- Where `run` stands between two steps, so that another thread's `stop()` can come between
    them: before the `while` test, past it and about to call `generate_event()`, holding the
    event that `generate_event()` returned and is about to produce, or returned. -/
inductive RunPc where
  | while_test
  | generate
  | produce (event : Event)
  | returned
  deriving DecidableEq, Repr

/-- Who moves next: `run` takes a step, or another thread calls `stop()`. -/
inductive Turn where
  | run
  | stop
  deriving DecidableEq, Repr

section machine

variable (draw : Nat → List Nat → Fin 3)

/-- The events a stopped `run` still produces from `pc`: the event it holds, or the one
    `generate_event()` is about to return. -/
def TemperatureGenerator.pending (self : TemperatureGenerator) : RunPc → List Event
  | .generate =>
    match self.generate_event (draw self.event_count) with
    | .ok (_, event) => [event]
    | .error _ => []
  | .produce event => [event]
  | _ => []

/-- One step of `run`: the `while` test; `generate_event()`, with the `serialize` of its event;
    or the `produce` of the event, with the `print` and `time.sleep(0.2)` around it. -/
def TemperatureGenerator.run_step (self : TemperatureGenerator) :
    RunPc → Except KeyError (TemperatureGenerator × RunPc × List Event)
  | .while_test => .ok (self, if self.running then .generate else .returned, [])
  | .generate =>
    (self.generate_event (draw self.event_count)).map fun result =>
      (result.1, .produce result.2, [])
  | .produce event => .ok (self, .while_test, [event])
  | .returned => .ok (self, .returned, [])

/-- `run` interleaved with `stop()` calls, turn by turn: the events, and where `run` stands
    after the turns, or the exception it raised. -/
def TemperatureGenerator.interleave : List Turn → TemperatureGenerator → RunPc →
    List Event × Except KeyError (TemperatureGenerator × RunPc)
  | [], self, pc => ([], .ok (self, pc))
  | .stop :: turns, self, pc => TemperatureGenerator.interleave turns self.stop pc
  | .run :: turns, self, pc =>
    match self.run_step draw pc with
    | .error err => ([], .error err)
    | .ok (next, pc', events) =>
      let rest := TemperatureGenerator.interleave turns next pc'
      (events ++ rest.1, rest.2)

theorem TemperatureGenerator.interleave_append_of_ok {t₁ : List Turn} {self s : TemperatureGenerator}
    {pc pc' : RunPc} {events : List Event}
    (h : self.interleave draw t₁ pc = (events, .ok (s, pc'))) (t₂ : List Turn) :
    (self.interleave draw (t₁ ++ t₂) pc).1 = events ++ (s.interleave draw t₂ pc').1 := by
  induction t₁ generalizing self pc events with
  | nil =>
    simp only [TemperatureGenerator.interleave, Prod.mk.injEq, Except.ok.injEq] at h
    obtain ⟨rfl, rfl, rfl⟩ := h
    rfl
  | cons turn t₁ ih =>
    rw [List.cons_append]
    cases turn with
    | stop => exact ih h
    | run =>
      simp only [TemperatureGenerator.interleave] at h ⊢
      cases hstep : self.run_step draw pc with
      | error => simp [hstep] at h
      | ok result =>
        obtain ⟨next, pc'', step_events⟩ := result
        simp only [hstep] at h ⊢
        obtain ⟨hevents, hrest⟩ := Prod.mk.inj h
        rw [ih (Prod.ext rfl hrest), ← hevents, List.append_assoc]

theorem TemperatureGenerator.interleave_append_of_error {t₁ : List Turn}
    {self : TemperatureGenerator} {pc : RunPc} {events : List Event} {err : KeyError}
    (h : self.interleave draw t₁ pc = (events, .error err)) (t₂ : List Turn) :
    (self.interleave draw (t₁ ++ t₂) pc).1 = events := by
  induction t₁ generalizing self pc events with
  | nil => cases h
  | cons turn t₁ ih =>
    rw [List.cons_append]
    cases turn with
    | stop => exact ih h
    | run =>
      simp only [TemperatureGenerator.interleave] at h ⊢
      cases hstep : self.run_step draw pc with
      | error => simpa [hstep] using congrArg Prod.fst h
      | ok result =>
        obtain ⟨next, pc'', step_events⟩ := result
        simp only [hstep] at h ⊢
        obtain ⟨hevents, hrest⟩ := Prod.mk.inj h
        rw [ih (Prod.ext rfl hrest), ← hevents]

/-- A stopped generator produces at most its pending event, whatever the turns. -/
theorem TemperatureGenerator.interleave_of_stopped (turns : List Turn) (self : TemperatureGenerator)
    (h : self.running = false) (pc : RunPc) :
    (self.interleave draw turns pc).1 <+: self.pending draw pc := by
  induction turns generalizing self pc with
  | nil => exact List.nil_prefix
  | cons turn turns ih =>
    cases turn with
    | stop => simpa [TemperatureGenerator.interleave, TemperatureGenerator.stop_of_not_running h]
        using ih self h pc
    | run =>
      cases pc with
      | while_test =>
        simpa [TemperatureGenerator.interleave, TemperatureGenerator.run_step, h,
          TemperatureGenerator.pending] using ih self h .returned
      | generate =>
        cases hgenerate : self.generate_event (draw self.event_count) with
        | error => simp [TemperatureGenerator.interleave, TemperatureGenerator.run_step, hgenerate,
            Except.map, TemperatureGenerator.pending]
        | ok result =>
          obtain ⟨next, event⟩ := result
          simpa [TemperatureGenerator.interleave, TemperatureGenerator.run_step, hgenerate,
            Except.map, TemperatureGenerator.pending] using
            ih next (TemperatureGenerator.generate_event_running hgenerate h) (.produce event)
      | produce event =>
        have hrest := List.eq_nil_of_prefix_nil (ih self h .while_test)
        simp [TemperatureGenerator.interleave, TemperatureGenerator.run_step,
          TemperatureGenerator.pending, hrest]
      | returned =>
        simpa [TemperatureGenerator.interleave, TemperatureGenerator.run_step] using ih self h .returned

@[simp] theorem TemperatureGenerator.interleave_replicate_returned (n : Nat)
    (self : TemperatureGenerator) :
    self.interleave draw (List.replicate n .run) .returned = ([], .ok (self, .returned)) := by
  induction n with
  | zero => rfl
  | succ n ih =>
    simpa [List.replicate_succ, TemperatureGenerator.interleave, TemperatureGenerator.run_step]
      using ih

/-- With no `stop()`, three steps per iteration give the events of `run` and its final state or
    exception. -/
theorem TemperatureGenerator.interleave_refines_run (fuel : Nat) (self : TemperatureGenerator) :
    (self.interleave draw (List.replicate (3 * fuel) .run) .while_test).1 = (self.run draw fuel).1 ∧
    (self.interleave draw (List.replicate (3 * fuel) .run) .while_test).2.map Prod.fst =
      (self.run draw fuel).2 := by
  induction fuel generalizing self with
  | zero => exact ⟨rfl, rfl⟩
  | succ fuel ih =>
    rw [show 3 * (fuel + 1) = 3 * fuel + 1 + 1 + 1 by omega, List.replicate_succ,
      List.replicate_succ, List.replicate_succ]
    cases hrunning : self.running with
    | false =>
      simp [TemperatureGenerator.interleave, TemperatureGenerator.run_step, TemperatureGenerator.run,
        hrunning, Except.map]
    | true =>
      cases hgenerate : self.generate_event (draw self.event_count) with
      | error err =>
        simp [TemperatureGenerator.interleave, TemperatureGenerator.run_step,
          TemperatureGenerator.run, hrunning, hgenerate, Except.map]
      | ok result =>
        obtain ⟨next, event⟩ := result
        simp only [TemperatureGenerator.interleave, TemperatureGenerator.run_step,
          TemperatureGenerator.run, hrunning, hgenerate, if_true, Except.map, List.nil_append,
          List.singleton_append]
        exact ⟨congrArg (event :: ·) (ih next).1, (ih next).2⟩

end machine

/-- The step machine is `run`: with no `stop()`, three steps per iteration give its events and
    its final state or exception. `run` tests `running` before every event, so after a `stop()`
    at any point of any interleaving it produces at most one more event: the one it holds, or,
    when the stop comes between the `while` test and `generate_event()`, the one
    `generate_event()` then returns. -/
theorem run_stops_within_one_event (draw : Nat → List Nat → Fin 3) (self : TemperatureGenerator)
    (pc : RunPc) (pre post : List Turn) :
    (∀ fuel, (self.interleave draw (List.replicate (3 * fuel) .run) .while_test).1 =
        (self.run draw fuel).1 ∧
      (self.interleave draw (List.replicate (3 * fuel) .run) .while_test).2.map Prod.fst =
        (self.run draw fuel).2) ∧
    ∃ after, (self.interleave draw (pre ++ .stop :: post) pc).1 =
      (self.interleave draw pre pc).1 ++ after ∧
      (after = [] ∨
        (∃ s event, (self.interleave draw pre pc).2 = .ok (s, .produce event) ∧ after = [event]) ∨
        (∃ s next event, (self.interleave draw pre pc).2 = .ok (s, .generate) ∧
          s.generate_event (draw s.event_count) = .ok (next, event) ∧ after = [event])) := by
  refine ⟨fun fuel => TemperatureGenerator.interleave_refines_run draw fuel self, ?_⟩
  cases h : self.interleave draw pre pc with
  | mk events result =>
    cases result with
    | error err =>
      exact ⟨[], by rw [TemperatureGenerator.interleave_append_of_error draw h, List.append_nil],
        .inl rfl⟩
    | ok result =>
      obtain ⟨s, pc'⟩ := result
      refine ⟨_, TemperatureGenerator.interleave_append_of_ok draw h _, ?_⟩
      have hafter := TemperatureGenerator.interleave_of_stopped draw post s.stop rfl pc'
      cases pc' with
      | produce event =>
        exact (eq_nil_or_eq_of_prefix_singleton hafter).imp_right fun h' => .inl ⟨s, event, rfl, h'⟩
      | generate =>
        simp only [TemperatureGenerator.pending, TemperatureGenerator.generate_event_stop,
          show s.stop.event_count = s.event_count from rfl] at hafter
        cases hgenerate : s.generate_event (draw s.event_count) with
        | error =>
          simp only [hgenerate, Except.map] at hafter
          exact .inl (List.eq_nil_of_prefix_nil hafter)
        | ok result =>
          obtain ⟨next, event⟩ := result
          simp only [hgenerate, Except.map] at hafter
          exact (eq_nil_or_eq_of_prefix_singleton hafter).imp_right fun h' =>
            .inr ⟨s, next, event, rfl, hgenerate, h'⟩
      | while_test | returned => exact .inl (List.eq_nil_of_prefix_nil hafter)

end tutorial_app
