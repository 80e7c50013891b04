import Mathlib

/-! Runs of a labelled transition system whose every step meets a condition,
and the invariant rule for the states they reach.
-/
namespace Xtracepp.Library.Runs

variable {State Label : Type}

/-- The states reached from a starting one by steps that are all allowed where
they are taken. -/
inductive Reached (start : State → Prop) (step : State → Label → State → Prop)
    (allowed : State → Label → Prop) : State → Prop
  | start {state : State} (initial : start state) : Reached start step allowed state
  | next {state after : State} (label : Label) (before : Reached start step allowed state)
      (given : allowed state label) (taken : step state label after) :
      Reached start step allowed after

variable {start : State → Prop} {step : State → Label → State → Prop}
  {allowed : State → Label → Prop}

theorem Reached.invariant (holds : State → Prop) (initial : ∀ state, start state → holds state)
    (preserved : ∀ state label after, holds state → allowed state label → step state label after →
      holds after) {state : State} (reached : Reached start step allowed state) : holds state := by
  induction reached with
  | start given => exact initial _ given
  | next label before given taken ih => exact preserved _ _ _ ih given taken

/-- A condition that asks more reaches no further. -/
theorem Reached.weaken {other : State → Label → Prop}
    (implied : ∀ state label, allowed state label → other state label) {state : State}
    (reached : Reached start step allowed state) : Reached start step other state := by
  induction reached with
  | start given => exact .start given
  | next label before given taken ih => exact .next label ih (implied _ _ given) taken

/-- Follow a list of labels as long as each is allowed and its step succeeds. -/
def replay {Reason : Type} (apply : State → Label → Except Reason State)
    (allowed : State → Label → Prop) [∀ state label, Decidable (allowed state label)] :
    State → List Label → Option State
  | state, [] => some state
  | state, label :: rest =>
    if allowed state label then
      match apply state label with
      | .ok after => replay apply allowed after rest
      | .error _ => none
    else none

theorem replay_reached {Reason : Type} {apply : State → Label → Except Reason State}
    [∀ state label, Decidable (allowed state label)]
    (agree : ∀ state label after, apply state label = .ok after → step state label after)
    (labels : List Label) (state final : State) (reached : Reached start step allowed state)
    (replayed : replay apply allowed state labels = some final) :
    Reached start step allowed final := by
  induction labels generalizing state with
  | nil =>
    cases replayed
    exact reached
  | cons label rest ih =>
    rw [replay] at replayed
    split at replayed
    · rename_i given
      cases outcome : apply state label with
      | error reason => simp [outcome] at replayed
      | ok after =>
        rw [outcome] at replayed
        exact ih after (.next label reached given (agree _ _ _ outcome)) replayed
    · contradiction

/-- A computed check of the state a replay ends in gives a reached state that passes it. -/
theorem replay_check {Reason : Type} {apply : State → Label → Except Reason State}
    [∀ state label, Decidable (allowed state label)] (holds : State → Prop) [DecidablePred holds]
    (agree : ∀ state label after, apply state label = .ok after → step state label after)
    (labels : List Label) (state : State) (initial : start state)
    (checked : (replay apply allowed state labels).any (fun final => decide (holds final)) = true) :
    ∃ final, Reached start step allowed final ∧ holds final := by
  cases outcome : replay apply allowed state labels with
  | none => simp [outcome] at checked
  | some final =>
    rw [outcome] at checked
    exact ⟨final,replay_reached agree labels state final (.start initial) outcome,
      of_decide_eq_true checked⟩

/-- The same for a step that may be impossible. -/
theorem replay_possible {apply : State → Label → Option State}
    [∀ state label, Decidable (allowed state label)] (holds : State → Prop) [DecidablePred holds]
    (labels : List Label) (state : State) (initial : start state)
    (checked : (replay (fun state label => (apply state label).elim (Except.error ()) Except.ok)
      allowed state labels).any (fun final => decide (holds final)) = true) :
    ∃ final, Reached start (fun state label after => apply state label = some after) allowed final ∧
      holds final := by
  refine replay_check holds ?_ labels state initial checked
  intro state label after applied
  cases outcome : apply state label with
  | none => simp [outcome] at applied
  | some next =>
    simp only [outcome,Option.elim_some,Except.ok.injEq] at applied
    rw [applied]

end Xtracepp.Library.Runs
