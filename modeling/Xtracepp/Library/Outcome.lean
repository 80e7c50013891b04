import Mathlib

/-! Computations that may stop with a reason.
Inversion of a bind and of a checked condition, in the direction proofs use:
what must have happened for the computation to succeed, or to stop.
-/
namespace Xtracepp.Library.Outcome

variable {ε α β : Type}

/-- Go on exactly when the condition holds. -/
def demand (reason : ε) (holds : Prop) [Decidable holds] : Except ε Unit :=
  if holds then .ok () else .error reason

theorem bind_success {first : Except ε α} {next : α → Except ε β} {result : β}
    (ok : (first >>= next) = .ok result) :
    ∃ value, first = .ok value ∧ next value = .ok result := by
  cases first with
  | error reason => simp [bind,Except.bind] at ok
  | ok value => exact ⟨value,rfl,ok⟩

theorem bind_failure {first : Except ε α} {next : α → Except ε β} {reason : ε}
    (failed : (first >>= next) = .error reason) :
    first = .error reason ∨ ∃ value, first = .ok value ∧ next value = .error reason := by
  cases first with
  | error other => exact .inl (by simpa [bind,Except.bind] using failed)
  | ok value => exact .inr ⟨value,rfl,failed⟩

@[simp] theorem ok_bind (value : α) (next : α → Except ε β) :
    ((Except.ok value : Except ε α) >>= next) = next value := rfl

@[simp] theorem error_bind (reason : ε) (next : α → Except ε β) :
    ((Except.error reason : Except ε α) >>= next) = .error reason := rfl

@[simp] theorem pure_ok (value : α) : (pure value : Except ε α) = .ok value := rfl

@[simp] theorem demand_success {reason : ε} {holds : Prop} [Decidable holds] {done : Unit} :
    demand reason holds = .ok done ↔ holds := by
  by_cases given : holds <;> simp [demand,given]

@[simp] theorem demand_failure {reason other : ε} {holds : Prop} [Decidable holds] :
    demand reason holds = .error other ↔ ¬holds ∧ reason = other := by
  by_cases given : holds <;> simp [demand,given]

theorem demand_true {reason : ε} {holds : Prop} [Decidable holds] (given : holds) :
    demand reason holds = .ok () := demand_success.mpr given

theorem demand_false {reason : ε} {holds : Prop} [Decidable holds] (given : ¬holds) :
    demand reason holds = .error reason := demand_failure.mpr ⟨given,rfl⟩

theorem demand_bind_success {reason : ε} {holds : Prop} [Decidable holds] {next : Unit → Except ε β}
    {result : β} (ok : (demand reason holds >>= next) = .ok result) :
    holds ∧ next () = .ok result := by
  obtain ⟨done,checked,rest⟩ := bind_success ok
  exact ⟨demand_success.mp checked,rest⟩

end Xtracepp.Library.Outcome
