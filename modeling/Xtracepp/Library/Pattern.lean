import Mathlib

/-! Patterns in the manner of ECMAScript, as a matcher with a continuation: alternatives are
tried in order, and the first one that the rest of the pattern accepts is taken.
-/
namespace Xtracepp.Library

inductive Pattern (α : Type)
  | text (items : List α)
  /-- One item or more, as many as possible. -/
  | plus (accepts : α → Bool)
  /-- One item or more, as few as possible. -/
  | plusLazy (accepts : α → Bool)
  | seq (first second : Pattern α)
  | maybe (inner : Pattern α)
  | group (index : Nat) (inner : Pattern α)
  /-- A look ahead, which keeps the groups but consumes nothing. -/
  | ahead (inner : Pattern α)
  | finish

namespace Pattern

variable {α : Type}

/-- What each group has captured, nothing at first. -/
abbrev Groups (α : Type) := Nat → List α

def capture (groups : Groups α) (index : Nat) (items : List α) : Groups α := fun other =>
  if other = index then items else groups other

/-- What is left behind the beginnings whose items are accepted, the shortest first. -/
def starts (accepts : α → Bool) : List α → List (List α)
  | [] => []
  | item :: rest => if accepts item then rest :: starts accepts rest else []

abbrev Continuation (α : Type) := List α → Groups α → Option (Groups α)

section matching

variable [DecidableEq α]

def run : Pattern α → List α → Groups α → Continuation α → Option (Groups α)
  | .text items,rest,groups,next =>
    if items.isPrefixOf rest then next (rest.drop items.length) groups else none
  | .plus accepts,rest,groups,next => (starts accepts rest).reverse.findSome? fun after => next after groups
  | .plusLazy accepts,rest,groups,next => (starts accepts rest).findSome? fun after => next after groups
  | .seq first second,rest,groups,next =>
    first.run rest groups fun rest groups => second.run rest groups next
  | .maybe inner,rest,groups,next => (inner.run rest groups next).or (next rest groups)
  | .group index inner,rest,groups,next =>
    inner.run rest groups fun after groups =>
      next after (capture groups index (rest.take (rest.length - after.length)))
  | .ahead inner,rest,groups,next =>
    (inner.run rest groups fun _ groups => some groups).bind fun groups => next rest groups
  | .finish,rest,groups,next => if rest = [] then next [] groups else none

/-- A match of a pattern that begins with `^`: no later position than the first one counts. -/
def search (pattern : Pattern α) (text : List α) : Option (Groups α) :=
  pattern.run text (fun _ => []) fun _ groups => some groups

end matching

theorem mem_starts {accepts : α → Bool} {text after : List α} :
    after ∈ starts accepts text ↔
      ∃ used,used ≠ [] ∧ (∀ item ∈ used,accepts item = true) ∧ text = used ++ after := by
  induction text with
  | nil =>
    rw [starts]
    constructor
    · intro member
      cases member
    · rintro ⟨used,given,_,same⟩
      exact absurd (List.append_eq_nil_iff.mp same.symm).1 given
  | cons item text ih =>
    rw [starts]
    constructor
    · intro member
      split at member
      · rename_i good
        rcases List.mem_cons.mp member with rfl | later
        · exact ⟨[item],List.cons_ne_nil _ _,by simpa using good,rfl⟩
        · obtain ⟨used,_,every,rfl⟩ := ih.mp later
          exact ⟨item :: used,List.cons_ne_nil _ _,List.forall_mem_cons.mpr ⟨good,every⟩,rfl⟩
      · cases member
    · rintro ⟨used,given,every,same⟩
      cases used with
      | nil => exact absurd rfl given
      | cons first used =>
        rw [List.cons_append,List.cons.injEq] at same
        obtain ⟨rfl,rfl⟩ := same
        obtain ⟨good,others⟩ := List.forall_mem_cons.mp every
        rw [if_pos good]
        cases used with
        | nil => exact List.mem_cons_self
        | cons second used =>
          exact List.mem_cons_of_mem _ (ih.mpr ⟨second :: used,List.cons_ne_nil _ _,others,rfl⟩)

/-- What goes before the first item that is not accepted is determined. -/
theorem split_first {accepts : α → Bool} {before before' : List α} {item item' : α}
    {after after' : List α} (every : ∀ other ∈ before,accepts other = true)
    (every' : ∀ other ∈ before',accepts other = true) (refused : accepts item = false)
    (refused' : accepts item' = false) (same : before ++ item :: after = before' ++ item' :: after') :
    before = before' ∧ item :: after = item' :: after' := by
  have first : before = before' := by
    have taken := congrArg (List.takeWhile accepts) same
    rwa [List.takeWhile_append_of_pos every,List.takeWhile_append_of_pos every',
      List.takeWhile_cons_of_neg (by simp [refused]),List.takeWhile_cons_of_neg (by simp [refused']),
      List.append_nil,List.append_nil] at taken
  subst first
  exact ⟨rfl,List.append_cancel_left same⟩

/-- And what goes behind the last item of its kind. -/
theorem split_last {item : α} {before before' after after' : List α} (absent : item ∉ after)
    (absent' : item ∉ after') (same : before ++ item :: after = before' ++ item :: after') :
    before = before' ∧ after = after' := by
  classical
  have mirrored := congrArg List.reverse same
  simp only [List.reverse_append,List.reverse_cons,List.append_assoc,List.singleton_append] at mirrored
  have every {after : List α} (absent : item ∉ after) :
      ∀ other ∈ after.reverse,decide (other ≠ item) = true := by
    intro other member
    rw [decide_eq_true_eq]
    rintro rfl
    exact absent (List.mem_reverse.mp member)
  obtain ⟨behind,front⟩ := split_first (every absent) (every absent') (by simp) (by simp) mirrored
  exact ⟨List.reverse_injective (List.cons.inj front).2,List.reverse_injective behind⟩

/-- Where all attempts but one fail, the order of the attempts does not matter. -/
theorem findSome?_only {β γ : Type} {items : List β} {attempt : β → Option γ} {item : β}
    (member : item ∈ items) (only : ∀ other ∈ items,other ≠ item → attempt other = none) :
    items.findSome? attempt = attempt item := by
  induction items with
  | nil => cases member
  | cons first items ih =>
    rw [List.findSome?_cons]
    by_cases same : first = item
    · subst same
      cases given : attempt first with
      | some value => rfl
      | none =>
        refine List.findSome?_eq_none_iff.mpr fun other later => ?_
        by_cases again : other = first
        · rw [again,given]
        · exact only other (List.mem_cons_of_mem _ later) again
    · rw [only first List.mem_cons_self same]
      rcases List.mem_cons.mp member with rfl | later
      · exact absurd rfl same
      · exact ih later fun other inside => only other (List.mem_cons_of_mem _ inside)

/-- The shortest beginning is taken, if nothing before it will do. -/
theorem findSome?_starts {γ : Type} {accepts : α → Bool} {attempt : List α → Option γ}
    {tail : List α} {result : γ} (accepted : attempt tail = some result) (used : List α) :
    used ≠ [] → (∀ item ∈ used,accepts item = true) →
      (∀ after,after ≠ [] → after <:+ used → attempt (after ++ tail) = none) →
        (starts accepts (used ++ tail)).findSome? attempt = some result := by
  induction used with
  | nil =>
    intro given
    exact absurd rfl given
  | cons item used ih =>
    intro _ every early
    obtain ⟨good,others⟩ := List.forall_mem_cons.mp every
    rw [List.cons_append,starts,if_pos good,List.findSome?_cons]
    cases used with
    | nil =>
      rw [List.nil_append,accepted]
    | cons second used =>
      rw [early (second :: used) (List.cons_ne_nil _ _) (List.suffix_cons _ _)]
      exact ih (List.cons_ne_nil _ _) others fun after given inside =>
        early after given (inside.trans (List.suffix_cons _ _))

variable [DecidableEq α] {rest after : List α} {groups : Groups α} {next : Continuation α}
  {result : Groups α}

theorem run_text (items after : List α) :
    (Pattern.text items).run (items ++ after) groups next = next after groups := by
  have here : items.isPrefixOf (items ++ after) = true :=
    List.isPrefixOf_iff_prefix.mpr (List.prefix_append items after)
  rw [run,if_pos here,List.drop_left]

theorem run_item (item : α) (after : List α) :
    (Pattern.text [item]).run (item :: after) groups next = next after groups :=
  run_text [item] after

theorem run_text_none {items : List α} (other : ¬items <+: rest) :
    (Pattern.text items).run rest groups next = none := by
  rw [run,if_neg]
  rw [List.isPrefixOf_iff_prefix]
  exact other

theorem run_plus {accepts : α → Bool} {used : List α} (given : used ≠ [])
    (every : ∀ item ∈ used,accepts item = true)
    (only : ∀ other ∈ starts accepts (used ++ after),other ≠ after → next other groups = none) :
    (Pattern.plus accepts).run (used ++ after) groups next = next after groups := by
  rw [run]
  refine findSome?_only (List.mem_reverse.mpr (mem_starts.mpr ⟨used,given,every,rfl⟩)) ?_
  intro other member
  exact only other (List.mem_reverse.mp member)

theorem run_plusLazy {accepts : α → Bool} {used : List α} (given : used ≠ [])
    (every : ∀ item ∈ used,accepts item = true)
    (only : ∀ other ∈ starts accepts (used ++ after),other ≠ after → next other groups = none) :
    (Pattern.plusLazy accepts).run (used ++ after) groups next = next after groups := by
  rw [run]
  exact findSome?_only (mem_starts.mpr ⟨used,given,every,rfl⟩) only

/-- A match goes on somewhere behind where it began. -/
theorem run_some (pattern : Pattern α) :
    ∀ {rest : List α} {groups : Groups α} {next : Continuation α},
      pattern.run rest groups next = some result →
        ∃ after others,after <:+ rest ∧ next after others = some result := by
  induction pattern with
  | text items =>
    intro rest groups next found
    rw [run] at found
    split at found
    · exact ⟨_,groups,List.drop_suffix _ _,found⟩
    · cases found
  | plus accepts =>
    intro rest groups next found
    obtain ⟨after,member,given⟩ := List.exists_of_findSome?_eq_some found
    obtain ⟨used,_,_,rfl⟩ := mem_starts.mp (List.mem_reverse.mp member)
    exact ⟨after,groups,List.suffix_append _ _,given⟩
  | plusLazy accepts =>
    intro rest groups next found
    obtain ⟨after,member,given⟩ := List.exists_of_findSome?_eq_some found
    obtain ⟨used,_,_,rfl⟩ := mem_starts.mp member
    exact ⟨after,groups,List.suffix_append _ _,given⟩
  | seq first second ihFirst ihSecond =>
    intro rest groups next found
    obtain ⟨middle,others,inside,found⟩ := ihFirst found
    obtain ⟨after,last,further,given⟩ := ihSecond found
    exact ⟨after,last,further.trans inside,given⟩
  | maybe inner ih =>
    intro rest groups next found
    rw [run] at found
    cases tried : inner.run rest groups next with
    | some other =>
      rw [tried,Option.some_or] at found
      exact ih (tried.trans found)
    | none =>
      rw [tried,Option.none_or] at found
      exact ⟨rest,groups,List.suffix_rfl,found⟩
  | group index inner ih =>
    intro rest groups next found
    obtain ⟨after,others,inside,given⟩ := ih found
    exact ⟨after,_,inside,given⟩
  | ahead inner ih =>
    intro rest groups next found
    obtain ⟨others,_,given⟩ := Option.bind_eq_some_iff.mp found
    exact ⟨rest,others,List.suffix_rfl,given⟩
  | finish =>
    intro rest groups next found
    rw [run] at found
    split at found
    · exact ⟨[],groups,List.nil_suffix,found⟩
    · cases found

end Pattern
end Xtracepp.Library
