import Mathlib

/-! Going through a list for the last items of two kinds, and no further than where both were seen.
-/
namespace Xtracepp.Library.Searching

variable {α : Type} {wanted other : α → Prop} {items scanned rest others more : List α}

def Both (wanted other : α → Prop) (items : List α) : Prop :=
  (∃ item ∈ items,wanted item) ∧ ∃ item ∈ items,other item

/-- The part of a list up to the first place where both kinds were seen. -/
structure Searched (wanted other : α → Prop) (items scanned rest : List α) : Prop where
  whole : items = scanned ++ rest
  enough : rest = [] ∨ Both wanted other scanned
  least : ∀ before last,scanned = before ++ [last] → ¬Both wanted other before

/-- The last item of a kind, with what is before it and after it. -/
structure Last (wanted : α → Prop) (items before : List α) (item : α) (after : List α) : Prop where
  whole : items = before ++ item :: after
  here : wanted item
  absent : ∀ later ∈ after,¬wanted later

theorem Both.append (both : Both wanted other items) (more : List α) :
    Both wanted other (items ++ more) := by
  obtain ⟨⟨first,inFirst,isFirst⟩,second,inSecond,isSecond⟩ := both
  constructor
  · exact ⟨first,List.mem_append_left _ inFirst,isFirst⟩
  · exact ⟨second,List.mem_append_left _ inSecond,isSecond⟩

/-- A search that has not seen both goes on from where it is. -/
theorem searched_from (rest seen : List α) (partly : ¬Both wanted other seen) :
    ∃ scanned left,Searched wanted other (seen ++ rest) scanned left ∧ seen <+: scanned := by
  induction rest generalizing seen with
  | nil =>
    rw [List.append_nil]
    refine ⟨seen,[],⟨(List.append_nil seen).symm,.inl rfl,?_⟩,List.prefix_refl seen⟩
    intro before last same both
    apply partly
    rw [same]
    exact both.append [last]
  | cons item rest ih =>
    have shifted : seen ++ item :: rest = (seen ++ [item]) ++ rest := by
      rw [List.append_assoc,List.singleton_append]
    have start : seen <+: seen ++ [item] := List.prefix_append _ _
    by_cases both : Both wanted other (seen ++ [item])
    · refine ⟨seen ++ [item],rest,⟨shifted,.inr both,?_⟩,start⟩
      intro before last same
      rwa [← (List.append_inj' same rfl).1]
    · obtain ⟨scanned,left,searched,reaches⟩ := ih (seen ++ [item]) both
      rw [← shifted] at searched
      exact ⟨scanned,left,searched,start.trans reaches⟩

/-- One search does not stop earlier than another. -/
private theorem Searched.no_shorter (one : Searched wanted other items scanned rest)
    (two : Searched wanted other items others more) {item : α} {between : List α}
    (longer : others = scanned ++ item :: between) : False := by
  have left : rest ≠ [] := by
    intro nothing
    have lengths := congrArg List.length (one.whole.symm.trans two.whole)
    rw [nothing,longer] at lengths
    simp at lengths
  have both := one.enough.resolve_left left
  obtain ⟨before,last,ends⟩ := List.eq_nil_or_concat (item :: between) |>.resolve_left (List.cons_ne_nil _ _)
  rw [List.concat_eq_append] at ends
  refine two.least (scanned ++ before) last ?_ (both.append before)
  rw [longer,ends,List.append_assoc]

theorem Searched.unique (one : Searched wanted other items scanned rest)
    (two : Searched wanted other items others more) : scanned = others ∧ rest = more := by
  rcases List.append_eq_append_iff.mp (one.whole.symm.trans two.whole) with
    ⟨between,longer,behind⟩ | ⟨between,longer,behind⟩
  · cases between with
    | nil => exact ⟨by rw [longer,List.append_nil],behind⟩
    | cons item between => exact (one.no_shorter two longer).elim
  · cases between with
    | nil => exact ⟨by rw [longer,List.append_nil],behind.symm⟩
    | cons item between => exact (two.no_shorter one longer).elim

variable {before after before' after' : List α} {item item' : α}

private theorem Last.no_later (one : Last wanted items before item after)
    (two : Last wanted items before' item' after') {next : α} {between : List α}
    (later : before' = before ++ next :: between) : False := by
  have same := one.whole.symm.trans two.whole
  rw [later,List.append_assoc,List.cons_append] at same
  obtain ⟨_,behind⟩ := List.cons.inj (List.append_cancel_left same)
  refine one.absent item' ?_ two.here
  rw [behind]
  exact List.mem_append_right _ List.mem_cons_self

theorem Last.unique (one : Last wanted items before item after)
    (two : Last wanted items before' item' after') : before = before' ∧ item = item' := by
  rcases List.append_eq_append_iff.mp (one.whole.symm.trans two.whole) with
    ⟨between,longer,behind⟩ | ⟨between,longer,behind⟩
  · cases between with
    | nil => exact ⟨by rw [longer,List.append_nil],(List.cons.inj behind).1⟩
    | cons next between => exact (one.no_later two longer).elim
  · cases between with
    | nil => exact ⟨by rw [longer,List.append_nil],(List.cons.inj behind).1.symm⟩
    | cons next between => exact (two.no_later one longer).elim

theorem Last.mem (last : Last wanted items before item after) : item ∈ items := by
  rw [last.whole]
  exact List.mem_append_right _ List.mem_cons_self

/-- The place of the last item of a kind, if there is one. -/
inductive LastPlace (wanted : α → Prop) (items : List α) : Option Nat → Prop
  | nowhere (absent : ∀ item ∈ items,¬wanted item) : LastPlace wanted items none
  | there {before : List α} {item : α} {after : List α} (last : Last wanted items before item after) :
      LastPlace wanted items (some before.length)

variable {place : Option Nat}

theorem LastPlace.isSome (known : LastPlace wanted items place) :
    place.isSome = true ↔ ∃ item ∈ items,wanted item := by
  cases known with
  | nowhere absent => simpa using absent
  | there last =>
    simp only [Option.isSome_some,true_iff]
    exact ⟨_,last.mem,last.here⟩

theorem LastPlace.skip (known : LastPlace wanted items place) (unlike : ¬wanted item) :
    LastPlace wanted (items ++ [item]) place := by
  cases known with
  | nowhere absent =>
    apply LastPlace.nowhere
    intro one inside
    rcases List.mem_append.mp inside with earlier | here
    · exact absent one earlier
    · rwa [List.mem_singleton.mp here]
  | @there before last after found =>
    refine @LastPlace.there α wanted (items ++ [item]) before last (after ++ [item]) ⟨?_,found.here,?_⟩
    · rw [found.whole,List.append_assoc,List.cons_append]
    · intro one inside
      rcases List.mem_append.mp inside with earlier | here
      · exact found.absent one earlier
      · rwa [List.mem_singleton.mp here]

theorem LastPlace.note (items : List α) (like : wanted item) :
    LastPlace wanted (items ++ [item]) (some items.length) :=
  .there ⟨rfl,like,fun _ inside => absurd inside List.not_mem_nil⟩

end Xtracepp.Library.Searching
