import Mathlib

/-! Vectors that grow, and when pushing an item moves the ones that are there: references to
them are not valid after that.
-/
namespace Xtracepp.Library.Growing

/-- How much room there is after an amount that did not suffice. -/
structure Growth where
  next : Nat → Nat
  more : ∀ capacity,capacity < next capacity

structure GrowingVector (α : Type) where
  items : List α
  capacity : Nat
  fits : items.length ≤ capacity

variable {α : Type} (growth : Growth)

theorem nothing_fits : ([] : List α).length ≤ 0 := Nat.le_refl 0

def empty : GrowingVector α := ⟨[],0,nothing_fits⟩

/-- The next push needs other storage. -/
def GrowingVector.full (vector : GrowingVector α) : Bool := vector.items.length = vector.capacity

def GrowingVector.push (vector : GrowingVector α) (item : α) : GrowingVector α where
  items := vector.items ++ [item]
  capacity := if vector.full then growth.next vector.capacity else vector.capacity
  fits := by
    have room := vector.fits
    have more := growth.more vector.capacity
    rw [List.length_append,List.length_singleton]
    split
    · omega
    · rename_i space
      have other : vector.items.length ≠ vector.capacity := by simpa [GrowingVector.full] using space
      omega

/-- The vector that the items are pushed to in turn. -/
def collect (items : List α) : GrowingVector α := items.foldl (GrowingVector.push growth) empty

variable {growth}

@[simp] theorem push_items (vector : GrowingVector α) (item : α) :
    (vector.push growth item).items = vector.items ++ [item] := rfl

theorem collect_append (items : List α) (item : α) :
    collect growth (items ++ [item]) = (collect growth items).push growth item := by
  rw [collect,List.foldl_append]
  rfl

theorem collect_items (items : List α) : (collect growth items).items = items := by
  induction items using List.reverseRecOn with
  | nil => rfl
  | append_singleton items item ih =>
    rw [collect_append,push_items,ih]

theorem next_strictMono (growth : Growth) : StrictMono fun steps => growth.next^[steps] 0 := by
  apply strictMono_nat_of_lt_succ
  intro steps
  rw [Function.iterate_succ_apply']
  exact growth.more _

/-- The capacity is the first one of the sequence that holds the items. -/
theorem collect_capacity (items : List α) :
    ∃ steps,(collect growth items).capacity = growth.next^[steps] 0 ∧
      ∀ earlier < steps,growth.next^[earlier] 0 < items.length := by
  induction items using List.reverseRecOn with
  | nil => exact ⟨0,rfl,fun earlier before => absurd before (Nat.not_lt_zero earlier)⟩
  | append_singleton items item ih =>
    obtain ⟨steps,capacity,least⟩ := ih
    rw [collect_append,List.length_append,List.length_singleton]
    by_cases full : (collect growth items).full = true
    · refine ⟨steps + 1,?_,?_⟩
      · rw [GrowingVector.push,Function.iterate_succ_apply',← capacity]
        simp only [full,if_true]
      · intro earlier before
        have filled : items.length = (collect growth items).capacity := by
          simpa [GrowingVector.full,collect_items] using full
        have below := (next_strictMono growth).monotone (Nat.lt_succ_iff.mp before)
        simp only [← capacity] at below
        omega
    · refine ⟨steps,?_,?_⟩
      · rw [GrowingVector.push,← capacity]
        simp only [full,if_false,Bool.false_eq_true]
      · intro earlier before
        have below := least earlier before
        omega

/-- A vector of pushed items is full where their number is a capacity of the sequence. -/
theorem collect_full (items : List α) :
    (collect growth items).full = true ↔ ∃ steps,items.length = growth.next^[steps] 0 := by
  obtain ⟨steps,capacity,least⟩ := @collect_capacity _ growth items
  have fits := (collect growth items).fits
  rw [collect_items,capacity] at fits
  rw [GrowingVector.full,collect_items,capacity,decide_eq_true_iff]
  constructor
  · intro same
    exact ⟨steps,same⟩
  · intro reached
    obtain ⟨other,same⟩ := reached
    rcases lt_trichotomy other steps with before | rfl | after
    · have below := least other before
      omega
    · exact same
    · have above := next_strictMono growth after
      simp only at above
      omega

end Xtracepp.Library.Growing
