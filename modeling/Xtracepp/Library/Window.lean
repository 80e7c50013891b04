import Mathlib

/-! Windows of an addressable memory.
A memory is a function from addresses to cells. A window is the list of the
cells in a range; an overlay writes a list of cells from an address on.
-/
namespace Xtracepp.Library.Window

variable {α : Type}

def window (cells : Nat → α) (start count : Nat) : List α :=
  (List.range count).map fun i => cells (start + i)

def overlay (cells : Nat → α) (start : Nat) (values : List α) : Nat → α :=
  fun i => if start ≤ i then values.getD (i - start) (cells i) else cells i

@[simp] theorem window_length (cells : Nat → α) (start count : Nat) :
    (window cells start count).length = count := by simp [window]

@[simp] theorem window_zero (cells : Nat → α) (start : Nat) : window cells start 0 = [] := rfl

@[simp] theorem window_getElem (cells : Nat → α) (start count i : Nat)
    (bound : i < (window cells start count).length) :
    (window cells start count)[i] = cells (start + i) := by simp [window]

theorem window_congr {left right : Nat → α} {start count : Nat}
    (same : ∀ i, start ≤ i → i < start + count → left i = right i) :
    window left start count = window right start count := by
  simp only [window,List.map_inj_left,List.mem_range]
  intro i bound
  exact same _ (by omega) (by omega)

theorem window_append (cells : Nat → α) (start first second : Nat) :
    window cells start (first + second) =
      window cells start first ++ window cells (start + first) second := by
  simp [window,List.range_add,Nat.add_assoc]

theorem window_take (cells : Nat → α) (start count n : Nat) (bound : n ≤ count) :
    (window cells start count).take n = window cells start n := by
  obtain ⟨rest,rfl⟩ := Nat.exists_eq_add_of_le bound
  rw [window_append,List.take_append_of_le_length (by simp)]
  exact List.take_of_length_le (by simp)

theorem window_drop (cells : Nat → α) (start count n : Nat) (bound : n ≤ count) :
    (window cells start count).drop n = window cells (start + n) (count - n) := by
  obtain ⟨rest,rfl⟩ := Nat.exists_eq_add_of_le bound
  rw [window_append,List.drop_append_of_le_length (by simp)]
  simp

theorem overlay_before (cells : Nat → α) (start : Nat) (values : List α) (i : Nat)
    (before : i < start) : overlay cells start values i = cells i := by
  simp [overlay,Nat.not_le.mpr before]

theorem overlay_after (cells : Nat → α) (start : Nat) (values : List α) (i : Nat)
    (after : start + values.length ≤ i) : overlay cells start values i = cells i := by
  have none : values[i - start]? = none := List.getElem?_eq_none (by omega)
  simp [overlay,List.getD_eq_getElem?_getD,none]

theorem window_overlay (cells : Nat → α) (start : Nat) (values : List α) :
    window (overlay cells start values) start values.length = values := by
  apply List.ext_getElem
  · simp
  · intro i left right
    simp [overlay,List.getD_eq_getElem?_getD,right]

/-- A window that misses the written range is unchanged. -/
theorem window_overlay_apart (cells : Nat → α) (start : Nat) (values : List α) (from' count : Nat)
    (apart : from' + count ≤ start ∨ start + values.length ≤ from') :
    window (overlay cells start values) from' count = window cells from' count := by
  apply window_congr
  intro i lower upper
  rcases apart with before | after
  · exact overlay_before _ _ _ _ (by omega)
  · exact overlay_after _ _ _ _ (by omega)

/-- Writing right behind a window appends the written values to it. -/
theorem window_overlay_behind (cells : Nat → α) (start count : Nat) (values : List α) :
    window (overlay cells (start + count) values) start (count + values.length) =
      window cells start count ++ values := by
  rw [window_append,window_overlay_apart _ _ _ _ _ (.inl (by omega)),window_overlay]

end Xtracepp.Library.Window
