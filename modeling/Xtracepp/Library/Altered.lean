import Xtracepp.Library.Window

/-! Lists that agree except at some places, where one of them has a fixed item. -/
namespace Xtracepp.Library

variable {α : Type}

/-- `after` is `before` with the item at some of the places, and nothing else changed. -/
structure Altered (item : α) (places : Nat → Prop) (before after : List α) : Prop where
  length : after.length = before.length
  elsewhere : ∀ i,after[i]? ≠ before[i]? → places i ∧ after[i]? = some item

namespace Altered

variable {item : α} {places others : Nat → Prop} {before after : List α}

theorem same (item : α) (places : Nat → Prop) (items : List α) : Altered item places items items :=
  ⟨rfl,fun _ different => absurd rfl different⟩

theorem weaken (altered : Altered item places before after) (more : ∀ i,places i → others i) :
    Altered item others before after := by
  refine ⟨altered.length,?_⟩
  intro i different
  obtain ⟨place,here⟩ := altered.elsewhere i different
  exact ⟨more i place,here⟩

/-- Both lists go on alike. -/
theorem append (altered : Altered item places before after) (rest : List α) :
    Altered item places (before ++ rest) (after ++ rest) := by
  refine ⟨by rw [List.length_append,List.length_append,altered.length],?_⟩
  intro i different
  by_cases inside : i < after.length
  · have early : i < before.length := by rw [← altered.length]; exact inside
    rw [List.getElem?_append_left inside,List.getElem?_append_left early] at different
    rw [List.getElem?_append_left inside]
    exact altered.elsewhere i different
  · have late : after.length ≤ i := Nat.le_of_not_lt inside
    apply absurd ?_ different
    rw [List.getElem?_append_right late,List.getElem?_append_right (altered.length ▸ late),
      altered.length]

/-- One more place gets the item. -/
theorem set (altered : Altered item places before after) {place : Nat} (allowed : places place)
    (inside : place < after.length) : Altered item places before (after.set place item) := by
  refine ⟨by rw [List.length_set,altered.length],?_⟩
  intro i different
  by_cases here : place = i
  · subst here
    exact ⟨allowed,List.getElem?_set_self inside⟩
  · rw [List.getElem?_set_ne here] at different ⊢
    exact altered.elsewhere i different

/-- Without places nothing has changed. -/
theorem exact (altered : Altered item places before after) (none : ∀ i,¬places i) :
    after = before := by
  apply List.ext_getElem?
  intro i
  by_contra different
  exact none i (altered.elsewhere i different).1

end Altered

/-- The items of a list with those at some places replaced. -/
def mask (item : α) (places : List Nat) (items : List α) : List α :=
  items.mapIdx fun i here => if i ∈ places then item else here

theorem mask_length (item : α) (places : List Nat) (items : List α) :
    (mask item places items).length = items.length := List.length_mapIdx

theorem mask_getElem? (item : α) (places : List Nat) (items : List α) (i : Nat) :
    (mask item places items)[i]? = items[i]?.map fun here => if i ∈ places then item else here :=
  List.getElem?_mapIdx

theorem mask_nil (item : α) (items : List α) : mask item [] items = items := by
  apply List.ext_getElem?
  intro i
  rw [mask_getElem?]
  simp

/-- A list whose places are all within it goes on as it is. -/
theorem mask_append (item : α) {places : List Nat} {items : List α}
    (bound : ∀ place ∈ places,place < items.length) (rest : List α) :
    mask item places (items ++ rest) = mask item places items ++ rest := by
  apply List.ext_getElem?
  intro i
  rw [mask_getElem?]
  rcases Nat.lt_or_ge i items.length with inside | behind
  · rw [List.getElem?_append_left inside,
      List.getElem?_append_left (by rw [mask_length]; exact inside),mask_getElem?]
  · have apart : i ∉ places := fun member => absurd (bound i member) (Nat.not_lt.mpr behind)
    rw [List.getElem?_append_right behind,
      List.getElem?_append_right (by rw [mask_length]; exact behind),mask_length]
    simp [apart]

/-- One more place. -/
theorem mask_set (item : α) (places : List Nat) (items : List α) (place : Nat) :
    mask item (places ++ [place]) items = (mask item places items).set place item := by
  apply List.ext_getElem?
  intro i
  rw [mask_getElem?,List.getElem?_set,mask_getElem?,mask_length]
  by_cases here : place = i
  · subst here
    rcases Nat.lt_or_ge place items.length with inside | behind
    · simp [inside]
    · simp [Nat.not_lt.mpr behind]
  · have same : i ∈ places ++ [place] ↔ i ∈ places := by simp [Ne.symm here]
    simp only [same,here,if_false]

/-- A window in which one cell is written. -/
theorem Window.window_overlay_one (cells : Nat → α) (start count place : Nat) (item : α) :
    window (overlay cells (start + place) [item]) start count =
      (window cells start count).set place item := by
  apply List.ext_getElem
  · simp
  · intro i left right
    rw [window_getElem,List.getElem_set,window_getElem]
    by_cases here : place = i
    · subst here
      simp [overlay]
    · rw [if_neg here]
      rcases Nat.lt_or_gt_of_ne here with after | before
      · exact overlay_after _ _ _ _ (by simp only [List.length_singleton]; omega)
      · exact overlay_before _ _ _ _ (by omega)

end Xtracepp.Library
