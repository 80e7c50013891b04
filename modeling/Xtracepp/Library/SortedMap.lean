import Mathlib

/-! Maps kept as lists of entries in the strict order of their keys, as an ordered map
is iterated.
-/
namespace Xtracepp.Library.SortedMap

variable {Key Value : Type} [LinearOrder Key]

abbrev Entries (Key Value : Type) := List (Key × Value)

def keys (entries : Entries Key Value) : List Key := entries.map Prod.fst

def Sorted (entries : Entries Key Value) : Prop := (keys entries).Pairwise (· < ·)

def find (entries : Entries Key Value) (key : Key) : Option Value :=
  match entries with
  | [] => none
  | (other,value) :: rest => if other = key then some value else find rest key

/-- An entry for a key that is already there stays as it is. -/
def emplace (entries : Entries Key Value) (key : Key) (value : Value) : Entries Key Value :=
  match entries with
  | [] => [(key,value)]
  | (other,old) :: rest =>
    if key < other then (key,value) :: (other,old) :: rest
    else if other = key then (other,old) :: rest
    else (other,old) :: emplace rest key value

def erase (entries : Entries Key Value) (key : Key) : Entries Key Value :=
  entries.filter fun entry => entry.1 ≠ key

variable {entries : Entries Key Value} {key : Key} {value : Value}

theorem Sorted.nodup (sorted : Sorted entries) : (keys entries).Nodup :=
  List.Pairwise.imp (fun less => ne_of_lt less) sorted

theorem find_some (sorted : Sorted entries) :
    find entries key = some value ↔ (key,value) ∈ entries := by
  induction entries with
  | nil => simp [find]
  | cons entry rest ih =>
    obtain ⟨other,old⟩ := entry
    obtain ⟨first,after⟩ := List.pairwise_cons.mp sorted
    rw [find]
    split
    · rename_i same
      subst same
      constructor
      · rintro ⟨⟩
        exact List.mem_cons_self
      · intro member
        rcases List.mem_cons.mp member with here | later
        · cases here
          rfl
        · exact absurd (first _ (List.mem_map_of_mem later)) (lt_irrefl _)
    · rename_i different
      rw [ih after,List.mem_cons]
      constructor
      · exact Or.inr
      · rintro (here | later)
        · cases here
          exact absurd rfl different
        · exact later

theorem find_isSome (sorted : Sorted entries) :
    (find entries key).isSome = true ↔ key ∈ keys entries := by
  rw [Option.isSome_iff_exists,keys,List.mem_map]
  constructor
  · rintro ⟨value,found⟩
    exact ⟨(key,value),(find_some sorted).mp found,rfl⟩
  · rintro ⟨⟨other,value⟩,member,rfl⟩
    exact ⟨value,(find_some sorted).mpr member⟩

theorem mem_emplace {entry : Key × Value} (member : entry ∈ emplace entries key value) :
    entry = (key,value) ∨ entry ∈ entries := by
  induction entries with
  | nil => exact .inl (List.mem_singleton.mp member)
  | cons head rest ih =>
    obtain ⟨other,old⟩ := head
    rw [emplace] at member
    split at member
    · exact List.mem_cons.mp member
    · split at member
      · exact .inr member
      · rcases List.mem_cons.mp member with here | later
        · exact .inr (List.mem_cons.mpr (.inl here))
        · rcases ih later with fresh | old
          · exact .inl fresh
          · exact .inr (List.mem_cons.mpr (.inr old))

theorem emplace_perm (absent : key ∉ keys entries) :
    (emplace entries key value).Perm ((key,value) :: entries) := by
  induction entries with
  | nil => exact List.Perm.refl _
  | cons entry rest ih =>
    obtain ⟨other,old⟩ := entry
    rw [keys,List.map_cons,List.mem_cons,not_or] at absent
    obtain ⟨different,later⟩ := absent
    rw [emplace]
    split
    · exact List.Perm.refl _
    · rw [if_neg (Ne.symm different)]
      exact (List.Perm.cons _ (ih later)).trans (List.Perm.swap _ _ _)

theorem emplace_keys (absent : key ∉ keys entries) :
    (keys (emplace entries key value)).Perm (key :: keys entries) :=
  (emplace_perm absent).map Prod.fst

theorem emplace_sorted (sorted : Sorted entries) : Sorted (emplace entries key value) := by
  induction entries with
  | nil => exact List.pairwise_singleton _ _
  | cons entry rest ih =>
    obtain ⟨other,old⟩ := entry
    obtain ⟨first,after⟩ := List.pairwise_cons.mp sorted
    rw [emplace]
    split
    · rename_i less
      refine List.pairwise_cons.mpr ⟨?_,sorted⟩
      intro later member
      rcases List.mem_cons.mp member with rfl | member
      · exact less
      · exact lt_trans less (first _ member)
    · rename_i above
      split
      · exact sorted
      · rename_i different
        refine List.pairwise_cons.mpr ⟨?_,ih after⟩
        intro later member
        obtain ⟨entry,inside,rfl⟩ := List.mem_map.mp member
        rcases mem_emplace inside with rfl | old
        · exact lt_of_le_of_ne (not_lt.mp above) different
        · exact first _ (List.mem_map_of_mem old)

theorem erase_sorted (sorted : Sorted entries) : Sorted (erase entries key) :=
  List.Pairwise.sublist (List.Sublist.map _ List.filter_sublist) sorted

end Xtracepp.Library.SortedMap
