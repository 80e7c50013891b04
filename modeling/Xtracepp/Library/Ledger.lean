import Mathlib

/-! A queue with a released front part, together with all that ever went in and
came out. The balance of the three is a field, so no operation can lose,
duplicate, reorder or alter an item.
-/
namespace Xtracepp.Library

structure Ledger (α : Type) where
  received : List α := []
  delivered : List α := []
  held : List α := []
  released : Nat := 0
  balanced : delivered ++ held = received := by rfl
  bounded : released ≤ held.length := by simp

namespace Ledger

variable {α : Type}

def empty : Ledger α := {}

def accept (ledger : Ledger α) (items : List α) : Ledger α where
  received := ledger.received ++ items
  delivered := ledger.delivered
  held := ledger.held ++ items
  released := ledger.released
  balanced := by rw [← List.append_assoc,ledger.balanced]
  bounded := by have := ledger.bounded; simp; omega

/-- Move the end of the released part. -/
def release (ledger : Ledger α) (upto : Nat) (bound : upto ≤ ledger.held.length) : Ledger α :=
  { ledger with released := upto, bounded := bound }

/-- Hand out a front part of the released items. -/
def deliver (ledger : Ledger α) (count : Nat) (_within : count ≤ ledger.released) : Ledger α where
  received := ledger.received
  delivered := ledger.delivered ++ ledger.held.take count
  held := ledger.held.drop count
  released := ledger.released - count
  balanced := by rw [List.append_assoc,List.take_append_drop,ledger.balanced]
  bounded := by have := ledger.bounded; simp; omega

/-- Hand out a front part and keep the number of released items. -/
def withdraw (ledger : Ledger α) (count : Nat)
    (bound : count + ledger.released ≤ ledger.held.length) : Ledger α where
  received := ledger.received
  delivered := ledger.delivered ++ ledger.held.take count
  held := ledger.held.drop count
  released := ledger.released
  balanced := by rw [List.append_assoc,List.take_append_drop,ledger.balanced]
  bounded := by simp; omega

end Ledger
end Xtracepp.Library
