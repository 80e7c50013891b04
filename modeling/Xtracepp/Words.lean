import Xtracepp.Library.Outcome

/-! Machine words, faults and the encoding of integers in messages.
`size_t` is a natural number below `2^64` with explicit wrap-around. A fault is
anything after which the C++ program does not go on from the call it is in.
-/
namespace Xtracepp
open Library.Outcome

/-- Ways a call may fail to return. -/
inductive Fault
  | assertion (expression : String)
  | outOfRange (call : String)
  | lengthError
  | undefined (access : String)
  /-- `::exit( EXIT_FAILURE )` -/
  | exited
  deriving DecidableEq, Repr

abbrev Checked := Except Fault

def assert (expression : String) (holds : Prop) [Decidable holds] : Checked Unit :=
  demand (.assertion expression) holds

def add64 (left right : Nat) : Nat := (left + right) % 2^64

def sub64 (left right : Nat) : Nat := (left + 2^64 - right) % 2^64

theorem add64_small {left right : Nat} (small : left + right < 2^64) :
    add64 left right = left + right := Nat.mod_eq_of_lt small

theorem sub64_small {left right : Nat} (ordered : right ≤ left) (small : left < 2^64) :
    sub64 left right = left - right := by
  unfold sub64
  omega

theorem sub64_lt (left right : Nat) : sub64 left right < 2^64 := Nat.mod_lt _ (by omega)

/-- The value of bytes that start with the least significant one. -/
def leastFirst : List UInt8 → Nat
  | [] => 0
  | byte :: rest => byte.toNat + 256 * leastFirst rest

/-- An integer as loaded by the host from raw bytes. -/
def loaded (littleEndian : Bool) (encoded : List UInt8) : Nat :=
  if littleEndian then leastFirst encoded else leastFirst encoded.reverse

/-- `_ordered`: the loaded integer, with its bytes reversed if `byteswap`. -/
def ordered (littleEndian byteswap : Bool) (encoded : List UInt8) : Nat :=
  loaded littleEndian (if byteswap then encoded.reverse else encoded)

theorem leastFirst_lt (encoded : List UInt8) : leastFirst encoded < 256 ^ encoded.length := by
  induction encoded with
  | nil => simp [leastFirst]
  | cons byte rest ih =>
    have small : byte.toNat < 256 := byte.toNat_lt
    simp only [leastFirst,List.length_cons,Nat.pow_succ]
    omega

theorem loaded_lt (littleEndian : Bool) (encoded : List UInt8) :
    loaded littleEndian encoded < 256 ^ encoded.length := by
  have forward := leastFirst_lt encoded
  have backward := leastFirst_lt encoded.reverse
  rw [List.length_reverse] at backward
  unfold loaded
  split
  · exact forward
  · exact backward

theorem ordered_lt (littleEndian byteswap : Bool) (encoded : List UInt8) :
    ordered littleEndian byteswap encoded < 256 ^ encoded.length := by
  have bound := loaded_lt littleEndian (if byteswap then encoded.reverse else encoded)
  unfold ordered
  split at bound <;> simp_all

namespace Alignment

/-- Nearest multiple of 4 from `sz` up. -/
def pad (sz : Nat) : Nat := add64 sz ((4 - sz % 4) % 4)

def units (sz : Nat) : Nat := pad sz / 4

def size (units : Nat) : Nat := units * 4 % 2^64

theorem pad_small {sz : Nat} (small : sz + 3 < 2^64) : pad sz = sz + (4 - sz % 4) % 4 :=
  add64_small (by omega)

theorem size_small {units : Nat} (small : units < 2^62) : size units = units * 4 := by
  unfold size
  omega

end Alignment
end Xtracepp
