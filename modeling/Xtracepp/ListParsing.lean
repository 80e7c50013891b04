import Xtracepp.Words
import Xtracepp.Library.Framing

/-! What the parse functions share: reading of bytes, lists of members with and without a
count, and the formatting of resource IDs. `data` holds all the bytes that may be read from
a pointer on.
-/
namespace Xtracepp
open Library.Outcome Library.Framing

/-- The bytes from the most significant on. -/
def mostFirst (value : Nat) : List UInt8 :=
  [UInt8.ofNat (value / 2^24),UInt8.ofNat (value / 2^16),UInt8.ofNat (value / 2^8),
    UInt8.ofNat value]

theorem leastFirst_reverse_mostFirst {value : Nat} (small : value < 2^32) :
    leastFirst (mostFirst value).reverse = value := by
  simp only [mostFirst,List.reverse_cons,List.reverse_nil,List.nil_append,List.cons_append,
    leastFirst,UInt8.toNat_ofNat']
  omega

/-- `__builtin_bswap32`. -/
def bswap32 (value : Nat) : Nat := leastFirst (mostFirst value)

namespace ListParsing

def readBytes (data : List UInt8) (offset count : Nat) : Checked (List UInt8) :=
  if offset + count ≤ data.length then .ok (slice data offset count)
  else .error (.undefined "read past the end of data")

theorem readBytes_inside {front : List UInt8} {start count : Nat}
    (inside : start + count ≤ front.length) (more : List UInt8) :
    readBytes (front ++ more) start count = .ok (slice front start count) := by
  rw [readBytes,if_pos (by rw [List.length_append]; omega),slice_append _ _ _ _ inside]

theorem readBytes_front (front more : List UInt8) : readBytes (front ++ more) 0 front.length = .ok front := by
  rw [readBytes,if_pos (by simp),slice,List.drop_zero,List.take_left]

/-- `_ParsingOutputs`, with the members in place of their text. -/
structure ParsingOutputs (σ : Type) where
  members : List σ
  bytes_parsed : Nat
  deriving DecidableEq, Repr

variable {σ : Type}

/-- A member with the bytes parsed. -/
abbrev ListMember (σ : Type) := List UInt8 → Nat → Checked (σ × Nat)

def ParsingOutputs.add (outputs : ParsingOutputs σ) (member : σ × Nat) : ParsingOutputs σ :=
  ⟨outputs.members ++ [member.1],(outputs.bytes_parsed + member.2) % 2^32⟩

/-- `_parseLISTof` when no count of list members is provided; nothing while there is not
enough fuel. -/
def parseLISTof (parseListMember : ListMember σ) (data : List UInt8) (sz : Nat) :
    Nat → ParsingOutputs σ → Option (Checked (ParsingOutputs σ))
  | 0,_ => none
  | fuel + 1,outputs =>
    if Alignment.pad outputs.bytes_parsed < sz then
      match parseListMember (data.drop outputs.bytes_parsed) (sub64 sz outputs.bytes_parsed) with
      | .error fault => some (.error fault)
      | .ok member => parseLISTof parseListMember data sz fuel (outputs.add member)
    else some (.ok outputs)

/-- `_parseLISTof` with `memb_ct`. -/
def parseLISTofCounted (parseListMember : ListMember σ) (data : List UInt8) (sz : Nat) :
    Nat → ParsingOutputs σ → Checked (ParsingOutputs σ)
  | 0,outputs => .ok outputs
  | count + 1,outputs => do
    let member ← parseListMember (data.drop outputs.bytes_parsed) (sub64 sz outputs.bytes_parsed)
    parseLISTofCounted parseListMember data sz count (outputs.add member)

def ZERO_BITS : Nat := 0xE0000000

/-- `_formatVariable` of a resource ID. -/
def formatResourceId (byteswap : Bool) (data : Nat) : Checked Nat := do
  assert "( var.data & ResourceIdT::ZERO_BITS ) == 0" (data &&& ZERO_BITS = 0)
  return if byteswap then bswap32 data else data

/-- The bytes of the items, one after the other. -/
def encoding {ι : Type} (encode : ι → List UInt8) (items : List ι) : List UInt8 :=
  (items.map encode).flatten

/-- What a parse function makes of an encoded item, with more bytes behind it. -/
structure Parses {ι : Type} (parseListMember : ListMember σ) (encode : ι → List UInt8)
    (shown : ι → σ) (good : ι → Prop) : Prop where
  done : ∀ item more sz, good item → (encode item).length ≤ sz → sz < 2^64 →
    parseListMember (encode item ++ more) sz = .ok (shown item,(encode item).length)
  stuck : ∀ item more sz result, ¬good item → (encode item).length ≤ sz → sz < 2^64 →
    parseListMember (encode item ++ more) sz ≠ .ok result

section counted

variable {ι : Type} {parseListMember : ListMember σ} {encode : ι → List UInt8} {shown : ι → σ}
  {good : ι → Prop} {more : List UInt8} {sz : Nat} {outputs : ParsingOutputs σ}

theorem encoding_length_le {width : Nat} (items : List ι)
    (narrow : ∀ item ∈ items,(encode item).length ≤ width) :
    (encoding encode items).length ≤ items.length * width := by
  induction items with
  | nil => simp [encoding]
  | cons item items ih =>
    have first := narrow item (by simp)
    have rest := ih fun item member => narrow item (by simp [member])
    simp only [encoding,List.map_cons,List.flatten_cons,List.length_append,List.length_cons] at rest ⊢
    rw [Nat.add_mul]
    omega

theorem encoding_cons (item : ι) (items : List ι) :
    encoding encode (item :: items) = encode item ++ encoding encode items := by
  simp [encoding]

/-- The member that follows what has been parsed. -/
theorem parseLISTofCounted_next (parses : Parses parseListMember encode shown good)
    {front : List UInt8} {item : ι} {items : List ι} (fine : good item)
    (read : outputs.bytes_parsed = front.length)
    (inside : (front ++ encoding encode (item :: items)).length ≤ sz) (bound : sz < 2^64) :
    parseLISTofCounted parseListMember (front ++ (encoding encode (item :: items) ++ more)) sz
        (items.length + 1) outputs =
      parseLISTofCounted parseListMember ((front ++ encode item) ++ (encoding encode items ++ more))
        sz items.length (outputs.add (shown item,(encode item).length)) := by
  have split : front ++ (encoding encode (item :: items) ++ more) =
      (front ++ encode item) ++ (encoding encode items ++ more) := by simp [encoding_cons]
  simp only [encoding_cons,List.length_append] at inside
  have here : (front ++ encode item ++ (encoding encode items ++ more)).drop outputs.bytes_parsed =
      encode item ++ (encoding encode items ++ more) := by
    rw [read,List.append_assoc,List.drop_left]
  have left : sub64 sz outputs.bytes_parsed = sz - front.length := by
    rw [read,sub64_small (by omega) bound]
  rw [split,parseLISTofCounted,here,left,parses.done _ _ _ fine (by omega) (by omega),ok_bind]

theorem parseLISTofCounted_done (parses : Parses parseListMember encode shown good)
    (front more : List UInt8) (items : List ι) (fine : ∀ item ∈ items,good item)
    (read : outputs.bytes_parsed = front.length)
    (inside : (front ++ encoding encode items).length ≤ sz) (bound : sz < 2^64)
    (small : (front ++ encoding encode items).length < 2^32) :
    parseLISTofCounted parseListMember (front ++ (encoding encode items ++ more)) sz items.length
        outputs =
      .ok ⟨outputs.members ++ items.map shown,(front ++ encoding encode items).length⟩ := by
  induction items generalizing front outputs with
  | nil =>
    have whole : front ++ encoding encode [] = front := by simp [encoding]
    rw [whole,← read,List.map_nil,List.append_nil]
    rfl
  | cons item items ih =>
    have whole : front ++ encoding encode (item :: items) =
        (front ++ encode item) ++ encoding encode items := by simp [encoding_cons]
    rw [List.length_cons,parseLISTofCounted_next parses (fine item (by simp)) read inside bound]
    rw [whole] at inside small ⊢
    rw [ih (front ++ encode item) (fun item member => fine item (by simp [member])) ?_ inside small]
    · simp only [ParsingOutputs.add,List.append_assoc,List.map_cons,List.singleton_append]
    · simp only [ParsingOutputs.add,read,List.length_append] at small ⊢
      omega

theorem parseLISTofCounted_stuck (parses : Parses parseListMember encode shown good)
    (front more : List UInt8) (items : List ι) (bad : ¬∀ item ∈ items,good item)
    (read : outputs.bytes_parsed = front.length)
    (inside : (front ++ encoding encode items).length ≤ sz) (bound : sz < 2^64)
    (small : (front ++ encoding encode items).length < 2^32) (result : ParsingOutputs σ) :
    parseLISTofCounted parseListMember (front ++ (encoding encode items ++ more)) sz items.length
      outputs ≠ .ok result := by
  induction items generalizing front outputs with
  | nil => simp at bad
  | cons item items ih =>
    by_cases fine : good item
    · have whole : front ++ encoding encode (item :: items) =
          (front ++ encode item) ++ encoding encode items := by simp [encoding_cons]
      rw [List.length_cons,parseLISTofCounted_next parses fine read inside bound]
      rw [whole] at inside small
      refine ih (front ++ encode item) (fun rest => bad ?_) ?_ inside small
      · rw [List.forall_mem_cons]
        exact ⟨fine,rest⟩
      · simp only [ParsingOutputs.add,read,List.length_append] at small ⊢
        omega
    · intro done
      rw [encoding_cons,List.length_cons,parseLISTofCounted,read,List.drop_left] at done
      obtain ⟨member,parsed,_⟩ := bind_success done
      simp only [encoding_cons,List.length_append] at inside
      rw [List.append_assoc,sub64_small (by omega) bound] at parsed
      exact parses.stuck item _ _ member fine (by omega) (by omega) parsed

/-- A list that follows a header. -/
theorem suffix_done (parses : Parses parseListMember encode shown good) (header more : List UInt8)
    (items : List ι) (fine : ∀ item ∈ items,good item)
    (inside : header.length + (encoding encode items).length ≤ sz) (bound : sz < 2^64)
    (small : (encoding encode items).length < 2^32) :
    parseLISTofCounted parseListMember ((header ++ (encoding encode items ++ more)).drop header.length)
        (sub64 sz header.length) items.length ⟨[],0⟩ =
      .ok ⟨items.map shown,(encoding encode items).length⟩ := by
  have left : sub64 sz header.length = sz - header.length := sub64_small (by omega) bound
  have parsed := parseLISTofCounted_done parses [] more items fine
    (rfl : (⟨[],0⟩ : ParsingOutputs σ).bytes_parsed = 0)
    (by rw [List.nil_append]; omega : _ ≤ sz - header.length) (by omega) small
  simp only [List.nil_append] at parsed
  rw [List.drop_left,left,parsed]

theorem suffix_stuck (parses : Parses parseListMember encode shown good) (header more : List UInt8)
    (items : List ι) (bad : ¬∀ item ∈ items,good item)
    (inside : header.length + (encoding encode items).length ≤ sz) (bound : sz < 2^64)
    (small : (encoding encode items).length < 2^32) (result : ParsingOutputs σ) :
    parseLISTofCounted parseListMember ((header ++ (encoding encode items ++ more)).drop header.length)
      (sub64 sz header.length) items.length ⟨[],0⟩ ≠ .ok result := by
  have left : sub64 sz header.length = sz - header.length := sub64_small (by omega) bound
  rw [List.drop_left,left]
  exact parseLISTofCounted_stuck parses [] more items bad
    (rfl : (⟨[],0⟩ : ParsingOutputs σ).bytes_parsed = 0) (by rw [List.nil_append]; omega) (by omega)
    small result

end counted

end ListParsing
end Xtracepp
