import Xtracepp.Requests

/-! What follows the fixed part of a reply, and the parse functions around it: they parse a reply
as it is framed to its end, with every list whole.
-/
namespace Xtracepp
open Library.Outcome Library.Framing

namespace Encodings
open Formatting ListParsing CountedLists

/-- Lists that were parsed, string views with the place they begin at, and the bytes of both as
they were counted. -/
structure ReplySuffix where
  lists : List (List CountedLists.Text)
  views : List (String × Nat × Nat)
  size : Nat

/-- What is compared with the units in the header. -/
def extraUnits (size : Nat) (suffix : ReplySuffix) : Nat :=
  Alignment.units (sub64 ((size + suffix.size) % 2^32) 32)

/-- What the parse function of a suffix does with a framed reply that has room for it. -/
structure ReplyCorrect (size : Nat) (parse : Reader → List UInt8 → Nat → Checked ReplySuffix)
    (Formed : Reader → List UInt8 → List Nat → Prop) (Accepts : Reader → List UInt8 → Prop) : Prop where
  parsed : ∀ {reader message counts} (more : List UInt8),
    Reply reader message → Formed reader message counts →
      ((∃ suffix,parse reader (message ++ more) message.length = .ok suffix ∧
          (message.length - 32) / 4 = extraUnits size suffix) ↔ Accepts reader message)
  whole : ∀ {reader message counts suffix} (more : List UInt8),
    Reply reader message → Formed reader message counts →
      parse reader (message ++ more) message.length = .ok suffix →
        (message.length - 32) / 4 = extraUnits size suffix →
          suffix.lists.map List.length = counts ∧ size + suffix.size = message.length ∧
            ∀ view ∈ suffix.views,view.2.1 + view.2.2 ≤ message.length

/-- A kind of suffix behind a fixed part of some size. -/
structure ReplyTail (size : Nat) where
  parse : Reader → List UInt8 → Nat → Checked ReplySuffix
  Formed : Reader → List UInt8 → List Nat → Prop
  Accepts : Reader → List UInt8 → Prop
  correct : ReplyCorrect size parse Formed Accepts

/-- A count in the fixed part of a reply, or one that is computed from it. -/
inductive ReplyCount
  | field (offset size : Nat)
  | units
  | keycodes (offset : Nat)

namespace ReplyCount

def read (count : ReplyCount) (reader : Reader) (data : List UInt8) : Checked Nat :=
  match count with
  | .field offset size => reader.ordered data offset size
  | .units => do
    let extra_aligned_units ← reader.ordered data 4 4
    return Alignment.size extra_aligned_units / 4 % 2^32
  | .keycodes offset => do
    let keycodes_per_modifier ← reader.ordered data offset 1
    return 8 * keycodes_per_modifier % 2^32

def value (count : ReplyCount) (reader : Reader) (message : List UInt8) : Nat :=
  match count with
  | .field offset size => reader.value message offset size
  | .units => (message.length - 32) / 4
  | .keycodes offset => 8 * reader.value message offset 1

/-- A place in the fixed part. -/
def Within (count : ReplyCount) (fixed : Nat) : Prop :=
  match count with
  | .field offset size => offset + size ≤ fixed
  | .units => True
  | .keycodes offset => offset + 1 ≤ fixed

/-- That many members of a width always fill whole units. -/
def Quarters (count : ReplyCount) (width : Nat) : Prop :=
  ∀ reader message,count.value reader message * width % 4 = 0

instance (count : ReplyCount) (fixed : Nat) : Decidable (count.Within fixed) :=
  match count with
  | .field _ _ => inferInstanceAs (Decidable (_ ≤ _))
  | .units => inferInstanceAs (Decidable True)
  | .keycodes _ => inferInstanceAs (Decidable (_ ≤ _))

variable {reader : Reader} {message : List UInt8} {count : ReplyCount} {fixed : Nat}

theorem Within.read (within : count.Within fixed) (more : List UInt8) (reply : Reply reader message)
    (long : fixed ≤ message.length) :
    count.read reader (message ++ more) = .ok (count.value reader message) := by
  have framed := reply.framed
  have small := reply.small
  cases count with
  | field offset size =>
    have inside : offset + size ≤ fixed := within
    exact ordered_inside (by omega)
  | units =>
    rw [ReplyCount.read,ordered_inside (by omega),ok_bind,Alignment.size_small (by omega),value]
    change (Except.ok _ : Checked Nat) = _
    congr 1
    omega
  | keycodes offset =>
    have inside : offset + 1 ≤ fixed := within
    have byte := ordered_lt reader.littleEndian reader.byteswap (slice message offset 1)
    rw [slice_length _ _ _ (by omega)] at byte
    rw [ReplyCount.read,ordered_inside (by omega),ok_bind]
    change (Except.ok _ : Checked Nat) = _
    congr 1
    exact Nat.mod_eq_of_lt (by unfold Reader.value; omega)

theorem quarters_width {width : Nat} (quarter : width % 4 = 0) : count.Quarters width := by
  intro reader message
  rw [Nat.mul_mod,quarter,Nat.mul_zero,Nat.zero_mod]

theorem quarters_keycodes {offset width : Nat} : (ReplyCount.keycodes offset).Quarters width := by
  intro reader message
  rw [value,Nat.mul_assoc,Nat.mul_mod,Nat.zero_mul,Nat.zero_mod]

end ReplyCount

section tails

variable {size : Nat}

theorem encoding_quarter {ι : Type} {encode : ι → List UInt8}
    (quarter : ∀ item,(encode item).length % 4 = 0) (items : List ι) :
    (encoding encode items).length % 4 = 0 := by
  induction items with
  | nil => rfl
  | cons item items ih =>
    have first := quarter item
    rw [encoding_cons,List.length_append]
    omega

theorem extraUnits_exact {reader : Reader} {message : List UInt8} {suffix : ReplySuffix}
    (reply : Reply reader message) (whole : size + suffix.size = message.length) :
    (message.length - 32) / 4 = extraUnits size suffix := by
  rw [extraUnits,whole,Nat.mod_eq_of_lt reply.small]
  exact reply.checked

/-- Where every suffix that is parsed has the size that the reply has room for. -/
theorem ReplyCorrect.exact {parse : Reader → List UInt8 → Nat → Checked ReplySuffix}
    {Formed : Reader → List UInt8 → List Nat → Prop} {Accepts : Reader → List UInt8 → Prop}
    (parsed : ∀ {reader message counts} (more : List UInt8),Reply reader message →
      Formed reader message counts →
        ((∃ suffix,parse reader (message ++ more) message.length = .ok suffix) ↔ Accepts reader message) ∧
          ∀ suffix,parse reader (message ++ more) message.length = .ok suffix →
            suffix.lists.map List.length = counts ∧ size + suffix.size = message.length ∧
              ∀ view ∈ suffix.views,view.2.1 + view.2.2 ≤ message.length) :
    ReplyCorrect size parse Formed Accepts := by
  refine ⟨fun more reply formed => ?_,fun more reply formed done _ => (parsed more reply formed).2 _ done⟩
  obtain ⟨accepted,whole⟩ := parsed more reply formed
  rw [← accepted]
  constructor
  · rintro ⟨suffix,done,_⟩
    exact ⟨suffix,done⟩
  · rintro ⟨suffix,done⟩
    exact ⟨suffix,done,extraUnits_exact reply (whole suffix done).2.1⟩

/-- No suffix. -/
def replyNothing : ReplyTail size where
  parse := fun _ _ _ => return ⟨[],[],0⟩
  Formed := fun _ message counts => counts = [] ∧ message.length = size
  Accepts := fun _ _ => True
  correct := by
    apply ReplyCorrect.exact
    intro reader message counts more reply formed
    refine ⟨iff_of_true ⟨_,rfl⟩ trivial,fun suffix done => ?_⟩
    cases done
    exact ⟨formed.1.symm,formed.2.symm,by simp⟩

/-- Bytes that are not parsed. -/
def replyRest : ReplyTail 32 where
  parse := fun reader data _ => do
    let extra_aligned_units ← reader.ordered data 4 4
    return ⟨[],[],Alignment.size extra_aligned_units⟩
  Formed := fun _ _ counts => counts = []
  Accepts := fun _ _ => True
  correct := by
    apply ReplyCorrect.exact
    intro reader message counts more reply formed
    have framed := reply.framed
    have small := reply.small
    have read := @ordered_inside reader message more 4 4 (by omega)
    rw [read]
    refine ⟨iff_of_true ⟨_,rfl⟩ trivial,fun suffix done => ?_⟩
    cases done
    refine ⟨formed.symm,?_,by simp⟩
    dsimp only
    rw [Alignment.size_small (by omega)]
    omega

/-- A string with its length in the fixed part. -/
def parseReplyText (name : String) (length : ReplyCount) (size : Nat) (reader : Reader)
    (data : List UInt8) (_ : Nat) : Checked ReplySuffix := do
  let name_len ← length.read reader data
  return ⟨[],[(name,size,name_len)],Alignment.pad name_len⟩

theorem replyText_correct {name : String} {length : ReplyCount} (within : length.Within size) :
    ReplyCorrect size (parseReplyText name length size)
      (fun reader message counts => counts = [] ∧
        message.length = size + padded (length.value reader message))
      fun _ _ => True := by
  apply ReplyCorrect.exact
  intro reader message counts more reply formed
  obtain ⟨shown,whole⟩ := formed
  have small := reply.small
  have fits : length.value reader message ≤ padded (length.value reader message) := by
    unfold padded
    omega
  rw [parseReplyText,within.read more reply (by omega),ok_bind]
  refine ⟨iff_of_true ⟨_,rfl⟩ trivial,fun suffix done => ?_⟩
  cases done
  refine ⟨shown.symm,?_,fun view listed => ?_⟩
  · dsimp only
    rw [pad_padded (by omega),whole]
  · rw [List.mem_singleton] at listed
    rw [listed]
    dsimp only
    omega

def replyText (name : String) (length : ReplyCount) (within : length.Within size) : ReplyTail size :=
  ⟨_,_,_,@replyText_correct _ name length within⟩

/-- `_parseLISTof` with a count, and the padding where the function adds it. -/
def parseReplyList (memb : MemberType) (count : ReplyCount) (pads : Bool) (size : Nat)
    (reader : Reader) (data : List UInt8) (sz : Nat) : Checked ReplySuffix := do
  let memb_ct ← count.read reader data
  let list ← parseLISTofUint16 (memb.parse reader) (data.drop size) (sub64 sz size) memb_ct
  return ⟨[list.members],[],if pads then Alignment.pad list.bytes_parsed else list.bytes_parsed⟩

theorem replyList_exact {memb : MemberType} {count : ReplyCount} {pads : Bool}
    (within : count.Within size) (aligned : pads = true ∨ count.Quarters memb.width) {reader : Reader}
    {message : List UInt8} {counts : List Nat} (more : List UInt8) (reply : Reply reader message)
    (formed : counts = [count.value reader message] ∧ count.value reader message < 2^16 ∧
      message.length = size + padded (count.value reader message * memb.width)) :
    ((∃ suffix,parseReplyList memb count pads size reader (message ++ more) message.length =
          .ok suffix) ↔
        Good (memb.good reader) memb.width message size (count.value reader message)) ∧
      ∀ suffix,parseReplyList memb count pads size reader (message ++ more) message.length = .ok suffix →
        suffix.lists.map List.length = counts ∧ size + suffix.size = message.length ∧
          ∀ view ∈ suffix.views,view.2.1 + view.2.2 ≤ message.length := by
  obtain ⟨shown,few,whole⟩ := formed
  have small := reply.small
  have fits : count.value reader message * memb.width ≤
      padded (count.value reader message * memb.width) := by
    unfold padded
    omega
  have rest : sub64 message.length size = message.length - size :=
    sub64_small (by omega) (by omega)
  have parsed := @parse_inside reader message memb size (message.length - size)
    (count.value reader message) more (by omega) (by omega) (by omega) small few
  rw [parseReplyList,within.read more reply (by omega),ok_bind,rest,← parsed.1]
  refine ⟨wrapped_iff _ _,fun suffix done => ?_⟩
  obtain ⟨list,listed,done⟩ := bind_success done
  obtain ⟨length,bytes⟩ := parsed.2 list listed
  cases done
  refine ⟨by rw [shown,List.map_cons,List.map_nil,length],?_,by simp⟩
  dsimp only
  rw [bytes,whole]
  cases aligned with
  | inl pads =>
    rw [pads,if_pos rfl,pad_padded (by omega)]
  | inr quarter =>
    rw [pad_padded (by omega),padded_whole (quarter reader message),ite_self]

theorem replyList_correct {memb : MemberType} {count : ReplyCount} {pads : Bool}
    (within : count.Within size) (aligned : pads = true ∨ count.Quarters memb.width) :
    ReplyCorrect size (parseReplyList memb count pads size)
      (fun reader message counts => counts = [count.value reader message] ∧
        count.value reader message < 2^16 ∧
          message.length = size + padded (count.value reader message * memb.width))
      fun reader message =>
        Good (memb.good reader) memb.width message size (count.value reader message) :=
  ReplyCorrect.exact (replyList_exact within aligned)

def replyList (memb : MemberType) (count : ReplyCount) (pads : Bool)
    (within : count.Within size) (aligned : pads = true ∨ count.Quarters memb.width) : ReplyTail size :=
  ⟨_,_,_,replyList_correct within aligned⟩

theorem extraUnits_list {lists : List (List CountedLists.Text)} {views : List (String × Nat × Nat)} {bytes : Nat}
    (whole : bytes % 4 = 0) (small : bytes < 2^31) : extraUnits 32 ⟨lists,views,bytes⟩ = bytes / 4 := by
  rw [extraUnits]
  dsimp only
  rw [Nat.mod_eq_of_lt (by omega),sub64_small (by omega) (by omega),Nat.add_sub_cancel_left,
    units_quarter (by omega) whole]

/-- A count that is taken as the host loads it. -/
def parseUnorderedList (memb : MemberType) (offset width : Nat) (reader : Reader) (data : List UInt8)
    (sz : Nat) : Checked ReplySuffix := do
  let encoded ← readBytes data offset width
  let list ← parseLISTofUint16 (memb.parse reader) (data.drop 32) (sub64 sz 32)
    (loaded reader.littleEndian encoded)
  return ⟨[list.members],[],Alignment.pad list.bytes_parsed⟩

theorem parseLISTofUint16_mod {parse : ListMember CountedLists.Text} {data : List UInt8} {sz count : Nat} :
    parseLISTofUint16 parse data sz (count % 2^16) = parseLISTofUint16 parse data sz count := by
  rw [parseLISTofUint16,parseLISTofUint16,Nat.mod_mod]

theorem unorderedList_correct {memb : MemberType} {offset width : Nat} (inside : offset + width ≤ 32)
    (quarter : memb.width % 4 = 0) (narrow : memb.width < 2^14)
    (sized : ∀ {reader data sz shown count},memb.parse reader data sz = .ok (shown,count) →
      count = memb.width) :
    ReplyCorrect 32 (parseUnorderedList memb offset width)
      (fun reader message counts => counts = [reader.value message offset width] ∧
        reader.value message offset width < 2^16 ∧
          message.length = 32 + reader.value message offset width * memb.width)
      fun reader message =>
        loaded reader.littleEndian (slice message offset width) % 2^16 =
            reader.value message offset width ∧
          Good (memb.good reader) memb.width message 32 (reader.value message offset width) := by
  have product (count : Nat) : count * memb.width % 4 = 0 := by
    rw [Nat.mul_mod,quarter,Nat.mul_zero,Nat.zero_mod]
  have steps {reader : Reader} {message : List UInt8} {suffix : ReplySuffix} (more : List UInt8)
      (long : 32 ≤ message.length)
      (whole : message.length = 32 + reader.value message offset width * memb.width)
      (done : parseUnorderedList memb offset width reader (message ++ more) message.length = .ok suffix)
      (check : (message.length - 32) / 4 = extraUnits 32 suffix) :
      loaded reader.littleEndian (slice message offset width) % 2^16 =
          reader.value message offset width ∧
        ∃ list,parseLISTofUint16 (memb.parse reader) ((message ++ more).drop 32) (sub64 message.length 32)
            (loaded reader.littleEndian (slice message offset width)) = .ok list ∧
          suffix = ⟨[list.members],[],reader.value message offset width * memb.width⟩ := by
    rw [parseUnorderedList,readBytes_inside (by omega),ok_bind] at done
    obtain ⟨list,listed,done⟩ := bind_success done
    have bytes := parseLISTofUint16_size (by omega) sized listed
    have few : loaded reader.littleEndian (slice message offset width) % 2^16 < 2^16 :=
      Nat.mod_lt _ (by decide)
    generalize loaded reader.littleEndian (slice message offset width) % 2^16 = count at bytes few ⊢
    have most : count * memb.width ≤ 2^16 * 2^14 := Nat.mul_le_mul few.le narrow.le
    have multiple := product count
    have expected := product (reader.value message offset width)
    cases done
    rw [bytes,pad_padded (by omega),padded_whole multiple] at check ⊢
    rw [extraUnits_list multiple (by omega)] at check
    have bytes_same : count * memb.width = reader.value message offset width * memb.width := by omega
    have same := Nat.eq_of_mul_eq_mul_right memb.positive bytes_same
    rw [same]
    exact ⟨rfl,list,listed,rfl⟩
  have listed {reader : Reader} {message : List UInt8} (more : List UInt8) (reply : Reply reader message)
      (few : reader.value message offset width < 2^16)
      (whole : message.length = 32 + reader.value message offset width * memb.width) :=
    have small := reply.small
    have rest : sub64 message.length 32 = message.length - 32 := sub64_small (by omega) (by omega)
    And.intro rest (@parse_inside reader message memb 32 (message.length - 32)
      (reader.value message offset width) more (by omega) (by omega) (by omega) small few)
  refine ⟨fun {reader message counts} more reply formed => ?_,
    fun {reader message counts suffix} more reply formed done check => ?_⟩
  · obtain ⟨_,few,whole⟩ := formed
    obtain ⟨rest,parsed⟩ := listed more reply few whole
    constructor
    · rintro ⟨suffix,done,check⟩
      obtain ⟨same,list,found,_⟩ := steps more (by omega) whole done check
      rw [rest,← parseLISTofUint16_mod,same] at found
      exact ⟨same,parsed.1.mp ⟨list,found⟩⟩
    · rintro ⟨same,good⟩
      obtain ⟨list,found⟩ := parsed.1.mpr good
      have bytes := (parsed.2 list found).2
      have multiple := product (reader.value message offset width)
      rw [← same,parseLISTofUint16_mod] at found
      refine ⟨⟨[list.members],[],Alignment.pad list.bytes_parsed⟩,?_,extraUnits_exact reply ?_⟩
      · rw [parseUnorderedList,readBytes_inside (by omega),ok_bind,rest,found]
        rfl
      · have small := reply.small
        dsimp only
        rw [bytes,pad_padded (by omega),padded_whole multiple,whole]
  · obtain ⟨shown,few,whole⟩ := formed
    obtain ⟨rest,parsed⟩ := listed more reply few whole
    obtain ⟨same,list,found,suffix⟩ := steps more (by omega) whole done check
    rw [rest,← parseLISTofUint16_mod,same] at found
    have length := (parsed.2 list found).1
    subst suffix
    exact ⟨by rw [shown,List.map_cons,List.map_nil,length],whole.symm,by simp⟩

def unorderedList (memb : MemberType) (offset width : Nat) (inside : offset + width ≤ 32)
    (quarter : memb.width % 4 = 0) (narrow : memb.width < 2^14)
    (sized : ∀ {reader data sz shown count},memb.parse reader data sz = .ok (shown,count) →
      count = memb.width) : ReplyTail 32 :=
  ⟨_,_,_,unorderedList_correct inside quarter narrow sized⟩

/-- Two lists with a count each. -/
def parseReplyLists (first second : MemberType) (left right : ReplyCount) (reader : Reader)
    (data : List UInt8) (sz : Nat) : Checked ReplySuffix := do
  let first_ct ← left.read reader data
  let front ← parseLISTofUint16 (first.parse reader) (data.drop 32) (sub64 sz 32) first_ct
  let bytes_parsed := (32 + front.bytes_parsed) % 2^32
  let second_ct ← right.read reader data
  let behind ← parseLISTofUint16 (second.parse reader) (data.drop bytes_parsed)
    (sub64 sz bytes_parsed) second_ct
  return ⟨[front.members,behind.members],[],front.bytes_parsed + behind.bytes_parsed⟩

theorem replyLists_correct {first second : MemberType} {left right : ReplyCount}
    (inside : left.Within 32) (within : right.Within 32) :
    ReplyCorrect 32 (parseReplyLists first second left right)
      (fun reader message counts => counts = [left.value reader message,right.value reader message] ∧
        left.value reader message < 2^16 ∧ right.value reader message < 2^16 ∧
          message.length = 32 + left.value reader message * first.width +
            right.value reader message * second.width)
      fun reader message =>
        Good (first.good reader) first.width message 32 (left.value reader message) ∧
          Good (second.good reader) second.width message
            (32 + left.value reader message * first.width) (right.value reader message) := by
  apply ReplyCorrect.exact
  intro reader message counts more reply formed
  obtain ⟨shown,few,less,whole⟩ := formed
  have small := reply.small
  have rest : sub64 message.length 32 = message.length - 32 := sub64_small (by omega) (by omega)
  have remaining : sub64 message.length (32 + left.value reader message * first.width) =
      message.length - (32 + left.value reader message * first.width) :=
    sub64_small (by omega) (by omega)
  have before := @parse_inside reader message first 32 (message.length - 32)
    (left.value reader message) more (by omega) (by omega) (by omega) small few
  have after := @parse_inside reader message second (32 + left.value reader message * first.width)
    (message.length - (32 + left.value reader message * first.width)) (right.value reader message) more
    (by omega) (by omega) (by omega) small less
  rw [parseReplyLists,inside.read more reply (by omega),ok_bind,rest,← before.1,← after.1]
  have next {front : ParsingOutputs CountedLists.Text} (found : parseLISTofUint16 (first.parse reader)
      ((message ++ more).drop 32) (message.length - 32) (left.value reader message) = .ok front) :
      (32 + front.bytes_parsed) % 2^32 = 32 + left.value reader message * first.width := by
    rw [(before.2 front found).2,Nat.mod_eq_of_lt (by omega)]
  refine ⟨⟨?_,?_⟩,fun suffix done => ?_⟩
  · rintro ⟨suffix,done⟩
    obtain ⟨front,found,done⟩ := bind_success done
    rw [next found,within.read more reply (by omega),ok_bind,remaining] at done
    obtain ⟨behind,later,_⟩ := bind_success done
    exact ⟨⟨front,found⟩,behind,later⟩
  · rintro ⟨⟨front,found⟩,behind,later⟩
    rw [found,ok_bind,next found,within.read more reply (by omega),ok_bind,remaining,later]
    exact ⟨_,rfl⟩
  · obtain ⟨front,found,done⟩ := bind_success done
    rw [next found,within.read more reply (by omega),ok_bind,remaining] at done
    obtain ⟨behind,later,done⟩ := bind_success done
    obtain ⟨length,bytes⟩ := before.2 front found
    obtain ⟨lengths,sizes⟩ := after.2 behind later
    cases done
    refine ⟨?_,?_,by simp⟩
    · rw [shown,List.map_cons,List.map_cons,List.map_nil,length,lengths]
    · dsimp only
      rw [bytes,sizes,whole,Nat.add_assoc]

def replyLists (first second : MemberType) (left right : ReplyCount) (inside : left.Within 32)
    (within : right.Within 32) : ReplyTail 32 :=
  ⟨_,_,_,@replyLists_correct first second _ _ inside within⟩

/-- A list of members that differ in size, with its count in the fixed part. -/
def parseReplyItems {ι : Type} (type : ItemType ι) (count : ReplyCount) (pads : Bool)
    (reader : Reader) (data : List UInt8) (sz : Nat) : Checked ReplySuffix := do
  let memb_ct ← count.read reader data
  let list ← parseItems type 32 (sub64 sz 32) memb_ct reader data
  return ⟨[list.members],[],if pads then Alignment.pad list.bytes_parsed else list.bytes_parsed⟩

/-- The items are what follows the fixed part, as many as the count tells. -/
structure ItemsFollow {ι : Type} (type : ItemType ι) (count : ReplyCount) (reader : Reader)
    (message : List UInt8) (items : List ι) : Prop where
  counted : items.length = count.value reader message
  few : items.length < 2^16
  stands : Stands type reader message 32 items
  whole : message.length = 32 + padded (encoding (type.encode reader) items).length

theorem replyItems_correct {ι : Type} {type : ItemType ι} {count : ReplyCount} {pads : Bool}
    (within : count.Within 32)
    (aligned : pads = true ∨ ∀ reader item,(type.encode reader item).length % 4 = 0) :
    ReplyCorrect 32 (parseReplyItems type count pads)
      (fun reader message counts => ∃ items,counts = [items.length] ∧
        ItemsFollow type count reader message items)
      fun reader message => ∀ items,ItemsFollow type count reader message items →
        ∀ item ∈ items,type.good item := by
  have listed {reader : Reader} {message : List UInt8} {items : List ι} (more : List UInt8)
      (reply : Reply reader message) (follow : ItemsFollow type count reader message items) :
      ((∃ suffix,parseReplyItems type count pads reader (message ++ more) message.length = .ok suffix) ↔
          ∀ item ∈ items,type.good item) ∧
        ∀ suffix,parseReplyItems type count pads reader (message ++ more) message.length = .ok suffix →
          suffix.lists.map List.length = [items.length] ∧ 32 + suffix.size = message.length ∧
            suffix.views = [] := by
    have small := reply.small
    have whole := follow.whole
    have fits : (encoding (type.encode reader) items).length ≤
        padded (encoding (type.encode reader) items).length := by
      unfold padded
      omega
    have rest : sub64 message.length 32 = message.length - 32 := sub64_small (by omega) (by omega)
    have parsed := @parseItems_inside _ type reader message 32 (message.length - 32) items more
      (by omega) follow.stands (by omega) (by omega) small follow.few
    rw [parseReplyItems,within.read more reply (by omega),ok_bind,rest,← follow.counted,← parsed.1]
    refine ⟨wrapped_iff _ _,fun suffix done => ?_⟩
    obtain ⟨list,found,done⟩ := bind_success done
    obtain ⟨length,bytes⟩ := parsed.2 list found
    cases done
    refine ⟨by rw [List.map_cons,List.map_nil,length],?_,rfl⟩
    dsimp only
    rw [bytes,whole]
    cases aligned with
    | inl pads => rw [pads,if_pos rfl,pad_padded (by omega)]
    | inr quarter =>
      have multiple : (encoding (type.encode reader) items).length % 4 = 0 :=
        encoding_quarter (quarter reader) items
      rw [pad_padded (by omega),padded_whole multiple,ite_self]
  apply ReplyCorrect.exact
  intro reader message counts more reply formed
  obtain ⟨items,shown,follow⟩ := formed
  obtain ⟨parsed,whole⟩ := listed more reply follow
  refine ⟨⟨fun done others follows => (listed more reply follows).1.mp done,
    fun good => parsed.mpr (good items follow)⟩,fun suffix done => ?_⟩
  obtain ⟨lengths,size,views⟩ := whole suffix done
  exact ⟨lengths.trans shown.symm,size,by simp [views]⟩

def replyItems {ι : Type} (type : ItemType ι) (count : ReplyCount) (pads : Bool)
    (within : count.Within 32)
    (aligned : pads = true ∨ ∀ reader item,(type.encode reader item).length % 4 = 0) : ReplyTail 32 :=
  ⟨_,_,_,replyItems_correct within aligned⟩

/-- A list and a string behind it, whose length is a byte of the header. -/
def parseReplyNamed (memb : MemberType) (count length : ReplyCount) (size : Nat) (reader : Reader)
    (data : List UInt8) (sz : Nat) : Checked ReplySuffix := do
  let memb_ct ← count.read reader data
  let list ← parseLISTofUint16 (memb.parse reader) (data.drop size) (sub64 sz size) memb_ct
  let name_len ← length.read reader data
  return ⟨[list.members],[("name",(size + list.bytes_parsed) % 2^32,name_len)],
    list.bytes_parsed + Alignment.pad name_len⟩

theorem replyNamed_correct {memb : MemberType} {count length : ReplyCount} (within : count.Within size)
    (inside : length.Within size) :
    ReplyCorrect size (parseReplyNamed memb count length size)
      (fun reader message counts => counts = [count.value reader message] ∧
        count.value reader message < 2^16 ∧
          message.length = size + count.value reader message * memb.width +
            padded (length.value reader message))
      fun reader message =>
        Good (memb.good reader) memb.width message size (count.value reader message) := by
  apply ReplyCorrect.exact
  intro reader message counts more reply formed
  obtain ⟨shown,few,whole⟩ := formed
  have small := reply.small
  have fits : length.value reader message ≤ padded (length.value reader message) := by
    unfold padded
    omega
  have rest : sub64 message.length size = message.length - size :=
    sub64_small (by omega) (by omega)
  have parsed := @parse_inside reader message memb size (message.length - size)
    (count.value reader message) more (by omega) (by omega) (by omega) small few
  rw [parseReplyNamed,within.read more reply (by omega),ok_bind,rest,inside.read more reply (by omega),← parsed.1]
  refine ⟨wrapped_iff _ _,fun suffix done => ?_⟩
  obtain ⟨list,listed,done⟩ := bind_success done
  obtain ⟨lengths,bytes⟩ := parsed.2 list listed
  cases done
  refine ⟨by rw [shown,List.map_cons,List.map_nil,lengths],?_,fun view member => ?_⟩
  · dsimp only
    rw [bytes,pad_padded (by omega),whole,Nat.add_assoc]
  · rw [List.mem_singleton] at member
    rw [member]
    dsimp only
    rw [bytes,Nat.mod_eq_of_lt (by omega)]
    omega

def replyNamed (memb : MemberType) (count length : ReplyCount) (within : count.Within size)
    (inside : length.Within size) : ReplyTail size :=
  ⟨_,_,_,@replyNamed_correct size memb _ _ within inside⟩

end tails

/-- A reply with a parse function of its own. -/
structure ReplyLayout where
  name : String
  size : Nat
  lists : List InnerList
  members : List Member
  tail : ReplyTail size

/-- The members of the header with what its second byte is, and those of the rest. -/
def replied (second members : List Member) : List Member :=
  .hidden "reply" 0 (.integer .CARD8) :: second ++
    [.hidden "(sequence number)" 2 (.integer .CARD16),
      .hidden "(extra aligned units)" 4 (.integer .CARD32)] ++ members

def ReplyLayout.usable (layout : ReplyLayout) : Bool :=
  decide (layout.size < 2^16) && (Fits layout.members layout.size &&
    layout.lists.all fun list => decide (list.offset + list.count ≤ layout.size))

end Encodings

namespace CountedLists.Reader
open Formatting ListParsing Encodings

variable (reader : Reader)

/-- `_parseReply` with the layout of a reply. -/
def parseReplyLayout (layout : ReplyLayout) (data : List UInt8) (sz : Nat) : Checked Outputs := do
  let extra_aligned_units ← reader.parseReplyHeader data sz
  let suffix ← layout.tail.parse reader data sz
  let bytes_parsed := (layout.size + suffix.size) % 2^32
  checkReply extra_aligned_units bytes_parsed
  let lists ← layout.lists.mapM (reader.parseInner data)
  let text ← reader.formatMembers data layout.members
  let views ← suffix.views.mapM fun view => reader.viewText (data.drop view.2.1) (view.1,view.2.2)
  return ⟨lists ++ suffix.lists,text ++ views,bytes_parsed⟩

end CountedLists.Reader

namespace Encodings
open Formatting ListParsing CountedLists

section layouts

variable {reader : Reader} {message more : List UInt8} {counts : List Nat} {layout : ReplyLayout}

theorem replyViews_done {views : List (String × Nat × Nat)}
    (inside : ∀ view ∈ views,view.2.1 + view.2.2 ≤ message.length) :
    ∃ text,(views.mapM fun view =>
      reader.viewText ((message ++ more).drop view.2.1) (view.1,view.2.2)) = .ok text := by
  refine (mapM_iff fun view listed => iff_of_true ?_ trivial).mpr fun _ _ => trivial
  have enough := inside view listed
  have behind := @behind_length message more view.2.1 (by omega)
  rw [Reader.viewText,readBytes,if_pos (by dsimp only; omega)]
  exact ⟨_,rfl⟩

/-- A framed reply that has room for exactly its suffix is parsed to its end, with every list
whole, if and only if its members and its suffix are accepted. -/
theorem parseReplyLayout_complete (usable : layout.usable = true) (reply : Reply reader message)
    (long : layout.size ≤ message.length) (formed : layout.tail.Formed reader message counts) :
    Complete (reader.parseReplyLayout layout (message ++ more) message.length)
        (layout.lists.map InnerList.count ++ counts) message.length ↔
      (∀ member ∈ layout.members,member.Accepts reader.littleEndian message) ∧
        layout.tail.Accepts reader message := by
  rw [ReplyLayout.usable,Bool.and_eq_true,Bool.and_eq_true,decide_eq_true_eq,List.all_eq_true] at usable
  obtain ⟨narrow,fits,inner⟩ := usable
  obtain ⟨membs,lists,lengths⟩ := @parseInners_done reader message more layout.lists layout.size
    (fun list listed => of_decide_eq_true (inner list listed)) long narrow
  have shown := @formatMembers_iff reader message more _ (Fits.mono fits long)
  have parsed := layout.tail.correct.parsed more reply formed
  rw [← shown,← parsed,Reader.parseReplyLayout,reply.header,ok_bind]
  constructor
  · rintro ⟨outputs,done,_⟩
    obtain ⟨suffix,found,done⟩ := bind_success done
    obtain ⟨check,done⟩ := demand_bind_success done
    rw [lists,ok_bind] at done
    obtain ⟨text,printed,_⟩ := bind_success done
    exact ⟨⟨text,printed⟩,suffix,found,check⟩
  · rintro ⟨⟨text,printed⟩,suffix,found,check⟩
    obtain ⟨counted,whole,views⟩ := layout.tail.correct.whole more reply formed found check
    obtain ⟨viewed,printed_views⟩ := @replyViews_done reader message more suffix.views views
    rw [extraUnits] at check
    refine ⟨⟨membs ++ suffix.lists,text ++ viewed,(layout.size + suffix.size) % 2^32⟩,?_,?_,?_⟩
    · rw [found,ok_bind]
      dsimp only
      rw [Reader.checkReply,assert,demand_true check,ok_bind,lists,ok_bind,printed,ok_bind,printed_views]
      rfl
    · dsimp only
      rw [List.map_append,lengths,counted]
    · dsimp only
      rw [whole,Nat.mod_eq_of_lt reply.small]

end layouts

end Encodings
end Xtracepp
