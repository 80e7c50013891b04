import Xtracepp.Encodings
import Xtracepp.ValueList
import Xtracepp.PolyText

/-! What follows the fixed part of a request: how it is parsed, when a message has room for
exactly that, and which bytes of it are accepted. Each kind of suffix carries the proof that
its parse function agrees with the other two.
-/
namespace Xtracepp
open Library.Outcome Library.Framing

namespace Encodings
open Formatting ListParsing CountedLists

/-- Lists that were parsed, string views that are formatted at the end, and the bytes of both
with their padding. -/
structure Suffix where
  lists : List (List CountedLists.Text)
  views : List (String × Nat)
  size : Nat

/-- A length or count in the prefix or the encoding of a request. -/
structure Place where
  inside : Bool
  offset : Nat
  size : Nat

/-- `fe.prefix->` or `fe.encoding->`. -/
def Place.at (place : Place) (big_request : Bool) : Nat :=
  if place.inside then start big_request + place.offset else place.offset

/-- A place in the fixed part. -/
def Place.Within (place : Place) (encodingSz : Nat) : Prop :=
  place.offset + place.size ≤ if place.inside then encodingSz else 4

instance (place : Place) (encodingSz : Nat) : Decidable (place.Within encodingSz) :=
  inferInstanceAs (Decidable (_ ≤ _))

def Place.read (place : Place) (reader : Reader) (big_request : Bool) (data : List UInt8) : Checked Nat :=
  reader.ordered data (place.at big_request) place.size

def Place.value (place : Place) (reader : Reader) (big_request : Bool) (message : List UInt8) : Nat :=
  reader.value message (place.at big_request) place.size

section places

variable {reader : Reader} {message more : List UInt8} {encodingSz : Nat} {big_request : Bool}
  {place : Place}

theorem Place.Within.fits (within : place.Within encodingSz)
    (long : start big_request + encodingSz ≤ message.length) :
    place.at big_request + place.size ≤ message.length := by
  unfold Place.Within at within
  unfold start at long
  unfold Place.at start
  split at within <;> split at long <;> simp_all <;> omega

theorem Place.Within.read (within : place.Within encodingSz)
    (long : start big_request + encodingSz ≤ message.length) :
    place.read reader big_request (message ++ more) = .ok (place.value reader big_request message) :=
  ordered_inside (within.fits long)

theorem Place.Within.value_lt (within : place.Within encodingSz) (narrow : place.size ≤ 2)
    (long : start big_request + encodingSz ≤ message.length) :
    place.value reader big_request message < 2^16 := by
  have bound := ordered_lt reader.littleEndian reader.byteswap
    (slice message (place.at big_request) place.size)
  rw [slice_length _ _ _ (within.fits long)] at bound
  have most : 256 ^ place.size ≤ 256 ^ 2 := Nat.pow_le_pow_right (by decide) narrow
  exact bound.trans_le most

end places

section lists

variable {reader : Reader} {message more : List UInt8}

theorem good_inside {good : List UInt8 → Prop} {width front count : Nat}
    (inside : front + count * width ≤ message.length) :
    Good good width ((message ++ more).drop front) 0 count ↔ Good good width message front count := by
  have same : ∀ i < count,slice ((message ++ more).drop front) (0 + i * width) width =
      slice message (front + i * width) width := by
    intro i below
    have room : (i + 1) * width ≤ count * width := Nat.mul_le_mul_right _ below
    rw [Nat.add_mul,Nat.one_mul] at room
    rw [slice_drop,Nat.zero_add,slice_append _ _ _ _ (by omega)]
  exact forall_congr' fun i => forall_congr' fun below => by rw [same i below]

/-- A list that stands in a message. -/
theorem parse_inside (memb : MemberType) {front room count : Nat} (more : List UInt8)
    (inside : front + count * memb.width ≤ message.length) (wide : count * memb.width ≤ room)
    (bound : room < 2^64) (small : message.length < 2^32) (few : count < 2^16) :
    ((∃ result,parseLISTofUint16 (memb.parse reader) ((message ++ more).drop front) room count =
        .ok result) ↔ Good (memb.good reader) memb.width message front count) ∧
      ∀ result,parseLISTofUint16 (memb.parse reader) ((message ++ more).drop front) room count =
        .ok result → result.members.length = count ∧ result.bytes_parsed = count * memb.width := by
  have behind := @behind_length message more front (by omega)
  have parsed := @parseLISTofUint16_fixed (memb.parse reader) memb.width (memb.good reader)
    (memb.fixed reader) ((message ++ more).drop front) room count (by omega) wide bound (by omega)
  rwa [Nat.mod_eq_of_lt few,good_inside inside] at parsed

theorem parseLISTofCounted_size {parse : ListMember CountedLists.Text} {width count : Nat}
    {data : List UInt8} {sz : Nat} {before result : ParsingOutputs CountedLists.Text}
    (sized : ∀ {data sz shown count},parse data sz = .ok (shown,count) → count = width)
    (bound : before.bytes_parsed < 2^32)
    (done : parseLISTofCounted parse data sz count before = .ok result) :
    result.bytes_parsed = (before.bytes_parsed + count * width) % 2^32 := by
  induction count generalizing before with
  | zero =>
    cases done
    rw [Nat.zero_mul,Nat.add_zero,Nat.mod_eq_of_lt bound]
  | succ count ih =>
    obtain ⟨⟨shown,size⟩,parsed,done⟩ := bind_success done
    cases sized parsed
    have added : (before.add (shown,width)).bytes_parsed = (before.bytes_parsed + width) % 2^32 := rfl
    rw [ih (by rw [added]; exact Nat.mod_lt _ (by decide)) done,added,Nat.mod_add_mod,Nat.add_assoc,
      Nat.add_comm width,← Nat.succ_mul]

theorem parseLISTofUint16_size {parse : ListMember CountedLists.Text} {width count : Nat}
    {data : List UInt8} {sz : Nat} {result : ParsingOutputs CountedLists.Text} (narrow : width < 2^16)
    (sized : ∀ {data sz shown count},parse data sz = .ok (shown,count) → count = width)
    (done : parseLISTofUint16 parse data sz count = .ok result) :
    result.bytes_parsed = count % 2^16 * width := by
  have few : count % 2^16 < 2^16 := Nat.mod_lt _ (by decide)
  have most : count % 2^16 * width ≤ 2^16 * width := Nat.mul_le_mul_right _ few.le
  rw [parseLISTofCounted_size sized (by decide) done,Nat.zero_add,Nat.mod_eq_of_lt (by omega)]

end lists

/-- What the parse function of a suffix does with a framed request that has room for it. -/
structure Correct (encodingSz : Nat) (parse : Reader → Bool → List UInt8 → Nat → Checked Suffix)
    (Formed : Reader → Bool → List UInt8 → List Nat → Prop)
    (Accepts : Reader → Bool → List UInt8 → Prop) : Prop where
  parsed : ∀ {reader big_request message counts} (more : List UInt8),
    Request reader message encodingSz big_request → Formed reader big_request message counts →
      ((∃ suffix,parse reader big_request (message ++ more) message.length = .ok suffix) ↔
        Accepts reader big_request message)
  whole : ∀ {reader big_request message counts suffix} (more : List UInt8),
    Request reader message encodingSz big_request → Formed reader big_request message counts →
      parse reader big_request (message ++ more) message.length = .ok suffix →
        suffix.lists.map List.length = counts ∧
          start big_request + encodingSz + suffix.size = message.length ∧
            ∀ view ∈ suffix.views,start big_request + encodingSz + view.2 ≤ message.length

/-- A kind of suffix behind an encoding of some size. -/
structure Tail (encodingSz : Nat) where
  parse : Reader → Bool → List UInt8 → Nat → Checked Suffix
  Formed : Reader → Bool → List UInt8 → List Nat → Prop
  Accepts : Reader → Bool → List UInt8 → Prop
  correct : Correct encodingSz parse Formed Accepts

section tails

variable {encodingSz : Nat}

/-- Nothing follows. -/
def parseNothing (_ : Reader) (_ : Bool) (_ : List UInt8) (_ : Nat) : Checked Suffix := return ⟨[],[],0⟩

theorem nothing_correct : Correct encodingSz parseNothing
    (fun _ big_request message counts => counts = [] ∧ message.length = start big_request + encodingSz)
    fun _ _ _ => True := by
  refine ⟨fun more _ _ => iff_of_true ⟨_,rfl⟩ trivial,fun more _ formed done => ?_⟩
  obtain ⟨none,length⟩ := formed
  cases done
  exact ⟨none.symm,length.symm,by simp⟩

def nothing : Tail encodingSz := ⟨_,_,_,nothing_correct⟩

/-- STRING8 of a length that stands in the fixed part. -/
def parseText (name : String) (length : Place) (reader : Reader) (big_request : Bool)
    (data : List UInt8) (_ : Nat) : Checked Suffix := do
  let len ← length.read reader big_request data
  return ⟨[],[(name,len)],Alignment.pad len⟩

theorem text_correct {name : String} {length : Place} (within : length.Within encodingSz)
    (narrow : length.size ≤ 2) :
    Correct encodingSz (parseText name length)
      (fun reader big_request message counts => counts = [] ∧
        message.length = start big_request + encodingSz +
          padded (length.value reader big_request message))
      fun _ _ _ => True := by
  refine ⟨fun more request _ => ?_,fun {reader big_request message counts suffix} more request formed done => ?_⟩
  · refine iff_of_true ?_ trivial
    rw [parseText,within.read request.long]
    exact ⟨_,rfl⟩
  · obtain ⟨none,total⟩ := formed
    have few := @Place.Within.value_lt reader message encodingSz big_request length within narrow
      request.long
    rw [parseText,within.read request.long] at done
    cases done
    have pads : length.value reader big_request message ≤
        padded (length.value reader big_request message) := by
      unfold padded
      omega
    refine ⟨none.symm,?_,?_⟩
    · rw [pad_padded (by omega),total]
    · simp only [List.forall_mem_singleton]
      omega

def text (name : String) (length : Place) (within : length.Within encodingSz) (narrow : length.size ≤ 2) :
    Tail encodingSz := ⟨_,_,_,@text_correct _ name length within narrow⟩

/-- How many bytes are said to be readable: those up to the end, or those of the list. -/
inductive Room
  | rest
  | inferred
  | exact

/-- What a list may take is computed from the length field in some functions. -/
def Room.bytes (room : Room) (reader : Reader) (big_request : Bool) (data : List UInt8)
    (sz encodingSz size : Nat) : Checked Nat :=
  match room with
  | .rest => return sub64 sz (start big_request + encodingSz)
  | .inferred => do
    let tl_aligned_units ← reader.tl_aligned_units data big_request
    return sub64 (Alignment.size tl_aligned_units) (start big_request + encodingSz)
  | .exact => return size

theorem Room.bytes_framed (room : Room) {reader : Reader} {big_request : Bool} {message : List UInt8}
    (request : Request reader message encodingSz big_request) (more : List UInt8) (size : Nat) :
    room.bytes reader big_request (message ++ more) message.length encodingSz size =
      .ok (match room with
        | .exact => size
        | _ => message.length - (start big_request + encodingSz)) := by
  have long := request.long
  have small := request.small
  have framed := request.framed
  cases room with
  | rest =>
    rw [Room.bytes,sub64_small long (by omega)]
    rfl
  | inferred =>
    have whole : Alignment.size (message.length / 4) = message.length := by
      rw [Alignment.size_small (by omega)]
      omega
    rw [Room.bytes,request.units,ok_bind,whole,sub64_small long (by omega)]
    rfl
  | exact => rfl

/-- `_parseLISTof` of what follows the fixed part, and the padding. -/
def parseList (memb : MemberType) (front room memb_ct : Nat) (reader : Reader) (data : List UInt8) :
    Checked Suffix := do
  let list ← parseLISTofUint16 (memb.parse reader) (data.drop front) room memb_ct
  return ⟨[list.members],[],Alignment.pad list.bytes_parsed⟩

theorem parseList_inside (memb : MemberType) {reader : Reader} {message : List UInt8}
    {front room count : Nat} (more : List UInt8)
    (inside : front + count * memb.width ≤ message.length) (wide : count * memb.width ≤ room)
    (bound : room < 2^64) (small : message.length < 2^32) (few : count < 2^16) :
    ((∃ suffix,parseList memb front room count reader (message ++ more) = .ok suffix) ↔
        Good (memb.good reader) memb.width message front count) ∧
      ∀ suffix,parseList memb front room count reader (message ++ more) = .ok suffix →
        suffix.lists.map List.length = [count] ∧ suffix.views = [] ∧
          suffix.size = padded (count * memb.width) := by
  obtain ⟨parsed,read⟩ := @parse_inside reader message memb front room count more inside wide bound
    small few
  refine ⟨⟨?_,?_⟩,fun suffix done => ?_⟩
  · rintro ⟨suffix,done⟩
    obtain ⟨list,found,_⟩ := bind_success done
    exact parsed.mp ⟨list,found⟩
  · intro good
    obtain ⟨list,found⟩ := parsed.mpr good
    rw [parseList,found]
    exact ⟨_,rfl⟩
  · obtain ⟨list,found,done⟩ := bind_success done
    obtain ⟨length,size⟩ := read list found
    cases done
    refine ⟨?_,rfl,?_⟩
    · rw [List.map_cons,List.map_nil,length]
    · rw [size,pad_padded (by omega)]

/-- What a list suffix has to show: that its function comes to one list of some room. -/
theorem list_correct {parse : Reader → Bool → List UInt8 → Nat → Checked Suffix}
    {Formed : Reader → Bool → List UInt8 → List Nat → Prop} {memb : MemberType}
    {count : Reader → Bool → List UInt8 → Nat}
    (listed : ∀ {reader big_request message counts} (more : List UInt8),
      Request reader message encodingSz big_request → Formed reader big_request message counts →
        counts = [count reader big_request message] ∧ count reader big_request message < 2^16 ∧
        message.length = start big_request + encodingSz +
          padded (count reader big_request message * memb.width) ∧
        ∃ room < 2^64,count reader big_request message * memb.width ≤ room ∧
          parse reader big_request (message ++ more) message.length =
            parseList memb (start big_request + encodingSz) room (count reader big_request message)
              reader (message ++ more)) :
    Correct encodingSz parse Formed fun reader big_request message =>
      Good (memb.good reader) memb.width message (start big_request + encodingSz)
        (count reader big_request message) := by
  have room {fixed size total : Nat} (whole : total = fixed + padded size) : fixed + size ≤ total := by
    unfold padded at whole
    omega
  refine ⟨fun more request formed => ?_,fun more request formed done => ?_⟩
  · obtain ⟨_,few,whole,bytes,bound,wide,same⟩ := listed more request formed
    rw [same]
    exact (parseList_inside memb more (room whole) wide bound request.small few).1
  · obtain ⟨shown,few,whole,bytes,bound,wide,same⟩ := listed more request formed
    rw [same] at done
    obtain ⟨lists,views,size⟩ :=
      (parseList_inside memb more (room whole) wide bound request.small few).2 _ done
    refine ⟨lists.trans shown.symm,?_,by simp [views]⟩
    rw [size]
    exact whole.symm

/-- A list with its count in the fixed part. -/
def parseCounted (memb : MemberType) (count : Place) (room : Room) (encodingSz : Nat) (reader : Reader)
    (big_request : Bool) (data : List UInt8) (sz : Nat) : Checked Suffix := do
  let memb_ct ← count.read reader big_request data
  let room ← room.bytes reader big_request data sz encodingSz (memb_ct * memb.width)
  parseList memb (start big_request + encodingSz) room memb_ct reader data

theorem counted_correct {memb : MemberType} {count : Place} {room : Room}
    (within : count.Within encodingSz) (narrow : count.size ≤ 2) :
    Correct encodingSz (parseCounted memb count room encodingSz)
      (fun reader big_request message counts => counts = [count.value reader big_request message] ∧
        message.length = start big_request + encodingSz +
          padded (count.value reader big_request message * memb.width))
      fun reader big_request message => Good (memb.good reader) memb.width message
        (start big_request + encodingSz) (count.value reader big_request message) := by
  apply list_correct
  intro reader big_request message counts more request formed
  obtain ⟨shown,whole⟩ := formed
  have small := request.small
  have pads : count.value reader big_request message * memb.width ≤
      padded (count.value reader big_request message * memb.width) := by
    unfold padded
    omega
  refine ⟨shown,within.value_lt narrow request.long,whole,match room with
    | .exact => count.value reader big_request message * memb.width
    | _ => message.length - (start big_request + encodingSz),?_,?_,?_⟩
  · cases room <;> dsimp only <;> omega
  · cases room <;> dsimp only <;> omega
  · rw [parseCounted,within.read request.long,ok_bind,room.bytes_framed request,ok_bind]

def counted (memb : MemberType) (count : Place) (room : Room) (within : count.Within encodingSz)
    (narrow : count.size ≤ 2) : Tail encodingSz :=
  ⟨_,_,_,@counted_correct _ memb count room within narrow⟩

/-- What the length field leaves of the request when its base is taken off. -/
def inferredSize (base : Nat) (reader : Reader) (big_request : Bool) (data : List UInt8) : Checked Nat := do
  let tl_aligned_units ← reader.tl_aligned_units data big_request
  return sub64 (Alignment.size tl_aligned_units) base

theorem inferredSize_framed {base : Nat} {reader : Reader} {big_request : Bool} {message : List UInt8}
    (request : Request reader message encodingSz big_request) (more : List UInt8)
    (inside : base ≤ message.length) :
    inferredSize base reader big_request (message ++ more) = .ok (message.length - base) := by
  have small := request.small
  have framed := request.framed
  have whole : Alignment.size (message.length / 4) = message.length := by
    rw [Alignment.size_small (by omega)]
    omega
  rw [inferredSize,request.units,ok_bind,whole,sub64_small inside (by omega)]
  rfl

/-- A list as long as what is left of the request. -/
def parseInferred (memb : MemberType) (base : Bool → Nat) (encodingSz : Nat) (reader : Reader)
    (big_request : Bool) (data : List UInt8) (_ : Nat) : Checked Suffix := do
  let list_sz ← inferredSize (base big_request) reader big_request data
  parseList memb (start big_request + encodingSz) list_sz (list_sz / memb.width) reader data

def inferredCount (memb : MemberType) (base : Bool → Nat) (_ : Reader) (big_request : Bool)
    (message : List UInt8) : Nat := (message.length - base big_request) / memb.width

theorem inferred_correct {memb : MemberType} {base : Bool → Nat}
    (below : ∀ big_request,base big_request ≤ start big_request + encodingSz) :
    Correct encodingSz (parseInferred memb base encodingSz)
      (fun reader big_request message counts =>
        counts = [inferredCount memb base reader big_request message] ∧
          inferredCount memb base reader big_request message < 2^16 ∧
            message.length = start big_request + encodingSz +
              padded (inferredCount memb base reader big_request message * memb.width))
      fun reader big_request message => Good (memb.good reader) memb.width message
        (start big_request + encodingSz) (inferredCount memb base reader big_request message) := by
  apply list_correct
  intro reader big_request message counts more request formed
  obtain ⟨shown,few,whole⟩ := formed
  have small := request.small
  have long := request.long
  have under := below big_request
  refine ⟨shown,few,whole,message.length - base big_request,by omega,Nat.div_mul_le_self _ _,?_⟩
  rw [parseInferred,inferredSize_framed request more (by omega),ok_bind]
  rfl

/-- A list of which the last member may be followed by padding. -/
def inferred (memb : MemberType) : Tail encodingSz :=
  ⟨_,_,_,@inferred_correct encodingSz memb (fun big_request => start big_request + encodingSz)
    fun _ => Nat.le_refl _⟩

/-- A list for which only the size of the encoding is taken off the request. -/
def inferredFromEncoding (memb : MemberType) : Tail encodingSz :=
  ⟨_,_,_,@inferred_correct encodingSz memb (fun _ => encodingSz) fun _ => Nat.le_add_left _ _⟩

/-- A factor of the expected number of members. -/
inductive Factor
  | constant (count : Nat)
  | field (place : Place)

def Factor.read (factor : Factor) (reader : Reader) (big_request : Bool) (data : List UInt8) : Checked Nat :=
  match factor with
  | .constant count => return count
  | .field place => place.read reader big_request data

def Factor.value (factor : Factor) (reader : Reader) (big_request : Bool) (message : List UInt8) : Nat :=
  match factor with
  | .constant count => count
  | .field place => place.value reader big_request message

def Factor.Within (factor : Factor) (encodingSz : Nat) : Prop :=
  match factor with
  | .constant _ => True
  | .field place => place.Within encodingSz

instance (factor : Factor) (encodingSz : Nat) : Decidable (factor.Within encodingSz) :=
  match factor with
  | .constant _ => inferInstanceAs (Decidable True)
  | .field place => inferInstanceAs (Decidable (place.Within encodingSz))

theorem Factor.Within.read {factor : Factor} (within : factor.Within encodingSz) {reader : Reader}
    {big_request : Bool} {message : List UInt8} (more : List UInt8)
    (long : start big_request + encodingSz ≤ message.length) :
    factor.read reader big_request (message ++ more) = .ok (factor.value reader big_request message) := by
  cases factor with
  | constant count => rfl
  | field place => exact Place.Within.read within long

/-- A list as long as what is left of the request, which has to be what two factors tell. -/
def parseExpected (memb : MemberType) (first second : Factor) (encodingSz : Nat) (reader : Reader)
    (big_request : Bool) (data : List UInt8) (_ : Nat) : Checked Suffix := do
  let list_sz ← inferredSize (start big_request + encodingSz) reader big_request data
  let left ← first.read reader big_request data
  let right ← second.read reader big_request data
  let expected_ct := left * right % 2^16
  let memb_ct := list_sz / memb.width % 2^16
  assert "memb_ct == expected_ct" (memb_ct = expected_ct)
  parseList memb (start big_request + encodingSz) list_sz memb_ct reader data

theorem padded_whole {count : Nat} (whole : count % 4 = 0) : padded count = count := by
  unfold padded
  omega

theorem expected_correct {memb : MemberType} {first second : Factor}
    (left : first.Within encodingSz) (right : second.Within encodingSz) (aligned : encodingSz % 4 = 0) :
    Correct encodingSz (parseExpected memb first second encodingSz)
      (fun reader big_request message counts =>
        counts = [first.value reader big_request message * second.value reader big_request message] ∧
          first.value reader big_request message * second.value reader big_request message < 2^16 ∧
            message.length = start big_request + encodingSz +
              first.value reader big_request message * second.value reader big_request message *
                memb.width)
      fun reader big_request message => Good (memb.good reader) memb.width message
        (start big_request + encodingSz)
          (first.value reader big_request message * second.value reader big_request message) := by
  apply list_correct
  intro reader big_request message counts more request formed
  obtain ⟨shown,few,whole⟩ := formed
  have small := request.small
  have long := request.long
  have framed := request.framed
  have header : start big_request % 4 = 0 := by cases big_request <;> rfl
  generalize product : first.value reader big_request message * second.value reader big_request message =
    count at shown few whole ⊢
  have quarter : count * memb.width % 4 = 0 := by omega
  have same : (message.length - (start big_request + encodingSz)) / memb.width = count := by
    rw [whole,Nat.add_sub_cancel_left,Nat.mul_div_cancel _ memb.positive]
  refine ⟨shown,few,by rw [padded_whole quarter]; exact whole,
    message.length - (start big_request + encodingSz),by omega,by omega,?_⟩
  rw [parseExpected,inferredSize_framed request more long,ok_bind,left.read more long,ok_bind,
    right.read more long,ok_bind]
  dsimp only
  rw [same,product,assert,demand_true rfl,ok_bind,Nat.mod_eq_of_lt few]

/-- A list with an expected count. -/
def expected (memb : MemberType) (first second : Factor) (left : first.Within encodingSz)
    (right : second.Within encodingSz) (aligned : encodingSz % 4 = 0) : Tail encodingSz :=
  ⟨_,_,_,@expected_correct _ memb first second left right aligned⟩

/-- Bytes that are not parsed. -/
def parseSkipped (pads : Bool) (encodingSz : Nat) (reader : Reader) (big_request : Bool)
    (data : List UInt8) (_ : Nat) : Checked Suffix := do
  let data_len ← inferredSize (start big_request + encodingSz) reader big_request data
  return ⟨[],[],if pads then Alignment.pad data_len else data_len⟩

theorem skipped_correct {pads : Bool} (aligned : encodingSz % 4 = 0) :
    Correct encodingSz (parseSkipped pads encodingSz) (fun _ _ _ counts => counts = [])
      fun _ _ _ => True := by
  refine ⟨fun more request _ => ?_,fun {reader big_request message counts suffix} more request formed done => ?_⟩
  · refine iff_of_true ?_ trivial
    rw [parseSkipped,inferredSize_framed request more request.long]
    exact ⟨_,rfl⟩
  · have small := request.small
    have long := request.long
    have framed := request.framed
    have header : start big_request % 4 = 0 := by cases big_request <;> rfl
    rw [parseSkipped,inferredSize_framed request more long] at done
    cases done
    refine ⟨formed.symm,?_,by simp⟩
    have quarter : (message.length - (start big_request + encodingSz)) % 4 = 0 := by omega
    dsimp only
    rw [pad_padded (by omega),padded_whole quarter,ite_self]
    omega

def skipped (pads : Bool) (aligned : encodingSz % 4 = 0) : Tail encodingSz :=
  ⟨_,_,_,@skipped_correct _ pads aligned⟩

/-- `CHAR2B`, printed as the host loads it. -/
def CHAR2B : MemberType :=
  .struct 2 [.flags "" 0 (.integer .CARD16) .none] (by decide) (by decide)

/-- The string of QueryTextExtents. -/
def parseString16 (odd_length : Place) (encodingSz : Nat) (reader : Reader) (big_request : Bool)
    (data : List UInt8) (_ : Nat) : Checked Suffix := do
  let string_sz ← inferredSize (start big_request + encodingSz) reader big_request data
  let odd ← odd_length.read reader big_request data
  let string_len := sub64 (string_sz / 2) (if odd ≠ 0 then 1 else 0)
  let string ← parseLISTofUint16 (CHAR2B.parse reader) (data.drop (start big_request + encodingSz))
    string_sz string_len
  return ⟨[string.members],[],string_sz⟩

theorem string16_correct {odd_length : Place} (within : odd_length.Within encodingSz) :
    Correct encodingSz (parseString16 odd_length encodingSz)
      (fun reader big_request message counts => ∃ count < 2^16,counts = [count] ∧
        message.length = start big_request + encodingSz +
          2 * (count + if odd_length.value reader big_request message ≠ 0 then 1 else 0))
      fun _ _ _ => True := by
  have listed {reader : Reader} {big_request : Bool} {message : List UInt8} {count : Nat}
      (more : List UInt8) (request : Request reader message encodingSz big_request) (few : count < 2^16)
      (whole : message.length = start big_request + encodingSz +
        2 * (count + if odd_length.value reader big_request message ≠ 0 then 1 else 0)) :
      ∃ string,parseString16 odd_length encodingSz reader big_request (message ++ more) message.length =
        .ok ⟨[string],[],message.length - (start big_request + encodingSz)⟩ ∧ string.length = count := by
    have small := request.small
    have long := request.long
    have string_len : sub64 ((message.length - (start big_request + encodingSz)) / 2)
        (if odd_length.value reader big_request message ≠ 0 then 1 else 0) = count := by
      generalize (if odd_length.value reader big_request message ≠ 0 then 1 else 0) = odd at whole ⊢
      rw [sub64_small (by omega) (by omega)]
      omega
    have width : CHAR2B.width = 2 := rfl
    have inside : start big_request + encodingSz + count * CHAR2B.width ≤ message.length := by
      rw [width]
      omega
    have parsed := @parse_inside reader message CHAR2B (start big_request + encodingSz)
      (message.length - (start big_request + encodingSz)) count more inside
      (by omega) (by omega) small few
    obtain ⟨string,found⟩ := parsed.1.mpr fun i below member listed => by
      rw [List.mem_singleton] at listed
      rw [listed]
      trivial
    refine ⟨string.members,?_,(parsed.2 string found).1⟩
    rw [parseString16,inferredSize_framed request more long,ok_bind,within.read long,ok_bind]
    dsimp only
    rw [string_len,found,ok_bind]
    rfl
  refine ⟨fun more request formed => ?_,fun more request formed done => ?_⟩
  · obtain ⟨count,few,_,whole⟩ := formed
    obtain ⟨string,found,_⟩ := listed more request few whole
    exact iff_of_true ⟨_,found⟩ trivial
  · obtain ⟨count,few,shown,whole⟩ := formed
    obtain ⟨string,found,length⟩ := listed more request few whole
    have long := request.long
    rw [found] at done
    cases done
    refine ⟨?_,?_,by simp⟩
    · rw [shown,List.map_cons,List.map_nil,length]
    · dsimp only
      omega

def string16 (odd_length : Place) (within : odd_length.Within encodingSz) : Tail encodingSz :=
  ⟨_,_,_,string16_correct within⟩

/-- A VALUE is formatted as its type says. -/
def valueMember (member : ValueList.ValueMember) : Member :=
  ⟨⟨member.name,0,member.scalar,member.name_range⟩,member.bitmask,false⟩

/-- The first bytes of each VALUE are accepted as one of its type. -/
def ValuesAccepted (littleEndian : Bool) (data : List UInt8) :
    Nat → List (ValueList.ValueMember × Nat) → Prop
  | _,[] => True
  | front,member :: members =>
    member.1.scalar.Legal (loaded littleEndian (slice data front member.1.scalar.size)) ∧
      ValuesAccepted littleEndian data (front + 4) members

theorem ValuesAccepted.inside {littleEndian : Bool} {message more : List UInt8} {front start : Nat}
    {members : List (ValueList.ValueMember × Nat)}
    (inside : front + start + 4 * members.length ≤ message.length) :
    ValuesAccepted littleEndian ((message ++ more).drop front) start members ↔
      ValuesAccepted littleEndian message (front + start) members := by
  induction members generalizing start with
  | nil => exact Iff.rfl
  | cons member members ih =>
    rw [List.length_cons] at inside
    have narrow := ValueList.size_le member.1.scalar
    rw [ValuesAccepted,ValuesAccepted,ih (by omega),slice_drop,slice_append _ _ _ _ (by omega)]
    rfl

theorem parseVALUE_iff {reader : Reader} {member : ValueList.ValueMember} {data : List UInt8} {sz : Nat}
    (usable : (valueMember member).usable = true) (long : 4 ≤ data.length) (room : 4 ≤ sz) :
    (∃ entry,ValueList.parseListMember reader.context reader.littleEndian reader.byteswap member data
      sz = .ok entry) ↔ member.scalar.Legal (loaded reader.littleEndian (slice data 0 member.scalar.size)) := by
  have narrow := ValueList.size_le member.scalar
  have formatted := @formatMember_iff reader data [] (valueMember member) usable
    (by unfold Member.finish; dsimp only [valueMember]; omega)
  rw [List.append_nil] at formatted
  refine Iff.trans ?_ formatted
  have read : readBytes data 0 member.scalar.size = .ok (slice data 0 member.scalar.size) := by
    rw [readBytes,if_pos (by omega)]
  rw [ValueList.parseListMember,assert,demand_true (by omega),ok_bind,read,ok_bind]
  refine (wrapped_iff _ _).trans (Iff.symm ?_)
  rw [Reader.formatMember]
  change (∃ text,(readBytes data 0 member.scalar.size >>= _) = .ok text) ↔ _
  rw [read,ok_bind]
  exact wrapped_iff _ _

/-- The VALUEs chosen by the mask are parsed if each is accepted. -/
theorem parseLISTofVALUE_read {reader : Reader} {mask sz : Nat} {data : List UInt8}
    (members : List ValueList.ValueMember) (i : Nat) (outputs : ValueList.ValueOutputs)
    (usable : ∀ member ∈ members,(valueMember member).usable = true)
    (counted : outputs.bytes_parsed = outputs.value_ct * 4)
    (inside : outputs.bytes_parsed + 4 * (ValueList.chosen mask members i).length ≤ data.length)
    (room : outputs.bytes_parsed + 4 * (ValueList.chosen mask members i).length ≤ sz)
    (bound : sz < 2^32) :
    ((∃ result,ValueList.parseLISTofVALUE reader.context reader.littleEndian reader.byteswap mask data
        sz members i outputs = .ok result) ↔
      ValuesAccepted reader.littleEndian data outputs.bytes_parsed (ValueList.chosen mask members i)) ∧
    ∀ result,ValueList.parseLISTofVALUE reader.context reader.littleEndian reader.byteswap mask data sz
        members i outputs = .ok result →
      result.entries.length = outputs.entries.length + (ValueList.chosen mask members i).length ∧
        result.bytes_parsed = outputs.bytes_parsed + 4 * (ValueList.chosen mask members i).length := by
  induction members generalizing i outputs with
  | nil =>
    have done : ValueList.parseLISTofVALUE reader.context reader.littleEndian reader.byteswap mask data
        sz [] i outputs = .ok outputs := by
      rw [ValueList.parseLISTofVALUE,assert,demand_true counted]
      rfl
    rw [done]
    refine ⟨iff_of_true ⟨outputs,rfl⟩ trivial,?_⟩
    intro result same
    cases same
    exact ⟨rfl,rfl⟩
  | cons member members ih =>
    have others : ∀ member ∈ members,(valueMember member).usable = true :=
      fun other listed => usable other (List.mem_cons_of_mem _ listed)
    by_cases set : mask.testBit i = true
    · have picked : ValueList.chosen mask (member :: members) i =
          (member,i) :: ValueList.chosen mask members (i + 1) := by
        rw [ValueList.chosen,if_pos set]
      rw [picked,List.length_cons] at inside room ⊢
      have rest : sub64 sz outputs.bytes_parsed = sz - outputs.bytes_parsed :=
        sub64_small (by omega) (by omega)
      have long : 4 ≤ (data.drop outputs.bytes_parsed).length := by
        rw [List.length_drop]
        omega
      have first := @parseVALUE_iff reader member (data.drop outputs.bytes_parsed)
        (sz - outputs.bytes_parsed) (usable member List.mem_cons_self) long (by omega)
      rw [slice_drop,Nat.add_zero] at first
      have enough : sz - outputs.bytes_parsed ≥ 4 := by omega
      rw [ValueList.parseLISTofVALUE,if_pos set,rest,assert,demand_true enough,ok_bind,ValuesAccepted]
      by_cases legal : member.scalar.Legal
          (loaded reader.littleEndian (slice data outputs.bytes_parsed member.scalar.size))
      · obtain ⟨entry,parsed⟩ := first.mpr legal
        have size : (outputs.add entry).bytes_parsed = outputs.bytes_parsed + 4 :=
          Nat.mod_eq_of_lt (by omega)
        have count : (outputs.add entry).value_ct = outputs.value_ct + 1 :=
          Nat.mod_eq_of_lt (by omega)
        have next := ih (i + 1) (outputs.add entry) others (by omega) (by omega) (by omega)
        rw [size] at next
        rw [parsed,ok_bind]
        refine ⟨next.1.trans ⟨fun all => ⟨legal,all⟩,fun all => all.2⟩,?_⟩
        intro result done
        obtain ⟨length,bytes⟩ := next.2 result done
        have added : (outputs.add entry).entries.length = outputs.entries.length + 1 := by
          rw [ValueList.ValueOutputs.add,List.length_append,List.length_singleton]
        exact ⟨by omega,by omega⟩
      · have stuck : ¬∃ result,(do
            let entry ← ValueList.parseListMember reader.context reader.littleEndian reader.byteswap
              member (data.drop outputs.bytes_parsed) (sz - outputs.bytes_parsed)
            ValueList.parseLISTofVALUE reader.context reader.littleEndian reader.byteswap mask data sz
              members (i + 1) (outputs.add entry)) = .ok result := by
          rintro ⟨result,done⟩
          obtain ⟨entry,parsed,_⟩ := bind_success done
          exact legal (first.mp ⟨entry,parsed⟩)
        exact ⟨iff_of_false stuck fun all => legal all.1,fun result done => absurd ⟨result,done⟩ stuck⟩
    · have skipped : ValueList.chosen mask (member :: members) i =
          ValueList.chosen mask members (i + 1) := by
        rw [ValueList.chosen,if_neg set]
      rw [skipped] at inside room ⊢
      rw [ValueList.parseLISTofVALUE,if_neg set]
      exact ih (i + 1) outputs others counted inside room

/-- LISTofVALUE behind the mask that stands in the encoding. -/
def parseValues (members : List ValueList.ValueMember) (value_mask : Place) (encodingSz : Nat)
    (reader : Reader) (big_request : Bool) (data : List UInt8) (sz : Nat) : Checked Suffix := do
  let mask ← value_mask.read reader big_request data
  let value_list ← ValueList.parseLISTofVALUE reader.context reader.littleEndian reader.byteswap mask
    (data.drop (start big_request + encodingSz)) (sub64 sz (start big_request + encodingSz)) members 0
    ⟨[],0,0⟩
  return ⟨[value_list.entries.map fun entry => [(entry.name,entry.text)]],[],value_list.bytes_parsed⟩

theorem values_correct {members : List ValueList.ValueMember} {value_mask : Place}
    (within : value_mask.Within encodingSz)
    (usable : ∀ member ∈ members,(valueMember member).usable = true) :
    Correct encodingSz (parseValues members value_mask encodingSz)
      (fun reader big_request message counts => counts =
          [(ValueList.chosen (value_mask.value reader big_request message) members 0).length] ∧
        message.length = start big_request + encodingSz +
          4 * (ValueList.chosen (value_mask.value reader big_request message) members 0).length)
      fun reader big_request message => ValuesAccepted reader.littleEndian message
        (start big_request + encodingSz)
          (ValueList.chosen (value_mask.value reader big_request message) members 0) := by
  have listed {reader : Reader} {big_request : Bool} {message : List UInt8} (more : List UInt8)
      (request : Request reader message encodingSz big_request)
      (whole : message.length = start big_request + encodingSz +
        4 * (ValueList.chosen (value_mask.value reader big_request message) members 0).length) :=
    have small := request.small
    have long := request.long
    have behind := @behind_length message more (start big_request + encodingSz) long
    have rest : sub64 message.length (start big_request + encodingSz) =
        message.length - (start big_request + encodingSz) := sub64_small long (by omega)
    have read := @parseLISTofVALUE_read reader (value_mask.value reader big_request message)
      (message.length - (start big_request + encodingSz))
      ((message ++ more).drop (start big_request + encodingSz)) members 0 ⟨[],0,0⟩ usable rfl
      (by dsimp only; omega) (by dsimp only; omega) (by omega)
    And.intro rest read
  refine ⟨fun {reader big_request message counts} more request formed => ?_,
    fun {reader big_request message counts suffix} more request formed done => ?_⟩
  · obtain ⟨rest,parsed,_⟩ := listed more request formed.2
    have whole := formed.2
    rw [@ValuesAccepted.inside reader.littleEndian message more (start big_request + encodingSz) 0 _
      (by omega)] at parsed
    refine Iff.trans ?_ parsed
    rw [parseValues,within.read request.long,ok_bind,rest]
    constructor
    · rintro ⟨suffix,done⟩
      obtain ⟨value_list,found,_⟩ := bind_success done
      exact ⟨value_list,found⟩
    · rintro ⟨value_list,found⟩
      rw [found]
      exact ⟨_,rfl⟩
  · obtain ⟨shown,whole⟩ := formed
    obtain ⟨rest,_,read⟩ := listed more request whole
    rw [parseValues,within.read request.long,ok_bind,rest] at done
    obtain ⟨value_list,found,done⟩ := bind_success done
    obtain ⟨length,size⟩ := read value_list found
    cases done
    simp only [List.length_nil,Nat.zero_add] at length size
    refine ⟨?_,?_,by simp⟩
    · rw [shown,List.map_cons,List.map_nil,List.length_map,length]
    · rw [size,whole]

def values (members : List ValueList.ValueMember) (value_mask : Place)
    (within : value_mask.Within encodingSz)
    (usable : ∀ member ∈ members,(valueMember member).usable = true) : Tail encodingSz :=
  ⟨_,_,_,values_correct within usable⟩

end tails

end Encodings
end Xtracepp
