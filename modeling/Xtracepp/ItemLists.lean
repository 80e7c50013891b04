import Xtracepp.Suffixes
import Xtracepp.Events

/-! Suffixes of members that differ in size: strings, hosts, the items of the text requests,
the data of properties, and an event within a request.
-/
namespace Xtracepp
open Library.Outcome Library.Framing

namespace Encodings
open Formatting ListParsing CountedLists

/-- The text of an integer without a name. -/
def numberText (reader : Reader) (type : IntT) (data : Nat) : String :=
  valueText reader.context (hexString type.size data) ""
    (type.val (Formatting.ordered type.size data reader.byteswap))

/-- The text of an integer with names for its values. -/
def namedText (reader : Reader) (type : IntT) (range : EnumNameRange) (data : Nat) : String :=
  valueText reader.context (hexString type.size data)
    (range.name (type.val (Formatting.ordered type.size data reader.byteswap)))
    (type.val (Formatting.ordered type.size data reader.byteswap))

/-- The characters of a `std::string_view`. -/
def characters (bytes : List UInt8) : String :=
  String.ofList (bytes.map fun byte => Char.ofNat byte.toNat)

/-- Text that is printed only if verbose. -/
def hiddenText (reader : Reader) (name text : String) : CountedLists.Text :=
  if reader.context.verbose then [(name,text)] else []

section formatting

variable {reader : Reader} {message more : List UInt8} {name : String} {offset : Nat} {type : IntT}

theorem nameless_text (data : Nat) : namedText reader type .none data = numberText reader type data := by
  have nameless : EnumNameRange.none.name
      (type.val (Formatting.ordered type.size data reader.byteswap)) = "" := by
    rw [EnumNameRange.name,EnumNameRange.has,if_neg (by simp [EnumNameRange.empty,EnumNameRange.none])]
  rw [namedText,nameless,numberText]

theorem formatInteger_number (data : Nat) :
    formatInteger reader.context type data reader.byteswap .none false =
      .ok (numberText reader type data) := by
  rw [← nameless_text]
  rfl

/-- A member that is printed in any case comes first. -/
theorem formatMembers_cons {data : List UInt8} {member : Member} {members : List Member}
    (plain : member.verbose = false) : reader.formatMembers data (member :: members) = do
      let first ← reader.formatMember data member
      let rest ← reader.formatMembers data members
      return first :: rest := by
  have visible : reader.shown (member :: members) = member :: reader.shown members := by
    rw [Reader.shown,List.filter_cons_of_pos (by rw [plain,Bool.not_false,Bool.or_true])]
    rfl
  rw [Reader.formatMembers,visible,List.mapM_cons]
  rfl

theorem formatMembers_hidden (inside : offset + type.size ≤ message.length) :
    reader.formatMembers (message ++ more) [.hidden name offset (.integer type)] =
      .ok (hiddenText reader name
        (numberText reader type (loaded reader.littleEndian (slice message offset type.size)))) := by
  rw [Reader.formatMembers,Reader.shown,hiddenText]
  cases visible : reader.context.verbose with
  | false => rfl
  | true =>
    have one : [Member.hidden name offset (.integer type)].filter
        (fun member => true || !member.verbose) = [.hidden name offset (.integer type)] := rfl
    have printed : reader.formatMember (message ++ more) (.hidden name offset (.integer type)) =
        .ok (name,numberText reader type (loaded reader.littleEndian (slice message offset type.size))) := by
      have read : readBytes (message ++ more) offset type.size = .ok (slice message offset type.size) :=
        readBytes_inside inside more
      rw [Reader.formatMember]
      change (readBytes (message ++ more) offset type.size >>= _) = _
      rw [read,ok_bind]
      change (formatInteger reader.context type _ reader.byteswap .none false >>= _) = _
      rw [formatInteger_number]
      rfl
    rw [one,List.mapM_cons,printed]
    rfl

theorem formatMember_named {range : EnumNameRange} (inside : offset + type.size ≤ message.length) :
    reader.formatMember (message ++ more) (.named name offset (.integer type) range) =
      .ok (name,namedText reader type range
        (loaded reader.littleEndian (slice message offset type.size))) := by
  have read : readBytes (message ++ more) offset type.size = .ok (slice message offset type.size) :=
    readBytes_inside inside more
  rw [Reader.formatMember]
  change (readBytes (message ++ more) offset type.size >>= _) = _
  rw [read]
  rfl

end formatting

/-- A type of list members that differ in size: how one is encoded and parsed. -/
structure ItemType (ι : Type) where
  encode : Reader → ι → List UInt8
  parse : Reader → ListMember CountedLists.Text
  shown : Reader → ι → CountedLists.Text
  good : ι → Prop
  parses : ∀ reader, Parses (parse reader) (encode reader) (shown reader) good

/-- `_parseLISTof` of such members. -/
def parseItems {ι : Type} (type : ItemType ι) (front room memb_ct : Nat) (reader : Reader) (data : List UInt8) :
    Checked (ParsingOutputs CountedLists.Text) :=
  parseLISTofUint16 (type.parse reader) (data.drop front) room memb_ct

/-- The items stand in the message from some place on. -/
def Stands {ι : Type} (type : ItemType ι) (reader : Reader) (message : List UInt8) (front : Nat)
    (items : List ι) : Prop :=
  encoding (type.encode reader) items <+: message.drop front

theorem parseItems_inside {ι : Type} (type : ItemType ι) {reader : Reader} {message : List UInt8} {front room : Nat}
    {items : List ι} (more : List UInt8) (inside : front ≤ message.length)
    (stands : Stands type reader message front items)
    (wide : (encoding (type.encode reader) items).length ≤ room) (bound : room < 2^64)
    (small : message.length < 2^32) (few : items.length < 2^16) :
    ((∃ result,parseItems type front room items.length reader (message ++ more) = .ok result) ↔
        ∀ item ∈ items,type.good item) ∧
      ∀ result,parseItems type front room items.length reader (message ++ more) = .ok result →
        result.members.length = items.length ∧
          result.bytes_parsed = (encoding (type.encode reader) items).length := by
  obtain ⟨rest,split⟩ := stands
  have data : (message ++ more).drop front =
      [] ++ (encoding (type.encode reader) items ++ (rest ++ more)) := by
    rw [List.drop_append_of_le_length inside,← split,List.nil_append,List.append_assoc]
  have fits : (encoding (type.encode reader) items).length ≤ message.length := by
    have length := congrArg List.length split
    rw [List.length_append,List.length_drop] at length
    omega
  have start : (⟨[],0⟩ : ParsingOutputs CountedLists.Text).bytes_parsed = ([] : List UInt8).length := rfl
  rw [parseItems,parseLISTofUint16,Nat.mod_eq_of_lt few,data]
  by_cases good : ∀ item ∈ items,type.good item
  · have done := parseLISTofCounted_done (type.parses reader) [] (rest ++ more) items good start
      (by rwa [List.nil_append] : _ ≤ room) bound (by rw [List.nil_append]; omega)
    refine ⟨iff_of_true ⟨_,done⟩ good,fun result same => ?_⟩
    rw [done] at same
    cases same
    simp
  · have stuck := parseLISTofCounted_stuck (type.parses reader) [] (rest ++ more) items good start
      (by rwa [List.nil_append] : _ ≤ room) bound (by rw [List.nil_append]; omega)
    exact ⟨iff_of_false (fun parsed => parsed.elim stuck) good,
      fun result same => absurd same (stuck result)⟩

/-- A string with its length in front. -/
structure STR where
  name : List UInt8
  short : name.length < 256

def STR.encode (_ : Reader) (str : STR) : List UInt8 := UInt8.ofNat str.name.length :: str.name

/-- `_parseListMember< STR >`. -/
def parseSTR (reader : Reader) : ListMember CountedLists.Text := fun data sz => do
  assert "sz >= sizeof( STR::Header )" (1 ≤ sz)
  let name_len ← reader.ordered data 0 1
  let name ← readBytes data 1 name_len
  let text ← reader.formatMembers data [.hidden "(name length)" 0 (.integer .CARD8)]
  return (text ++ [("name",reader.context.quoted (characters name))],1 + name_len)

def STR.shown (reader : Reader) (str : STR) : CountedLists.Text :=
  hiddenText reader "(name length)" (numberText reader .CARD8 str.name.length) ++
    [("name",reader.context.quoted (characters str.name))]

theorem loaded_one (littleEndian : Bool) (byte : UInt8) : loaded littleEndian [byte] = byte.toNat := by
  cases littleEndian <;> simp [loaded,leastFirst]

theorem ordered_one (littleEndian byteswap : Bool) (byte : UInt8) :
    ordered littleEndian byteswap [byte] = byte.toNat := by
  cases byteswap <;> exact loaded_one littleEndian byte

theorem STR.parses (reader : Reader) :
    Parses (parseSTR reader) (STR.encode reader) (STR.shown reader) fun _ => True := by
  refine ⟨fun str more sz _ room _ => ?_,fun _ _ _ _ wrong _ _ => absurd trivial wrong⟩
  have short := str.short
  have byte : (UInt8.ofNat str.name.length).toNat = str.name.length := by
    rw [UInt8.toNat_ofNat']
    omega
  have length : (STR.encode reader str).length = 1 + str.name.length := by
    rw [STR.encode,List.length_cons]
    omega
  have first : slice (STR.encode reader str) 0 1 = [UInt8.ofNat str.name.length] := rfl
  have rest : slice (STR.encode reader str) 1 str.name.length = str.name := List.take_length
  have count : reader.ordered (STR.encode reader str ++ more) 0 1 = .ok str.name.length := by
    rw [ordered_inside (by omega),Reader.value,first,ordered_one,byte]
  have name : readBytes (STR.encode reader str ++ more) 1 str.name.length = .ok str.name := by
    rw [readBytes_inside (by omega),rest]
  have hidden := @formatMembers_hidden reader (STR.encode reader str) more "(name length)" 0 .CARD8
    (by change 0 + 1 ≤ _; omega)
  have shown : loaded reader.littleEndian (slice (STR.encode reader str) 0 IntT.CARD8.size) =
      str.name.length := by
    change loaded reader.littleEndian (slice (STR.encode reader str) 0 1) = _
    rw [first,loaded_one,byte]
  rw [parseSTR,assert,demand_true (by omega),ok_bind,count,ok_bind,name,ok_bind,hidden,shown,length]
  rfl

/-- A host address, with the bytes that its encoding leaves unused. -/
structure HOST where
  family : UInt8
  unused : UInt8
  address : List UInt8
  padding : List UInt8
  short : address.length < 2^16
  filled : address.length + padding.length = padded address.length

/-- A count of two bytes as the client or the server writes it. -/
def encodeCount (reader : Reader) (count : Nat) : List UInt8 :=
  if reader.littleEndian != reader.byteswap then encode 2 count else (encode 2 count).reverse

def HOST.encode (reader : Reader) (host : HOST) : List UInt8 :=
  [host.family,host.unused] ++ encodeCount reader host.address.length ++ host.address ++ host.padding

/-- `_parseListMember< HOST >`. -/
def parseHOST (reader : Reader) : ListMember CountedLists.Text := fun data sz => do
  assert "sz >= sizeof( HOST::Header )" (4 ≤ sz)
  let family ← reader.ordered data 0 1
  assert "family < HOST::family_names.size()" (family < host_family.names.length)
  assert "!HOST::family_names.at( family ).empty()" (host_family.names.getD family "" ≠ "")
  let address_len ← reader.ordered data 2 2
  let address ← parseLISTofUint16 (CARD8.parse reader) (data.drop 4) (sub64 sz 4) address_len
  let text ← reader.formatMembers data
    [.named "family" 0 (.integer .CARD8) host_family,.hidden "(address length)" 2 (.integer .CARD16)]
  return (text ++ address.members.flatten,4 + Alignment.pad address_len)

/-- The family is one of those with a name. -/
def HOST.Known (host : HOST) : Prop :=
  host.family.toNat < host_family.names.length ∧ host_family.names.getD host.family.toNat "" ≠ ""

instance (host : HOST) : Decidable host.Known := inferInstanceAs (Decidable (_ ∧ _))

def HOST.shown (reader : Reader) (host : HOST) : CountedLists.Text :=
  ("family",namedText reader .CARD8 host_family host.family.toNat) ::
    hiddenText reader "(address length)"
      (numberText reader .CARD16 (loaded reader.littleEndian (encodeCount reader host.address.length))) ++
    host.address.map fun byte => ("",numberText reader .CARD8 byte.toNat)

theorem encodeCount_length (reader : Reader) (count : Nat) : (encodeCount reader count).length = 2 := by
  unfold encodeCount
  split
  · exact encode_length
  · rw [List.length_reverse,encode_length]

theorem ordered_encodeCount (reader : Reader) {count : Nat} (short : count < 2^16) :
    ordered reader.littleEndian reader.byteswap (encodeCount reader count) = count := by
  have back : leastFirst (encode 2 count) = count := leastFirst_encode short
  unfold encodeCount
  cases reader.littleEndian <;> cases reader.byteswap <;>
    simp [ordered,loaded,back]

theorem parseCARD8_parses (reader : Reader) :
    Parses (CARD8.parse reader) (fun byte => [byte])
      (fun byte => [("",numberText reader .CARD8 byte.toNat)]) fun _ => True := by
  refine ⟨fun byte more sz _ room _ => ?_,fun _ _ _ _ wrong _ _ => absurd trivial wrong⟩
  have enough : 1 ≤ sz := room
  have long : 1 ≤ ([byte] ++ more).length := by simp
  have shown : reader.formatMember [byte] (.plain "" 0 (.integer .CARD8)) =
      .ok ("",numberText reader .CARD8 byte.toNat) := by
    have named := @formatMember_named reader [byte] [] "" 0 .CARD8 .none (Nat.le_refl 1)
    have value : loaded reader.littleEndian (slice [byte] 0 IntT.CARD8.size) = byte.toNat :=
      loaded_one reader.littleEndian byte
    rw [List.append_nil,value,nameless_text] at named
    exact named
  have members : reader.formatMembers [byte] [.plain "" 0 (.integer .CARD8)] =
      .ok [("",numberText reader .CARD8 byte.toNat)] := by
    rw [formatMembers_cons rfl,shown]
    rfl
  change parseMembers "sz >= sizeof( ProtocolT )" 1 [.plain "" 0 (.integer .CARD8)] reader
    ([byte] ++ more) sz = _
  rw [parseMembers,assert,demand_true enough,ok_bind,readBytes_take long,ok_bind]
  change (reader.formatMembers [byte] _ >>= _) = _
  rw [members]
  rfl

theorem encoding_bytes (bytes : List UInt8) : encoding (fun byte => [byte]) bytes = bytes := by
  rw [encoding,← List.flatMap_def,List.flatMap_singleton']

theorem HOST.encode_length (reader : Reader) (host : HOST) :
    (HOST.encode reader host).length = 4 + padded host.address.length := by
  have filled := host.filled
  simp only [HOST.encode,List.length_append,encodeCount_length,List.length_cons,List.length_nil]
  omega

theorem HOST.encode_quarter (reader : Reader) (host : HOST) :
    (HOST.encode reader host).length % 4 = 0 := by
  rw [HOST.encode_length]
  unfold padded
  omega

theorem HOST.family_read (reader : Reader) (host : HOST) (more : List UInt8) :
    reader.ordered (HOST.encode reader host ++ more) 0 1 = .ok host.family.toNat := by
  have first : slice (HOST.encode reader host) 0 1 = [host.family] := rfl
  rw [ordered_inside (by rw [HOST.encode_length]; omega),Reader.value,first,ordered_one]

theorem HOST.count_slice (reader : Reader) (host : HOST) :
    slice (HOST.encode reader host) 2 2 = encodeCount reader host.address.length := by
  have parts : HOST.encode reader host = [host.family,host.unused] ++
      (encodeCount reader host.address.length ++ (host.address ++ host.padding)) := by
    simp only [HOST.encode,List.append_assoc]
  have header : [host.family,host.unused].length = 2 := rfl
  rw [slice,parts,List.drop_left' header,List.take_left' (encodeCount_length _ _)]

theorem HOST.address_parsed (reader : Reader) (host : HOST) (more : List UInt8) {sz : Nat}
    (room : padded host.address.length ≤ sz) (bound : sz < 2^64) :
    parseLISTofUint16 (CARD8.parse reader) ((HOST.encode reader host ++ more).drop 4) sz
        host.address.length =
      .ok ⟨host.address.map fun byte => [("",numberText reader .CARD8 byte.toNat)],
        host.address.length⟩ := by
  have short := host.short
  have fits : host.address.length ≤ padded host.address.length := by
    unfold padded
    omega
  have parts : HOST.encode reader host ++ more =
      ([host.family,host.unused] ++ encodeCount reader host.address.length) ++
        (host.address ++ (host.padding ++ more)) := by
    simp only [HOST.encode,List.append_assoc]
  have front : ([host.family,host.unused] ++ encodeCount reader host.address.length).length = 4 := by
    rw [List.length_append,encodeCount_length]
    rfl
  have done := @parseLISTofCounted_done _ _ (CARD8.parse reader) _ _ _ sz ⟨[],0⟩
    (parseCARD8_parses reader) [] (host.padding ++ more) host.address (fun _ _ => trivial) rfl
    (by rw [encoding_bytes,List.nil_append]; omega) bound
    (by rw [encoding_bytes,List.nil_append]; omega)
  rw [encoding_bytes,List.nil_append,List.nil_append,List.nil_append] at done
  rw [parseLISTofUint16,Nat.mod_eq_of_lt short,parts,List.drop_left' front,done]

theorem HOST.parses (reader : Reader) :
    Parses (parseHOST reader) (HOST.encode reader) (HOST.shown reader) HOST.Known := by
  refine ⟨fun host more sz known room bound => ?_,fun host more sz result unknown room _ done => ?_⟩
  · have length := HOST.encode_length reader host
    have short := host.short
    have count : reader.ordered (HOST.encode reader host ++ more) 2 2 = .ok host.address.length := by
      rw [ordered_inside (by omega),Reader.value,HOST.count_slice,ordered_encodeCount reader short]
    have rest : sub64 sz 4 = sz - 4 := sub64_small (by omega) bound
    have address := @HOST.address_parsed reader host more (sz - 4) (by omega) (by omega)
    have family := @formatMember_named reader (HOST.encode reader host) more "family" 0 .CARD8
      host_family (by rw [length]; change 0 + 1 ≤ _; omega)
    have value : loaded reader.littleEndian (slice (HOST.encode reader host) 0 IntT.CARD8.size) =
        host.family.toNat := loaded_one reader.littleEndian host.family
    have hidden := @formatMembers_hidden reader (HOST.encode reader host) more "(address length)" 2
      .CARD16 (by rw [length]; change 2 + 2 ≤ _; omega)
    have counted : slice (HOST.encode reader host) 2 IntT.CARD16.size =
        encodeCount reader host.address.length := HOST.count_slice reader host
    rw [value] at family
    rw [counted] at hidden
    rw [parseHOST,assert,demand_true (by omega),ok_bind,HOST.family_read,ok_bind,assert,
      demand_true known.1,ok_bind,assert,demand_true known.2,ok_bind,count,ok_bind,rest,address,ok_bind,
      formatMembers_cons rfl,family,ok_bind,hidden,length,pad_padded (by omega)]
    dsimp only
    rw [← List.flatMap_def,← List.map_eq_flatMap]
    rfl
  · obtain ⟨_,done⟩ := demand_bind_success done
    rw [HOST.family_read,ok_bind] at done
    obtain ⟨below,done⟩ := demand_bind_success done
    exact unknown ⟨below,(demand_bind_success done).1⟩

def HOST.type : ItemType HOST := ⟨HOST.encode,parseHOST,HOST.shown,HOST.Known,HOST.parses⟩

def STR.type : ItemType STR := ⟨STR.encode,parseSTR,STR.shown,fun _ => True,STR.parses⟩

section tails

variable {encodingSz : Nat}

/-- LISTofSTR with its count in the encoding. -/
def parseStrings (count : Place) (encodingSz : Nat) (reader : Reader) (big_request : Bool)
    (data : List UInt8) (sz : Nat) : Checked Suffix := do
  let memb_ct ← count.read reader big_request data
  let path ← parseItems STR.type (start big_request + encodingSz)
    (sub64 sz (start big_request + encodingSz)) memb_ct reader data
  return ⟨[path.members],[],Alignment.pad path.bytes_parsed⟩

theorem strings_correct {count : Place} (within : count.Within encodingSz) (narrow : count.size ≤ 2) :
    Correct encodingSz (parseStrings count encodingSz)
      (fun reader big_request message counts => ∃ path : List STR,counts = [path.length] ∧
        path.length = count.value reader big_request message ∧
        Stands STR.type reader message (start big_request + encodingSz) path ∧
        message.length = start big_request + encodingSz +
          padded (encoding (STR.encode reader) path).length)
      fun _ _ _ => True := by
  have listed {reader : Reader} {big_request : Bool} {message : List UInt8} {path : List STR}
      (more : List UInt8) (request : Request reader message encodingSz big_request)
      (counted : path.length = count.value reader big_request message)
      (stands : Stands STR.type reader message (start big_request + encodingSz) path)
      (whole : message.length = start big_request + encodingSz +
        padded (encoding (STR.encode reader) path).length) :
      ∃ members,members.length = path.length ∧
        parseStrings count encodingSz reader big_request (message ++ more) message.length =
          .ok ⟨[members],[],padded (encoding (STR.encode reader) path).length⟩ := by
    have small := request.small
    have long := request.long
    have few := @Place.Within.value_lt reader message encodingSz big_request count within narrow long
    have pads : (encoding (STR.encode reader) path).length ≤
        padded (encoding (STR.encode reader) path).length := by
      unfold padded
      omega
    have rest : sub64 message.length (start big_request + encodingSz) =
        message.length - (start big_request + encodingSz) := sub64_small long (by omega)
    have parsed := @parseItems_inside _ STR.type reader message (start big_request + encodingSz)
      (message.length - (start big_request + encodingSz)) path more long stands
      (by change (encoding (STR.encode reader) path).length ≤ _; omega) (by omega) small (by omega)
    obtain ⟨result,done⟩ := parsed.1.mpr fun _ _ => trivial
    obtain ⟨length,size⟩ := parsed.2 result done
    refine ⟨result.members,length,?_⟩
    rw [parseStrings,within.read long,ok_bind,rest,← counted,done,ok_bind,size]
    change (.ok ⟨[result.members],[],Alignment.pad (encoding (STR.encode reader) path).length⟩ :
      Checked Suffix) = _
    rw [pad_padded (by omega)]
  refine ⟨fun more request formed => ?_,fun more request formed done => ?_⟩
  · obtain ⟨path,_,counted,stands,whole⟩ := formed
    obtain ⟨members,_,parsed⟩ := listed more request counted stands whole
    exact iff_of_true ⟨_,parsed⟩ trivial
  · obtain ⟨path,shown,counted,stands,whole⟩ := formed
    obtain ⟨members,length,parsed⟩ := listed more request counted stands whole
    rw [parsed] at done
    cases done
    refine ⟨?_,whole.symm,by simp⟩
    rw [shown,List.map_cons,List.map_nil,length]

def strings (count : Place) (within : count.Within encodingSz) (narrow : count.size ≤ 2) :
    Tail encodingSz := ⟨_,_,_,strings_correct within narrow⟩

/-- An event that is sent: the flag of the code is taken off for the function, not for the name. -/
def parseSentEvent (encodingSz : Nat) (reader : Reader) (big_request : Bool) (data : List UInt8)
    (_ : Nat) : Checked Suffix := do
  let evt_code ← byteAt (data.drop (start big_request + encodingSz)) 0
  let event ← reader.parseEvent coreEvents (data.drop (start big_request + encodingSz)) 32
  match Dispatch.eventNames[evt_code.toNat]? with
  | none => .error (.undefined "protocol::events::names[ evt_code ]")
  | some name => return ⟨[[("event",name) :: event.text ++ event.lists.flatten.flatten]],[],event.bytes_parsed⟩

theorem sentEvent_correct : Correct encodingSz (parseSentEvent encodingSz)
    (fun _ big_request message counts => counts = [1] ∧
      message.length = start big_request + encodingSz + 32)
    fun reader big_request message =>
      (message.getD (start big_request + encodingSz) 0).toNat < Dispatch.eventNames.length ∧
        EventAccepted reader.littleEndian (message.drop (start big_request + encodingSz)) := by
  have behind {big_request : Bool} {message : List UInt8} (more : List UInt8)
      (whole : message.length = start big_request + encodingSz + 32) :
      (message ++ more).drop (start big_request + encodingSz) =
          message.drop (start big_request + encodingSz) ++ more ∧
        (message.drop (start big_request + encodingSz)).length = 32 ∧
          byteAt (message.drop (start big_request + encodingSz) ++ more) 0 =
            .ok (message.getD (start big_request + encodingSz) 0) := by
    have length : (message.drop (start big_request + encodingSz)).length = 32 := by
      rw [List.length_drop]
      omega
    refine ⟨List.drop_append_of_le_length (by omega),length,?_⟩
    rw [byteAt_inside (by omega),List.getD_eq_getElem?_getD,List.getElem?_drop,Nat.add_zero,
      ← List.getD_eq_getElem?_getD]
  refine ⟨fun {reader big_request message counts} more request formed => ?_,
    fun {reader big_request message counts suffix} more request formed done => ?_⟩
  · obtain ⟨data,length,code⟩ := behind more formed.2
    have parsed := @parseEvent_iff reader (message.drop (start big_request + encodingSz)) more length
    rw [← parsed,parseSentEvent,data,code,ok_bind]
    constructor
    · rintro ⟨suffix,done⟩
      obtain ⟨event,found,done⟩ := bind_success done
      refine ⟨?_,event,found⟩
      apply Classical.byContradiction
      intro beyond
      rw [List.getElem?_eq_none (by omega)] at done
      cases done
    · rintro ⟨named,event,found⟩
      rw [found,ok_bind,List.getElem?_eq_getElem named]
      exact ⟨_,rfl⟩
  · obtain ⟨data,length,code⟩ := behind more formed.2
    rw [parseSentEvent,data,code,ok_bind] at done
    obtain ⟨event,found,done⟩ := bind_success done
    have size := parseEvent_size found
    cases named : Dispatch.eventNames[(message.getD (start big_request + encodingSz) 0).toNat]? with
    | none =>
      rw [named] at done
      cases done
    | some name =>
      rw [named] at done
      cases done
      refine ⟨formed.1.symm,?_,by simp⟩
      rw [size,formed.2]

def sentEvent : Tail encodingSz := ⟨_,_,_,sentEvent_correct⟩

end tails

/-- Items of which the parse function wants five bytes. -/
structure Elements {σ ι : Type} (parseListMember : ListMember σ) (encode : ι → List UInt8)
    (good : ι → Prop) : Prop where
  long : ∀ item,3 ≤ (encode item).length
  done : ∀ item more sz,good item → 5 ≤ (encode item ++ more).length → (encode item).length ≤ sz →
    sz < 2^64 → ∃ shown,parseListMember (encode item ++ more) sz = .ok (shown,(encode item).length)
  stuck : ∀ item more sz member,¬good item → parseListMember (encode item ++ more) sz ≠ .ok member

section elements

variable {σ ι : Type} {parseListMember : ListMember σ} {encode : ι → List UInt8} {good : ι → Prop}
  {sz : Nat}

theorem encoding_long (long : ∀ item,3 ≤ (encode item).length) (items : List ι) :
    items.length ≤ (encoding encode items).length := by
  induction items with
  | nil => exact Nat.zero_le _
  | cons item items ih =>
    have first := long item
    rw [encoding_cons,List.length_append,List.length_cons]
    omega

/-- The loop from an item on, when every item has its five bytes. -/
theorem parseLISTof_elements (elements : Elements parseListMember encode good) (front more : List UInt8)
    (items : List ι) {outputs : ParsingOutputs σ} {fuel : Nat}
    (read : outputs.bytes_parsed = front.length)
    (total : sz = padded (front ++ encoding encode items).length) (small : sz < 2^32)
    (inside : sz ≤ (front ++ (encoding encode items ++ more)).length)
    (room : ∀ span ∈ spans front.length (items.map encode),span.1 + 5 ≤ sz) (fueled : items.length < fuel) :
    ((∃ result,parseLISTof parseListMember (front ++ (encoding encode items ++ more)) sz fuel outputs =
        some (.ok result)) ↔ ∀ item ∈ items,good item) ∧
      ∀ result,parseLISTof parseListMember (front ++ (encoding encode items ++ more)) sz fuel outputs =
        some (.ok result) → result.members.length = outputs.members.length + items.length ∧
          result.bytes_parsed = (front ++ encoding encode items).length := by
  obtain ⟨fuel,rfl⟩ : ∃ less,fuel = less + 1 := ⟨fuel - 1,by omega⟩
  induction items generalizing front outputs fuel with
  | nil =>
    have whole : front ++ encoding encode [] = front := by simp [encoding]
    rw [whole] at total
    have full : ¬Alignment.pad outputs.bytes_parsed < sz := by
      have pads : front.length ≤ padded front.length := by
        unfold padded
        omega
      rw [read,pad_padded (by omega),total]
      exact Nat.lt_irrefl _
    rw [parseLISTof,if_neg full]
    refine ⟨iff_of_true ⟨outputs,rfl⟩ (by simp),fun result same => ?_⟩
    cases same
    exact ⟨rfl,by rw [whole,read]⟩
  | cons item items ih =>
    obtain ⟨fuel,rfl⟩ : ∃ less,fuel = less + 1 := ⟨fuel - 1,by rw [List.length_cons] at fueled; omega⟩
    rw [List.length_cons] at fueled
    rw [List.map_cons,spans,List.forall_mem_cons] at room
    obtain ⟨here,room⟩ := room
    have split : front ++ (encoding encode (item :: items) ++ more) =
        (front ++ encode item) ++ (encoding encode items ++ more) := by simp [encoding_cons]
    have whole : front ++ encoding encode (item :: items) =
        (front ++ encode item) ++ encoding encode items := by simp [encoding_cons]
    have pads : (front ++ encoding encode (item :: items)).length ≤ sz := by
      rw [total]
      unfold padded
      omega
    have lengths : (front ++ encoding encode (item :: items)).length =
        front.length + (encode item).length + (encoding encode items).length := by
      rw [whole]
      simp only [List.length_append]
    have next : Alignment.pad outputs.bytes_parsed < sz := by
      rw [read,pad_padded (by omega)]
      unfold padded
      omega
    have data : (front ++ (encoding encode (item :: items) ++ more)).drop outputs.bytes_parsed =
        encode item ++ (encoding encode items ++ more) := by
      rw [read,split,List.append_assoc,List.drop_left]
    have left : sub64 sz outputs.bytes_parsed = sz - front.length := by
      rw [read,sub64_small (by omega) (by omega)]
    have five : 5 ≤ (encode item ++ (encoding encode items ++ more)).length := by
      rw [split,List.append_assoc,List.length_append] at inside
      omega
    rw [parseLISTof,if_pos next,data,left,List.forall_mem_cons]
    by_cases fine : good item
    · obtain ⟨shown,parsed⟩ := elements.done item (encoding encode items ++ more) (sz - front.length)
        fine five (by omega) (by omega)
      rw [parsed]
      dsimp only
      have added : (outputs.add (shown,(encode item).length)).bytes_parsed =
          (front ++ encode item).length := by
        simp only [ParsingOutputs.add,read,List.length_append]
        omega
      have start : front.length + (encode item).length = (front ++ encode item).length := by
        rw [List.length_append]
      rw [start] at room
      rw [whole] at total
      rw [split] at inside ⊢
      have rest := @ih (front ++ encode item) (outputs.add (shown,(encode item).length)) added total
        inside room fuel (by omega)
      refine ⟨rest.1.trans ⟨fun all => ⟨fine,all⟩,fun all => all.2⟩,fun result done => ?_⟩
      obtain ⟨members,size⟩ := rest.2 result done
      rw [whole,List.length_cons]
      refine ⟨?_,size⟩
      rw [members,ParsingOutputs.add,List.length_append,List.length_singleton]
      omega
    · cases parsed : parseListMember (encode item ++ (encoding encode items ++ more))
          (sz - front.length) with
      | ok member => exact absurd parsed (elements.stuck item _ _ member fine)
      | error fault =>
        dsimp only
        refine ⟨iff_of_false ?_ fun all => fine all.1,?_⟩
        · intro done
          obtain ⟨result,same⟩ := done
          cases same
        · intro result same
          cases same

end elements

/-- The zero bits of a font, whichever byte order it is then printed in. -/
def TextItemLegal {χ : Type} : PolyText.TextItem χ → Prop
  | .font id => id.toNat &&& ZERO_BITS = 0
  | .text _ _ _ => True

section items

variable {χ ω : Type} {littleEndian byteswap : Bool}

theorem formatResourceId_legal {byteswap : Bool} {data : Nat} (legal : data &&& ZERO_BITS = 0) :
    ∃ font,formatResourceId byteswap data = .ok font := by
  rw [ListParsing.formatResourceId,assert,demand_true legal]
  exact ⟨_,rfl⟩

theorem parseTEXTITEM_elements {expression : String} {parseString : Nat → ListMember (List ω)}
    {bytes : χ → List UInt8} (width : ∀ char,1 ≤ (bytes char).length ∧ (bytes char).length ≤ 2)
    (parsed : ∀ (string : List χ) (more : List UInt8) (sz : Nat),
      (string.flatMap bytes).length ≤ sz → sz < 2^64 → string.length ≤ 254 →
        ∃ shown,parseString string.length (string.flatMap bytes ++ more) sz =
          .ok (shown,(string.flatMap bytes).length)) :
    Elements (PolyText.parseTEXTITEM expression parseString littleEndian byteswap)
      (PolyText.TextItem.encode bytes) TextItemLegal := by
  refine ⟨PolyText.encode_long _ fun char => (width char).1,?_,?_⟩
  · intro item more sz legal five room bound
    have three := PolyText.encode_long bytes (fun char => (width char).1) item
    cases item with
    | font id =>
      obtain ⟨font,formatted⟩ := @formatResourceId_legal byteswap _ legal
      refine ⟨.font font,?_⟩
      rw [PolyText.TextItem.encode,PolyText.parse_font id more (by omega),
        ntohl_mostFirst littleEndian id.toNat_lt,formatted]
      rfl
    | text delta string length =>
      have narrow := PolyText.flatMap_length_le (fun char => (width char).2) string
      rw [PolyText.TextItem.encode,List.cons_append,List.cons_append] at five ⊢
      rw [PolyText.TextItem.encode] at room three
      simp only [List.length_cons] at five room three
      have rest : sub64 sz 2 = sz - 2 := sub64_small (by omega) (by omega)
      obtain ⟨shown,found⟩ := parsed string more (sz - 2) (by omega) (by omega) length.2
      refine ⟨.text delta shown,?_⟩
      rw [PolyText.parse_text delta length (by omega) (by omega),rest,found]
      have size : (2 + (string.flatMap bytes).length) % 2^32 = (string.flatMap bytes).length + 2 := by
        omega
      rw [Except.map,size]
      rfl
  · intro item more sz member wrong done
    cases item with
    | font id =>
      have two := (demand_bind_success done).1
      rw [PolyText.TextItem.encode,PolyText.parse_font id more two,
        ntohl_mostFirst littleEndian id.toNat_lt] at done
      cases formatted : ListParsing.formatResourceId byteswap id.toNat with
      | error fault => simp [formatted,Except.map] at done
      | ok font => exact wrong (demand_bind_success formatted).1
    | text delta string length => exact wrong trivial

theorem parseTEXTITEM8_elements : Elements (PolyText.parseTEXTITEM8 littleEndian byteswap)
    (PolyText.TextItem.encode fun char => [char]) TextItemLegal := by
  refine parseTEXTITEM_elements (by simp) ?_
  intro string more sz _ _ _
  have characters : string.flatMap (fun char => [char]) = string := by simp
  rw [characters,PolyText.parseSTRING8,readBytes_front]
  exact ⟨_,rfl⟩

theorem parseTEXTITEM16_elements : Elements (PolyText.parseTEXTITEM16 littleEndian byteswap)
    (PolyText.TextItem.encode PolyText.CHAR2B.bytes) TextItemLegal := by
  refine parseTEXTITEM_elements (by simp [PolyText.CHAR2B.bytes]) ?_
  intro string more sz room bound length
  have whole : encoding PolyText.CHAR2B.bytes string = string.flatMap PolyText.CHAR2B.bytes := rfl
  have narrow : (string.flatMap PolyText.CHAR2B.bytes).length ≤ 2 * string.length :=
    PolyText.flatMap_length_le (by simp [PolyText.CHAR2B.bytes]) string
  have parsed := parseLISTofCounted_done (PolyText.parseCHAR2B_parses littleEndian) [] more string
    (fun _ _ => trivial) (rfl : (⟨[],0⟩ : ParsingOutputs Nat).bytes_parsed = 0)
    (by rwa [whole,List.nil_append] : _ ≤ sz) bound (by rw [whole,List.nil_append]; omega)
  rw [whole,List.nil_append,List.nil_append] at parsed
  rw [PolyText.parseSTRING16,parsed]
  exact ⟨_,rfl⟩

end items

/-- The text of an item; `string` prints its characters. -/
def itemText {ω : Type} (reader : Reader) (string_len : String) (string : List ω → CountedLists.Text) :
    PolyText.Shown ω → CountedLists.Text
  | .font font => hiddenText reader "font-shift" (numberText reader .CARD8 255) ++
      [("font",numberText reader .CARD32 (Formatting.ordered 4 font reader.byteswap))]
  | .text delta characters => hiddenText reader string_len (numberText reader .CARD8 characters.length) ++
      ("delta",numberText reader .INT8 delta.toUInt8.toNat) :: string characters

def itemText8 (reader : Reader) : PolyText.Shown UInt8 → CountedLists.Text :=
  itemText reader "(string len)" fun string =>
    [("string",reader.context.quoted (characters string))]

def itemText16 (reader : Reader) : PolyText.Shown Nat → CountedLists.Text :=
  itemText reader "(string length (CHAR2B))" fun string =>
    string.map fun char => ("string",hexString 2 char)

section tails

variable {encodingSz : Nat} {χ ω : Type}

/-- The items are as many as the loop finds. -/
def parseTextItems (parseListMember : Reader → ListMember (PolyText.Shown ω))
    (text : Reader → PolyText.Shown ω → CountedLists.Text) (encodingSz : Nat) (reader : Reader) (big_request : Bool)
    (data : List UInt8) (_ : Nat) : Checked Suffix := do
  let items_sz ← inferredSize (start big_request + encodingSz) reader big_request data
  match parseLISTof (parseListMember reader) (data.drop (start big_request + encodingSz)) items_sz
      (data.length + 1) ⟨[],0⟩ with
  | none => .error (.undefined "_parseLISTof does not return")
  | some items => do
    let items ← items
    return ⟨[items.members.map (text reader)],[],Alignment.pad items.bytes_parsed⟩

/-- The items are what follows the encoding, and the last has five bytes up to the end. -/
structure ItemsStand (bytes : χ → List UInt8) (message : List UInt8) (front : Nat)
    (items : List (PolyText.TextItem χ)) : Prop where
  stands : encoding (PolyText.TextItem.encode bytes) items <+: message.drop front
  whole : message.length = front + padded (encoding (PolyText.TextItem.encode bytes) items).length
  room : ∀ last ∈ items.getLast?,front + (encoding (PolyText.TextItem.encode bytes) items).length + 5 ≤
    message.length + (last.encode bytes).length

theorem textItems_correct {parseListMember : Reader → ListMember (PolyText.Shown ω)}
    {text : Reader → PolyText.Shown ω → CountedLists.Text} {bytes : χ → List UInt8}
    (elements : ∀ reader,Elements (parseListMember reader) (PolyText.TextItem.encode bytes) TextItemLegal) :
    Correct encodingSz (parseTextItems parseListMember text encodingSz)
      (fun _ big_request message counts => ∃ items,counts = [items.length] ∧
        ItemsStand bytes message (start big_request + encodingSz) items)
      fun _ big_request message => ∀ items,ItemsStand bytes message (start big_request + encodingSz) items →
        ∀ item ∈ items,TextItemLegal item := by
  have listed {reader : Reader} {big_request : Bool} {message : List UInt8}
      {items : List (PolyText.TextItem χ)} (more : List UInt8)
      (request : Request reader message encodingSz big_request)
      (stand : ItemsStand bytes message (start big_request + encodingSz) items) :
      ((∃ suffix,parseTextItems parseListMember text encodingSz reader big_request (message ++ more)
          message.length = .ok suffix) ↔ ∀ item ∈ items,TextItemLegal item) ∧
        ∀ suffix,parseTextItems parseListMember text encodingSz reader big_request (message ++ more)
          message.length = .ok suffix → suffix.lists.map List.length = [items.length] ∧
            start big_request + encodingSz + suffix.size = message.length ∧ suffix.views = [] := by
    have small := request.small
    have long := request.long
    have whole := stand.whole
    obtain ⟨rest,split⟩ := stand.stands
    have data : (message ++ more).drop (start big_request + encodingSz) =
        [] ++ (encoding (PolyText.TextItem.encode bytes) items ++ (rest ++ more)) := by
      rw [List.drop_append_of_le_length long,← split,List.nil_append,List.append_assoc]
    have behind := @behind_length message more (start big_request + encodingSz) long
    rw [data] at behind
    have room : ∀ span ∈ spans 0 (items.map (PolyText.TextItem.encode bytes)),
        span.1 + 5 ≤ message.length - (start big_request + encodingSz) := by
      refine (PolyText.room_last 0 (elements reader).long items ?_).mpr fun last final => ?_
      · unfold padded at whole
        omega
      · have enough := stand.room last final
        omega
    have fueled : items.length < (message ++ more).length + 1 := by
      have fewer := encoding_long (elements reader).long items
      rw [List.length_append]
      unfold padded at whole
      omega
    have parsed := @parseLISTof_elements _ _ (parseListMember reader) _ _
      (message.length - (start big_request + encodingSz)) (elements reader) [] (rest ++ more) items ⟨[],0⟩
      ((message ++ more).length + 1) rfl (by rw [List.nil_append]; omega) (by omega) behind room fueled
    rw [← data] at parsed
    rw [parseTextItems,inferredSize_framed request more long,ok_bind]
    refine ⟨Iff.trans ?_ parsed.1,fun suffix done => ?_⟩
    · constructor
      · rintro ⟨suffix,done⟩
        split at done
        · cases done
        · rename_i outcome found
          obtain ⟨result,rfl,_⟩ := bind_success done
          exact ⟨result,found⟩
      · rintro ⟨result,found⟩
        rw [found]
        exact ⟨_,rfl⟩
    · split at done
      · cases done
      · rename_i outcome found
        obtain ⟨result,rfl,done⟩ := bind_success done
        obtain ⟨members,size⟩ := parsed.2 result found
        cases done
        simp only [List.length_nil,Nat.zero_add,List.nil_append] at members size
        refine ⟨?_,?_,rfl⟩
        · rw [List.map_cons,List.map_nil,List.length_map,members]
        · rw [size,pad_padded (by unfold padded at whole; omega),whole]
  refine ⟨fun {reader big_request message counts} more request formed => ?_,
    fun {reader big_request message counts suffix} more request formed done => ?_⟩
  · obtain ⟨items,_,stand⟩ := formed
    refine ⟨fun parsed others stands => (listed more request stands).1.mp parsed,fun legal => ?_⟩
    exact (listed more request stand).1.mpr (legal items stand)
  · obtain ⟨items,shown,stand⟩ := formed
    obtain ⟨lengths,whole,none⟩ := (listed more request stand).2 suffix done
    exact ⟨lengths.trans shown.symm,whole,by simp [none]⟩

def textItems8 : Tail encodingSz :=
  ⟨_,_,_,@textItems_correct encodingSz _ _
    (fun reader => PolyText.parseTEXTITEM8 reader.littleEndian reader.byteswap) itemText8 _
    fun _ => parseTEXTITEM8_elements⟩

def textItems16 : Tail encodingSz :=
  ⟨_,_,_,@textItems_correct encodingSz _ _
    (fun reader => PolyText.parseTEXTITEM16 reader.littleEndian reader.byteswap) itemText16 _
    fun _ => parseTEXTITEM16_elements⟩

end tails

end Encodings
end Xtracepp
