import Xtracepp.Formatting

/-! Requests and replies that end in a list whose length stands in their fixed part: the
count passes from `size_t` or `uint32_t` to the `uint16_t` that bounds the loop.
-/
namespace Xtracepp
open Library.Outcome Library.Framing

namespace CountedLists
open Formatting ListParsing

/-- What the parse functions know beside the message; `bigRequests` is
`conn->extensionEnabled( protocol::extensions::big_requests::name )`. -/
structure Reader where
  littleEndian : Bool
  byteswap : Bool
  bigRequests : Bool
  context : Context

/-- A member of an encoding, and how it is formatted. -/
structure Field where
  name : String
  offset : Nat
  scalar : Scalar
  range : EnumNameRange

def Field.after (start : Nat) (field : Field) : Field := { field with offset := start + field.offset }

/-- `protocol::atoms::predefined::STRING` -/
def STRING : Nat := 31

abbrev Text := List (String × String)

namespace Reader

variable (reader : Reader)

/-- `_ordered` of a member of an encoding. -/
def ordered (data : List UInt8) (offset size : Nat) : Checked Nat := do
  return Xtracepp.ordered reader.littleEndian reader.byteswap (← readBytes data offset size)

def formatField (data : List UInt8) (field : Field) : Checked (String × String) := do
  let encoded ← readBytes data field.offset field.scalar.size
  let text ← formatVariable reader.context field.scalar (loaded reader.littleEndian encoded)
    reader.byteswap field.range false
  return (field.name,text)

def formatFields (data : List UInt8) (fields : List Field) : Checked Text :=
  fields.mapM (reader.formatField data)

/-- The `_parseListMember` of integers and of structs without suffixes. -/
def parseListMember (expression : String) (size : Nat) (fields : List Field) : ListMember Text :=
  fun data sz => do
    assert expression (size ≤ sz)
    let memb ← readBytes data 0 size
    return (← reader.formatFields memb fields,size)

end Reader

/-! Field lists of the members. -/

def POINT.fields : List Field :=
  [⟨"x",0,.integer .INT16,.none⟩,⟨"y",2,.integer .INT16,.none⟩]

def FONTPROP.fields : List Field :=
  [⟨"name",0,.ATOM,.none⟩,⟨"value",4,.integer .CARD32,.none⟩]

def CHARINFO.fields : List Field :=
  [⟨"left-side-bearing",0,.integer .INT16,.none⟩,⟨"right-side-bearing",2,.integer .INT16,.none⟩,
    ⟨"character-width",4,.integer .INT16,.none⟩,⟨"ascent",6,.integer .INT16,.none⟩,
    ⟨"descent",8,.integer .INT16,.none⟩,⟨"attributes",10,.integer .CARD16,.none⟩]

namespace Reader

variable (reader : Reader)

def parseBYTE : ListMember Text :=
  reader.parseListMember "sz >= sizeof( ProtocolT )" 1 [⟨"",0,.integer .CARD8,.none⟩]

def parsePOINT : ListMember Text :=
  reader.parseListMember "sz >= sizeof( ProtocolStructT )" 4 POINT.fields

def parseFONTPROP : ListMember Text :=
  reader.parseListMember "sz >= sizeof( ProtocolStructT )" 8 FONTPROP.fields

def parseCHARINFO : ListMember Text :=
  reader.parseListMember "sz >= sizeof( ProtocolStructT )" 12 CHARINFO.fields

end Reader

/-- `_parseLISTof` as it is called: `memb_ct` is a `uint16_t`. -/
def parseLISTofUint16 (parseListMember : ListMember Text) (data : List UInt8) (sz memb_ct : Nat) :
    Checked (ParsingOutputs Text) :=
  parseLISTofCounted parseListMember data sz (memb_ct % 2^16) ⟨[],0⟩

/-- `_ParsingOutputs` of a request or a reply, with what it was made of. -/
structure Outputs where
  lists : List (List Text)
  text : Text
  bytes_parsed : Nat
  deriving DecidableEq, Repr

/-- `_RequestFixedEncoding`. -/
structure FixedEncoding where
  big_request : Bool
  bytes_parsed : Nat
  deriving DecidableEq, Repr

namespace Reader

variable (reader : Reader)

def fixedEncoding (encodingSz : Nat) (data : List UInt8) (sz : Nat) : Checked FixedEncoding := do
  assert "sz >= RequestT::BASE_ENCODING_SZ" (4 + encodingSz ≤ sz)
  let extended_length_flag ← reader.ordered data 2 2
  if extended_length_flag = 0 then do
    assert "conn->extensionEnabled( protocol::extensions::big_requests::name )"
      (reader.bigRequests = true)
    return ⟨true,8 + encodingSz⟩
  else return ⟨false,4 + encodingSz⟩

/-- The length fields and what goes before them, printed only if verbose. -/
def headerFields (big_request : Bool) : List Field :=
  if reader.context.verbose then
    ⟨"opcode",0,.integer .CARD8,.none⟩ ::
      if big_request then [⟨"(extended length flag)",2,.integer .CARD16,.none⟩,
        ⟨"(total aligned units)",4,.integer .CARD32,.none⟩]
      else [⟨"(total aligned units)",2,.integer .CARD16,.none⟩]
  else []

def replyFields : List Field :=
  if reader.context.verbose then [⟨"reply",0,.integer .CARD8,.none⟩,
    ⟨"(sequence number)",2,.integer .CARD16,.none⟩,
    ⟨"(extra aligned units)",4,.integer .CARD32,.none⟩]
  else []

/-- Fields that are printed only if verbose. -/
def verboseFields (fields : List Field) : List Field :=
  if reader.context.verbose then fields else []

/-- `fe.big_length->tl_aligned_units` or `fe.length->tl_aligned_units`. -/
def tl_aligned_units (data : List UInt8) (big_request : Bool) : Checked Nat :=
  if big_request then reader.ordered data 4 4 else reader.ordered data 2 2

/-- A list of bytes, or a text if the type of the property is STRING. -/
def parseData (type : Nat) (data : List UInt8) (sz data_len : Nat) :
    Checked (List (List Text) × Nat) :=
  if type = STRING then do
    let _ ← readBytes data 0 data_len
    return ([],data_len)
  else do
    let data_ ← parseLISTofUint16 reader.parseBYTE data sz data_len
    return ([data_.members],data_.bytes_parsed)

/-- `ChangeProperty::mode_names` -/
def modeNames : EnumNameRange := .all "Replace" ["Prepend","Append"]

def changePropertyFields (big_request : Bool) (start : Nat) : List Field :=
  reader.headerFields big_request ++ [⟨"mode",1,.integer .CARD8,modeNames⟩,
    ⟨"window",start,.ResourceId,.none⟩,⟨"property",start + 4,.ATOM,.none⟩,
    ⟨"type",start + 8,.ATOM,.none⟩,⟨"format",start + 12,.integer .CARD8,.none⟩] ++
      reader.verboseFields [⟨"(data length (format units))",start + 16,.integer .CARD32,.none⟩]

/-- `_parseRequest< ChangeProperty >`. -/
def parseChangeProperty (data : List UInt8) (sz : Nat) : Checked Outputs := do
  assert "sz >= ChangeProperty::BASE_ENCODING_SZ" (24 ≤ sz)
  let fe ← reader.fixedEncoding 20 data sz
  let opcode ← reader.ordered data 0 1
  assert "_ordered( fe.prefix->opcode, byteswap ) == CHANGEPROPERTY" (opcode = 18)
  let start := fe.bytes_parsed - 20
  let format ← reader.ordered data (start + 12) 1
  assert "format <= 32 && format % 8 == 0" (format ≤ 32 ∧ format % 8 = 0)
  let units ← reader.ordered data (start + 16) 4
  let data_len := units * (format / 8) % 2^32
  let type ← reader.ordered data (start + 8) 4
  let data_ ← reader.parseData type (data.drop fe.bytes_parsed) data_len data_len
  let bytes_parsed := (fe.bytes_parsed + Alignment.pad data_.2) % 2^32
  let tl_aligned_units ← reader.tl_aligned_units data fe.big_request
  -- the comparison belongs to the second branch of the conditional expression alone
  assert "fe.big_request ? tl_aligned_units : tl_aligned_units == units( bytes_parsed )"
    (if fe.big_request then tl_aligned_units ≠ 0 else tl_aligned_units = Alignment.units bytes_parsed)
  let text ← reader.formatFields data (reader.changePropertyFields fe.big_request start)
  return ⟨data_.1,text,bytes_parsed⟩

/-- `protocol::enum_names::poly_coordinate_mode` -/
def coordinateModeNames : EnumNameRange := .all "Origin" ["Previous"]

def polyPointFields (big_request : Bool) (start : Nat) : List Field :=
  reader.headerFields big_request ++ [⟨"coordinate-mode",1,.integer .CARD8,coordinateModeNames⟩,
    ⟨"drawable",start,.DRAWABLE,.none⟩,⟨"gc",start + 4,.ResourceId,.none⟩]

/-- `_parseRequest< PolyPointRequest >`. -/
def parsePolyPoint (data : List UInt8) (sz : Nat) : Checked Outputs := do
  assert "sz >= PolyPointRequest::BASE_ENCODING_SZ" (12 ≤ sz)
  let fe ← reader.fixedEncoding 8 data sz
  let tl_aligned_units ← reader.tl_aligned_units data fe.big_request
  let points_sz := sub64 (Alignment.size tl_aligned_units) (if fe.big_request then 16 else 12)
  let points ← parseLISTofUint16 reader.parsePOINT (data.drop fe.bytes_parsed) points_sz (points_sz / 4)
  let bytes_parsed := (fe.bytes_parsed + Alignment.pad points.bytes_parsed) % 2^32
  assert "tl_aligned_units == Alignment::units( request.bytes_parsed )"
    (tl_aligned_units = Alignment.units bytes_parsed)
  let text ← reader.formatFields data
    (reader.polyPointFields fe.big_request (fe.bytes_parsed - 8))
  return ⟨[points.members],text,bytes_parsed⟩

/-- What every reply begins with, and how many bytes follow the first 32. -/
def parseReplyHeader (data : List UInt8) (sz : Nat) : Checked Nat := do
  assert "sz >= protocol::requests::Reply::DEFAULT_ENCODING_SZ" (32 ≤ sz)
  let reply ← reader.ordered data 0 1
  assert "_ordered( encoding->header.reply, byteswap ) == Reply::REPLY" (reply = 1)
  reader.ordered data 4 4

/-- The check of the length of a reply. -/
def checkReply (extra_aligned_units bytes_parsed : Nat) : Checked Unit :=
  assert "extra_aligned_units == Alignment::units( bytes_parsed - DEFAULT_ENCODING_SZ )"
    (extra_aligned_units = Alignment.units (sub64 bytes_parsed 32))

def getPropertyFields : List Field :=
  reader.replyFields ++ [⟨"format",1,.integer .CARD8,.none⟩,⟨"type",8,.ATOM,zero_none⟩,
    ⟨"bytes-after",12,.integer .CARD32,.none⟩] ++
      reader.verboseFields [⟨"(value length (format units))",16,.integer .CARD32,.none⟩]

/-- `_parseReply< GetProperty >`. -/
def parseGetProperty (data : List UInt8) (sz : Nat) : Checked Outputs := do
  let extra_aligned_units ← reader.parseReplyHeader data sz
  let format ← reader.ordered data 1 1
  assert "format <= MAX_FORMAT && format % FORMAT_FACTOR == 0" (format ≤ 32 ∧ format % 8 = 0)
  let units ← reader.ordered data 16 4
  let value_sz := units * (format / 8) % 2^32
  let type ← reader.ordered data 8 4
  let value ← reader.parseData type (data.drop 32) (sub64 sz 32) value_sz
  let bytes_parsed := (32 + Alignment.pad value.2) % 2^32
  checkReply extra_aligned_units bytes_parsed
  let text ← reader.formatFields data reader.getPropertyFields
  return ⟨value.1,text,bytes_parsed⟩

def getImageFields : List Field :=
  reader.replyFields ++ [⟨"depth",1,.integer .CARD8,.none⟩,⟨"visual",8,.ResourceId,zero_none⟩]

/-- `_parseReply< GetImage >`. -/
def parseGetImage (data : List UInt8) (sz : Nat) : Checked Outputs := do
  let extra_aligned_units ← reader.parseReplyHeader data sz
  let data_ ← parseLISTofUint16 reader.parseBYTE (data.drop 32) (sub64 sz 32)
    (Alignment.size extra_aligned_units)
  let bytes_parsed := (32 + Alignment.pad data_.bytes_parsed) % 2^32
  checkReply extra_aligned_units bytes_parsed
  let text ← reader.formatFields data reader.getImageFields
  return ⟨[data_.members],text,bytes_parsed⟩

/-- `protocol::enum_names::draw_direction` -/
def drawDirectionNames : EnumNameRange := .all "LeftToRight" ["RightToLeft"]

def queryFontFields : List Field :=
  reader.replyFields ++ CHARINFO.fields.map (Field.after 8) ++ CHARINFO.fields.map (Field.after 24) ++
    [⟨"min-char-or-byte2",40,.integer .CARD16,.none⟩,⟨"max-char-or-byte2",42,.integer .CARD16,.none⟩,
      ⟨"default-char",44,.integer .CARD16,.none⟩,
      ⟨"draw-direction",48,.integer .CARD8,drawDirectionNames⟩,
      ⟨"min-byte1",49,.integer .CARD8,.none⟩,⟨"max-byte1",50,.integer .CARD8,.none⟩,
      ⟨"all-chars-exist",51,.BOOL,.none⟩,⟨"font-ascent",52,.integer .INT16,.none⟩,
      ⟨"font-descent",54,.integer .INT16,.none⟩] ++
    reader.verboseFields [⟨"(FONTPROPs in properties)",46,.integer .CARD16,.none⟩,
      ⟨"(CHARINFOs in char-infos)",56,.integer .CARD32,.none⟩]

/-- `_parseReply< QueryFont >`. -/
def parseQueryFont (data : List UInt8) (sz : Nat) : Checked Outputs := do
  let extra_aligned_units ← reader.parseReplyHeader data sz
  let properties_ct ← reader.ordered data 46 2
  let properties ← parseLISTofUint16 reader.parseFONTPROP (data.drop 60) (sub64 sz 60) properties_ct
  let bytes_parsed := (60 + properties.bytes_parsed) % 2^32
  let char_infos_ct ← reader.ordered data 56 4
  let char_infos ← parseLISTofUint16 reader.parseCHARINFO (data.drop bytes_parsed)
    (sub64 sz bytes_parsed) char_infos_ct
  let bytes_parsed := (bytes_parsed + char_infos.bytes_parsed) % 2^32
  checkReply extra_aligned_units bytes_parsed
  let text ← reader.formatFields data reader.queryFontFields
  return ⟨[properties.members,char_infos.members],text,bytes_parsed⟩

end Reader

section fields

variable {reader : Reader} {message more : List UInt8} {field : Field} {fields : List Field}

/-- The bits that an overload of `_formatVariable` asserts to be clear. -/
def Field.zeroBits (field : Field) : Nat :=
  match field.scalar with
  | .ResourceId | .DRAWABLE | .ATOM => 0xE0000000
  | _ => 0

/-- The kinds of fields that these encodings have. -/
def Field.Usual (field : Field) : Prop :=
  match field.scalar with
  | .integer _ | .BOOL | .ResourceId | .DRAWABLE => True
  | .ATOM => field.range.empty = true ∨ field.range.names = zero_none.names
  | _ => False

/-- Whether the host sees the zero bits of a resource ID or an atom clear. -/
def Clear (littleEndian : Bool) (message : List UInt8) (offset : Nat) : Prop :=
  loaded littleEndian (slice message offset 4) &&& 0xE0000000 = 0

def Field.identifier (field : Field) : Bool :=
  match field.scalar with
  | .ResourceId | .DRAWABLE | .ATOM => true
  | _ => false

def identifiers (fields : List Field) : List Nat := (fields.filter Field.identifier).map Field.offset

def Reader.value (reader : Reader) (message : List UInt8) (offset size : Nat) : Nat :=
  Xtracepp.ordered reader.littleEndian reader.byteswap (slice message offset size)

theorem ordered_inside {offset size : Nat} (inside : offset + size ≤ message.length) :
    reader.ordered (message ++ more) offset size = .ok (reader.value message offset size) := by
  rw [Reader.ordered,readBytes_inside inside,ok_bind]
  rfl

theorem formatZeroBits_iff {context : Context} {expression : String} {data : Nat} {byteswap : Bool}
    {range : EnumNameRange} :
    (∃ text, formatZeroBits context expression .CARD32 0xE0000000 data byteswap range false = .ok text) ↔
      data &&& 0xE0000000 = 0 := by
  constructor
  · rintro ⟨text,formatted⟩
    exact (demand_bind_success formatted).1
  · intro clear
    rw [formatZeroBits,assert,demand_true clear]
    exact ⟨_,rfl⟩

theorem formatVariable_iff {context : Context} {data : Nat} {byteswap : Bool} (usual : field.Usual) :
    (∃ text, formatVariable context field.scalar data byteswap field.range false = .ok text) ↔
      data &&& field.zeroBits = 0 := by
  obtain ⟨name,offset,scalar,range⟩ := field
  cases scalar with
  | integer type => exact iff_of_true ⟨_,rfl⟩ (Nat.and_zero _)
  | BOOL => exact iff_of_true ⟨_,rfl⟩ (Nat.and_zero _)
  | ResourceId => exact formatZeroBits_iff
  | DRAWABLE => exact formatZeroBits_iff
  | ATOM =>
    constructor
    · rintro ⟨text,formatted⟩
      exact (demand_bind_success formatted).1
    · intro clear
      have clear : data &&& 0xE0000000 = 0 := clear
      have named : range.empty = true ∨ range.names = zero_none.names ∨
          range.names = GetProperty.type_names.names := by
        rcases usual with empty | named
        · exact .inl empty
        · exact .inr (.inl named)
      rw [formatVariable,formatATOM,assert,demand_true clear,ok_bind,assert,demand_true named,ok_bind]
      split <;> exact ⟨_,rfl⟩
  | _ => exact absurd usual not_false

theorem formatField_iff (usual : field.Usual)
    (inside : field.offset + field.scalar.size ≤ message.length) :
    (∃ text, reader.formatField (message ++ more) field = .ok text) ↔
      (field.identifier = true → Clear reader.littleEndian message field.offset) := by
  have cleared := @formatVariable_iff field reader.context
    (loaded reader.littleEndian (slice message field.offset field.scalar.size)) reader.byteswap usual
  rw [Reader.formatField,readBytes_inside inside,ok_bind]
  have meaning : loaded reader.littleEndian (slice message field.offset field.scalar.size) &&&
      field.zeroBits = 0 ↔ (field.identifier = true → Clear reader.littleEndian message field.offset) := by
    obtain ⟨name,offset,scalar,range⟩ := field
    cases scalar <;> simp [Field.zeroBits,Field.identifier,Clear,Scalar.size]
  rw [← meaning,← cleared]
  constructor
  · rintro ⟨text,done⟩
    obtain ⟨inner,formatted,_⟩ := bind_success done
    exact ⟨inner,formatted⟩
  · rintro ⟨inner,formatted⟩
    rw [formatted]
    exact ⟨_,rfl⟩

theorem formatFields_iff
    (usual : ∀ field ∈ fields,field.Usual ∧ field.offset + field.scalar.size ≤ message.length) :
    (∃ text, reader.formatFields (message ++ more) fields = .ok text) ↔
      ∀ offset ∈ identifiers fields,Clear reader.littleEndian message offset := by
  induction fields with
  | nil => exact iff_of_true ⟨_,rfl⟩ (by simp [identifiers])
  | cons field fields ih =>
    have first := @formatField_iff reader message more field (usual field (by simp)).1
      (usual field (by simp)).2
    have rest := ih fun other member => usual other (by simp [member])
    have split : (∀ offset ∈ identifiers (field :: fields),Clear reader.littleEndian message offset) ↔
        (field.identifier = true → Clear reader.littleEndian message field.offset) ∧
          ∀ offset ∈ identifiers fields,Clear reader.littleEndian message offset := by
      cases marked : field.identifier <;> simp [identifiers,marked]
    rw [split,← first,← rest,Reader.formatFields,List.mapM_cons]
    constructor
    · rintro ⟨text,done⟩
      obtain ⟨head,shown,done⟩ := bind_success done
      obtain ⟨tail,others,_⟩ := bind_success done
      exact ⟨⟨head,shown⟩,tail,others⟩
    · rintro ⟨⟨head,shown⟩,tail,others⟩
      have others : fields.mapM (reader.formatField (message ++ more)) = .ok tail := others
      rw [shown,ok_bind,others]
      exact ⟨_,rfl⟩

end fields

section members

variable {member : ListMember Text} {width : Nat} {good : List UInt8 → Prop}

/-- A member of fixed width, parsed if its bytes are good. -/
structure Fixed (member : ListMember Text) (width : Nat) (good : List UInt8 → Prop) : Prop where
  done : ∀ data sz, width ≤ data.length → width ≤ sz → good (data.take width) →
    ∃ shown, member data sz = .ok (shown,width)
  only : ∀ data sz shown count, width ≤ data.length → member data sz = .ok (shown,count) →
    count = width ∧ good (data.take width)

/-- The good bytes of the members from some offset on. -/
def Good (good : List UInt8 → Prop) (width : Nat) (data : List UInt8) (start count : Nat) : Prop :=
  ∀ i < count,good (slice data (start + i * width) width)

theorem Good.cons {data : List UInt8} {start count : Nat} :
    Good good width data start (count + 1) ↔
      good (slice data start width) ∧ Good good width data (start + width) count := by
  constructor
  · intro all
    refine ⟨by simpa using all 0 (Nat.succ_pos _),fun i below => ?_⟩
    have here := all (i + 1) (Nat.succ_lt_succ below)
    rwa [Nat.add_mul,Nat.one_mul,Nat.add_comm (i * width),← Nat.add_assoc] at here
  · rintro ⟨first,rest⟩ i below
    cases i with
    | zero => simpa using first
    | succ i =>
      have here := rest i (Nat.lt_of_succ_lt_succ below)
      rwa [Nat.add_mul,Nat.one_mul,Nat.add_comm (i * width),← Nat.add_assoc]

/-- As many members as are asked for, one after the other. -/
theorem parseLISTofCounted_fixed (fixed : Fixed member width good) {data : List UInt8}
    {sz count : Nat} {outputs : ParsingOutputs Text}
    (inside : outputs.bytes_parsed + count * width ≤ data.length)
    (room : outputs.bytes_parsed + count * width ≤ sz) (bound : sz < 2^64)
    (small : outputs.bytes_parsed + count * width < 2^32) :
    ((∃ result, parseLISTofCounted member data sz count outputs = .ok result) ↔
        Good good width data outputs.bytes_parsed count) ∧
      ∀ result, parseLISTofCounted member data sz count outputs = .ok result →
        result.members.length = outputs.members.length + count ∧
          result.bytes_parsed = outputs.bytes_parsed + count * width := by
  induction count generalizing outputs with
  | zero =>
    refine ⟨iff_of_true ⟨outputs,rfl⟩ (fun i below => absurd below (Nat.not_lt_zero i)),?_⟩
    intro result done
    cases done
    simp
  | succ count ih =>
    rw [Nat.add_mul,Nat.one_mul] at inside room small
    have rest : sub64 sz outputs.bytes_parsed = sz - outputs.bytes_parsed :=
      sub64_small (by omega) bound
    have long : width ≤ (data.drop outputs.bytes_parsed).length := by
      rw [List.length_drop]
      omega
    rw [Good.cons,parseLISTofCounted,rest]
    by_cases fine : good (slice data outputs.bytes_parsed width)
    · obtain ⟨shown,parsed⟩ := fixed.done (data.drop outputs.bytes_parsed)
        (sz - outputs.bytes_parsed) long (by omega) fine
      rw [parsed,ok_bind]
      have added : (outputs.add (shown,width)).bytes_parsed = outputs.bytes_parsed + width :=
        Nat.mod_eq_of_lt (by dsimp only; omega)
      have next := @ih (outputs.add (shown,width)) (by omega) (by omega) (by omega)
      rw [added] at next
      refine ⟨next.1.trans ⟨fun all => ⟨fine,all⟩,fun all => all.2⟩,?_⟩
      intro result done
      obtain ⟨length,bytes⟩ := next.2 result done
      rw [Nat.add_mul,Nat.one_mul,bytes]
      refine ⟨?_,by omega⟩
      rw [length,ParsingOutputs.add,List.length_append,List.length_singleton]
      omega
    · have stuck (result : ParsingOutputs Text) : (do
          let shown ← member (data.drop outputs.bytes_parsed) (sz - outputs.bytes_parsed)
          parseLISTofCounted member data sz count (outputs.add shown)) ≠ .ok result := by
        intro done
        obtain ⟨⟨shown,size⟩,parsed,_⟩ := bind_success done
        exact fine (fixed.only _ _ _ _ long parsed).2
      refine ⟨iff_of_false ?_ fun all => fine all.1,fun result done => absurd done (stuck result)⟩
      rintro ⟨result,done⟩
      exact stuck result done

/-- The list of a call, cut to what its count can say. -/
theorem parseLISTofUint16_fixed (fixed : Fixed member width good) {data : List UInt8} {sz count : Nat}
    (inside : count * width ≤ data.length) (room : count * width ≤ sz) (bound : sz < 2^64)
    (small : count * width < 2^32) :
    ((∃ result, parseLISTofUint16 member data sz count = .ok result) ↔
        Good good width data 0 (count % 2^16)) ∧
      ∀ result, parseLISTofUint16 member data sz count = .ok result →
        result.members.length = count % 2^16 ∧ result.bytes_parsed = count % 2^16 * width := by
  have fewer : count % 2^16 * width ≤ count * width := Nat.mul_le_mul_right _ (Nat.mod_le _ _)
  have parsed := @parseLISTofCounted_fixed member width good fixed data sz (count % 2^16) ⟨[],0⟩
    (by dsimp only; omega) (by dsimp only; omega) bound (by dsimp only; omega)
  simpa only [parseLISTofUint16,List.length_nil,Nat.zero_add] using parsed

variable {reader : Reader} {fields : List Field}

theorem slice_front (data : List UInt8) (size : Nat) : slice data 0 size = data.take size := by
  rw [slice,List.drop_zero]

theorem parseListMember_fixed (expression : String) (size : Nat)
    (usual : ∀ field ∈ fields,field.Usual ∧ field.offset + field.scalar.size ≤ size) :
    Fixed (reader.parseListMember expression size fields) size
      (fun bytes => ∀ offset ∈ identifiers fields,Clear reader.littleEndian bytes offset) := by
  have formatted (data : List UInt8) (long : size ≤ data.length) :
      (∃ text, reader.formatFields (data.take size) fields = .ok text) ↔
        ∀ offset ∈ identifiers fields,Clear reader.littleEndian (data.take size) offset := by
    have length : (data.take size).length = size := List.length_take_of_le long
    have shown := @formatFields_iff reader (data.take size) [] fields
      fun field listed => ⟨(usual field listed).1,by rw [length]; exact (usual field listed).2⟩
    rwa [List.append_nil] at shown
  have memb (data : List UInt8) (long : size ≤ data.length) :
      readBytes data 0 size = .ok (data.take size) := by
    rw [readBytes,if_pos (by omega),slice_front]
  refine ⟨fun data sz long room clear => ?_,fun data sz shown count long parsed => ?_⟩
  · obtain ⟨text,done⟩ := (formatted data long).mpr clear
    refine ⟨text,?_⟩
    rw [Reader.parseListMember,assert,demand_true room,ok_bind,memb data long,ok_bind,done]
    rfl
  · obtain ⟨_,parsed⟩ := demand_bind_success parsed
    rw [memb data long,ok_bind] at parsed
    obtain ⟨text,done,parsed⟩ := bind_success parsed
    cases parsed
    exact ⟨rfl,(formatted data long).mp ⟨_,done⟩⟩

theorem parseBYTE_fixed : Fixed reader.parseBYTE 1 fun bytes =>
    ∀ offset ∈ ([] : List Nat),Clear reader.littleEndian bytes offset :=
  parseListMember_fixed _ _ (by simp [Field.Usual,Scalar.size,IntT.size])

theorem parsePOINT_fixed : Fixed reader.parsePOINT 4 fun bytes =>
    ∀ offset ∈ ([] : List Nat),Clear reader.littleEndian bytes offset :=
  parseListMember_fixed _ _ (by simp [POINT.fields,Field.Usual,Scalar.size,IntT.size])

theorem parseFONTPROP_fixed : Fixed reader.parseFONTPROP 8 fun bytes =>
    ∀ offset ∈ [0],Clear reader.littleEndian bytes offset :=
  parseListMember_fixed _ _
    (by simp [FONTPROP.fields,Field.Usual,Scalar.size,IntT.size,EnumNameRange.none,EnumNameRange.empty])

theorem parseCHARINFO_fixed : Fixed reader.parseCHARINFO 12 fun bytes =>
    ∀ offset ∈ ([] : List Nat),Clear reader.littleEndian bytes offset :=
  parseListMember_fixed _ _ (by simp [CHARINFO.fields,Field.Usual,Scalar.size,IntT.size])

/-- Members without identifiers are always parsed. -/
theorem parseLISTofUint16_plain (fixed : Fixed member width fun bytes =>
      ∀ offset ∈ ([] : List Nat),Clear reader.littleEndian bytes offset) {data : List UInt8}
    {sz count : Nat} (inside : count * width ≤ data.length) (room : count * width ≤ sz)
    (bound : sz < 2^64) (small : count * width < 2^32) :
    ∃ result, parseLISTofUint16 member data sz count = .ok result ∧
      result.members.length = count % 2^16 ∧ result.bytes_parsed = count % 2^16 * width := by
  have parsed := parseLISTofUint16_fixed fixed inside room bound small
  obtain ⟨result,done⟩ := parsed.1.mpr fun i below => by simp
  exact ⟨result,done,parsed.2 result done⟩

end members

/-- Whether the lists of a message were parsed whole, and as many bytes as it has. -/
def Complete (result : Checked Outputs) (counts : List Nat) (size : Nat) : Prop :=
  ∃ outputs, result = .ok outputs ∧ outputs.lists.map List.length = counts ∧
    outputs.bytes_parsed = size

/-- Where the list begins in a request with a fixed part of some size. -/
def start (big_request : Bool) : Nat := if big_request then 8 else 4

/-- The nearest multiple of 4. -/
def padded (count : Nat) : Nat := (count + 3) / 4 * 4

/-- A request as it is framed. -/
structure Request (reader : Reader) (message : List UInt8) (fixed : Nat) (big_request : Bool) :
    Prop where
  flag : reader.value message 2 2 = 0 ↔ big_request = true
  enabled : big_request = true → reader.bigRequests = true
  long : start big_request + fixed ≤ message.length
  framed : message.length =
    4 * (if big_request then reader.value message 4 4 else reader.value message 2 2)
  small : message.length < 2^32

/-- A reply as it is framed. -/
structure Reply (reader : Reader) (message : List UInt8) : Prop where
  first : reader.value message 0 1 = 1
  framed : message.length = 32 + 4 * reader.value message 4 4
  small : message.length < 2^32

section frames

variable {reader : Reader} {message more : List UInt8} {fixed : Nat} {big_request : Bool}

theorem Request.fixedEncoding (request : Request reader message fixed big_request) :
    reader.fixedEncoding fixed (message ++ more) message.length =
      .ok ⟨big_request,start big_request + fixed⟩ := by
  have long := request.long
  have base : 4 + fixed ≤ message.length := by
    unfold start at long
    split at long <;> omega
  rw [Reader.fixedEncoding,assert,demand_true base,ok_bind,ordered_inside (by omega),ok_bind]
  cases big_request with
  | true =>
    rw [if_pos (request.flag.mpr rfl),assert,demand_true (request.enabled rfl)]
    rfl
  | false =>
    rw [if_neg fun zero => Bool.false_ne_true (request.flag.mp zero)]
    rfl

theorem Request.units (request : Request reader message fixed big_request) :
    reader.tl_aligned_units (message ++ more) big_request = .ok (message.length / 4) := by
  have long := request.long
  have framed := request.framed
  cases big_request with
  | true =>
    simp only [start,if_true] at long framed
    rw [Reader.tl_aligned_units,if_pos rfl,ordered_inside (by omega)]
    congr 1
    omega
  | false =>
    simp only [start,Bool.false_eq_true,if_false] at long framed
    rw [Reader.tl_aligned_units,if_neg Bool.false_ne_true,ordered_inside (by omega)]
    congr 1
    omega

theorem Reply.header (reply : Reply reader message) :
    reader.parseReplyHeader (message ++ more) message.length =
      .ok ((message.length - 32) / 4) := by
  have framed := reply.framed
  rw [Reader.parseReplyHeader,assert,demand_true (by omega),ok_bind,ordered_inside (by omega),ok_bind,
    assert,demand_true reply.first,ok_bind,ordered_inside (by omega)]
  congr 1
  omega

/-- Once the list is parsed, the rest of a function checks the length and formats the fields. -/
theorem complete_single {result : ParsingOutputs Text} {expression : String} {count front total : Nat}
    {check : Nat → Prop} [DecidablePred check] {formatted : Checked Text} {clear : Prop}
    (length : result.members.length = count % 2^16)
    (bytes : count < 2^16 → (front + Alignment.pad result.bytes_parsed) % 2^32 = total)
    (passes : check total) (shown : (∃ text, formatted = .ok text) ↔ clear) :
    Complete (do
      assert expression (check ((front + Alignment.pad result.bytes_parsed) % 2^32))
      let text ← formatted
      return ⟨[result.members],text,(front + Alignment.pad result.bytes_parsed) % 2^32⟩) [count] total ↔
        count < 2^16 ∧ clear := by
  constructor
  · rintro ⟨outputs,done,counted,_⟩
    obtain ⟨_,done⟩ := demand_bind_success done
    obtain ⟨text,printed,done⟩ := bind_success done
    cases done
    simp only [List.map_cons,List.map_nil,List.cons.injEq,and_true] at counted
    refine ⟨?_,shown.mp ⟨text,printed⟩⟩
    rw [← counted,length]
    exact Nat.mod_lt _ (by decide)
  · rintro ⟨few,clear⟩
    obtain ⟨text,printed⟩ := shown.mpr clear
    have same := bytes few
    refine ⟨⟨[result.members],text,(front + Alignment.pad result.bytes_parsed) % 2^32⟩,?_,?_,same⟩
    · rw [assert,demand_true (same.symm ▸ passes),ok_bind,printed]
      rfl
    · simp only [List.map_cons,List.map_nil,length,Nat.mod_eq_of_lt few]

theorem pad_padded {count : Nat} (small : count < 2^32) : Alignment.pad count = padded count := by
  rw [Alignment.pad_small (by omega),padded]
  omega

theorem units_quarter {total : Nat} (small : total < 2^32) (whole : total % 4 = 0) :
    Alignment.units total = total / 4 := by
  rw [Alignment.units,pad_padded small,padded]
  omega

end frames

/-- The lists of these messages: each with the number of members that its length field, or
the length of the message, tells, and with the offsets of the message's identifiers. -/
inductive Kind
  | changeProperty
  | polyPoint
  | getProperty
  | getImage
  | queryFont
  deriving DecidableEq, Repr

def Reader.parse (reader : Reader) : Kind → List UInt8 → Nat → Checked Outputs
  | .changeProperty => reader.parseChangeProperty
  | .polyPoint => reader.parsePolyPoint
  | .getProperty => reader.parseGetProperty
  | .getImage => reader.parseGetImage
  | .queryFont => reader.parseQueryFont

/-- A message of some kind as the protocol encodes it, with the counts of its lists and the
offsets of its resource IDs and atoms. -/
inductive Encoded (reader : Reader) (message : List UInt8) : Kind → List Nat → List Nat → Prop
  | changeProperty (big_request : Bool) (count : Nat) (request : Request reader message 20 big_request)
      (opcode : reader.value message 0 1 = 18)
      (format : reader.value message (start big_request + 12) 1 ∈ [0,8,16,32])
      (type : reader.value message (start big_request + 8) 4 ≠ STRING)
      (counted : count = reader.value message (start big_request + 16) 4 *
        (reader.value message (start big_request + 12) 1 / 8))
      (whole : message.length = start big_request + 20 + padded count) :
      Encoded reader message .changeProperty [count]
        [start big_request,start big_request + 4,start big_request + 8]
  | polyPoint (big_request : Bool) (count : Nat) (request : Request reader message 8 big_request)
      (whole : message.length = start big_request + 8 + 4 * count) :
      Encoded reader message .polyPoint [count] [start big_request,start big_request + 4]
  | getProperty (count : Nat) (reply : Reply reader message)
      (format : reader.value message 1 1 ∈ [0,8,16,32])
      (type : reader.value message 8 4 ≠ STRING)
      (counted : count = reader.value message 16 4 * (reader.value message 1 1 / 8))
      (whole : message.length = 32 + padded count) :
      Encoded reader message .getProperty [count] [8]
  | getPropertyText (length : Nat) (reply : Reply reader message)
      (format : reader.value message 1 1 ∈ [0,8,16,32])
      (type : reader.value message 8 4 = STRING)
      (counted : length = reader.value message 16 4 * (reader.value message 1 1 / 8))
      (whole : message.length = 32 + padded length) :
      Encoded reader message .getProperty [] [8]
  | getImage (count : Nat) (reply : Reply reader message) (whole : message.length = 32 + count) :
      Encoded reader message .getImage [count] [8]
  | queryFont (properties char_infos : Nat) (reply : Reply reader message)
      (propertied : properties = reader.value message 46 2)
      (counted : char_infos = reader.value message 56 4)
      (whole : message.length = 60 + 8 * properties + 12 * char_infos) :
      Encoded reader message .queryFont [properties,char_infos]
        ((List.range properties).map fun i => 60 + 8 * i)

section kinds

variable {reader : Reader} {message more : List UInt8} {big_request : Bool} {count : Nat}

theorem format_fine {format : Nat} (known : format ∈ [0,8,16,32]) :
    format ≤ 32 ∧ format % 8 = 0 := by
  simp only [List.mem_cons,List.not_mem_nil,or_false] at known
  omega

theorem behind_length (front : Nat) (inside : front ≤ message.length) :
    message.length - front ≤ ((message ++ more).drop front).length := by
  rw [List.length_drop,List.length_append]
  omega

theorem changeProperty_identifiers :
    identifiers (reader.changePropertyFields big_request (start big_request)) =
      [start big_request,start big_request + 4,start big_request + 8] := by
  unfold Reader.changePropertyFields Reader.headerFields Reader.verboseFields
  cases reader.context.verbose <;> cases big_request <;> rfl

theorem changeProperty_usual (long : start big_request + 20 ≤ message.length) :
    ∀ field ∈ reader.changePropertyFields big_request (start big_request),
      field.Usual ∧ field.offset + field.scalar.size ≤ message.length := by
  unfold Reader.changePropertyFields Reader.headerFields Reader.verboseFields
  cases big_request <;> simp only [start,Bool.false_eq_true,if_false,if_true] at long ⊢ <;>
    cases reader.context.verbose <;>
      simp [Field.Usual,Scalar.size,IntT.size,EnumNameRange.none,EnumNameRange.empty] <;> omega

theorem changeProperty_complete (request : Request reader message 20 big_request)
    (opcode : reader.value message 0 1 = 18)
    (format : reader.value message (start big_request + 12) 1 ∈ [0,8,16,32])
    (type : reader.value message (start big_request + 8) 4 ≠ STRING)
    (counted : count = reader.value message (start big_request + 16) 4 *
      (reader.value message (start big_request + 12) 1 / 8))
    (whole : message.length = start big_request + 20 + padded count) :
    Complete (reader.parseChangeProperty (message ++ more) message.length) [count] message.length ↔
      count < 2^16 ∧ ∀ offset ∈ [start big_request,start big_request + 4,start big_request + 8],
        Clear reader.littleEndian message offset := by
  have long := request.long
  have small := request.small
  have base : 24 ≤ message.length := by
    unfold start at long
    split at long <;> omega
  have fits : count ≤ padded count := by
    unfold padded
    omega
  have unwrapped : reader.value message (start big_request + 16) 4 *
      (reader.value message (start big_request + 12) 1 / 8) % 2^32 = count := by
    rw [← counted,Nat.mod_eq_of_lt (by omega)]
  have behind := @behind_length message more (start big_request + 20) long
  obtain ⟨result,listed,length,bytes⟩ := @parseLISTofUint16_plain reader.parseBYTE 1 reader
    parseBYTE_fixed ((message ++ more).drop (start big_request + 20)) count count (by omega) (by omega)
    (by omega) (by omega)
  have shown := @formatFields_iff reader message more _
    (@changeProperty_usual reader message big_request long)
  rw [changeProperty_identifiers] at shown
  have data_ : reader.parseData (reader.value message (start big_request + 8) 4)
      ((message ++ more).drop (start big_request + 20)) count count =
        .ok ([result.members],result.bytes_parsed) := by
    rw [Reader.parseData,if_neg type,listed]
    rfl
  rw [Reader.parseChangeProperty]
  simp (disch := omega) only [assert,demand_true base,request.fixedEncoding,ok_bind,ordered_inside,
    demand_true opcode,Nat.add_sub_cancel,demand_true (format_fine format),unwrapped,data_,request.units]
  refine @complete_single result _ count (start big_request + 20) message.length
    (fun bytes_parsed => if big_request = true then message.length / 4 ≠ 0
      else message.length / 4 = Alignment.units bytes_parsed) _ _ _ length (fun few => ?_) ?_ shown
  · rw [bytes,Nat.mod_eq_of_lt few,Nat.mul_one,pad_padded (by omega),Nat.mod_eq_of_lt (by omega),whole]
  · have framed := request.framed
    split
    · omega
    · exact (units_quarter small (by omega)).symm

theorem polyPoint_identifiers :
    identifiers (reader.polyPointFields big_request (start big_request)) =
      [start big_request,start big_request + 4] := by
  unfold Reader.polyPointFields Reader.headerFields
  cases reader.context.verbose <;> cases big_request <;> rfl

theorem polyPoint_usual (long : start big_request + 8 ≤ message.length) :
    ∀ field ∈ reader.polyPointFields big_request (start big_request),
      field.Usual ∧ field.offset + field.scalar.size ≤ message.length := by
  unfold Reader.polyPointFields Reader.headerFields
  cases big_request <;> simp only [start,Bool.false_eq_true,if_false,if_true] at long ⊢ <;>
    cases reader.context.verbose <;> simp [Field.Usual,Scalar.size,IntT.size] <;> omega

theorem polyPoint_complete (request : Request reader message 8 big_request)
    (whole : message.length = start big_request + 8 + 4 * count) :
    Complete (reader.parsePolyPoint (message ++ more) message.length) [count] message.length ↔
      count < 2^16 ∧ ∀ offset ∈ [start big_request,start big_request + 4],
        Clear reader.littleEndian message offset := by
  have long := request.long
  have small := request.small
  have framed := request.framed
  have base : 12 ≤ message.length := by
    unfold start at long
    split at long <;> omega
  have behind := @behind_length message more (start big_request + 8) long
  have points_sz : sub64 (Alignment.size (message.length / 4)) (if big_request = true then 16 else 12) =
      4 * count := by
    rw [Alignment.size_small (by omega)]
    cases big_request <;> simp only [start,Bool.false_eq_true,if_false,if_true] at whole ⊢ <;>
      rw [sub64_small (by omega) (by omega)] <;> omega
  have points_ct : 4 * count / 4 = count := by omega
  obtain ⟨result,listed,length,bytes⟩ := @parseLISTofUint16_plain reader.parsePOINT 4 reader
    parsePOINT_fixed ((message ++ more).drop (start big_request + 8)) (4 * count) count (by omega)
    (by omega) (by omega) (by omega)
  have shown := @formatFields_iff reader message more _
    (@polyPoint_usual reader message big_request long)
  rw [polyPoint_identifiers] at shown
  rw [Reader.parsePolyPoint,assert,demand_true base,ok_bind,request.fixedEncoding,ok_bind]
  dsimp only
  rw [request.units,ok_bind,points_sz,points_ct,listed,ok_bind,Nat.add_sub_cancel]
  refine @complete_single result _ count (start big_request + 8) message.length
    (fun bytes_parsed => message.length / 4 = Alignment.units bytes_parsed) _ _ _ length
      (fun few => ?_) ?_ shown
  · rw [bytes,Nat.mod_eq_of_lt few,pad_padded (by omega),Nat.mod_eq_of_lt (by unfold padded; omega)]
    unfold padded
    omega
  · exact (units_quarter small (by omega)).symm

theorem getProperty_identifiers : identifiers reader.getPropertyFields = [8] := by
  unfold Reader.getPropertyFields Reader.replyFields Reader.verboseFields
  cases reader.context.verbose <;> rfl

theorem getProperty_usual (long : 32 ≤ message.length) :
    ∀ field ∈ reader.getPropertyFields,
      field.Usual ∧ field.offset + field.scalar.size ≤ message.length := by
  unfold Reader.getPropertyFields Reader.replyFields Reader.verboseFields
  cases reader.context.verbose <;>
    simp [Field.Usual,Scalar.size,IntT.size,zero_none,EnumNameRange.all,EnumNameRange.empty] <;> omega

theorem Reply.checked (reply : Reply reader message) :
    (message.length - 32) / 4 = Alignment.units (sub64 message.length 32) := by
  have small := reply.small
  have framed := reply.framed
  rw [sub64_small (by omega) (by omega)]
  exact (units_quarter (by omega) (by omega)).symm

theorem getProperty_complete (reply : Reply reader message)
    (format : reader.value message 1 1 ∈ [0,8,16,32]) (type : reader.value message 8 4 ≠ STRING)
    (counted : count = reader.value message 16 4 * (reader.value message 1 1 / 8))
    (whole : message.length = 32 + padded count) :
    Complete (reader.parseGetProperty (message ++ more) message.length) [count] message.length ↔
      count < 2^16 ∧ ∀ offset ∈ [8],Clear reader.littleEndian message offset := by
  have small := reply.small
  have fits : count ≤ padded count := by
    unfold padded
    omega
  have unwrapped : reader.value message 16 4 * (reader.value message 1 1 / 8) % 2^32 = count := by
    rw [← counted,Nat.mod_eq_of_lt (by omega)]
  have behind := @behind_length message more 32 (by omega)
  have rest : sub64 message.length 32 = message.length - 32 := sub64_small (by omega) (by omega)
  obtain ⟨result,listed,length,bytes⟩ := @parseLISTofUint16_plain reader.parseBYTE 1 reader
    parseBYTE_fixed ((message ++ more).drop 32) (message.length - 32) count (by omega) (by omega)
    (by omega) (by omega)
  have shown := @formatFields_iff reader message more _ (@getProperty_usual reader message (by omega))
  rw [getProperty_identifiers] at shown
  have value : reader.parseData (reader.value message 8 4) ((message ++ more).drop 32)
      (sub64 message.length 32) count = .ok ([result.members],result.bytes_parsed) := by
    rw [Reader.parseData,if_neg type,rest,listed]
    rfl
  rw [Reader.parseGetProperty]
  simp (disch := omega) only [reply.header,ok_bind,ordered_inside,assert,
    demand_true (format_fine format),unwrapped,value]
  refine @complete_single result _ count 32 message.length
    (fun bytes_parsed => (message.length - 32) / 4 = Alignment.units (sub64 bytes_parsed 32)) _ _ _
      length (fun few => ?_) reply.checked shown
  rw [bytes,Nat.mod_eq_of_lt few,Nat.mul_one,pad_padded (by omega),Nat.mod_eq_of_lt (by omega),whole]

/-- A text is taken whole. -/
theorem getPropertyText_complete {text : Nat} (reply : Reply reader message)
    (format : reader.value message 1 1 ∈ [0,8,16,32]) (type : reader.value message 8 4 = STRING)
    (counted : text = reader.value message 16 4 * (reader.value message 1 1 / 8))
    (whole : message.length = 32 + padded text) :
    Complete (reader.parseGetProperty (message ++ more) message.length) [] message.length ↔
      ∀ offset ∈ [8],Clear reader.littleEndian message offset := by
  have small := reply.small
  have fits : text ≤ padded text := by
    unfold padded
    omega
  have unwrapped : reader.value message 16 4 * (reader.value message 1 1 / 8) % 2^32 = text := by
    rw [← counted,Nat.mod_eq_of_lt (by omega)]
  have behind := @behind_length message more 32 (by omega)
  have shown := @formatFields_iff reader message more _ (@getProperty_usual reader message (by omega))
  rw [getProperty_identifiers] at shown
  have value : reader.parseData (reader.value message 8 4) ((message ++ more).drop 32)
      (sub64 message.length 32) text = .ok ([],text) := by
    rw [Reader.parseData,if_pos type,readBytes,if_pos (by omega)]
    rfl
  have total : (32 + Alignment.pad text) % 2^32 = message.length := by
    rw [pad_padded (by omega),Nat.mod_eq_of_lt (by omega),whole]
  rw [Reader.parseGetProperty]
  simp (disch := omega) only [reply.header,ok_bind,ordered_inside,assert,
    demand_true (format_fine format),unwrapped,value,total,Reader.checkReply,demand_true reply.checked]
  rw [← shown]
  constructor
  · rintro ⟨outputs,done,_⟩
    obtain ⟨fields,printed,_⟩ := bind_success done
    exact ⟨fields,printed⟩
  · rintro ⟨fields,printed⟩
    exact ⟨⟨[],fields,message.length⟩,by rw [printed]; rfl,rfl,rfl⟩

theorem getImage_identifiers : identifiers reader.getImageFields = [8] := by
  unfold Reader.getImageFields Reader.replyFields
  cases reader.context.verbose <;> rfl

theorem getImage_usual (long : 32 ≤ message.length) :
    ∀ field ∈ reader.getImageFields,
      field.Usual ∧ field.offset + field.scalar.size ≤ message.length := by
  unfold Reader.getImageFields Reader.replyFields
  cases reader.context.verbose <;> simp [Field.Usual,Scalar.size,IntT.size] <;> omega

theorem getImage_complete (reply : Reply reader message) (whole : message.length = 32 + count) :
    Complete (reader.parseGetImage (message ++ more) message.length) [count] message.length ↔
      count < 2^16 ∧ ∀ offset ∈ [8],Clear reader.littleEndian message offset := by
  have small := reply.small
  have framed := reply.framed
  have behind := @behind_length message more 32 (by omega)
  have rest : sub64 message.length 32 = message.length - 32 := sub64_small (by omega) (by omega)
  have data_sz : Alignment.size ((message.length - 32) / 4) = count := by
    rw [Alignment.size_small (by omega)]
    omega
  obtain ⟨result,listed,length,bytes⟩ := @parseLISTofUint16_plain reader.parseBYTE 1 reader
    parseBYTE_fixed ((message ++ more).drop 32) (message.length - 32) count (by omega) (by omega)
    (by omega) (by omega)
  have shown := @formatFields_iff reader message more _ (@getImage_usual reader message (by omega))
  rw [getImage_identifiers] at shown
  rw [Reader.parseGetImage]
  simp only [reply.header,ok_bind,data_sz,rest,listed]
  refine @complete_single result _ count 32 message.length
    (fun bytes_parsed => (message.length - 32) / 4 = Alignment.units (sub64 bytes_parsed 32)) _ _ _
      length (fun few => ?_) reply.checked shown
  rw [bytes,Nat.mod_eq_of_lt few,Nat.mul_one,pad_padded (by omega),
    Nat.mod_eq_of_lt (by unfold padded; omega)]
  unfold padded
  omega

theorem queryFont_identifiers : identifiers reader.queryFontFields = [] := by
  unfold Reader.queryFontFields Reader.replyFields Reader.verboseFields
  cases reader.context.verbose <;> rfl

theorem queryFont_usual (long : 60 ≤ message.length) :
    ∀ field ∈ reader.queryFontFields,
      field.Usual ∧ field.offset + field.scalar.size ≤ message.length := by
  unfold Reader.queryFontFields Reader.replyFields Reader.verboseFields
  cases reader.context.verbose <;>
    simp [CHARINFO.fields,Field.after,Field.Usual,Scalar.size,IntT.size] <;> omega

theorem slice_drop (data : List UInt8) (front offset size : Nat) :
    slice (data.drop front) offset size = slice data (front + offset) size := by
  rw [slice,slice,List.drop_drop]

theorem slice_slice (data : List UInt8) {start width size : Nat} (narrow : size ≤ width) :
    slice (slice data start width) 0 size = slice data start size := by
  rw [slice,List.drop_zero,slice,slice,List.take_take,Nat.min_eq_left narrow]

/-- The names of the font properties. -/
theorem fontprops_clear {properties : Nat} (inside : 60 + 8 * properties ≤ message.length) :
    Good (fun bytes => ∀ offset ∈ [0],Clear reader.littleEndian bytes offset) 8
        ((message ++ more).drop 60) 0 properties ↔
      ∀ offset ∈ (List.range properties).map fun i => 60 + 8 * i,
        Clear reader.littleEndian message offset := by
  have same : ∀ i < properties,(Clear reader.littleEndian
      (slice ((message ++ more).drop 60) (0 + i * 8) 8) 0 ↔
        Clear reader.littleEndian message (60 + 8 * i)) := by
    intro i below
    rw [Clear,Clear,slice_slice _ (by decide),slice_drop,slice_append _ _ _ _ (by omega),Nat.zero_add,
      Nat.mul_comm i 8]
  simp only [Good,List.forall_mem_singleton,List.forall_mem_map,List.mem_range]
  exact forall_congr' fun i => forall_congr' fun below => same i below

theorem queryFont_complete {properties char_infos : Nat} (reply : Reply reader message)
    (propertied : properties = reader.value message 46 2)
    (counted : char_infos = reader.value message 56 4)
    (whole : message.length = 60 + 8 * properties + 12 * char_infos) :
    Complete (reader.parseQueryFont (message ++ more) message.length) [properties,char_infos]
        message.length ↔
      char_infos < 2^16 ∧ ∀ offset ∈ (List.range properties).map fun i => 60 + 8 * i,
        Clear reader.littleEndian message offset := by
  have small := reply.small
  have few : properties < 2^16 := by
    have bound := ordered_lt reader.littleEndian reader.byteswap (slice message 46 2)
    rw [slice_length _ _ _ (by omega)] at bound
    rw [propertied]
    exact bound
  have behind := @behind_length message more 60 (by omega)
  have rest : sub64 message.length 60 = message.length - 60 := sub64_small (by omega) (by omega)
  have listed := @parseLISTofUint16_fixed reader.parseFONTPROP 8 _ parseFONTPROP_fixed
    ((message ++ more).drop 60) (message.length - 60) properties (by omega) (by omega) (by omega)
    (by omega)
  rw [Nat.mod_eq_of_lt few,fontprops_clear (by omega)] at listed
  rw [Reader.parseQueryFont,reply.header,ok_bind,ordered_inside (by omega),ok_bind,← propertied,rest]
  by_cases clear : ∀ offset ∈ (List.range properties).map fun i => 60 + 8 * i,
      Clear reader.littleEndian message offset
  · obtain ⟨first,parsed⟩ := listed.1.mpr clear
    obtain ⟨length,bytes⟩ := listed.2 first parsed
    have passed : (60 + first.bytes_parsed) % 2^32 = 60 + 8 * properties := by
      rw [bytes,Nat.mod_eq_of_lt (by omega),Nat.mul_comm]
    have after := @behind_length message more (60 + 8 * properties) (by omega)
    have left : sub64 message.length (60 + 8 * properties) = message.length - (60 + 8 * properties) :=
      sub64_small (by omega) (by omega)
    obtain ⟨second,infos,size,more_bytes⟩ := @parseLISTofUint16_plain reader.parseCHARINFO 12 reader
      parseCHARINFO_fixed ((message ++ more).drop (60 + 8 * properties))
      (message.length - (60 + 8 * properties)) char_infos (by omega) (by omega) (by omega) (by omega)
    have shown := @formatFields_iff reader message more _ (@queryFont_usual reader message (by omega))
    rw [queryFont_identifiers] at shown
    rw [parsed,ok_bind]
    dsimp only
    rw [passed,ordered_inside (by omega),ok_bind,← counted,left,infos,ok_bind]
    constructor
    · rintro ⟨outputs,done,counts,_⟩
      obtain ⟨_,done⟩ := demand_bind_success done
      obtain ⟨text,_,done⟩ := bind_success done
      cases done
      simp only [List.map_cons,List.map_nil,List.cons.injEq,and_true] at counts
      refine ⟨?_,clear⟩
      rw [← counts.2,size]
      exact Nat.mod_lt _ (by decide)
    · rintro ⟨short,_⟩
      obtain ⟨text,printed⟩ := shown.mpr (by simp)
      have total : (60 + 8 * properties + second.bytes_parsed) % 2^32 = message.length := by
        rw [more_bytes,Nat.mod_eq_of_lt short,Nat.mod_eq_of_lt (by omega),whole]
        omega
      refine ⟨⟨[first.members,second.members],text,message.length⟩,?_,?_,rfl⟩
      · rw [total,Reader.checkReply,assert,demand_true reply.checked,ok_bind,printed]
        rfl
      · simp only [List.map_cons,List.map_nil,length,size,Nat.mod_eq_of_lt short]
  · refine iff_of_false ?_ fun given => clear given.2
    rintro ⟨outputs,done,_⟩
    obtain ⟨first,parsed,_⟩ := bind_success done
    exact clear (listed.1.mp ⟨first,parsed⟩)

/-- A message's lists are parsed whole exactly when each has fewer than 65536 members, as
long as the host sees the zero bits of its identifiers clear. -/
theorem parse_complete {kind : Kind} {counts identifiers : List Nat} (more : List UInt8)
    (encoded : Encoded reader message kind counts identifiers) :
    Complete (reader.parse kind (message ++ more) message.length) counts message.length ↔
      (∀ count ∈ counts,count < 2^16) ∧
        ∀ offset ∈ identifiers,Clear reader.littleEndian message offset := by
  cases encoded with
  | changeProperty big_request count request opcode format type counted whole =>
    rw [List.forall_mem_singleton]
    exact changeProperty_complete request opcode format type counted whole
  | polyPoint big_request count request whole =>
    rw [List.forall_mem_singleton]
    exact polyPoint_complete request whole
  | getProperty count reply format type counted whole =>
    rw [List.forall_mem_singleton]
    exact getProperty_complete reply format type counted whole
  | getPropertyText length reply format type counted whole =>
    have text := @getPropertyText_complete reader message more length reply format type counted whole
    exact text.trans ⟨fun clear => ⟨by simp,clear⟩,And.right⟩
  | getImage count reply whole =>
    rw [List.forall_mem_singleton]
    exact getImage_complete reply whole
  | queryFont properties char_infos reply propertied counted whole =>
    have small := reply.small
    have few : properties < 2^16 := by
      have bound := ordered_lt reader.littleEndian reader.byteswap (slice message 46 2)
      rw [slice_length _ _ _ (by omega)] at bound
      rw [propertied]
      exact bound
    rw [List.forall_mem_cons,List.forall_mem_singleton]
    refine (queryFont_complete reply propertied counted whole).trans ?_
    exact ⟨fun given => ⟨⟨few,given.1⟩,given.2⟩,fun given => ⟨given.1.2,given.2⟩⟩

end kinds

/-- A client in the byte order of the host, and no options. -/
def plain : Reader where
  littleEndian := true
  byteswap := false
  bigRequests := false
  context :=
    { verbose := false
      systemtimeformat := false
      ref_TIMESTAMP := 0
      ref_unix_time := 0
      interned_atoms := fun _ => none
      quoted := id
      localtime := fun _ => "" }

/-- ChangeProperty of a CARDINAL property with `low` plus 256 times `high` units of 4 bytes, in
a request of `total` units. -/
def cardinals (total units : UInt8 × UInt8) : List UInt8 :=
  [18,0,total.1,total.2,1,0,32,0,39,0,0,0,6,0,0,0,32,0,0,0,units.1,units.2,0,0]

/-- Two units. -/
theorem parse_complete_two :
    Complete (plain.parse .changeProperty (cardinals (8,0) (2,0) ++ List.replicate 8 1 ++ []) 32) [8] 32 ↔
      (∀ count ∈ [8],count < 2^16) ∧ ∀ offset ∈ [4,8,12],
        Clear true (cardinals (8,0) (2,0) ++ List.replicate 8 1) offset :=
  @parse_complete plain (cardinals (8,0) (2,0) ++ List.replicate 8 1) .changeProperty [8] [4,8,12] []
    (.changeProperty false 8 ⟨by decide,by decide,by decide,by decide,by decide⟩ (by decide) (by decide)
      (by decide) (by decide) (by decide))

theorem value_front {front : List UInt8} {offset size : Nat} (inside : offset + size ≤ front.length)
    (reader : Reader) (more : List UInt8) :
    reader.value (front ++ more) offset size = reader.value front offset size := by
  rw [Reader.value,Reader.value,slice_append _ _ _ _ inside]

/-- An icon of 128 by 128 pixels. -/
def icon : List UInt8 := cardinals (6,64) (0,64) ++ List.replicate 65536 0

/-- The count of its bytes is cut to nothing. -/
theorem parse_complete_icon :
    Encoded plain icon .changeProperty [65536] [4,8,12] ∧
      ¬Complete (plain.parse .changeProperty (icon ++ []) icon.length) [65536] icon.length := by
  have front : (cardinals (6,64) (0,64)).length = 24 := rfl
  have length : icon.length = 65560 := by rw [icon,List.length_append,front,List.length_replicate]
  have read {offset size : Nat} (inside : offset + size ≤ 24) :
      plain.value icon offset size = plain.value (cardinals (6,64) (0,64)) offset size :=
    value_front inside _ _
  have request : Request plain icon 20 false := by
    refine ⟨?_,by simp,?_,?_,?_⟩
    · rw [read (by decide)]
      decide
    · rw [length]
      decide
    · rw [length,read (by decide),read (by decide)]
      decide
    · rw [length]
      decide
  have opcode : plain.value icon 0 1 = 18 := by
    rw [read (by decide)]
    decide
  have format : plain.value icon (start false + 12) 1 ∈ [0,8,16,32] := by
    rw [read (by decide)]
    decide
  have type : plain.value icon (start false + 8) 4 ≠ STRING := by
    rw [read (by decide)]
    decide
  have counted : 65536 = plain.value icon (start false + 16) 4 *
      (plain.value icon (start false + 12) 1 / 8) := by
    rw [read (by decide),read (by decide)]
    decide
  have whole : icon.length = start false + 20 + padded 65536 := by
    rw [length]
    decide
  refine ⟨.changeProperty false 65536 request opcode format type counted whole,fun complete => ?_⟩
  have few := ((changeProperty_complete request opcode format type counted whole).mp complete).1
  exact absurd few (by decide)

end CountedLists
end Xtracepp
