import Xtracepp.ListParsing
import Xtracepp.MessageLoop

/-! `_logConnectionSetup` of what a server answers to an Initiation, and the answers that
are well formed.
-/
namespace Xtracepp
open Library.Outcome Library.Framing ListParsing

namespace ConnectionSetup

section parsing

variable (littleEndian byteswap : Bool)

/-- An `_ordered` integer field of `count` bytes. -/
def orderedField (data : List UInt8) (start count : Nat) : Checked Nat := do
  return ordered littleEndian byteswap (← readBytes data start count)

/-- `_logConnectionSetup< Refusal >`. -/
def logRefusal (data : List UInt8) (sz : Nat) : Checked Nat := do
  let field := orderedField littleEndian byteswap data
  assert "sz >= sizeof( Refusal::Header )" (8 ≤ sz)
  let success ← field 0 1
  assert "_ordered( header->success, byteswap ) == InitResponse::FAILED" (success = 0)
  let reason_len ← field 1 1
  let _ ← readBytes data 8 reason_len
  let bytes_parsed := add64 8 (Alignment.pad reason_len)
  let following_aligned_units ← field 6 2
  assert "following_aligned_units == Alignment::units"
    (following_aligned_units = Alignment.units (sub64 bytes_parsed 8))
  return bytes_parsed

/-- `_logConnectionSetup< RequireFurtherAuthentication >`. -/
def logRequireFurtherAuthentication (data : List UInt8) (sz : Nat) : Checked Nat := do
  let field := orderedField littleEndian byteswap data
  assert "sz >= sizeof( RequireFurtherAuthentication::Header )" (8 ≤ sz)
  let success ← field 0 1
  assert "_ordered( header->success, byteswap ) == InitResponse::AUTHENTICATE" (success = 2)
  let following_aligned_units ← field 6 2
  let reason_padded_len := Alignment.size following_aligned_units
  let _ ← readBytes data 8 reason_padded_len
  let bytes_parsed := add64 8 reason_padded_len
  assert "following_aligned_units == Alignment::units"
    (following_aligned_units = Alignment.units (sub64 bytes_parsed 8))
  return bytes_parsed

/-- `_formatVariable` of a `SETofEVENT`, as it is loaded. -/
def formatSETofEVENT (data : Nat) : Checked Unit :=
  assert "( setofevent.data & protocol::SETofEVENT::ZERO_BITS ) == 0" (data &&& 0xFE000000 = 0)

/-- A resource ID that is formatted as it is loaded from its four bytes. -/
def formatFieldId (data : List UInt8) (start : Nat) : Checked Nat := do
  formatResourceId byteswap (loaded littleEndian (← readBytes data start 4))

/-- `_parseListMember< Acceptance::FORMAT >`. -/
def parseFORMAT : ListMember Unit := fun data sz => do
  assert "sz >= sizeof( ProtocolStructT )" (8 ≤ sz)
  let _ ← readBytes data 0 8
  return ((),8)

/-- `_parseListMember< VISUALTYPE >`. -/
def parseVISUALTYPE : ListMember Unit := fun data sz => do
  assert "sz >= sizeof( ProtocolStructT )" (24 ≤ sz)
  let _ ← readBytes data 0 24
  let _ ← formatFieldId littleEndian byteswap data 0
  return ((),24)

/-- `_parseListMember< DEPTH >`. -/
def parseDEPTH : ListMember Unit := fun data sz => do
  assert "sz >= sizeof( DEPTH::Header )" (8 ≤ sz)
  let visuals_ct ← orderedField littleEndian byteswap data 2 2
  let visuals ← parseLISTofCounted (parseVISUALTYPE littleEndian byteswap) (data.drop 8)
    (sub64 sz 8) visuals_ct ⟨[],0⟩
  let bytes_parsed := (8 + visuals.bytes_parsed) % 2^32
  assert "outputs.bytes_parsed <= sz" (bytes_parsed ≤ sz)
  return ((),bytes_parsed)

/-- `_parseListMember< SCREEN >`, which shows the root window. -/
def parseSCREEN : ListMember Nat := fun data sz => do
  assert "sz >= sizeof( SCREEN::Header )" (40 ≤ sz)
  let allowed_depths_ct ← orderedField littleEndian byteswap data 39 1
  let allowed_depths ← parseLISTofCounted (parseDEPTH littleEndian byteswap) (data.drop 40)
    (sub64 sz 40) allowed_depths_ct ⟨[],0⟩
  let bytes_parsed := (40 + allowed_depths.bytes_parsed) % 2^32
  assert "outputs.bytes_parsed <= sz" (bytes_parsed ≤ sz)
  let root ← formatFieldId littleEndian byteswap data 0
  let _ ← formatFieldId littleEndian byteswap data 4
  formatSETofEVENT (loaded littleEndian (← readBytes data 16 4))
  let _ ← formatFieldId littleEndian byteswap data 32
  return (root,bytes_parsed)

/-- `_logConnectionSetup< Acceptance >`: the bytes parsed, and the root windows shown. -/
def logAcceptance (data : List UInt8) (sz : Nat) : Checked (Nat × List Nat) := do
  let field := orderedField littleEndian byteswap data
  assert "sz >= sizeof( Acceptance::Encoding )" (32 ≤ sz)
  let major_ver ← field 2 2
  let minor_ver ← field 4 2
  if major_ver ≠ 11 ∨ minor_ver ≠ 0 then .error .exited
  else
    let success ← field 0 1
    assert "_ordered( header->success, byteswap ) == InitResponse::SUCCESS" (success = 1)
    let vendor_len ← field 24 2
    let _ ← readBytes data 40 vendor_len
    let lists := add64 40 (Alignment.pad vendor_len)
    let pixmap_formats_ct ← field 29 1
    let pixmap_formats ← parseLISTofCounted parseFORMAT (data.drop lists) (sub64 sz lists)
      pixmap_formats_ct ⟨[],0⟩
    let screens := add64 lists pixmap_formats.bytes_parsed
    let roots_ct ← field 28 1
    let roots ← parseLISTofCounted (parseSCREEN littleEndian byteswap) (data.drop screens)
      (sub64 sz screens) roots_ct ⟨[],0⟩
    let bytes_parsed := add64 screens roots.bytes_parsed
    let following_aligned_units ← field 6 2
    assert "following_aligned_units == Alignment::units"
      (following_aligned_units = Alignment.units (sub64 bytes_parsed 8))
    return (bytes_parsed,roots.members)

end parsing

/-- What there is to read from `data` on in the buffer of a server. -/
def inServerBuffer (log : Bool → List UInt8 → Nat → Checked Nat) : ParseFunc :=
  fun _ conn data sz => do
    let storage := conn.serverBuffer.buffer
    log conn.byteswap (← storage.fetch data (storage.size - data)) sz

end ConnectionSetup

/-- Settings whose functions for the answers to an Initiation are those of the source. -/
def Settings.withConnectionSetup (settings : Settings) : Settings :=
  { settings with
    parse := { settings.parse with
      refusal := ConnectionSetup.inServerBuffer
        (ConnectionSetup.logRefusal settings.littleEndian)
      requireFurtherAuthentication := ConnectionSetup.inServerBuffer
        (ConnectionSetup.logRequireFurtherAuthentication settings.littleEndian)
      acceptance := ConnectionSetup.inServerBuffer fun byteswap data sz => do
        return (← ConnectionSetup.logAcceptance settings.littleEndian byteswap data sz).1 } }

namespace ConnectionSetup

section responses

variable (littleEndian byteswap : Bool)

/-- The value of a field in the byte order of the connection. -/
def value (bytes : List UInt8) (start count : Nat) : Nat :=
  ordered littleEndian byteswap (slice bytes start count)

structure Refusal where
  header : List UInt8
  reason : List UInt8
  sized : header.length = 8
  success : value littleEndian byteswap header 0 1 = 0
  padded : reason.length = Alignment.pad (value littleEndian byteswap header 1 1)
  following : value littleEndian byteswap header 6 2 * 4 = reason.length

structure RequireFurtherAuthentication where
  header : List UInt8
  reason : List UInt8
  sized : header.length = 8
  success : value littleEndian byteswap header 0 1 = 2
  following : value littleEndian byteswap header 6 2 * 4 = reason.length

structure Format where
  bytes : List UInt8
  sized : bytes.length = 8

structure Visual where
  bytes : List UInt8
  sized : bytes.length = 24

structure Depth where
  header : List UInt8
  visuals : List Visual
  sized : header.length = 8
  visuals_ct : value littleEndian byteswap header 2 2 = visuals.length

variable {littleEndian byteswap} in
def Depth.encode (depth : Depth littleEndian byteswap) : List UInt8 :=
  depth.header ++ encoding Visual.bytes depth.visuals

structure Screen where
  header : List UInt8
  depths : List (Depth littleEndian byteswap)
  sized : header.length = 40
  allowed_depths_ct : value littleEndian byteswap header 39 1 = depths.length

variable {littleEndian byteswap} in
def Screen.encode (screen : Screen littleEndian byteswap) : List UInt8 :=
  screen.header ++ encoding Depth.encode screen.depths

/-- Success with protocol 11.0; `header` goes on to the vendor. -/
structure Acceptance where
  header : List UInt8
  vendor : List UInt8
  formats : List Format
  screens : List (Screen littleEndian byteswap)
  sized : header.length = 40
  success : value littleEndian byteswap header 0 1 = 1
  protocol_major_version : value littleEndian byteswap header 2 2 = 11
  protocol_minor_version : value littleEndian byteswap header 4 2 = 0
  padded : vendor.length = Alignment.pad (value littleEndian byteswap header 24 2)
  pixmap_formats_ct : value littleEndian byteswap header 29 1 = formats.length
  roots_ct : value littleEndian byteswap header 28 1 = screens.length
  following : value littleEndian byteswap header 6 2 * 4 = 32 + vendor.length +
    (encoding Format.bytes formats).length + (encoding Screen.encode screens).length

inductive InitResponse
  | failed (refusal : Refusal littleEndian byteswap)
  | authenticate (further : RequireFurtherAuthentication littleEndian byteswap)
  | success (acceptance : Acceptance littleEndian byteswap)

end responses

variable {littleEndian byteswap : Bool}

def Acceptance.suffix (acceptance : Acceptance littleEndian byteswap) : List UInt8 :=
  acceptance.vendor ++ encoding Format.bytes acceptance.formats ++
    encoding Screen.encode acceptance.screens

namespace InitResponse

def header : InitResponse littleEndian byteswap → List UInt8
  | .failed refusal => refusal.header
  | .authenticate further => further.header
  | .success acceptance => acceptance.header

def suffix : InitResponse littleEndian byteswap → List UInt8
  | .failed refusal => refusal.reason
  | .authenticate further => further.reason
  | .success acceptance => acceptance.suffix

def encode (response : InitResponse littleEndian byteswap) : List UInt8 :=
  response.header ++ response.suffix

/-- The status that a response stands for. -/
def status : InitResponse littleEndian byteswap → Status
  | .failed _ => .failed
  | .authenticate _ => .authentication
  | .success _ => .opened

end InitResponse

/-- Resource IDs, and event masks, as the host loads them. -/
def FineId (littleEndian : Bool) (bytes : List UInt8) (start : Nat) : Prop :=
  loaded littleEndian (slice bytes start 4) &&& ZERO_BITS = 0

instance (littleEndian : Bool) (bytes : List UInt8) (start : Nat) :
    Decidable (FineId littleEndian bytes start) := inferInstanceAs (Decidable (_ = _))

def Depth.Fine (depth : Depth littleEndian byteswap) : Prop :=
  ∀ visual ∈ depth.visuals,FineId littleEndian visual.bytes 0

structure Screen.Fine (screen : Screen littleEndian byteswap) : Prop where
  depths : ∀ depth ∈ screen.depths,depth.Fine
  root : FineId littleEndian screen.header 0
  default_colormap : FineId littleEndian screen.header 4
  current_input_masks : loaded littleEndian (slice screen.header 16 4) &&& 0xFE000000 = 0
  root_visual : FineId littleEndian screen.header 32

section parsed

variable {header more bytes : List UInt8} {sz start count : Nat}

theorem orderedField_inside (inside : start + count ≤ header.length) (more : List UInt8) :
    orderedField littleEndian byteswap (header ++ more) start count =
      .ok (value littleEndian byteswap header start count) := by
  rw [orderedField,readBytes_inside inside]
  rfl

theorem value_lt (inside : start + count ≤ header.length) :
    value littleEndian byteswap header start count < 256 ^ count := by
  have bound := ordered_lt littleEndian byteswap (slice header start count)
  rwa [slice_length _ _ _ inside] at bound

/-- A resource ID as it is shown. -/
def shownId (littleEndian byteswap : Bool) (bytes : List UInt8) (start : Nat) : Nat :=
  if byteswap then bswap32 (loaded littleEndian (slice bytes start 4))
  else loaded littleEndian (slice bytes start 4)

theorem formatFieldId_fine (fine : FineId littleEndian header start)
    (inside : start + 4 ≤ header.length) (more : List UInt8) :
    formatFieldId littleEndian byteswap (header ++ more) start =
      .ok (shownId littleEndian byteswap header start) := by
  have fine : loaded littleEndian (slice header start 4) &&& ZERO_BITS = 0 := fine
  rw [formatFieldId,readBytes_inside inside,ok_bind,formatResourceId,assert,demand_true fine,ok_bind,
    pure_ok,shownId]

theorem formatFieldId_success {id : Nat} (inside : start + 4 ≤ header.length)
    (formatted : formatFieldId littleEndian byteswap (header ++ more) start = .ok id) :
    FineId littleEndian header start := by
  rw [formatFieldId,readBytes_inside inside,ok_bind] at formatted
  exact (demand_bind_success formatted).1

theorem parseFORMAT_parses : Parses parseFORMAT Format.bytes (fun _ => ()) fun _ => True := by
  refine ⟨?_,fun _ _ _ _ wrong _ _ => absurd trivial wrong⟩
  intro format more sz _ long _
  have eight := format.sized
  rw [eight] at long
  rw [parseFORMAT,assert,demand_true long,readBytes_inside (by omega),eight]
  rfl

theorem parseVISUALTYPE_parses (littleEndian byteswap : Bool) :
    Parses (parseVISUALTYPE littleEndian byteswap) Visual.bytes (fun _ => ())
      fun visual => FineId littleEndian visual.bytes 0 := by
  constructor
  · intro visual more sz fine long _
    have width := visual.sized
    rw [width] at long
    have formatted := @formatFieldId_fine littleEndian byteswap visual.bytes 0 fine (by omega) more
    rw [parseVISUALTYPE,assert,demand_true long,readBytes_inside (by omega),formatted,width]
    rfl
  · intro visual more sz result wrong _ _ parsed
    have width := visual.sized
    obtain ⟨_,parsed⟩ := demand_bind_success parsed
    obtain ⟨_,_,parsed⟩ := bind_success parsed
    obtain ⟨id,formatted,_⟩ := bind_success parsed
    exact wrong (formatFieldId_success (by omega) formatted)

theorem Depth.length_le (depth : Depth littleEndian byteswap) :
    depth.encode.length = 8 + (encoding Visual.bytes depth.visuals).length ∧
      (encoding Visual.bytes depth.visuals).length ≤ 65535 * 24 := by
  have inside : 2 + 2 ≤ depth.header.length := by
    rw [depth.sized]
    decide
  have count := @value_lt littleEndian byteswap depth.header 2 2 inside
  rw [depth.visuals_ct] at count
  have visuals := encoding_length_le depth.visuals
    (fun visual _ => Nat.le_of_eq visual.sized)
  refine ⟨by rw [Depth.encode,List.length_append,depth.sized],visuals.trans ?_⟩
  exact Nat.mul_le_mul_right 24 (by omega)

theorem parseDEPTH_parses (littleEndian byteswap : Bool) :
    Parses (parseDEPTH littleEndian byteswap) (@Depth.encode littleEndian byteswap) (fun _ => ())
      Depth.Fine := by
  constructor
  · intro depth more sz fine long bound
    obtain ⟨whole,small⟩ := depth.length_le
    have width := depth.sized
    have visuals := suffix_done (parseVISUALTYPE_parses littleEndian byteswap) depth.header more
      depth.visuals fine (by omega : _ ≤ sz) bound (by omega)
    rw [width] at visuals
    have least : 8 ≤ sz := by omega
    have counted := @orderedField_inside littleEndian byteswap depth.header 2 2 (by omega)
      (encoding Visual.bytes depth.visuals ++ more)
    rw [depth.visuals_ct] at counted
    have parsed : (8 + (encoding Visual.bytes depth.visuals).length) % 2^32 =
        depth.encode.length := by
      rw [whole,Nat.mod_eq_of_lt (by omega)]
    have shape : depth.encode ++ more = depth.header ++ (encoding Visual.bytes depth.visuals ++ more) := by
      rw [Depth.encode,List.append_assoc]
    rw [shape,parseDEPTH,assert,demand_true least,ok_bind,counted,ok_bind,visuals,ok_bind]
    dsimp only
    rw [parsed,assert,demand_true long,ok_bind,pure_ok]
  · intro depth more sz result wrong long bound done
    obtain ⟨whole,small⟩ := depth.length_le
    have width := depth.sized
    have counted := @orderedField_inside littleEndian byteswap depth.header 2 2 (by omega)
      (encoding Visual.bytes depth.visuals ++ more)
    rw [depth.visuals_ct] at counted
    have shape : depth.encode ++ more = depth.header ++ (encoding Visual.bytes depth.visuals ++ more) := by
      rw [Depth.encode,List.append_assoc]
    rw [shape] at done
    obtain ⟨_,done⟩ := demand_bind_success done
    rw [counted,ok_bind] at done
    obtain ⟨visuals,parsed,_⟩ := bind_success done
    rw [← width] at parsed
    exact suffix_stuck (parseVISUALTYPE_parses littleEndian byteswap) depth.header more depth.visuals
      wrong (by omega : _ ≤ sz) bound (by omega) visuals parsed

theorem Screen.length_le (screen : Screen littleEndian byteswap) :
    screen.encode.length = 40 + (encoding Depth.encode screen.depths).length ∧
      (encoding Depth.encode screen.depths).length ≤ 255 * (8 + 65535 * 24) := by
  have inside : 39 + 1 ≤ screen.header.length := by
    rw [screen.sized]
  have count := @value_lt littleEndian byteswap screen.header 39 1 inside
  rw [screen.allowed_depths_ct] at count
  have depths : (encoding Depth.encode screen.depths).length ≤
      screen.depths.length * (8 + 65535 * 24) := encoding_length_le screen.depths fun depth _ => by
    obtain ⟨whole,small⟩ := depth.length_le
    omega
  refine ⟨by rw [Screen.encode,List.length_append,screen.sized],depths.trans ?_⟩
  exact Nat.mul_le_mul_right _ (by omega)

theorem formatSETofEVENT_fine {data : Nat} (fine : data &&& 0xFE000000 = 0) :
    formatSETofEVENT data = .ok () := by
  rw [formatSETofEVENT,assert,demand_true fine]

theorem parseSCREEN_parses (littleEndian byteswap : Bool) :
    Parses (parseSCREEN littleEndian byteswap) (@Screen.encode littleEndian byteswap)
      (fun screen => shownId littleEndian byteswap screen.header 0) Screen.Fine := by
  constructor
  · intro screen more sz fine long bound
    obtain ⟨whole,small⟩ := screen.length_le
    have width := screen.sized
    have depths := suffix_done (parseDEPTH_parses littleEndian byteswap) screen.header more
      screen.depths fine.depths (by omega : _ ≤ sz) bound (by omega)
    rw [width] at depths
    have least : 40 ≤ sz := by omega
    have counted := @orderedField_inside littleEndian byteswap screen.header 39 1 (by omega)
      (encoding Depth.encode screen.depths ++ more)
    rw [screen.allowed_depths_ct] at counted
    have parsed : (40 + (encoding Depth.encode screen.depths).length) % 2^32 =
        screen.encode.length := by
      rw [whole,Nat.mod_eq_of_lt (by omega)]
    have shape : screen.encode ++ more =
        screen.header ++ (encoding Depth.encode screen.depths ++ more) := by
      rw [Screen.encode,List.append_assoc]
    rw [shape,parseSCREEN,assert,demand_true least,ok_bind,counted,ok_bind,depths,ok_bind]
    dsimp only
    rw [parsed,assert,demand_true long,ok_bind,formatFieldId_fine fine.root (by omega),ok_bind,
      formatFieldId_fine fine.default_colormap (by omega),ok_bind,readBytes_inside (by omega),ok_bind,
      formatSETofEVENT_fine fine.current_input_masks,ok_bind,
      formatFieldId_fine fine.root_visual (by omega),ok_bind,pure_ok]
  · intro screen more sz result wrong long bound done
    obtain ⟨whole,small⟩ := screen.length_le
    have width := screen.sized
    have counted := @orderedField_inside littleEndian byteswap screen.header 39 1 (by omega)
      (encoding Depth.encode screen.depths ++ more)
    rw [screen.allowed_depths_ct] at counted
    have shape : screen.encode ++ more =
        screen.header ++ (encoding Depth.encode screen.depths ++ more) := by
      rw [Screen.encode,List.append_assoc]
    rw [shape] at done
    obtain ⟨_,done⟩ := demand_bind_success done
    rw [counted,ok_bind] at done
    obtain ⟨depths,parsed,done⟩ := bind_success done
    obtain ⟨_,done⟩ := demand_bind_success done
    obtain ⟨_,root,done⟩ := bind_success done
    obtain ⟨_,colormap,done⟩ := bind_success done
    rw [readBytes_inside (by omega),ok_bind] at done
    obtain ⟨_,masks,done⟩ := bind_success done
    obtain ⟨_,visual,_⟩ := bind_success done
    refine wrong ⟨?_,formatFieldId_success (by omega) root,formatFieldId_success (by omega) colormap,
      demand_success.mp masks,formatFieldId_success (by omega) visual⟩
    by_contra bad
    rw [← width] at parsed
    exact suffix_stuck (parseDEPTH_parses littleEndian byteswap) screen.header more screen.depths
      bad (by omega : _ ≤ sz) bound (by omega) depths parsed

section acceptance

variable (acceptance : Acceptance littleEndian byteswap)

def Acceptance.encode : List UInt8 := acceptance.header ++ acceptance.suffix

/-- The size that the header gives, in bytes. -/
def Acceptance.size : Nat := 8 + value littleEndian byteswap acceptance.header 6 2 * 4

theorem Acceptance.length : acceptance.encode.length = acceptance.size ∧
    acceptance.size = 40 + acceptance.vendor.length +
      (encoding Format.bytes acceptance.formats).length +
        (encoding Screen.encode acceptance.screens).length ∧ acceptance.size ≤ 8 + 65535 * 4 := by
  have width := acceptance.sized
  have following := acceptance.following
  have units := @value_lt littleEndian byteswap acceptance.header 6 2 (by omega)
  have total : acceptance.encode.length = 40 + acceptance.vendor.length +
      (encoding Format.bytes acceptance.formats).length +
        (encoding Screen.encode acceptance.screens).length := by
    rw [Acceptance.encode,Acceptance.suffix,List.length_append,List.length_append,List.length_append,width]
    omega
  rw [Acceptance.size]
  omega

theorem Acceptance.field {start count : Nat} (inside : start + count ≤ 40) (more : List UInt8) :
    orderedField littleEndian byteswap (acceptance.encode ++ more) start count =
      .ok (value littleEndian byteswap acceptance.header start count) := by
  have width := acceptance.sized
  rw [Acceptance.encode,List.append_assoc]
  exact orderedField_inside (by omega) _

/-- What is behind the lists in an acceptance. -/
theorem Acceptance.shape (more : List UInt8) :
    acceptance.encode ++ more = acceptance.header ++ acceptance.vendor ++
      encoding Format.bytes acceptance.formats ++
        (encoding Screen.encode acceptance.screens ++ more) := by
  rw [Acceptance.encode,Acceptance.suffix]
  simp only [List.append_assoc]

theorem Acceptance.behind : (acceptance.header ++ acceptance.vendor).length =
    40 + acceptance.vendor.length ∧
      (acceptance.header ++ acceptance.vendor ++ encoding Format.bytes acceptance.formats).length =
        40 + acceptance.vendor.length + (encoding Format.bytes acceptance.formats).length := by
  have front : (acceptance.header ++ acceptance.vendor).length = 40 + acceptance.vendor.length := by
    rw [List.length_append,acceptance.sized]
  exact ⟨front,by rw [List.length_append,front]⟩

/-- Up to the screens every acceptance is decoded. -/
theorem logAcceptance_screens (more : List UInt8) {sz : Nat} (long : acceptance.size ≤ sz)
    (bound : sz < 2^64) :
    logAcceptance littleEndian byteswap (acceptance.encode ++ more) sz = do
      let roots ← parseLISTofCounted (parseSCREEN littleEndian byteswap)
        ((acceptance.encode ++ more).drop
          (acceptance.header ++ acceptance.vendor ++ encoding Format.bytes acceptance.formats).length)
        (sub64 sz
          (acceptance.header ++ acceptance.vendor ++ encoding Format.bytes acceptance.formats).length)
        acceptance.screens.length ⟨[],0⟩
      let bytes_parsed := add64
        (acceptance.header ++ acceptance.vendor ++ encoding Format.bytes acceptance.formats).length
        roots.bytes_parsed
      assert "following_aligned_units == Alignment::units"
        (value littleEndian byteswap acceptance.header 6 2 = Alignment.units (sub64 bytes_parsed 8))
      return (bytes_parsed,roots.members) := by
  have width := acceptance.sized
  obtain ⟨whole,total,small⟩ := acceptance.length
  obtain ⟨front,behind⟩ := acceptance.behind
  have version : ¬(value littleEndian byteswap acceptance.header 2 2 ≠ 11 ∨
      value littleEndian byteswap acceptance.header 4 2 ≠ 0) := by
    rw [acceptance.protocol_major_version,acceptance.protocol_minor_version]
    decide
  have lists : add64 40 (Alignment.pad (value littleEndian byteswap acceptance.header 24 2)) =
      (acceptance.header ++ acceptance.vendor).length := by
    rw [← acceptance.padded,front,add64_small (by omega)]
  have vendorLen := @value_lt littleEndian byteswap acceptance.header 24 2 (by omega)
  have unpadded : value littleEndian byteswap acceptance.header 24 2 ≤ acceptance.vendor.length := by
    rw [acceptance.padded,Alignment.pad_small (by omega)]
    omega
  have vendor : readBytes (acceptance.encode ++ more) 40
      (value littleEndian byteswap acceptance.header 24 2) =
        .ok (slice acceptance.encode 40 (value littleEndian byteswap acceptance.header 24 2)) :=
    readBytes_inside (by omega) more
  have formats := suffix_done parseFORMAT_parses (acceptance.header ++ acceptance.vendor)
    (encoding Screen.encode acceptance.screens ++ more) acceptance.formats (fun _ _ => trivial)
    (by omega : _ ≤ sz) bound (by omega)
  rw [← List.append_assoc (acceptance.header ++ acceptance.vendor),← acceptance.shape more] at formats
  have roots : add64 (acceptance.header ++ acceptance.vendor).length
      (encoding Format.bytes acceptance.formats).length =
        (acceptance.header ++ acceptance.vendor ++ encoding Format.bytes acceptance.formats).length := by
    rw [front,behind,add64_small (by omega)]
  have least : 32 ≤ sz := by omega
  have success := acceptance.success
  rw [logAcceptance,assert,demand_true least,ok_bind,acceptance.field (by decide),ok_bind,
    acceptance.field (by decide),ok_bind,if_neg version,acceptance.field (by decide),ok_bind,assert,
    demand_true success,ok_bind,acceptance.field (by decide),ok_bind,vendor,ok_bind]
  dsimp only
  rw [lists,acceptance.field (by decide),ok_bind,acceptance.pixmap_formats_ct,formats,ok_bind]
  dsimp only
  rw [roots,acceptance.field (by decide),ok_bind,acceptance.roots_ct,acceptance.field (by decide)]
  simp only [ok_bind]

/-- The nested decode, of an acceptance that may have more behind it. -/
theorem logAcceptance_done (fine : ∀ screen ∈ acceptance.screens,screen.Fine) (more : List UInt8)
    {sz : Nat} (long : acceptance.size ≤ sz) (bound : sz < 2^64) :
    logAcceptance littleEndian byteswap (acceptance.encode ++ more) sz =
      .ok (acceptance.size,
        acceptance.screens.map fun screen => shownId littleEndian byteswap screen.header 0) := by
  obtain ⟨whole,total,small⟩ := acceptance.length
  obtain ⟨_,behind⟩ := acceptance.behind
  have screens := suffix_done (parseSCREEN_parses littleEndian byteswap)
    (acceptance.header ++ acceptance.vendor ++ encoding Format.bytes acceptance.formats) more
    acceptance.screens fine (by omega : _ ≤ sz) bound (by omega)
  rw [← acceptance.shape more] at screens
  have parsed : add64 (acceptance.header ++ acceptance.vendor ++
      encoding Format.bytes acceptance.formats).length
        (encoding Screen.encode acceptance.screens).length = acceptance.size := by
    rw [behind,add64_small (by omega)]
    omega
  have units : value littleEndian byteswap acceptance.header 6 2 =
      Alignment.units (sub64 acceptance.size 8) := by
    rw [Acceptance.size,sub64_small (by omega) (by unfold Acceptance.size at small; omega),
      Nat.add_sub_cancel_left,Alignment.units,
      Alignment.pad_small (by unfold Acceptance.size at small; omega)]
    omega
  rw [logAcceptance_screens acceptance more long bound,screens,ok_bind]
  dsimp only
  rw [parsed,assert,demand_true units,ok_bind,pure_ok]

/-- It succeeds for no other one. -/
theorem logAcceptance_fine (more : List UInt8) {sz : Nat} (long : acceptance.size ≤ sz)
    (bound : sz < 2^64) {result : Nat × List Nat}
    (done : logAcceptance littleEndian byteswap (acceptance.encode ++ more) sz = .ok result) :
    ∀ screen ∈ acceptance.screens,screen.Fine := by
  obtain ⟨whole,total,small⟩ := acceptance.length
  obtain ⟨_,behind⟩ := acceptance.behind
  rw [logAcceptance_screens acceptance more long bound] at done
  obtain ⟨roots,parsed,_⟩ := bind_success done
  by_contra bad
  rw [acceptance.shape more] at parsed
  exact suffix_stuck (parseSCREEN_parses littleEndian byteswap)
    (acceptance.header ++ acceptance.vendor ++ encoding Format.bytes acceptance.formats) more
    acceptance.screens bad (by omega : _ ≤ sz) bound (by omega) roots parsed

end acceptance

end parsed

end ConnectionSetup
end Xtracepp
