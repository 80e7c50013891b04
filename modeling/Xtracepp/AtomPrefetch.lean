import Xtracepp.Exchange

/-! Fetching the names of all atoms before the queue of clients is processed, and taking them
over into the table of the parser. The server answers each request with a response that
arrives in chunks.
-/
namespace Xtracepp
open Library Library.Outcome Library.Window Library.Framing

namespace AtomPrefetch
open Prequeue

/-- `protocol::atoms::predefined::strings` -/
def predefinedStrings : List String :=
  ["","PRIMARY","SECONDARY","ARC","ATOM","BITMAP","CARDINAL","COLORMAP","CURSOR","CUT_BUFFER0",
    "CUT_BUFFER1","CUT_BUFFER2","CUT_BUFFER3","CUT_BUFFER4","CUT_BUFFER5","CUT_BUFFER6","CUT_BUFFER7",
    "DRAWABLE","FONT","INTEGER","PIXMAP","POINT","RECTANGLE","RESOURCE_MANAGER","RGB_COLOR_MAP",
    "RGB_BEST_MAP","RGB_BLUE_MAP","RGB_DEFAULT_MAP","RGB_GRAY_MAP","RGB_GREEN_MAP","RGB_RED_MAP",
    "STRING","VISUALID","WINDOW","WM_COMMAND","WM_HINTS","WM_CLIENT_MACHINE","WM_ICON_NAME",
    "WM_ICON_SIZE","WM_NAME","WM_NORMAL_HINTS","WM_SIZE_HINTS","WM_ZOOM_HINTS","MIN_SPACE",
    "NORM_SPACE","MAX_SPACE","END_SPACE","SUPERSCRIPT_X","SUPERSCRIPT_Y","SUBSCRIPT_X","SUBSCRIPT_Y",
    "UNDERLINE_POSITION","UNDERLINE_THICKNESS","STRIKEOUT_ASCENT","STRIKEOUT_DESCENT","ITALIC_ANGLE",
    "X_HEIGHT","QUAD_WIDTH","WEIGHT","POINT_SIZE","RESOLUTION","COPYRIGHT","NOTICE","FONT_NAME",
    "FAMILY_NAME","FULL_NAME","CAP_HEIGHT","WM_CLASS","WM_TRANSIENT_FOR"]

def characters (text : String) : List UInt8 := text.toList.map fun char => UInt8.ofNat char.toNat

/-- `protocol::atoms::predefined::MAX` -/
def MAX : Nat := 68

/-- `_interned_atoms` as the constructor of the parser leaves it. -/
def predefined (atom : Nat) : Option (List UInt8) :=
  if 1 ≤ atom ∧ atom ≤ MAX then (predefinedStrings[atom]?).map characters else none

abbrev AtomTable := Nat → Option (List UInt8)

def emplace (table : AtomTable) (atom : Nat) (name : List UInt8) : AtomTable := fun other =>
  if other = atom then (table other).or (some name) else table other

/-- `importFetchedAtoms`, when only the predefined atoms are there. -/
def importFetchedAtoms (table : AtomTable) (fetched_atoms : List (List UInt8)) : AtomTable :=
  (List.range' (MAX + 1) (fetched_atoms.length % 2^32 - (MAX + 1))).foldl
    (fun table i => emplace table i (fetched_atoms.getD i [])) table

/-- `goto failure`, or that of a caller. -/
def exitOn : Option String → Checked Unit
  | none => return ()
  | some _ => .error .exited

section fetching

variable (littleEndian ndebug : Bool)

/-- The part of the loop that sends a GetAtomName request. -/
def sendGetAtomName (buffer : SocketBuffer) (atom_i : Nat) (exchange : Exchange) :
    Checked SocketBuffer := do
  let (buffer,_) ← buffer.load [17,0]
  let (buffer,_) ← buffer.load (stored littleEndian 2 2)
  let (buffer,_) ← buffer.load (stored littleEndian 4 atom_i)
  assert "buffer.size() == bytes_loaded" (buffer.size = 8)
  let buffer ← buffer.setMessageSize 8
  let buffer ← buffer.markMessageParsed
  let (buffer,writeError) ← polledWriteMessage ndebug buffer 8 exchange.polled exchange.sent
  exitOn writeError
  return buffer

/-- `response_sz` and `protocol_error`, from what the first read brought. -/
def measureResponse (buffer : SocketBuffer) (first_bytes_read : Nat) : Checked (Nat × Bool) := do
  assert "first_bytes_read >= sizeof( protocol::Response::Header )" (first_bytes_read ≥ 4)
  let first ← buffer.buffer.byte buffer.data
  if first = 0 then return (32,true)
  else do
    assert "header->prefix == protocol::requests::Reply::REPLY" (first = 1)
    assert "buffer.size() >= sizeof( GetAtomName::Reply::Header )" (buffer.size ≥ 8)
    let extra_aligned_units ← buffer.buffer.fetch (buffer.data + 4) 4
    return (32 + Alignment.size (loaded littleEndian extra_aligned_units),false)

/-- The rest of the response. Each result brings at least a byte, or else the loop in
`polledReadMessage` may not end. -/
def readResponse (buffer : SocketBuffer) (first_bytes_read response_sz : Nat) (exchange : Exchange) :
    Checked (Option SocketBuffer) := do
  let buffer ← buffer.setMessageSize response_sz
  match ← polledReadMessage buffer response_sz exchange.results 1 (response_sz + 1) with
  | none => return none
  | some read => do
    exitOn read.error
    assert "first_bytes_read + remaining_bytes_read == response_sz"
      (add64 first_bytes_read read.bytesRead = response_sz)
    return some read.buffer

/-- The code of an error. -/
def unloadError (buffer : SocketBuffer) : Checked UInt8 := do
  let (buffer,_,err_encoding) ← buffer.unloadTo 32
  assert "buffer.empty()" (buffer.empty = true)
  return err_encoding.getD 1 0

/-- The name in a reply, as a C string. -/
def unloadName (buffer : SocketBuffer) (atom_i : Nat) : Checked (SocketBuffer × List UInt8) := do
  let (buffer,_,rep_encoding) ← buffer.unloadTo 32
  let field := fun offset size => loaded littleEndian (slice rep_encoding offset size)
  assert "rep_encoding.header.reply == Reply::REPLY" (field 0 1 = 1)
  assert "rep_encoding.header.sequence_num == atom_i" (field 2 2 = atom_i)
  let name_len := field 8 2
  assert "extra_aligned_units == Align::units( Align::pad( rep_encoding.name_len ) )"
    (field 4 4 = Alignment.units (Alignment.pad name_len))
  assert "buffer.size() < STRINGBUF_SZ" (buffer.size < 1000)
  assert "buffer.size() == Align::pad( rep_encoding.name_len )" (buffer.size = Alignment.pad name_len)
  let (buffer,_,stringbuf) ← buffer.unloadTo buffer.size
  let name := (stringbuf.take name_len).takeWhile (· ≠ 0)
  assert "buffer.empty()" (buffer.empty = true)
  return (buffer,name)

inductive Answer
  | name (buffer : SocketBuffer) (name : List UInt8)
  | error (code : UInt8)

/-- One round of the loop over the atoms. -/
def fetchAtom (exchange : Exchange) (atom_i : Nat) (buffer : SocketBuffer) : Checked (Option Answer) := do
  let buffer ← sendGetAtomName littleEndian ndebug buffer atom_i exchange
  let (buffer,first_bytes_read,readError) ← polledRead buffer (exchange.results 0)
  exitOn readError
  let (response_sz,protocol_error) ← measureResponse littleEndian buffer first_bytes_read
  match ← readResponse buffer first_bytes_read response_sz exchange with
  | none => return none
  | some buffer =>
    if protocol_error then do return some (.error (← unloadError buffer))
    else do
      let (buffer,name) ← unloadName littleEndian buffer atom_i
      return some (.name buffer name)

/-- `protocol::errors::codes::ATOM` -/
def ATOM : UInt8 := 5

/-- The loop, for at most `fuel` atoms. Only an Atom error tells that all were fetched. -/
def fetchLoop (exchanges : Nat → Exchange) :
    Nat → Nat → SocketBuffer → List (List UInt8) → Checked (Option (List (List UInt8)))
  | 0,_,_,_ => return none
  | fuel + 1,atom_i,buffer,fetched_atoms => do
    match ← fetchAtom littleEndian ndebug (exchanges atom_i) atom_i buffer with
    | none => return none
    | some (.error code) => return some (if code ≠ ATOM then [] else fetched_atoms)
    | some (.name buffer name) =>
      fetchLoop exchanges fuel ((atom_i + 1) % 2^32) buffer (fetched_atoms ++ [name])

/-- `_fetchInternedAtoms`, once the server has accepted the connection. -/
def fetchInternedAtoms (exchanges : Nat → Exchange) (fuel : Nat) :
    Checked (Option (List (List UInt8))) :=
  fetchLoop littleEndian ndebug exchanges fuel 1 (SocketBuffer.initial 0) [[]]

end fetching

section buffers

variable {buffer : SocketBuffer} {bytes : List UInt8}

theorem sendGetAtomName_done (littleEndian ndebug : Bool) (ready : Ready buffer) (atom_i : Nat)
    {exchange : Exchange} (polled : exchange.polled = .ready false false false)
    (sent : exchange.sent = .sent 8) :
    ∃ after, sendGetAtomName littleEndian ndebug buffer atom_i exchange = .ok after ∧ Ready after := by
  obtain ⟨read,written⟩ := ready.holds.rewound
  have given {size value : Nat} (positive : 0 < size) : stored littleEndian size value ≠ [] :=
    List.length_pos_iff.mp (by rw [stored_length]; exact positive)
  obtain ⟨first,loaded₁,holds₁,unset₁,read₁,written₁⟩ := @load_done buffer [] ready.holds [17,0]
    (by simp) (by rw [read]; decide)
  obtain ⟨second,loaded₂,holds₂,unset₂,read₂,written₂⟩ := load_done holds₁
    (@given 2 2 (by decide)) (by rw [read₁,read,stored_length]; decide)
  obtain ⟨third,loaded₃,holds₃,unset₃,read₃,written₃⟩ := load_done holds₂
    (@given 4 atom_i (by decide)) (by rw [read₂,read₁,read,stored_length,stored_length]; decide)
  have length : ([] ++ [17,0] ++ stored littleEndian 2 2 ++ stored littleEndian 4 atom_i).length = 8 := by
    simp only [List.length_append,stored_length]
    rfl
  have size : third.size = 8 := holds₃.size.trans length
  have unset : third.nextMessageSz = SocketBuffer.unknownSz := by
    rw [unset₃,unset₂,unset₁,ready.unset]
  obtain ⟨named,sealed,after,setTo,parsed,written,done⟩ := sendAll_done ndebug holds₃ unset length
  refine ⟨after,?_,done⟩
  rw [sendGetAtomName,loaded₁,ok_bind]
  dsimp only
  rw [loaded₂,ok_bind]
  dsimp only
  rw [loaded₃,ok_bind]
  dsimp only
  rw [assert,demand_true size,ok_bind,setTo,ok_bind,parsed,ok_bind,polled,sent,written,ok_bind]
  dsimp only
  rw [exitOn,pure_ok,ok_bind,pure_ok]

theorem readResponse_done (holds : Holds buffer bytes)
    (unset : buffer.nextMessageSz = SocketBuffer.unknownSz) (unwritten : buffer.bytesWritten = 0)
    {later : List (List UInt8)} (nonempty : ∀ chunk ∈ later,chunk ≠ []) {exchange : Exchange}
    (results : exchange.results = arriving (bytes :: later)) {response_sz : Nat}
    (whole : bytes.length + later.flatten.length = response_sz) (modest : response_sz < 2^32) :
    ∃ after, readResponse buffer bytes.length response_sz exchange = .ok (some after) ∧
      Holds after (bytes ++ later.flatten) := by
  obtain ⟨named,read,sized,gathered,good,sum,after⟩ :=
    gather_done holds unset unwritten nonempty whole modest
  refine ⟨read.buffer,?_,after⟩
  rw [readResponse,sized,ok_bind,results,gathered,ok_bind]
  dsimp only
  rw [good,exitOn,pure_ok,ok_bind,assert,demand_true sum,ok_bind,pure_ok]

/-- The bytes of a name with the padding behind them. -/
def padded (name : List UInt8) : Nat := (name.length + 3) / 4 * 4

/-- The reply to the request for the name of an atom. -/
structure NameReply (littleEndian : Bool) (atom : Nat) (name response : List UInt8) : Prop where
  reply : response[0]? = some 1
  sequence_num : loaded littleEndian (slice response 2 2) = atom % 2^16
  extra_aligned_units : loaded littleEndian (slice response 4 4) = (name.length + 3) / 4
  name_len : loaded littleEndian (slice response 8 2) = name.length
  carried : slice response 32 name.length = name
  whole : response.length = 32 + padded name

/-- The error for an atom that does not exist. -/
structure AtomError (response : List UInt8) : Prop where
  error : response[0]? = some 0
  code : response[1]? = some ATOM
  whole : response.length = 32

theorem pad_eq (name : List UInt8) (modest : name.length < 2^16) :
    Alignment.pad name.length = padded name ∧
      Alignment.units (Alignment.pad name.length) = (name.length + 3) / 4 := by
  have pad : Alignment.pad name.length = padded name := by
    rw [Alignment.pad_small (by omega),padded]
    omega
  refine ⟨pad,?_⟩
  rw [Alignment.units,pad,padded,Alignment.pad_small (by omega)]
  omega

theorem measureResponse_short (littleEndian : Bool) {count : Nat} (short : count < 4) :
    ∃ fault, measureResponse littleEndian buffer count = .error fault := by
  rw [measureResponse,assert,demand_false (by omega)]
  exact ⟨_,rfl⟩

theorem measureResponse_error (littleEndian : Bool) (holds : Holds buffer bytes)
    (long : 4 ≤ bytes.length) (first : bytes.getD 0 0 = 0) :
    measureResponse littleEndian buffer bytes.length = .ok (32,true) := by
  rw [measureResponse,assert,demand_true long,ok_bind,holds.byte (by omega),first,ok_bind,if_pos rfl,
    pure_ok]

theorem measureResponse_reply (littleEndian : Bool) (holds : Holds buffer bytes)
    (long : 8 ≤ bytes.length) (first : bytes.getD 0 0 = 1) :
    measureResponse littleEndian buffer bytes.length =
      .ok (32 + Alignment.size (loaded littleEndian (slice bytes 4 4)),false) := by
  have enough : bytes.length ≥ 4 := by omega
  have size : buffer.size ≥ 8 := by
    rw [holds.size]
    exact long
  rw [measureResponse,assert,demand_true enough,ok_bind,holds.byte (by omega),first,ok_bind,
    if_neg (by decide),assert,demand_true rfl,ok_bind,assert,demand_true size,ok_bind,
    holds.fetch (by omega),ok_bind,pure_ok]

theorem measureResponse_cut (littleEndian : Bool) (holds : Holds buffer bytes)
    (cut : bytes.length < 8) (first : bytes.getD 0 0 = 1) :
    ∃ fault, measureResponse littleEndian buffer bytes.length = .error fault := by
  rcases Nat.lt_or_ge bytes.length 4 with short | long
  · exact measureResponse_short littleEndian short
  · have size : ¬buffer.size ≥ 8 := by
      rw [holds.size]
      omega
    rw [measureResponse,assert,demand_true long,ok_bind,holds.byte (by omega),first,ok_bind,
      if_neg (by decide),assert,demand_true rfl,ok_bind,assert,demand_false size,error_bind]
    exact ⟨_,rfl⟩

theorem unloadError_done (holds : Holds buffer bytes) (error : AtomError bytes) :
    unloadError buffer = .ok ATOM := by
  obtain ⟨after,unloaded,left,cleared⟩ := @unloadTo_done buffer bytes holds 32
    (Nat.le_of_eq error.whole.symm)
  have empty : after.empty = true := (cleared error.whole.symm).holds.nonempty.mpr rfl
  have code : (bytes.take 32).getD 1 0 = ATOM := by
    rw [← error.whole,List.take_length,List.getD_eq_getElem?_getD,error.code,Option.getD_some]
  rw [unloadError,unloaded,ok_bind]
  dsimp only
  rw [assert,demand_true empty,ok_bind,code,pure_ok]

theorem NameReply.fields {littleEndian : Bool} {atom : Nat} {name : List UInt8}
    (reply : NameReply littleEndian atom name bytes) :
    loaded littleEndian (slice (bytes.take 32) 0 1) = 1 ∧
      loaded littleEndian (slice (bytes.take 32) 2 2) = atom % 2^16 ∧
        loaded littleEndian (slice (bytes.take 32) 8 2) = name.length ∧
          loaded littleEndian (slice (bytes.take 32) 4 4) = (name.length + 3) / 4 := by
  refine ⟨?_,?_,?_,?_⟩
  · cases bytes with
    | nil => cases reply.reply
    | cons first rest =>
      obtain rfl : first = 1 := Option.some.inj reply.reply
      cases littleEndian <;> rfl
  · rw [slice_take (by decide),reply.sequence_num]
  · rw [slice_take (by decide),reply.name_len]
  · rw [slice_take (by decide),reply.extra_aligned_units]

theorem NameReply.short {littleEndian : Bool} {atom : Nat} {name : List UInt8}
    (reply : NameReply littleEndian atom name bytes) : name.length < 2^16 := by
  have bound := loaded_lt littleEndian (slice bytes 8 2)
  have size : (slice bytes 8 2).length ≤ 2 := by
    rw [slice,List.length_take]
    exact Nat.min_le_left _ _
  rw [reply.name_len] at bound
  exact Nat.lt_of_lt_of_le bound (Nat.pow_le_pow_right (by decide) size)

/-- What becomes of a name, as a C string. -/
def cString (name : List UInt8) : List UInt8 := name.takeWhile (· ≠ 0)

theorem unloadName_done {littleEndian : Bool} {atom : Nat} {name : List UInt8}
    (holds : Holds buffer bytes) (reply : NameReply littleEndian atom name bytes) :
    (atom < 2^16 ∧ padded name < 1000 ∧
        ∃ after, unloadName littleEndian buffer atom = .ok (after,cString name) ∧ Ready after) ∨
      ¬(atom < 2^16 ∧ padded name < 1000) ∧
        ∃ fault, unloadName littleEndian buffer atom = .error fault := by
  have whole := reply.whole
  obtain ⟨prefixed,sequence,length,units⟩ := reply.fields
  obtain ⟨pad,padUnits⟩ := pad_eq name reply.short
  obtain ⟨rest,unloaded,left,_⟩ := @unloadTo_done buffer bytes holds 32 (by omega)
  have size : rest.size = padded name := by
    rw [left.size,List.length_drop]
    omega
  have aligned : loaded littleEndian (slice (bytes.take 32) 4 4) =
      Alignment.units (Alignment.pad (loaded littleEndian (slice (bytes.take 32) 8 2))) := by
    rw [units,length,padUnits]
  have exactly : rest.size = Alignment.pad (loaded littleEndian (slice (bytes.take 32) 8 2)) := by
    rw [length,pad,size]
  rw [unloadName,unloaded,ok_bind]
  dsimp only
  rw [assert,demand_true prefixed,ok_bind]
  by_cases numbered : atom < 2^16
  · have same := sequence.trans (Nat.mod_eq_of_lt numbered)
    rw [assert,demand_true same,ok_bind,assert,demand_true aligned,ok_bind]
    by_cases fits : padded name < 1000
    · left
      have inside : rest.size < 1000 := by
        rw [size]
        exact fits
      have drained : rest.size = (bytes.drop 32).length := left.size
      obtain ⟨after,taken,_,cleared⟩ := @unloadTo_done rest (bytes.drop 32) left rest.size
        (Nat.le_of_eq drained)
      have ready := cleared drained
      have empty : after.empty = true := ready.holds.nonempty.mpr rfl
      have named : ((bytes.drop 32).take rest.size).take
          (loaded littleEndian (slice (bytes.take 32) 8 2)) = name := by
        rw [length,List.take_take,Nat.min_eq_left (by rw [size,padded]; omega)]
        exact reply.carried
      refine ⟨numbered,fits,after,?_,ready⟩
      rw [assert,demand_true inside,ok_bind,assert,demand_true exactly,ok_bind,taken,ok_bind]
      dsimp only
      rw [assert,demand_true empty,ok_bind,named,pure_ok,cString]
    · right
      have outside : ¬rest.size < 1000 := by
        rw [size]
        exact fits
      rw [assert,demand_false outside,error_bind]
      exact ⟨fun both => fits both.2,_,rfl⟩
  · right
    have other : ¬loaded littleEndian (slice (bytes.take 32) 2 2) = atom := by
      rw [sequence]
      omega
    rw [assert,demand_false other,error_bind]
    exact ⟨fun both => numbered both.1,_,rfl⟩

/-- The exchange that sends a request whole and brings a response in chunks. -/
def answered (chunks : List (List UInt8)) : Exchange :=
  ⟨.ready false false false,.sent 8,arriving chunks⟩

/-- What a reply takes to give a name. -/
structure Accepted (atom : Nat) (name first : List UInt8) : Prop where
  header : 8 ≤ first.length
  numbered : atom < 2^16
  fits : padded name < 1000

theorem fetchAtom_reply (littleEndian ndebug : Bool) (ready : Ready buffer) {atom : Nat}
    {name first : List UInt8} {later : List (List UInt8)}
    (nonempty : ∀ chunk ∈ first :: later,chunk ≠ [])
    (reply : NameReply littleEndian atom name (first :: later).flatten) :
    (Accepted atom name first ∧ ∃ after,
        fetchAtom littleEndian ndebug (answered (first :: later)) atom buffer =
          .ok (some (.name after (cString name))) ∧ Ready after) ∨
      ¬Accepted atom name first ∧ ∃ fault,
        fetchAtom littleEndian ndebug (answered (first :: later)) atom buffer = .error fault := by
  obtain ⟨given,others⟩ := List.forall_mem_cons.mp nonempty
  have positive : 0 < first.length := List.length_pos_iff.mpr given
  have whole := reply.whole
  have short := reply.short
  rw [List.flatten_cons] at reply whole
  have total := whole
  rw [List.length_append] at total
  have head := getD_append positive reply.reply
  obtain ⟨sent,requested,again⟩ := sendGetAtomName_done littleEndian ndebug ready atom
    (rfl : (answered (first :: later)).polled = _) rfl
  rw [fetchAtom,requested,ok_bind]
  rcases polledRead_chunk again later first with ⟨small,fault,failed⟩ | ⟨held,arrived,holds,unset,start⟩
  · right
    have block := again.holds.sound.block
    unfold SocketBuffer.blockSz at block
    refine ⟨fun accepted => ?_,fault,?_⟩
    · have fits := accepted.fits
      omega
    · rw [answered,failed,error_bind]
  · rw [answered,arrived,ok_bind]
    dsimp only
    rw [exitOn,pure_ok,ok_bind]
    rcases Nat.lt_or_ge first.length 8 with cut | long
    · right
      obtain ⟨fault,failed⟩ := measureResponse_cut littleEndian holds cut head
      rw [failed,error_bind]
      exact ⟨fun accepted => Nat.not_lt.mpr accepted.header cut,fault,rfl⟩
    · have units := reply.extra_aligned_units
      rw [Library.Framing.slice_append first _ 4 4 long] at units
      have size : 32 + Alignment.size (loaded littleEndian (slice first 4 4)) =
          (first ++ later.flatten).length := by
        rw [units,Alignment.size_small (by omega),whole,padded]
      obtain ⟨after,gathered,filled⟩ := @readResponse_done held first holds unset start later others
        (answered (first :: later)) rfl (first ++ later.flatten).length (List.length_append ..).symm
        (by rw [whole,padded]; omega)
      rw [answered] at gathered
      rw [measureResponse_reply littleEndian holds long head,ok_bind,size]
      dsimp only
      rw [gathered,ok_bind]
      dsimp only
      rw [if_neg (by decide)]
      rcases unloadName_done filled reply with ⟨numbered,fits,last,named,done⟩ | ⟨refused,fault,failed⟩
      · left
        refine ⟨⟨long,numbered,fits⟩,last,?_,done⟩
        rw [named,ok_bind,pure_ok]
      · right
        rw [failed,error_bind]
        exact ⟨fun accepted => refused ⟨accepted.numbered,accepted.fits⟩,fault,rfl⟩

theorem fetchAtom_error (littleEndian ndebug : Bool) (ready : Ready buffer) (atom : Nat)
    {first : List UInt8} {later : List (List UInt8)}
    (nonempty : ∀ chunk ∈ first :: later,chunk ≠ []) (error : AtomError (first :: later).flatten) :
    (4 ≤ first.length ∧
        fetchAtom littleEndian ndebug (answered (first :: later)) atom buffer =
          .ok (some (.error ATOM))) ∨
      first.length < 4 ∧ ∃ fault,
        fetchAtom littleEndian ndebug (answered (first :: later)) atom buffer = .error fault := by
  obtain ⟨given,others⟩ := List.forall_mem_cons.mp nonempty
  have positive : 0 < first.length := List.length_pos_iff.mpr given
  rw [List.flatten_cons] at error
  have whole := error.whole
  rw [List.length_append] at whole
  have head := getD_append positive error.error
  obtain ⟨sent,requested,again⟩ := sendGetAtomName_done littleEndian ndebug ready atom
    (rfl : (answered (first :: later)).polled = _) rfl
  rw [fetchAtom,requested,ok_bind]
  rcases polledRead_chunk again later first with ⟨small,_⟩ | ⟨held,arrived,holds,unset,start⟩
  · have block := again.holds.sound.block
    unfold SocketBuffer.blockSz at block
    omega
  · rw [answered,arrived,ok_bind]
    dsimp only
    rw [exitOn,pure_ok,ok_bind]
    rcases Nat.lt_or_ge first.length 4 with cut | long
    · right
      obtain ⟨fault,failed⟩ := @measureResponse_short held littleEndian first.length cut
      rw [failed,error_bind]
      exact ⟨cut,fault,rfl⟩
    · left
      obtain ⟨after,gathered,filled⟩ := @readResponse_done held first holds unset start later others
        (answered (first :: later)) rfl 32 whole (by decide)
      rw [answered] at gathered
      rw [measureResponse_error littleEndian holds long head,ok_bind]
      dsimp only
      rw [gathered,ok_bind]
      dsimp only
      rw [if_pos rfl,unloadError_done filled error,ok_bind,pure_ok]
      exact ⟨long,rfl⟩

end buffers

/-- A server that has interned the names under the numbers from 1 on, and whose responses
arrive in chunks. -/
structure Server (littleEndian : Bool) (names : List (List UInt8)) (chunks : Nat → List (List UInt8)) :
    Prop where
  replies : ∀ i name,names[i]? = some name →
    NameReply littleEndian (i + 1) name (chunks (i + 1)).flatten
  last : AtomError (chunks (names.length + 1)).flatten
  chunked : ∀ atom,∀ chunk ∈ chunks atom,chunk ≠ []

/-- The chunk that the first read for an atom takes. -/
def firstChunk (chunks : Nat → List (List UInt8)) (atom : Nat) : List UInt8 := (chunks atom).headD []

section loop

variable {littleEndian : Bool} {names : List (List UInt8)} {chunks : Nat → List (List UInt8)}

theorem Server.split (server : Server littleEndian names chunks) {atom : Nat}
    (brings : (chunks atom).flatten ≠ []) :
    ∃ later, chunks atom = firstChunk chunks atom :: later ∧
      ∀ chunk ∈ firstChunk chunks atom :: later,chunk ≠ [] := by
  cases given : chunks atom with
  | nil => simp [given] at brings
  | cons first later =>
    refine ⟨later,by rw [firstChunk,given,List.headD_cons],?_⟩
    rw [firstChunk,given,List.headD_cons,← given]
    exact server.chunked atom

theorem Server.round_name (server : Server littleEndian names chunks) (ndebug : Bool)
    {buffer : SocketBuffer} (ready : Ready buffer) {i : Nat} {name : List UInt8}
    (named : names[i]? = some name) :
    (Accepted (i + 1) name (firstChunk chunks (i + 1)) ∧ ∃ after,
        fetchAtom littleEndian ndebug (answered (chunks (i + 1))) (i + 1) buffer =
          .ok (some (.name after (cString name))) ∧ Ready after) ∨
      ¬Accepted (i + 1) name (firstChunk chunks (i + 1)) ∧ ∃ fault,
        fetchAtom littleEndian ndebug (answered (chunks (i + 1))) (i + 1) buffer = .error fault := by
  have reply := server.replies i name named
  have brings : (chunks (i + 1)).flatten ≠ [] := by
    intro empty
    have first := reply.reply
    rw [empty] at first
    cases first
  obtain ⟨later,shape,nonempty⟩ := server.split brings
  rw [shape] at reply ⊢
  exact fetchAtom_reply littleEndian ndebug ready nonempty reply

theorem Server.round_last (server : Server littleEndian names chunks) (ndebug : Bool)
    {buffer : SocketBuffer} (ready : Ready buffer) :
    (4 ≤ (firstChunk chunks (names.length + 1)).length ∧
        fetchAtom littleEndian ndebug (answered (chunks (names.length + 1))) (names.length + 1) buffer =
          .ok (some (.error ATOM))) ∨
      (firstChunk chunks (names.length + 1)).length < 4 ∧ ∃ fault,
        fetchAtom littleEndian ndebug (answered (chunks (names.length + 1))) (names.length + 1) buffer =
          .error fault := by
  have error := server.last
  have brings : (chunks (names.length + 1)).flatten ≠ [] := by
    intro empty
    have first := error.error
    rw [empty] at first
    cases first
  obtain ⟨later,shape,nonempty⟩ := server.split brings
  rw [shape] at error ⊢
  exact fetchAtom_error littleEndian ndebug ready _ nonempty error

theorem Server.loop_ends (server : Server littleEndian names chunks) (ndebug : Bool)
    (last : 4 ≤ (firstChunk chunks (names.length + 1)).length) (rest : List (List UInt8)) :
    ∀ (known : List (List UInt8)) {buffer : SocketBuffer} (fetched : List (List UInt8)),
      Ready buffer → names = known ++ rest →
        (∀ i name,names[i]? = some name → Accepted (i + 1) name (firstChunk chunks (i + 1))) →
          fetchLoop littleEndian ndebug (fun atom => answered (chunks atom)) (rest.length + 1)
            (known.length + 1) buffer fetched = .ok (some (fetched ++ rest.map cString)) := by
  induction rest with
  | nil =>
    intro known buffer fetched ready all accepted
    rw [List.append_nil] at all
    rcases server.round_last ndebug ready with ⟨_,ended⟩ | ⟨short,_⟩
    · rw [← all,List.map_nil,List.append_nil,fetchLoop,ended,ok_bind]
      rfl
    · omega
  | cons name rest ih =>
    intro known buffer fetched ready all accepted
    have named : names[known.length]? = some name := by
      rw [all]
      simp
    rcases server.round_name ndebug ready named with ⟨good,after,fetch,again⟩ | ⟨refused,_⟩
    · have next : (known.length + 1 + 1) % 2^32 = known.length + 1 + 1 := by
        have numbered := good.numbered
        omega
      have later := ih (known ++ [name]) (fetched ++ [cString name]) again (by simp [all]) accepted
      rw [List.length_append,List.length_singleton,List.append_assoc,List.singleton_append] at later
      rw [List.length_cons,fetchLoop,fetch,ok_bind,List.map_cons]
      dsimp only
      rw [next]
      exact later
    · exact absurd (accepted _ _ named) refused

theorem Server.loop_ended (server : Server littleEndian names chunks) (ndebug : Bool)
    (rest : List (List UInt8)) :
    ∀ (known : List (List UInt8)) {buffer : SocketBuffer} (fetched : List (List UInt8)) {fuel : Nat}
      {result : List (List UInt8)},Ready buffer → names = known ++ rest →
        fetchLoop littleEndian ndebug (fun atom => answered (chunks atom)) fuel (known.length + 1) buffer
            fetched = .ok (some result) →
          result = fetched ++ rest.map cString ∧
            4 ≤ (firstChunk chunks (names.length + 1)).length ∧
              ∀ i name,known.length ≤ i → names[i]? = some name →
                Accepted (i + 1) name (firstChunk chunks (i + 1)) := by
  induction rest with
  | nil =>
    intro known buffer fetched fuel result ready all done
    rw [List.append_nil] at all
    rw [← all] at done ⊢
    cases fuel with
    | zero => cases done
    | succ fuel =>
      rw [fetchLoop] at done
      rcases server.round_last ndebug ready with ⟨long,ended⟩ | ⟨short,fault,failed⟩
      · rw [ended,ok_bind] at done
        cases done
        refine ⟨(List.append_nil _).symm,long,fun i name later named => ?_⟩
        rw [List.getElem?_eq_none later] at named
        cases named
      · rw [failed,error_bind] at done
        cases done
  | cons name rest ih =>
    intro known buffer fetched fuel result ready all done
    have named : names[known.length]? = some name := by
      rw [all]
      simp
    cases fuel with
    | zero => cases done
    | succ fuel =>
      rw [fetchLoop] at done
      rcases server.round_name ndebug ready named with ⟨good,after,fetch,again⟩ | ⟨_,fault,failed⟩
      · have next : (known.length + 1 + 1) % 2^32 = known.length + 1 + 1 := by
          have numbered := good.numbered
          omega
        rw [fetch,ok_bind] at done
        dsimp only at done
        rw [next] at done
        obtain ⟨gathered,long,others⟩ := ih (known ++ [name]) (fetched ++ [cString name]) again
          (by simp [all]) (by rw [List.length_append]; exact done)
        refine ⟨?_,long,fun i other later given => ?_⟩
        · rw [gathered,List.map_cons,List.append_assoc,List.singleton_append]
        · rcases Nat.eq_or_lt_of_le later with rfl | beyond
          · obtain rfl : name = other := Option.some.inj (named.symm.trans given)
            exact good
          · exact others i other (by rw [List.length_append]; exact beyond) given
      · rw [failed,error_bind] at done
        cases done

end loop

theorem cString_eq {name : List UInt8} : cString name = name ↔ 0 ∉ name := by
  rw [cString,List.takeWhile_eq_self_iff]
  constructor
  · intro plain inside
    simpa using plain 0 inside
  · intro plain byte inside
    rw [decide_eq_true_eq]
    rintro rfl
    exact plain inside

theorem map_cString {names : List (List UInt8)} : names.map cString = names ↔ ∀ name ∈ names,0 ∉ name := by
  induction names with
  | nil => simp
  | cons name names ih => rw [List.map_cons,List.cons.injEq,cString_eq,ih,List.forall_mem_cons]

theorem foldl_emplace (entry : Nat → List UInt8) (atom : Nat) (atoms : List Nat) :
    ∀ table : AtomTable,atoms.foldl (fun table i => emplace table i (entry i)) table atom =
      if atom ∈ atoms then (table atom).or (some (entry atom)) else table atom := by
  induction atoms with
  | nil => simp
  | cons other atoms ih =>
    intro table
    rw [List.foldl_cons,ih,emplace]
    by_cases same : atom = other
    · subst same
      by_cases again : atom ∈ atoms <;> simp [again]
    · simp [same]

theorem importFetchedAtoms_spec (fetched_atoms : List (List UInt8)) (table : AtomTable) (atom : Nat)
    (small : fetched_atoms.length < 2^32) :
    importFetchedAtoms table fetched_atoms atom =
      if MAX < atom ∧ atom < fetched_atoms.length
      then (table atom).or (some (fetched_atoms.getD atom [])) else table atom := by
  rw [importFetchedAtoms,Nat.mod_eq_of_lt small,foldl_emplace (fun i => fetched_atoms.getD i [])]
  refine if_congr ?_ rfl rfl
  rw [List.mem_range'_1]
  omega

/-- What the server has to keep to. -/
structure Fetchable (names : List (List UInt8)) (chunks : Nat → List (List UInt8)) : Prop where
  numbered : names.length ≤ 65535
  plain : ∀ name ∈ names,0 ∉ name ∧ padded name < 1000
  headers : ∀ i < names.length,8 ≤ (firstChunk chunks (i + 1)).length
  error : 4 ≤ (firstChunk chunks (names.length + 1)).length
  core : ∀ i < names.length,i < MAX → predefined (i + 1) = names[i]?

theorem imported_name {names : List (List UInt8)} (small : names.length ≤ 65535) {i : Nat}
    (inside : i < names.length) :
    importFetchedAtoms predefined ([] :: names) (i + 1) =
      if i < MAX then predefined (i + 1) else names[i]? := by
  have size : ([] :: names).length = names.length + 1 := List.length_cons
  rw [importFetchedAtoms_spec _ _ _ (by rw [size]; omega)]
  by_cases core : i < MAX
  · rw [if_pos core,if_neg (by omega)]
  · have absent : predefined (i + 1) = none := by
      rw [predefined,if_neg (by omega)]
    rw [if_neg core,if_pos (by rw [size]; omega),absent,Option.none_or,List.getD_cons_succ,
      List.getD_eq_getElem _ _ inside,List.getElem?_eq_getElem inside]

/-- The loop mirrors the server exactly when it has at most 65535 atoms, their names are plain
and short, the first read of each response brings its header, and the predefined atoms have
their usual names. -/
theorem fetchInternedAtoms_mirrors {littleEndian : Bool} {names : List (List UInt8)}
    {chunks : Nat → List (List UInt8)} (server : Server littleEndian names chunks) (ndebug : Bool) :
    (∃ fuel fetched_atoms,
      fetchInternedAtoms littleEndian ndebug (fun atom => answered (chunks atom)) fuel =
        .ok (some fetched_atoms) ∧ fetched_atoms.length = names.length + 1 ∧
          ∀ i < names.length,fetched_atoms[i + 1]? = names[i]? ∧
            importFetchedAtoms predefined fetched_atoms (i + 1) = names[i]?) ↔
      Fetchable names chunks := by
  constructor
  · rintro ⟨fuel,fetched_atoms,done,count,mirrored⟩
    obtain ⟨gathered,error,accepted⟩ := server.loop_ended ndebug names [] [[]] initial_ready rfl done
    rw [List.singleton_append] at gathered
    have names_eq : names.map cString = names := by
      apply List.ext_getElem?
      intro i
      rcases Nat.lt_or_ge i names.length with inside | outside
      · have same := (mirrored i inside).1
        rwa [gathered,List.getElem?_cons_succ] at same
      · rw [List.getElem?_eq_none outside,List.getElem?_eq_none (by rwa [List.length_map])]
    have every {i : Nat} (inside : i < names.length) :
        Accepted (i + 1) names[i] (firstChunk chunks (i + 1)) :=
      accepted i _ (Nat.zero_le _) (List.getElem?_eq_getElem inside)
    have small : names.length ≤ 65535 := by
      rcases Nat.eq_zero_or_pos names.length with nothing | positive
      · omega
      · have numbered := (@every (names.length - 1) (by omega)).numbered
        omega
    rw [names_eq] at gathered
    refine ⟨small,fun name member => ?_,fun i inside => (every inside).header,error,
      fun i inside core => ?_⟩
    · obtain ⟨i,inside,rfl⟩ := List.getElem_of_mem member
      exact ⟨map_cString.mp names_eq _ member,(every inside).fits⟩
    · have same := (mirrored i inside).2
      rwa [gathered,imported_name small inside,if_pos core] at same
  · intro fetchable
    have accepted : ∀ i name,names[i]? = some name →
        Accepted (i + 1) name (firstChunk chunks (i + 1)) := by
      intro i name named
      obtain ⟨inside,rfl⟩ := List.getElem?_eq_some_iff.mp named
      have numbered := fetchable.numbered
      exact ⟨fetchable.headers i inside,by omega,
        (fetchable.plain _ (List.getElem_mem inside)).2⟩
    have done := server.loop_ends ndebug fetchable.error names [] [[]] initial_ready rfl accepted
    have plain : names.map cString = names :=
      map_cString.mpr fun name member => (fetchable.plain name member).1
    rw [List.singleton_append,plain] at done
    refine ⟨names.length + 1,[] :: names,done,List.length_cons,fun i inside => ⟨?_,?_⟩⟩
    · rw [List.getElem?_cons_succ]
    · rw [imported_name fetchable.numbered inside]
      by_cases core : i < MAX
      · rw [if_pos core,fetchable.core i inside core]
      · rw [if_neg core]

/-- The reply for the atom PRIMARY, of 40 bytes, and the error for the next one. -/
def primaryReply : List UInt8 :=
  [1,0,1,0,2,0,0,0,7,0,0,0,0,0,0,0,0,0,0,0,0,0,0,0,0,0,0,0,0,0,0,0,80,82,73,77,65,82,89,0]

def nextError : List UInt8 :=
  [0,5,2,0,2,0,0,0,0,0,17,0,0,0,0,0,0,0,0,0,0,0,0,0,0,0,0,0,0,0,0,0]

/-- The reply comes in two chunks, the first of the given size. -/
def cutAt (size atom : Nat) : List (List UInt8) :=
  if atom = 1 then [primaryReply.take size,primaryReply.drop size]
  else if atom = 2 then [nextError] else []

theorem cutAt_server {size : Nat} (positive : 0 < size) (inside : size < 40) :
    Server true [[80,82,73,77,65,82,89]] (cutAt size) where
  replies := by
    intro i name named
    obtain ⟨first,rfl⟩ := List.getElem?_eq_some_iff.mp named
    obtain rfl : i = 0 := by simpa using first
    have joined : (cutAt size (0 + 1)).flatten = primaryReply := by
      rw [cutAt,if_pos rfl,List.flatten_cons,List.flatten_cons,List.flatten_nil,List.append_nil,
        List.take_append_drop]
    rw [joined]
    change NameReply true 1 [80,82,73,77,65,82,89] primaryReply
    exact ⟨by decide,by decide,by decide,by decide,by decide,by decide⟩
  last := ⟨rfl,rfl,rfl⟩
  chunked := by
    have length : primaryReply.length = 40 := rfl
    intro atom chunk member
    rw [← List.length_pos_iff]
    unfold cutAt at member
    split at member
    · simp only [List.mem_cons,List.not_mem_nil,or_false] at member
      rcases member with rfl | rfl
      · rw [List.length_take]
        omega
      · rw [List.length_drop]
        omega
    · split at member
      · obtain rfl := List.mem_singleton.mp member
        decide
      · cases member

/-- One atom, with twelve bytes of the reply in the first chunk. -/
theorem fetchInternedAtoms_mirrors_primary :
    Server true [[80,82,73,77,65,82,89]] (cutAt 12) ∧
      ∃ fuel fetched_atoms,
        fetchInternedAtoms true false (fun atom => answered (cutAt 12 atom)) fuel =
          .ok (some fetched_atoms) ∧ fetched_atoms.length = [[80,82,73,77,65,82,89]].length + 1 ∧
            ∀ i < [[80,82,73,77,65,82,89]].length,
              fetched_atoms[i + 1]? = [[80,82,73,77,65,82,89]][i]? ∧
                importFetchedAtoms predefined fetched_atoms (i + 1) = [[80,82,73,77,65,82,89]][i]? := by
  have server := @cutAt_server 12 (by decide) (by decide)
  refine ⟨server,(fetchInternedAtoms_mirrors server false).mpr ⟨by decide,by decide,?_,by decide,?_⟩⟩
  · intro i inside
    obtain rfl : i = 0 := by simpa using inside
    decide
  · intro i inside _
    obtain rfl : i = 0 := by simpa using inside
    rfl

/-- With four of them there, the process ends at an assertion. -/
theorem fetchInternedAtoms_cut :
    ¬∀ (littleEndian ndebug : Bool) (names : List (List UInt8)) (chunks : Nat → List (List UInt8)),
      Server littleEndian names chunks → ∃ fuel fetched_atoms,
        fetchInternedAtoms littleEndian ndebug (fun atom => answered (chunks atom)) fuel =
          .ok (some fetched_atoms) ∧ fetched_atoms.length = names.length + 1 ∧
            ∀ i < names.length,fetched_atoms[i + 1]? = names[i]? ∧
              importFetchedAtoms predefined fetched_atoms (i + 1) = names[i]? := by
  intro mirrors
  have server := @cutAt_server 4 (by decide) (by decide)
  obtain ⟨fuel,fetched_atoms,done,_⟩ := mirrors true false _ _ server
  obtain ⟨_,_,accepted⟩ := server.loop_ended false _ [] [[]] initial_ready rfl done
  have header := (accepted 0 _ (Nat.le_refl _) rfl).header
  exact absurd header (by decide)

end AtomPrefetch
end Xtracepp
