import Xtracepp.Exchange
import Xtracepp.ConnectionSetup

/-! The second decoder of an Acceptance: before the queue of clients is processed, the server is
asked on a connection of its own, and what it answers is skipped up to the first SCREEN.
-/
namespace Xtracepp
open Library.Outcome Library.Framing

namespace Authentication
open Prequeue ConnectionSetup ListParsing

def AUTH_NAME : List UInt8 := [77,73,84,45,77,65,71,73,67,45,67,79,79,75,73,69,45,49]

/-- `Initiation::Header`. -/
def initHeader (littleEndian : Bool) : List UInt8 :=
  [if littleEndian then 0x6C else 0x42,0] ++ stored littleEndian 2 11 ++ stored littleEndian 2 0 ++
    stored littleEndian 2 18 ++ stored littleEndian 2 16 ++ [0,0]

inductive Authenticated
  /-- The loop in `polledReadMessage` needs more rounds. -/
  | unfinished
  | refused
  | accepted (screen0_root : Nat)
  deriving DecidableEq, Repr

section decoding

variable (littleEndian ndebug : Bool)

/-- The Initiation, with the bytes that the padding of the name takes from behind it. -/
def sendInitiation (junk : Vector UInt8 2) (auth_data : Vector UInt8 16) (exchange : Exchange) :
    Checked (SocketBuffer × Option String) := do
  let buffer := SocketBuffer.initial 0
  let (buffer,_) ← buffer.load (initHeader littleEndian)
  let (buffer,_) ← buffer.load (AUTH_NAME ++ junk.toList)
  let (buffer,_) ← buffer.load auth_data.toList
  assert "buffer.size() == bytes_loaded" (buffer.size = 48)
  let buffer ← buffer.setMessageSize 48
  let buffer ← buffer.markMessageParsed
  polledWriteMessage ndebug buffer 48 exchange.polled exchange.sent

/-- The size of the Acceptance from its header, if it is one of the right version. -/
def measureAcceptance (buffer : SocketBuffer) (first_bytes_read : Nat) : Checked (Option Nat) := do
  assert "first_bytes_read >= sizeof( Acceptance::Header )" (8 ≤ first_bytes_read)
  let success ← buffer.buffer.fetch buffer.data 1
  let major ← buffer.buffer.fetch (buffer.data + 2) 2
  let minor ← buffer.buffer.fetch (buffer.data + 4) 2
  let following_aligned_units ← buffer.buffer.fetch (buffer.data + 6) 2
  if loaded littleEndian success ≠ 1 ∨ loaded littleEndian major ≠ 11 ∨ loaded littleEndian minor ≠ 0 then
    return none
  else return some (add64 8 (Alignment.size (loaded littleEndian following_aligned_units)))

/-- The walk through the message to the root window of the first SCREEN. -/
def unloadRoot (buffer : SocketBuffer) : Checked Nat := do
  let (buffer,_) ← buffer.unload 8
  let (buffer,_,accept_encoding) ← buffer.unloadTo 32
  let field := fun offset size => loaded littleEndian (slice accept_encoding offset size)
  let (buffer,_) ← buffer.unload (Alignment.pad (field 16 2))
  let (buffer,_) ← buffer.unload (field 21 1 * 8)
  assert "accept_encoding.roots_ct >= 1" (1 ≤ field 20 1)
  let (_,_,screen_header) ← buffer.unloadTo 40
  return loaded littleEndian (slice screen_header 0 4)

/-- What is received for the Initiation. Each result brings at least a byte, or else the loop
in `polledReadMessage` may not end. -/
def receiveAcceptance (buffer : SocketBuffer) (exchange : Exchange) : Checked Authenticated := do
  let (buffer,first_bytes_read,readError) ← polledRead buffer (exchange.results 0)
  match readError with
  | some _ => return .refused
  | none =>
    match ← measureAcceptance littleEndian buffer first_bytes_read with
    | none => return .refused
    | some acceptance_sz => do
      let buffer ← buffer.setMessageSize acceptance_sz
      match ← polledReadMessage buffer acceptance_sz exchange.results 1 (acceptance_sz + 1) with
      | none => return .unfinished
      | some read =>
        match read.error with
        | some _ => return .refused
        | none => do
          assert "first_bytes_read + remaining_bytes_read == acceptance_sz"
            (add64 first_bytes_read read.bytesRead = acceptance_sz)
          return .accepted (← unloadRoot littleEndian read.buffer)

def authenticateServerConnection (junk : Vector UInt8 2) (auth_data : Vector UInt8 16)
    (exchange : Exchange) : Checked Authenticated := do
  let (buffer,writeError) ← sendInitiation littleEndian ndebug junk auth_data exchange
  match writeError with
  | some _ => return .refused
  | none => receiveAcceptance littleEndian buffer exchange

end decoding

section facts

variable {littleEndian : Bool} {buffer : SocketBuffer} {bytes : List UInt8}

theorem initHeader_length (littleEndian : Bool) : (initHeader littleEndian).length = 12 := by
  cases littleEndian <;> rfl

theorem sendInitiation_done (littleEndian ndebug : Bool) (junk : Vector UInt8 2)
    (auth_data : Vector UInt8 16) {exchange : Exchange}
    (polled : exchange.polled = .ready false false false) (sent : exchange.sent = .sent 48) :
    ∃ after,sendInitiation littleEndian ndebug junk auth_data exchange = .ok (after,none) ∧ Ready after := by
  have ready := initial_ready
  obtain ⟨read,_⟩ := ready.holds.rewound
  have header := initHeader_length littleEndian
  have named : (AUTH_NAME ++ junk.toList).length = 20 := by
    rw [List.length_append,Vector.length_toList]
    rfl
  have data : auth_data.toList.length = 16 := Vector.length_toList
  obtain ⟨first,loaded₁,holds₁,unset₁,read₁,_⟩ := load_done ready.holds
    (List.length_pos_iff.mp (by rw [header]; decide)) (by rw [read,header]; decide)
  obtain ⟨second,loaded₂,holds₂,unset₂,read₂,_⟩ := load_done holds₁
    (List.length_pos_iff.mp (by rw [named]; decide)) (by rw [read₁,read,header,named]; decide)
  obtain ⟨third,loaded₃,holds₃,unset₃,_,_⟩ := load_done holds₂
    (List.length_pos_iff.mp (by rw [data]; decide)) (by rw [read₂,read₁,read,header,named,data]; decide)
  have length : ([] ++ initHeader littleEndian ++ (AUTH_NAME ++ junk.toList) ++
      auth_data.toList).length = 48 := by
    rw [List.nil_append,List.length_append,List.length_append,header,named,data]
  have size : third.size = 48 := holds₃.size.trans length
  have unset : third.nextMessageSz = SocketBuffer.unknownSz := by
    rw [unset₃,unset₂,unset₁,ready.unset]
  obtain ⟨sized,sealed,after,setTo,parsed,written,done⟩ := sendAll_done ndebug holds₃ unset length
  refine ⟨after,?_,done⟩
  rw [sendInitiation]
  dsimp only
  rw [loaded₁,ok_bind]
  dsimp only
  rw [loaded₂,ok_bind]
  dsimp only
  rw [loaded₃,ok_bind]
  dsimp only
  rw [assert,demand_true size,ok_bind,setTo,ok_bind,parsed,ok_bind,polled,sent,written]

theorem formats_length (formats : List Format) :
    (encoding Format.bytes formats).length = formats.length * 8 := by
  induction formats with
  | nil => rfl
  | cons format formats ih =>
    rw [encoding_cons,List.length_append,ih,format.sized,List.length_cons,Nat.succ_mul,Nat.add_comm]

variable {acceptance : Acceptance littleEndian false}

theorem header_slice {start count : Nat} (inside : start + count ≤ 40) :
    slice acceptance.encode start count = slice acceptance.header start count := by
  have width := acceptance.sized
  rw [Acceptance.encode,slice_append _ _ _ _ (by omega)]

theorem measureAcceptance_done {rest : List UInt8} (holds : Holds buffer bytes)
    (long : 8 ≤ bytes.length) (whole : bytes ++ rest = acceptance.encode) :
    measureAcceptance littleEndian buffer bytes.length = .ok (some acceptance.size) := by
  have front {start count : Nat} (inside : start + count ≤ 8) :
      buffer.buffer.fetch (buffer.data + start) count = .ok (slice acceptance.header start count) := by
    rw [holds.fetch (by omega),← slice_append bytes rest _ _ (by omega),whole,header_slice (by omega)]
  have zeroth := @front 0 1 (by decide)
  rw [Nat.add_zero] at zeroth
  have version : ¬(loaded littleEndian (slice acceptance.header 0 1) ≠ 1 ∨
      loaded littleEndian (slice acceptance.header 2 2) ≠ 11 ∨
        loaded littleEndian (slice acceptance.header 4 2) ≠ 0) := by
    have success : loaded littleEndian (slice acceptance.header 0 1) = 1 := acceptance.success
    have major : loaded littleEndian (slice acceptance.header 2 2) = 11 :=
      acceptance.protocol_major_version
    have minor : loaded littleEndian (slice acceptance.header 4 2) = 0 :=
      acceptance.protocol_minor_version
    rw [success,major,minor]
    decide
  obtain ⟨_,_,small⟩ := acceptance.length
  have size : add64 8 (Alignment.size (loaded littleEndian (slice acceptance.header 6 2))) =
      acceptance.size := by
    change add64 8 (Alignment.size (value littleEndian false acceptance.header 6 2)) = acceptance.size
    unfold Acceptance.size at small ⊢
    rw [Alignment.size_small (by omega),add64_small (by omega)]
  rw [measureAcceptance,assert,demand_true long,ok_bind,zeroth,ok_bind,front (by decide),ok_bind,
    front (by decide),ok_bind,front (by decide),ok_bind,if_neg version,size,pure_ok]

theorem unloadRoot_done (holds : Holds buffer acceptance.encode)
    {screen : Screen littleEndian false} {others : List (Screen littleEndian false)}
    (screens : acceptance.screens = screen :: others) :
    unloadRoot littleEndian buffer = .ok (loaded littleEndian (slice screen.header 0 4)) := by
  obtain ⟨whole,total,small⟩ := acceptance.length
  have width := acceptance.sized
  have formats := formats_length acceptance.formats
  obtain ⟨long,_⟩ := screen.length_le
  have rest : (encoding Screen.encode acceptance.screens).length = screen.encode.length +
      (encoding Screen.encode others).length := by
    rw [screens,encoding_cons,List.length_append]
  have field {start count : Nat} (inside : start + count ≤ 32) :
      slice ((acceptance.encode.drop 8).take 32) start count =
        slice acceptance.header (8 + start) count := by
    rw [slice_take inside,slice,List.drop_drop,← slice,header_slice (by omega)]
  obtain ⟨second,skipped,holds₂⟩ := @unload_done buffer acceptance.encode holds 8 (by omega)
  obtain ⟨third,unloaded,holds₃,_⟩ := @unloadTo_done second _ holds₂ 32
    (by rw [List.length_drop]; omega)
  have behind : (acceptance.encode.drop 8).drop 32 = acceptance.suffix := by
    rw [List.drop_drop,Acceptance.encode]
    exact List.drop_left' width
  rw [behind,Acceptance.suffix,List.append_assoc] at holds₃
  obtain ⟨fourth,skippedVendor,holds₄⟩ := @unload_done third _ holds₃ acceptance.vendor.length
    (by rw [List.length_append]; omega)
  rw [List.drop_left] at holds₄
  obtain ⟨fifth,skippedFormats,holds₅⟩ := @unload_done fourth _ holds₄
    (encoding Format.bytes acceptance.formats).length (by rw [List.length_append]; omega)
  rw [List.drop_left,screens,encoding_cons,Screen.encode,List.append_assoc] at holds₅
  have forty := screen.sized
  obtain ⟨last,taken,_⟩ := @unloadTo_done fifth _ holds₅ 40 (by rw [List.length_append]; omega)
  have header : (screen.header ++ (encoding Depth.encode screen.depths ++
      encoding Screen.encode others)).take 40 = screen.header := by
    rw [← forty,List.take_left]
  have vendor_len : Alignment.pad (loaded littleEndian (slice ((acceptance.encode.drop 8).take 32) 16 2)) =
      acceptance.vendor.length := by
    rw [field (by decide)]
    exact acceptance.padded.symm
  have pixmap_formats_ct : loaded littleEndian (slice ((acceptance.encode.drop 8).take 32) 21 1) * 8 =
      (encoding Format.bytes acceptance.formats).length := by
    rw [field (by decide),formats]
    exact congrArg (· * 8) acceptance.pixmap_formats_ct
  have roots_ct : 1 ≤ loaded littleEndian (slice ((acceptance.encode.drop 8).take 32) 20 1) := by
    have count : loaded littleEndian (slice acceptance.header 28 1) = acceptance.screens.length :=
      acceptance.roots_ct
    rw [field (by decide),count,screens,List.length_cons]
    omega
  rw [unloadRoot,skipped,ok_bind]
  dsimp only
  rw [unloaded,ok_bind]
  dsimp only
  rw [vendor_len,skippedVendor,ok_bind]
  dsimp only
  rw [pixmap_formats_ct,skippedFormats,ok_bind]
  dsimp only
  rw [assert,demand_true roots_ct,ok_bind,taken,ok_bind]
  dsimp only
  rw [header,pure_ok]

/-- The exchange that sends the Initiation whole and brings the answer in chunks. -/
def answered (chunks : List (List UInt8)) : Exchange :=
  ⟨.ready false false false,.sent 48,arriving chunks⟩

variable {first : List UInt8} {later : List (List UInt8)}

theorem receiveAcceptance_done (ready : Ready buffer) (long : 8 ≤ first.length)
    (nonempty : ∀ chunk ∈ later,chunk ≠ []) (offered : first.length ≤ SocketBuffer.blockSz)
    (delivered : first ++ later.flatten = acceptance.encode) {screen : Screen littleEndian false}
    {others : List (Screen littleEndian false)} (screens : acceptance.screens = screen :: others) :
    receiveAcceptance littleEndian buffer (answered (first :: later)) =
      .ok (.accepted (loaded littleEndian (slice screen.header 0 4))) := by
  obtain ⟨whole,_,small⟩ := acceptance.length
  rcases polledRead_chunk ready later first with ⟨narrow,_⟩ | ⟨held,arrived,holds,unset,start⟩
  · have block := ready.holds.sound.block
    omega
  · have sum : first.length + later.flatten.length = acceptance.size := by
      rw [← whole,← delivered,List.length_append]
    obtain ⟨named,read,sized,gathered,good,count,filled⟩ :=
      gather_done holds unset start nonempty sum (by omega)
    rw [delivered] at filled
    rw [receiveAcceptance,answered]
    dsimp only
    rw [arrived,ok_bind]
    dsimp only
    rw [measureAcceptance_done holds long delivered,ok_bind]
    dsimp only
    rw [sized,ok_bind,gathered,ok_bind]
    dsimp only
    rw [good]
    dsimp only
    rw [assert,demand_true count,ok_bind,unloadRoot_done filled screens,ok_bind,pure_ok]

theorem receiveAcceptance_short (ready : Ready buffer) (short : first.length < 8)
    (chunks : List (List UInt8)) :
    ∃ fault,receiveAcceptance littleEndian buffer (answered (first :: chunks)) = .error fault := by
  rcases polledRead_chunk ready chunks first with ⟨_,fault,failed⟩ | ⟨held,arrived,_⟩
  · refine ⟨fault,?_⟩
    rw [receiveAcceptance,answered,failed,error_bind]
  · refine ⟨.assertion "first_bytes_read >= sizeof( Acceptance::Header )",?_⟩
    rw [receiveAcceptance,answered]
    dsimp only
    rw [arrived,ok_bind]
    dsimp only
    rw [measureAcceptance,assert,demand_false (Nat.not_le.mpr short)]
    simp only [error_bind]

/-- Both decoders get through and agree on the first root window exactly when the IDs and event
masks are those of a server, and the first read brings the header. -/
theorem decoders_agree (acceptance : Acceptance littleEndian false) (screened : acceptance.screens ≠ [])
    (nonempty : ∀ chunk ∈ first :: later,chunk ≠ []) (offered : first.length ≤ SocketBuffer.blockSz)
    (delivered : (first :: later).flatten = acceptance.encode) (ndebug : Bool)
    (junk : Vector UInt8 2) (auth_data : Vector UInt8 16) :
    (∃ roots root,
      (∀ more sz,acceptance.size ≤ sz → sz < 2^64 →
        logAcceptance littleEndian false (acceptance.encode ++ more) sz = .ok (acceptance.size,roots)) ∧
      authenticateServerConnection littleEndian ndebug junk auth_data (answered (first :: later)) =
        .ok (.accepted root) ∧
      roots.head? = some root) ↔
      (∀ screen ∈ acceptance.screens,screen.Fine) ∧ 8 ≤ first.length := by
  obtain ⟨_,_,small⟩ := acceptance.length
  obtain ⟨buffer,sent,ready⟩ := sendInitiation_done littleEndian ndebug junk auth_data
    (rfl : (answered (first :: later)).polled = _) rfl
  have asked : authenticateServerConnection littleEndian ndebug junk auth_data
      (answered (first :: later)) =
        receiveAcceptance littleEndian buffer (answered (first :: later)) := by
    rw [authenticateServerConnection,sent,ok_bind]
  obtain ⟨_,others⟩ := List.forall_mem_cons.mp nonempty
  rw [List.flatten_cons] at delivered
  rw [asked]
  constructor
  · rintro ⟨roots,root,logged,received,_⟩
    refine ⟨logAcceptance_fine acceptance [] (Nat.le_refl _) (by omega)
      (logged [] _ (Nat.le_refl _) (by omega)),?_⟩
    by_contra short
    obtain ⟨fault,failed⟩ := @receiveAcceptance_short littleEndian buffer first ready (by omega) later
    rw [failed] at received
    cases received
  · rintro ⟨fine,long⟩
    obtain ⟨screen,rest,screens⟩ := List.exists_cons_of_ne_nil screened
    refine ⟨_,_,fun more sz inside bound => logAcceptance_done acceptance fine more inside bound,
      receiveAcceptance_done ready long others offered delivered screens,?_⟩
    rw [screens,List.map_cons,List.head?_cons]
    rfl

end facts

/-- A SCREEN without depths, with root window 5. -/
def bareScreen : Screen true false where
  header := 5 :: List.replicate 39 0
  depths := []
  sized := rfl
  allowed_depths_ct := by decide

def bareAcceptance : Acceptance true false where
  header := [1,0,11,0,0,0,18,0] ++ List.replicate 20 0 ++ [1] ++ List.replicate 11 0
  vendor := []
  formats := []
  screens := [bareScreen]
  sized := rfl
  success := by decide
  protocol_major_version := by decide
  protocol_minor_version := by decide
  padded := by decide
  pixmap_formats_ct := by decide
  roots_ct := by decide
  following := by decide

theorem bareAcceptance_fine : ∀ screen ∈ bareAcceptance.screens,screen.Fine := by
  refine List.forall_mem_singleton.mpr ⟨?_,by decide,by decide,by decide,by decide⟩
  intro depth member
  cases member

theorem bareAcceptance_length : bareAcceptance.encode.length = 80 := rfl

/-- The message in two chunks. -/
def split (size : Nat) : List (List UInt8) :=
  [bareAcceptance.encode.take size,bareAcceptance.encode.drop size]

theorem split_delivered (size : Nat) : (split size).flatten = bareAcceptance.encode := by
  rw [split,List.flatten_cons,List.flatten_cons,List.flatten_nil,List.append_nil,List.take_append_drop]

theorem split_nonempty {size : Nat} (positive : 0 < size) (inside : size < 80) :
    ∀ chunk ∈ split size,chunk ≠ [] := by
  have length := bareAcceptance_length
  intro chunk member
  rw [← List.length_pos_iff]
  simp only [split,List.mem_cons,List.not_mem_nil,or_false] at member
  rcases member with rfl | rfl
  · rw [List.length_take]
    omega
  · rw [List.length_drop]
    omega

theorem decoders_agree_bare :
    ∃ roots root,
      (∀ more sz,bareAcceptance.size ≤ sz → sz < 2^64 →
        logAcceptance true false (bareAcceptance.encode ++ more) sz = .ok (bareAcceptance.size,roots)) ∧
      authenticateServerConnection true false (.replicate 2 0) (.replicate 16 0) (answered (split 8)) =
        .ok (.accepted root) ∧
      roots.head? = some root := by
  exact (decoders_agree bareAcceptance (List.cons_ne_nil _ _) (split_nonempty (by decide) (by decide))
    (by decide) (split_delivered 8) false _ _).mpr ⟨bareAcceptance_fine,by decide⟩

/-- With four bytes in the first chunk the second decoder fails. -/
theorem decoders_cut :
    ¬∀ (littleEndian : Bool) (acceptance : Acceptance littleEndian false) (first : List UInt8)
      (later : List (List UInt8)) (ndebug : Bool) (junk : Vector UInt8 2) (auth_data : Vector UInt8 16),
      acceptance.screens ≠ [] → (∀ screen ∈ acceptance.screens,screen.Fine) →
        (∀ chunk ∈ first :: later,chunk ≠ []) → first.length ≤ SocketBuffer.blockSz →
          (first :: later).flatten = acceptance.encode → ∃ roots root,
            (∀ more sz,acceptance.size ≤ sz → sz < 2^64 →
              logAcceptance littleEndian false (acceptance.encode ++ more) sz =
                .ok (acceptance.size,roots)) ∧
            authenticateServerConnection littleEndian ndebug junk auth_data (answered (first :: later)) =
              .ok (.accepted root) ∧
            roots.head? = some root := by
  intro agree
  obtain ⟨_,root,_,received,_⟩ := agree true bareAcceptance _ _ false (.replicate 2 0) (.replicate 16 0)
    (List.cons_ne_nil _ _) bareAcceptance_fine (split_nonempty (by decide : 0 < 4) (by decide)) (by decide)
    (split_delivered 4)
  obtain ⟨buffer,sent,ready⟩ := sendInitiation_done true false (.replicate 2 0) (.replicate 16 0)
    (rfl : (answered (split 4)).polled = _) rfl
  obtain ⟨fault,failed⟩ := @receiveAcceptance_short true buffer (bareAcceptance.encode.take 4) ready
    (by decide) [bareAcceptance.encode.drop 4]
  change authenticateServerConnection true false _ _ (answered (split 4)) = _ at received
  rw [authenticateServerConnection,sent,ok_bind] at received
  dsimp only at received
  rw [split,failed] at received
  cases received

end Authentication
end Xtracepp
