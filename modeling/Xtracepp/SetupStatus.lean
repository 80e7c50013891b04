import Xtracepp.ConnectionSetup
import Xtracepp.Exchange
import Xtracepp.Scene
import Xtracepp.RequestProgress

/-! The status of a connection when the answer to its Initiation is logged, and what becomes of
the status after that.
-/
namespace Xtracepp
open Library Library.Outcome Library.Window Library.Framing ListParsing

namespace ConnectionSetup

section responses

variable {littleEndian byteswap : Bool}

theorem InitResponse.length (response : InitResponse littleEndian byteswap) :
    8 ≤ response.header.length ∧
      response.encode.length = 8 + value littleEndian byteswap response.header 6 2 * 4 := by
  rw [InitResponse.encode,List.length_append]
  cases response with
  | failed refusal =>
    have width := refusal.sized
    have following := refusal.following
    dsimp only [InitResponse.header,InitResponse.suffix]
    omega
  | authenticate further =>
    have width := further.sized
    have following := further.following
    dsimp only [InitResponse.header,InitResponse.suffix]
    omega
  | success acceptance =>
    have width := acceptance.sized
    obtain ⟨whole,_,_⟩ := acceptance.length
    rw [Acceptance.encode,List.length_append,Acceptance.size] at whole
    dsimp only [InitResponse.header,InitResponse.suffix]
    omega

theorem InitResponse.bounds (response : InitResponse littleEndian byteswap) :
    8 ≤ response.encode.length ∧ response.encode.length < 2^36 := by
  obtain ⟨long,whole⟩ := response.length
  have units := @value_lt littleEndian byteswap response.header 6 2 long
  omega

theorem InitResponse.measured (response : InitResponse littleEndian byteswap) :
    response.encode.length =
      8 + Alignment.size (ordered littleEndian byteswap (slice response.encode 6 2)) := by
  obtain ⟨long,whole⟩ := response.length
  have units := @value_lt littleEndian byteswap response.header 6 2 long
  have same : slice response.encode 6 2 = slice response.header 6 2 := by
    rw [InitResponse.encode,slice,slice,List.drop_append_of_le_length (by omega),
      List.take_append_of_le_length (by rw [List.length_drop]; omega)]
  change _ < 65536 at units
  rw [same,whole,← value,Alignment.size_small (by omega)]

theorem value_first {bytes : List UInt8} (given : 0 < bytes.length) :
    value littleEndian byteswap bytes 0 1 = (bytes.getD 0 0).toNat := by
  cases bytes with
  | nil => exact absurd given (Nat.lt_irrefl 0)
  | cons first rest => cases littleEndian <;> cases byteswap <;> simp [value,slice,ordered,loaded,leastFirst]

end responses

end ConnectionSetup

namespace SetupStatus
open ConnectionSetup

/-- A whole answer has come in, with nothing in front of it in the buffer. An earlier call may
have set its size. -/
structure Arrived (conn : Connection) (bytes more : List UInt8) : Prop where
  unestablished : conn.status = .unestablished
  sound : conn.serverBuffer.Sound
  contents : conn.serverBuffer.contents = bytes ++ more
  unparsed : conn.serverBuffer.bytesParsed = 0
  pending : conn.serverBuffer.messageSizeSet = false ∨ conn.serverBuffer.nextMessageSz = bytes.length

/-- The connection with the size of the answer set. -/
def awaiting (conn : Connection) (messageSz : Nat) : Connection :=
  { conn with serverBuffer := Prequeue.awaiting conn.serverBuffer messageSz }

/-- The connection on which the answer was accepted. -/
def opening (conn : Connection) (messageSz : Nat) : Connection :=
  { awaiting conn messageSz with status := .opened }

/-- The connection once the answer is parsed. -/
def settled (conn : Connection) (status : Status) (messageSz : Nat) : Connection :=
  { conn with
    status
    serverBuffer := Prequeue.marked conn.serverBuffer messageSz }

/-- What parsing leaves of a connection and of what the parser has for the others. -/
structure Frame (parser : X11ProtocolParser) (conn : Connection) (left : X11ProtocolParser)
    (after : Connection) : Prop where
  id : after.id = conn.id
  status : conn.status ≠ .unestablished → after.status = conn.status
  others : ∀ other seqNum,other ≠ conn.id →
    left.stashedStrings other seqNum = parser.stashedStrings other seqNum

section frames

variable {settings : Settings} {direction : Direction} {parser middle left : X11ProtocolParser}
  {conn next after : Connection} {data : Nat}

theorem Frame.refl (parser : X11ProtocolParser) (conn : Connection) : Frame parser conn parser conn :=
  ⟨rfl,fun _ => rfl,fun _ _ _ => rfl⟩

theorem Frame.trans (first : Frame parser conn middle next) (second : Frame middle next left after) :
    Frame parser conn left after := by
  refine ⟨second.id.trans first.id,?_,?_⟩
  · intro settled
    have kept := first.status settled
    rw [second.status (by rw [kept]; exact settled),kept]
  · intro other seqNum different
    rw [second.others other seqNum (by rw [first.id]; exact different),
      first.others other seqNum different]

theorem Frame.known {messageSz : Nat} (known : Known settings direction conn data next messageSz) :
    Frame parser conn parser next :=
  ⟨known.id,fun _ => known.status,fun _ _ _ => rfl⟩

theorem Frame.handled {handler : Option Handler} {logged : Logged}
    (round : messageRound settings direction parser conn data = .ok (.handled handler logged)) :
    Frame parser conn logged.parser logged.conn := by
  obtain ⟨id,effect⟩ := Proxy.handled_frame round
  refine ⟨id,?_,effect.stash⟩
  intro settled
  obtain ⟨next,messageSz,inner,handling⟩ := handled_left round
  obtain ⟨buffer,_,left⟩ := handling.left
  have status : inner.conn.status = next.status := by
    rw [(handOver_effect handling.given).status,handling.known.status]
    exact if_neg (fun first => settled first.2)
  rw [left,← handling.known.status,← status]
  cases direction <;> rfl

theorem Frame.finished
    (round : messageRound settings direction parser conn data = .ok (.finished next)) :
    Frame parser conn parser next := by
  rcases finished_left round with same | ⟨messageSz,known,_⟩
  · subst same
    exact .refl parser next
  · exact .known known

theorem messageLoop_frame {fuel total : Nat} {outcome : Outcome}
    (done : messageLoop settings direction fuel parser conn data total = .ok (some outcome)) :
    Frame parser conn outcome.parser outcome.conn := by
  induction fuel generalizing parser conn data total with
  | zero => cases done
  | succ fuel ih =>
    rw [messageLoop] at done
    obtain ⟨round,ran,done⟩ := bind_success done
    cases round with
    | finished next =>
      cases done
      exact .finished ran
    | refused text =>
      cases done
      exact .refl parser conn
    | handled handler logged => exact (Frame.handled ran).trans (ih done)

/-- In AUTHENTICATION there is nothing to parse, whichever side sent it. -/
theorem logMessages_refused (fuel : Nat) (waiting : conn.status = .authentication)
    (unset : (conn.buffer direction).messageSizeSet = false)
    (pending : (conn.buffer direction).parsed < (conn.buffer direction).size) :
    logMessages settings direction (fuel + 1) parser conn =
      .ok (some ⟨parser,conn,0,some authenticationText⟩) := by
  have measured : measureMessage settings direction conn (conn.buffer direction).data =
      .ok (.refused authenticationText) := by
    cases direction
    · simp only [measureMessage,measureClientMessage,waiting,pure_ok]
    · simp only [measureMessage,measureServerMessage,waiting,pure_ok]
  have sized : sizeMessage settings direction conn (conn.buffer direction).data =
      .ok (.refused authenticationText) := by
    rw [sizeMessage,if_neg (by simp [unset]),measured,ok_bind]
    rfl
  rw [logMessages,messageLoop,messageRound,if_pos pending,sized]
  simp only [ok_bind,pure_ok]

end frames

section opened

variable {settings : Settings} {parser : X11ProtocolParser} {conn known : Connection} {data : Nat}

/-- The function that a response is for, by its first byte. -/
def responseHandler (first : UInt8) : Handler :=
  if first = 0 then .error else if first = 1 then .reply else .event

/-- The size of a response that starts with these bytes. -/
def responseSize (littleEndian byteswap : Bool) (bytes : List UInt8) : Nat :=
  if bytes.getD 0 0 = 1 then 32 + value littleEndian byteswap bytes 4 4 * 4 else 32

theorem sizeMessage_response (opened : conn.status = .opened)
    (unset : conn.serverBuffer.messageSizeSet = false)
    (sized : sizeMessage settings .serverToClient conn data = .ok (.known known)) :
    known.serverBuffer.messageSizeSet = true ∧ known.serverBuffer.nextMessageSz =
      responseSize settings.littleEndian conn.byteswap (window conn.serverBuffer.buffer.cells data 8) := by
  obtain ⟨messageSz,taken⟩ := sizing_known (sizeMessage_case sized)
  have buffer : known.serverBuffer = { conn.serverBuffer with nextMessageSz := messageSz } := taken.buffer
  have set : known.serverBuffer.messageSizeSet = true := by
    rw [buffer]
    exact bne_iff_ne.mpr taken.definite
  refine ⟨set,?_⟩
  rcases taken.origin with ⟨before,_⟩ | ⟨_,_,headerSz,measured,order⟩
  · change conn.serverBuffer.messageSizeSet = true at before
    rw [unset] at before
    cases before
  · rw [buffer]
    rw [order (.inr rfl)] at measured
    change measureServerMessage settings conn data = _ at measured
    unfold measureServerMessage at measured
    simp only [opened] at measured
    split at measured
    · cases measured
    · obtain ⟨first,read,measured⟩ := bind_success measured
      obtain ⟨_,same⟩ := Storage.byte_success read
      have front : (window conn.serverBuffer.buffer.cells data 8).getD 0 0 = first := by
        rw [← same]
        rfl
      rw [responseSize,front]
      split at measured
      · rename_i zero
        cases measured
        rw [if_neg (by rw [zero]; decide)]
      · split at measured
        · rename_i one
          obtain ⟨extra,counted,measured⟩ := bind_success measured
          have small := field_lt counted
          obtain ⟨_,same⟩ := Storage.field_success counted
          cases measured
          rw [if_pos one,Alignment.size_small (by omega)]
          dsimp only
          rw [same]
          rfl
        · rename_i other
          cases measured
          rw [if_neg other]

theorem messageRound_response {handler : Option Handler} {logged : Logged}
    (opened : conn.status = .opened)
    (round : messageRound settings .serverToClient parser conn data = .ok (.handled handler logged)) :
    handler = some (responseHandler (conn.serverBuffer.buffer.cells data)) := by
  obtain ⟨next,messageSz,inner,handling⟩ := handled_left round
  have known := handling.known
  have status : next.status = .opened := known.status.trans opened
  have cells : next.serverBuffer.buffer.cells = conn.serverBuffer.buffer.cells :=
    congrArg (fun buffer => buffer.buffer.cells) known.buffer
  obtain ⟨_,given⟩ := demand_bind_success handling.given
  obtain ⟨selected,chosen,given⟩ := bind_success given
  obtain ⟨_,_,given⟩ := bind_success given
  obtain ⟨_,given⟩ := demand_bind_success given
  cases given
  unfold selectHandler at chosen
  simp only [status] at chosen
  obtain ⟨first,read,chosen⟩ := bind_success chosen
  obtain ⟨_,same⟩ := Storage.byte_success read
  cases chosen
  rw [← same,cells]
  rfl

end opened

section arrival

variable {settings : Settings} {conn : Connection} {bytes more : List UInt8} {parser : X11ProtocolParser}

theorem Arrived.size (arrived : Arrived conn bytes more) :
    conn.serverBuffer.size = bytes.length + more.length := by
  have length := arrived.sound.contents_length
  rw [arrived.contents,List.length_append] at length
  rw [arrived.sound.size_eq,length]

theorem Arrived.fetch (arrived : Arrived conn bytes more) :
    ∃ rest,conn.serverBuffer.buffer.fetch conn.serverBuffer.data
      (conn.serverBuffer.buffer.size - conn.serverBuffer.data) = .ok (bytes ++ rest) := by
  have filled := arrived.sound.data_size
  have inside := arrived.sound.readLe
  obtain ⟨room,split⟩ : ∃ room,conn.serverBuffer.buffer.size - conn.serverBuffer.data =
      conn.serverBuffer.size + room := ⟨_,(Nat.add_sub_cancel' (by omega)).symm⟩
  refine ⟨more ++ window conn.serverBuffer.buffer.cells
    (conn.serverBuffer.data + conn.serverBuffer.size) room,?_⟩
  rw [Storage.fetch,if_pos (by omega),split,window_append,← List.append_assoc,← arrived.contents]
  rfl

theorem Arrived.window (arrived : Arrived conn bytes more) :
    window conn.serverBuffer.buffer.cells conn.serverBuffer.data bytes.length = bytes := by
  have front := window_take conn.serverBuffer.buffer.cells conn.serverBuffer.data conn.serverBuffer.size
    bytes.length (by rw [arrived.size]; exact Nat.le_add_right _ _)
  rw [← front]
  change conn.serverBuffer.contents.take bytes.length = bytes
  rw [arrived.contents,List.take_left]

theorem Arrived.stored (arrived : Arrived conn bytes more) :
    conn.serverBuffer.data + bytes.length ≤ conn.serverBuffer.buffer.size := by
  have filled := arrived.sound.data_size
  have inside := arrived.sound.readLe
  have size := arrived.size
  omega

theorem Arrived.sized (arrived : Arrived conn bytes more) (settings : Settings)
    (long : 8 ≤ bytes.length) (small : bytes.length < 2^36)
    (measured : bytes.length =
      8 + Alignment.size (ordered settings.littleEndian conn.byteswap (slice bytes 6 2))) :
    sizeMessage settings .serverToClient conn conn.serverBuffer.data =
      .ok (.known (awaiting conn bytes.length)) := by
  cases set : conn.serverBuffer.messageSizeSet with
  | true =>
    have same : conn.serverBuffer.nextMessageSz = bytes.length :=
      arrived.pending.resolve_left (by simp [set])
    have still : awaiting conn bytes.length = conn := by
      rw [awaiting,← same]
      rfl
    rw [sizeMessage,still]
    exact if_pos set
  | false =>
    have framed : frame settings .serverToClient conn.status conn.byteswap
        (Library.Window.window conn.serverBuffer.buffer.cells conn.serverBuffer.data bytes.length) =
          some (.sized conn.byteswap bytes.length 8) := by
      rw [arrived.window,arrived.unestablished,frame]
      dsimp only
      rw [if_neg (by omega),← measured]
    have size := arrived.size
    have given := @measureMessage_frame settings .serverToClient conn conn.serverBuffer.data
      bytes.length bytes.length 8 conn.byteswap arrived.stored (by change _ ≤ conn.serverBuffer.size; omega)
      framed
    have known : bytes.length ≠ SocketBuffer.unknownSz := by
      change bytes.length ≠ 2^64 - 1
      omega
    have unset : (conn.buffer .serverToClient).messageSizeSet = false := set
    rw [sizeMessage,if_neg (by simp [unset]),given,ok_bind]
    dsimp only
    rw [SocketBuffer.setMessageSize,assert,demand_true known,ok_bind,assert,demand_true unset,ok_bind]
    rfl

theorem Arrived.first (arrived : Arrived conn bytes more) (given : 0 < bytes.length) :
    conn.serverBuffer.buffer.byte conn.serverBuffer.data = .ok (bytes.getD 0 0) := by
  have stored := arrived.stored
  have front : conn.serverBuffer.buffer.cells conn.serverBuffer.data = bytes.getD 0 0 := by
    have held : bytes.getD 0 0 = (Library.Window.window conn.serverBuffer.buffer.cells
        conn.serverBuffer.data bytes.length).getD 0 0 := by rw [arrived.window]
    rw [held,List.getD_eq_getElem _ _ (by rw [window_length]; exact given),window_getElem,Nat.add_zero]
  rw [Storage.byte,if_pos (by omega),front]

theorem Arrived.pends (arrived : Arrived conn bytes more) (given : 0 < bytes.length) :
    (conn.buffer .serverToClient).parsed < (conn.buffer .serverToClient).size := by
  have size := arrived.size
  change conn.serverBuffer.bytesParsed < conn.serverBuffer.size
  rw [arrived.unparsed]
  omega

theorem Arrived.round (arrived : Arrived conn bytes more)
    (long : 8 ≤ bytes.length) (small : bytes.length < 2^36)
    (measured : bytes.length =
      8 + Alignment.size (ordered settings.littleEndian conn.byteswap (slice bytes 6 2))) :
    messageRound settings .serverToClient parser conn conn.serverBuffer.data = do
      let logged ← logInitResponse settings parser (awaiting conn bytes.length) conn.serverBuffer.data
        bytes.length
      assert "conn->status == Connection::OPEN" (logged.conn.status = .opened)
      assert "bytes_parsed == buffer.messageSize()"
        (logged.bytesParsed = logged.conn.serverBuffer.messageSize)
      let buffer ← logged.conn.serverBuffer.markMessageParsed
      return .handled (some .initResponse)
        { logged with conn := { logged.conn with serverBuffer := buffer } } := by
  have size := arrived.size
  have whole : ((awaiting conn bytes.length).buffer .serverToClient).incompleteMessage = false := by
    have sound : ((awaiting conn bytes.length).buffer .serverToClient).Sound :=
      { arrived.sound with
        pendingLt := by
          change bytes.length < 2^64
          omega }
    rw [Bool.eq_false_iff]
    intro waiting
    have short := ((Lane.incomplete_iff sound).mp waiting).2 (bne_iff_ne.mpr (by
      change bytes.length ≠ 2^64 - 1
      omega))
    change conn.serverBuffer.size - conn.serverBuffer.bytesParsed < bytes.length at short
    rw [arrived.unparsed] at short
    omega
  have status : (awaiting conn bytes.length).status = .unestablished := arrived.unestablished
  have chosen : selectHandler .serverToClient (awaiting conn bytes.length) conn.serverBuffer.data =
      .ok (some .initResponse) := by
    simp only [selectHandler,status,pure_ok]
  rw [messageRound,if_pos (arrived.pends (by omega)),arrived.sized settings long small measured,ok_bind]
  dsimp only
  rw [if_neg (by simp [whole]),handOver,assert,demand_true (by rw [status]; decide),ok_bind,chosen,ok_bind,
    runHandler]
  simp only [bind_assoc,pure_bind]
  rfl

theorem Arrived.parsed (arrived : Arrived conn bytes more) (messageSz : Nat) :
    ∃ rest,settings.withConnectionSetup.parse.acceptance parser (awaiting conn messageSz)
      conn.serverBuffer.data messageSz = do
        return (← logAcceptance settings.littleEndian conn.byteswap (bytes ++ rest) messageSz).1 := by
  obtain ⟨rest,fetched⟩ := arrived.fetch
  refine ⟨rest,?_⟩
  change (do
    let data ← conn.serverBuffer.buffer.fetch conn.serverBuffer.data
      (conn.serverBuffer.buffer.size - conn.serverBuffer.data)
    return (← logAcceptance settings.littleEndian conn.byteswap data messageSz).1 : Checked Nat) = _
  rw [fetched,ok_bind]

theorem Arrived.accepting
    {acceptance : Acceptance settings.littleEndian conn.byteswap}
    (arrived : Arrived conn acceptance.encode more) :
    logInitResponse settings.withConnectionSetup parser (awaiting conn acceptance.encode.length)
      conn.serverBuffer.data acceptance.encode.length = do
        let bytesParsed ← settings.withConnectionSetup.parse.acceptance parser
          (awaiting conn acceptance.encode.length) conn.serverBuffer.data acceptance.encode.length
        assert "bytes_parsed <= sz" (bytesParsed ≤ acceptance.encode.length)
        return ⟨parser,opening conn acceptance.encode.length,bytesParsed⟩ := by
  have width := acceptance.sized
  obtain ⟨whole,total,_⟩ := acceptance.length
  have success : acceptance.encode.getD 0 0 = 1 := by
    have value := acceptance.success
    rw [value_first (by omega)] at value
    have same : acceptance.encode.getD 0 0 = acceptance.header.getD 0 0 := by
      rw [Acceptance.encode,List.getD_eq_getElem?_getD,List.getElem?_append_left (by omega),
        ← List.getD_eq_getElem?_getD]
    rw [same]
    exact UInt8.toNat_inj.mp value
  have first : (awaiting conn acceptance.encode.length).serverBuffer.buffer.byte conn.serverBuffer.data =
      .ok 1 := by
    rw [← success]
    exact arrived.first (by omega)
  have long : acceptance.encode.length ≥ 8 := by omega
  rw [logInitResponse,assert,demand_true long,ok_bind,first,ok_bind,logSetupResponse,if_neg (by decide),
    if_neg (by decide),if_pos rfl]
  simp only [bind_assoc,pure_bind]
  rfl

theorem Arrived.opened {acceptance : Acceptance settings.littleEndian conn.byteswap}
    (arrived : Arrived conn acceptance.encode more) (fine : ∀ screen ∈ acceptance.screens,screen.Fine) :
    messageRound settings.withConnectionSetup .serverToClient parser conn conn.serverBuffer.data =
      .ok (.handled (some .initResponse)
        ⟨parser,settled conn .opened acceptance.encode.length,acceptance.encode.length⟩) := by
  obtain ⟨long,small⟩ := (InitResponse.success acceptance).bounds
  obtain ⟨whole,total,_⟩ := acceptance.length
  have size := arrived.size
  have parsed : settings.withConnectionSetup.parse.acceptance parser
      (awaiting conn acceptance.encode.length) conn.serverBuffer.data acceptance.encode.length =
        .ok acceptance.encode.length := by
    obtain ⟨rest,given⟩ := @Arrived.parsed settings conn _ more parser arrived acceptance.encode.length
    have done := logAcceptance_done acceptance fine rest (Nat.le_of_eq whole.symm)
      (Nat.lt_trans small (by decide))
    rw [given,done,ok_bind,pure_ok,whole]
  have marks : (opening conn acceptance.encode.length).serverBuffer.markMessageParsed =
      .ok (Prequeue.marked conn.serverBuffer acceptance.encode.length) :=
    (@Prequeue.mark_done { conn.serverBuffer with nextMessageSz := SocketBuffer.unknownSz }
      arrived.unparsed rfl acceptance.encode.length (by
        change _ ≤ conn.serverBuffer.size
        omega) (by
        change acceptance.encode.length < 2^64 - 1
        change acceptance.encode.length < 2^36 at small
        omega)).2
  have open_ : (opening conn acceptance.encode.length).status = .opened := rfl
  have sized : acceptance.encode.length =
      (opening conn acceptance.encode.length).serverBuffer.messageSize := rfl
  rw [@Arrived.round settings.withConnectionSetup conn _ more parser arrived long small
    (InitResponse.success acceptance).measured,arrived.accepting,parsed,ok_bind,assert,demand_true (Nat.le_refl _),ok_bind,pure_ok,ok_bind,assert,demand_true open_,ok_bind,assert,
    demand_true sized,ok_bind,marks,ok_bind,pure_ok]
  rfl

theorem Arrived.fine {acceptance : Acceptance settings.littleEndian conn.byteswap}
    (arrived : Arrived conn acceptance.encode more) {round : Round}
    (done : messageRound settings.withConnectionSetup .serverToClient parser conn
      conn.serverBuffer.data = .ok round) :
    ∀ screen ∈ acceptance.screens,screen.Fine := by
  obtain ⟨long,small⟩ := (InitResponse.success acceptance).bounds
  obtain ⟨whole,_,_⟩ := acceptance.length
  rw [@Arrived.round settings.withConnectionSetup conn _ more parser arrived long small
    (InitResponse.success acceptance).measured,arrived.accepting] at done
  obtain ⟨_,logged,_⟩ := bind_success done
  obtain ⟨bytesParsed,parsed,_⟩ := bind_success logged
  obtain ⟨rest,given⟩ := @Arrived.parsed settings conn _ more parser arrived acceptance.encode.length
  rw [given] at parsed
  obtain ⟨_,accepted,_⟩ := bind_success parsed
  exact logAcceptance_fine acceptance rest (Nat.le_of_eq whole.symm) (Nat.lt_trans small (by decide))
    accepted

end arrival

/-- The documented course of the status, with this answer to an Initiation. -/
structure Follows (settings : Settings) {byteswap : Bool}
    (response : InitResponse settings.littleEndian byteswap) : Prop where
  settled : ∀ parser conn more fuel,conn.byteswap = byteswap → Arrived conn response.encode more →
    logServerMessages settings.withConnectionSetup (fuel + 1) parser conn =
      messageLoop settings.withConnectionSetup .serverToClient fuel parser
        (settled conn response.status response.encode.length)
        (conn.serverBuffer.data + response.encode.length) response.encode.length
  forwarded : ∀ conn,Arrived conn response.encode [] →
    (SetupStatus.settled conn response.status response.encode.length).polledOutput .serverToClient = true
  refused : ∀ parser (conn : Connection) fuel,conn.status = .authentication →
    conn.serverBuffer.messageSizeSet = false → conn.serverBuffer.parsed < conn.serverBuffer.size →
      logServerMessages settings.withConnectionSetup (fuel + 1) parser conn =
        .ok (some ⟨parser,conn,0,some authenticationText⟩)
  framed : ∀ (conn known : Connection) data,conn.status = .opened →
    conn.serverBuffer.messageSizeSet = false →
      sizeMessage settings.withConnectionSetup .serverToClient conn data = .ok (.known known) →
        known.serverBuffer.messageSizeSet = true ∧ known.serverBuffer.nextMessageSz =
          responseSize settings.littleEndian conn.byteswap (window conn.serverBuffer.buffer.cells data 8)
  handed : ∀ parser (conn : Connection) data handler logged,conn.status = .opened →
    messageRound settings.withConnectionSetup .serverToClient parser conn data =
      .ok (.handled handler logged) →
        handler = some (responseHandler (conn.serverBuffer.buffer.cells data))
  kept : ∀ direction fuel parser conn outcome,
    logMessages settings.withConnectionSetup direction fuel parser conn = .ok (some outcome) →
      Frame parser conn outcome.parser outcome.conn
  apart : ∀ (proxy after : Proxy) (loop : Loop),proxy.loop = some loop →
    proxy.step settings.withConnectionSetup .round = .ok after →
      ∀ other,other ≠ loop.id → after.connections other = proxy.connections other

section course

variable {settings : Settings} {parser : X11ProtocolParser} {conn : Connection} {bytes : List UInt8}

theorem Arrived.polled (arrived : Arrived conn bytes []) (given : 0 < bytes.length) (status : Status) :
    (settled conn status bytes.length).polledOutput .serverToClient = true := by
  have size : conn.serverBuffer.size = bytes.length := arrived.size
  have filled := arrived.sound.size_eq
  have sound : (Prequeue.marked conn.serverBuffer bytes.length).Sound :=
    Prequeue.marked_sound arrived.sound (by omega)
  have empty : (Prequeue.marked conn.serverBuffer bytes.length).empty = false := by
    change (conn.serverBuffer.bytesRead == 0) = false
    rw [beq_eq_false_iff_ne]
    omega
  have whole : (Prequeue.marked conn.serverBuffer bytes.length).incompleteMessage = false := by
    rw [Bool.eq_false_iff]
    intro waiting
    have short := ((Lane.incomplete_iff sound).mp waiting).1
    change bytes.length < conn.serverBuffer.size at short
    omega
  change (!(Prequeue.marked conn.serverBuffer bytes.length).readReady &&
    (Prequeue.marked conn.serverBuffer bytes.length).writeReady) = true
  rw [SocketBuffer.readReady,SocketBuffer.writeReady,empty,whole]
  exact decide_eq_true given

theorem round_apart {proxy after : Proxy} {loop : Loop} (running : proxy.loop = some loop)
    (stepped : proxy.step settings .round = .ok after) {other : Nat} (different : other ≠ loop.id) :
    after.connections other = proxy.connections other := by
  simp only [Proxy.step,running] at stepped
  cases found : proxy.connections loop.id with
  | none =>
    simp only [found,pure_ok,Except.ok.injEq] at stepped
    subst stepped
    rfl
  | some conn =>
    simp only [found] at stepped
    obtain ⟨round,_,stepped⟩ := bind_success stepped
    cases round with
    | finished next =>
      cases stepped
      exact if_neg different
    | refused text =>
      cases stepped
      exact if_neg different
    | handled handler logged =>
      cases stepped
      exact if_neg different

theorem exists_arrived (byteswap : Bool) (given : 0 < bytes.length) (small : bytes.length < 2^36) :
    ∃ conn,conn.byteswap = byteswap ∧ Arrived conn bytes [] := by
  obtain ⟨buffer,_,holds,unset,_⟩ := Prequeue.load_done Prequeue.initial_ready.holds
    (List.length_pos_iff.mp given) (by
      change 0 + bytes.length + 2048 ≤ 2^63 - 1
      omega)
  refine ⟨{ Connection.initial 0 with byteswap, serverBuffer := buffer },rfl,rfl,holds.sound,?_,
    holds.unparsed,.inl ?_⟩
  · rw [List.append_nil]
    exact holds.contents
  · rw [SocketBuffer.messageSizeSet,unset,Prequeue.initial_ready.unset,bne_self_eq_false]

theorem settled_drained (arrived : Arrived conn bytes []) (status : Status) :
    messageLoop settings .serverToClient 1 parser (settled conn status bytes.length)
      (conn.serverBuffer.data + bytes.length) bytes.length =
        .ok (some ⟨parser,settled conn status bytes.length,bytes.length,none⟩) := by
  have size : conn.serverBuffer.size = bytes.length := arrived.size
  have all : ¬((settled conn status bytes.length).buffer .serverToClient).parsed <
      ((settled conn status bytes.length).buffer .serverToClient).size := by
    change ¬bytes.length < conn.serverBuffer.size
    omega
  rw [messageLoop,messageRound,if_neg all,pure_ok,ok_bind]
  rfl

/-- The status takes its course exactly with an acceptance whose resource IDs and event masks pass
as a host loads them. -/
theorem status_follows (settings : Settings) {byteswap : Bool}
    (response : InitResponse settings.littleEndian byteswap) :
    Follows settings response ↔
      ∃ acceptance,response = .success acceptance ∧ ∀ screen ∈ acceptance.screens,screen.Fine := by
  obtain ⟨long,small⟩ := response.bounds
  constructor
  · intro follows
    obtain ⟨conn,order,arrived⟩ := @exists_arrived response.encode byteswap (by omega) small
    subst order
    have settles := follows.settled (X11ProtocolParser.initial fun _ => none) conn [] 1 rfl arrived
    rw [settled_drained arrived] at settles
    change messageLoop _ _ 2 _ conn conn.serverBuffer.data 0 = _ at settles
    rw [messageLoop] at settles
    obtain ⟨round,ran,settles⟩ := bind_success settles
    have taken := ran
    rw [@Arrived.round settings.withConnectionSetup conn _ [] _ arrived long small response.measured]
      at taken
    obtain ⟨logged,_,taken⟩ := bind_success taken
    obtain ⟨opened,taken⟩ := demand_bind_success taken
    obtain ⟨_,taken⟩ := demand_bind_success taken
    obtain ⟨buffer,_,taken⟩ := bind_success taken
    cases taken
    have kept := (messageLoop_frame settles).status (by
      dsimp only
      rw [opened]
      decide)
    have status : response.status = .opened := kept.trans opened
    cases response with
    | failed refusal => cases status
    | authenticate further => cases status
    | success acceptance => exact ⟨acceptance,rfl,@Arrived.fine settings conn [] _ acceptance arrived _ ran⟩
  · rintro ⟨acceptance,rfl,fine⟩
    refine ⟨?_,?_,?_,?_,?_,?_,?_⟩
    · intro parser conn more fuel order arrived
      subst order
      have round := @Arrived.opened settings conn more parser acceptance arrived fine
      change messageLoop _ _ (fuel + 1) _ conn conn.serverBuffer.data 0 = _
      have total : add64 0 acceptance.encode.length = acceptance.encode.length := by
        have bound : acceptance.encode.length < 2^36 := small
        rw [add64_small (by omega),Nat.zero_add]
      rw [messageLoop,round,ok_bind]
      dsimp only
      rw [total]
      rfl
    · intro conn arrived
      exact arrived.polled (by omega) _
    · intro parser conn fuel waiting unset pending
      exact logMessages_refused fuel waiting unset pending
    · intro conn known data opened unset sized
      exact sizeMessage_response opened unset sized
    · intro parser conn data handler logged opened round
      exact messageRound_response opened round
    · intro direction fuel parser conn outcome done
      exact messageLoop_frame done
    · intro proxy after loop running stepped other different
      exact round_apart running stepped different

end course

/-- A Refusal without a reason. -/
def bareRefusal : Refusal true false where
  header := [0,0,11,0,0,0,0,0]
  reason := []
  sized := rfl
  success := by decide
  padded := by decide
  following := by decide

/-- A connection to a server that has sent these bytes. -/
def answered (bytes : List UInt8) : Connection :=
  { Connection.initial 0 with serverBuffer := (SocketBuffer.initial 0).appended bytes }

theorem answered_arrived {bytes : List UInt8} (short : bytes.length ≤ SocketBuffer.blockSz) :
    Arrived (answered bytes) bytes [] := by
  have room : (SocketBuffer.initial 0).bytesRead + bytes.length ≤
      (SocketBuffer.initial 0).buffer.size := by
    change 0 + bytes.length ≤ SocketBuffer.blockSz
    omega
  refine ⟨rfl,SocketBuffer.appended_sound (SocketBuffer.initial_sound 0) bytes room,?_,rfl,.inl rfl⟩
  rw [List.append_nil]
  exact SocketBuffer.appended_contents (SocketBuffer.initial_sound 0) bytes room

/-- A Refusal ends the proxy. -/
theorem refusal_asserts :
    (∀ fuel,logServerMessages RequestProgress.plain.withConnectionSetup (fuel + 1)
        (X11ProtocolParser.initial fun _ => none) (answered (InitResponse.failed bareRefusal).encode) =
          .error (.assertion "conn->status == Connection::OPEN")) ∧
      ¬Follows RequestProgress.plain (InitResponse.failed bareRefusal) := by
  have failed : messageRound RequestProgress.plain.withConnectionSetup .serverToClient
      (X11ProtocolParser.initial fun _ => none) (answered (InitResponse.failed bareRefusal).encode) 0 =
        .error (.assertion "conn->status == Connection::OPEN") := RequestProgress.stops_error (by decide +kernel)
  have ended (fuel : Nat) : logServerMessages RequestProgress.plain.withConnectionSetup (fuel + 1)
      (X11ProtocolParser.initial fun _ => none) (answered (InitResponse.failed bareRefusal).encode) =
        .error (.assertion "conn->status == Connection::OPEN") := by
    change messageLoop _ _ (fuel + 1) _ (answered (InitResponse.failed bareRefusal).encode) 0 0 = _
    rw [messageLoop,failed,error_bind]
  refine ⟨ended,?_⟩
  intro follows
  have settles := follows.settled (X11ProtocolParser.initial fun _ => none)
    (answered (InitResponse.failed bareRefusal).encode) [] 0 rfl (answered_arrived (by decide))
  rw [ended 0] at settles
  cases settles

end SetupStatus
end Xtracepp
