import Xtracepp.ParseFunctions

/-! The parse functions of the source inside the loop that logs what a server sends: replies to
requests that are registered, events and errors are gone over to their end.
-/
namespace Xtracepp
open Library.Outcome Library.Window Library.Framing

namespace Encodings
open Formatting CountedLists

/-- The registered requests behind a response: an error answers its request, and a reply does,
unless it is one of a series. -/
def answered (littleEndian : Bool) (conn : Connection) (message : List UInt8) : Connection :=
  let sequence := ordered littleEndian conn.byteswap (slice message 2 2)
  if message.getD 0 0 = 0 then conn.unregisterRequest sequence
  else if message.getD 0 0 = 1 then
    if (conn.requestOpcodesBySeqNum sequence).map RequestOpcodes.major = some Opcodes.listFontsWithInfo ∧
        message.getD 1 0 ≠ 0 then conn
    else conn.unregisterRequest sequence
  else conn

/-- What a response leaves of the connection it came from. -/
def responseLogged (littleEndian : Bool) (conn : Connection) (message : List UInt8) : Connection :=
  (answered littleEndian conn message).withBuffer .serverToClient (goneOver conn.serverBuffer message)

/-- A response that its parse function accepts whole. -/
inductive Expected (parser : X11ProtocolParser) (reader : Reader) (conn : Connection)
    (message : List UInt8) : Prop
  | event (length : message.length = 32) (coded : message.getD 0 0 ≠ 0 ∧ message.getD 0 0 ≠ 1)
      (accepted : EventAccepted reader.littleEndian message)
  | error (length : message.length = 32) (first : message.getD 0 0 = 0)
      (known : coreErrors (message.getD 1 0) ≠ none)
  | core {opcodes : RequestOpcodes} {type : ReplyType} {counts : List Nat} (reply : Reply reader message)
      (registered : conn.requestOpcodesBySeqNum (reader.value message 2 2) = some opcodes)
      (found : replyType opcodes.major = some type) (formed : type.Formed reader message counts)
      (accepts : type.Accepts reader message)
  | unknown {opcodes : RequestOpcodes} (reply : Reply reader message)
      (registered : conn.requestOpcodesBySeqNum (reader.value message 2 2) = some opcodes)
      (func : parser.replyParseFunc opcodes = .ok .unknownRequest)

/-- Each response is accepted on the connection that the ones before it leave. -/
def AllExpected (littleEndian : Bool) (context : X11ProtocolParser → Context)
    (parser : X11ProtocolParser) : Connection → List (List UInt8) → Prop
  | _,[] => True
  | conn,message :: messages =>
    Expected parser (readerOf littleEndian context parser conn) conn message ∧
      AllExpected littleEndian context parser (responseLogged littleEndian conn message) messages

section responses

variable {settings : Settings} {context : X11ProtocolParser → Context} {parser : X11ProtocolParser}
  {conn : Connection} {data : Nat} {message more : List UInt8}

theorem answered_withBuffer (littleEndian : Bool) (buffer : SocketBuffer) :
    answered littleEndian (conn.withBuffer .serverToClient buffer) message =
      (answered littleEndian conn message).withBuffer .serverToClient buffer := by
  rw [answered,answered]
  by_cases error : message.getD 0 0 = 0
  · rw [if_pos error,if_pos error]
    rfl
  · rw [if_neg error,if_neg error]
    by_cases reply : message.getD 0 0 = 1
    · rw [if_pos reply,if_pos reply]
      by_cases series : (conn.requestOpcodesBySeqNum
          (ordered littleEndian conn.byteswap (slice message 2 2))).map RequestOpcodes.major =
            some Opcodes.listFontsWithInfo ∧ message.getD 1 0 ≠ 0
      · rw [if_pos series]
        exact if_pos series
      · rw [if_neg series]
        exact if_neg series
    · rw [if_neg reply,if_neg reply]

theorem answered_status (littleEndian : Bool) :
    (answered littleEndian conn message).status = conn.status := by
  unfold answered
  dsimp only
  split
  · rfl
  · split
    · split
      · rfl
      · rfl
    · rfl

theorem reply_first {reader : Reader} (reply : Reply reader message) : message.getD 0 0 = 1 := by
  have framed := reply.framed
  have first := reply.first
  rw [value_byte (by omega)] at first
  exact UInt8.toNat_inj.mp first

theorem reply_nonzero {reader : Reader} (reply : Reply reader message) : message.getD 0 0 ≠ 0 := by
  rw [reply_first reply]
  decide

theorem Expected.framed {reader : Reader} (expected : Expected parser reader conn message)
    (order : settings.littleEndian = reader.littleEndian) :
    32 ≤ message.length ∧ message.length < 2^32 ∧ ∃ header,
      frame settings .serverToClient .opened reader.byteswap message =
        some (.sized reader.byteswap message.length header) := by
  have short (length : message.length = 32) (other : message.getD 0 0 ≠ 1) :
      32 ≤ message.length ∧ message.length < 2^32 ∧ ∃ header,
        frame settings .serverToClient .opened reader.byteswap message =
          some (.sized reader.byteswap message.length header) := by
    refine ⟨by omega,by omega,4,?_⟩
    rw [frame]
    dsimp only
    rw [if_neg (by omega),if_neg other,length]
  have replied (reply : Reply reader message) :
      32 ≤ message.length ∧ message.length < 2^32 ∧ ∃ header,
        frame settings .serverToClient .opened reader.byteswap message =
          some (.sized reader.byteswap message.length header) := by
    have framed := reply.framed
    have small := reply.small
    refine ⟨by omega,small,8,?_⟩
    rw [frame]
    dsimp only
    rw [if_neg (by omega),if_pos (reply_first reply),if_neg (by omega),order]
    change some (Measure.sized _ (32 + Alignment.size (reader.value message 4 4)) 8) = _
    rw [Alignment.size_small (by omega),Nat.mul_comm,← framed]
  cases expected with
  | event length coded accepted => exact short length coded.2
  | error length first known => exact short length (by rw [first]; decide)
  | core reply registered found formed accepts => exact replied reply
  | unknown reply registered func => exact replied reply

theorem response_sequence (unparsed : Unparsed conn.serverBuffer data (message ++ more))
    (long : 4 ≤ message.length) :
    (handling .serverToClient conn message).serverBuffer.buffer.field settings.littleEndian
      conn.byteswap (data + 2) 2 = .ok (ordered settings.littleEndian conn.byteswap (slice message 2 2)) :=
  unparsed.field settings.littleEndian conn.byteswap long

/-- The code that selects a parse function of an event is the one it is logged under. -/
theorem eventType_traits {code : UInt8} {type : EventType} (found : eventType code = some type) :
    ∃ traits,coreEvents code = some traits ∧ traits.code = code := by
  have table := eventType_table code
  obtain ⟨_,own⟩ := eventType_listed found
  rw [found,Option.map_some,own] at table
  cases known : coreEvents code with
  | none =>
    rw [known] at table
    cases table
  | some traits =>
    rw [known,Option.map_some] at table
    exact ⟨traits,rfl,(Option.some.inj table).symm⟩

theorem coreErrors_code {code : UInt8} {traits : CodeTraits} (known : coreErrors code = some traits) :
    traits.code = code := by
  rw [coreErrors] at known
  split at known
  · cases known
    rfl
  · cases known

theorem event_logged (unparsed : Unparsed conn.serverBuffer data (message ++ more))
    (standard : Dispatch.Standard parser) (length : message.length = 32)
    (coded : message.getD 0 0 ≠ 0 ∧ message.getD 0 0 ≠ 1)
    (accepted : EventAccepted settings.littleEndian message) :
    logEvent (settings.withParseFunctions context) parser (handling .serverToClient conn message)
        data message.length =
      .ok ⟨parser,answered settings.littleEndian (handling .serverToClient conn message) message,
        message.length⟩ := by
  obtain ⟨type,found,accepted⟩ := accepted
  obtain ⟨listed,code⟩ := eventType_listed found
  obtain ⟨traits,known,own⟩ := eventType_traits found
  have usable := events_usable type listed
  have first : (handling .serverToClient conn message).serverBuffer.buffer.byte data =
      .ok (message.getD 0 0) := unparsed.byte (by omega : 0 < message.length)
  have ran : (settings.withParseFunctions context).parse.event traits.code parser
      (handling .serverToClient conn message) data message.length = .ok message.length := by
    rw [own]
    refine @Unparsed.ran parser .serverToClient conn data message more unparsed _ _
      (fun reader => reader.parseEventCode (message.getD 0 0 &&& 0x7F)) rfl fun rest => ?_
    obtain ⟨outputs,done⟩ := (@parseEventType_iff (readerOf settings.littleEndian context parser
      (handling .serverToClient conn message)) message rest type usable length code.symm).mpr accepted
    refine ⟨outputs,?_,?_⟩
    · rw [Reader.parseEventCode,found,length]
      exact done
    · rw [length]
      exact (parseEventType_whole usable length code.symm done).2
  rw [logEvent,assert,demand_true (by omega),ok_bind,first,ok_bind,standard.events,known]
  dsimp only
  rw [ran,ok_bind,assert,demand_true length,ok_bind,answered,if_neg coded.1,
    if_neg coded.2]
  rfl

theorem error_logged (unparsed : Unparsed conn.serverBuffer data (message ++ more))
    (standard : Dispatch.Standard parser) (length : message.length = 32) (first : message.getD 0 0 = 0)
    (known : coreErrors (message.getD 1 0) ≠ none) :
    logError (settings.withParseFunctions context) parser (handling .serverToClient conn message)
        data message.length =
      .ok ⟨parser,answered settings.littleEndian (handling .serverToClient conn message) message,
        message.length⟩ := by
  have error : (handling .serverToClient conn message).serverBuffer.buffer.byte data =
      .ok (message.getD 0 0) := unparsed.byte (by omega : 0 < message.length)
  have code : (handling .serverToClient conn message).serverBuffer.buffer.byte (data + 1) =
      .ok (message.getD 1 0) := unparsed.byte (by omega : 1 < message.length)
  have sequence := @response_sequence settings conn data message more unparsed (by omega)
  obtain ⟨traits,table⟩ := Option.ne_none_iff_exists'.mp known
  have own := coreErrors_code table
  have ran : (settings.withParseFunctions context).parse.error traits.code parser
      (handling .serverToClient conn message) data message.length = .ok message.length := by
    rw [own]
    refine @Unparsed.ran parser .serverToClient conn data message more unparsed _ _
      (fun reader => reader.parseErrorCode (message.getD 1 0)) rfl fun rest => ?_
    rw [length]
    exact parseErrorCode_done known length first rfl
  rw [logError,assert,demand_true (by omega),ok_bind,error,ok_bind,assert,demand_true first,ok_bind,
    code,ok_bind]
  have field : (settings.withParseFunctions context).littleEndian = settings.littleEndian := rfl
  have swap : (handling .serverToClient conn message).byteswap = conn.byteswap := rfl
  rw [field,swap,sequence,ok_bind,standard.errors,table]
  dsimp only
  rw [ran,ok_bind,answered,if_pos first]
  rfl

/-- A reply answers its request when its parse function takes it whole. -/
theorem reply_logged (unparsed : Unparsed conn.serverBuffer data (message ++ more))
    {opcodes : RequestOpcodes} {func : ReplyParse}
    (reply : Reply (readerOf settings.littleEndian context parser conn) message)
    (registered : conn.requestOpcodesBySeqNum
      (ordered settings.littleEndian conn.byteswap (slice message 2 2)) = some opcodes)
    (chosen : parser.replyParseFunc opcodes = .ok func)
    (ran : parseReply (settings.withParseFunctions context) parser (handling .serverToClient conn message)
      data message.length func = .ok ⟨parser,handling .serverToClient conn message,message.length⟩) :
    logReply (settings.withParseFunctions context) parser (handling .serverToClient conn message)
        data message.length =
      .ok ⟨parser,answered settings.littleEndian (handling .serverToClient conn message) message,
        message.length⟩ := by
  have framed := reply.framed
  have first := reply_first reply
  have code : (handling .serverToClient conn message).serverBuffer.buffer.byte data =
      .ok (message.getD 0 0) := unparsed.byte (by omega : 0 < message.length)
  have last : (handling .serverToClient conn message).serverBuffer.buffer.byte (data + 1) =
      .ok (message.getD 1 0) := unparsed.byte (by omega : 1 < message.length)
  have sequence := @response_sequence settings conn data message more unparsed (by omega)
  have same : (handling .serverToClient conn message).requestOpcodesBySeqNum
      (ordered settings.littleEndian conn.byteswap (slice message 2 2)) = some opcodes := registered
  have looked : (handling .serverToClient conn message).lookupRequest
      (ordered settings.littleEndian conn.byteswap (slice message 2 2)) = .ok opcodes := by
    rw [Connection.lookupRequest,same]
  have field : (settings.withParseFunctions context).littleEndian = settings.littleEndian := rfl
  have swap : (handling .serverToClient conn message).byteswap = conn.byteswap := rfl
  rw [logReply]
  dsimp only
  rw [assert,demand_true (by omega),ok_bind,code,ok_bind,assert,demand_true first,ok_bind,field,swap,
    sequence,ok_bind,looked,ok_bind,chosen,ok_bind,ran,ok_bind,last,ok_bind]
  dsimp only
  rw [assert,demand_true (by omega),ok_bind,assert,demand_true (Nat.le_refl _),ok_bind]
  rw [answered,if_neg (reply_nonzero reply),if_pos first,swap,same,Option.map_some]
  by_cases series : opcodes.major = Opcodes.listFontsWithInfo ∧ message.getD 1 0 ≠ 0
  · have continues : ¬(opcodes.major ≠ Opcodes.listFontsWithInfo ∨ message.getD 1 0 = 0) := by
      rintro (other | last)
      · exact other series.1
      · exact series.2 last
    rw [if_neg continues,if_pos ⟨congrArg some series.1,series.2⟩]
    rfl
  · have ends : opcodes.major ≠ Opcodes.listFontsWithInfo ∨ message.getD 1 0 = 0 := by
      by_contra neither
      rw [not_or,not_not] at neither
      exact series neither
    rw [if_pos ends,if_neg fun both => series ⟨Option.some.inj both.1,both.2⟩]
    rfl

theorem reply_func (standard : Dispatch.Standard parser) {opcodes : RequestOpcodes} {type : ReplyType}
    (found : replyType opcodes.major = some type) :
    parser.replyParseFunc opcodes = .ok (.core opcodes.major) := by
  have table := replyType_table opcodes.major
  rw [found,Option.isSome_some] at table
  have parts := table.symm
  rw [Bool.and_eq_true,Bool.and_eq_true,bne_iff_ne,bne_iff_ne] at parts
  obtain ⟨⟨listed,atom⟩,query⟩ := parts
  have listed : opcodes.major ∈ Opcodes.answered := List.elem_iff.mp listed
  have core : ∀ code ∈ Opcodes.answered,1 ≤ code ∧ code ≤ 119 := by decide +kernel
  have traits : coreRequests opcodes.major =
      some (.request ⟨.core opcodes.major,some (.core opcodes.major)⟩) := by
    rw [coreRequests,if_neg atom,if_neg query,if_pos (.inl (core _ listed)),if_pos listed]
  rw [X11ProtocolParser.replyParseFunc,standard.core _ _ traits]

theorem unknownReply_complete {reader : Reader} (reply : Reply reader message) (rest : List UInt8) :
    Complete (reader.parseReplyLayout Replies.UnknownRequest (message ++ rest) message.length) []
      message.length := by
  have usable : Replies.UnknownRequest.usable = true := by decide
  have unchecked : ∀ member ∈ Replies.UnknownRequest.members,member.unchecked = true := by decide
  have framed := reply.framed
  have long : 32 ≤ message.length := by omega
  have formed : Replies.UnknownRequest.Formed reader message [] := ⟨long,[],rfl,rfl⟩
  refine (parseReplyLayout_formed usable reply formed).mpr ⟨?_,trivial⟩
  exact fun member listed => unchecked_accepted (unchecked member listed)

theorem response_handler (unparsed : Unparsed conn.serverBuffer data (message ++ more))
    (opened : conn.status = .opened) (some : 0 < message.length) :
    selectHandler .serverToClient (handling .serverToClient conn message) data =
      .ok (.some (if message.getD 0 0 = 0 then .error else if message.getD 0 0 = 1 then .reply
        else .event)) := by
  have first : conn.serverBuffer.buffer.byte data = .ok (message.getD 0 0) := unparsed.byte some
  simp only [selectHandler,Connection.withBuffer,opened]
  change (do
    let first ← conn.serverBuffer.buffer.byte data
    return Option.some (if first = 0 then Handler.error else if first = 1 then .reply else .event) :
      Checked (Option Handler)) = _
  rw [first,ok_bind]
  rfl

/-- A round ends as the handler of the response does. -/
theorem response_finish (unparsed : Unparsed conn.serverBuffer data (message ++ more))
    (opened : conn.status = .opened)
    (expected : Expected parser (readerOf settings.littleEndian context parser conn) conn message)
    {handler : Option Handler}
    (chosen : selectHandler .serverToClient (handling .serverToClient conn message) data = .ok handler)
    (ran : runHandler (settings.withParseFunctions context) parser
      (handling .serverToClient conn message) data message.length handler =
        .ok ⟨parser,answered settings.littleEndian (handling .serverToClient conn message) message,
          message.length⟩) :
    messageRound (settings.withParseFunctions context) .serverToClient parser conn data =
      .ok (.handled handler
        ⟨parser,responseLogged settings.littleEndian conn message,message.length⟩) := by
  obtain ⟨long,small,header,framed⟩ :=
    @Expected.framed (settings.withParseFunctions context) _ _ _ _ expected rfl
  have whole : frame (settings.withParseFunctions context) .serverToClient conn.status conn.byteswap
      message = some (.sized conn.byteswap message.length header) := by
    rw [opened]
    exact framed
  have kept : (answered settings.littleEndian (handling .serverToClient conn message) message).buffer
      .serverToClient = sizedFor (conn.buffer .serverToClient) message := by
    rw [answered_withBuffer]
    rfl
  have left : (answered settings.littleEndian (handling .serverToClient conn message) message).withBuffer
      .serverToClient (goneOver (conn.buffer .serverToClient) message) =
        responseLogged settings.littleEndian conn message := by
    rw [answered_withBuffer]
    rfl
  rw [← left]
  exact @Unparsed.round (settings.withParseFunctions context) parser .serverToClient conn data message
    more unparsed header _ _ (by omega) small opened whole chosen ran kept

/-- A round goes over a response, and its request is answered. -/
theorem response_round (unparsed : Unparsed conn.serverBuffer data (message ++ more))
    (opened : conn.status = .opened) (standard : Dispatch.Standard parser)
    (expected : Expected parser (readerOf settings.littleEndian context parser conn) conn message) :
    ∃ handler,messageRound (settings.withParseFunctions context) .serverToClient parser conn data =
      .ok (.handled handler
        ⟨parser,responseLogged settings.littleEndian conn message,message.length⟩) := by
  have long := (@Expected.framed (settings.withParseFunctions context) _ _ _ _ expected rfl).1
  have chosen := response_handler unparsed opened (by omega)
  have finish := @response_finish settings context parser conn data message more unparsed opened expected
  cases expected with
  | event length coded accepted =>
    rw [if_neg coded.1,if_neg coded.2] at chosen
    exact ⟨_,finish chosen (event_logged unparsed standard length coded accepted)⟩
  | error length first known =>
    rw [if_pos first] at chosen
    exact ⟨_,finish chosen (error_logged unparsed standard length first known)⟩
  | @core opcodes type counts reply registered found formed accepts =>
    have ran : (settings.withParseFunctions context).parse.reply opcodes.major parser
        (handling .serverToClient conn message) data message.length = .ok message.length := by
      refine @Unparsed.ran parser .serverToClient conn data message more unparsed _ _
        (fun reader => reader.parseReplyCode opcodes.major) rfl fun rest => ?_
      rw [Reader.parseReplyCode,found]
      exact complete_whole ((parseReplyType_complete rest found reply formed).mpr accepts)
    rw [if_neg (reply_nonzero reply),if_pos (reply_first reply)] at chosen
    refine ⟨_,finish chosen (reply_logged unparsed reply registered (reply_func standard found) ?_)⟩
    rw [parseReply,ran]
    rfl
  | unknown reply registered func =>
    have ran : (settings.withParseFunctions context).parse.unknownReply parser
        (handling .serverToClient conn message) data message.length = .ok message.length :=
      @Unparsed.ran parser .serverToClient conn data message more unparsed _ _
        (fun reader => reader.parseReplyLayout Replies.UnknownRequest) rfl
        fun rest => complete_whole (unknownReply_complete reply rest)
    rw [if_neg (reply_nonzero reply),if_pos (reply_first reply)] at chosen
    refine ⟨_,finish chosen (reply_logged unparsed reply registered func ?_)⟩
    rw [parseReply,ran]
    rfl

/-- Whatever responses a server has sent, as long as each is accepted when it comes and each reply
finds its request, the loop goes over all of them without a failed assertion. -/
theorem responses_logged {messages : List (List UInt8)} {fuel : Nat}
    (unparsed : Unparsed conn.serverBuffer conn.serverBuffer.data messages.flatten)
    (opened : conn.status = .opened) (standard : Dispatch.Standard parser)
    (expected : AllExpected settings.littleEndian context parser conn messages)
    (enough : messages.length < fuel) :
    logServerMessages (settings.withParseFunctions context) fuel parser conn =
      .ok (some ⟨parser,messages.foldl (responseLogged settings.littleEndian) conn,
        messages.flatten.length,none⟩) := by
  have counted := unparsed.counted
  have done := @messageLoop_rounds (settings.withParseFunctions context) parser .serverToClient conn
    conn.serverBuffer.data (responseLogged settings.littleEndian)
    (fun conn messages => conn.status = .opened ∧
      AllExpected settings.littleEndian context parser conn messages)
    (fun unparsed ready => ⟨response_round unparsed ready.1 standard ready.2.1,rfl,
      (answered_status settings.littleEndian).trans ready.1,ready.2.2⟩)
    messages fuel 0 unparsed ⟨opened,expected⟩ enough (by omega)
  rw [Nat.zero_add] at done
  exact done

end responses

/-- The reply to an AllocColor request, and an error that follows it. -/
def allocated : List UInt8 := [1,0,1,0] ++ List.replicate 28 0
def refused : List UInt8 := [0,2,2,0] ++ List.replicate 28 0

/-- A connection with an AllocColor request that is registered, and bytes from its server. -/
def awaitingColor (bytes : List UInt8) : Connection :=
  { (Connection.initial 0).registerRequest 84 0 with
    status := .opened
    serverBuffer := (SocketBuffer.initial 0).appended bytes }

theorem responses_logged_two :
    logServerMessages (RequestProgress.plain.withParseFunctions fun _ => plain.context) 3
        RequestProgress.fresh (awaitingColor [allocated,refused].flatten) =
      .ok (some ⟨RequestProgress.fresh,
        [allocated,refused].foldl (responseLogged true) (awaitingColor [allocated,refused].flatten),
          [allocated,refused].flatten.length,none⟩) := by
  have unchecked : ∀ member ∈ Replies.AllocColor.members,member.unchecked = true := by decide
  apply @responses_logged RequestProgress.plain (fun _ => plain.context) RequestProgress.fresh
    (awaitingColor [allocated,refused].flatten) [allocated,refused] 3
  · exact ⟨RequestProgress.opened_sound (by decide),rfl,rfl,by decide,by decide⟩
  · rfl
  · exact Dispatch.initial_standard _
  · refine ⟨?_,?_,trivial⟩
    · exact @Expected.core _ _ _ allocated ⟨84,0⟩ (.own Replies.AllocColor) []
        ⟨by decide,by decide,by decide⟩ rfl rfl ⟨by decide,[],rfl,rfl,rfl⟩
        ⟨fun member listed => unchecked_accepted (unchecked member listed),trivial⟩
    · exact .error rfl rfl (by decide)
  · decide

end Encodings
end Xtracepp
