import Xtracepp.CoreRequests
import Xtracepp.ReplyTable
import Xtracepp.RequestProgress
import Xtracepp.Dispatch

/-! The parse functions of the source inside the loop that logs requests: what a client sends is
gone over to its end, as long as each of its requests is accepted.
-/
namespace Xtracepp
open Library.Outcome Library.Window Library.Framing

namespace Encodings
open Formatting CountedLists

/-- What the parse functions know beside a message. -/
def readerOf (littleEndian : Bool) (context : X11ProtocolParser → Context)
    (parser : X11ProtocolParser) (conn : Connection) : Reader where
  littleEndian := littleEndian
  byteswap := conn.byteswap
  bigRequests := conn.extensionEnabled bigRequestsName
  context := context parser

/-- A parse function reads the buffer from the message on. -/
def inBuffer (direction : Direction) (reader : X11ProtocolParser → Connection → Reader)
    (parse : Reader → List UInt8 → Nat → Checked Outputs) : ParseFunc := fun parser conn data sz => do
  let storage := (conn.buffer direction).buffer
  let bytes ← storage.fetch data (storage.size - data)
  return (← parse (reader parser conn) bytes sz).bytes_parsed

end Encodings

open Encodings in
/-- Settings whose functions for requests, replies, events and errors are those of the source. -/
def Settings.withParseFunctions (settings : Settings) (context : X11ProtocolParser → Formatting.Context) :
    Settings :=
  let reader := readerOf settings.littleEndian context
  { settings with
    parse := { settings.parse with
      request := fun code => inBuffer .clientToServer reader fun reader => reader.parseRequestCode code
      reply := fun code => inBuffer .serverToClient reader fun reader => reader.parseReplyCode code
      event := fun code => inBuffer .serverToClient reader fun reader => reader.parseEventCode code
      error := fun code => inBuffer .serverToClient reader fun reader => reader.parseErrorCode code
      unknownRequest := inBuffer .clientToServer reader fun reader =>
        reader.parseLayout Requests.UnknownRequest
      unknownReply := inBuffer .serverToClient reader fun reader =>
        reader.parseReplyLayout Replies.UnknownRequest
      bigReqEnable := inBuffer .clientToServer reader fun reader => reader.parseBigReqEnable } }

namespace Encodings
open Formatting CountedLists

/-- A request that its parse function accepts whole. -/
inductive Accepted (parser : X11ProtocolParser) (reader : Reader) (message : List UInt8) : Prop
  | core {type : RequestType} {big_request : Bool} {counts : List Nat}
      (found : requestType (message.getD 0 0) = some type)
      (request : Request reader message type.encodingSz big_request)
      (formed : type.Formed reader big_request message counts)
      (accepts : type.Accepts reader big_request message)
  | unknown {big_request : Bool} (request : Request reader message 0 big_request)
      (func : parser.requestParseFunc (message.getD 0 0) (message.getD 1 0) = .unknownRequest)
  | bigReqEnable {big_request : Bool} (request : Request reader message 0 big_request)
      (func : parser.requestParseFunc (message.getD 0 0) (message.getD 1 0) = .bigReqEnable)
      (minor : message.getD 1 0 = 0) (whole : message.length = start big_request)

/-- A buffer whose bytes from `data` on are not gone over yet. -/
structure Unparsed (buffer : SocketBuffer) (data : Nat) (bytes : List UInt8) : Prop where
  sound : buffer.Sound
  unset : buffer.nextMessageSz = SocketBuffer.unknownSz
  place : data = buffer.data + buffer.bytesParsed
  length : buffer.size = buffer.bytesParsed + bytes.length
  contents : window buffer.buffer.cells data bytes.length = bytes

/-- With the size of the next message set. -/
def sizedFor (buffer : SocketBuffer) (message : List UInt8) : SocketBuffer :=
  { buffer with nextMessageSz := message.length }

/-- With the next message marked as parsed. -/
def goneOver (buffer : SocketBuffer) (message : List UInt8) : SocketBuffer :=
  { buffer with bytesParsed := buffer.bytesParsed + message.length }

section buffers

variable {buffer : SocketBuffer} {data : Nat} {message more : List UInt8}

theorem Unparsed.inside {bytes : List UInt8} (unparsed : Unparsed buffer data bytes) :
    data + bytes.length ≤ buffer.buffer.size := by
  have filled := unparsed.sound.data_size
  have inside := unparsed.sound.readLe
  have place := unparsed.place
  have length := unparsed.length
  omega

theorem Unparsed.front (unparsed : Unparsed buffer data (message ++ more)) :
    window buffer.buffer.cells data message.length = message := by
  have contents := unparsed.contents
  rw [List.length_append,window_append] at contents
  exact (List.append_inj contents (window_length _ _ _)).1

theorem Unparsed.back (unparsed : Unparsed buffer data (message ++ more)) :
    window buffer.buffer.cells (data + message.length) more.length = more := by
  have contents := unparsed.contents
  rw [List.length_append,window_append] at contents
  exact (List.append_inj contents (window_length _ _ _)).2

theorem Unparsed.fetch (unparsed : Unparsed buffer data (message ++ more)) :
    ∃ rest,buffer.buffer.fetch data (buffer.buffer.size - data) = .ok (message ++ rest) := by
  have inside := unparsed.inside
  rw [List.length_append] at inside
  obtain ⟨room,split⟩ : ∃ room,buffer.buffer.size - data = message.length + room :=
    ⟨_,(Nat.add_sub_cancel' (by omega)).symm⟩
  refine ⟨window buffer.buffer.cells (data + message.length) room,?_⟩
  rw [Storage.fetch,if_pos (by omega),split,window_append,unparsed.front]

theorem Unparsed.byte (unparsed : Unparsed buffer data (message ++ more)) {offset : Nat}
    (below : offset < message.length) :
    buffer.buffer.byte (data + offset) = .ok (message.getD offset 0) := by
  have inside := unparsed.inside
  have front := unparsed.front
  rw [List.length_append] at inside
  have there : message[offset]? = some (buffer.buffer.cells (data + offset)) := by
    rw [← front,List.getElem?_eq_getElem (by rw [window_length]; exact below),window_getElem]
  rw [List.getElem?_eq_getElem below] at there
  rw [Storage.byte_inside (by omega),List.getD_eq_getElem _ _ below,Option.some.inj there]

theorem Unparsed.field (unparsed : Unparsed buffer data (message ++ more)) (littleEndian byteswap : Bool)
    {offset count : Nat} (within : offset + count ≤ message.length) :
    buffer.buffer.field littleEndian byteswap (data + offset) count =
      .ok (ordered littleEndian byteswap (slice message offset count)) := by
  have inside := unparsed.inside
  have front := unparsed.front
  rw [List.length_append] at inside
  have there : slice message offset count = window buffer.buffer.cells (data + offset) count := by
    rw [← front,slice,window_drop _ _ _ _ (by omega),window_take _ _ _ _ (by omega)]
  rw [Storage.field_inside _ _ (by omega),there]

theorem Unparsed.marked (unparsed : Unparsed buffer data (message ++ more))
    (small : message.length < 2^32) :
    (sizedFor buffer message).markMessageParsed = .ok (goneOver buffer message) := by
  have length := unparsed.length
  rw [List.length_append] at length
  have total := unparsed.sound.size_eq
  have bounded := unparsed.sound.read_lt
  have sum : add64 buffer.bytesParsed message.length = buffer.bytesParsed + message.length :=
    add64_small (by omega)
  have set : (sizedFor buffer message).messageSizeSet = true := by
    refine bne_iff_ne.mpr ?_
    change message.length ≠ 2^64 - 1
    omega
  have inside : add64 (sizedFor buffer message).bytesParsed (sizedFor buffer message).nextMessageSz ≤
      (sizedFor buffer message).size := by
    change add64 buffer.bytesParsed message.length ≤ buffer.size
    omega
  rw [SocketBuffer.markMessageParsed,assert,demand_true set,ok_bind,assert,demand_true inside,ok_bind]
  change (Except.ok { buffer with
    bytesParsed := add64 buffer.bytesParsed message.length
    nextMessageSz := SocketBuffer.unknownSz } : Checked SocketBuffer) = _
  rw [sum,← unparsed.unset]
  rfl

theorem Unparsed.whole (unparsed : Unparsed buffer data (message ++ more))
    (small : message.length < 2^32) : (sizedFor buffer message).incompleteMessage = false := by
  have length := unparsed.length
  rw [List.length_append] at length
  have sound : (sizedFor buffer message).Sound :=
    { unparsed.sound with
      pendingLt := by
        change message.length < 2^64
        omega }
  rw [Bool.eq_false_iff]
  intro waiting
  have short := ((Lane.incomplete_iff sound).mp waiting).2 (bne_iff_ne.mpr (by
    change message.length ≠ 2^64 - 1
    omega))
  change buffer.size - buffer.bytesParsed < message.length at short
  omega

theorem Unparsed.next (unparsed : Unparsed buffer data (message ++ more)) :
    Unparsed (goneOver buffer message) (data + message.length) more := by
  have length := unparsed.length
  have place := unparsed.place
  have total := unparsed.sound.size_eq
  rw [List.length_append] at length
  refine ⟨?_,unparsed.unset,?_,?_,unparsed.back⟩
  · exact { unparsed.sound with
      parsedLe := by
        change buffer.bytesParsed + message.length ≤ buffer.bytesRead - buffer.bytesWritten
        omega }
  · change data + message.length = buffer.data + (buffer.bytesParsed + message.length)
    omega
  · change buffer.size = buffer.bytesParsed + message.length + more.length
    omega

end buffers

/-- The connection while a message is handled: its buffer knows the size of the message. -/
abbrev handling (direction : Direction) (conn : Connection) (message : List UInt8) : Connection :=
  conn.withBuffer direction (sizedFor (conn.buffer direction) message)

section rounds

variable {settings : Settings} {context : X11ProtocolParser → Context} {parser : X11ProtocolParser}
  {direction : Direction} {conn : Connection} {data : Nat} {message more : List UInt8}

theorem Unparsed.sized (unparsed : Unparsed (conn.buffer direction) data (message ++ more))
    {header : Nat} (small : message.length < 2^32)
    (framed : frame settings direction conn.status conn.byteswap message =
      some (.sized conn.byteswap message.length header)) :
    sizeMessage settings direction conn data = .ok (.known (handling direction conn message)) := by
  have inside := unparsed.inside
  have length := unparsed.length
  rw [List.length_append] at inside length
  rw [← unparsed.front,window_length] at framed
  have given := @measureMessage_frame settings direction conn data message.length message.length
    header conn.byteswap (by omega) (by omega) framed
  have known : message.length ≠ SocketBuffer.unknownSz := by
    change message.length ≠ 2^64 - 1
    omega
  have unset : (conn.buffer direction).messageSizeSet = false := by
    rw [SocketBuffer.messageSizeSet,unparsed.unset,bne_self_eq_false]
  rw [sizeMessage,if_neg (by simp [unset]),given,ok_bind]
  dsimp only
  rw [SocketBuffer.setMessageSize,assert,demand_true known,ok_bind,assert,demand_true unset,ok_bind]
  cases direction <;> rfl

/-- A round goes over a message that its handler takes whole. -/
theorem Unparsed.round (unparsed : Unparsed (conn.buffer direction) data (message ++ more))
    {header : Nat} {handler : Option Handler} {after : Connection} (some : 0 < message.length)
    (small : message.length < 2^32) (opened : conn.status = .opened)
    (framed : frame settings direction conn.status conn.byteswap message =
      .some (.sized conn.byteswap message.length header))
    (chosen : selectHandler direction (handling direction conn message) data = .ok handler)
    (ran : runHandler settings parser (handling direction conn message) data message.length handler =
      .ok ⟨parser,after,message.length⟩)
    (kept : after.buffer direction = sizedFor (conn.buffer direction) message) :
    messageRound settings direction parser conn data = .ok (.handled handler
      ⟨parser,after.withBuffer direction (goneOver (conn.buffer direction) message),message.length⟩) := by
  have length := unparsed.length
  rw [List.length_append] at length
  have pending : (conn.buffer direction).parsed < (conn.buffer direction).size := by
    change (conn.buffer direction).bytesParsed < _
    omega
  have here : (handling direction conn message).buffer direction =
      sizedFor (conn.buffer direction) message := by
    cases direction <;> rfl
  have status : (handling direction conn message).status ≠ .authentication := by
    have same : (handling direction conn message).status = conn.status := by cases direction <;> rfl
    rw [same,opened]
    decide
  have size : (sizedFor (conn.buffer direction) message).messageSize = message.length := rfl
  have taken : (⟨parser,after,message.length⟩ : Logged).bytesParsed =
      ((⟨parser,after,message.length⟩ : Logged).conn.buffer direction).messageSize := by
    dsimp only
    rw [kept,size]
  have given : handOver settings direction parser (handling direction conn message) data =
      .ok (handler,⟨parser,after,message.length⟩) := by
    rw [handOver,assert,demand_true status,ok_bind,chosen,ok_bind,here,size,ran,ok_bind,assert,
      demand_true taken,ok_bind]
    rfl
  rw [messageRound,if_pos pending,unparsed.sized small framed,ok_bind]
  dsimp only
  rw [here,if_neg (by simp [unparsed.whole small]),given,ok_bind]
  dsimp only
  rw [kept,unparsed.marked small,ok_bind]
  rfl

/-- A parse function that takes a message whole does so in the buffer. -/
theorem Unparsed.ran (unparsed : Unparsed (conn.buffer direction) data (message ++ more))
    {after : Connection} (reader : X11ProtocolParser → Connection → Reader)
    (parse : Reader → List UInt8 → Nat → Checked Outputs)
    (stored : (after.buffer direction).buffer = (conn.buffer direction).buffer)
    (whole : ∀ rest,∃ outputs,parse (reader parser after) (message ++ rest) message.length = .ok outputs ∧
      outputs.bytes_parsed = message.length) :
    inBuffer direction reader parse parser after data message.length = .ok message.length := by
  obtain ⟨rest,fetched⟩ := unparsed.fetch
  obtain ⟨outputs,done,size⟩ := whole rest
  rw [inBuffer]
  change (do
    let bytes ← (after.buffer direction).buffer.fetch data ((after.buffer direction).buffer.size - data)
    return (← parse (reader parser after) bytes message.length).bytes_parsed : Checked Nat) = _
  rw [stored,fetched,ok_bind,done,ok_bind,size]
  rfl

theorem complete_whole {result : Checked Outputs} {counts : List Nat} {size : Nat}
    (complete : Complete result counts size) :
    ∃ outputs,result = .ok outputs ∧ outputs.bytes_parsed = size := by
  obtain ⟨outputs,done,_,whole⟩ := complete
  exact ⟨outputs,done,whole⟩

/-- When every round goes over the next message and leaves the rest in order, the loop goes over
all of them. -/
theorem messageLoop_rounds {next : Connection → List UInt8 → Connection}
    {Ready : Connection → List (List UInt8) → Prop}
    (round : ∀ {conn : Connection} {data : Nat} {message : List UInt8} {messages : List (List UInt8)},
      Unparsed (conn.buffer direction) data (message ++ messages.flatten) →
      Ready conn (message :: messages) →
        (∃ handler,messageRound settings direction parser conn data =
          .ok (.handled handler ⟨parser,next conn message,message.length⟩)) ∧
        (next conn message).buffer direction = goneOver (conn.buffer direction) message ∧
        Ready (next conn message) messages)
    {messages : List (List UInt8)} {fuel total : Nat}
    (unparsed : Unparsed (conn.buffer direction) data messages.flatten) (ready : Ready conn messages)
    (enough : messages.length < fuel) (bound : total + messages.flatten.length < 2^64) :
    messageLoop settings direction fuel parser conn data total =
      .ok (some ⟨parser,messages.foldl next conn,total + messages.flatten.length,none⟩) := by
  induction messages generalizing conn data fuel total with
  | nil =>
    obtain ⟨fuel,rfl⟩ : ∃ less,fuel = less + 1 := ⟨fuel - 1,by omega⟩
    have length := unparsed.length
    have drained : ¬(conn.buffer direction).parsed < (conn.buffer direction).size := by
      change ¬(conn.buffer direction).bytesParsed < _
      rw [length]
      exact Nat.lt_irrefl _
    rw [messageLoop,messageRound,if_neg drained]
    rfl
  | cons message messages ih =>
    obtain ⟨fuel,rfl⟩ : ∃ less,fuel = less + 1 := ⟨fuel - 1,by rw [List.length_cons] at enough; omega⟩
    rw [List.length_cons] at enough
    rw [List.flatten_cons] at unparsed
    rw [List.flatten_cons,List.length_append] at bound ⊢
    obtain ⟨⟨handler,gone⟩,buffer,ready⟩ := round unparsed ready
    have later := unparsed.next
    rw [← buffer] at later
    have rest := @ih (next conn message) (data + message.length) fuel (total + message.length) later
      ready (by omega) (by omega)
    rw [messageLoop,gone,ok_bind]
    dsimp only
    rw [add64_small (by omega),rest,List.foldl_cons,Nat.add_assoc]

/-- What is in a buffer is short enough to be counted. -/
theorem Unparsed.counted {buffer : SocketBuffer} {bytes : List UInt8}
    (unparsed : Unparsed buffer data bytes) : bytes.length < 2^64 := by
  have length := unparsed.length
  have total := unparsed.sound.size_eq
  have bounded := unparsed.sound.read_lt
  omega

end rounds

/-- What a request leaves of the connection it came from. -/
def requestLogged (conn : Connection) (message : List UInt8) : Connection :=
  { conn.registerRequest (message.getD 0 0) 0 with clientBuffer := goneOver conn.clientBuffer message }

section requests

variable {settings : Settings} {context : X11ProtocolParser → Context} {parser : X11ProtocolParser}
  {conn : Connection} {data : Nat} {message more : List UInt8}

/-- A request is framed by its own first bytes. -/
theorem request_frame {reader : Reader} {fixed : Nat} {big_request : Bool}
    (request : Request reader message fixed big_request)
    (order : settings.littleEndian = reader.littleEndian) :
    frame settings .clientToServer .opened reader.byteswap message =
      some (.sized reader.byteswap message.length (start big_request)) := by
  have long := request.long
  have framed := request.framed
  have small := request.small
  have flag : ordered settings.littleEndian false (slice message 2 2) = 0 ↔ big_request = true := by
    rw [← request.flag,Reader.value,RequestProgress.ordered_zero,RequestProgress.ordered_zero]
  have header : 4 ≤ start big_request := by
    unfold start
    split <;> omega
  rw [Xtracepp.frame]
  dsimp only
  rw [if_neg (by omega),order]
  rw [order] at flag
  cases big_request with
  | true =>
    have eight : start true = 8 := rfl
    have units : message.length = 4 * reader.value message 4 4 := framed
    rw [if_pos (flag.mpr rfl),if_neg (by omega)]
    change some (Measure.sized _ (Alignment.size (reader.value message 4 4)) 8) = _
    rw [Alignment.size_small (by omega),Nat.mul_comm,← units]
    rfl
  | false =>
    have units : message.length = 4 * reader.value message 2 2 := framed
    rw [if_neg fun zero => Bool.false_ne_true (flag.mp zero)]
    change some (Measure.sized _ (Alignment.size (reader.value message 2 2)) 4) = _
    rw [Alignment.size_small (by omega),Nat.mul_comm,← units]
    rfl

theorem Accepted.framed {reader : Reader} (accepted : Accepted parser reader message)
    (order : settings.littleEndian = reader.littleEndian) :
    4 ≤ message.length ∧ message.length < 2^32 ∧ ∃ header,
      frame settings .clientToServer .opened reader.byteswap message =
        some (.sized reader.byteswap message.length header) := by
  have each {fixed : Nat} {big_request : Bool} (request : Request reader message fixed big_request) :
      4 ≤ message.length ∧ message.length < 2^32 ∧ ∃ header,
        frame settings .clientToServer .opened reader.byteswap message =
          some (.sized reader.byteswap message.length header) := by
    have long := request.long
    have header : 4 ≤ start big_request := by
      unfold start
      split <;> omega
    exact ⟨by omega,request.small,_,request_frame request order⟩
  cases accepted with
  | core found request formed accepts => exact each request
  | unknown request func => exact each request
  | bigReqEnable request func minor whole => exact each request

theorem core_func (standard : Dispatch.Standard parser) {code minor : UInt8} {type : RequestType}
    (found : requestType code = some type) : parser.requestParseFunc code minor = .core code := by
  have table := requestType_table code
  rw [found,Option.map_some] at table
  split at table
  · rename_i core
    obtain ⟨listed,atom,query⟩ := core
    have traits : coreRequests code = some (.request
        ⟨.core code,if code ∈ Opcodes.answered then some (.core code) else none⟩) := by
      rw [coreRequests,if_neg atom,if_neg query,if_pos listed]
    rw [X11ProtocolParser.requestParseFunc,standard.core code _ traits]
  · cases table

theorem unknown_complete {reader : Reader} {big_request : Bool}
    (request : Request reader message 0 big_request) (rest : List UInt8) :
    Complete (reader.parseLayout Requests.UnknownRequest (message ++ rest) message.length) []
      message.length := by
  have usable : Requests.UnknownRequest.usable = true := by decide
  have unchecked : ∀ member ∈ Requests.UnknownRequest.members big_request,member.unchecked = true := by
    cases big_request <;> decide
  refine (parseLayout_complete usable request (fun code known => by cases known) rfl).mpr ⟨?_,trivial⟩
  exact fun member listed => unchecked_accepted (unchecked member listed)

theorem bigReqEnable_complete {reader : Reader} {big_request : Bool}
    (request : Request reader message 0 big_request) (minor : message.getD 1 0 = 0)
    (whole : message.length = start big_request) (rest : List UInt8) :
    Complete (reader.parseBigReqEnable (message ++ rest) message.length) [] message.length := by
  have usable : Requests.ExtensionRequest.usable = true := by decide
  have unchecked : ∀ member ∈ Requests.ExtensionRequest.members big_request,member.unchecked = true := by
    cases big_request <;> decide
  have header : 4 ≤ message.length := by
    rw [whole,start]
    split <;> omega
  rw [Reader.parseBigReqEnable,assert,demand_true (by omega),ok_bind,byteAt_inside (by omega),ok_bind,
    assert,demand_true minor,ok_bind]
  refine (parseLayout_complete usable request (fun code known => by cases known) ⟨rfl,whole⟩).mpr
    ⟨?_,trivial⟩
  exact fun member listed => unchecked_accepted (unchecked member listed)

theorem Unparsed.parsed (unparsed : Unparsed conn.clientBuffer data (message ++ more))
    (standard : Dispatch.Standard parser)
    (accepted : Accepted parser (readerOf settings.littleEndian context parser conn) message) :
    parseRequest (settings.withParseFunctions context) parser
        ((handling .clientToServer conn message).registerRequest (message.getD 0 0) 0) data
          message.length (parser.requestParseFunc (message.getD 0 0) (message.getD 1 0)) =
      .ok (parser,message.length) := by
  cases accepted with
  | core found request formed accepts =>
    have ran : (settings.withParseFunctions context).parse.request (message.getD 0 0) parser
        ((handling .clientToServer conn message).registerRequest (message.getD 0 0) 0) data
          message.length = .ok message.length := by
      refine @Unparsed.ran parser .clientToServer conn data message more unparsed _ _
        (fun reader => reader.parseRequestCode (message.getD 0 0)) rfl fun rest => ?_
      rw [Reader.parseRequestCode,found]
      exact complete_whole ((parseRequestType_complete rest found request rfl formed).mpr accepts)
    rw [core_func standard found,parseRequest,ran]
    rfl
  | unknown request func =>
    have ran : (settings.withParseFunctions context).parse.unknownRequest parser
        ((handling .clientToServer conn message).registerRequest (message.getD 0 0) 0) data
          message.length = .ok message.length :=
      @Unparsed.ran parser .clientToServer conn data message more unparsed _ _
        (fun reader => reader.parseLayout Requests.UnknownRequest) rfl
        fun rest => complete_whole (unknown_complete request rest)
    rw [func,parseRequest,ran]
    rfl
  | bigReqEnable request func minor whole =>
    have ran : (settings.withParseFunctions context).parse.bigReqEnable parser
        ((handling .clientToServer conn message).registerRequest (message.getD 0 0) 0) data
          message.length = .ok message.length :=
      @Unparsed.ran parser .clientToServer conn data message more unparsed _ _
        (fun reader => reader.parseBigReqEnable) rfl
        fun rest => complete_whole (bigReqEnable_complete request minor whole rest)
    rw [func,parseRequest,ran]
    rfl

theorem Unparsed.logged (unparsed : Unparsed conn.clientBuffer data (message ++ more))
    (standard : Dispatch.Standard parser) (long : 4 ≤ message.length)
    (accepted : Accepted parser (readerOf settings.littleEndian context parser conn) message) :
    logRequest (settings.withParseFunctions context) parser (handling .clientToServer conn message) data
        message.length =
      .ok ⟨parser,(handling .clientToServer conn message).registerRequest (message.getD 0 0) 0,
        message.length⟩ := by
  have major : (handling .clientToServer conn message).clientBuffer.buffer.byte data =
      .ok (message.getD 0 0) := unparsed.byte (by omega : 0 < message.length)
  have minor : (handling .clientToServer conn message).clientBuffer.buffer.byte (data + 1) =
      .ok (message.getD 1 0) := unparsed.byte (by omega : 1 < message.length)
  have parsed := unparsed.parsed standard accepted
  rw [logRequest,assert,demand_true long,ok_bind,major,ok_bind,minor,ok_bind]
  dsimp only
  rw [parsed,ok_bind]
  dsimp only
  rw [assert,demand_true (by omega),ok_bind,assert,demand_true (Nat.le_refl _),ok_bind]
  rfl

/-- A round goes over a request and registers it. -/
theorem request_round (unparsed : Unparsed conn.clientBuffer data (message ++ more))
    (opened : conn.status = .opened) (standard : Dispatch.Standard parser)
    (accepted : Accepted parser (readerOf settings.littleEndian context parser conn) message) :
    messageRound (settings.withParseFunctions context) .clientToServer parser conn data =
      .ok (.handled (some .request) ⟨parser,requestLogged conn message,message.length⟩) := by
  obtain ⟨long,small,header,framed⟩ :=
    @Accepted.framed (settings.withParseFunctions context) _ _ _ accepted rfl
  have chosen : selectHandler .clientToServer (handling .clientToServer conn message) data =
      .ok (some .request) := by
    simp only [selectHandler,Connection.withBuffer,opened,pure_ok]
  have whole : frame (settings.withParseFunctions context) .clientToServer conn.status conn.byteswap
      message = some (.sized conn.byteswap message.length header) := by
    rw [opened]
    exact framed
  exact @Unparsed.round (settings.withParseFunctions context) parser .clientToServer conn data message
    more unparsed header _
      ((handling .clientToServer conn message).registerRequest (message.getD 0 0) 0) (by omega) small opened
        whole chosen (unparsed.logged standard long accepted) rfl

/-- Whatever requests that are accepted a client has sent, the loop goes over all of them without
a failed assertion, and registers each under its number. -/
theorem requests_logged {messages : List (List UInt8)} {fuel : Nat}
    (unparsed : Unparsed conn.clientBuffer conn.clientBuffer.data messages.flatten)
    (opened : conn.status = .opened) (standard : Dispatch.Standard parser)
    (accepted : ∀ message ∈ messages,
      Accepted parser (readerOf settings.littleEndian context parser conn) message)
    (enough : messages.length < fuel) :
    logClientMessages (settings.withParseFunctions context) fuel parser conn =
      .ok (some ⟨parser,messages.foldl requestLogged conn,messages.flatten.length,none⟩) := by
  have counted := unparsed.counted
  have done := @messageLoop_rounds (settings.withParseFunctions context) parser .clientToServer conn
    conn.clientBuffer.data requestLogged
    (fun conn messages => conn.status = .opened ∧ ∀ message ∈ messages,
      Accepted parser (readerOf settings.littleEndian context parser conn) message)
    (fun unparsed ready => ⟨⟨_,request_round unparsed ready.1 standard
      (List.forall_mem_cons.mp ready.2).1⟩,rfl,ready.1,(List.forall_mem_cons.mp ready.2).2⟩)
    messages fuel 0 unparsed ⟨opened,accepted⟩ enough (by omega)
  rw [Nat.zero_add] at done
  exact done

end requests

/-- A NoOperation of two units, and a request of an extension that no table knows. -/
def noOperation : List UInt8 := [127,0,2,0,9,9,9,9]
def unheard : List UInt8 := [200,1,1,0]

theorem requests_logged_two :
    logClientMessages (RequestProgress.plain.withParseFunctions fun _ => plain.context) 3
        RequestProgress.fresh (RequestProgress.opened [noOperation,unheard].flatten) =
      .ok (some ⟨RequestProgress.fresh,
        [noOperation,unheard].foldl requestLogged (RequestProgress.opened [noOperation,unheard].flatten),
          [noOperation,unheard].flatten.length,none⟩) := by
  apply @requests_logged RequestProgress.plain (fun _ => plain.context) RequestProgress.fresh
    (RequestProgress.opened [noOperation,unheard].flatten) [noOperation,unheard] 3
  · exact ⟨RequestProgress.opened_sound (by decide),rfl,rfl,by decide,by decide⟩
  · rfl
  · exact Dispatch.initial_standard _
  · rw [List.forall_mem_cons,List.forall_mem_singleton]
    have unchecked : ∀ member ∈ Requests.NoOperation.members false,member.unchecked = true := by decide
    constructor
    · exact @Accepted.core _ _ noOperation (.own Requests.NoOperation) false [] rfl
        ⟨by decide,by decide,by decide,by decide,by decide⟩ rfl
        ⟨fun member listed => unchecked_accepted (unchecked member listed),trivial⟩
    · exact @Accepted.unknown _ _ unheard false ⟨by decide,by decide,by decide,by decide,by decide⟩ rfl
  · decide

end Encodings
end Xtracepp
