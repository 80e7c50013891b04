import Xtracepp.Handlers

/-! `logClientMessages` and `logServerMessages`. The two share one loop, which is
given here by direction: how a message is measured, who takes it, one round of
the `while`, and the calls themselves.
-/
namespace Xtracepp
open Library.Outcome

/-- What the header of the message at `data` tells about its size. -/
inductive Measure
  | short
  | refused (text : String)
  | sized (byteswap : Bool) (messageSz headerSz : Nat)
  deriving DecidableEq, Repr

def authenticationText : String :=
  "must close connection - cannot parse messages as X11 protocol does not specify " ++
    "an encoding for authentication negotiation"

section measures

variable (settings : Settings) (conn : Connection) (data : Nat)

def measureClientMessage : Checked Measure :=
  let buffer := conn.clientBuffer
  match conn.status with
  | .unestablished =>
    if buffer.size < 12 then return .short
    else do
      let byteOrder ← buffer.buffer.byte data
      assert "header->byte_order == MSBFIRST || header->byte_order == LSBFIRST"
        (byteOrder = msbFirst ∨ byteOrder = lsbFirst)
      let byteswap := settings.littleEndian != decide (byteOrder = lsbFirst)
      let nameLen ← buffer.buffer.field settings.littleEndian byteswap (data + 6) 2
      let dataLen ← buffer.buffer.field settings.littleEndian byteswap (data + 8) 2
      return .sized byteswap (12 + Alignment.pad nameLen + Alignment.pad dataLen) 12
  | .authentication => return .refused authenticationText
  | .opened =>
    if buffer.size < 4 then return .short
    else do
      -- the flag is compared as loaded, which is the same in either order
      let extendedLengthFlag ← buffer.buffer.field settings.littleEndian false (data + 2) 2
      if extendedLengthFlag = 0 then
        if buffer.size < 8 then return .short
        else do
          let units ← buffer.buffer.field settings.littleEndian conn.byteswap (data + 4) 4
          return .sized conn.byteswap (Alignment.size units) 8
      else do
        let units ← buffer.buffer.field settings.littleEndian conn.byteswap (data + 2) 2
        return .sized conn.byteswap (Alignment.size units) 4
  | _ => return .short

def measureServerMessage : Checked Measure :=
  let buffer := conn.serverBuffer
  match conn.status with
  | .unestablished =>
    if buffer.size < 8 then return .short
    else do
      let units ← buffer.buffer.field settings.littleEndian conn.byteswap (data + 6) 2
      return .sized conn.byteswap (8 + Alignment.size units) 8
  | .authentication => return .refused authenticationText
  | .opened =>
    if buffer.size < 4 then return .short
    else do
      let first ← buffer.buffer.byte data
      if first = 0 then return .sized conn.byteswap 32 4
      else if first = 1 then do
        -- only `Response::Header` is known to have arrived
        let extra ← buffer.buffer.field settings.littleEndian conn.byteswap (data + 4) 4
        return .sized conn.byteswap (32 + Alignment.size extra) 8
      else return .sized conn.byteswap 32 4
  | _ => return .short

end measures

def measureMessage (settings : Settings) : Direction → Connection → Nat → Checked Measure
  | .clientToServer => measureClientMessage settings
  | .serverToClient => measureServerMessage settings

inductive Sizing
  | known (conn : Connection)
  | unknown
  | refused (text : String)

/-- The part of a round up to `length_checks`. -/
def sizeMessage (settings : Settings) (direction : Direction) (conn : Connection) (data : Nat) :
    Checked Sizing :=
  if (conn.buffer direction).messageSizeSet then return .known conn
  else do
    match ← measureMessage settings direction conn data with
    | .short => return .unknown
    | .refused text => return .refused text
    | .sized byteswap messageSz _ => do
      let buffer ← (conn.buffer direction).setMessageSize messageSz
      return .known { conn.withBuffer direction buffer with byteswap }

/-- The functions that take a whole message. -/
inductive Handler
  | initiation
  | initResponse
  | request
  | error
  | reply
  | event
  deriving DecidableEq, Repr

def selectHandler (direction : Direction) (conn : Connection) (data : Nat) :
    Checked (Option Handler) :=
  match direction,conn.status with
  | .clientToServer,.unestablished => return some .initiation
  | .clientToServer,.opened => return some .request
  | .serverToClient,.unestablished => return some .initResponse
  | .serverToClient,.opened => do
    let first ← conn.serverBuffer.buffer.byte data
    return some (if first = 0 then .error else if first = 1 then .reply else .event)
  | _,_ => return none

def runHandler (settings : Settings) (parser : X11ProtocolParser) (conn : Connection)
    (data sz : Nat) : Option Handler → Checked Logged
  | some .initiation => logInitiation settings parser conn data sz
  | some .initResponse => do
    let logged ← logInitResponse settings parser conn data sz
    assert "conn->status == Connection::OPEN" (logged.conn.status = .opened)
    return logged
  | some .request => logRequest settings parser conn data sz
  | some .error => logError settings parser conn data sz
  | some .reply => logReply settings parser conn data sz
  | some .event => logEvent settings parser conn data sz
  | none => return ⟨parser,conn,0⟩

/-- The part of a round from the length checks to `markMessageParsed`. -/
def handOver (settings : Settings) (direction : Direction) (parser : X11ProtocolParser)
    (conn : Connection) (data : Nat) : Checked (Option Handler × Logged) := do
  assert "conn->status != Connection::AUTHENTICATION" (conn.status ≠ .authentication)
  let handler ← selectHandler direction conn data
  let logged ← runHandler settings parser conn data (conn.buffer direction).messageSize handler
  assert "bytes_parsed == buffer.messageSize()"
    (logged.bytesParsed = (logged.conn.buffer direction).messageSize)
  return (handler,logged)

inductive Round
  | finished (conn : Connection)
  | refused (text : String)
  | handled (handler : Option Handler) (logged : Logged)

/-- One evaluation of the loop condition and, if it holds, of the loop body. -/
def messageRound (settings : Settings) (direction : Direction) (parser : X11ProtocolParser)
    (conn : Connection) (data : Nat) : Checked Round :=
  if (conn.buffer direction).parsed < (conn.buffer direction).size then do
    match ← sizeMessage settings direction conn data with
    | .unknown => return .finished conn
    | .refused text => return .refused text
    | .known conn =>
      if (conn.buffer direction).incompleteMessage then return .finished conn
      else do
        let (handler,logged) ← handOver settings direction parser conn data
        let buffer ← (logged.conn.buffer direction).markMessageParsed
        return .handled handler { logged with conn := logged.conn.withBuffer direction buffer }
  else return .finished conn

/-- What a call of `log…Messages` leaves: `tl_bytes_parsed` and the error text. -/
structure Outcome where
  parser : X11ProtocolParser
  conn : Connection
  bytesParsed : Nat
  parseError : Option String

/-- The loop, for at most `fuel` rounds; `none` when they do not suffice. -/
def messageLoop (settings : Settings) (direction : Direction) :
    Nat → X11ProtocolParser → Connection → Nat → Nat → Checked (Option Outcome)
  | 0,_,_,_,_ => return none
  | fuel + 1,parser,conn,data,total => do
    match ← messageRound settings direction parser conn data with
    | .finished conn => return some ⟨parser,conn,total,none⟩
    | .refused text => return some ⟨parser,conn,total,some text⟩
    | .handled _ logged =>
      messageLoop settings direction fuel logged.parser logged.conn (data + logged.bytesParsed)
        (add64 total logged.bytesParsed)

def logMessages (settings : Settings) (direction : Direction) (fuel : Nat)
    (parser : X11ProtocolParser) (conn : Connection) : Checked (Option Outcome) :=
  messageLoop settings direction fuel parser conn (conn.buffer direction).data 0

def logClientMessages (settings : Settings) : Nat → X11ProtocolParser → Connection →
    Checked (Option Outcome) := logMessages settings .clientToServer

def logServerMessages (settings : Settings) : Nat → X11ProtocolParser → Connection →
    Checked (Option Outcome) := logMessages settings .serverToClient

end Xtracepp
