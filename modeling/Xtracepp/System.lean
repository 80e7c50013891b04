import Xtracepp.ProxyX11Server
import Xtracepp.BufferFifo

/-! The proxy as a transition system over all its connections. A step is one
`recv`, one round of the loop that logs messages, one `send`, or the opening or
closing of a connection; while a loop runs nothing else happens. A history
records, for each connection and direction, what no member of the program keeps.
-/
namespace Xtracepp
open Library Library.Outcome Library.Window Library.Runs

/-- The call of `log…Messages` in progress and its local `data`. -/
structure Loop where
  id : Nat
  direction : Direction
  data : Nat
  deriving DecidableEq, Repr

structure Proxy where
  parser : X11ProtocolParser
  connections : Nat → Option Connection
  accepted : Nat
  loop : Option Loop

inductive Label
  | accept
  | receive (id : Nat) (direction : Direction) (result : RecvResult)
  | round
  | send (id : Nat) (direction : Direction) (result : SendResult)
  | pollError (id : Nat)
  deriving DecidableEq, Repr

namespace Connection

/-- Whether `_updatePollFlags` asks for input from the sender of a direction. -/
def polledInput (conn : Connection) (direction : Direction) : Bool :=
  (conn.buffer direction).readReady

/-- Whether it asks for output to the receiver, and the `write` branch is taken. -/
def polledOutput (conn : Connection) (direction : Direction) : Bool :=
  !(conn.buffer direction).readReady && (conn.buffer direction).writeReady

end Connection

namespace Proxy

def initial (predefined : Nat → Option (List UInt8)) : Proxy where
  parser := X11ProtocolParser.initial predefined
  connections := fun _ => none
  accepted := 0
  loop := none

def withConnection (proxy : Proxy) (id : Nat) (conn : Option Connection) : Proxy :=
  { proxy with connections := fun other => if other = id then conn else proxy.connections other }

/-- `_closeConnections` for one connection. -/
def closeConnection (proxy : Proxy) (id : Nat) : Proxy :=
  { proxy.withConnection id none with loop := none }

def step (settings : Settings) (proxy : Proxy) : Label → Checked Proxy
  | .accept =>
    let conn := Connection.initial proxy.accepted
    return { proxy.withConnection conn.id ((proxy.connections conn.id).or (some conn)) with
      accepted := proxy.accepted + 1 }
  | .receive id direction result =>
    match proxy.connections id with
    | none => return proxy
    | some conn => do
      match ← readFrom direction conn result with
      | none => return proxy.closeConnection id
      | some conn => return { proxy.withConnection id (some conn) with
          loop := some ⟨id,direction,(conn.buffer direction).data⟩ }
  | .round =>
    match proxy.loop with
    | none => return proxy
    | some loop =>
      match proxy.connections loop.id with
      | none => return { proxy with loop := none }
      | some conn => do
        match ← messageRound settings loop.direction proxy.parser conn loop.data with
        | .finished conn => return { proxy.withConnection loop.id (some conn) with loop := none }
        | .refused _ => return proxy.closeConnection loop.id
        | .handled _ logged => return { proxy.withConnection loop.id (some logged.conn) with
            parser := logged.parser
            loop := some { loop with data := loop.data + logged.bytesParsed } }
  | .send id direction result =>
    match proxy.connections id with
    | none => return proxy
    | some conn => do
      match ← writeTo settings direction conn result with
      | none => return proxy.closeConnection id
      | some conn => return proxy.withConnection id (some conn)
  | .pollError id => return proxy.closeConnection id

end Proxy

/-- What the poll loop may do next, and what `recv` and `send` may give it. -/
def Label.Enabled (proxy : Proxy) : Label → Prop
  | .accept => proxy.loop = none
  | .receive id direction result => proxy.loop = none ∧
    ∃ conn ∈ proxy.connections id, conn.polledInput direction = true ∧
      (SocketBuffer.arrived result).length ≤ (conn.buffer direction).bytesToRead
  | .round => proxy.loop ≠ none
  | .send id direction result => proxy.loop = none ∧
    ∃ conn ∈ proxy.connections id, conn.polledOutput direction = true ∧
      result.count ≤ (conn.buffer direction).bytesParsed
  | .pollError id => proxy.loop = none ∧ (proxy.connections id).isSome = true

instance (proxy : Proxy) (label : Label) : Decidable (label.Enabled proxy) :=
  match label with
  | .accept => inferInstanceAs (Decidable (proxy.loop = none))
  | .receive _ _ _ => inferInstanceAs (Decidable (_ ∧ ∃ conn ∈ _,_ ∧ _))
  | .round => inferInstanceAs (Decidable (proxy.loop ≠ none))
  | .send _ _ _ => inferInstanceAs (Decidable (_ ∧ ∃ conn ∈ _,_ ∧ _))
  | .pollError _ => inferInstanceAs (Decidable (_ ∧ _))

/-- A message as it was given to its handler, with its offset in the stream. -/
structure Handed where
  handler : Option Handler
  offset : Nat
  bytes : List UInt8
  deriving DecidableEq, Repr

/-- A header a size was taken from: its offset in the stream, its length, and the
number of bytes of the stream received by then. -/
structure Sized where
  offset : Nat
  headerSz : Nat
  received : Nat
  deriving DecidableEq, Repr

structure History where
  received : List UInt8 := []
  sent : List UInt8 := []
  handed : List Handed := []
  sized : List Sized := []
  deriving DecidableEq, Repr

structure World where
  proxy : Proxy
  history : Nat → Direction → History

namespace History

/-- The offset in the stream of the byte at `data`. -/
def offset (history : History) (buffer : SocketBuffer) (data : Nat) : Nat :=
  history.sent.length + (data - buffer.data)

def receive (history : History) (result : RecvResult) : History :=
  { history with received := history.received ++ SocketBuffer.arrived result }

def send (history : History) (buffer : SocketBuffer) (result : SendResult) : History :=
  { history with sent := history.sent ++ buffer.departed result }

def sizedBy (settings : Settings) (history : History) (direction : Direction) (conn : Connection)
    (data : Nat) : List Sized :=
  let buffer := conn.buffer direction
  if buffer.parsed < buffer.size ∧ buffer.messageSizeSet = false then
    match measureMessage settings direction conn data with
    | .ok (.sized _ _ headerSz) =>
      [⟨history.offset buffer data,headerSz,history.received.length⟩]
    | _ => []
  else []

/-- The entry of the message that a round handed over. -/
def handedOf (history : History) (buffer : SocketBuffer) (data : Nat) : Checked Round → List Handed
  | .ok (.handled handler logged) =>
    [⟨handler,history.offset buffer data,window buffer.buffer.cells data logged.bytesParsed⟩]
  | _ => []

def handedBy (settings : Settings) (history : History) (direction : Direction)
    (parser : X11ProtocolParser) (conn : Connection) (data : Nat) : List Handed :=
  history.handedOf (conn.buffer direction) data (messageRound settings direction parser conn data)

def round (settings : Settings) (history : History) (direction : Direction)
    (parser : X11ProtocolParser) (conn : Connection) (data : Nat) : History :=
  { history with
    handed := history.handed ++ history.handedBy settings direction parser conn data
    sized := history.sized ++ history.sizedBy settings direction conn data }

end History

namespace World

def initial (predefined : Nat → Option (List UInt8)) : World where
  proxy := Proxy.initial predefined
  history := fun _ _ => {}

def withHistory (world : World) (id : Nat) (direction : Direction) (history : History) :
    Nat → Direction → History :=
  fun otherId other => if otherId = id ∧ other = direction then history
    else world.history otherId other

def record (settings : Settings) (world : World) : Label → Nat → Direction → History
  | .accept => fun id direction =>
    if id = world.proxy.accepted % 2^32 ∧ (world.proxy.connections id).isNone then {}
    else world.history id direction
  | .receive id direction result =>
    world.withHistory id direction ((world.history id direction).receive result)
  | .round =>
    match world.proxy.loop with
    | none => world.history
    | some loop =>
      match world.proxy.connections loop.id with
      | none => world.history
      | some conn => world.withHistory loop.id loop.direction
          ((world.history loop.id loop.direction).round settings loop.direction
            world.proxy.parser conn loop.data)
  | .send id direction result =>
    match world.proxy.connections id with
    | none => world.history
    | some conn => world.withHistory id direction
        ((world.history id direction).send (conn.buffer direction) result)
  | .pollError _ => world.history

def step (settings : Settings) (world : World) (label : Label) : Checked World := do
  let proxy ← world.proxy.step settings label
  return { proxy, history := world.record settings label }

def Step (settings : Settings) (world : World) (label : Label) (after : World) : Prop :=
  world.step settings label = .ok after

/-- The worlds that runs reach in which every step is one the poll loop may take and
meets the condition. -/
def Reached (settings : Settings) (predefined : Nat → Option (List UInt8))
    (condition : World → Label → Prop) : World → Prop :=
  Runs.Reached (· = World.initial predefined) (World.Step settings)
    (fun world label => label.Enabled world.proxy ∧ condition world label)

def Anyhow (_ : World) (_ : Label) : Prop := True

instance (world : World) (label : Label) : Decidable (Anyhow world label) :=
  inferInstanceAs (Decidable True)

/-- Following labels from the start, and a check of the world they lead to. -/
theorem replayed (settings : Settings) (predefined : Nat → Option (List UInt8))
    (condition : World → Label → Prop) [∀ world label, Decidable (condition world label)]
    (holds : World → Prop) [DecidablePred holds] (labels : List Label)
    (checked : (replay (World.step settings)
      (fun world label => label.Enabled world.proxy ∧ condition world label)
        (World.initial predefined) labels).any (fun world => decide (holds world)) = true) :
    ∃ world, World.Reached settings predefined condition world ∧ holds world :=
  replay_check holds (fun _ _ _ taken => taken) labels _ rfl checked

end World

/-- Settings with parse functions that take their message as it is. -/
def Settings.accepting (allowedExtensions : List (List UInt8))
    (recognized : ∀ name ∈ allowedExtensions, name = bigRequestsName) : Settings :=
  let whole : ParseFunc := fun _ _ _ sz => .ok sz
  { littleEndian := true
    ndebug := false
    allowedExtensions
    recognized
    parse :=
      { request := fun _ => whole
        reply := fun _ => whole
        event := fun _ => whole
        error := fun _ => whole
        unknownRequest := whole
        unknownReply := whole
        bigReqEnable := whole
        refusal := whole
        requireFurtherAuthentication := whole
        acceptance := whole } }

theorem none_allowed : ∀ name ∈ ([] : List (List UInt8)),name = bigRequestsName := by
  intro name member
  cases member

namespace World

def plainly : Settings := .accepting [] none_allowed

/-- An Initiation without authentication, and an answer that accepts it and says no more. -/
def bareInitiation : List UInt8 := 108 :: 0 :: 11 :: List.replicate 9 0
def bareAcceptance : List UInt8 := [1,0,11,0,0,0,0,0]

/-- The setup of the first connection, up to the answer that is sent on. -/
def setup : List Label :=
  [.accept,.receive 0 .clientToServer (.received bareInitiation),.round,.round,
    .send 0 .clientToServer (.sent 12),.receive 0 .serverToClient (.received bareAcceptance),.round,
    .round,.send 0 .serverToClient (.sent 8)]

end World
end Xtracepp
