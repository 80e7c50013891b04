import Xtracepp.SocketBuffer

/-! `Connection`: the two buffers of a proxied client, the numbering of its
requests and the toggles of its extensions.
-/
namespace Xtracepp
open Library.Outcome

inductive Direction
  | clientToServer
  | serverToClient
  deriving DecidableEq, Repr

inductive Status
  | unestablished
  | opened
  | closed
  | failed
  | authentication
  deriving DecidableEq, Repr

structure RequestOpcodes where
  major : UInt8
  minor : UInt8
  deriving DecidableEq, Repr

/-- `protocol::extensions::big_requests::name`, the characters of BIG-REQUESTS. -/
def bigRequestsName : List UInt8 := [66,73,71,45,82,69,81,85,69,83,84,83]

structure Connection where
  id : Nat
  requestOpcodesBySeqNum : Nat → Option RequestOpcodes
  extensions : List UInt8 → Option Bool
  clientBuffer : SocketBuffer
  serverBuffer : SocketBuffer
  sequence : Nat
  byteswap : Bool
  status : Status

namespace Connection

/-- The default constructor, for the connection opened after `serial` others. -/
def initial (serial : Nat) : Connection where
  id := serial % 2^32
  requestOpcodesBySeqNum := fun _ => none
  extensions := fun name => if name = bigRequestsName then some false else none
  clientBuffer := SocketBuffer.initial serial
  serverBuffer := SocketBuffer.initial serial
  sequence := 0
  byteswap := false
  status := .unestablished

/-- The buffer that holds what the sender of a direction sent. -/
def buffer (conn : Connection) : Direction → SocketBuffer
  | .clientToServer => conn.clientBuffer
  | .serverToClient => conn.serverBuffer

def withBuffer (conn : Connection) (direction : Direction) (buffer : SocketBuffer) : Connection :=
  match direction with
  | .clientToServer => { conn with clientBuffer := buffer }
  | .serverToClient => { conn with serverBuffer := buffer }

/-- `registerRequest`: `emplace` leaves an entry that is already there. -/
def registerRequest (conn : Connection) (major minor : UInt8) : Connection :=
  let sequence := (conn.sequence + 1) % 2^16
  { conn with
    sequence
    requestOpcodesBySeqNum := fun seqNum =>
      if seqNum = sequence then (conn.requestOpcodesBySeqNum seqNum).or (some ⟨major,minor⟩)
      else conn.requestOpcodesBySeqNum seqNum }

def lookupRequest (conn : Connection) (seqNum : Nat) : Checked RequestOpcodes :=
  match conn.requestOpcodesBySeqNum seqNum with
  | some opcodes => .ok opcodes
  | none => .error (.outOfRange "_request_opcodes_by_seq_num.at")

def unregisterRequest (conn : Connection) (seqNum : Nat) : Connection :=
  { conn with requestOpcodesBySeqNum := fun other =>
      if other = seqNum then none else conn.requestOpcodesBySeqNum other }

def enableExtension (conn : Connection) (name : List UInt8) : Connection :=
  { conn with extensions := fun other =>
      if other = name then (conn.extensions name).map fun _ => true else conn.extensions other }

def extensionEnabled (conn : Connection) (name : List UInt8) : Bool :=
  (conn.extensions name).getD false

section fields

variable (conn : Connection) (direction : Direction) (buffer : SocketBuffer) (major minor : UInt8)
  (seqNum : Nat) (name : List UInt8)

@[simp] theorem withBuffer_buffer : (conn.withBuffer direction buffer).buffer direction = buffer := by
  cases direction <;> rfl

theorem withBuffer_other {other : Direction} (different : other ≠ direction) :
    (conn.withBuffer direction buffer).buffer other = conn.buffer other := by
  cases direction <;> cases other <;> first | rfl | contradiction

@[simp] theorem withBuffer_id : (conn.withBuffer direction buffer).id = conn.id := by
  cases direction <;> rfl

@[simp] theorem withBuffer_registry :
    (conn.withBuffer direction buffer).requestOpcodesBySeqNum = conn.requestOpcodesBySeqNum := by
  cases direction <;> rfl

@[simp] theorem withBuffer_extensions :
    (conn.withBuffer direction buffer).extensions = conn.extensions := by
  cases direction <;> rfl

@[simp] theorem withBuffer_sequence :
    (conn.withBuffer direction buffer).sequence = conn.sequence := by
  cases direction <;> rfl

@[simp] theorem withBuffer_byteswap :
    (conn.withBuffer direction buffer).byteswap = conn.byteswap := by
  cases direction <;> rfl

@[simp] theorem withBuffer_status : (conn.withBuffer direction buffer).status = conn.status := by
  cases direction <;> rfl

@[simp] theorem registerRequest_buffer :
    (conn.registerRequest major minor).buffer direction = conn.buffer direction := by
  cases direction <;> rfl

@[simp] theorem unregisterRequest_buffer :
    (conn.unregisterRequest seqNum).buffer direction = conn.buffer direction := by
  cases direction <;> rfl

@[simp] theorem enableExtension_buffer :
    (conn.enableExtension name).buffer direction = conn.buffer direction := by
  cases direction <;> rfl

end fields

end Connection
end Xtracepp
