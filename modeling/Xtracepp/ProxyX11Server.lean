import Xtracepp.MessageLoop

/-! The poll loop of `ProxyX11Server`: the flags it asks for, and the branches
that read from or write to one socket.
-/
namespace Xtracepp
open Library.Outcome

def Direction.opposite : Direction → Direction
  | .clientToServer => .serverToClient
  | .serverToClient => .clientToServer

/-- `events` of the two sockets of a connection, beside `POLLPRI`. -/
structure PollFlags where
  clientIn : Bool := false
  clientOut : Bool := false
  serverIn : Bool := false
  serverOut : Bool := false
  deriving DecidableEq, Repr

/-- Whether the sender of a direction is polled for input. -/
def PollFlags.input (flags : PollFlags) : Direction → Bool
  | .clientToServer => flags.clientIn
  | .serverToClient => flags.serverIn

/-- Whether the receiver of a direction is polled for output. -/
def PollFlags.output (flags : PollFlags) : Direction → Bool
  | .clientToServer => flags.serverOut
  | .serverToClient => flags.clientOut

def updatePollFlags (conn : Connection) : Checked PollFlags := do
  let flags : PollFlags ←
    if conn.clientBuffer.readReady then pure { clientIn := true }
    else do
      assert "conn.client_buffer.writeReady()" (conn.clientBuffer.writeReady = true)
      pure { serverOut := true }
  if conn.serverBuffer.readReady then return { flags with serverIn := true }
  else do
    assert "conn.server_buffer.writeReady()" (conn.serverBuffer.writeReady = true)
    return { flags with clientOut := true }

/-- The `read` branch for the sender of a direction, up to the call that logs what
was read. -/
def readFrom (direction : Direction) (conn : Connection) (result : RecvResult) :
    Checked (Option Connection) := do
  let (buffer,bytesRead,readError) ← (conn.buffer direction).readSocket result
  if readError.isSome ∨ bytesRead = 0 then return none
  else do
    assert "!buffer.empty()" (buffer.empty = false)
    return some (conn.withBuffer direction buffer)

/-- The `write` branch for the receiver of a direction. -/
def writeTo (settings : Settings) (direction : Direction) (conn : Connection)
    (result : SendResult) : Checked (Option Connection) := do
  let (buffer,bytesWritten,writeError) ←
    (conn.buffer direction).writeSocket settings.ndebug result
  if writeError.isSome then return none
  else do
    assert "bytes_written > 0" (bytesWritten > 0)
    return some (conn.withBuffer direction buffer)

end Xtracepp
