import Xtracepp.Words
import Xtracepp.Library.Window

/-! `SocketBuffer`: the data members and every member function.
The storage of the vector is a memory of bytes with a size, and counts how
often a larger one took its place. `recv` and `send` are given by their results.
-/
namespace Xtracepp
open Library.Outcome Library.Window

/-- `std::vector< uint8_t >`. Growth may move the elements, which `moves` counts;
`owner` tells the vectors of different connections apart. -/
structure Storage where
  cells : Nat → UInt8
  size : Nat
  owner : Nat
  moves : Nat

namespace Storage

/-- `max_size()` of a vector of bytes. -/
def maxSize : Nat := 2^63 - 1

def resize (storage : Storage) (newSize : Nat) : Checked Storage :=
  if newSize ≤ maxSize then
    .ok { cells := fun i => if i < storage.size then storage.cells i else 0
          size := newSize
          owner := storage.owner
          moves := if storage.size < newSize then storage.moves + 1 else storage.moves }
  else .error .lengthError

def store (storage : Storage) (start : Nat) (bytes : List UInt8) : Checked Storage :=
  if start + bytes.length ≤ storage.size then
    .ok { storage with cells := overlay storage.cells start bytes }
  else .error (.undefined "write past the end of _buffer")

def fetch (storage : Storage) (start count : Nat) : Checked (List UInt8) :=
  if start + count ≤ storage.size then .ok (window storage.cells start count)
  else .error (.undefined "read past the end of _buffer")

def byte (storage : Storage) (i : Nat) : Checked UInt8 :=
  if i < storage.size then .ok (storage.cells i)
  else .error (.undefined "read past the end of _buffer")

/-- An `_ordered` integer field of `count` bytes. -/
def field (storage : Storage) (littleEndian byteswap : Bool) (start count : Nat) : Checked Nat := do
  let encoded ← storage.fetch start count
  return ordered littleEndian byteswap encoded

end Storage

/-- What `recv(2)` gave. -/
inductive RecvResult
  | failed (reason : String)
  | received (bytes : List UInt8)
  deriving DecidableEq, Repr

/-- What `send(2)` gave. -/
inductive SendResult
  | failed (reason : String)
  | sent (count : Nat)
  deriving DecidableEq, Repr

def SendResult.count : SendResult → Nat
  | .failed _ => 0
  | .sent count => count

/-- `errors::system::message`. -/
def systemMessage (call reason : String) : String := call ++ ": " ++ reason

structure SocketBuffer where
  buffer : Storage
  bytesRead : Nat
  bytesParsed : Nat
  bytesWritten : Nat
  nextMessageSz : Nat

namespace SocketBuffer

def blockSz : Nat := 2048

def unknownSz : Nat := 2^64 - 1

/-- The default constructor. -/
def initial (owner : Nat) : SocketBuffer where
  buffer := { cells := fun _ => 0, size := blockSz, owner, moves := 0 }
  bytesRead := 0
  bytesParsed := 0
  bytesWritten := 0
  nextMessageSz := unknownSz

def data (buffer : SocketBuffer) : Nat := buffer.bytesWritten

def size (buffer : SocketBuffer) : Nat := sub64 buffer.bytesRead buffer.bytesWritten

def empty (buffer : SocketBuffer) : Bool := buffer.bytesRead == 0

def capacity (buffer : SocketBuffer) : Nat := sub64 buffer.buffer.size buffer.bytesRead

def messageSizeSet (buffer : SocketBuffer) : Bool := buffer.nextMessageSz != unknownSz

def messageSize (buffer : SocketBuffer) : Nat := buffer.nextMessageSz

def parsed (buffer : SocketBuffer) : Nat := buffer.bytesParsed

def unparsed (buffer : SocketBuffer) : Nat := sub64 buffer.size buffer.bytesParsed

def incompleteMessage (buffer : SocketBuffer) : Bool :=
  decide (buffer.unparsed > 0) &&
    (!buffer.messageSizeSet || decide (buffer.unparsed < buffer.messageSize))

def readReady (buffer : SocketBuffer) : Bool := buffer.empty || buffer.incompleteMessage

def writeReady (buffer : SocketBuffer) : Bool := !buffer.empty && decide (buffer.bytesParsed > 0)

def setMessageSize (buffer : SocketBuffer) (messageSz : Nat) : Checked SocketBuffer := do
  assert "message_sz != _UNKNOWN_SZ" (messageSz ≠ unknownSz)
  assert "!messageSizeSet()" (buffer.messageSizeSet = false)
  return { buffer with nextMessageSz := messageSz }

def markMessageParsed (buffer : SocketBuffer) : Checked SocketBuffer := do
  assert "messageSizeSet()" (buffer.messageSizeSet = true)
  assert "( _bytes_parsed + _next_message_sz ) <= size()"
    (add64 buffer.bytesParsed buffer.nextMessageSz ≤ buffer.size)
  return { buffer with
    bytesParsed := add64 buffer.bytesParsed buffer.nextMessageSz
    nextMessageSz := unknownSz }

def clear (buffer : SocketBuffer) : Checked SocketBuffer := do
  assert "parsed() == size()" (buffer.parsed = buffer.size)
  return { buffer with
    bytesRead := 0, nextMessageSz := unknownSz, bytesParsed := 0, bytesWritten := 0 }

/-- The growth step that `read` and `load` share. -/
def reserve (buffer : SocketBuffer) (expression : String) (count : Nat) : Checked SocketBuffer :=
  if count > buffer.capacity then do
    let rawSz := add64 buffer.buffer.size (sub64 count buffer.capacity)
    let storage ← buffer.buffer.resize (add64 rawSz ((blockSz - rawSz % blockSz) % blockSz))
    let grown := { buffer with buffer := storage }
    assert expression (grown.capacity ≥ count)
    return grown
  else return buffer

/-- `read( sockfd, bytes_to_read )`. -/
def read (buffer : SocketBuffer) (bytesToRead : Nat) (result : RecvResult) :
    Checked (SocketBuffer × Nat × Option String) := do
  let grown ← buffer.reserve "capacity() >= bytes_to_read" bytesToRead
  match result with
  | .failed reason => return (grown,0,some (systemMessage "recv" reason))
  | .received bytes =>
    let storage ← grown.buffer.store grown.bytesRead bytes
    return ({ grown with
      buffer := storage, bytesRead := add64 grown.bytesRead bytes.length },bytes.length,none)

/-- The byte count that `read( sockfd )` asks for. -/
def bytesToRead (buffer : SocketBuffer) : Nat :=
  if !buffer.messageSizeSet then buffer.capacity else sub64 buffer.nextMessageSz buffer.size

/-- `read( sockfd )`. -/
def readSocket (buffer : SocketBuffer) (result : RecvResult) :
    Checked (SocketBuffer × Nat × Option String) :=
  buffer.read buffer.bytesToRead result

def load (buffer : SocketBuffer) (input : List UInt8) : Checked (SocketBuffer × Nat) := do
  assert "bytes_to_load > 0" (input.length > 0)
  let grown ← buffer.reserve "capacity() >= bytes_to_load" input.length
  let storage ← grown.buffer.store grown.bytesRead input
  return ({ grown with
    buffer := storage, bytesRead := add64 grown.bytesRead input.length },input.length)

/-- The tail that `write` and `unload` share. -/
def clearIfDrained (buffer : SocketBuffer) : Checked SocketBuffer :=
  if buffer.bytesWritten = buffer.bytesRead then buffer.clear else return buffer

/-- `write( sockfd, bytes_to_write )`. With `ndebug` a short send goes unnoticed. -/
def write (ndebug : Bool) (buffer : SocketBuffer) (bytesToWrite : Nat) (result : SendResult) :
    Checked (SocketBuffer × Nat × Option String) := do
  assert "bytes_to_write <= _bytes_parsed" (bytesToWrite ≤ buffer.bytesParsed)
  match result with
  | .failed reason => return (buffer,0,some (systemMessage "send" reason))
  | .sent count =>
    assert "send_sz == bytes_to_write" (ndebug = true ∨ count = bytesToWrite)
    let drained ← clearIfDrained { buffer with
      bytesWritten := add64 buffer.bytesWritten count
      bytesParsed := sub64 buffer.bytesParsed count }
    return (drained,count,none)

/-- `write( sockfd )`. -/
def writeSocket (ndebug : Bool) (buffer : SocketBuffer) (result : SendResult) :
    Checked (SocketBuffer × Nat × Option String) :=
  buffer.write ndebug buffer.bytesParsed result

/-- `unload( bytes_to_unload )`. -/
def unload (buffer : SocketBuffer) (bytesToUnload : Nat) : Checked (SocketBuffer × Nat) := do
  assert "bytes_to_unload <= size()" (bytesToUnload ≤ buffer.size)
  let drained ← clearIfDrained
    { buffer with bytesWritten := add64 buffer.bytesWritten bytesToUnload }
  return (drained,bytesToUnload)

/-- `unload( output, bytes_to_unload )`: also gives the bytes copied out. -/
def unloadTo (buffer : SocketBuffer) (bytesToUnload : Nat) :
    Checked (SocketBuffer × Nat × List UInt8) := do
  assert "bytes_to_unload <= size()" (bytesToUnload ≤ buffer.size)
  let output ← buffer.buffer.fetch buffer.data bytesToUnload
  let drained ← clearIfDrained
    { buffer with bytesWritten := add64 buffer.bytesWritten bytesToUnload }
  return (drained,bytesToUnload,output)

/-- `data()[ 0, size() )`. -/
def contents (buffer : SocketBuffer) : List UInt8 :=
  window buffer.buffer.cells buffer.data buffer.size

end SocketBuffer
end Xtracepp
