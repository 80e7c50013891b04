import Xtracepp.BufferInvariant
import Xtracepp.Library.Ledger
import Xtracepp.Library.Runs

/-! Runs of the operations of one `SocketBuffer`, against a ledger of the bytes
that went in and came out. A ledger cannot lose, repeat, reorder or alter a byte,
so a buffer that mirrors one is a faithful queue.
-/
namespace Xtracepp
open Library Library.Outcome Library.Window Library.Runs

namespace SocketBuffer

inductive Operation
  | read (bytesToRead : Nat) (result : RecvResult)
  | load (input : List UInt8)
  | setMessageSize (messageSz : Nat)
  | markMessageParsed
  | write (bytesToWrite : Nat) (result : SendResult)
  | unload (bytesToUnload : Nat)
  | unloadTo (bytesToUnload : Nat)

/-- The bytes a `recv` placed in the buffer. -/
def arrived : RecvResult → List UInt8
  | .failed _ => []
  | .received bytes => bytes

/-- The bytes a `send` took from `data()`. -/
def departed (buffer : SocketBuffer) : SendResult → List UInt8
  | .failed _ => []
  | .sent count => window buffer.buffer.cells buffer.data count

structure Session where
  buffer : SocketBuffer
  received : List UInt8
  delivered : List UInt8

def Session.initial : Session := { buffer := SocketBuffer.initial 0, received := [], delivered := [] }

def Session.apply (ndebug : Bool) (session : Session) : Operation → Checked Session
  | .read bytesToRead result => do
    let (buffer,_,_) ← session.buffer.read bytesToRead result
    return { session with buffer, received := session.received ++ arrived result }
  | .load input => do
    let (buffer,_) ← session.buffer.load input
    return { session with buffer, received := session.received ++ input }
  | .setMessageSize messageSz => do
    let buffer ← session.buffer.setMessageSize messageSz
    return { session with buffer }
  | .markMessageParsed => do
    let buffer ← session.buffer.markMessageParsed
    return { session with buffer }
  | .write bytesToWrite result => do
    let (buffer,_,_) ← session.buffer.write ndebug bytesToWrite result
    return { session with buffer, delivered := session.delivered ++ session.buffer.departed result }
  | .unload bytesToUnload => do
    let (buffer,_) ← session.buffer.unload bytesToUnload
    return { session with
      buffer
      delivered := session.delivered ++
        window session.buffer.buffer.cells session.buffer.data bytesToUnload }
  | .unloadTo bytesToUnload => do
    let (buffer,_,output) ← session.buffer.unloadTo bytesToUnload
    return { session with buffer, delivered := session.delivered ++ output }

/-- The call meets the assertions at its head, its arguments are values of
`size_t`, and the system call gives a result it may give. -/
def Operation.Allowed (ndebug : Bool) (buffer : SocketBuffer) : Operation → Prop
  | .read bytesToRead result => bytesToRead < 2^64 ∧ (arrived result).length ≤ bytesToRead
  | .load input => input ≠ [] ∧ input.length < 2^64
  | .setMessageSize messageSz =>
    messageSz < 2^64 ∧ messageSz ≠ unknownSz ∧ buffer.messageSizeSet = false
  | .markMessageParsed =>
    buffer.messageSizeSet = true ∧ add64 buffer.bytesParsed buffer.nextMessageSz ≤ buffer.size
  | .write bytesToWrite (.sent count) => bytesToWrite ≤ buffer.bytesParsed ∧
    count ≤ bytesToWrite ∧ (ndebug = true ∨ count = bytesToWrite)
  | .write bytesToWrite (.failed _) => bytesToWrite ≤ buffer.bytesParsed
  | .unload bytesToUnload => bytesToUnload ≤ buffer.size
  | .unloadTo bytesToUnload => bytesToUnload ≤ buffer.size

instance (ndebug : Bool) (buffer : SocketBuffer) :
    (operation : Operation) → Decidable (operation.Allowed ndebug buffer)
  | .read _ _ => inferInstanceAs (Decidable (_ ∧ _))
  | .load _ => inferInstanceAs (Decidable (_ ∧ _))
  | .setMessageSize _ => inferInstanceAs (Decidable (_ ∧ _ ∧ _))
  | .markMessageParsed => inferInstanceAs (Decidable (_ ∧ _))
  | .write _ (.sent _) => inferInstanceAs (Decidable (_ ∧ _ ∧ _))
  | .write _ (.failed _) => inferInstanceAs (Decidable (_ ≤ _))
  | .unload _ => inferInstanceAs (Decidable (_ ≤ _))
  | .unloadTo _ => inferInstanceAs (Decidable (_ ≤ _))

/-- The calls that keep the buffer a queue: the new size of a growing storage does
not wrap around, and an unload leaves as many bytes as are marked parsed. -/
def Operation.Guarded (buffer : SocketBuffer) : Operation → Prop
  | .read bytesToRead _ => buffer.bytesRead + bytesToRead ≤ 2^64 - blockSz
  | .load input => buffer.bytesRead + input.length ≤ 2^64 - blockSz
  | .unload bytesToUnload => bytesToUnload ≤ buffer.unparsed
  | .unloadTo bytesToUnload => bytesToUnload ≤ buffer.unparsed
  | _ => True

instance (buffer : SocketBuffer) : (operation : Operation) → Decidable (operation.Guarded buffer)
  | .read _ _ => inferInstanceAs (Decidable (_ ≤ _))
  | .load _ => inferInstanceAs (Decidable (_ ≤ _))
  | .setMessageSize _ => inferInstanceAs (Decidable True)
  | .markMessageParsed => inferInstanceAs (Decidable True)
  | .write _ _ => inferInstanceAs (Decidable True)
  | .unload _ => inferInstanceAs (Decidable (_ ≤ _))
  | .unloadTo _ => inferInstanceAs (Decidable (_ ≤ _))

def Session.Step (ndebug : Bool) (session : Session) (operation : Operation) (after : Session) :
    Prop := session.apply ndebug operation = .ok after

/-- The session shows what the ledger records. -/
structure Session.Mirrors (session : Session) (ledger : Ledger UInt8) : Prop where
  sound : session.buffer.Sound
  received : session.received = ledger.received
  delivered : session.delivered = ledger.delivered
  held : session.buffer.contents = ledger.held
  released : session.buffer.bytesParsed = ledger.released

/-- Where an operation leads: to a session that again mirrors a ledger, or to the
refusal of the vector to grow, which leaves everything as it was. -/
def Session.Faithful (ndebug : Bool) (session : Session) (operation : Operation) : Prop :=
  session.apply ndebug operation = .error .lengthError ∨
    ∃ after ledger, session.apply ndebug operation = .ok after ∧ after.Mirrors ledger

variable {session : Session} {ledger : Ledger UInt8}

theorem Session.initial_mirrors : Session.initial.Mirrors Ledger.empty where
  sound := initial_sound 0
  received := rfl
  delivered := rfl
  held := by simp [Session.initial,SocketBuffer.initial,contents,size,sub64,Ledger.empty]
  released := rfl

/-- Appending to a grown buffer appends to the ledger. -/
private theorem accept_mirrors (mirrors : session.Mirrors ledger) {grown : SocketBuffer} {count : Nat}
    (growth : Grown session.buffer grown count) (bytes : List UInt8) (short : bytes.length ≤ count) :
    Session.Mirrors
      { buffer := grown.appended bytes
        received := session.received ++ bytes
        delivered := session.delivered } (ledger.accept bytes) := by
  have room : grown.bytesRead + bytes.length ≤ grown.buffer.size := by
    rw [growth.read]
    exact Nat.le_trans (by omega) growth.room
  have sound := growth.sound mirrors.sound
  exact {
    sound := appended_sound sound bytes room
    received := by simp [Ledger.accept,mirrors.received]
    delivered := mirrors.delivered
    held := by simp [Ledger.accept,appended_contents sound bytes room,growth.contents mirrors.sound,
      mirrors.held]
    released := by simp [appended,Ledger.accept,growth.parsed,mirrors.released] }

theorem read_faithful (ndebug : Bool) (mirrors : session.Mirrors ledger) (bytesToRead : Nat)
    (result : RecvResult) (short : (arrived result).length ≤ bytesToRead)
    (fits : session.buffer.bytesRead + bytesToRead ≤ 2^64 - blockSz) :
    session.Faithful ndebug (.read bytesToRead result) := by
  rcases reserve_spec mirrors.sound "capacity() >= bytes_to_read" bytesToRead fits with
    refused | ⟨grown,reserved,growth,_⟩
  · left
    simp [Session.apply,read,refused]
  · right
    cases result with
    | failed reason =>
      refine ⟨{ session with buffer := grown },ledger,?_,?_⟩
      · simp [Session.apply,read,reserved,arrived]
      · exact ⟨growth.sound mirrors.sound,mirrors.received,mirrors.delivered,
          (growth.contents mirrors.sound).trans mirrors.held,growth.parsed.trans mirrors.released⟩
    | received bytes =>
      have mirrored := accept_mirrors mirrors growth bytes short
      have room : grown.bytesRead + bytes.length ≤ grown.buffer.size := by
        rw [growth.read]
        exact Nat.le_trans (Nat.add_le_add_left short _) growth.room
      obtain ⟨stored,counted⟩ := store_appended (growth.sound mirrors.sound) bytes room
      refine ⟨_,_,?_,mirrored⟩
      simp [Session.apply,read,reserved,stored,counted,arrived,appended]

theorem load_faithful (ndebug : Bool) (mirrors : session.Mirrors ledger) (input : List UInt8)
    (given : input ≠ []) (fits : session.buffer.bytesRead + input.length ≤ 2^64 - blockSz) :
    session.Faithful ndebug (.load input) := by
  have some : input.length > 0 := List.length_pos_iff.mpr given
  rcases reserve_spec mirrors.sound "capacity() >= bytes_to_load" input.length fits with
    refused | ⟨grown,reserved,growth,_⟩
  · left
    simp [Session.apply,load,assert,demand_true some,refused]
  · right
    have mirrored := accept_mirrors mirrors growth input (Nat.le_refl _)
    obtain ⟨stored,counted⟩ := store_appended (growth.sound mirrors.sound) input
      (by rw [growth.read]; exact growth.room)
    refine ⟨_,_,?_,mirrored⟩
    simp [Session.apply,load,assert,demand_true some,reserved,stored,counted,appended]

theorem setMessageSize_faithful (ndebug : Bool) (mirrors : session.Mirrors ledger) (messageSz : Nat)
    (small : messageSz < 2^64) (known : messageSz ≠ unknownSz)
    (unset : session.buffer.messageSizeSet = false) :
    session.Faithful ndebug (.setMessageSize messageSz) := by
  refine .inr ⟨{ session with buffer := { session.buffer with nextMessageSz := messageSz } },
    ledger,?_,?_⟩
  · simp [Session.apply,setMessageSize,assert,demand_true known,demand_true unset]
  · exact ⟨{ mirrors.sound with pendingLt := small },mirrors.received,mirrors.delivered,
      mirrors.held,mirrors.released⟩

theorem markMessageParsed_faithful (ndebug : Bool) (mirrors : session.Mirrors ledger)
    (set : session.buffer.messageSizeSet = true)
    (inside : add64 session.buffer.bytesParsed session.buffer.nextMessageSz ≤ session.buffer.size) :
    session.Faithful ndebug .markMessageParsed := by
  have marks := inside
  rw [mirrors.sound.size_eq] at marks
  refine .inr ⟨{ session with buffer := { session.buffer with
      bytesParsed := add64 session.buffer.bytesParsed session.buffer.nextMessageSz
      nextMessageSz := unknownSz } },
    ledger.release (add64 session.buffer.bytesParsed session.buffer.nextMessageSz)
      (by rw [← mirrors.held,mirrors.sound.contents_length]; exact marks),?_,?_⟩
  · simp [Session.apply,markMessageParsed,assert,demand_true set,demand_true inside]
  · exact ⟨{ mirrors.sound with parsedLe := marks, pendingLt := by simp [unknownSz] },
      mirrors.received,mirrors.delivered,mirrors.held,rfl⟩

/-- Handing out a front part of the contents that leaves the marks that stay. -/
private theorem hand_out (mirrors : session.Mirrors ledger) (count parsed : Nat)
    (marks : count + parsed ≤ session.buffer.size) (rest : Ledger UInt8)
    (received : rest.received = ledger.received)
    (delivered : rest.delivered = ledger.delivered ++ ledger.held.take count)
    (held : rest.held = ledger.held.drop count) (released : rest.released = parsed) :
    ∃ buffer, clearIfDrained (session.buffer.advanced count parsed) = .ok buffer ∧
      Session.Mirrors
        { buffer
          received := session.received
          delivered := session.delivered ++
            window session.buffer.buffer.cells session.buffer.data count } rest := by
  have taken : window session.buffer.buffer.cells session.buffer.data count =
      ledger.held.take count := by
    rw [← mirrors.held,contents,window_take _ _ _ _ (by omega)]
  refine ⟨_,clearIfDrained_spec mirrors.sound _ _ marks,?_⟩
  by_cases all : count = session.buffer.size
  · rw [if_pos all]
    have long : ledger.held.length ≤ count := by
      have same : ledger.held.length = count := by
        rw [← mirrors.held,mirrors.sound.contents_length,← mirrors.sound.size_eq,all]
      exact Nat.le_of_eq same
    refine ⟨cleared_sound mirrors.sound,mirrors.received.trans received.symm,?_,?_,?_⟩
    · rw [delivered,← mirrors.delivered,taken]
    · rw [cleared_contents,held,List.drop_of_length_le long]
    · simp only [cleared]
      omega
  · rw [if_neg all]
    have short : count < session.buffer.size := by omega
    refine ⟨advanced_sound mirrors.sound short marks,mirrors.received.trans received.symm,?_,?_,?_⟩
    · rw [delivered,← mirrors.delivered,taken]
    · rw [advanced_contents mirrors.sound short marks,held,mirrors.held]
    · exact released.symm

theorem write_failed_faithful (ndebug : Bool) (mirrors : session.Mirrors ledger) (bytesToWrite : Nat)
    (reason : String) (marked : bytesToWrite ≤ session.buffer.bytesParsed) :
    session.Faithful ndebug (.write bytesToWrite (.failed reason)) := by
  refine .inr ⟨session,ledger,?_,mirrors⟩
  simp [Session.apply,write,assert,demand_true marked,departed]

theorem write_sent_faithful (ndebug : Bool) (mirrors : session.Mirrors ledger)
    (bytesToWrite count : Nat) (marked : bytesToWrite ≤ session.buffer.bytesParsed)
    (short : count ≤ bytesToWrite) (noticed : ndebug = true ∨ count = bytesToWrite) :
    session.Faithful ndebug (.write bytesToWrite (.sent count)) := by
  have bound := mirrors.sound.parsed_le
  have bounded := mirrors.sound.read_lt
  have total := mirrors.sound.size_eq
  have released := mirrors.released
  obtain ⟨buffer,drained,mirrored⟩ := hand_out mirrors count
    (session.buffer.bytesParsed - count) (by omega) (ledger.deliver count (by omega))
    rfl rfl rfl (by simp [Ledger.deliver,released])
  have written : add64 session.buffer.bytesWritten count = session.buffer.bytesWritten + count :=
    add64_small (by have := mirrors.sound.writtenLe; omega)
  have left : sub64 session.buffer.bytesParsed count = session.buffer.bytesParsed - count :=
    sub64_small (by omega) (by omega)
  refine .inr ⟨_,_,?_,mirrored⟩
  unfold advanced at drained
  simp [Session.apply,write,assert,demand_true marked,demand_true noticed,written,left,drained,
    departed]

private theorem withdraw_marks (mirrors : session.Mirrors ledger) {count : Nat}
    (unmarked : count ≤ session.buffer.unparsed) :
    count + session.buffer.bytesParsed ≤ session.buffer.size ∧
      count + ledger.released ≤ ledger.held.length ∧
      add64 session.buffer.bytesWritten count = session.buffer.bytesWritten + count := by
  have bound := mirrors.sound.parsed_le
  have filled := mirrors.sound.data_size
  have bounded := mirrors.sound.read_lt
  rw [mirrors.sound.unparsed_eq] at unmarked
  refine ⟨by omega,?_,add64_small ?_⟩
  · rw [← mirrors.held,← mirrors.released,mirrors.sound.contents_length,← mirrors.sound.size_eq]
    omega
  · simp only [data] at filled
    omega

theorem unload_faithful (ndebug : Bool) (mirrors : session.Mirrors ledger) (count : Nat)
    (inside : count ≤ session.buffer.size) (unmarked : count ≤ session.buffer.unparsed) :
    session.Faithful ndebug (.unload count) := by
  obtain ⟨marks,room,written⟩ := withdraw_marks mirrors unmarked
  obtain ⟨buffer,drained,mirrored⟩ := hand_out mirrors count _ marks (ledger.withdraw count room)
    rfl rfl rfl mirrors.released.symm
  refine .inr ⟨_,_,?_,mirrored⟩
  unfold advanced at drained
  simp [Session.apply,unload,assert,demand_true inside,written,drained]

theorem unloadTo_faithful (ndebug : Bool) (mirrors : session.Mirrors ledger) (count : Nat)
    (inside : count ≤ session.buffer.size) (unmarked : count ≤ session.buffer.unparsed) :
    session.Faithful ndebug (.unloadTo count) := by
  obtain ⟨marks,room,written⟩ := withdraw_marks mirrors unmarked
  obtain ⟨buffer,drained,mirrored⟩ := hand_out mirrors count _ marks (ledger.withdraw count room)
    rfl rfl rfl mirrors.released.symm
  have readable : session.buffer.data + count ≤ session.buffer.buffer.size := by
    have filled := mirrors.sound.data_size
    have stored := mirrors.sound.readLe
    omega
  refine .inr ⟨_,_,?_,mirrored⟩
  unfold advanced at drained
  simp [Session.apply,unloadTo,assert,demand_true inside,Storage.fetch,readable,written,drained]

theorem operation_faithful (ndebug : Bool) (mirrors : session.Mirrors ledger) (operation : Operation)
    (allowed : operation.Allowed ndebug session.buffer) (guarded : operation.Guarded session.buffer) :
    session.Faithful ndebug operation := by
  cases operation with
  | read bytesToRead result => exact read_faithful _ mirrors _ _ allowed.2 guarded
  | load input => exact load_faithful _ mirrors _ allowed.1 guarded
  | setMessageSize messageSz =>
    exact setMessageSize_faithful _ mirrors _ allowed.1 allowed.2.1 allowed.2.2
  | markMessageParsed => exact markMessageParsed_faithful _ mirrors allowed.1 allowed.2
  | write bytesToWrite result =>
    cases result with
    | failed reason => exact write_failed_faithful _ mirrors _ _ allowed
    | sent count => exact write_sent_faithful _ mirrors _ _ allowed.1 allowed.2.1 allowed.2.2
  | unload count => exact unload_faithful _ mirrors _ allowed guarded
  | unloadTo count => exact unloadTo_faithful _ mirrors _ allowed guarded

/-- Sessions reached by calls within the assertions of the class, each of which
meets the given condition. -/
def Session.Reached (ndebug : Bool) (condition : SocketBuffer → Operation → Prop) :
    Session → Prop :=
  Runs.Reached (· = Session.initial) (Session.Step ndebug)
    (fun session operation =>
      operation.Allowed ndebug session.buffer ∧ condition session.buffer operation)

/-- The class keeps its promise in this state: the bytes handed out and those still
held are the bytes received, and no call within its assertions fails one. -/
def Session.Fifo (ndebug : Bool) (condition : SocketBuffer → Operation → Prop)
    (session : Session) : Prop :=
  session.delivered ++ session.buffer.contents = session.received ∧
    ∀ operation : Operation, operation.Allowed ndebug session.buffer →
      condition session.buffer operation →
        session.apply ndebug operation = .error .lengthError ∨
          ∃ after, session.apply ndebug operation = .ok after

theorem Session.replayed (ndebug : Bool) (condition : SocketBuffer → Operation → Prop)
    [∀ buffer operation, Decidable (condition buffer operation)] (holds : Session → Prop)
    [DecidablePred holds] (operations : List Operation)
    (checked : (replay (Session.apply ndebug)
      (fun session operation =>
        operation.Allowed ndebug session.buffer ∧ condition session.buffer operation)
      Session.initial operations).any (fun final => decide (holds final)) = true) :
    ∃ session, Session.Reached ndebug condition session ∧ holds session :=
  replay_check holds (fun _ _ _ done => done) operations Session.initial rfl checked

theorem Session.Reached.mirrors {ndebug : Bool} {session : Session}
    (reached : Session.Reached ndebug (fun buffer operation => operation.Guarded buffer) session) :
    ∃ ledger, session.Mirrors ledger := by
  apply Runs.Reached.invariant (fun session => ∃ ledger, session.Mirrors ledger) _ _ reached
  · intro session initial
    subst initial
    exact ⟨_,Session.initial_mirrors⟩
  · intro session operation after mirrored given taken
    obtain ⟨ledger,mirrors⟩ := mirrored
    rcases operation_faithful ndebug mirrors operation given.1 given.2 with
      refused | ⟨next,entries,done,kept⟩
    · rw [Session.Step,refused] at taken
      contradiction
    · rw [Session.Step,done] at taken
      cases taken
      exact ⟨entries,kept⟩

theorem fifo_guarded (ndebug : Bool) (session : Session)
    (reached : session.Reached ndebug (fun buffer operation => operation.Guarded buffer)) :
    session.Fifo ndebug (fun buffer operation => operation.Guarded buffer) := by
  obtain ⟨ledger,mirrors⟩ := reached.mirrors
  refine ⟨?_,?_⟩
  · rw [mirrors.delivered,mirrors.held,mirrors.received]
    exact ledger.balanced
  · intro operation allowed guarded
    rcases operation_faithful ndebug mirrors operation allowed guarded with
      refused | ⟨after,_,done,_⟩
    · exact .inl refused
    · exact .inr ⟨after,done⟩

/-- Four bytes of eight are marked and sent, the others are held. -/
theorem fifo_guarded_half_sent : ∃ session : Session, session.delivered = [1,2,3,4] ∧
    session.Fifo false (fun buffer operation => operation.Guarded buffer) := by
  obtain ⟨session,reached,sent⟩ := Session.replayed false
    (fun buffer operation => operation.Guarded buffer)
    (fun session => session.delivered = [1,2,3,4])
    [.load [1,2,3,4,5,6,7,8],.setMessageSize 4,.markMessageParsed,.write 4 (.sent 4)]
    (by decide +kernel)
  exact ⟨session,sent,fifo_guarded false session reached⟩

/-- `unload` leaves the marks: handing out six of eight marked bytes and then
writing all that is marked sends more than was ever received. -/
theorem fifo_unload_marked : ¬ ∀ session : Session, session.Reached false (fun _ _ => True) →
    session.Fifo false (fun _ _ => True) := by
  intro faithful
  obtain ⟨session,reached,longer⟩ := Session.replayed false (fun _ _ => True)
    (fun session => session.received.length < session.delivered.length)
    [.load [1,2,3,4,5,6,7,8],.setMessageSize 8,.markMessageParsed,.unload 6,.write 8 (.sent 8)]
    (by decide +kernel)
  have same := congrArg List.length (faithful session reached).1
  simp only [List.length_append] at same
  omega

end SocketBuffer
end Xtracepp
