import Xtracepp.BufferFifo

/-! Reading one whole message from a server before the queue of clients is processed.
What `poll` and `recv` give is a sequence, of which each attempt takes one element.
-/
namespace Xtracepp
open Library.Outcome Library.Window

namespace Prequeue

/-- What `poll(2)` gave for one socket, with the bits of `revents` that are looked at. -/
inductive PollResult
  | failed (reason : String)
  | timeout
  | ready (POLLERR POLLNVAL POLLPRI : Bool)
  deriving DecidableEq, Repr

/-- `pollSingleSocket`: the error, without the name of the function before it. -/
def pollSingleSocket : PollResult → Option String
  | .failed reason => some (systemMessage "poll" reason)
  | .timeout => some "poll timeout in 3000 ms"
  | .ready POLLERR POLLNVAL POLLPRI =>
    if POLLERR then some "poll marked failure from error condition"
    else if POLLNVAL then some "poll marked failure from invalid fd (not open)"
    else if POLLPRI then some "poll marked failure from exceptional condition"
    else none

abbrev Results := Nat → PollResult × RecvResult

/-- What `polledReadMessage` leaves: the buffer, the pair it returns, and the first result
that it has not taken. -/
structure ReadMessage where
  buffer : SocketBuffer
  bytesRead : Nat
  error : Option String
  next : Nat

/-- The loop, for at most `fuel` rounds; `none` when they do not suffice. -/
def readMessageLoop (messageSz : Nat) (results : Results) :
    Nat → Nat → SocketBuffer → Nat → Checked (Option ReadMessage)
  | 0,_,_,_ => return none
  | fuel + 1,i,buffer,total =>
    if buffer.size < buffer.messageSize then
      match pollSingleSocket (results i).1 with
      | some pollError => return some ⟨buffer,total,some pollError,i⟩
      | none => do
        -- the whole message is asked for, whatever part of it is there
        let (buffer,count,readError) ← buffer.read messageSz (results i).2
        match readError with
        | some readError => return some ⟨buffer,total,some readError,i + 1⟩
        | none => readMessageLoop messageSz results fuel (i + 1) buffer (add64 total count)
    else return some ⟨buffer,total,none,i⟩

def ensureMessageSize (buffer : SocketBuffer) (messageSz : Nat) : Checked SocketBuffer :=
  if buffer.messageSizeSet then return buffer else buffer.setMessageSize messageSz

/-- The assertion behind the loop. -/
def finishMessage (initialSz : Nat) : Option ReadMessage → Checked (Option ReadMessage)
  | none => return none
  | some read => do
    assert "initial_sz + tl_bytes_read == buffer.messageSize()"
      (read.error = none → add64 initialSz read.bytesRead = read.buffer.messageSize)
    return some read

def polledReadMessage (buffer : SocketBuffer) (messageSz : Nat) (results : Results) (first fuel : Nat) :
    Checked (Option ReadMessage) := do
  let buffer ← ensureMessageSize buffer messageSz
  assert "buffer.messageSize() == message_sz" (buffer.messageSize = messageSz)
  let read ← readMessageLoop messageSz results fuel first buffer 0
  finishMessage buffer.size read

/-- A result that is within what was asked for. -/
def Offered (messageSz : Nat) (results : Results) : Prop :=
  ∀ i, (SocketBuffer.arrived (results i).2).length ≤ messageSz

/-- A message is complete, or an attempt fails, before any chunk goes beyond it: from a
result on, with so many bytes missing. -/
inductive Ends (results : Results) : Nat → Nat → Prop
  | full (i : Nat) : Ends results i 0
  | pollError {i missing : Nat} (short : 0 < missing)
      (failed : pollSingleSocket (results i).1 ≠ none) : Ends results i missing
  | readError {i missing : Nat} (short : 0 < missing) (polled : pollSingleSocket (results i).1 = none)
      {reason : String} (failed : (results i).2 = .failed reason) : Ends results i missing
  | chunk {i missing : Nat} (short : 0 < missing) (polled : pollSingleSocket (results i).1 = none)
      {bytes : List UInt8} (received : (results i).2 = .received bytes)
      (within : bytes.length ≤ missing) (rest : Ends results (i + 1) (missing - bytes.length)) :
      Ends results i missing

section reading

variable {buffer : SocketBuffer} {messageSz i fuel total : Nat} {results : Results}

/-- The state of the loop: a sound buffer that waits for the message, in a vector that can
hold it. -/
structure Waiting (buffer : SocketBuffer) (messageSz : Nat) : Prop where
  sound : buffer.Sound
  pending : buffer.nextMessageSz = messageSz
  room : buffer.bytesWritten + 2 * messageSz + SocketBuffer.blockSz ≤ Storage.maxSize

theorem Waiting.read_failed (waiting : Waiting buffer messageSz) (inside : buffer.size ≤ messageSz)
    (reason : String) : ∃ grown, buffer.read messageSz (.failed reason) =
      .ok (grown,0,some (systemMessage "recv" reason)) ∧ grown.contents = buffer.contents := by
  have size := waiting.sound.size_eq
  have ordered := waiting.sound.writtenLe
  have room := waiting.room
  obtain ⟨grown,reserved,growth⟩ := SocketBuffer.reserve_granted waiting.sound
    "capacity() >= bytes_to_read" (.inr (by omega) :
      messageSz ≤ buffer.capacity ∨ buffer.bytesRead + messageSz + _ ≤ _)
  refine ⟨grown,?_,growth.contents waiting.sound⟩
  rw [SocketBuffer.read,reserved]
  rfl

theorem Waiting.read_received (waiting : Waiting buffer messageSz) (inside : buffer.size ≤ messageSz)
    {bytes : List UInt8} (offered : bytes.length ≤ messageSz) :
    ∃ after, buffer.read messageSz (.received bytes) = .ok (after,bytes.length,none) ∧
      Waiting after messageSz ∧ after.contents = buffer.contents ++ bytes := by
  have size := waiting.sound.size_eq
  have ordered := waiting.sound.writtenLe
  have room := waiting.room
  obtain ⟨grown,reserved,growth⟩ := SocketBuffer.reserve_granted waiting.sound
    "capacity() >= bytes_to_read" (.inr (by omega) :
      messageSz ≤ buffer.capacity ∨ buffer.bytesRead + messageSz + _ ≤ _)
  have space : grown.bytesRead + bytes.length ≤ grown.buffer.size := by
    have more := growth.room
    rw [growth.read]
    omega
  have sound := growth.sound waiting.sound
  obtain ⟨stored,counted⟩ := SocketBuffer.store_appended sound bytes space
  refine ⟨grown.appended bytes,?_,⟨SocketBuffer.appended_sound sound bytes space,?_,?_⟩,?_⟩
  · rw [SocketBuffer.read,reserved,ok_bind]
    simp only [stored,counted,ok_bind]
    rfl
  · exact growth.pending.trans waiting.pending
  · change grown.bytesWritten + _ + _ ≤ _
    rw [growth.written]
    exact room
  · rw [SocketBuffer.appended_contents sound bytes space,growth.contents waiting.sound]

/-- The bytes received from one result up to another. -/
def taken (results : Results) (first next : Nat) : List UInt8 :=
  (List.range' first (next - first)).flatMap fun i => SocketBuffer.arrived (results i).2

theorem taken_self (results : Results) (i : Nat) : taken results i i = [] := by
  simp [taken]

theorem taken_chunk {next : Nat} {bytes : List UInt8} (received : (results i).2 = .received bytes)
    (later : i + 1 ≤ next) : taken results i next = bytes ++ taken results (i + 1) next := by
  obtain ⟨more,rfl⟩ := Nat.exists_eq_add_of_le later
  have count : i + 1 + more - i = more + 1 := by omega
  have rest : i + 1 + more - (i + 1) = more := by omega
  rw [taken,taken,count,rest,List.range'_succ,List.flatMap_cons,received]
  rfl

/-- What a loop that ends without an error has read. -/
structure Whole (buffer : SocketBuffer) (messageSz total : Nat) (results : Results) (i : Nat)
    (read : ReadMessage) : Prop where
  size : read.buffer.size = messageSz
  pending : read.buffer.messageSize = messageSz
  contents : read.buffer.contents = buffer.contents ++ taken results i read.next
  count : read.bytesRead = total + (messageSz - buffer.size)
  later : i ≤ read.next

theorem round_failed (waiting : Waiting buffer messageSz) (short : buffer.size < messageSz)
    {pollError : String} (failed : pollSingleSocket (results i).1 = some pollError) :
    readMessageLoop messageSz results (fuel + 1) i buffer total =
      .ok (some ⟨buffer,total,some pollError,i⟩) := by
  have open_ : buffer.size < buffer.messageSize := by
    rw [SocketBuffer.messageSize,waiting.pending]
    exact short
  rw [readMessageLoop,if_pos open_,failed]
  rfl

theorem round_refused (waiting : Waiting buffer messageSz) (short : buffer.size < messageSz)
    (polled : pollSingleSocket (results i).1 = none) {reason : String}
    (failed : (results i).2 = .failed reason) :
    ∃ grown, readMessageLoop messageSz results (fuel + 1) i buffer total =
      .ok (some ⟨grown,total,some (systemMessage "recv" reason),i + 1⟩) := by
  have open_ : buffer.size < buffer.messageSize := by
    rw [SocketBuffer.messageSize,waiting.pending]
    exact short
  obtain ⟨grown,attempted,_⟩ := waiting.read_failed (by omega) reason
  refine ⟨grown,?_⟩
  rw [readMessageLoop,if_pos open_,polled,failed]
  simp only [attempted,ok_bind]
  rfl

theorem round_received (waiting : Waiting buffer messageSz) (short : buffer.size < messageSz)
    (polled : pollSingleSocket (results i).1 = none) {bytes : List UInt8}
    (received : (results i).2 = .received bytes) (offered : bytes.length ≤ messageSz) :
    ∃ after, Waiting after messageSz ∧ after.contents = buffer.contents ++ bytes ∧
      after.size = buffer.size + bytes.length ∧ ∀ fuel total,
        readMessageLoop messageSz results (fuel + 1) i buffer total =
          readMessageLoop messageSz results fuel (i + 1) after (add64 total bytes.length) := by
  have open_ : buffer.size < buffer.messageSize := by
    rw [SocketBuffer.messageSize,waiting.pending]
    exact short
  obtain ⟨after,attempted,still,joined⟩ := waiting.read_received (by omega) offered
  refine ⟨after,still,joined,?_,?_⟩
  · have longer := congrArg List.length joined
    rw [List.length_append,still.sound.contents_length,waiting.sound.contents_length] at longer
    rw [still.sound.size_eq,waiting.sound.size_eq]
    exact longer
  · intro fuel total
    rw [readMessageLoop,if_pos open_,polled,received]
    simp only [attempted,ok_bind]

theorem round_full (waiting : Waiting buffer messageSz) (full : messageSz ≤ buffer.size) :
    readMessageLoop messageSz results (fuel + 1) i buffer total =
      .ok (some ⟨buffer,total,none,i⟩) := by
  have closed : ¬buffer.size < buffer.messageSize := by
    rw [SocketBuffer.messageSize,waiting.pending]
    omega
  rw [readMessageLoop,if_neg closed]
  rfl

theorem Ends.read (ends : Ends results i (messageSz - buffer.size))
    (waiting : Waiting buffer messageSz) (inside : buffer.size ≤ messageSz)
    (small : total ≤ buffer.size) :
    ∃ fuel read, readMessageLoop messageSz results fuel i buffer total = .ok (some read) ∧
      (read.error = none → Whole buffer messageSz total results i read) := by
  have room := waiting.room
  unfold Storage.maxSize at room
  generalize missing : messageSz - buffer.size = count at ends
  induction ends generalizing buffer total with
  | full i =>
    refine ⟨1,_,round_full waiting (by omega),fun _ => ⟨?_,waiting.pending,?_,?_,Nat.le_refl _⟩⟩
    · change buffer.size = messageSz
      omega
    · rw [taken_self,List.append_nil]
    · rw [missing]
      rfl
  | pollError short failed =>
    obtain ⟨pollError,given⟩ := Option.ne_none_iff_exists'.mp failed
    exact ⟨1,_,round_failed waiting (by omega) given,fun good => by cases good⟩
  | readError short polled failed =>
    obtain ⟨grown,refused⟩ := round_refused waiting (by omega) polled failed
    exact ⟨1,_,refused,fun good => by cases good⟩
  | @chunk i count short polled bytes received within rest ih =>
    have asked : bytes.length ≤ messageSz := by omega
    obtain ⟨after,still,joined,longer,round⟩ :=
      round_received waiting (by omega) polled received asked
    have counted : add64 total bytes.length = total + bytes.length := add64_small (by omega)
    obtain ⟨fuel,read,done,whole⟩ :=
      ih still (by omega) (by omega : add64 total bytes.length ≤ after.size) still.room (by omega)
    refine ⟨fuel + 1,read,(round fuel total).trans done,fun good => ?_⟩
    obtain ⟨size,pending,contents,gathered,later⟩ := whole good
    refine ⟨size,pending,?_,by omega,by omega⟩
    rw [contents,joined,taken_chunk received later,List.append_assoc]

/-- Bytes beyond the message are counted, and the sum no longer meets the assertion. -/
theorem Ends.of_read {initialSz : Nat} {read : ReadMessage}
    (done : readMessageLoop messageSz results fuel i buffer total = .ok (some read))
    (exact_ : read.error = none → add64 initialSz read.bytesRead = read.buffer.messageSize)
    (waiting : Waiting buffer messageSz) (inside : buffer.size ≤ messageSz)
    (gathered : initialSz + total = buffer.size) (offered : Offered messageSz results) :
    Ends results i (messageSz - buffer.size) := by
  have room := waiting.room
  unfold Storage.maxSize at room
  induction fuel generalizing i buffer total with
  | zero => cases done
  | succ fuel ih =>
    rcases Nat.eq_zero_or_pos (messageSz - buffer.size) with full | short
    · rw [full]
      exact .full i
    · cases polled : pollSingleSocket (results i).1 with
      | some pollError => exact .pollError short (by simp [polled])
      | none =>
        cases result : (results i).2 with
        | failed reason => exact .readError short polled result
        | received bytes =>
          have asked : bytes.length ≤ messageSz := by
            have limit := offered i
            rwa [result] at limit
          obtain ⟨after,still,joined,longer,round⟩ :=
            round_received waiting (by omega) polled result asked
          rw [round fuel total,add64_small (by omega)] at done
          rcases Nat.lt_or_ge (messageSz - buffer.size) bytes.length with beyond | within
          · -- the next round finds more than the message and ends
            cases fuel with
            | zero => cases done
            | succ fuel =>
              rw [round_full still (by omega)] at done
              obtain rfl : _ = read := Option.some.inj (Except.ok.inj done)
              have sum : add64 initialSz (total + bytes.length) = messageSz :=
                (exact_ rfl).trans still.pending
              rw [add64_small (by omega)] at sum
              omega
          · refine .chunk short polled result within ?_
            have rest := ih done still (by omega) (by omega) still.room
            rwa [longer,Nat.sub_add_eq] at rest

theorem finishMessage_some {initialSz : Nat} {last : Option ReadMessage} {read : ReadMessage}
    (ok : finishMessage initialSz last = .ok (some read)) : last = some read ∧
      (read.error = none → add64 initialSz read.bytesRead = read.buffer.messageSize) := by
  cases last with
  | none => cases ok
  | some last =>
    obtain ⟨given,done⟩ := demand_bind_success ok
    obtain rfl := Option.some.inj (Except.ok.inj done)
    exact ⟨rfl,given⟩

/-- The buffer once the size of its message is set. -/
def awaiting (buffer : SocketBuffer) (messageSz : Nat) : SocketBuffer :=
  { buffer with nextMessageSz := messageSz }

theorem awaiting_size : (awaiting buffer messageSz).size = buffer.size := rfl

theorem awaiting_contents : (awaiting buffer messageSz).contents = buffer.contents := rfl

theorem ensured (sound : buffer.Sound)
    (unset : buffer.messageSizeSet = false ∨ buffer.messageSize = messageSz)
    (room : buffer.bytesWritten + 2 * messageSz + SocketBuffer.blockSz ≤ Storage.maxSize) :
    ensureMessageSize buffer messageSz = .ok (awaiting buffer messageSz) ∧
      Waiting (awaiting buffer messageSz) messageSz := by
  have small : messageSz < SocketBuffer.unknownSz := by
    unfold Storage.maxSize SocketBuffer.blockSz at room
    unfold SocketBuffer.unknownSz
    omega
  constructor
  · rcases unset with unset | set
    · rw [ensureMessageSize,unset,if_neg (by decide),SocketBuffer.setMessageSize,assert,
        demand_true (Nat.ne_of_lt small),assert,demand_true unset]
      rfl
    · have kept : buffer.nextMessageSz = messageSz := set
      have given : buffer.messageSizeSet = true := by
        rw [SocketBuffer.messageSizeSet,kept,bne_iff_ne]
        exact Nat.ne_of_lt small
      rw [ensureMessageSize,if_pos given,← kept]
      rfl
  · refine ⟨⟨sound.writtenLe,sound.readLe,sound.parsedLe,sound.rewound,sound.block,
      sound.storageLe,?_⟩,rfl,room⟩
    exact Nat.lt_trans small (by decide)

theorem polledReadMessage_loop (sound : buffer.Sound)
    (unset : buffer.messageSizeSet = false ∨ buffer.messageSize = messageSz)
    (room : buffer.bytesWritten + 2 * messageSz + SocketBuffer.blockSz ≤ Storage.maxSize) :
    polledReadMessage buffer messageSz results i fuel =
      (readMessageLoop messageSz results fuel i (awaiting buffer messageSz) 0 >>=
        finishMessage buffer.size) := by
  rw [polledReadMessage,(ensured sound unset room).1,ok_bind,assert,demand_true (by rfl)]
  rfl

theorem polledReadMessage_ends (sound : buffer.Sound) (inside : buffer.size ≤ messageSz)
    (unset : buffer.messageSizeSet = false ∨ buffer.messageSize = messageSz)
    (room : buffer.bytesWritten + 2 * messageSz + SocketBuffer.blockSz ≤ Storage.maxSize)
    (offered : Offered messageSz results) {read : ReadMessage}
    (done : polledReadMessage buffer messageSz results i fuel = .ok (some read)) :
    Ends results i (messageSz - buffer.size) := by
  rw [polledReadMessage_loop sound unset room] at done
  obtain ⟨last,loop,checked⟩ := bind_success done
  obtain ⟨rfl,exact_⟩ := finishMessage_some checked
  rw [← awaiting_size] at exact_ inside ⊢
  exact Ends.of_read loop exact_ (ensured sound unset room).2 inside (Nat.add_zero _) offered

/-- The message is read and no more of what follows, or an attempt fails, exactly when no
chunk goes beyond the message and they do not stay empty for ever. -/
theorem polledReadMessage_one (sound : buffer.Sound) (inside : buffer.size ≤ messageSz)
    (unset : buffer.messageSizeSet = false ∨ buffer.messageSize = messageSz)
    (room : buffer.bytesWritten + 2 * messageSz + SocketBuffer.blockSz ≤ Storage.maxSize)
    (offered : Offered messageSz results) :
    (∃ fuel read, polledReadMessage buffer messageSz results i fuel = .ok (some read) ∧
      (read.error = none → read.buffer.size = messageSz ∧
        read.buffer.contents = buffer.contents ++ taken results i read.next)) ↔
      Ends results i (messageSz - buffer.size) := by
  obtain ⟨ready,waiting⟩ := ensured sound unset room
  constructor
  · rintro ⟨fuel,read,done,-⟩
    exact polledReadMessage_ends sound inside unset room offered done
  · intro ends
    rw [← awaiting_size] at ends inside
    obtain ⟨fuel,read,done,whole⟩ := ends.read waiting inside (Nat.zero_le _)
    rw [awaiting_size] at inside
    refine ⟨fuel,read,?_,fun good => ⟨(whole good).size,(whole good).contents⟩⟩
    rw [polledReadMessage_loop sound unset room,done,ok_bind,finishMessage,assert,demand_true]
    · rfl
    · intro good
      have count := (whole good).count
      rw [awaiting_size] at count
      unfold Storage.maxSize SocketBuffer.blockSz at room
      rw [(whole good).pending,add64_small (by omega)]
      omega

end reading

/-- Results of a socket that is always ready. -/
def receiving (chunks : Nat → List UInt8) : Results := fun i =>
  (.ready false false false,.received (chunks i))

/-- Eight bytes in two chunks. -/
theorem polledReadMessage_one_chunks :
    ∃ fuel read, polledReadMessage (SocketBuffer.initial 0) 8
      (receiving fun i => if i = 0 then [1,0,7] else [9,9,9,9,9]) 0 fuel = .ok (some read) ∧
      (read.error = none → read.buffer.size = 8 ∧ read.buffer.contents =
        (SocketBuffer.initial 0).contents ++
          taken (receiving fun i => if i = 0 then [1,0,7] else [9,9,9,9,9]) 0 read.next) := by
  refine (polledReadMessage_one (SocketBuffer.initial_sound 0) (by decide) (.inl (by decide))
    (by decide) ?_).mpr ?_
  · intro i
    cases i with
    | zero => decide
    | succ i => exact (by decide : [9,9,9,9,9].length ≤ 8)
  · exact .chunk (by decide) (by decide) rfl (by decide)
      (.chunk (by decide) (by decide) rfl (by decide) (.full 2))

/-- One byte of a message, with the rest of it to come. -/
def begun : SocketBuffer := { SocketBuffer.initial 0 with bytesRead := 1 }

theorem begun_sound : begun.Sound :=
  ⟨by decide,by decide,by decide,by decide,by decide,by decide,by decide⟩

theorem endless {results : Results} {i missing : Nat} (ends : Ends results i missing)
    (short : 0 < missing) (polled : ∀ i, pollSingleSocket (results i).1 = none)
    (closed : ∀ i, (results i).2 = .received []) : False := by
  induction ends with
  | full i => exact Nat.lt_irrefl 0 short
  | pollError _ failed => exact failed (polled _)
  | readError _ _ failed =>
    rw [closed] at failed
    cases failed
  | chunk _ _ received _ _ ih =>
    rw [closed] at received
    cases received
    exact ih short

/-- The rest of a message of eight bytes comes together with a byte of the next one, and
the assertion fails; at the end of the stream the loop does not end. -/
theorem polledReadMessage_beyond :
    ¬(∃ fuel read, polledReadMessage begun 8 (receiving fun _ => [0,7,9,9,9,9,9,1]) 0 fuel =
        .ok (some read) ∧ (read.error = none → read.buffer.size = 8)) ∧
    ¬∃ fuel read, polledReadMessage begun 8 (receiving fun _ => []) 0 fuel = .ok (some read) := by
  constructor
  · rintro ⟨fuel,read,done,-⟩
    have ends := polledReadMessage_ends begun_sound (by decide) (.inl (by decide)) (by decide)
      (fun _ => (by decide : [0,7,9,9,9,9,9,1].length ≤ 8)) done
    cases ends with
    | pollError _ failed => exact failed rfl
    | readError _ _ failed => cases failed
    | chunk _ _ received within _ =>
      cases received
      exact absurd within (by decide)
  · rintro ⟨fuel,read,done⟩
    have ends := polledReadMessage_ends begun_sound (by decide) (.inl (by decide)) (by decide)
      (fun _ => Nat.zero_le 8) done
    exact endless ends (by decide) (fun _ => rfl) (fun _ => rfl)

end Prequeue
end Xtracepp
