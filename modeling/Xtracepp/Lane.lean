import Xtracepp.SystemFacts
import Xtracepp.Framing

/-! One direction of one connection. A lane is its buffer, its history and, while
messages are being logged from it, the local `data`. The invariant holds as long as
every read finds nothing marked parsed; it says where the buffer's counters can
stand, and that unparsed bytes are the stream's own.
-/
namespace Xtracepp
open Library.Outcome Library.Window

namespace SocketBuffer

/-- Between two calls of `log…Messages`: nothing parsed and a message that is not
complete, or parsed bytes that are either all there is or stuck before a part. -/
def Idle (buffer : SocketBuffer) : Prop :=
  (buffer.bytesParsed = 0 ∧ buffer.bytesWritten = 0 ∧
    ((buffer.messageSizeSet = false ∧ buffer.bytesRead < 12) ∨
      (buffer.messageSizeSet = true ∧ buffer.bytesRead < buffer.nextMessageSz))) ∨
  (0 < buffer.bytesParsed ∧
    ((buffer.bytesParsed = buffer.size ∧ buffer.messageSizeSet = false) ∨
      buffer.incompleteMessage = true))

/-- Between two rounds of the loop. -/
def Running (buffer : SocketBuffer) (data : Nat) : Prop :=
  buffer.bytesWritten = 0 ∧ data = buffer.bytesParsed ∧ 0 < buffer.bytesRead ∧
    (buffer.messageSizeSet = true → buffer.bytesParsed = 0)

def Placed (buffer : SocketBuffer) : Option Nat → Prop
  | none => buffer.Idle
  | some data => buffer.Running data

end SocketBuffer

structure Lane (buffer : SocketBuffer) (history : History) (cursor : Option Nat) : Prop where
  sound : buffer.Sound
  bounded : buffer.messageSizeSet = true → buffer.nextMessageSz < 2^36
  counted : history.received.length = history.sent.length + buffer.contents.length
  unread : buffer.contents.drop buffer.bytesParsed =
    history.received.drop (history.sent.length + buffer.bytesParsed)
  placed : buffer.Placed cursor

namespace Lane

variable {settings : Settings} {direction : Direction} {parser : X11ProtocolParser}
  {conn next : Connection} {buffer : SocketBuffer} {history : History} {data messageSz : Nat}

theorem initial (owner : Nat) : Lane (SocketBuffer.initial owner) {} none where
  sound := SocketBuffer.initial_sound owner
  bounded := by simp [SocketBuffer.initial,SocketBuffer.messageSizeSet]
  counted := by simp [SocketBuffer.contents,SocketBuffer.initial,SocketBuffer.size,sub64]
  unread := by simp [SocketBuffer.contents,SocketBuffer.initial,SocketBuffer.size,sub64]
  placed := by
    simp [SocketBuffer.Placed,SocketBuffer.Idle,SocketBuffer.initial,SocketBuffer.messageSizeSet]

theorem incomplete_iff (sound : buffer.Sound) : buffer.incompleteMessage = true ↔
    buffer.bytesParsed < buffer.size ∧
      (buffer.messageSizeSet = true → buffer.size - buffer.bytesParsed < buffer.nextMessageSz) := by
  have bound := sound.parsed_le
  unfold SocketBuffer.incompleteMessage SocketBuffer.messageSize
  rw [sound.unparsed_eq]
  cases buffer.messageSizeSet with
  | false => simp
  | true => simp

/-- The byte count of a read that finds nothing parsed. -/
theorem bytesToRead_bounds (lane : Lane buffer history none) (fresh : buffer.bytesParsed = 0) :
    buffer.bytesToRead ≠ 0 ∧
      buffer.bytesRead + buffer.bytesToRead ≤ 2^64 - SocketBuffer.blockSz ∧
        (buffer.messageSizeSet = true → buffer.size ≤ buffer.nextMessageSz) := by
  have block := lane.sound.block
  have limit := lane.sound.storageLe
  have inside := lane.sound.readLe
  have total := lane.sound.size_eq
  have available := lane.sound.capacity_eq
  have bounded := lane.bounded
  unfold Storage.maxSize at limit
  unfold SocketBuffer.blockSz at *
  unfold SocketBuffer.bytesToRead
  rcases lane.placed with ⟨_,rewound,⟨unset,small⟩ | ⟨set,short⟩⟩ | ⟨some,_⟩
  · simp only [unset,Bool.not_false,if_true]
    refine ⟨by omega,by omega,by simp⟩
  · have missing : sub64 buffer.nextMessageSz buffer.size = buffer.nextMessageSz - buffer.size :=
      sub64_small (by omega) (by have := bounded set; omega)
    have small := bounded set
    simp only [set,Bool.not_true,Bool.false_eq_true,if_false,missing]
    refine ⟨by omega,by omega,fun _ => by omega⟩
  · omega

/-- A read that finds nothing parsed starts a loop over what is then buffered. -/
theorem read (lane : Lane (conn.buffer direction) history none)
    (fresh : (conn.buffer direction).bytesParsed = 0) {result : RecvResult} {grown : SocketBuffer}
    {bytes : List UInt8} (effect : ReadEffect direction conn next result grown bytes) :
    Lane (next.buffer direction) (history.receive result)
        (some (next.buffer direction).data) ∧
      (next.buffer direction).contents = (conn.buffer direction).contents ++ bytes := by
  have contents : (grown.appended bytes).contents = (conn.buffer direction).contents ++ bytes := by
    rw [SocketBuffer.appended_contents effect.sound bytes effect.room,
      effect.growth.contents lane.sound]
  have long : 0 < bytes.length := List.length_pos_iff.mpr effect.some
  have parsed : (grown.appended bytes).bytesParsed = 0 := effect.growth.parsed.trans fresh
  have written : (grown.appended bytes).bytesWritten = 0 := by
    rcases lane.placed with ⟨_,rewound,_⟩ | ⟨some,_⟩
    · exact effect.growth.written.trans rewound
    · omega
  have counted := lane.counted
  have unread := lane.unread
  simp only [fresh,List.drop_zero,Nat.add_zero] at unread
  rw [effect.left,Connection.withBuffer_buffer]
  refine ⟨⟨SocketBuffer.appended_sound effect.sound bytes effect.room,?_,?_,?_,?_⟩,contents⟩
  · intro set
    have same : (grown.appended bytes).nextMessageSz = (conn.buffer direction).nextMessageSz :=
      effect.growth.pending
    rw [same]
    apply lane.bounded
    simpa [SocketBuffer.messageSizeSet,← same] using set
  · simp only [History.receive,effect.result,SocketBuffer.arrived,contents,List.length_append]
    omega
  · simp only [History.receive,effect.result,SocketBuffer.arrived,contents,parsed,List.drop_zero,
      Nat.add_zero]
    rw [List.drop_append_of_le_length (by omega),← unread]
  · exact ⟨written,written.trans parsed.symm,by simp [SocketBuffer.appended]; omega,fun _ => parsed⟩

/-- Output is only polled for when all that is buffered is parsed. -/
theorem ready (lane : Lane buffer history none) (ready : buffer.readReady = false) :
    0 < buffer.bytesParsed ∧ buffer.bytesParsed = buffer.size ∧ buffer.messageSizeSet = false := by
  have total := lane.sound.size_eq
  unfold SocketBuffer.readReady SocketBuffer.empty at ready
  rw [Bool.or_eq_false_iff] at ready
  obtain ⟨filled,whole⟩ := ready
  have some : buffer.bytesRead ≠ 0 := by simpa using filled
  have complete : ¬buffer.incompleteMessage = true := by simp [whole]
  rw [incomplete_iff lane.sound] at complete
  rcases lane.placed with ⟨zero,rewound,⟨unset,_⟩ | ⟨set,short⟩⟩ | ⟨parsed,⟨all,unset⟩ | stuck⟩
  · exact absurd ⟨by omega,by simp [unset]⟩ complete
  · exact absurd ⟨by omega,fun _ => by omega⟩ complete
  · exact ⟨parsed,all,unset⟩
  · simp [whole] at stuck

theorem write (lane : Lane (conn.buffer direction) history none)
    (polled : (conn.buffer direction).readReady = false) {result : SendResult} {count : Nat}
    (effect : WriteEffect direction conn next result count) :
    Lane (next.buffer direction) (history.send (conn.buffer direction) result) none := by
  obtain ⟨some,all,unset⟩ := lane.ready polled
  have short := effect.short
  have total := lane.sound.size_eq
  have counted := lane.counted
  have unread := lane.unread
  have length := lane.sound.contents_length
  have sent : (history.send (conn.buffer direction) result).sent.length =
      history.sent.length + count := by
    simp [History.send,effect.result,SocketBuffer.departed]
  have received : (history.send (conn.buffer direction) result).received = history.received := rfl
  rw [effect.left,Connection.withBuffer_buffer]
  by_cases drained : count = (conn.buffer direction).size
  · rw [if_pos drained]
    refine ⟨SocketBuffer.cleared_sound lane.sound,?_,?_,?_,?_⟩
    · simp [SocketBuffer.cleared,SocketBuffer.messageSizeSet]
    · rw [sent,received,SocketBuffer.cleared_contents]
      simp only [List.length_nil]
      omega
    · rw [sent,received,SocketBuffer.cleared_contents,List.drop_nil]
      exact (List.drop_of_length_le (by omega)).symm
    · exact .inl ⟨rfl,rfl,.inl ⟨by simp [SocketBuffer.cleared,SocketBuffer.messageSizeSet],
        by simp [SocketBuffer.cleared]⟩⟩
  · rw [if_neg drained]
    have marks : count + ((conn.buffer direction).bytesParsed - count) ≤
        (conn.buffer direction).size := by omega
    have left : count < (conn.buffer direction).size := by omega
    have sound := SocketBuffer.advanced_sound lane.sound left marks
    have contents := SocketBuffer.advanced_contents lane.sound left marks
    have after := sound.size_eq
    have room := lane.sound.data_size
    refine ⟨sound,?_,?_,?_,?_⟩
    · intro set
      rw [show ((conn.buffer direction).advanced count _).messageSizeSet =
        (conn.buffer direction).messageSizeSet from rfl,unset] at set
      cases set
    · rw [sent,received,contents,List.length_drop]
      omega
    · rw [sent,received,contents,List.drop_drop]
      simp only [SocketBuffer.advanced]
      rw [show count + ((conn.buffer direction).bytesParsed - count) =
        (conn.buffer direction).bytesParsed from by omega,unread]
      congr 1
      omega
    · refine .inr ⟨by simp only [SocketBuffer.advanced]; omega,.inl ⟨?_,unset⟩⟩
      rw [after]
      simp only [SocketBuffer.advanced,SocketBuffer.data] at *
      omega

theorem drained (lane : Lane buffer history (some data))
    (all : ¬buffer.parsed < buffer.size) : Lane buffer history none := by
  obtain ⟨written,_,filled,fresh⟩ := lane.placed
  have total := lane.sound.size_eq
  have bound := lane.sound.parsed_le
  unfold SocketBuffer.parsed at all
  refine { lane with placed := .inr ⟨by omega,.inl ⟨by omega,?_⟩⟩ }
  cases set : buffer.messageSizeSet with
  | false => rfl
  | true =>
    have zero := fresh set
    omega

theorem short (lane : Lane buffer history (some data)) (pending : buffer.parsed < buffer.size)
    (unset : buffer.messageSizeSet = false) (small : buffer.size < 12) : Lane buffer history none := by
  obtain ⟨written,_,filled,fresh⟩ := lane.placed
  have total := lane.sound.size_eq
  refine { lane with placed := ?_ }
  by_cases zero : buffer.bytesParsed = 0
  · exact .inl ⟨zero,written,.inl ⟨unset,by omega⟩⟩
  · exact .inr ⟨by omega,.inr ((incomplete_iff lane.sound).mpr ⟨pending,by simp [unset]⟩)⟩

theorem known_small (lane : Lane (conn.buffer direction) history (some data)) {known : Connection}
    {messageSz : Nat} (sizing : Known settings direction conn data known messageSz) :
    messageSz < 2^36 := by
  rcases sizing.origin with ⟨set,same,_⟩ | ⟨_,small,_⟩
  · rw [same]
    exact lane.bounded set
  · exact small

/-- The buffer with a known next size, not yet handed over. -/
structure Sized (buffer : SocketBuffer) (history : History) (data messageSz : Nat) : Prop where
  sound : buffer.Sound
  pending : buffer.nextMessageSz = messageSz
  set : buffer.messageSizeSet = true
  small : messageSz < 2^36
  counted : history.received.length = history.sent.length + buffer.contents.length
  unread : buffer.contents.drop buffer.bytesParsed =
    history.received.drop (history.sent.length + buffer.bytesParsed)
  written : buffer.bytesWritten = 0
  position : data = buffer.bytesParsed
  some : buffer.bytesParsed < buffer.size

theorem sized (lane : Lane (conn.buffer direction) history (some data))
    (pending : (conn.buffer direction).parsed < (conn.buffer direction).size) {known : Connection}
    {messageSz : Nat} (sizing : Known settings direction conn data known messageSz) :
    Sized (known.buffer direction) history data messageSz := by
  obtain ⟨written,position,_,_⟩ := lane.placed
  have small := lane.known_small sizing
  rw [sizing.buffer]
  exact {
    sound := { lane.sound with pendingLt := by simp only; omega }
    pending := rfl
    set := by simpa [SocketBuffer.messageSizeSet] using sizing.definite
    small
    counted := lane.counted
    unread := lane.unread
    written
    position
    some := pending }

theorem incomplete (sized : Sized buffer history data messageSz)
    (waiting : buffer.incompleteMessage = true) : Lane buffer history none := by
  have total := sized.sound.size_eq
  have written := sized.written
  refine ⟨sized.sound,fun _ => by rw [sized.pending]; exact sized.small,sized.counted,sized.unread,?_⟩
  by_cases zero : buffer.bytesParsed = 0
  · have short := ((incomplete_iff sized.sound).mp waiting).2 sized.set
    exact .inl ⟨zero,written,.inr ⟨sized.set,by omega⟩⟩
  · exact .inr ⟨by omega,.inr waiting⟩

/-- A message that is not incomplete lies within the bytes received. -/
theorem complete (sized : Sized buffer history data messageSz)
    (whole : buffer.incompleteMessage = false) : buffer.bytesParsed + messageSz ≤ buffer.size := by
  have part : ¬buffer.incompleteMessage = true := by simp [whole]
  rw [incomplete_iff sized.sound] at part
  have set := sized.set
  have some := sized.some
  have pending := sized.pending
  have long : ¬buffer.size - buffer.bytesParsed < buffer.nextMessageSz :=
    fun short => part ⟨some,fun _ => short⟩
  omega

/-- Marking a message that lies within the bytes received. -/
private theorem marked_success {after : SocketBuffer} (sound : buffer.Sound)
    (inside : buffer.bytesParsed + buffer.nextMessageSz ≤ buffer.size)
    (ok : buffer.markMessageParsed = .ok after) :
    after = { buffer with
      bytesParsed := buffer.bytesParsed + buffer.nextMessageSz
      nextMessageSz := SocketBuffer.unknownSz } := by
  obtain ⟨_,ok⟩ := demand_bind_success ok
  obtain ⟨_,ok⟩ := demand_bind_success ok
  have bounded := sound.read_lt
  have total := sound.size_eq
  rw [add64_small (by omega)] at ok
  cases ok
  rfl

/-- What a round that hands over a message leaves of the buffer it came from. -/
structure Marked (buffer : SocketBuffer) (data messageSz : Nat) (after : SocketBuffer) : Prop where
  read : after.bytesRead = buffer.bytesRead
  written : after.bytesWritten = buffer.bytesWritten
  parsed : after.bytesParsed = buffer.bytesParsed + messageSz
  unset : after.messageSizeSet = false
  cells : after.buffer = buffer.buffer ∨ (32 ≤ messageSz ∧
    after.buffer = { buffer.buffer with cells := overlay buffer.buffer.cells (data + 8) [0] })

theorem marked (sized : Sized (conn.buffer direction) history data messageSz)
    (whole : (conn.buffer direction).incompleteMessage = false) {handler : Option Handler}
    {logged : Logged} (effect : HandOverEffect direction conn data handler logged)
    {after : SocketBuffer} (mark : (logged.conn.buffer direction).markMessageParsed = .ok after) :
    Marked (conn.buffer direction) data messageSz after := by
  have inside := complete sized whole
  have pending := sized.pending
  rcases effect.same with kept | ⟨_,_,long,patched⟩
  · rw [kept] at mark
    rw [marked_success sized.sound (by omega) mark]
    exact ⟨rfl,rfl,by simp [pending],by simp [SocketBuffer.messageSizeSet],.inl rfl⟩
  · rw [patched] at mark
    have sound : ((conn.buffer direction).patched (data + 8)).Sound := { sized.sound with }
    have same : ((conn.buffer direction).patched (data + 8)).bytesParsed +
        ((conn.buffer direction).patched (data + 8)).nextMessageSz ≤
          ((conn.buffer direction).patched (data + 8)).size := by
      rw [← pending] at inside
      exact inside
    rw [marked_success sound same mark]
    exact ⟨rfl,rfl,by simp [SocketBuffer.patched,pending],
      by simp [SocketBuffer.messageSizeSet],.inr ⟨by omega,rfl⟩⟩

/-- Only bytes of the message just handed over can have changed. -/
theorem Marked.behind {after : SocketBuffer} (marked : Marked buffer data messageSz after)
    (position : data = buffer.bytesWritten + buffer.bytesParsed) (start count : Nat)
    (behind : data + messageSz ≤ start) :
    window after.buffer.cells start count = window buffer.buffer.cells start count := by
  rcases marked.cells with kept | ⟨long,patched⟩
  · rw [kept]
  · rw [patched]
    exact window_overlay_apart _ _ _ _ _ (.inr (by simp only [List.length_singleton]; omega))

theorem handled {after : SocketBuffer} (sized : Sized buffer history data messageSz)
    (marked : Marked buffer data messageSz after) (inside : buffer.bytesParsed + messageSz ≤ buffer.size) :
    Lane after history (some (data + messageSz)) := by
  have sound := sized.sound
  have written := sized.written
  have position := sized.position
  have some := sized.some
  have total := sound.size_eq
  have held := sound.data_size
  obtain ⟨storage,owner,moves⟩ : after.buffer.size = buffer.buffer.size ∧
      after.buffer.owner = buffer.buffer.owner ∧ after.buffer.moves = buffer.buffer.moves := by
    rcases marked.cells with kept | ⟨_,patched⟩
    · rw [kept]
      exact ⟨rfl,rfl,rfl⟩
    · rw [patched]
      exact ⟨rfl,rfl,rfl⟩
  have again : after.Sound := {
    writtenLe := by rw [marked.written,marked.read]; exact sound.writtenLe
    readLe := by rw [marked.read,storage]; exact sound.readLe
    parsedLe := by rw [marked.parsed,marked.read,marked.written]; omega
    rewound := by rw [marked.read,marked.written]; exact sound.rewound
    block := by rw [storage]; exact sound.block
    storageLe := by rw [storage]; exact sound.storageLe
    pendingLt := by
      have unset := marked.unset
      simp only [SocketBuffer.messageSizeSet,bne_eq_false_iff_eq] at unset
      simp [unset,SocketBuffer.unknownSz] }
  have length := again.contents_length
  have before := sound.contents_length
  have parsed := marked.parsed
  rw [marked.read,marked.written] at length
  refine ⟨again,by simp [marked.unset],?_,?_,?_⟩
  · rw [sized.counted]
    omega
  · have rest : after.contents.drop after.bytesParsed =
        (buffer.contents.drop buffer.bytesParsed).drop messageSz := by
      have size : after.size = buffer.size := by
        rw [again.size_eq,total,marked.read,marked.written]
      unfold SocketBuffer.contents SocketBuffer.data
      rw [List.drop_drop,window_drop _ _ _ _ (by omega),window_drop _ _ _ _ (by omega),size,parsed,
        marked.written]
      refine marked.behind ?_ _ _ ?_
      · omega
      · omega
    rw [rest,sized.unread,List.drop_drop,parsed]
    congr 1
    omega
  · exact ⟨marked.written.trans written,by omega,by rw [marked.read]; omega,
      fun set => by simp [marked.unset] at set⟩

end Lane
end Xtracepp
