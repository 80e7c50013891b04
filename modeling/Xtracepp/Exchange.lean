import Xtracepp.Prequeue
import Xtracepp.Formatting

/-! One request and its response on a socket that is read by `polledRead` and
`polledReadMessage`: what each step does to the buffer between them.
-/
namespace Xtracepp
open Library Library.Outcome Library.Window Library.Framing

namespace Prequeue

/-- The bytes of an integer as the host stores them. -/
def stored (littleEndian : Bool) (size value : Nat) : List UInt8 :=
  if littleEndian then Formatting.encode size value else (Formatting.encode size value).reverse

/-- What happens after one request was made: what `poll` and `send` give for it, and what
`poll` and `recv` give then. -/
structure Exchange where
  polled : PollResult
  sent : SendResult
  results : Results

def polledWriteMessage (ndebug : Bool) (buffer : SocketBuffer) (messageSz : Nat) (polled : PollResult)
    (sent : SendResult) : Checked (SocketBuffer × Option String) := do
  assert "buffer.size() == message_sz" (buffer.size = messageSz)
  assert "buffer.parsed() == message_sz" (buffer.parsed = messageSz)
  match pollSingleSocket polled with
  | some pollError => return (buffer,some pollError)
  | none => do
    let (buffer,_,writeError) ← buffer.write ndebug messageSz sent
    match writeError with
    | some writeError => return (buffer,some writeError)
    | none => do
      assert "buffer.empty()" (buffer.empty = true)
      return (buffer,none)

def polledRead (buffer : SocketBuffer) (result : PollResult × RecvResult) :
    Checked (SocketBuffer × Nat × Option String) := do
  assert "buffer.empty()" (buffer.empty = true)
  match pollSingleSocket result.1 with
  | some pollError => return (buffer,0,some pollError)
  | none => buffer.readSocket result.2

/-- Results of a socket that is always ready, with these chunks. -/
def arriving (chunks : List (List UInt8)) : Results := fun i =>
  match chunks[i]? with
  | some bytes => (.ready false false false,.received bytes)
  | none => (.timeout,.failed "")

/-- What a buffer holds between two calls, none of it marked as parsed. -/
structure Holds (buffer : SocketBuffer) (bytes : List UInt8) : Prop where
  sound : buffer.Sound
  contents : buffer.contents = bytes
  unparsed : buffer.bytesParsed = 0

/-- A buffer that can take a request or a response. -/
structure Ready (buffer : SocketBuffer) : Prop where
  holds : Holds buffer []
  unset : buffer.nextMessageSz = SocketBuffer.unknownSz

section buffers

variable {buffer : SocketBuffer} {bytes : List UInt8}

theorem Holds.size (holds : Holds buffer bytes) : buffer.size = bytes.length := by
  rw [holds.sound.size_eq,← holds.sound.contents_length,holds.contents]

theorem Holds.rewound (holds : Holds buffer []) : buffer.bytesRead = 0 ∧ buffer.bytesWritten = 0 := by
  have size := holds.size
  have ordered := holds.sound.writtenLe
  rw [holds.sound.size_eq,List.length_nil] at size
  have rewound := holds.sound.rewound (by omega)
  omega

theorem Holds.nonempty (holds : Holds buffer bytes) : buffer.empty = true ↔ bytes = [] := by
  rw [holds.sound.empty_iff,holds.contents]

theorem initial_ready : Ready (SocketBuffer.initial 0) :=
  ⟨⟨SocketBuffer.initial_sound 0,rfl,rfl⟩,rfl⟩

theorem load_done (holds : Holds buffer bytes) {input : List UInt8} (given : input ≠ [])
    (room : buffer.bytesRead + input.length + SocketBuffer.blockSz ≤ Storage.maxSize) :
    ∃ after, buffer.load input = .ok (after,input.length) ∧ Holds after (bytes ++ input) ∧
      after.nextMessageSz = buffer.nextMessageSz ∧ after.bytesRead = buffer.bytesRead + input.length ∧
        after.bytesWritten = buffer.bytesWritten := by
  have some : input.length > 0 := List.length_pos_iff.mpr given
  obtain ⟨grown,reserved,growth⟩ := SocketBuffer.reserve_granted holds.sound
    "capacity() >= bytes_to_load" (.inr room)
  have sound := growth.sound holds.sound
  have space : grown.bytesRead + input.length ≤ grown.buffer.size := by
    rw [growth.read]
    exact growth.room
  obtain ⟨stored,counted⟩ := SocketBuffer.store_appended sound input space
  refine ⟨grown.appended input,?_,⟨SocketBuffer.appended_sound sound input space,?_,?_⟩,growth.pending,
    ?_,growth.written⟩
  · rw [SocketBuffer.load,assert,demand_true some,ok_bind,reserved]
    simp only [stored,counted,ok_bind]
    rfl
  · rw [SocketBuffer.appended_contents sound input space,growth.contents holds.sound,holds.contents]
  · exact growth.parsed.trans holds.unparsed
  · change grown.bytesRead + _ = _
    rw [growth.read]

theorem unloadTo_done (holds : Holds buffer bytes) {count : Nat} (inside : count ≤ bytes.length) :
    ∃ after, buffer.unloadTo count = .ok (after,count,bytes.take count) ∧
      Holds after (bytes.drop count) ∧ (count = bytes.length → Ready after) := by
  have size := holds.size
  have filled := holds.sound.data_size
  have room := holds.sound.readLe
  have bounded := holds.sound.read_lt
  have fetched : buffer.buffer.fetch buffer.data count = .ok (bytes.take count) := by
    rw [Storage.fetch,if_pos (by omega),← holds.contents,SocketBuffer.contents,
      window_take _ _ _ _ (by omega)]
  have advance : add64 buffer.bytesWritten count = buffer.bytesWritten + count :=
    add64_small (by simp only [SocketBuffer.data] at filled; omega)
  have marks : count + 0 ≤ buffer.size := by omega
  have drained := SocketBuffer.clearIfDrained_spec holds.sound count 0 marks
  have same : { buffer with bytesWritten := buffer.bytesWritten + count } =
      buffer.advanced count 0 := by
    rw [SocketBuffer.advanced,← holds.unparsed]
  refine ⟨if count = buffer.size then buffer.cleared else buffer.advanced count 0,?_,?_,?_⟩
  · rw [SocketBuffer.unloadTo,assert,demand_true (by omega),ok_bind,fetched,ok_bind,advance,same,drained]
    simp only [ok_bind,pure_ok]
  · by_cases all : count = buffer.size
    · rw [if_pos all]
      refine ⟨SocketBuffer.cleared_sound holds.sound,?_,rfl⟩
      rw [SocketBuffer.cleared_contents,List.drop_of_length_le (by omega)]
    · rw [if_neg all]
      refine ⟨SocketBuffer.advanced_sound holds.sound (by omega) marks,?_,rfl⟩
      rw [SocketBuffer.advanced_contents holds.sound (by omega) marks,holds.contents]
  · intro all
    rw [if_pos (all.trans size.symm)]
    exact ⟨⟨SocketBuffer.cleared_sound holds.sound,SocketBuffer.cleared_contents,rfl⟩,rfl⟩

/-- The first read takes what has arrived, if the vector has room for it. -/
theorem polledRead_chunk (ready : Ready buffer) (chunks : List (List UInt8)) (chunk : List UInt8) :
    (buffer.buffer.size < chunk.length ∧
        ∃ fault, polledRead buffer (arriving (chunk :: chunks) 0) = .error fault) ∨
      ∃ after, polledRead buffer (arriving (chunk :: chunks) 0) = .ok (after,chunk.length,none) ∧
        Holds after chunk ∧ after.nextMessageSz = SocketBuffer.unknownSz ∧ after.bytesWritten = 0 := by
  obtain ⟨read,written⟩ := ready.holds.rewound
  have empty : buffer.empty = true := ready.holds.nonempty.mpr rfl
  have unset : buffer.messageSizeSet = false := by
    rw [SocketBuffer.messageSizeSet,ready.unset,bne_self_eq_false]
  have asked : buffer.bytesToRead = buffer.capacity := by
    simp only [SocketBuffer.bytesToRead,unset,Bool.not_false,if_true]
  have kept : buffer.reserve "capacity() >= bytes_to_read" buffer.capacity = .ok buffer := by
    rw [SocketBuffer.reserve,if_neg (Nat.lt_irrefl _),pure_ok]
  have here : arriving (chunk :: chunks) 0 = (.ready false false false,.received chunk) := rfl
  have quiet : pollSingleSocket (.ready false false false) = none := rfl
  have started : polledRead buffer (arriving (chunk :: chunks) 0) =
      buffer.readSocket (.received chunk) := by
    rw [here,polledRead,assert,demand_true empty,ok_bind,quiet]
  rw [started,SocketBuffer.readSocket,asked,SocketBuffer.read,kept,ok_bind]
  by_cases room : buffer.bytesRead + chunk.length ≤ buffer.buffer.size
  · right
    obtain ⟨stored,counted⟩ := SocketBuffer.store_appended ready.holds.sound chunk room
    refine ⟨buffer.appended chunk,?_,⟨SocketBuffer.appended_sound ready.holds.sound chunk room,?_,
      ready.holds.unparsed⟩,ready.unset,written⟩
    · simp only [stored,counted,ok_bind,pure_ok]
      rfl
    · rw [SocketBuffer.appended_contents ready.holds.sound chunk room,ready.holds.contents,
        List.nil_append]
  · left
    refine ⟨by omega,.undefined "write past the end of _buffer",?_⟩
    simp only [Storage.store,if_neg room,error_bind]

/-- The loop reads chunk after chunk, up to the end of the message. -/
theorem readMessageLoop_chunks {messageSz : Nat} (later : List (List UInt8)) :
    ∀ (earlier : List (List UInt8)) {buffer : SocketBuffer} {total fuel : Nat},
      Waiting buffer messageSz → (∀ chunk ∈ later,chunk ≠ []) →
        buffer.size + later.flatten.length = messageSz → total ≤ buffer.size →
          later.flatten.length < fuel →
            ∃ read, readMessageLoop messageSz (arriving (earlier ++ later)) fuel earlier.length buffer
                total = .ok (some read) ∧ read.error = none ∧ Waiting read.buffer messageSz ∧
                  read.buffer.contents = buffer.contents ++ later.flatten ∧
                    read.bytesRead = total + later.flatten.length := by
  induction later with
  | nil =>
    intro earlier buffer total fuel waiting _ whole _ enough
    obtain ⟨fuel,rfl⟩ := Nat.exists_eq_succ_of_ne_zero (Nat.ne_of_gt (Nat.zero_lt_of_lt enough))
    rw [List.flatten_nil,List.length_nil,Nat.add_zero] at whole
    rw [List.append_nil,List.flatten_nil,List.append_nil,List.length_nil,Nat.add_zero]
    exact ⟨⟨buffer,total,none,earlier.length⟩,round_full waiting (Nat.le_of_eq whole.symm),rfl,waiting,
      rfl,rfl⟩
  | cons chunk later ih =>
    intro earlier buffer total fuel waiting nonempty whole small enough
    have room := waiting.room
    unfold Storage.maxSize at room
    have brought : 0 < chunk.length := List.length_pos_iff.mpr (nonempty chunk (by simp))
    rw [List.flatten_cons,List.length_append] at whole enough
    obtain ⟨fuel,rfl⟩ := Nat.exists_eq_succ_of_ne_zero (Nat.ne_of_gt (Nat.zero_lt_of_lt enough))
    have here : arriving (earlier ++ chunk :: later) earlier.length =
        (.ready false false false,.received chunk) := by
      have found : (earlier ++ chunk :: later)[earlier.length]? = some chunk := by simp
      simp only [arriving,found]
    obtain ⟨after,still,joined,longer,round⟩ := @round_received buffer messageSz earlier.length
      (arriving (earlier ++ chunk :: later)) waiting (by omega) (by rw [here]; rfl) chunk (by rw [here])
      (by omega)
    have counted : add64 total chunk.length = total + chunk.length := add64_small (by omega)
    obtain ⟨read,done,good,waits,contents,count⟩ := @ih (earlier ++ [chunk]) after
      (add64 total chunk.length) fuel still (fun other member => nonempty other (by simp [member]))
      (by omega) (by omega) (by omega)
    rw [List.append_assoc,List.singleton_append,List.length_append,List.length_singleton] at done
    refine ⟨read,(round fuel total).trans done,good,waits,?_,?_⟩
    · rw [contents,joined,List.flatten_cons,List.append_assoc]
    · rw [count,counted,List.flatten_cons,List.length_append,Nat.add_assoc]

theorem Holds.byte (holds : Holds buffer bytes) (given : 0 < bytes.length) :
    buffer.buffer.byte buffer.data = .ok (bytes.getD 0 0) := by
  have size := holds.size
  have filled := holds.sound.data_size
  have room := holds.sound.readLe
  have inside : buffer.data < buffer.buffer.size := by omega
  have first : bytes.getD 0 0 = buffer.buffer.cells buffer.data := by
    rw [← holds.contents,SocketBuffer.contents,List.getD_eq_getElem _ _ (by rw [window_length]; omega),
      window_getElem,Nat.add_zero]
  rw [Storage.byte,if_pos inside,first]

theorem Holds.fetch (holds : Holds buffer bytes) {start count : Nat}
    (inside : start + count ≤ bytes.length) :
    buffer.buffer.fetch (buffer.data + start) count = .ok (slice bytes start count) := by
  have size := holds.size
  have filled := holds.sound.data_size
  have room := holds.sound.readLe
  rw [Storage.fetch,if_pos (by omega),← holds.contents,SocketBuffer.contents,slice,
    window_drop _ _ _ _ (by omega),window_take _ _ _ _ (by omega)]

theorem writeAll_done (ndebug : Bool) (sound : buffer.Sound) (marked : buffer.bytesParsed = buffer.size) :
    polledWriteMessage ndebug buffer buffer.size (.ready false false false) (.sent buffer.size) =
      .ok (buffer.cleared,none) := by
  have quiet : pollSingleSocket (.ready false false false) = none := rfl
  have filled := sound.data_size
  have bounded := sound.read_lt
  have advance : add64 buffer.bytesWritten buffer.size = buffer.bytesWritten + buffer.size :=
    add64_small (by simp only [SocketBuffer.data] at filled; omega)
  have nothing : sub64 buffer.bytesParsed buffer.size = 0 := by
    rw [marked,sub64_small (Nat.le_refl _) (by omega),Nat.sub_self]
  have drained := SocketBuffer.clearIfDrained_spec sound buffer.size 0 (Nat.le_of_eq (Nat.add_zero _))
  rw [if_pos rfl,SocketBuffer.advanced] at drained
  have parsed : buffer.parsed = buffer.size := marked
  have covered : buffer.size ≤ buffer.bytesParsed := Nat.le_of_eq marked.symm
  have bare : buffer.cleared.empty = true :=
    (SocketBuffer.cleared_sound sound).empty_iff.mpr SocketBuffer.cleared_contents
  rw [polledWriteMessage,assert,demand_true rfl,ok_bind,assert,demand_true parsed,ok_bind,quiet]
  have wrote : buffer.write ndebug buffer.size (.sent buffer.size) =
      .ok (buffer.cleared,buffer.size,none) := by
    rw [SocketBuffer.write,assert,demand_true covered,ok_bind,advance,nothing]
    rw [assert,demand_true (.inr rfl),ok_bind,drained]
    simp only [ok_bind,pure_ok]
  simp only [wrote,ok_bind,assert,demand_true bare,pure_ok]

/-- A buffer of which `count` bytes count as parsed. -/
def marked (buffer : SocketBuffer) (count : Nat) : SocketBuffer :=
  { buffer with bytesParsed := count, nextMessageSz := SocketBuffer.unknownSz }

theorem marked_sound (sound : buffer.Sound) {count : Nat}
    (inside : count ≤ buffer.bytesRead - buffer.bytesWritten) : (marked buffer count).Sound where
  writtenLe := sound.writtenLe
  readLe := sound.readLe
  parsedLe := inside
  rewound := sound.rewound
  block := sound.block
  storageLe := sound.storageLe
  pendingLt := by simp only [marked,SocketBuffer.unknownSz]; omega

/-- The message size is set, and the message marked as parsed. -/
theorem mark_done (unparsed : buffer.bytesParsed = 0)
    (unset : buffer.nextMessageSz = SocketBuffer.unknownSz) {count : Nat} (inside : count ≤ buffer.size)
    (bounded : count < SocketBuffer.unknownSz) :
    buffer.setMessageSize count = .ok (awaiting buffer count) ∧
      (awaiting buffer count).markMessageParsed = .ok (marked buffer count) := by
  have known : count ≠ SocketBuffer.unknownSz := Nat.ne_of_lt bounded
  constructor
  · have unknown : buffer.messageSizeSet = false := by
      rw [SocketBuffer.messageSizeSet,unset,bne_self_eq_false]
    rw [SocketBuffer.setMessageSize,assert,demand_true known,ok_bind,assert,demand_true unknown,ok_bind,
      pure_ok,awaiting]
  · have set : (awaiting buffer count).messageSizeSet = true := bne_iff_ne.mpr known
    have sum : add64 (awaiting buffer count).bytesParsed (awaiting buffer count).nextMessageSz = count := by
      have small : 0 + count < 2^64 := by
        unfold SocketBuffer.unknownSz at bounded
        omega
      change add64 buffer.bytesParsed count = count
      rw [unparsed,add64_small small,Nat.zero_add]
    have within : add64 (awaiting buffer count).bytesParsed (awaiting buffer count).nextMessageSz ≤
        (awaiting buffer count).size := by
      rw [sum,awaiting_size]
      exact inside
    rw [SocketBuffer.markMessageParsed,assert,demand_true set,ok_bind,assert,demand_true within,ok_bind,
      sum,pure_ok,awaiting,marked]

theorem stored_length (littleEndian : Bool) (size value : Nat) :
    (stored littleEndian size value).length = size := by
  cases littleEndian <;> simp [stored,Formatting.encode_length]

/-- A request that was loaded is sent whole. -/
theorem sendAll_done (ndebug : Bool) (holds : Holds buffer bytes)
    (unset : buffer.nextMessageSz = SocketBuffer.unknownSz) {count : Nat}
    (length : bytes.length = count) :
    ∃ named sealed after, buffer.setMessageSize count = .ok named ∧
      named.markMessageParsed = .ok sealed ∧
        polledWriteMessage ndebug sealed count (.ready false false false) (.sent count) =
          .ok (after,none) ∧ Ready after := by
  have size : buffer.size = count := holds.size.trans length
  have filled := holds.sound.size_eq
  have bounded := holds.sound.read_lt
  rw [size] at filled
  have inside : count ≤ buffer.bytesRead - buffer.bytesWritten := Nat.le_of_eq filled
  have known : count < SocketBuffer.unknownSz := by
    unfold SocketBuffer.unknownSz
    omega
  obtain ⟨setTo,parsed⟩ := @mark_done buffer holds.unparsed unset count (Nat.le_of_eq size.symm) known
  have sound := marked_sound holds.sound inside
  have all : (marked buffer count).size = count := size
  have written := writeAll_done ndebug sound all.symm
  rw [all] at written
  exact ⟨awaiting buffer count,marked buffer count,(marked buffer count).cleared,setTo,parsed,written,
    ⟨SocketBuffer.cleared_sound sound,SocketBuffer.cleared_contents,rfl⟩,rfl⟩

theorem reserve_parsed {grown : SocketBuffer} {expression : String} {count : Nat}
    (done : buffer.reserve expression count = .ok grown) : grown.bytesParsed = buffer.bytesParsed := by
  unfold SocketBuffer.reserve at done
  split at done
  · obtain ⟨storage,_,rest⟩ := bind_success done
    obtain ⟨_,given⟩ := demand_bind_success rest
    cases given
    rfl
  · cases done
    rfl

theorem read_parsed {after : SocketBuffer} {bytesToRead count : Nat} {result : RecvResult}
    {error : Option String} (done : buffer.read bytesToRead result = .ok (after,count,error)) :
    after.bytesParsed = buffer.bytesParsed := by
  obtain ⟨grown,reserved,rest⟩ := bind_success done
  have kept := reserve_parsed reserved
  cases result with
  | failed reason =>
    cases rest
    exact kept
  | received bytes =>
    obtain ⟨storage,_,given⟩ := bind_success rest
    cases given
    exact kept

theorem readMessageLoop_parsed {messageSz : Nat} {results : Results} {fuel : Nat} :
    ∀ {i : Nat} {buffer : SocketBuffer} {total : Nat} {read : ReadMessage},
      readMessageLoop messageSz results fuel i buffer total = .ok (some read) →
        read.buffer.bytesParsed = buffer.bytesParsed := by
  induction fuel with
  | zero =>
    intro i buffer total read done
    cases done
  | succ fuel ih =>
    intro i buffer total read done
    rw [readMessageLoop] at done
    split at done
    · split at done
      · cases done
        rfl
      · obtain ⟨⟨after,count,error⟩,attempted,rest⟩ := bind_success done
        have kept := read_parsed attempted
        cases error with
        | some readError =>
          cases rest
          exact kept
        | none => exact (ih rest).trans kept
    · cases done
      rfl

theorem slice_take {data : List UInt8} {offset count size : Nat} (inside : offset + count ≤ size) :
    slice (data.take size) offset count = slice data offset count := by
  rw [slice,slice,List.drop_take,List.take_take,Nat.min_eq_left (by omega)]

theorem getD_append {front rest : List UInt8} {value : UInt8} (given : 0 < front.length)
    (first : (front ++ rest)[0]? = some value) : front.getD 0 0 = value := by
  rw [List.getElem?_append_left given] at first
  rw [List.getD_eq_getElem?_getD,first,Option.getD_some]

/-- The rest of a message, once its size is known. -/
theorem gather_done (holds : Holds buffer bytes)
    (unset : buffer.nextMessageSz = SocketBuffer.unknownSz) (unwritten : buffer.bytesWritten = 0)
    {later : List (List UInt8)} (nonempty : ∀ chunk ∈ later,chunk ≠ []) {messageSz : Nat}
    (whole : bytes.length + later.flatten.length = messageSz) (modest : messageSz < 2^32) :
    ∃ named read,buffer.setMessageSize messageSz = .ok named ∧
      polledReadMessage named messageSz (arriving (bytes :: later)) 1 (messageSz + 1) =
        .ok (some read) ∧ read.error = none ∧ add64 bytes.length read.bytesRead = messageSz ∧
          Holds read.buffer (bytes ++ later.flatten) := by
  have size := holds.size
  have room : (awaiting buffer messageSz).bytesWritten + 2 * messageSz + SocketBuffer.blockSz ≤
      Storage.maxSize := by
    change buffer.bytesWritten + _ + _ ≤ _
    rw [unwritten]
    unfold SocketBuffer.blockSz Storage.maxSize
    omega
  have known : messageSz ≠ SocketBuffer.unknownSz := by
    unfold SocketBuffer.unknownSz
    omega
  have unknown : buffer.messageSizeSet = false := by
    rw [SocketBuffer.messageSizeSet,unset,bne_self_eq_false]
  have named : buffer.setMessageSize messageSz = .ok (awaiting buffer messageSz) := by
    rw [SocketBuffer.setMessageSize,assert,demand_true known,ok_bind,assert,demand_true unknown,ok_bind,
      pure_ok,awaiting]
  have waiting : Waiting (awaiting buffer messageSz) messageSz :=
    (ensured holds.sound (.inl unknown) room).2
  have same : awaiting (awaiting buffer messageSz) messageSz = awaiting buffer messageSz := rfl
  have asked := @polledReadMessage_loop (awaiting buffer messageSz) messageSz 1 (messageSz + 1)
    (arriving (bytes :: later)) waiting.sound (.inr rfl) room
  have missing : (awaiting buffer messageSz).size + later.flatten.length = messageSz := by
    rw [awaiting_size,size]
    exact whole
  obtain ⟨read,done,good,waits,contents,count⟩ := @readMessageLoop_chunks messageSz later [bytes]
    (awaiting buffer messageSz) 0 (messageSz + 1) waiting nonempty missing (Nat.zero_le _) (by omega)
  rw [List.singleton_append,List.length_singleton] at done
  have still : read.buffer.bytesParsed = 0 :=
    (readMessageLoop_parsed done).trans holds.unparsed
  rw [Nat.zero_add] at count
  have pending : read.buffer.messageSize = messageSz := waits.pending
  have sum : add64 bytes.length read.bytesRead = messageSz := by
    rw [count,add64_small (by omega),whole]
  have ended : finishMessage (awaiting buffer messageSz).size (some read) = .ok (some read) := by
    rw [finishMessage,assert,demand_true,ok_bind,pure_ok]
    intro _
    rw [awaiting_size,size,pending]
    exact sum
  refine ⟨awaiting buffer messageSz,read,named,?_,good,sum,waits.sound,?_,still⟩
  · rw [asked,same,done,ok_bind,ended]
  · rw [contents,awaiting_contents,holds.contents]

/-- Bytes that are dropped. -/
theorem unload_done (holds : Holds buffer bytes) {count : Nat} (inside : count ≤ bytes.length) :
    ∃ after,buffer.unload count = .ok (after,count) ∧ Holds after (bytes.drop count) := by
  obtain ⟨after,unloaded,left,_⟩ := unloadTo_done holds inside
  refine ⟨after,?_,left⟩
  rw [SocketBuffer.unloadTo] at unloaded
  obtain ⟨given,rest⟩ := demand_bind_success unloaded
  obtain ⟨output,_,rest⟩ := bind_success rest
  obtain ⟨drained,cleared,same⟩ := bind_success rest
  rw [pure_ok,Except.ok.injEq,Prod.mk.injEq] at same
  rw [SocketBuffer.unload,assert,demand_true given,ok_bind,cleared,ok_bind,same.1,pure_ok]

end buffers

end Prequeue
end Xtracepp
