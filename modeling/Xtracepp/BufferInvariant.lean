import Xtracepp.SocketBuffer

/-! The representation invariant of `SocketBuffer`, and what each member
function does to a buffer that satisfies it.
-/
namespace Xtracepp
open Library.Outcome Library.Window

namespace SocketBuffer

structure Sound (buffer : SocketBuffer) : Prop where
  writtenLe : buffer.bytesWritten ≤ buffer.bytesRead
  readLe : buffer.bytesRead ≤ buffer.buffer.size
  parsedLe : buffer.bytesParsed ≤ buffer.bytesRead - buffer.bytesWritten
  rewound : buffer.bytesWritten = buffer.bytesRead → buffer.bytesRead = 0
  block : blockSz ≤ buffer.buffer.size
  storageLe : buffer.buffer.size ≤ Storage.maxSize
  pendingLt : buffer.nextMessageSz < 2^64

variable {buffer : SocketBuffer}

theorem initial_sound (owner : Nat) : (initial owner).Sound where
  writtenLe := by simp [initial]
  readLe := by simp [initial]
  parsedLe := by simp [initial]
  rewound := by simp [initial]
  block := by simp [initial]
  storageLe := by simp [initial,blockSz,Storage.maxSize]
  pendingLt := by simp [initial,unknownSz]

namespace Sound

theorem read_lt (sound : buffer.Sound) : buffer.bytesRead < 2^63 := by
  have inside := sound.readLe
  have bounded := sound.storageLe
  unfold Storage.maxSize at bounded
  omega

theorem size_eq (sound : buffer.Sound) : buffer.size = buffer.bytesRead - buffer.bytesWritten :=
  sub64_small sound.writtenLe (by have := sound.read_lt; omega)

theorem capacity_eq (sound : buffer.Sound) :
    buffer.capacity = buffer.buffer.size - buffer.bytesRead :=
  sub64_small sound.readLe (by have := sound.storageLe; unfold Storage.maxSize at this; omega)

theorem parsed_le (sound : buffer.Sound) : buffer.bytesParsed ≤ buffer.size := by
  rw [sound.size_eq]
  exact sound.parsedLe

theorem unparsed_eq (sound : buffer.Sound) : buffer.unparsed = buffer.size - buffer.bytesParsed :=
  sub64_small sound.parsed_le (by have := sound.read_lt; rw [sound.size_eq]; omega)

theorem contents_length (sound : buffer.Sound) :
    buffer.contents.length = buffer.bytesRead - buffer.bytesWritten := by
  rw [contents,window_length,sound.size_eq]

theorem data_size (sound : buffer.Sound) : buffer.data + buffer.size = buffer.bytesRead := by
  have ordered := sound.writtenLe
  rw [sound.size_eq,data]
  omega

theorem empty_iff (sound : buffer.Sound) : buffer.empty = true ↔ buffer.contents = [] := by
  rw [← List.length_eq_zero_iff,sound.contents_length]
  simp only [empty,beq_iff_eq]
  constructor
  · omega
  · intro drained
    have ordered := sound.writtenLe
    exact sound.rewound (by omega)

end Sound

/-- `grown` is `buffer` with a storage that has room for `count` more bytes. -/
structure Grown (buffer grown : SocketBuffer) (count : Nat) : Prop where
  read : grown.bytesRead = buffer.bytesRead
  parsed : grown.bytesParsed = buffer.bytesParsed
  written : grown.bytesWritten = buffer.bytesWritten
  pending : grown.nextMessageSz = buffer.nextMessageSz
  room : buffer.bytesRead + count ≤ grown.buffer.size
  larger : buffer.buffer.size ≤ grown.buffer.size
  limit : grown.buffer.size ≤ Storage.maxSize
  kept : ∀ i < buffer.buffer.size, grown.buffer.cells i = buffer.buffer.cells i

/-- `buffer` after its vector was resized to `target`. -/
def enlarged (buffer : SocketBuffer) (target : Nat) : SocketBuffer :=
  { buffer with buffer :=
    { cells := fun i => if i < buffer.buffer.size then buffer.buffer.cells i else 0
      size := target
      owner := buffer.buffer.owner
      moves := if buffer.buffer.size < target then buffer.buffer.moves + 1 else buffer.buffer.moves } }

private theorem enlarged_grown {count target : Nat} (rounded : buffer.bytesRead + count ≤ target)
    (larger : buffer.buffer.size ≤ target) (accepted : target ≤ Storage.maxSize) :
    Grown buffer (buffer.enlarged target) count where
  read := rfl
  parsed := rfl
  written := rfl
  pending := rfl
  room := rounded
  larger := larger
  limit := accepted
  kept := by intro i inside; simp [enlarged,inside]

private theorem enlarged_capacity {count target : Nat} (rounded : buffer.bytesRead + count ≤ target)
    (accepted : target ≤ Storage.maxSize) : count ≤ (buffer.enlarged target).capacity := by
  unfold Storage.maxSize at accepted
  rw [capacity,sub64_small (by simp only [enlarged]; omega) (by simp only [enlarged]; omega)]
  simp only [enlarged]
  omega

private theorem rounded_up {raw : Nat} (small : raw ≤ 2^64 - blockSz) :
    raw ≤ add64 raw ((blockSz - raw % blockSz) % blockSz) := by
  unfold blockSz at *
  rw [add64_small (by omega)]
  omega

/-- What is asked of the vector when there is not room enough. -/
private theorem reserve_wanting (sound : buffer.Sound) (expression : String) {count : Nat}
    (wanting : buffer.capacity < count) (fits : buffer.bytesRead + count ≤ 2^64 - blockSz) :
    ∃ target, buffer.bytesRead + count ≤ target ∧ target < buffer.bytesRead + count + blockSz ∧
      buffer.buffer.size ≤ target ∧ buffer.reserve expression count =
        if target ≤ Storage.maxSize then .ok (buffer.enlarged target) else .error .lengthError := by
  have inside := sound.readLe
  have bounded := sound.storageLe
  have available := sound.capacity_eq
  have raw : add64 buffer.buffer.size (sub64 count buffer.capacity) = buffer.bytesRead + count := by
    unfold blockSz at fits
    rw [sub64_small (by omega) (by omega),add64_small (by omega)]
    omega
  have rounded := rounded_up fits
  have close : add64 (buffer.bytesRead + count)
      ((blockSz - (buffer.bytesRead + count) % blockSz) % blockSz) <
        buffer.bytesRead + count + blockSz := by
    unfold blockSz at *
    rw [add64_small (by omega)]
    omega
  refine ⟨_,rounded,close,by omega,?_⟩
  simp only [reserve,gt_iff_lt,wanting,if_true,raw]
  generalize add64 (buffer.bytesRead + count)
    ((blockSz - (buffer.bytesRead + count) % blockSz) % blockSz) = target at rounded ⊢
  by_cases accepted : target ≤ Storage.maxSize
  · simp only [Storage.resize,accepted,if_true,ok_bind]
    rw [assert,demand_true]
    · rfl
    · exact enlarged_capacity rounded accepted
  · simp [Storage.resize,accepted]

private theorem grown_self (sound : buffer.Sound) {count : Nat} (enough : count ≤ buffer.capacity) :
    Grown buffer buffer count := by
  have inside := sound.readLe
  have available := sound.capacity_eq
  exact ⟨rfl,rfl,rfl,rfl,by omega,Nat.le_refl _,sound.storageLe,fun _ _ => rfl⟩

/-- Growth either is refused by the vector or keeps the live bytes, as long as the
new size does not wrap around. -/
theorem reserve_spec (sound : buffer.Sound) (expression : String) (count : Nat)
    (fits : buffer.bytesRead + count ≤ 2^64 - blockSz) :
    buffer.reserve expression count = .error .lengthError ∨
      ∃ grown, buffer.reserve expression count = .ok grown ∧ Grown buffer grown count ∧
        (count ≤ buffer.capacity → grown = buffer) := by
  by_cases wanting : buffer.capacity < count
  · obtain ⟨target,rounded,_,larger,asked⟩ := reserve_wanting sound expression wanting fits
    by_cases accepted : target ≤ Storage.maxSize
    · right
      rw [if_pos accepted] at asked
      exact ⟨_,asked,enlarged_grown rounded larger accepted,by omega⟩
    · left
      rw [asked,if_neg accepted]
  · right
    exact ⟨buffer,by simp [reserve,wanting],grown_self sound (by omega),fun _ => rfl⟩

/-- A vector far from its largest size grants what is asked. -/
theorem reserve_granted (sound : buffer.Sound) (expression : String) {count : Nat}
    (modest : count ≤ buffer.capacity ∨ buffer.bytesRead + count + blockSz ≤ Storage.maxSize) :
    ∃ grown, buffer.reserve expression count = .ok grown ∧ Grown buffer grown count := by
  by_cases wanting : buffer.capacity < count
  · have small : buffer.bytesRead + count + blockSz ≤ Storage.maxSize := by omega
    obtain ⟨target,rounded,close,larger,asked⟩ :=
      reserve_wanting sound expression wanting (by unfold Storage.maxSize blockSz at *; omega)
    have accepted : target ≤ Storage.maxSize := by omega
    rw [if_pos accepted] at asked
    exact ⟨_,asked,enlarged_grown rounded larger accepted⟩
  · exact ⟨buffer,by simp [reserve,wanting],grown_self sound (by omega)⟩

theorem Grown.sound {grown : SocketBuffer} {count : Nat} (growth : Grown buffer grown count)
    (sound : buffer.Sound) : grown.Sound where
  writtenLe := by rw [growth.written,growth.read]; exact sound.writtenLe
  readLe := by rw [growth.read]; exact Nat.le_trans sound.readLe growth.larger
  parsedLe := by rw [growth.parsed,growth.read,growth.written]; exact sound.parsedLe
  rewound := by rw [growth.read,growth.written]; exact sound.rewound
  block := Nat.le_trans sound.block growth.larger
  storageLe := growth.limit
  pendingLt := by rw [growth.pending]; exact sound.pendingLt

theorem Grown.contents {grown : SocketBuffer} {count : Nat} (growth : Grown buffer grown count)
    (sound : buffer.Sound) : grown.contents = buffer.contents := by
  have filled := sound.data_size
  have inside := sound.readLe
  unfold SocketBuffer.contents SocketBuffer.size SocketBuffer.data
  rw [growth.written,growth.read]
  apply window_congr
  intro i lower upper
  apply growth.kept
  change i < buffer.data + buffer.size at upper
  omega

/-- `buffer` with bytes appended behind those read so far. -/
def appended (buffer : SocketBuffer) (bytes : List UInt8) : SocketBuffer :=
  { buffer with
    buffer := { buffer.buffer with cells := overlay buffer.buffer.cells buffer.bytesRead bytes }
    bytesRead := buffer.bytesRead + bytes.length }

theorem appended_sound (sound : buffer.Sound) (bytes : List UInt8)
    (room : buffer.bytesRead + bytes.length ≤ buffer.buffer.size) : (buffer.appended bytes).Sound where
  writtenLe := by have := sound.writtenLe; simp [appended]; omega
  readLe := room
  parsedLe := by have := sound.parsedLe; simp [appended]; omega
  rewound := by
    have ordered := sound.writtenLe
    have rewound := sound.rewound
    simp only [appended]
    omega
  block := sound.block
  storageLe := sound.storageLe
  pendingLt := sound.pendingLt

theorem appended_contents (sound : buffer.Sound) (bytes : List UInt8)
    (room : buffer.bytesRead + bytes.length ≤ buffer.buffer.size) :
    (buffer.appended bytes).contents = buffer.contents ++ bytes := by
  have filled := sound.data_size
  have longer : (buffer.appended bytes).size = buffer.size + bytes.length := by
    rw [(appended_sound sound bytes room).size_eq,sound.size_eq]
    have ordered := sound.writtenLe
    simp only [appended]
    omega
  unfold contents
  rw [longer]
  simp only [appended,data] at filled ⊢
  rw [← filled]
  exact window_overlay_behind _ _ _ _

theorem store_appended (sound : buffer.Sound) (bytes : List UInt8)
    (room : buffer.bytesRead + bytes.length ≤ buffer.buffer.size) :
    buffer.buffer.store buffer.bytesRead bytes =
      .ok { buffer.buffer with cells := overlay buffer.buffer.cells buffer.bytesRead bytes } ∧
    add64 buffer.bytesRead bytes.length = buffer.bytesRead + bytes.length := by
  have bounded := sound.storageLe
  refine ⟨by simp [Storage.store,room],add64_small ?_⟩
  unfold Storage.maxSize at bounded
  omega

/-- The buffer once a front part has been handed out and the rest is not empty. -/
def advanced (buffer : SocketBuffer) (count parsed : Nat) : SocketBuffer :=
  { buffer with bytesWritten := buffer.bytesWritten + count, bytesParsed := parsed }

/-- The buffer once all has been handed out. -/
def cleared (buffer : SocketBuffer) : SocketBuffer :=
  { buffer with
    bytesRead := 0, nextMessageSz := unknownSz, bytesParsed := 0, bytesWritten := 0 }

theorem cleared_sound (sound : buffer.Sound) : buffer.cleared.Sound where
  writtenLe := by simp [cleared]
  readLe := by simp [cleared]
  parsedLe := by simp [cleared]
  rewound := by simp [cleared]
  block := sound.block
  storageLe := sound.storageLe
  pendingLt := by simp [cleared,unknownSz]

@[simp] theorem cleared_contents : buffer.cleared.contents = [] := by
  simp [contents,cleared,size,sub64]

theorem advanced_sound (sound : buffer.Sound) {count parsed : Nat} (short : count < buffer.size)
    (marks : count + parsed ≤ buffer.size) : (buffer.advanced count parsed).Sound where
  writtenLe := by have := sound.data_size; simp only [advanced,data] at *; omega
  readLe := sound.readLe
  parsedLe := by have := sound.data_size; simp only [advanced,data] at *; omega
  rewound := by have := sound.data_size; simp only [advanced,data] at *; omega
  block := sound.block
  storageLe := sound.storageLe
  pendingLt := sound.pendingLt

theorem advanced_contents (sound : buffer.Sound) {count parsed : Nat} (short : count < buffer.size)
    (marks : count + parsed ≤ buffer.size) :
    (buffer.advanced count parsed).contents = buffer.contents.drop count := by
  have after := (advanced_sound sound short marks).size_eq
  have before := sound.size_eq
  unfold contents
  rw [window_drop _ _ _ _ (by omega),after]
  simp only [advanced,data]
  congr 1
  omega

/-- What handing out `count` bytes comes to when the marks that stay fit the rest. -/
theorem clearIfDrained_spec (sound : buffer.Sound) (count parsed : Nat)
    (marks : count + parsed ≤ buffer.size) :
    clearIfDrained (buffer.advanced count parsed) =
      .ok (if count = buffer.size then buffer.cleared else buffer.advanced count parsed) := by
  have filled := sound.data_size
  have bounded := sound.read_lt
  by_cases all : count = buffer.size
  · have drained : (buffer.advanced count parsed).bytesWritten =
        (buffer.advanced count parsed).bytesRead := by
      simp only [advanced,data] at *
      omega
    have nothing : (buffer.advanced count parsed).size = 0 := by
      rw [SocketBuffer.size,drained,sub64_small (Nat.le_refl _)]
      · omega
      · exact Nat.lt_trans bounded (by omega)
    have none : parsed = 0 := by omega
    rw [clearIfDrained,if_pos drained,clear,assert,demand_true,if_pos all]
    · rfl
    · rw [nothing]
      exact none
  · have remaining : ¬ (buffer.advanced count parsed).bytesWritten =
        (buffer.advanced count parsed).bytesRead := by
      simp only [advanced,data] at *
      omega
    rw [clearIfDrained,if_neg remaining,if_neg all]
    rfl

end SocketBuffer
end Xtracepp
