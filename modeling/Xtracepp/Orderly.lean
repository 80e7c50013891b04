import Xtracepp.Scene

/-! Runs in which every read in a direction finds nothing marked parsed. The lane of
that direction keeps its invariant, and what is asked of `recv` is sound.
-/
namespace Xtracepp
open Library Library.Outcome Library.Runs

variable {settings : Settings} {direction acting : Direction}

namespace Scene

variable {scene after : Scene} {label : Label}

/-- A step that leaves one direction alone. -/
structure Aside (direction : Direction) (scene after : Scene) : Prop where
  buffer : after.conn.buffer direction = scene.conn.buffer direction
  history : after.history direction = scene.history direction
  cursor : after.cursor direction = scene.cursor direction

theorem Move.aside (move : Move settings acting scene label after) (different : direction ≠ acting) :
    Aside direction scene after := by
  have other (history : History) : scene.withHistory acting history direction =
      scene.history direction := by simp [withHistory,different]
  cases move with
  | received result next idle polled fits read =>
    obtain ⟨buffer,rfl⟩ := readFrom_left read
    refine ⟨Connection.withBuffer_other _ _ _ different,other _,?_⟩
    simp [cursor,idle,Ne.symm different]
  | finished data next running round =>
    refine ⟨?_,other _,by simp [cursor,running,Ne.symm different]⟩
    rcases finished_left round with rfl | ⟨messageSz,known,_⟩
    · rfl
    · exact known.other _ different
  | handled data handler logged running round =>
    refine ⟨?_,other _,by simp [cursor,running,Ne.symm different]⟩
    obtain ⟨next,messageSz,inner,handling⟩ := handled_left round
    obtain ⟨buffer,_,left⟩ := handling.left
    dsimp only
    rw [left,Connection.withBuffer_other _ _ _ different,
      (handOver_effect handling.given).other _ different,handling.known.other _ different]
  | sent result next idle polled fits written =>
    obtain ⟨buffer,rfl⟩ := writeTo_left written
    exact ⟨Connection.withBuffer_other _ _ _ different,other _,by simp [cursor,idle]⟩

/-- Only the server's answer to the setup changes the status. -/
theorem Move.status (move : Move settings acting scene label after) :
    after.conn.status = scene.conn.status ∨
      (acting = .serverToClient ∧ label = .round ∧ scene.conn.status = .unestablished ∧
        after.conn.status = .opened) := by
  cases move with
  | received result next idle polled fits read =>
    obtain ⟨buffer,rfl⟩ := readFrom_left read
    exact .inl (Connection.withBuffer_status _ _ _)
  | finished data next running round =>
    rcases finished_left round with rfl | ⟨messageSz,known,_⟩
    · exact .inl rfl
    · exact .inl known.status
  | handled data handler logged running round =>
    obtain ⟨next,messageSz,inner,handling⟩ := handled_left round
    obtain ⟨buffer,_,left⟩ := handling.left
    have status := (handOver_effect handling.given).status
    dsimp only
    rw [left,Connection.withBuffer_status,status,handling.known.status]
    split
    · rename_i answer
      exact .inr ⟨answer.1,rfl,answer.2,rfl⟩
    · exact .inl rfl
  | sent result next idle polled fits written =>
    obtain ⟨buffer,rfl⟩ := writeTo_left written
    exact .inl (Connection.withBuffer_status _ _ _)

/-- The lane of a direction as the scene shows it. -/
def Orderly (direction : Direction) (scene : Scene) : Prop :=
  scene.conn.Live ∧
    Lane (scene.conn.buffer direction) (scene.history direction) (scene.cursor direction)

theorem Orderly.opening (parser : X11ProtocolParser) (serial : Nat) :
    Orderly direction (Scene.opening parser serial) := by
  refine ⟨.inl rfl,?_⟩
  cases direction <;> exact Lane.initial serial

theorem Move.live (move : Move settings acting scene label after) (live : scene.conn.Live) :
    after.conn.Live := by
  rcases move.status with same | ⟨_,_,_,opened⟩
  · unfold Connection.Live
    rw [same]
    exact live
  · exact .inr opened

/-- A move in a direction whose reads find nothing parsed. -/
theorem Move.lane (move : Move settings direction scene label after)
    (live : scene.conn.Live)
    (lane : Lane (scene.conn.buffer direction) (scene.history direction) (scene.cursor direction))
    (fresh : ∀ result, label = .receive scene.conn.id direction result →
      (scene.conn.buffer direction).bytesParsed = 0) :
    Lane (after.conn.buffer direction) (after.history direction) (after.cursor direction) := by
  have here (history : History) : scene.withHistory direction history direction = history := by
    simp [withHistory]
  cases move with
  | received result next idle polled fits read =>
    have stopped : scene.cursor direction = none := by simp [cursor,idle]
    rw [stopped] at lane
    have zero := fresh result rfl
    obtain ⟨_,bound,_⟩ := lane.bytesToRead_bounds zero
    obtain ⟨grown,bytes,effect⟩ := readFrom_success lane.sound bound fits read
    simpa [here,cursor] using (lane.read zero effect).1
  | finished data next running round =>
    have started : scene.cursor direction = some data := by simp [cursor,running]
    rw [started] at lane
    have kept : Lane (next.buffer direction) (scene.history direction) none := by
      cases messageRound_case round with
      | drained all => exact lane.drained all
      | short pending unset measured =>
        cases Xtracepp.measureMessage_case measured with
        | short small => exact lane.short pending unset small
        | dead closed => exact absurd live closed
      | incomplete known pending sizing waiting =>
        obtain ⟨messageSz,known⟩ := sizing_known sizing
        exact Lane.incomplete (lane.sized pending known) waiting
    simp only [here,cursor]
    exact ⟨kept.sound,kept.bounded,kept.counted,kept.unread,kept.placed⟩
  | handled data handler logged running round =>
    have started : scene.cursor direction = some data := by simp [cursor,running]
    rw [started] at lane
    obtain ⟨next,messageSz,inner,handling⟩ := handled_left round
    obtain ⟨buffer,mark,left⟩ := handling.left
    have sized := lane.sized handling.pending handling.known
    have marked := Lane.marked sized handling.complete (handOver_effect handling.given) mark
    have kept := Lane.handled sized marked (Lane.complete sized handling.complete)
    simp only [here,cursor,left,Connection.withBuffer_buffer,if_true,handling.size]
    exact ⟨kept.sound,kept.bounded,kept.counted,kept.unread,kept.placed⟩
  | sent result next idle polled fits written =>
    have stopped : scene.cursor direction = none := by simp [cursor,idle]
    rw [stopped] at lane
    obtain ⟨count,effect⟩ := writeTo_success lane.sound fits written
    have kept := lane.write (polledOutput_ready polled) effect
    simpa [here,cursor,idle] using kept

theorem Orderly.step (orderly : Orderly direction scene) (step : Step settings scene label after)
    (fresh : ∀ result, label = .receive scene.conn.id direction result →
      (scene.conn.buffer direction).bytesParsed = 0) : Orderly direction after := by
  obtain ⟨live,lane⟩ := orderly
  cases step with
  | own acting move =>
    refine ⟨move.live live,?_⟩
    by_cases same : direction = acting
    · subst same
      exact move.lane live lane fresh
    · have aside := move.aside same
      rw [aside.buffer,aside.history,aside.cursor]
      exact lane
  | elsewhere => exact ⟨live,lane⟩

end Scene

/-- Reads in a direction find nothing marked parsed. -/
def World.FreshReads (direction : Direction) (world : World) : Label → Prop
  | .receive id acting _ => acting = direction → ∀ conn ∈ world.proxy.connections id,
      (conn.buffer direction).bytesParsed = 0
  | _ => True

instance (direction : Direction) (world : World) (label : Label) :
    Decidable (World.FreshReads direction world label) :=
  match label with
  | .receive _ _ _ => inferInstanceAs (Decidable (_ → ∀ conn ∈ _,_))
  | .accept | .round | .send _ _ _ | .pollError _ => inferInstanceAs (Decidable True)

namespace World

variable {world : World} {predefined : Nat → Option (List UInt8)} {id : Nat}

theorem reached_orderly {condition : World → Label → Prop}
    (fresh : ∀ world label, condition world label → FreshReads direction world label)
    (reached : World.Reached settings predefined condition world) {scene : Scene}
    (found : world.scene id = some scene) : scene.Orderly direction := by
  apply scenes_invariant (Scene.Orderly direction) ?_ ?_ reached found
  · intro world _ _
    exact Scene.Orderly.opening _ _
  · intro world label id scene after before enabled given known orderly step
    apply orderly.step step
    rintro result rfl
    obtain ⟨present,_⟩ := scene_found known
    have numbered := reached_keyed before _ _ present
    have read := fresh _ _ given
    rw [numbered] at read
    exact read rfl _ present

end World

/-- What `read( sockfd )` asks `recv` for: not a difference that wrapped around, not
nothing, and no more than there is room for once the buffer has grown. -/
def SocketBuffer.SoundRead (buffer : SocketBuffer) : Prop :=
  (buffer.messageSizeSet = true → buffer.size ≤ buffer.messageSize) ∧ buffer.bytesToRead ≠ 0 ∧
    ∃ grown, buffer.reserve "capacity() >= bytes_to_read" buffer.bytesToRead = .ok grown ∧
      grown.bytesRead + buffer.bytesToRead ≤ grown.buffer.size

theorem Lane.soundRead {buffer : SocketBuffer} {history : History} (lane : Lane buffer history none)
    (fresh : buffer.bytesParsed = 0) : buffer.SoundRead := by
  obtain ⟨some,_,ordered⟩ := lane.bytesToRead_bounds fresh
  have modest : buffer.bytesToRead ≤ buffer.capacity ∨
      buffer.bytesRead + buffer.bytesToRead + SocketBuffer.blockSz ≤ Storage.maxSize := by
    have total := lane.sound.size_eq
    rcases lane.placed with ⟨_,rewound,⟨unset,_⟩ | ⟨set,short⟩⟩ | ⟨parsed,_⟩
    · exact .inl (by simp [SocketBuffer.bytesToRead,unset])
    · have small := lane.bounded set
      right
      simp only [SocketBuffer.bytesToRead,set,Bool.not_true,Bool.false_eq_true,if_false]
      rw [sub64_small (ordered set) (by omega)]
      unfold SocketBuffer.blockSz Storage.maxSize
      omega
    · omega
  obtain ⟨grown,reserved,growth⟩ :=
    SocketBuffer.reserve_granted lane.sound "capacity() >= bytes_to_read" modest
  exact ⟨ordered,some,grown,reserved,by rw [growth.read]; exact growth.room⟩

namespace World

variable {world : World} {predefined : Nat → Option (List UInt8)} {id : Nat} {conn : Connection}

/-- Receive requests are sound in every run whose reads find nothing marked parsed. -/
theorem receive_request_sound {result : RecvResult}
    (reached : World.Reached settings predefined (FreshReads direction) world)
    (enabled : (Label.receive id direction result).Enabled world.proxy)
    (fresh : FreshReads direction world (.receive id direction result))
    (found : world.proxy.connections id = some conn) : (conn.buffer direction).SoundRead := by
  have orderly := reached_orderly (fun _ _ given => given) reached (scene_some found)
  have lane := orderly.2
  rw [Scene.cursor,running_idle enabled.1] at lane
  exact lane.soundRead (fresh rfl conn found)

/-- The condition holds in a run in which an Initiation arrives in two parts. -/
theorem receive_request_sound_partial : ∃ world conn,
    World.Reached (.accepting [] (by simp)) (fun _ => none) (FreshReads .clientToServer) world ∧
      conn ∈ world.proxy.connections 0 ∧ (conn.buffer .clientToServer).size = 5 ∧
        (conn.buffer .clientToServer).SoundRead := by
  obtain ⟨world,reached,enabled,fresh,conn,found,five⟩ :=
    replayed (.accepting [] (by simp)) (fun _ => none) (FreshReads .clientToServer)
      (fun world => (Label.receive 0 .clientToServer (.received [])).Enabled world.proxy ∧
        FreshReads .clientToServer world (.receive 0 .clientToServer (.received [])) ∧
          ∃ conn ∈ world.proxy.connections 0,(conn.buffer .clientToServer).size = 5)
      [.accept,.receive 0 .clientToServer (.received [108,0,11,0,0]),.round] (by decide +kernel)
  exact ⟨world,conn,reached,found,five,receive_request_sound reached enabled fresh found⟩

/-- An Initiation and the first byte of what follows it in one chunk: the size of the
next message is taken from a stale header, and is less than what is buffered. -/
theorem receive_request_wraps : ∃ world conn,
    World.Reached (.accepting [] (by simp)) (fun _ => none) Anyhow world ∧
      (Label.receive 0 .clientToServer (.received [])).Enabled world.proxy ∧
        conn ∈ world.proxy.connections 0 ∧ ¬(conn.buffer .clientToServer).SoundRead := by
  obtain ⟨world,reached,enabled,conn,found,set,less⟩ :=
    replayed (.accepting [] (by simp)) (fun _ => none) Anyhow
      (fun world => (Label.receive 0 .clientToServer (.received [])).Enabled world.proxy ∧
        ∃ conn ∈ world.proxy.connections 0,
          (conn.buffer .clientToServer).messageSizeSet = true ∧
            (conn.buffer .clientToServer).messageSize < (conn.buffer .clientToServer).size)
      [.accept,.receive 0 .clientToServer (.received [108,0,11,0,0,0,0,0,0,0,0,0,108]),.round,.round]
      (by decide +kernel)
  exact ⟨world,conn,reached,enabled,found,fun sound => Nat.not_le.mpr less (sound.1 set)⟩

end World
end Xtracepp
