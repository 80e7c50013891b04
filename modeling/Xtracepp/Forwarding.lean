import Xtracepp.Dialogue
import Xtracepp.Library.Altered

/-! What is sent on is what was received. This holds in every run, whatever the peers do: the client's
stream reaches the server as it came, and the server's stream reaches the client as it came but for
the byte of a reply that tells whether an extension is present.
-/
namespace Xtracepp
open Library Library.Outcome Library.Window Library.Runs

variable {settings : Settings} {direction acting : Direction}

namespace SocketBuffer

variable {buffer grown : SocketBuffer} {expression : String} {count : Nat}

/-- A byte count that wraps around leaves the vector without room for what it holds. -/
theorem reserve_wide (sound : buffer.Sound) (small : count < 2^64)
    (wide : 2^64 - blockSz < buffer.bytesRead + count)
    (reserved : buffer.reserve expression count = .ok grown) :
    grown.bytesRead = buffer.bytesRead ∧ grown.buffer.size < buffer.bytesRead := by
  have inside := sound.readLe
  have limit := sound.storageLe
  have available := sound.capacity_eq
  unfold Storage.maxSize at limit
  unfold blockSz at wide
  have wanting : buffer.capacity < count := by omega
  have missing : sub64 count buffer.capacity = count - buffer.capacity := sub64_small (by omega) small
  unfold reserve at reserved
  rw [if_pos wanting,missing] at reserved
  obtain ⟨storage,resized,reserved⟩ := bind_success reserved
  obtain ⟨enough,reserved⟩ := demand_bind_success reserved
  cases reserved
  refine ⟨rfl,?_⟩
  unfold Storage.resize at resized
  split at resized
  · rename_i accepted
    cases resized
    by_contra larger
    have room : buffer.bytesRead ≤ add64 (add64 buffer.buffer.size (count - buffer.capacity))
        ((blockSz - add64 buffer.buffer.size (count - buffer.capacity) % blockSz) % blockSz) :=
      Nat.le_of_not_lt larger
    have held : count ≤ sub64 (add64 (add64 buffer.buffer.size (count - buffer.capacity))
        ((blockSz - add64 buffer.buffer.size (count - buffer.capacity) % blockSz) % blockSz))
          buffer.bytesRead := enough
    rw [available] at room held wanting
    have raw : add64 buffer.buffer.size (count - (buffer.buffer.size - buffer.bytesRead)) =
        (buffer.bytesRead + count) % 2^64 := by
      unfold add64
      omega
    rw [raw] at room held
    unfold add64 blockSz at room
    unfold sub64 add64 blockSz at held
    omega
  · cases resized

theorem bytesToRead_lt (sound : buffer.Sound) : buffer.bytesToRead < 2^64 := by
  have limit := sound.storageLe
  have available := sound.capacity_eq
  unfold Storage.maxSize at limit
  unfold bytesToRead
  split
  · omega
  · exact sub64_lt _ _

theorem Sound.resized (sound : buffer.Sound) {messageSz : Nat} (small : messageSz < 2^64) :
    { buffer with nextMessageSz := messageSz }.Sound :=
  ⟨sound.writtenLe,sound.readLe,sound.parsedLe,sound.rewound,sound.block,sound.storageLe,small⟩

end SocketBuffer

theorem readFrom_appended {conn next : Connection} {result : RecvResult}
    (sound : (conn.buffer direction).Sound)
    (fits : (SocketBuffer.arrived result).length ≤ (conn.buffer direction).bytesToRead)
    (ok : readFrom direction conn result = .ok (some next)) :
    ∃ grown bytes,ReadEffect direction conn next result grown bytes := by
  by_cases bound : (conn.buffer direction).bytesRead + (conn.buffer direction).bytesToRead ≤
      2^64 - SocketBuffer.blockSz
  · exact readFrom_success sound bound fits ok
  · exfalso
    obtain ⟨⟨buffer,bytesRead,readError⟩,read,ok⟩ := bind_success ok
    obtain ⟨grown,reserved,read⟩ := bind_success read
    obtain ⟨kept,short⟩ := SocketBuffer.reserve_wide sound (SocketBuffer.bytesToRead_lt sound)
      (Nat.lt_of_not_le bound) reserved
    cases result with
    | failed reason =>
      cases read
      simp at ok
    | received bytes =>
      obtain ⟨storage,stored,_⟩ := bind_success read
      obtain ⟨inside,_⟩ := Storage.store_success stored
      omega

/-- What handing a message over leaves of its buffer: it is marked, and at most its ninth byte is
cleared, if it is a reply. -/
structure Passed (handler : Option Handler) (buffer after : SocketBuffer) (data messageSz : Nat) :
    Prop where
  sound : after.Sound
  front : after.data = buffer.data
  parsed : after.bytesParsed = buffer.bytesParsed + messageSz
  inside : buffer.bytesParsed + messageSz ≤ buffer.size
  contents : after.contents = buffer.contents ∨ (handler = some .reply ∧ 32 ≤ messageSz ∧
    after.contents = buffer.contents.set (data + 8 - buffer.data) 0)

theorem Handling.passed {parser : X11ProtocolParser} {conn next : Connection} {data messageSz : Nat}
    {handler : Option Handler} {logged inner : Logged}
    (handling : Handling settings direction parser conn data handler logged next messageSz inner)
    (sound : (conn.buffer direction).Sound) (placed : (conn.buffer direction).data ≤ data) :
    Passed handler (conn.buffer direction) (logged.conn.buffer direction) data messageSz := by
  have pending := handling.pending
  have whole := handling.complete
  have shape := handling.known.buffer
  have effect := handOver_effect handling.given
  have same := effect.same
  obtain ⟨buffer,mark,left⟩ := handling.left
  have bounded := sound.read_lt
  have total := sound.size_eq
  have bound := sound.parsed_le
  have small : messageSz < 2^64 := by
    rcases handling.known.origin with ⟨_,still,_⟩ | ⟨_,short,_⟩
    · rw [still]
      exact sound.pendingLt
    · omega
  rw [shape] at whole same
  have sized := sound.resized small
  have inside : (conn.buffer direction).bytesParsed + messageSz ≤ (conn.buffer direction).size := by
    have part : ¬{ conn.buffer direction with nextMessageSz := messageSz }.incompleteMessage = true := by
      rw [whole]
      exact Bool.false_ne_true
    rw [Lane.incomplete_iff sized] at part
    by_contra long
    apply part
    refine ⟨pending,fun _ => ?_⟩
    change (conn.buffer direction).size - (conn.buffer direction).bytesParsed < messageSz
    omega
  have marked {held : SocketBuffer} (ok : held.markMessageParsed = .ok buffer)
      (kept : held.bytesParsed = (conn.buffer direction).bytesParsed)
      (size : held.nextMessageSz = messageSz) :
      buffer = { held with
        bytesParsed := held.bytesParsed + messageSz
        nextMessageSz := SocketBuffer.unknownSz } := by
    obtain ⟨_,ok⟩ := demand_bind_success ok
    obtain ⟨_,ok⟩ := demand_bind_success ok
    rw [size,add64_small (by omega)] at ok
    cases ok
    rfl
  have unset := sound.resized (show SocketBuffer.unknownSz < 2^64 by decide)
  have within : (conn.buffer direction).bytesParsed + messageSz ≤
      (conn.buffer direction).bytesRead - (conn.buffer direction).bytesWritten := by
    rw [← total]
    exact inside
  rw [left,Connection.withBuffer_buffer]
  rcases same with kept | ⟨reply,_,long,patched⟩
  · rw [kept] at mark
    rw [marked mark rfl rfl]
    exact ⟨{ unset with parsedLe := within },rfl,rfl,inside,.inl rfl⟩
  · rw [patched] at mark
    rw [marked mark rfl rfl]
    refine ⟨{ unset with parsedLe := within },rfl,rfl,inside,.inr ⟨reply,long,?_⟩⟩
    have place : data + 8 = (conn.buffer direction).data + (data + 8 - (conn.buffer direction).data) := by
      omega
    rw [SocketBuffer.contents,SocketBuffer.contents,← Window.window_overlay_one,← place]
    rfl

namespace Scene

variable {scene after : Scene} {label : Label}

/-- The places of a stream at which a reply has been changed. -/
def Spoofed (history : History) (place : Nat) : Prop :=
  ∃ entry ∈ history.handed,entry.handler = some .reply ∧ place = entry.offset + 8

/-- What has been sent of a direction, and what is held. -/
def stream (scene : Scene) (direction : Direction) : List UInt8 :=
  (scene.history direction).sent ++ (scene.conn.buffer direction).contents

/-- The buffer of a direction, and the loop that logs its messages within what is held. -/
structure Placed (direction : Direction) (scene : Scene) : Prop where
  sound : (scene.conn.buffer direction).Sound
  within : ∀ data,scene.cursor direction = some data → (scene.conn.buffer direction).data ≤ data ∧
    data ≤ (scene.conn.buffer direction).data + (scene.conn.buffer direction).bytesParsed

/-- What a step does to the stream of its direction: bytes arrive at its end, or a message is handed
over, which changes it only where its handler writes to the buffer. -/
inductive Flow (settings : Settings) (direction : Direction) (scene : Scene) (label : Label)
    (after : Scene) : Prop
  | quiet (bytes : List UInt8) (nothing : scene.handing settings label = [])
      (received : (after.history direction).received = (scene.history direction).received ++ bytes)
      (stream : after.stream direction = scene.stream direction ++ bytes)
      (handed : (after.history direction).handed = (scene.history direction).handed)
  | message (entry : Handed) (data : Nat) (next : Connection) (inner : Logged)
      (handing : scene.handing settings label = [entry])
      (said : Said settings direction scene after entry data next inner)
      (received : (after.history direction).received = (scene.history direction).received)
      (inside : entry.offset + entry.bytes.length ≤ (scene.stream direction).length)
      (kept : inner.conn.buffer direction = next.buffer direction →
        after.stream direction = scene.stream direction)
      (changed : inner.conn.buffer direction = (next.buffer direction).patched (data + 8) →
        after.stream direction = (scene.stream direction).set (entry.offset + 8) 0)

theorem Placed.opening (parser : X11ProtocolParser) (serial : Nat) :
    Placed direction (Scene.opening parser serial) ∧
      (Scene.opening parser serial).stream direction = [] := by
  have buffer : (Scene.opening parser serial).conn.buffer direction = SocketBuffer.initial serial := by
    cases direction <;> rfl
  have nothing : (SocketBuffer.initial serial).contents = [] := by
    simp [SocketBuffer.contents,SocketBuffer.initial,SocketBuffer.size,sub64]
  refine ⟨⟨?_,?_⟩,?_⟩
  · rw [buffer]
    exact SocketBuffer.initial_sound serial
  · intro data started
    cases started
  · rw [stream,buffer,nothing]
    rfl

theorem Placed.aside (placed : Placed direction scene) (aside : Aside direction scene after) :
    Placed direction after ∧ after.stream direction = scene.stream direction := by
  refine ⟨⟨?_,?_⟩,?_⟩
  · rw [aside.buffer]
    exact placed.sound
  · rw [aside.buffer,aside.cursor]
    exact placed.within
  · rw [stream,stream,aside.buffer,aside.history]

theorem Said.contents {entry : Handed} {data : Nat} {next : Connection} {inner : Logged}
    (said : Said settings direction scene after entry data next inner) :
    (after.conn.buffer direction).contents = (inner.conn.buffer direction).contents ∧
      (next.buffer direction).contents = (scene.conn.buffer direction).contents ∧
        (next.buffer direction).data = (scene.conn.buffer direction).data := by
  obtain ⟨buffer,mark,left⟩ := said.conn
  refine ⟨?_,?_,?_⟩
  · obtain ⟨_,mark⟩ := demand_bind_success mark
    obtain ⟨_,mark⟩ := demand_bind_success mark
    cases mark
    rw [left,Connection.withBuffer_buffer]
    rfl
  · rw [said.known.buffer]
    rfl
  · rw [said.known.buffer]
    rfl

theorem Said.written {entry : Handed} {data : Nat} {next : Connection} {inner : Logged}
    (said : Said settings direction scene after entry data next inner) :
    inner.conn.buffer direction = next.buffer direction ∨
      (entry.handler = some .reply ∧ 32 ≤ entry.bytes.length ∧
        inner.conn.buffer direction = (next.buffer direction).patched (data + 8)) := by
  have effect := (runHandler_effect said.ran).1
  rcases effect.server with kept | ⟨reply,long,patched⟩
  · left
    cases direction with
    | clientToServer => exact effect.client
    | serverToClient => exact kept
  · right
    have server := said.side.2 (.inl reply)
    subst server
    exact ⟨reply,long,patched⟩

theorem withHistory_own (history : History) :
    scene.withHistory direction history direction = history :=
  if_pos rfl

theorem Placed.received (placed : Placed direction scene) {result : RecvResult} {next : Connection}
    (fits : (SocketBuffer.arrived result).length ≤ (scene.conn.buffer direction).bytesToRead)
    (read : readFrom direction scene.conn result = .ok (some next))
    (conn : after.conn = next)
    (history : after.history direction = (scene.history direction).receive result)
    (running : after.running = some (direction,(next.buffer direction).data)) :
    Placed direction after ∧
      Flow settings direction scene (.receive scene.conn.id direction result) after := by
  obtain ⟨grown,bytes,effect⟩ := readFrom_appended placed.sound fits read
  have buffer : after.conn.buffer direction = grown.appended bytes := by
    rw [conn,effect.left,Connection.withBuffer_buffer]
  refine ⟨⟨?_,?_⟩,.quiet bytes rfl ?_ ?_ ?_⟩
  · rw [buffer]
    exact SocketBuffer.appended_sound effect.sound bytes effect.room
  · intro data started
    simp only [cursor,running,if_true,Option.some.injEq] at started
    subst started
    rw [conn]
    exact ⟨Nat.le_refl _,Nat.le_add_right _ _⟩
  · rw [history,History.receive,effect.result]
    rfl
  · rw [stream,stream,buffer,history,SocketBuffer.appended_contents effect.sound bytes effect.room,
      effect.growth.contents placed.sound,History.receive,List.append_assoc]
  · rw [history]
    rfl

theorem Placed.finished (placed : Placed direction scene) {data : Nat} {next : Connection}
    (started : scene.running = some (direction,data))
    (round : messageRound settings direction scene.parser scene.conn data = .ok (.finished next))
    (conn : after.conn = next)
    (history : after.history direction =
      (scene.history direction).round settings direction scene.parser scene.conn data)
    (running : after.running = none) :
    Placed direction after ∧ Flow settings direction scene .round after := by
  have nothing : (scene.history direction).handedBy settings direction scene.parser scene.conn data =
      [] := by
    rw [History.handedBy,round]
    rfl
  have kept : (next.buffer direction).Sound ∧
      (next.buffer direction).contents = (scene.conn.buffer direction).contents := by
    rcases finished_left round with same | ⟨messageSz,known,_⟩
    · rw [same]
      exact ⟨placed.sound,rfl⟩
    · rw [known.buffer]
      refine ⟨placed.sound.resized ?_,rfl⟩
      rcases known.origin with ⟨_,still,_⟩ | ⟨_,short,_⟩
      · rw [still]
        exact placed.sound.pendingLt
      · omega
  rw [← conn] at kept
  refine ⟨⟨kept.1,?_⟩,.quiet [] ?_ ?_ ?_ ?_⟩
  · intro data started
    rw [cursor,running] at started
    cases started
  · simp only [handing,started,nothing]
  · rw [history,List.append_nil,History.round]
  · rw [stream,stream,history,List.append_nil,History.round,kept.2]
  · rw [history,History.round,nothing,List.append_nil]

theorem Said.stream_kept {entry : Handed} {data : Nat} {next : Connection} {inner : Logged}
    (said : Said settings direction scene after entry data next inner)
    (sent : (after.history direction).sent = (scene.history direction).sent)
    (kept : inner.conn.buffer direction = next.buffer direction) :
    after.stream direction = scene.stream direction := by
  obtain ⟨held,before,_⟩ := said.contents
  rw [stream,stream,held,kept,before,sent]

theorem Said.stream_changed {entry : Handed} {data : Nat} {next : Connection} {inner : Logged}
    (said : Said settings direction scene after entry data next inner)
    (sent : (after.history direction).sent = (scene.history direction).sent)
    (behind : (scene.conn.buffer direction).data ≤ data)
    (place : entry.offset = (scene.history direction).offset (scene.conn.buffer direction) data)
    (patched : inner.conn.buffer direction = (next.buffer direction).patched (data + 8)) :
    after.stream direction = (scene.stream direction).set (entry.offset + 8) 0 := by
  obtain ⟨held,before,start⟩ := said.contents
  have ninth : data + 8 = (next.buffer direction).data +
      (data + 8 - (scene.conn.buffer direction).data) := by omega
  have written : (inner.conn.buffer direction).contents = (scene.conn.buffer direction).contents.set
      (data + 8 - (scene.conn.buffer direction).data) 0 := by
    rw [← before,patched,SocketBuffer.contents,SocketBuffer.contents,← Window.window_overlay_one,
      ← ninth]
    rfl
  have far : entry.offset + 8 - (scene.history direction).sent.length =
      data + 8 - (scene.conn.buffer direction).data := by
    rw [place]
    unfold History.offset
    omega
  have past : (scene.history direction).sent.length ≤ entry.offset + 8 := by
    rw [place]
    unfold History.offset
    omega
  rw [stream,stream,held,written,sent,List.set_append_right _ _ past,far]

theorem Placed.handled (placed : Placed direction scene) {data : Nat} {handler : Option Handler}
    {logged : Logged} (started : scene.running = some (direction,data))
    (round : messageRound settings direction scene.parser scene.conn data =
      .ok (.handled handler logged))
    (told : (scene.handing settings .round = [] ∧ Quiet direction scene after) ∨
      ∃ entry data next inner,scene.handing settings .round = [entry] ∧
        Said settings direction scene after entry data next inner)
    (conn : after.conn = logged.conn)
    (history : after.history direction =
      (scene.history direction).round settings direction scene.parser scene.conn data)
    (running : after.running = some (direction,data + logged.bytesParsed)) :
    Placed direction after ∧ Flow settings direction scene .round after := by
  have total := placed.sound.size_eq
  obtain ⟨next,messageSz,inner,handling⟩ := handled_left round
  obtain ⟨behind,ahead⟩ := placed.within data (by rw [cursor,started]; exact if_pos rfl)
  have passed := handling.passed placed.sound behind
  have size := handling.size
  have front := passed.front
  have parsed := passed.parsed
  have inside := passed.inside
  have entry : (scene.history direction).handedBy settings direction scene.parser scene.conn data =
      [⟨handler,(scene.history direction).offset (scene.conn.buffer direction) data,
        window (scene.conn.buffer direction).buffer.cells data messageSz⟩] := by
    rw [History.handedBy,round,History.handedOf,size]
  have handing : scene.handing settings .round =
      [⟨handler,(scene.history direction).offset (scene.conn.buffer direction) data,
        window (scene.conn.buffer direction).buffer.cells data messageSz⟩] := by
    simp only [handing,started,entry]
  refine ⟨⟨?_,?_⟩,?_⟩
  · rw [conn]
    exact passed.sound
  · intro place begun
    simp only [cursor,running,if_true,Option.some.injEq] at begun
    rw [conn]
    omega
  · rcases told with ⟨nothing,_⟩ | ⟨entry,place,known,left,again,said⟩
    · rw [handing] at nothing
      cases nothing
    · have same := said.running
      rw [started] at same
      cases same
      rw [handing] at again
      cases again
      have sent : (after.history direction).sent = (scene.history direction).sent := by
        rw [history,History.round]
      have length : (scene.stream direction).length =
          (scene.history direction).sent.length + (scene.conn.buffer direction).size := by
        rw [stream,List.length_append,placed.sound.contents_length,total]
      refine .message _ data known left handing said ?_ ?_ (said.stream_kept sent)
        (said.stream_changed sent behind rfl)
      · rw [history,History.round]
      · rw [length,window_length]
        change (scene.history direction).offset (scene.conn.buffer direction) data + messageSz ≤ _
        unfold History.offset
        omega

theorem Placed.sent (placed : Placed direction scene) {result : SendResult} {next : Connection}
    (idle : scene.running = none)
    (fits : result.count ≤ (scene.conn.buffer direction).bytesParsed)
    (written : writeTo settings direction scene.conn result = .ok (some next))
    (conn : after.conn = next)
    (history : after.history direction =
      (scene.history direction).send (scene.conn.buffer direction) result)
    (running : after.running = scene.running) :
    Placed direction after ∧
      Flow settings direction scene (.send scene.conn.id direction result) after := by
  have total := placed.sound.size_eq
  obtain ⟨count,effect⟩ := writeTo_success placed.sound fits written
  have short := effect.short
  have bound := placed.sound.parsed_le
  have gone : (after.history direction).sent =
      (scene.history direction).sent ++ (scene.conn.buffer direction).contents.take count := by
    rw [history,History.send,effect.result]
    change _ ++ window _ _ _ = _
    rw [SocketBuffer.contents,window_take _ _ _ _ (Nat.le_trans short bound)]
  have left : (after.conn.buffer direction).Sound ∧ (after.conn.buffer direction).contents =
      (scene.conn.buffer direction).contents.drop count := by
    rw [conn,effect.left,Connection.withBuffer_buffer]
    by_cases drained : count = (scene.conn.buffer direction).size
    · rw [if_pos drained,SocketBuffer.cleared_contents]
      refine ⟨SocketBuffer.cleared_sound placed.sound,(List.drop_of_length_le ?_).symm⟩
      rw [placed.sound.contents_length,drained,total]
    · rw [if_neg drained]
      have part : count < (scene.conn.buffer direction).size := by omega
      have marks : count + ((scene.conn.buffer direction).bytesParsed - count) ≤
          (scene.conn.buffer direction).size := by omega
      exact ⟨SocketBuffer.advanced_sound placed.sound part marks,
        SocketBuffer.advanced_contents placed.sound part marks⟩
  refine ⟨⟨left.1,?_⟩,.quiet [] rfl ?_ ?_ ?_⟩
  · intro data started
    rw [cursor,running,idle] at started
    cases started
  · rw [history,List.append_nil]
    rfl
  · rw [stream,stream,gone,left.2,List.append_assoc,List.take_append_drop,List.append_nil]
  · rw [history]
    rfl

theorem Placed.move (placed : Placed direction scene)
    (move : Move settings direction scene label after) :
    Placed direction after ∧ Flow settings direction scene label after := by
  have told := move.said
  cases move with
  | received result next idle polled fits read =>
    exact placed.received fits read rfl (withHistory_own _) rfl
  | finished data next running round =>
    exact placed.finished running round rfl (withHistory_own _) rfl
  | handled data handler logged running round =>
    exact placed.handled running round told rfl (withHistory_own _) rfl
  | sent result next idle polled fits written =>
    exact placed.sent idle fits written rfl (withHistory_own _) rfl

/-- What has been sent and what is held is what was received, but for changed replies. -/
structure Carried (direction : Direction) (scene : Scene) : Prop where
  placed : Placed direction scene
  altered : Altered 0 (Spoofed (scene.history direction)) (scene.history direction).received
    (scene.stream direction)

theorem Carried.aside (carried : Carried direction scene) (aside : Aside direction scene after) :
    Carried direction after := by
  obtain ⟨placed,stream⟩ := carried.placed.aside aside
  refine ⟨placed,?_⟩
  rw [stream,aside.history]
  exact carried.altered

theorem Carried.move (carried : Carried direction scene)
    (move : Move settings direction scene label after) : Carried direction after := by
  obtain ⟨placed,flow⟩ := carried.placed.move move
  refine ⟨placed,?_⟩
  cases flow with
  | quiet bytes nothing received stream handed =>
    rw [received,stream]
    apply (carried.altered.append bytes).weaken
    intro place changed
    rw [Spoofed,handed]
    exact changed
  | message entry data next inner handing said received inside kept changed =>
    have more : ∀ place,Spoofed (scene.history direction) place →
        Spoofed (after.history direction) place := by
      rintro place ⟨old,member,reply,at_⟩
      refine ⟨old,?_,reply,at_⟩
      rw [said.handed]
      exact List.mem_append_left _ member
    rw [received]
    rcases said.written with same | ⟨reply,long,patched⟩
    · rw [kept same]
      exact carried.altered.weaken more
    · rw [changed patched]
      apply (carried.altered.weaken more).set
      · refine ⟨entry,?_,reply,rfl⟩
        rw [said.handed]
        exact List.mem_append_right _ (List.mem_singleton.mpr rfl)
      · omega

/-- A client's messages are never handed over as replies. -/
def Plain (scene : Scene) : Prop :=
  ∀ entry ∈ (scene.history .clientToServer).handed,entry.handler ≠ some .reply

theorem Plain.move (plain : Plain scene) (move : Move settings direction scene label after) :
    Plain after := by
  rcases move.said with ⟨_,quiet⟩ | ⟨entry,data,next,inner,_,said⟩
  · intro entry member
    rw [quiet.handed] at member
    exact plain entry member
  · intro other member reply
    by_cases client : direction = .clientToServer
    · subst client
      rw [said.handed] at member
      rcases List.mem_append.mp member with old | new_
      · exact plain other old reply
      · rw [List.mem_singleton] at new_
        subst new_
        cases said.side.2 (.inl reply)
    · rw [said.other _ (Ne.symm client)] at member
      exact plain other member reply

end Scene

namespace World

variable {world : World} {id : Nat} {conn : Connection} {condition : World → Label → Prop}
  {predefined : Nat → Option (List UInt8)}

theorem reached_carried (reached : World.Reached settings predefined condition world) {scene : Scene}
    (found : world.scene id = some scene) :
    (∀ direction,scene.Carried direction) ∧ scene.Plain := by
  apply scenes_invariant (fun scene => (∀ direction,scene.Carried direction) ∧ scene.Plain) ?_ ?_ reached
    found
  · intro world _ _
    refine ⟨?_,?_⟩
    · intro direction
      obtain ⟨placed,nothing⟩ := @Scene.Placed.opening direction world.proxy.parser world.proxy.accepted
      refine ⟨placed,?_⟩
      rw [nothing]
      exact Altered.same _ _ _
    · intro entry member
      cases member
  · intro world label id scene after _ _ _ _ holds step
    obtain ⟨carried,plain⟩ := holds
    cases step with
    | own acting move =>
      refine ⟨?_,plain.move move⟩
      intro direction
      by_cases same : direction = acting
      · subst same
        exact (carried direction).move move
      · exact (carried direction).aside (move.aside same)
    | elsewhere parser =>
      exact ⟨fun direction => ⟨⟨(carried direction).placed.sound,(carried direction).placed.within⟩,
        (carried direction).altered⟩,plain⟩

/-- In every run what has been sent to the server and what is held for it is what the client sent,
and what has been sent to the client and what is held for it is what the server sent, but for zeros at
the ninth byte of replies. -/
theorem streams_forwarded (reached : World.Reached settings predefined condition world)
    (found : world.proxy.connections id = some conn) :
    (world.history id .clientToServer).sent ++ conn.clientBuffer.contents =
        (world.history id .clientToServer).received ∧
      Altered 0 (Scene.Spoofed (world.history id .serverToClient))
        (world.history id .serverToClient).received
        ((world.history id .serverToClient).sent ++ conn.serverBuffer.contents) := by
  obtain ⟨carried,plain⟩ := reached_carried reached (scene_some found)
  refine ⟨(carried .clientToServer).altered.exact ?_,(carried .serverToClient).altered⟩
  rintro place ⟨entry,member,reply,_⟩
  exact plain entry member reply

/-- QueryExtension for an extension that is not allowed, and a reply that it is present. -/
def deniedQuery : List UInt8 := [98,0,3,0,1,0,0,0,88,0,0,0]
def presentReply : List UInt8 := [1,0,1,0,0,0,0,0,1,150] ++ List.replicate 22 0

/-- The reply reaches the client with its ninth byte cleared. -/
theorem streams_forwarded_spoofed : ∃ world conn,
    World.Reached plainly (fun _ => none) Anyhow world ∧ conn ∈ world.proxy.connections 0 ∧
      (world.history 0 .serverToClient).sent = bareAcceptance ++ presentReply.set 8 0 ∧
        (world.history 0 .clientToServer).sent ++ conn.clientBuffer.contents =
            (world.history 0 .clientToServer).received ∧
          Altered 0 (Scene.Spoofed (world.history 0 .serverToClient))
            (world.history 0 .serverToClient).received
            ((world.history 0 .serverToClient).sent ++ conn.serverBuffer.contents) := by
  obtain ⟨world,reached,conn,found,sent⟩ :=
    replayed plainly (fun _ => none) Anyhow
      (fun world => ∃ conn ∈ world.proxy.connections 0,
        (world.history 0 .serverToClient).sent = bareAcceptance ++ presentReply.set 8 0)
      (setup ++ [.receive 0 .clientToServer (.received deniedQuery),.round,.round,
        .send 0 .clientToServer (.sent 12),.receive 0 .serverToClient (.received presentReply),.round,
        .round,.send 0 .serverToClient (.sent 32)]) (by decide +kernel)
  exact ⟨world,conn,reached,found,sent,streams_forwarded reached found⟩

end World
end Xtracepp
