import Xtracepp.Streams

/-! Runs in which the peers keep to their streams. However `recv` cuts a stream up, its messages
are handed over as they stand in it.
-/
namespace Xtracepp
open Library Library.Outcome Library.Window Library.Runs Library.Framing

/-- What may arrive next: more of the stream, from a client that goes on when it has the answer to
its Initiation, and a server that answers when it has the Initiation. -/
structure Streams.Continues {settings : Settings} (streams : Streams settings)
    (history : Direction → History) (direction : Direction) (bytes : List UInt8) : Prop where
  stream : (history direction).received ++ bytes <+: (streams.messages direction).flatten
  client : direction = .clientToServer →
    streams.initiation.length < ((history direction).received ++ bytes).length →
      streams.acceptance.length ≤ (history .serverToClient).sent.length
  server : direction = .serverToClient → bytes ≠ [] →
    streams.initiation.length ≤ (history .clientToServer).sent.length

instance {settings : Settings} (streams : Streams settings) (history : Direction → History)
    (direction : Direction) (bytes : List UInt8) :
    Decidable (streams.Continues history direction bytes) :=
  decidable_of_iff
    ((history direction).received ++ bytes <+: (streams.messages direction).flatten ∧
      (direction = .clientToServer →
        streams.initiation.length < ((history direction).received ++ bytes).length →
          streams.acceptance.length ≤ (history .serverToClient).sent.length) ∧
      (direction = .serverToClient → bytes ≠ [] →
        streams.initiation.length ≤ (history .clientToServer).sent.length))
    ⟨fun parts => ⟨parts.1,parts.2.1,parts.2.2⟩,fun next => ⟨next.stream,next.client,next.server⟩⟩

namespace Scene

variable {settings : Settings} {direction acting : Direction} {streams : Streams settings}
  {scene after : Scene} {label : Label} {done : Nat}

/-- A direction that follows its stream in a clean lane. -/
structure Followed (direction : Direction) (streams : Streams settings) (scene : Scene) (done : Nat) :
    Prop where
  clean : Clean settings direction scene
  streamed : Streamed direction streams scene done
  ordered : direction = .clientToServer → Ordered direction streams scene done
  phase : direction = .serverToClient → scene.conn.status = stage done

/-- What the two peers have seen of each other, by the status. -/
structure Phased (streams : Streams settings) (scene : Scene) : Prop where
  live : scene.conn.Live
  client : streams.initiation.length < (scene.history .clientToServer).received.length →
    streams.acceptance.length ≤ (scene.history .serverToClient).sent.length
  server : (scene.history .serverToClient).received ≠ [] →
    streams.initiation.length ≤ (scene.history .clientToServer).sent.length
  early : scene.conn.status = .unestablished →
    (∃ done,Followed .clientToServer streams scene done) ∧ Orderly .serverToClient scene ∧
      (scene.conn.buffer .serverToClient).bytesParsed = 0 ∧
        (scene.history .serverToClient).sent = []
  opened : scene.conn.status = .opened → scene.conn.byteswap = streams.byteswap ∧
    streams.initiation.length ≤ (scene.history .clientToServer).sent.length

theorem first_done {messages : List (List UInt8)} {first : List UInt8} {rest : List (List UInt8)}
    (shape : messages = first :: rest) (begun : done ≠ 0) :
    first.length ≤ (messages.take done).flatten.length := by
  obtain ⟨less,same⟩ := Nat.exists_eq_succ_of_ne_zero begun
  rw [same,shape,List.take_succ_cons,List.flatten_cons,List.length_append]
  omega

/-- Once the Initiation is sent on, the byte order is the client's. -/
theorem Followed.order (followed : Followed .clientToServer streams scene done)
    (sent : streams.initiation.length ≤ (scene.history .clientToServer).sent.length) :
    scene.conn.byteswap = streams.byteswap := by
  apply followed.ordered rfl
  left
  have position := followed.streamed.position
  have long := streams.opens.length
  rw [Nat.pos_iff_ne_zero]
  intro zero
  rw [zero,List.take_zero,List.flatten_nil,List.length_nil] at position
  omega

theorem frame_early (settings : Settings) (byteswap other : Bool) (bytes : List UInt8) :
    frame settings .clientToServer .unestablished byteswap bytes =
      frame settings .clientToServer .unestablished other bytes := rfl

theorem Followed.aligned (followed : Followed direction streams scene done)
    (phased : Phased streams scene) : Aligned direction streams scene done := by
  intro filled
  obtain ⟨_,lane⟩ := followed.clean.orderly
  have counted := lane.counted
  have length := lane.sound.contents_length
  have position := followed.streamed.position
  have more : (scene.conn.buffer direction).bytesParsed <
      (scene.conn.buffer direction).contents.length := by
    by_contra all
    exact filled (List.drop_of_length_le (Nat.not_lt.mp all))
  cases direction with
  | clientToServer =>
    rcases phased.live with early | opened
    · obtain ⟨_,_,_,nothing⟩ := phased.early early
      have first : done = 0 := by
        by_contra begun
        have behind := first_done (rfl : streams.messages .clientToServer = _ :: streams.requests) begun
        have answered := phased.client (by omega)
        have long := streams.accepts.length
        rw [nothing,List.length_nil] at answered
        omega
      rw [first,early]
      exact ⟨rfl,fun bytes => frame_early settings _ _ bytes⟩
    · obtain ⟨order,sent⟩ := phased.opened opened
      have begun : done ≠ 0 := by
        intro zero
        have long := streams.opens.length
        rw [zero,List.take_zero,List.flatten_nil,List.length_nil] at position
        omega
      rw [opened,order,stage,if_neg begun]
      exact ⟨rfl,fun _ => rfl⟩
  | serverToClient =>
    have received : (scene.history .serverToClient).received ≠ [] := by
      intro none
      rw [none,List.length_nil] at counted
      omega
    have sent := phased.server received
    have order : scene.conn.byteswap = streams.byteswap := by
      rcases phased.live with early | opened
      · obtain ⟨⟨before,client⟩,_⟩ := phased.early early
        exact client.order sent
      · exact (phased.opened opened).1
    rw [order,followed.phase rfl]
    exact ⟨rfl,fun _ => rfl⟩

theorem Followed.short (followed : Followed direction streams scene done)
    (aligned : Aligned direction streams scene done) (idle : scene.cursor direction = none) :
    ∀ message ∈ (streams.messages direction)[done]?,
      (scene.history direction).received.length <
        ((streams.messages direction).take done).flatten.length + message.length := by
  intro message found
  rw [Option.mem_def] at found
  obtain ⟨_,lane⟩ := followed.clean.orderly
  have kept := followed.clean.kept
  rw [idle] at kept
  have counted := lane.counted
  have length := lane.sound.contents_length
  have size := lane.sound.size_eq
  have position := followed.streamed.position
  have framed := Streams.message_framed found
  have long := framed.length
  have before := followed.streamed.unread_prefix followed.clean.orderly
  have rest : ((streams.messages direction).drop done).flatten =
      message ++ ((streams.messages direction).drop (done + 1)).flatten := by
    obtain ⟨inside,same⟩ := List.getElem?_eq_some_iff.mp found
    rw [List.drop_eq_getElem_cons inside,List.flatten_cons,same]
  rw [rest] at before
  have waits (fresh : (scene.conn.buffer direction).bytesParsed = 0)
      (part : partMessage settings direction scene.conn.status scene.conn.byteswap
        (scene.conn.buffer direction).contents = true) :
      (scene.conn.buffer direction).contents.length < message.length := by
    by_cases none : (scene.conn.buffer direction).contents = []
    · rw [none,List.length_nil]
      exact long
    · have unread : scene.unread direction = (scene.conn.buffer direction).contents := by
        rw [unread,fresh,List.drop_zero]
      rw [unread] at before
      have filled : scene.unread direction ≠ [] := by
        rw [unread]
        exact none
      obtain ⟨_,frames⟩ := aligned filled
      rcases part_cases part with short | ⟨swap,messageSz,headerSz,read,less⟩
      · rw [frames] at short
        exact framed.longer before short
      · rw [frames] at read
        rw [← (framed.agrees before read).2]
        exact less
  rcases kept with ⟨fresh,⟨set,short,_⟩ | ⟨_,short⟩⟩ | ⟨_,all,_⟩
  · obtain ⟨stored,member,same⟩ := followed.streamed.pending set
    rw [Option.mem_def,found] at member
    cases member
    omega
  · have part : partMessage settings direction scene.conn.status scene.conn.byteswap
        (scene.conn.buffer direction).contents = true := by
      rcases short with short | ⟨_,part⟩
      · exact short_part short
      · exact part
    have less := waits fresh part
    omega
  · omega

theorem Clean.move (clean : Clean settings direction scene)
    (move : Move settings direction scene label after)
    (tidy : ∀ result,label = .receive scene.conn.id direction result →
      scene.conn.TidyRead settings direction (SocketBuffer.arrived result)) :
    Clean settings direction after := by
  refine ⟨clean.orderly.step (.own direction move) ?_,move.kept clean.orderly clean.kept tidy⟩
  intro result same
  subst same
  cases move with
  | received _ next idle polled fits read => exact clean.fresh idle polled

theorem Move.longer (move : Move settings acting scene label after) (direction : Direction) :
    (scene.history direction).sent.length ≤ (after.history direction).sent.length ∧
      ((after.history direction).received = (scene.history direction).received ∨
        ∃ result,label = .receive scene.conn.id direction result ∧
          (after.history direction).received =
            (scene.history direction).received ++ SocketBuffer.arrived result) := by
  by_cases same : direction = acting
  · subst same
    cases move with
    | received result next idle polled fits read =>
      dsimp only
      rw [history_here]
      exact ⟨Nat.le_refl _,.inr ⟨result,rfl,rfl⟩⟩
    | finished data next running round =>
      dsimp only
      rw [history_here]
      exact ⟨Nat.le_refl _,.inl rfl⟩
    | handled data handler logged running round =>
      dsimp only
      rw [history_here]
      exact ⟨Nat.le_refl _,.inl rfl⟩
    | sent result next idle polled fits written =>
      dsimp only
      rw [history_here]
      refine ⟨?_,.inl rfl⟩
      simp only [History.send,List.length_append]
      omega
  · have aside := move.aside same
    rw [aside.history]
    exact ⟨Nat.le_refl _,.inl rfl⟩

theorem Phased.opening (phased : Phased streams scene)
    (move : Move settings .serverToClient scene label after)
    (early : scene.conn.status = .unestablished) (opened : after.conn.status = .opened) :
    streams.initiation.length ≤ (scene.history .clientToServer).sent.length := by
  obtain ⟨_,⟨_,lane⟩,_⟩ := phased.early early
  have counted := lane.counted
  have length := lane.sound.contents_length
  have size := lane.sound.size_eq
  apply phased.server
  intro none
  rw [none,List.length_nil] at counted
  cases move with
  | received result next idle polled fits read =>
    obtain ⟨buffer,rfl⟩ := readFrom_left read
    simp [early] at opened
  | finished data next running round =>
    rcases finished_left round with same | ⟨messageSz,known,_⟩
    · subst same
      simp [early] at opened
    · have status := known.status
      simp_all
  | handled data handler logged running round =>
    obtain ⟨next,messageSz,inner,handling⟩ := handled_left round
    have pending := handling.pending
    unfold SocketBuffer.parsed at pending
    omega
  | sent result next idle polled fits written =>
    obtain ⟨buffer,rfl⟩ := writeTo_left written
    simp [early] at opened

/-- Before the answer is sent on, nothing is left of what the client sent once its Initiation is. -/
theorem Phased.drained (phased : Phased streams scene) (early : scene.conn.status = .unestablished)
    (sent : streams.initiation.length ≤ (scene.history .clientToServer).sent.length) :
    (scene.conn.buffer .clientToServer).contents = [] := by
  obtain ⟨⟨_,client⟩,_,_,nothing⟩ := phased.early early
  obtain ⟨_,lane⟩ := client.clean.orderly
  have counted := lane.counted
  rw [← List.length_eq_zero_iff]
  by_contra held
  have answered := phased.client (by omega)
  have long := streams.accepts.length
  rw [nothing,List.length_nil] at answered
  omega

/-- The server sends nothing until the byte order is told. -/
theorem Phased.turning (phased : Phased streams scene)
    (move : Move settings .clientToServer scene label after)
    (early : scene.conn.status = .unestablished) :
    after.conn.byteswap = scene.conn.byteswap ∨
      (scene.conn.buffer .serverToClient).contents = [] := by
  obtain ⟨⟨_,client⟩,⟨_,lane⟩,_⟩ := phased.early early
  by_cases none : (scene.history .serverToClient).received = []
  · have counted := lane.counted
    rw [none,List.length_nil] at counted
    exact .inr (List.length_eq_zero_iff.mp (by omega))
  have drained := congrArg List.length (phased.drained early (phased.server none))
  have length := client.clean.orderly.2.sound.contents_length
  have size := client.clean.orderly.2.sound.size_eq
  rw [List.length_nil] at drained
  left
  cases move with
  | received result next idle polled fits read =>
    obtain ⟨buffer,rfl⟩ := readFrom_left read
    exact Connection.withBuffer_byteswap _ _ _
  | finished data next running round =>
    rcases finished_left round with rfl | ⟨messageSz,known,_,pending⟩
    · rfl
    · omega
  | handled data handler logged running round =>
    obtain ⟨next,messageSz,inner,handling⟩ := handled_left round
    have pending := handling.pending
    omega
  | sent result next idle polled fits written =>
    obtain ⟨buffer,rfl⟩ := writeTo_left written
    exact Connection.withBuffer_byteswap _ _ _

theorem Followed.clean_aside (followed : Followed direction streams scene done)
    (phased : Phased streams scene) (move : Move settings acting scene label after)
    (different : direction ≠ acting) : Clean settings direction after := by
  have aside := move.aside different
  have idle := move.cursor_other different
  obtain ⟨live,lane⟩ := followed.clean.orderly
  have alive := move.live live
  have kept := followed.clean.kept
  refine ⟨⟨alive,?_⟩,?_⟩
  · rw [aside.buffer,aside.history,aside.cursor]
    exact lane
  rw [idle] at kept
  rw [aside.cursor,idle]
  apply Connection.Settled.moved kept aside.buffer
  rcases move.status with same | ⟨server,_,early,opened⟩
  · by_cases order : after.conn.byteswap = scene.conn.byteswap
    · exact .inl ⟨same,order⟩
    rcases move.order live with still | ⟨client,early⟩
    · exact absurd still order
    subst client
    have server : direction = .serverToClient := by
      cases direction with
      | clientToServer => contradiction
      | serverToClient => rfl
    subst server
    have none := (phased.turning move early).resolve_left order
    exact .inr fun _ => Connection.Settled.emptied kept live alive aside.buffer none
  · subst server
    have client : direction = .clientToServer := by
      cases direction with
      | clientToServer => rfl
      | serverToClient => contradiction
    subst client
    -- the client waits for the answer, so that nothing is left of what it sent
    have none := phased.drained early (phased.opening move early opened)
    exact .inr fun _ => Connection.Settled.emptied kept live alive aside.buffer none

theorem Followed.aside (followed : Followed direction streams scene done)
    (phased : Phased streams scene) (move : Move settings acting scene label after)
    (different : direction ≠ acting) : Followed direction streams after done := by
  have aside := move.aside different
  refine ⟨followed.clean_aside phased move different,?_,?_,?_⟩
  · have streamed := followed.streamed
    refine ⟨streamed.bound,?_,?_,?_,?_,?_⟩
    · rw [aside.history]
      exact streamed.received
    · rw [aside.history,aside.buffer]
      exact streamed.position
    · rw [aside.history]
      exact streamed.handed
    · rw [aside.history]
      exact streamed.sized
    · rw [aside.buffer]
      exact streamed.pending
  · intro client given
    rw [aside.buffer] at given
    rcases move.order followed.clean.orderly.1 with same | ⟨other,_⟩
    · rw [same]
      exact followed.ordered client given
    · exact absurd (client.trans other.symm) different
  · intro server
    rcases move.status with same | ⟨other,_⟩
    · rw [same]
      exact followed.phase server
    · exact absurd (server.trans other.symm) different

theorem Followed.move (followed : Followed direction streams scene done)
    (phased : Phased streams scene) (move : Move settings direction scene label after)
    (continues : ∀ result,label = .receive scene.conn.id direction result →
      streams.Continues scene.history direction (SocketBuffer.arrived result))
    (tidy : ∀ result,label = .receive scene.conn.id direction result →
      scene.conn.TidyRead settings direction (SocketBuffer.arrived result)) :
    ∃ next,Followed direction streams after next := by
  have aligned := followed.aligned phased
  have clean := followed.clean.move move tidy
  have ended {next : Nat} (moved : Moved direction streams scene after done next) :
      Followed direction streams after next :=
    ⟨clean,moved.streamed,fun client => moved.ordered (followed.ordered client),
      fun server => moved.status server (followed.phase server)⟩
  have lane := followed.clean.orderly.2
  cases move with
  | received result next idle polled fits read =>
    have stopped : scene.cursor direction = none := by simp [cursor,idle]
    rw [stopped] at lane
    have fresh := followed.clean.fresh idle polled
    obtain ⟨_,bound,_⟩ := lane.bytesToRead_bounds fresh
    obtain ⟨grown,bytes,effect⟩ := readFrom_success lane.sound bound fits read
    exact ⟨done,ended (followed.streamed.read effect (continues result rfl).stream)⟩
  | finished data next running round =>
    exact ⟨done,ended (followed.streamed.finished followed.clean aligned
      (by simp [cursor,running]) round)⟩
  | handled data handler logged running round =>
    exact ⟨done + 1,ended (followed.streamed.handled followed.clean aligned
      (by simp [cursor,running]) round)⟩
  | sent result next idle polled fits written =>
    have stopped : scene.cursor direction = none := by simp [cursor,idle]
    obtain ⟨count,effect⟩ := writeTo_success lane.sound fits written
    exact ⟨done,ended (followed.streamed.sent followed.clean.orderly stopped
      (polledOutput_ready polled) effect)⟩

theorem early_front {byteswap : Bool} {message front : List UInt8}
    (framed : Framed settings .clientToServer .unestablished byteswap message)
    (before : front <+: message) (swap : Bool) :
    partMessage settings .clientToServer .unestablished swap front = true ∨
      wholeMessages settings .clientToServer front.length .unestablished swap front = true := by
  have length := before.length_le
  cases read : frame settings .clientToServer .unestablished swap front with
  | none =>
    exfalso
    obtain ⟨headerSz,own⟩ := framed
    obtain ⟨rest,whole⟩ := before
    subst whole
    unfold frame at read own
    dsimp only at read own
    split at read
    · cases read
    · rename_i long
      have first : (front ++ rest).getD 0 0 = front.getD 0 0 := by
        rw [List.getD_eq_getElem?_getD,List.getElem?_append_left (by omega),← List.getD_eq_getElem?_getD]
      rw [first] at own
      split at read
      · cases read
      · rename_i bad
        rw [if_neg bad] at own
        split at own <;> cases own
  | some measure =>
    cases measure with
    | short => exact .inl (short_part read)
    | refused text =>
      exfalso
      unfold frame at read
      dsimp only at read
      split at read
      · cases read
      · split at read <;> cases read
    | sized other messageSz headerSz =>
      have agrees := (framed.agrees (before.trans (List.prefix_append message [])) read).2
      by_cases all : front.length < messageSz
      · left
        simp only [partMessage,read,all,decide_true]
      · right
        have positive : front.length ≠ 0 := by
          have long := framed.length
          omega
        obtain ⟨count,counted⟩ := Nat.exists_eq_succ_of_ne_zero positive
        rw [counted,wholeMessages,read]
        have rest : front.drop messageSz = [] := List.drop_of_length_le (by omega)
        have fits : messageSz ≤ front.length := by omega
        dsimp only
        rw [rest]
        cases count <;> simp [wholeMessages,fits]

theorem Followed.early_tidy (followed : Followed .clientToServer streams scene done)
    (phased : Phased streams scene) (early : scene.conn.status = .unestablished)
    {result : RecvResult} (idle : scene.running = none)
    (polled : scene.conn.polledInput .clientToServer = true)
    (continues : streams.Continues scene.history .clientToServer (SocketBuffer.arrived result)) :
    scene.conn.TidyRead settings .clientToServer (SocketBuffer.arrived result) := by
  intro _
  obtain ⟨_,lane⟩ := followed.clean.orderly
  have fresh := followed.clean.fresh idle polled
  have counted := lane.counted
  have unread := lane.unread
  have position := followed.streamed.position
  have stream := continues.stream
  rw [fresh,List.drop_zero,Nat.add_zero] at unread
  rw [fresh,Nat.add_zero] at position
  obtain ⟨_,_,_,nothing⟩ := phased.early early
  have waits : ((scene.history .clientToServer).received ++ SocketBuffer.arrived result).length ≤
      streams.initiation.length := by
    by_contra more
    have answered := continues.client rfl (by omega)
    have long := streams.accepts.length
    rw [nothing,List.length_nil] at answered
    omega
  have front : (scene.history .clientToServer).received ++ SocketBuffer.arrived result <+:
      streams.initiation :=
    List.prefix_of_prefix_length_le stream (List.prefix_append _ _) waits
  have shown : (scene.conn.buffer .clientToServer).contents ++ SocketBuffer.arrived result =
      ((scene.history .clientToServer).received ++ SocketBuffer.arrived result).drop
        (scene.history .clientToServer).sent.length := by
    rw [unread,List.drop_append_of_le_length (by omega)]
  rw [shown,early]
  by_cases first : done = 0
  · rw [first,List.take_zero,List.flatten_nil,List.length_nil] at position
    rw [← position,List.drop_zero]
    exact early_front streams.opens front _
  · have behind := first_done (rfl : streams.messages .clientToServer = _ :: streams.requests) first
    rw [List.drop_of_length_le (by omega)]
    exact .inl (short_part (frame_nil (.inl rfl)))

theorem Phased.unparsed (phased : Phased streams scene)
    (move : Move settings .serverToClient scene label after)
    (early : after.conn.status = .unestablished) :
    Orderly .serverToClient after ∧ (after.conn.buffer .serverToClient).bytesParsed = 0 ∧
      (after.history .serverToClient).sent = [] := by
  have before : scene.conn.status = .unestablished := by
    rcases move.status with same | ⟨_,_,before,_⟩
    · rw [← same]
      exact early
    · exact before
  obtain ⟨_,orderly,fresh,nothing⟩ := phased.early before
  refine ⟨orderly.step (.own .serverToClient move) (fun _ _ => fresh),?_⟩
  have lane := orderly.2
  cases move with
  | received result next idle polled fits read =>
    have stopped : scene.cursor .serverToClient = none := by simp [cursor,idle]
    rw [stopped] at lane
    obtain ⟨_,bound,_⟩ := lane.bytesToRead_bounds fresh
    obtain ⟨grown,bytes,effect⟩ := readFrom_success lane.sound bound fits read
    dsimp only
    rw [history_here,effect.left,Connection.withBuffer_buffer]
    exact ⟨effect.growth.parsed.trans fresh,nothing⟩
  | finished data next running round =>
    dsimp only
    rw [history_here]
    refine ⟨?_,nothing⟩
    rcases finished_left round with same | ⟨messageSz,known,_⟩
    · rw [same]
      exact fresh
    · rw [known.buffer]
      exact fresh
  | handled data handler logged running round =>
    obtain ⟨next,messageSz,inner,handling⟩ := handled_left round
    obtain ⟨buffer,_,left⟩ := handling.left
    have status := (handOver_effect handling.given).status
    dsimp only at early
    rw [left,Connection.withBuffer_status,status,handling.known.status,if_pos ⟨rfl,before⟩] at early
    cases early
  | sent result next idle polled fits written =>
    have stopped : scene.cursor .serverToClient = none := by simp [cursor,idle]
    rw [stopped] at lane
    obtain ⟨loaded,_⟩ := lane.ready (polledOutput_ready polled)
    omega

theorem Phased.move (phased : Phased streams scene) (move : Move settings acting scene label after)
    (continues : ∀ direction result,label = .receive scene.conn.id direction result →
      streams.Continues scene.history direction (SocketBuffer.arrived result)) :
    Phased streams after := by
  have client := move.longer .clientToServer
  have server := move.longer .serverToClient
  refine ⟨move.live phased.live,?_,?_,?_,?_⟩
  · intro more
    refine Nat.le_trans ?_ server.1
    rcases client.2 with same | ⟨result,receives,got⟩
    · rw [same] at more
      exact phased.client more
    · rw [got] at more
      exact (continues _ _ receives).client rfl more
  · intro arrived
    refine Nat.le_trans ?_ client.1
    rcases server.2 with same | ⟨result,receives,got⟩
    · rw [same] at arrived
      exact phased.server arrived
    · by_cases nothing : SocketBuffer.arrived result = []
      · rw [got,nothing,List.append_nil] at arrived
        exact phased.server arrived
      · exact (continues _ _ receives).server rfl nothing
  · intro early
    have before : scene.conn.status = .unestablished := by
      rcases move.status with same | ⟨_,_,before,_⟩
      · rw [← same]
        exact early
      · exact before
    obtain ⟨⟨done,followed⟩,orderly,fresh,nothing⟩ := phased.early before
    cases acting with
    | clientToServer =>
      have aside := move.aside (show Direction.serverToClient ≠ .clientToServer by decide)
      refine ⟨followed.move phased move (fun result => continues _ result) ?_,⟨move.live orderly.1,?_⟩,
        ?_,?_⟩
      · intro result same
        subst same
        cases move with
        | received _ next idle polled fits read =>
          exact followed.early_tidy phased before idle polled (continues _ _ rfl)
      · rw [aside.buffer,aside.history,aside.cursor]
        exact orderly.2
      · rw [aside.buffer]
        exact fresh
      · rw [aside.history]
        exact nothing
    | serverToClient =>
      exact ⟨⟨done,followed.aside phased move (by decide)⟩,phased.unparsed move early⟩
  · intro opened
    rcases move.status with same | ⟨answer,_,before,_⟩
    · rw [same] at opened
      obtain ⟨order,sent⟩ := phased.opened opened
      refine ⟨?_,Nat.le_trans sent client.1⟩
      rcases move.order phased.live with still | ⟨_,early⟩
      · rw [still]
        exact order
      · rw [early] at opened
        cases opened
    · subst answer
      have sent := phased.opening move before opened
      obtain ⟨⟨done,followed⟩,_⟩ := phased.early before
      refine ⟨?_,Nat.le_trans sent client.1⟩
      rcases move.order phased.live with still | ⟨other,_⟩
      · rw [still]
        exact followed.order sent
      · cases other

theorem Phased.opening_scene (streams : Streams settings) (parser : X11ProtocolParser) (serial : Nat) :
    Phased streams (Scene.opening parser serial) ∧
      ∀ direction,Followed direction streams (Scene.opening parser serial) 0 := by
  have followed (direction : Direction) :
      Followed direction streams (Scene.opening parser serial) 0 := by
    refine ⟨Clean.opening parser serial,⟨Nat.zero_le _,List.nil_prefix,?_,rfl,?_,?_⟩,?_,fun _ => rfl⟩
    · cases direction <;> rfl
    · intro entry member
      cases member
    · intro set
      cases direction <;> cases set
    · intro _ given
      rcases given with arrived | set
      · exact absurd arrived (Nat.lt_irrefl 0)
      · cases direction <;> cases set
  refine ⟨⟨.inl rfl,?_,?_,?_,?_⟩,followed⟩
  · intro more
    cases more
  · intro arrived
    exact absurd rfl arrived
  · intro _
    exact ⟨⟨0,followed .clientToServer⟩,(followed .serverToClient).clean.orderly,rfl,rfl⟩
  · intro opened
    cases opened

structure Course (direction : Direction) (streams : Streams settings) (scene : Scene) : Prop where
  phased : Phased streams scene
  followed : ∃ done,Followed direction streams scene done

theorem Followed.elsewhere (followed : Followed direction streams scene done)
    (parser : X11ProtocolParser) : Followed direction streams { scene with parser } done := by
  obtain ⟨clean,streamed,ordered,phase⟩ := followed
  exact ⟨⟨clean.orderly,clean.kept⟩,
    ⟨streamed.bound,streamed.received,streamed.position,streamed.handed,streamed.sized,streamed.pending⟩,
    ordered,phase⟩

theorem Course.step (course : Course direction streams scene) (step : Step settings scene label after)
    (continues : ∀ direction result,label = .receive scene.conn.id direction result →
      streams.Continues scene.history direction (SocketBuffer.arrived result))
    (tidy : ∀ result,label = .receive scene.conn.id direction result →
      scene.conn.TidyRead settings direction (SocketBuffer.arrived result)) :
    Course direction streams after := by
  obtain ⟨phased,done,followed⟩ := course
  cases step with
  | own acting move =>
    refine ⟨phased.move move continues,?_⟩
    by_cases same : direction = acting
    · subst same
      exact followed.move phased move (fun result => continues _ result) tidy
    · exact ⟨done,followed.aside phased move same⟩
  | elsewhere parser =>
    refine ⟨⟨phased.live,phased.client,phased.server,?_,phased.opened⟩,done,followed.elsewhere parser⟩
    intro early
    obtain ⟨⟨other,client⟩,orderly,rest⟩ := phased.early early
    exact ⟨⟨other,client.elsewhere parser⟩,⟨orderly.1,orderly.2⟩,rest⟩

end Scene

namespace World

variable {settings : Settings} {direction : Direction} {world : World} {id : Nat} {conn : Connection}
  {predefined : Nat → Option (List UInt8)}

/-- The peers of every connection keep to the streams of the connection. -/
def Conforming (streams : Nat → Streams settings) (world : World) : Label → Prop
  | .receive id direction result => ∀ conn ∈ world.proxy.connections id,
      (streams conn.serial).Continues (world.history id) direction (SocketBuffer.arrived result)
  | _ => True

instance (streams : Nat → Streams settings) (world : World) (label : Label) :
    Decidable (Conforming streams world label) :=
  match label with
  | .receive _ _ _ => inferInstanceAs (Decidable (∀ conn ∈ _,_))
  | .accept | .round | .send _ _ _ | .pollError _ => inferInstanceAs (Decidable True)

/-- The peers keep to their streams, and the reads in a direction are tidy. -/
def Streaming (streams : Nat → Streams settings) (direction : Direction) (world : World)
    (label : Label) : Prop :=
  Conforming streams world label ∧ TidyReads settings direction world label

instance (streams : Nat → Streams settings) (direction : Direction) (world : World) (label : Label) :
    Decidable (Streaming streams direction world label) := inferInstanceAs (Decidable (_ ∧ _))

/-- The messages of a direction are handed over as if each had arrived whole and alone. -/
structure Unchunked (streams : Streams settings) (direction : Direction) (history : History)
    (idle : Prop) : Prop where
  each : ∃ done ≤ completed (streams.messages direction) history.received.length,
    history.handed = streams.expected direction done
  all : idle → history.handed = streams.expected direction
    (completed (streams.messages direction) history.received.length)
  known : ∀ entry ∈ history.sized,entry.offset + entry.headerSz ≤ entry.received

theorem reached_course (streams : Nat → Streams settings)
    (reached : World.Reached settings predefined (Streaming streams direction) world) {scene : Scene}
    (found : world.scene id = some scene) :
    Scene.Course direction (streams scene.conn.serial) scene := by
  apply scenes_invariant (fun scene => Scene.Course direction (streams scene.conn.serial) scene) ?_ ?_
    reached found
  · intro world _ _
    obtain ⟨phased,followed⟩ := Scene.Phased.opening_scene
      (streams (Scene.opening world.proxy.parser world.proxy.accepted).conn.serial)
      world.proxy.parser world.proxy.accepted
    exact ⟨phased,0,followed direction⟩
  · intro world label id scene after before enabled given known course step
    obtain ⟨present,_,histories,_⟩ := scene_found known
    have numbered := reached_keyed before _ _ present
    have serial : after.conn.serial = scene.conn.serial := by
      cases step with
      | own acting move => exact move.serial
      | elsewhere => rfl
    rw [serial]
    apply course.step step
    · intro acting result receives
      subst receives
      have conforms := given.1
      rw [numbered] at conforms
      rw [histories]
      exact conforms _ present
    · intro result receives
      subst receives
      have tidy := given.2
      rw [numbered] at tidy
      exact tidy rfl _ present

theorem messages_unchunked (streams : Nat → Streams settings)
    (reached : World.Reached settings predefined (Streaming streams direction) world)
    (found : world.proxy.connections id = some conn) :
    Unchunked (streams conn.serial) direction (world.history id direction) (world.proxy.loop = none) := by
  obtain ⟨phased,done,followed⟩ := reached_course streams reached (scene_some found)
  have streamed := followed.streamed
  have lane := followed.clean.orderly.2
  have counted := lane.counted
  have length := lane.sound.contents_length
  have parsed := lane.sound.parsedLe
  have position := streamed.position
  have within : (((streams conn.serial).messages direction).take done).flatten.length ≤
      (world.history id direction).received.length := by
    dsimp only at position counted length parsed
    omega
  refine ⟨⟨done,le_completed _ _ _ within streamed.bound,streamed.handed⟩,?_,streamed.sized⟩
  intro idle
  have stopped := @running_idle world id idle
  have short := followed.short (followed.aligned phased) (by simp [Scene.cursor,stopped])
  rw [completed_between _ done _ within short streamed.bound]
  exact streamed.handed

/-- However the stream of a client is cut up, its messages are handed over as they stand in it, if
each read leaves whole messages or the beginning of one. -/
theorem client_messages_unchunked (streams : Nat → Streams settings)
    (reached : World.Reached settings predefined (Streaming streams .clientToServer) world)
    (found : world.proxy.connections id = some conn) :
    Unchunked (streams conn.serial) .clientToServer (world.history id .clientToServer)
      (world.proxy.loop = none) := by
  exact messages_unchunked streams reached found

/-- The same for the stream of a server. -/
theorem server_messages_unchunked (streams : Nat → Streams settings)
    (reached : World.Reached settings predefined (Streaming streams .serverToClient) world)
    (found : world.proxy.connections id = some conn) :
    Unchunked (streams conn.serial) .serverToClient (world.history id .serverToClient)
      (world.proxy.loop = none) := by
  exact messages_unchunked streams reached found

/-- An event of the core protocol, with nothing in it. -/
def bareEvent : List UInt8 := 2 :: List.replicate 31 0

/-- A client that sends an Initiation and two NoOperation requests, and a server that accepts it and
sends two events. -/
def short : Streams plainly where
  byteswap := false
  initiation := bareInitiation
  requests := [[127,0,1,0],[127,0,1,0]]
  acceptance := bareAcceptance
  responses := [bareEvent,bareEvent]
  opens := ⟨12,by decide⟩
  asks := by
    intro request member
    have same : request = [127,0,1,0] := by simpa using member
    rw [same]
    exact ⟨4,by decide⟩
  accepts := ⟨8,by decide⟩
  answers := by
    intro response member
    have same : response = bareEvent := by simpa using member
    rw [same]
    exact ⟨4,by decide⟩

/-- The second request in two parts. -/
theorem client_messages_unchunked_parts : ∃ world conn,
    World.Reached plainly (fun _ => none) (Streaming (fun _ => short) .clientToServer) world ∧
      conn ∈ world.proxy.connections 0 ∧ (world.history 0 .clientToServer).handed.length = 3 ∧
        Unchunked short .clientToServer (world.history 0 .clientToServer) (world.proxy.loop = none) := by
  obtain ⟨world,reached,conn,found,three⟩ :=
    replayed plainly (fun _ => none) (Streaming (fun _ => short) .clientToServer)
      (fun world => ∃ conn ∈ world.proxy.connections 0,
        (world.history 0 .clientToServer).handed.length = 3)
      (setup ++ [.receive 0 .clientToServer (.received [127,0,1,0]),.round,.round,
        .send 0 .clientToServer (.sent 4),.receive 0 .clientToServer (.received [127]),.round,
        .receive 0 .clientToServer (.received [0,1,0]),.round,.round]) (by decide +kernel)
  exact ⟨world,conn,reached,found,three,client_messages_unchunked _ reached found⟩

/-- A chunk with the first request and a byte of the second: the first one is handed over twice. -/
theorem client_messages_chunked : ∃ world conn,
    World.Reached plainly (fun _ => none) (Conforming fun _ => short) world ∧
      conn ∈ world.proxy.connections 0 ∧ world.proxy.loop = none ∧
        ¬Unchunked short .clientToServer (world.history 0 .clientToServer) (world.proxy.loop = none) := by
  obtain ⟨world,reached,idle,present,wrong⟩ :=
    replayed plainly (fun _ => none) (Conforming fun _ => short)
      (fun world => world.proxy.loop = none ∧ (world.proxy.connections 0).isSome = true ∧
        (world.history 0 .clientToServer).handed ≠ short.expected .clientToServer
          (completed (short.messages .clientToServer)
            (world.history 0 .clientToServer).received.length))
      (setup ++ [.receive 0 .clientToServer (.received [127,0,1,0,127]),.round,.round,
        .receive 0 .clientToServer (.received [0,1,0]),.round,.round]) (by decide +kernel)
  obtain ⟨conn,found⟩ := Option.isSome_iff_exists.mp present
  exact ⟨world,conn,reached,found,idle,fun alike => wrong (alike.all idle)⟩

/-- The second event in two parts. -/
theorem server_messages_unchunked_parts : ∃ world conn,
    World.Reached plainly (fun _ => none) (Streaming (fun _ => short) .serverToClient) world ∧
      conn ∈ world.proxy.connections 0 ∧ (world.history 0 .serverToClient).handed.length = 3 ∧
        Unchunked short .serverToClient (world.history 0 .serverToClient) (world.proxy.loop = none) := by
  obtain ⟨world,reached,conn,found,three⟩ :=
    replayed plainly (fun _ => none) (Streaming (fun _ => short) .serverToClient)
      (fun world => ∃ conn ∈ world.proxy.connections 0,
        (world.history 0 .serverToClient).handed.length = 3)
      (setup ++ [.receive 0 .serverToClient (.received bareEvent),.round,.round,
        .send 0 .serverToClient (.sent 32),.receive 0 .serverToClient (.received [2]),.round,
        .receive 0 .serverToClient (.received (List.replicate 31 0)),.round,.round]) (by decide +kernel)
  exact ⟨world,conn,reached,found,three,server_messages_unchunked _ reached found⟩

/-- The reply to GetFontPath with one path of three characters. -/
def fontPathReply : List UInt8 :=
  [1,0,1,0,1,0,0,0,1,0] ++ List.replicate 22 0 ++ [3,97,98,99]

/-- A client that asks for the font path, and a server that sends an event before the reply. -/
def asking : Streams plainly where
  byteswap := false
  initiation := bareInitiation
  requests := [[52,0,1,0]]
  acceptance := bareAcceptance
  responses := [bareEvent,fontPathReply]
  opens := ⟨12,by decide⟩
  asks := by
    intro request member
    have same : request = [52,0,1,0] := by simpa using member
    rw [same]
    exact ⟨4,by decide⟩
  accepts := ⟨8,by decide⟩
  answers := by
    intro response member
    rcases List.mem_pair.mp member with same | same
    · rw [same]
      exact ⟨4,by decide⟩
    · rw [same]
      exact ⟨8,by decide⟩

/-- The first four bytes of the reply come alone: its size is taken from the event that stood in the
buffer before, and 32 of its 36 bytes are handed over as a reply. -/
theorem server_messages_chunked : ∃ world conn,
    World.Reached plainly (fun _ => none) (Conforming fun _ => asking) world ∧
      conn ∈ world.proxy.connections 0 ∧ world.proxy.loop = none ∧
        (∃ entry ∈ (world.history 0 .serverToClient).sized,
          entry.received < entry.offset + entry.headerSz) ∧
        (∃ entry ∈ (world.history 0 .serverToClient).handed,entry.handler = some .reply ∧
          entry.bytes = fontPathReply.take 32) ∧
        (world.history 0 .serverToClient).handed ≠ asking.expected .serverToClient
          (completed (asking.messages .serverToClient)
            (world.history 0 .serverToClient).received.length) ∧
        ¬Unchunked asking .serverToClient (world.history 0 .serverToClient)
          (world.proxy.loop = none) := by
  obtain ⟨world,reached,idle,present,early,cut,wrong⟩ :=
    replayed plainly (fun _ => none) (Conforming fun _ => asking)
      (fun world => world.proxy.loop = none ∧ (world.proxy.connections 0).isSome = true ∧
        (∃ entry ∈ (world.history 0 .serverToClient).sized,
          entry.received < entry.offset + entry.headerSz) ∧
        (∃ entry ∈ (world.history 0 .serverToClient).handed,entry.handler = some .reply ∧
          entry.bytes = fontPathReply.take 32) ∧
        (world.history 0 .serverToClient).handed ≠ asking.expected .serverToClient
          (completed (asking.messages .serverToClient)
            (world.history 0 .serverToClient).received.length))
      (setup ++ [.receive 0 .clientToServer (.received [52,0,1,0]),.round,.round,
        .send 0 .clientToServer (.sent 4),.receive 0 .serverToClient (.received bareEvent),.round,
        .round,.send 0 .serverToClient (.sent 32),
        .receive 0 .serverToClient (.received (fontPathReply.take 4)),.round,
        .receive 0 .serverToClient (.received ((fontPathReply.take 32).drop 4)),.round,.round])
      (by decide +kernel)
  obtain ⟨conn,found⟩ := Option.isSome_iff_exists.mp present
  exact ⟨world,conn,reached,found,idle,early,cut,wrong,fun alike => wrong (alike.all idle)⟩

end World
end Xtracepp
