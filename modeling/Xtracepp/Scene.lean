import Xtracepp.Lane

/-! One connection of the proxy. Its scene is what its own messages can read or
change; a step of the proxy is a step of each scene, and the rule at the end
proves a property of every scene of every run from the scene's steps alone.
-/
namespace Xtracepp
open Library.Outcome Library.Runs

structure Scene where
  parser : X11ProtocolParser
  conn : Connection
  history : Direction → History
  running : Option (Direction × Nat)

namespace Scene

variable {settings : Settings} {scene after : Scene} {label : Label} {direction : Direction}

def opening (parser : X11ProtocolParser) (serial : Nat) : Scene where
  parser := parser
  conn := Connection.initial serial
  history := fun _ => {}
  running := none

/-- The local `data` of the loop that logs what the sender of a direction sent. -/
def cursor (scene : Scene) (direction : Direction) : Option Nat :=
  match scene.running with
  | some (running,data) => if running = direction then some data else none
  | none => none

def withHistory (scene : Scene) (direction : Direction) (history : History) :
    Direction → History :=
  fun other => if other = direction then history else scene.history other

/-- What the messages in one direction do to a scene. -/
inductive Move (settings : Settings) (direction : Direction) (scene : Scene) : Label → Scene → Prop
  | received (result : RecvResult) (next : Connection)
      (idle : scene.running = none) (polled : scene.conn.polledInput direction = true)
      (fits : (SocketBuffer.arrived result).length ≤ (scene.conn.buffer direction).bytesToRead)
      (read : readFrom direction scene.conn result = .ok (some next)) :
      Move settings direction scene (.receive scene.conn.id direction result)
        { scene with
          conn := next
          history := scene.withHistory direction ((scene.history direction).receive result)
          running := some (direction,(next.buffer direction).data) }
  | finished (data : Nat) (next : Connection) (running : scene.running = some (direction,data))
      (round : messageRound settings direction scene.parser scene.conn data =
        .ok (.finished next)) :
      Move settings direction scene .round
        { scene with
          conn := next
          history := scene.withHistory direction
            ((scene.history direction).round settings direction scene.parser scene.conn data)
          running := none }
  | handled (data : Nat) (handler : Option Handler) (logged : Logged)
      (running : scene.running = some (direction,data))
      (round : messageRound settings direction scene.parser scene.conn data =
        .ok (.handled handler logged)) :
      Move settings direction scene .round
        { parser := logged.parser
          conn := logged.conn
          history := scene.withHistory direction
            ((scene.history direction).round settings direction scene.parser scene.conn data)
          running := some (direction,data + logged.bytesParsed) }
  | sent (result : SendResult) (next : Connection)
      (idle : scene.running = none) (polled : scene.conn.polledOutput direction = true)
      (fits : result.count ≤ (scene.conn.buffer direction).bytesParsed)
      (written : writeTo settings direction scene.conn result = .ok (some next)) :
      Move settings direction scene (.send scene.conn.id direction result)
        { scene with
          conn := next
          history := scene.withHistory direction
            ((scene.history direction).send (scene.conn.buffer direction) result) }

inductive Step (settings : Settings) (scene : Scene) : Label → Scene → Prop
  | own {label : Label} {after : Scene} (direction : Direction)
      (move : Move settings direction scene label after) : Step settings scene label after
  | elsewhere (label : Label) (parser : X11ProtocolParser)
      (stash : ∀ seqNum, parser.stashedStrings scene.conn.id seqNum =
        scene.parser.stashedStrings scene.conn.id seqNum)
      (opcodes : ∀ code traits, scene.parser.majorOpcodes code = some traits →
        parser.majorOpcodes code = some traits) :
      Step settings scene label { scene with parser }

end Scene

namespace Proxy

variable {settings : Settings} {proxy after : Proxy} {label : Label}

/-- Every connection is filed under its own number. -/
def Keyed (proxy : Proxy) : Prop :=
  ∀ id conn, proxy.connections id = some conn → conn.id = id

/-- Handing a message over keeps what belongs to other connections. -/
theorem handled_frame {direction : Direction} {parser : X11ProtocolParser} {conn : Connection}
    {data : Nat} {handler : Option Handler} {logged : Logged}
    (ok : messageRound settings direction parser conn data = .ok (.handled handler logged)) :
    logged.conn.id = conn.id ∧ ParserEffect conn.id parser logged.parser := by
  cases messageRound_case ok with
  | handled known handler inner buffer pending sizing complete given marked =>
    obtain ⟨messageSz,known⟩ := sizing_known sizing
    have effect := handOver_effect given
    obtain ⟨_,given⟩ := demand_bind_success given
    obtain ⟨_,_,given⟩ := bind_success given
    obtain ⟨ran,running,given⟩ := bind_success given
    obtain ⟨_,given⟩ := demand_bind_success given
    cases given
    have frame := runHandler_stash running
    rw [known.id] at frame
    exact ⟨by simp [effect.id,known.id],frame⟩

theorem keyed_step (keyed : proxy.Keyed) (enabled : label.Enabled proxy)
    (stepped : proxy.step settings label = .ok after) : after.Keyed := by
  intro id conn found
  have stored (other : Nat) (next : Connection) (same : next.id = other)
      (found : (if id = other then some next else proxy.connections id) = some conn) :
      conn.id = id := by
    split at found
    · rename_i here
      cases found
      exact same.trans here.symm
    · exact keyed id conn found
  have removed (other : Nat)
      (found : (if id = other then none else proxy.connections id) = some conn) :
      conn.id = id := by
    split at found
    · cases found
    · exact keyed id conn found
  cases step_case enabled stepped with
  | accept idle =>
    simp only [Proxy.withConnection] at found
    split at found
    · rename_i here
      cases present : proxy.connections (proxy.accepted % 2^32) with
      | none =>
        simp only [present,Option.none_or,Option.some.injEq] at found
        subst found
        exact here.symm
      | some old =>
        simp only [present,Option.some_or,Option.some.injEq] at found
        subst found
        exact (keyed _ _ present).trans here.symm
    · exact keyed id conn found
  | readClosed other => exact removed other found
  | received other direction result old next idle present polled fits read =>
    obtain ⟨buffer,rfl⟩ := readFrom_left read
    exact stored other _ ((Connection.withBuffer_id _ _ _).trans (keyed _ _ present)) found
  | lost => exact keyed id conn found
  | finished loop old next running present round =>
    have same : next.id = old.id := by
      rcases finished_left round with rfl | ⟨messageSz,known,_⟩
      · rfl
      · exact known.id
    exact stored loop.id next (same.trans (keyed _ _ present)) found
  | refused loop => exact removed loop.id found
  | handled loop old handler logged running present round =>
    exact stored loop.id logged.conn ((handled_frame round).1.trans (keyed _ _ present)) found
  | sendClosed other => exact removed other found
  | sent other direction result old next idle present polled fits written =>
    obtain ⟨buffer,rfl⟩ := writeTo_left written
    exact stored other _ ((Connection.withBuffer_id _ _ _).trans (keyed _ _ present)) found
  | pollError other => exact removed other found

end Proxy

namespace World

variable {settings : Settings} {world after : World} {label : Label} {id : Nat}

/-- The loop of a connection. -/
def running (world : World) (id : Nat) : Option (Direction × Nat) :=
  world.proxy.loop.bind fun loop => if loop.id = id then some (loop.direction,loop.data) else none

def scene (world : World) (id : Nat) : Option Scene :=
  (world.proxy.connections id).map fun conn =>
    { parser := world.proxy.parser, conn, history := world.history id, running := world.running id }

theorem scene_some {conn : Connection} (found : world.proxy.connections id = some conn) :
    world.scene id = some
      { parser := world.proxy.parser, conn, history := world.history id, running := world.running id } := by
  simp [scene,found]

theorem scene_found {scene : Scene} (found : world.scene id = some scene) :
    world.proxy.connections id = some scene.conn ∧ scene.parser = world.proxy.parser ∧
      scene.history = world.history id ∧ scene.running = world.running id := by
  cases present : world.proxy.connections id with
  | none => simp [World.scene,present] at found
  | some conn =>
    rw [scene_some present] at found
    cases found
    exact ⟨rfl,rfl,rfl,rfl⟩

private theorem scene_eq {scene : Scene} {conn : Connection} (found : world.scene id = some scene)
    (present : world.proxy.connections id = some conn) : scene =
      { parser := world.proxy.parser, conn, history := world.history id, running := world.running id } := by
  rw [scene_some present] at found
  exact (Option.some.inj found).symm

theorem running_idle (idle : world.proxy.loop = none) : world.running id = none := by
  simp [running,idle]

theorem running_loop {direction : Direction} {data : Nat}
    (running : world.running id = some (direction,data)) :
    ∃ loop ∈ world.proxy.loop,loop.id = id ∧ loop.direction = direction ∧ loop.data = data := by
  unfold World.running at running
  obtain ⟨loop,present,given⟩ := Option.bind_eq_some_iff.mp running
  split at given
  · rename_i here
    simp only [Option.some.injEq,Prod.mk.injEq] at given
    exact ⟨loop,present,here,given.1,given.2⟩
  · cases given

theorem loop_running {loop : Loop} (run : world.proxy.loop = some loop) :
    world.running loop.id = some (loop.direction,loop.data) := by simp [running,run]

theorem loop_other {loop : Loop} (run : world.proxy.loop = some loop) (different : id ≠ loop.id) :
    world.running id = none := by simp [running,run,Ne.symm different]

/-- A step that leaves a connection, its streams and its strings alone. -/
private theorem step_elsewhere {scene : Scene}
    (found : after.scene id = some scene)
    (connection : after.proxy.connections id = world.proxy.connections id)
    (history : after.history id = world.history id)
    (running : after.running id = world.running id)
    (parser : ∀ conn, world.proxy.connections id = some conn →
      (∀ seqNum, after.proxy.parser.stashedStrings conn.id seqNum =
        world.proxy.parser.stashedStrings conn.id seqNum) ∧
      ∀ code traits, world.proxy.parser.majorOpcodes code = some traits →
        after.proxy.parser.majorOpcodes code = some traits) :
    ∃ before, world.scene id = some before ∧ Scene.Step settings before label scene := by
  obtain ⟨present,parsed,kept,run⟩ := scene_found found
  rw [connection] at present
  obtain ⟨stash,opcodes⟩ := parser _ present
  refine ⟨_,scene_some present,?_⟩
  have same : scene =
      { Scene.mk world.proxy.parser scene.conn (world.history id) (world.running id) with
        parser := after.proxy.parser } := by
    rw [← parsed,← history,← kept,← running,← run]
  rw [same]
  exact .elsewhere label after.proxy.parser stash opcodes

private theorem withHistory_other {other : Nat} (different : id ≠ other) (direction : Direction)
    (history : History) : world.withHistory other direction history id = world.history id := by
  funext direction
  simp [withHistory,different]

private theorem withHistory_here (scene : Scene) (same : scene.history = world.history id)
    (direction : Direction) (history : History) :
    world.withHistory id direction history id = scene.withHistory direction history := by
  funext other
  simp [withHistory,Scene.withHistory,same]

private theorem stored_here (proxy : Proxy) (conn : Option Connection) :
    (proxy.withConnection id conn).connections id = conn := by simp [Proxy.withConnection]

private theorem stored_other (proxy : Proxy) (conn : Option Connection) {other : Nat}
    (different : id ≠ other) :
    (proxy.withConnection other conn).connections id = proxy.connections id := by
  simp [Proxy.withConnection,different]

private theorem closed_elsewhere {proxy : Proxy} {other : Nat} {history : Nat → Direction → History}
    {scene : Scene} (found : (World.mk (proxy.closeConnection other) history).scene id = some scene) :
    id ≠ other := by
  rintro rfl
  simp [World.scene,Proxy.closeConnection,Proxy.withConnection] at found

private theorem record_round {loop : Loop} {conn : Connection} (run : world.proxy.loop = some loop)
    (present : world.proxy.connections loop.id = some conn) :
    world.record settings .round = world.withHistory loop.id loop.direction
      ((world.history loop.id loop.direction).round settings loop.direction world.proxy.parser conn
        loop.data) := by simp only [record,run,present]

section kinds

variable {scene : Scene} {conn next : Connection} {loop : Loop} {direction : Direction} {other : Nat}

/-- What a step does to one connection that is open after it and was open before. -/
def Stepped (settings : Settings) (world : World) (id : Nat) (label : Label) (scene : Scene) : Prop :=
  ∃ before, world.scene id = some before ∧ Scene.Step settings before label scene

/-- A step that leaves the parser alone, too. -/
private theorem step_beside (found : after.scene id = some scene)
    (parser : after.proxy.parser = world.proxy.parser)
    (connection : after.proxy.connections id = world.proxy.connections id)
    (history : after.history id = world.history id) (running : after.running id = world.running id) :
    Stepped settings world id label scene := by
  refine step_elsewhere found connection history running fun conn _ => ?_
  rw [parser]
  exact ⟨fun _ => rfl,fun _ _ known => known⟩

private theorem step_closed
    (found : (World.mk (world.proxy.closeConnection other) (world.record settings label)).scene id =
      some scene)
    (kept : id ≠ other → world.record settings label id = world.history id)
    (stopped : id ≠ other → world.running id = none) : Stepped settings world id label scene := by
  have different : id ≠ other := closed_elsewhere found
  refine step_beside found rfl (stored_other _ _ different) (kept different) ?_
  rw [stopped different]
  exact running_idle rfl

private theorem step_accept (idle : world.proxy.loop = none)
    (found : (World.mk { world.proxy.withConnection (world.proxy.accepted % 2^32)
      ((world.proxy.connections (world.proxy.accepted % 2^32)).or
        (some (Connection.initial world.proxy.accepted))) with
      accepted := world.proxy.accepted + 1 } (world.record settings .accept)).scene id = some scene) :
    Stepped settings world id .accept scene ∨
      (id = world.proxy.accepted % 2^32 ∧ world.proxy.connections id = none ∧
        scene = Scene.opening world.proxy.parser world.proxy.accepted) := by
  by_cases opened : id = world.proxy.accepted % 2^32 ∧ world.proxy.connections id = none
  · obtain ⟨here,absent⟩ := opened
    right
    refine ⟨here,absent,?_⟩
    obtain ⟨present,parsed,kept,run⟩ := scene_found found
    rw [here] at absent
    simp only [Proxy.withConnection,here,if_true,absent,Option.none_or,Option.some.injEq] at present
    obtain ⟨parser,conn,histories,running⟩ := scene
    dsimp only at present parsed kept run
    subst present
    subst parsed
    have fresh : histories = fun _ => {} := by
      rw [kept]
      funext direction
      exact if_pos ⟨here,by rw [here,absent]; rfl⟩
    have stopped : running = none := by
      rw [run]
      exact running_idle idle
    rw [fresh,stopped]
    rfl
  · left
    refine step_beside found rfl ?_ ?_ ?_
    · simp only [Proxy.withConnection]
      split
      · rename_i here
        cases present : world.proxy.connections (world.proxy.accepted % 2^32) with
        | none => exact absurd ⟨here,here ▸ present⟩ opened
        | some old =>
          rw [here,present]
          rfl
      · rfl
    · funext direction
      simp only [record]
      split
      · rename_i fresh
        exact absurd ⟨fresh.1,by simpa using fresh.2⟩ opened
      · rfl
    · rfl

private theorem step_received {result : RecvResult} (keyed : world.proxy.Keyed)
    (idle : world.proxy.loop = none) (present : world.proxy.connections other = some conn)
    (polled : conn.polledInput direction = true)
    (fits : (SocketBuffer.arrived result).length ≤ (conn.buffer direction).bytesToRead)
    (read : readFrom direction conn result = .ok (some next))
    (found : (World.mk { world.proxy.withConnection other (some next) with
      loop := some ⟨other,direction,(next.buffer direction).data⟩ }
        (world.record settings (.receive other direction result))).scene id = some scene) :
    Stepped settings world id (.receive other direction result) scene := by
  by_cases here : id = other
  · subst here
    have same := scene_eq found (stored_here world.proxy (some next))
    refine ⟨_,scene_some present,?_⟩
    have step : Scene.Step settings ⟨world.proxy.parser,conn,world.history id,none⟩
        (.receive conn.id direction result) _ :=
      .own direction (.received result next rfl polled fits read)
    rw [keyed _ _ present,← withHistory_here _ rfl] at step
    rw [same,running_idle idle]
    simpa [running,record,Proxy.withConnection] using step
  · refine step_beside found rfl (stored_other _ _ here) (withHistory_other here _ _) ?_
    rw [running_idle idle]
    simp [running,Ne.symm here]

private theorem step_lost (run : world.proxy.loop = some loop)
    (absent : world.proxy.connections loop.id = none)
    (found : (World.mk { world.proxy with loop := none } (world.record settings .round)).scene id =
      some scene) : Stepped settings world id .round scene := by
  have different : id ≠ loop.id := by
    rintro rfl
    simp [World.scene,absent] at found
  refine step_beside found rfl rfl ?_ ?_
  · simp [record,run,absent]
  · rw [loop_other run different]
    exact running_idle rfl

private theorem step_finished (run : world.proxy.loop = some loop)
    (present : world.proxy.connections loop.id = some conn)
    (round : messageRound settings loop.direction world.proxy.parser conn loop.data =
      .ok (.finished next))
    (found : (World.mk { world.proxy.withConnection loop.id (some next) with loop := none }
      (world.record settings .round)).scene id = some scene) :
    Stepped settings world id .round scene := by
  by_cases here : id = loop.id
  · subst here
    have same := scene_eq found (stored_here world.proxy (some next))
    refine ⟨_,scene_some present,?_⟩
    have step : Scene.Step settings
        ⟨world.proxy.parser,conn,world.history loop.id,some (loop.direction,loop.data)⟩ .round _ :=
      .own loop.direction (.finished loop.data next rfl round)
    rw [← withHistory_here _ rfl] at step
    rw [same,loop_running run]
    simpa [running,record,run,present,Proxy.withConnection] using step
  · refine step_beside found rfl (stored_other _ _ here) ?_ ?_
    · rw [record_round run present]
      exact withHistory_other here _ _
    · rw [loop_other run here]
      exact running_idle rfl

private theorem step_handled {handler : Option Handler} {logged : Logged} (keyed : world.proxy.Keyed)
    (run : world.proxy.loop = some loop) (present : world.proxy.connections loop.id = some conn)
    (round : messageRound settings loop.direction world.proxy.parser conn loop.data =
      .ok (.handled handler logged))
    (found : (World.mk { world.proxy.withConnection loop.id (some logged.conn) with
      parser := logged.parser
      loop := some { loop with data := loop.data + logged.bytesParsed } }
        (world.record settings .round)).scene id = some scene) :
    Stepped settings world id .round scene := by
  by_cases here : id = loop.id
  · subst here
    have same := scene_eq found (stored_here world.proxy (some logged.conn))
    refine ⟨_,scene_some present,?_⟩
    have step : Scene.Step settings
        ⟨world.proxy.parser,conn,world.history loop.id,some (loop.direction,loop.data)⟩ .round _ :=
      .own loop.direction (.handled loop.data handler logged rfl round)
    rw [← withHistory_here _ rfl] at step
    rw [same,loop_running run]
    simpa [running,record,run,present,Proxy.withConnection] using step
  · obtain ⟨numbered,frame⟩ := Proxy.handled_frame round
    refine step_elsewhere found (stored_other _ _ here) ?_ ?_ ?_
    · rw [record_round run present]
      exact withHistory_other here _ _
    · rw [loop_other run here]
      simp [running,Ne.symm here]
    · intro own known
      have apart : own.id ≠ conn.id := by
        rw [keyed _ _ known,keyed _ _ present]
        exact here
      exact ⟨fun seqNum => frame.stash _ seqNum apart,frame.opcodes⟩

private theorem step_sent {result : SendResult} (keyed : world.proxy.Keyed)
    (idle : world.proxy.loop = none) (present : world.proxy.connections other = some conn)
    (polled : conn.polledOutput direction = true)
    (fits : result.count ≤ (conn.buffer direction).bytesParsed)
    (written : writeTo settings direction conn result = .ok (some next))
    (found : (World.mk (world.proxy.withConnection other (some next))
      (world.record settings (.send other direction result))).scene id = some scene) :
    Stepped settings world id (.send other direction result) scene := by
  by_cases here : id = other
  · subst here
    have same := scene_eq found (stored_here world.proxy (some next))
    refine ⟨_,scene_some present,?_⟩
    have step : Scene.Step settings ⟨world.proxy.parser,conn,world.history id,none⟩
        (.send conn.id direction result) _ :=
      .own direction (.sent result next rfl polled fits written)
    rw [keyed _ _ present,← withHistory_here _ rfl] at step
    rw [same,running_idle idle]
    simpa [running,record,present,Proxy.withConnection,idle] using step
  · refine step_beside found rfl (stored_other _ _ here) ?_ rfl
    simp only [record,present]
    exact withHistory_other here _ _

end kinds

/-- What a step of the proxy is for one connection that is open after it. -/
theorem scene_step {scene : Scene} (keyed : world.proxy.Keyed) (enabled : label.Enabled world.proxy)
    (taken : Step settings world label after) (found : after.scene id = some scene) :
    (∃ before, world.scene id = some before ∧ Scene.Step settings before label scene) ∨
      (label = .accept ∧ id = world.proxy.accepted % 2^32 ∧ world.proxy.connections id = none ∧
        scene = Scene.opening world.proxy.parser world.proxy.accepted) := by
  obtain ⟨stepped,recorded⟩ := step_success taken
  obtain ⟨proxy,history⟩ := after
  dsimp only at stepped recorded
  subst recorded
  cases Proxy.step_case enabled stepped with
  | accept idle =>
    rcases step_accept idle found with stepped | opened
    · exact .inl stepped
    · exact .inr ⟨rfl,opened⟩
  | readClosed other direction result conn idle =>
    exact .inl (step_closed found (withHistory_other · _ _) fun _ => running_idle idle)
  | received other direction result conn next idle present polled fits read =>
    exact .inl (step_received keyed idle present polled fits read found)
  | lost loop run absent => exact .inl (step_lost run absent found)
  | finished loop conn next run present round => exact .inl (step_finished run present round found)
  | refused loop conn text run present round =>
    refine .inl (step_closed found (fun different => ?_) (loop_other run))
    rw [record_round run present]
    exact withHistory_other different _ _
  | handled loop conn handler logged run present round =>
    exact .inl (step_handled keyed run present round found)
  | sendClosed other direction result conn idle present =>
    refine .inl (step_closed found (fun different => ?_) fun _ => running_idle idle)
    simp only [record,present]
    exact withHistory_other different _ _
  | sent other direction result conn next idle present polled fits written =>
    exact .inl (step_sent keyed idle present polled fits written found)
  | pollError other idle => exact .inl (step_closed found (fun _ => rfl) fun _ => running_idle idle)

/-- A round of the loop of a connection is a move of its scene. -/
theorem scene_round {scene next : Scene} {direction : Direction} {data : Nat}
    (enabled : Label.Enabled world.proxy .round) (taken : Step settings world .round after)
    (known : world.scene id = some scene) (running : scene.running = some (direction,data))
    (found : after.scene id = some next) : Scene.Move settings direction scene .round next := by
  obtain ⟨stepped,recorded⟩ := step_success taken
  obtain ⟨proxy,history⟩ := after
  dsimp only at stepped recorded
  obtain ⟨present,_,_,run⟩ := scene_found known
  obtain ⟨loop,started,here,same,place⟩ := running_loop (run.symm.trans running)
  rw [Option.mem_def] at started
  subst here same place
  have before := scene_eq known present
  rw [running] at run
  rw [← run] at before
  cases Proxy.step_case enabled stepped with
  | lost other begun absent =>
    rw [started] at begun
    cases begun
    rw [present] at absent
    cases absent
  | finished other conn left begun stored round =>
    rw [started] at begun
    cases begun
    rw [present] at stored
    cases stored
    have same := scene_eq found (stored_here world.proxy (some left))
    have move : Scene.Move settings loop.direction
        ⟨world.proxy.parser,scene.conn,world.history loop.id,some (loop.direction,loop.data)⟩ .round _ :=
      .finished loop.data left rfl round
    rw [← withHistory_here _ rfl] at move
    rw [same,before,recorded]
    simpa [World.running,record,started,present,Proxy.withConnection] using move
  | refused other conn text begun stored round =>
    rw [started] at begun
    cases begun
    exact absurd rfl (closed_elsewhere found)
  | handled other conn handler logged begun stored round =>
    rw [started] at begun
    cases begun
    rw [present] at stored
    cases stored
    have same := scene_eq found (stored_here world.proxy (some logged.conn))
    have move : Scene.Move settings loop.direction
        ⟨world.proxy.parser,scene.conn,world.history loop.id,some (loop.direction,loop.data)⟩ .round _ :=
      .handled loop.data handler logged rfl round
    rw [← withHistory_here _ rfl] at move
    rw [same,before,recorded]
    simpa [World.running,record,started,present,Proxy.withConnection] using move

section runs

variable {predefined : Nat → Option (List UInt8)} {condition : World → Label → Prop}

theorem reached_keyed (reached : World.Reached settings predefined condition world) :
    world.proxy.Keyed := by
  apply Reached.invariant (fun world => world.proxy.Keyed) ?_ ?_ reached
  · rintro world rfl id conn found
    cases found
  · intro world label after keyed allowed taken
    exact Proxy.keyed_step keyed allowed.1 (step_success taken).1

/-- What holds when a connection is opened and is kept by its scene's steps holds in
every scene. -/
theorem scenes_invariant (holds : Scene → Prop)
    (opens : ∀ world, World.Reached settings predefined condition world → condition world .accept →
      holds (.opening world.proxy.parser world.proxy.accepted))
    (preserved : ∀ world label id scene after, World.Reached settings predefined condition world →
      label.Enabled world.proxy → condition world label → world.scene id = some scene →
        holds scene → Scene.Step settings scene label after → holds after)
    (reached : World.Reached settings predefined condition world) {scene : Scene}
    (found : world.scene id = some scene) : holds scene := by
  induction reached generalizing id scene with
  | start initial =>
    subst initial
    cases found
  | next label before given taken ih =>
    rcases scene_step (reached_keyed before) given.1 taken found with
      ⟨earlier,known,step⟩ | ⟨accepting,_,_,opened⟩
    · exact preserved _ label id earlier scene before given.1 given.2 known (ih known) step
    · rw [opened]
      rw [accepting] at given
      exact opens _ before given.2

end runs

end World
end Xtracepp
