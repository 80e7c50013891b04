import Xtracepp.Orderly

/-! Requests and what the server answers to them. The requests of a connection are those that were
handed over, in their order; the others are numbered by the server as by the proxy, modulo 2^16.
A run of the proxy is told here with the requests that the server may still answer.
-/
namespace Xtracepp
open Library Library.Outcome Library.Window Library.Runs Library.Framing

def asked (history : Direction → History) : List (List UInt8) :=
  ((history .clientToServer).handed.filter fun entry => entry.handler = some .request).map Handed.bytes

/-- The opcodes of a request. Only the requests of extensions have a minor opcode. -/
def opcodesOf (request : List UInt8) : RequestOpcodes :=
  ⟨request.getD 0 0,if request.getD 0 0 < 128 then 0 else request.getD 1 0⟩

/-- The number that a response carries. -/
def numberOf (settings : Settings) (byteswap : Bool) (response : List UInt8) : Nat :=
  ordered settings.littleEndian byteswap (slice response 2 2)

/-- Whether more replies follow to the same request. -/
def continued (request response : List UInt8) : Bool :=
  request.getD 0 0 = Opcodes.listFontsWithInfo && response.getD 1 0 != 0

/-- The requests that may still be answered, after a message. The first request is number 1. -/
def settle (requests : List (List UInt8)) (unanswered : List Nat) (choice : Nat) (entry : Handed) :
    List Nat :=
  match entry.handler with
  | some .request => unanswered ++ [requests.length + 1]
  | some .error => unanswered.erase choice
  | some .reply =>
    if continued (requests.getD (choice - 1) []) entry.bytes then unanswered
    else unanswered.erase choice
  | _ => unanswered

namespace Scene

/-- What a step hands over of the messages of a scene. -/
def handing (settings : Settings) (scene : Scene) : Label → List Handed
  | .round =>
    match scene.running with
    | some (direction,data) =>
      (scene.history direction).handedBy settings direction scene.parser scene.conn data
    | none => []
  | _ => []

def settle (settings : Settings) (scene : Scene) (label : Label) (choice : Nat)
    (unanswered : List Nat) : List Nat :=
  match scene.handing settings label with
  | entry :: _ => Xtracepp.settle (asked scene.history) unanswered choice entry
  | [] => unanswered

/-- An error or a reply is the answer to a request that is not answered. -/
def Answers (settings : Settings) (scene : Scene) (label : Label) (choice : Nat)
    (unanswered : List Nat) : Prop :=
  ∀ entry ∈ scene.handing settings label,
    entry.handler = some .error ∨ entry.handler = some .reply →
      choice ∈ unanswered ∧
        numberOf settings scene.conn.byteswap entry.bytes = choice % 2^16

instance (settings : Settings) (scene : Scene) (label : Label) (choice : Nat)
    (unanswered : List Nat) : Decidable (scene.Answers settings label choice unanswered) :=
  inferInstanceAs (Decidable (∀ entry ∈ _,_ → _ ∧ _))

section said

variable {settings : Settings} {direction : Direction} {scene after : Scene} {label : Label}
  {entry : Handed} {data : Nat} {next : Connection} {inner : Logged}

theorem settle_idle (quiet : scene.handing settings label = [])
    (choice : Nat) (unanswered : List Nat) :
    scene.settle settings label choice unanswered = unanswered := by
  rw [Scene.settle,quiet]

theorem handing_some
    (hands : scene.handing settings label ≠ []) :
    label = .round ∧ ∃ place,scene.running = some place := by
  rw [handing.eq_def] at hands
  split at hands
  · split at hands
    · rename_i direction data running
      exact ⟨rfl,⟨direction,data⟩,running⟩
    · exact absurd rfl hands
  · exact absurd rfl hands

/-- A message that a step hands over: its handler, called on its bytes, and what is left of it. -/
structure Said (settings : Settings) (direction : Direction) (scene after : Scene) (entry : Handed)
    (data : Nat) (next : Connection) (inner : Logged) : Prop where
  running : scene.running = some (direction,data)
  known : Known settings direction scene.conn data next entry.bytes.length
  chosen : selectHandler direction next data = .ok entry.handler
  ran : runHandler settings scene.parser next data entry.bytes.length entry.handler = .ok inner
  bytes : entry.bytes = window (scene.conn.buffer direction).buffer.cells data entry.bytes.length
  parser : after.parser = inner.parser
  conn : ∃ buffer,(inner.conn.buffer direction).markMessageParsed = .ok buffer ∧
    after.conn = inner.conn.withBuffer direction buffer
  handed : (after.history direction).handed = (scene.history direction).handed ++ [entry]
  other : ∀ other,other ≠ direction → after.history other = scene.history other

/-- A step that hands no message over. -/
structure Quiet (direction : Direction) (scene after : Scene) : Prop where
  parser : after.parser = scene.parser
  id : after.conn.id = scene.conn.id
  registry : after.conn.requestOpcodesBySeqNum = scene.conn.requestOpcodesBySeqNum
  sequence : after.conn.sequence = scene.conn.sequence
  extensions : after.conn.extensions = scene.conn.extensions
  handed : ∀ other,(after.history other).handed = (scene.history other).handed

theorem Move.said (move : Move settings direction scene label after) :
    (scene.handing settings label = [] ∧ Quiet direction scene after) ∨
      ∃ entry data next inner,scene.handing settings label = [entry] ∧
        Said settings direction scene after entry data next inner := by
  have other {history : History} {side : Direction} (different : side ≠ direction) :
      scene.withHistory direction history side = scene.history side := if_neg different
  have here (history : History) : scene.withHistory direction history direction = history := if_pos rfl
  have kept (history : History) (same : history.handed = (scene.history direction).handed)
      (side : Direction) : (scene.withHistory direction history side).handed =
        (scene.history side).handed := by
    by_cases equal : side = direction
    · subst equal
      rw [here,same]
    · rw [other equal]
  cases move with
  | received result next idle polled fits read =>
    obtain ⟨buffer,rfl⟩ := readFrom_left read
    refine .inl ⟨rfl,rfl,?_,?_,?_,?_,kept _ rfl⟩ <;> cases direction <;> rfl
  | finished data next running round =>
    have nothing : (scene.history direction).handedBy settings direction scene.parser scene.conn data =
        [] := by
      rw [History.handedBy,round]
      rfl
    have quiet : scene.handing settings .round = [] := by
      simp only [handing,running,nothing]
    left
    refine ⟨quiet,?_⟩
    rcases finished_left round with same | ⟨messageSz,known,_⟩
    · subst same
      exact ⟨rfl,rfl,rfl,rfl,rfl,kept _ (by rw [History.round,nothing,List.append_nil])⟩
    · have shape := known.kept
      refine ⟨rfl,known.id,?_,?_,?_,kept _ (by rw [History.round,nothing,List.append_nil])⟩
      all_goals
        dsimp only
        rw [shape]
        cases direction <;> rfl
  | handled data handler logged running round =>
    obtain ⟨next,messageSz,inner,handling⟩ := handled_left round
    obtain ⟨buffer,marked,left⟩ := handling.left
    have size := handling.size
    have given := handling.given
    obtain ⟨_,given⟩ := demand_bind_success given
    obtain ⟨selected,chosen,given⟩ := bind_success given
    obtain ⟨ran,runs,given⟩ := bind_success given
    obtain ⟨_,given⟩ := demand_bind_success given
    cases given
    have pending : (next.buffer direction).messageSize = messageSz := by
      rw [handling.known.buffer,SocketBuffer.messageSize]
    rw [pending] at runs
    have entry : (scene.history direction).handedBy settings direction scene.parser scene.conn data =
        [⟨handler,(scene.history direction).offset (scene.conn.buffer direction) data,
          window (scene.conn.buffer direction).buffer.cells data messageSz⟩] := by
      rw [History.handedBy,round,History.handedOf,size]
    right
    refine ⟨⟨handler,(scene.history direction).offset (scene.conn.buffer direction) data,
      window (scene.conn.buffer direction).buffer.cells data messageSz⟩,data,next,inner,
      by simp only [handing,running,entry],running,?_,chosen,?_,?_,handling.kept,⟨buffer,marked,left⟩,?_,
      fun side different => other different⟩
    · rw [window_length]
      exact handling.known
    · rw [window_length]
      exact runs
    · rw [window_length]
    · dsimp only
      rw [here,History.round,entry]
  | sent result next idle polled fits written =>
    obtain ⟨buffer,rfl⟩ := writeTo_left written
    refine .inl ⟨rfl,rfl,?_,?_,?_,?_,kept _ rfl⟩ <;> cases direction <;> rfl

theorem Said.next_fields (said : Said settings direction scene after entry data next inner) :
    next.id = scene.conn.id ∧
      next.requestOpcodesBySeqNum = scene.conn.requestOpcodesBySeqNum ∧
        next.sequence = scene.conn.sequence ∧ next.extensions = scene.conn.extensions ∧
          ∀ side,(next.buffer side).buffer = (scene.conn.buffer side).buffer := by
  have shape := said.known.kept
  refine ⟨said.known.id,?_,?_,?_,?_⟩
  · rw [shape]
    cases direction <;> rfl
  · rw [shape]
    cases direction <;> rfl
  · rw [shape]
    cases direction <;> rfl
  · intro side
    rw [shape]
    cases direction <;> cases side <;> rfl

theorem Said.after_fields (said : Said settings direction scene after entry data next inner) :
    after.conn.id = inner.conn.id ∧
      after.conn.requestOpcodesBySeqNum = inner.conn.requestOpcodesBySeqNum ∧
        after.conn.sequence = inner.conn.sequence ∧ after.conn.extensions = inner.conn.extensions := by
  obtain ⟨buffer,_,left⟩ := said.conn
  rw [left]
  refine ⟨?_,?_,?_,?_⟩ <;> cases direction <;> rfl

theorem Said.byte (said : Said settings direction scene after entry data next inner) {start : Nat}
    (inside : start < entry.bytes.length) :
    (next.buffer direction).buffer.cells (data + start) = entry.bytes.getD start 0 := by
  obtain ⟨_,_,_,_,storage⟩ := said.next_fields
  rw [List.getD_eq_getElem _ _ inside,storage]
  have bytes := said.bytes
  have same := congrArg (fun items : List UInt8 => items[start]?) bytes
  rw [List.getElem?_eq_getElem inside,List.getElem?_eq_getElem (by rw [window_length]; exact inside),
    window_getElem,Option.some.injEq] at same
  exact same.symm

theorem Said.slice (said : Said settings direction scene after entry data next inner) {start count : Nat}
    (inside : start + count ≤ entry.bytes.length) :
    window (next.buffer direction).buffer.cells (data + start) count =
      Library.Framing.slice entry.bytes start count := by
  obtain ⟨_,_,_,_,storage⟩ := said.next_fields
  rw [storage,said.bytes,Library.Framing.slice,window_drop _ _ _ _ (by omega),
    window_take _ _ _ _ (by omega)]

theorem Said.order (said : Said settings .serverToClient scene after entry data next inner) :
    next.byteswap = scene.conn.byteswap := by
  rcases said.known.origin with ⟨_,_,same⟩ | ⟨_,_,_,_,same⟩
  · exact same
  · exact same (.inr rfl)

theorem asked_other (said : Said settings direction scene after entry data next inner)
    (different : entry.handler ≠ some .request) : asked after.history = asked scene.history := by
  rw [asked,asked]
  by_cases client : direction = .clientToServer
  · subst client
    rw [said.handed,List.filter_append,List.map_append]
    simp [different]
  · rw [said.other _ (Ne.symm client)]

theorem asked_request (said : Said settings .clientToServer scene after entry data next inner)
    (kind : entry.handler = some .request) :
    asked after.history = asked scene.history ++ [entry.bytes] := by
  rw [asked,asked,said.handed,List.filter_append,List.map_append]
  simp [kind]

theorem Said.side (said : Said settings direction scene after entry data next inner) :
    (entry.handler = some .request → direction = .clientToServer) ∧
      (entry.handler = some .reply ∨ entry.handler = some .error → direction = .serverToClient) := by
  have chosen := said.chosen
  unfold selectHandler at chosen
  cases direction with
  | serverToClient =>
    refine ⟨?_,fun _ => rfl⟩
    intro kind
    rw [kind] at chosen
    exfalso
    cases status : next.status <;> simp only [status] at chosen
    case opened =>
      obtain ⟨first,_,chosen⟩ := bind_success chosen
      simp only [pure_ok,Except.ok.injEq,Option.some.injEq] at chosen
      split at chosen
      · cases chosen
      · split at chosen <;> cases chosen
    all_goals
      cases chosen
  | clientToServer =>
    refine ⟨fun _ => rfl,?_⟩
    intro kind
    exfalso
    cases status : next.status <;> simp only [status,pure_ok,Except.ok.injEq] at chosen <;>
      rw [← chosen] at kind <;> simp at kind

theorem Said.request (said : Said settings .clientToServer scene after entry data next inner)
    (kind : entry.handler = some .request) :
    4 ≤ entry.bytes.length ∧ RequestLogged settings scene.parser next data entry.bytes.length inner
      (entry.bytes.getD 0 0) (entry.bytes.getD 1 0) := by
  have ran := said.ran
  rw [kind] at ran
  obtain ⟨major,minor,logged⟩ := logRequest_success ran
  have long := logged.long
  obtain ⟨_,first⟩ := Storage.byte_success logged.first
  obtain ⟨_,second⟩ := Storage.byte_success logged.second
  have read := said.byte (Nat.lt_of_lt_of_le (show 0 < 4 by decide) long)
  have again := said.byte (Nat.lt_of_lt_of_le (show 1 < 4 by decide) long)
  rw [Nat.add_zero] at read
  refine ⟨long,?_⟩
  rw [← read,← again]
  change RequestLogged _ _ _ _ _ _ (next.clientBuffer.buffer.cells data)
    (next.clientBuffer.buffer.cells (data + 1))
  rw [first,second]
  exact logged

theorem Said.number (said : Said settings .serverToClient scene after entry data next inner)
    {number : Nat} (long : 4 ≤ entry.bytes.length)
    (read : next.serverBuffer.buffer.field settings.littleEndian next.byteswap (data + 2) 2 =
      .ok number) : number = numberOf settings scene.conn.byteswap entry.bytes := by
  obtain ⟨_,same⟩ := Storage.field_success read
  rw [same,numberOf,← said.order,← said.slice long]
  rfl

theorem Said.error (said : Said settings .serverToClient scene after entry data next inner)
    (kind : entry.handler = some .error) : inner.parser = scene.parser ∧
      inner.conn = next.unregisterRequest (numberOf settings scene.conn.byteswap entry.bytes) := by
  have ran := said.ran
  rw [kind] at ran
  have long := (demand_bind_success ran).1
  obtain ⟨number,_,read,parser,conn⟩ := logError_success ran
  rw [said.number (by omega) read] at conn
  exact ⟨parser,conn⟩

theorem Said.aside (said : Said settings direction scene after entry data next inner)
    (request : entry.handler ≠ some .request) (reply : entry.handler ≠ some .reply)
    (error : entry.handler ≠ some .error) :
    inner.parser = scene.parser ∧ ∃ status,inner.conn = { next with status } := by
  have ran := said.ran
  cases kind : entry.handler with
  | none =>
    rw [kind] at ran
    cases ran
    exact ⟨rfl,next.status,rfl⟩
  | some handler =>
    rw [kind] at ran
    cases handler with
    | initiation =>
      obtain ⟨parser,conn⟩ := logInitiation_success ran
      exact ⟨parser,next.status,conn⟩
    | initResponse =>
      obtain ⟨logged,done,ran⟩ := bind_success ran
      obtain ⟨_,ran⟩ := demand_bind_success ran
      cases ran
      exact logInitResponse_success done
    | request => exact absurd kind request
    | error => exact absurd kind error
    | reply => exact absurd kind reply
    | event =>
      obtain ⟨parser,conn⟩ := logEvent_success ran
      exact ⟨parser,next.status,conn⟩

theorem Said.reply (said : Said settings .serverToClient scene after entry data next inner)
    (kind : entry.handler = some .reply) :
    32 ≤ entry.bytes.length ∧ ∃ parsed opcodes func,
      ReplyLogged settings scene.parser next data entry.bytes.length inner parsed
        (numberOf settings scene.conn.byteswap entry.bytes) opcodes func (entry.bytes.getD 1 0) := by
  have ran := said.ran
  rw [kind] at ran
  have long := (demand_bind_success ran).1
  obtain ⟨parsed,number,opcodes,func,last,logged⟩ := logReply_success ran
  have read := said.number (by omega) logged.numbered
  obtain ⟨_,same⟩ := Storage.byte_success logged.last
  have again := said.byte (Nat.lt_of_lt_of_le (show 1 < 32 by decide) long)
  rw [← read,← again]
  change 32 ≤ entry.bytes.length ∧ ∃ parsed opcodes func,ReplyLogged _ _ _ _ _ _ _ number _ _
    (next.serverBuffer.buffer.cells (data + 1))
  rw [same]
  exact ⟨long,parsed,opcodes,func,logged⟩

end said

end Scene

/-- A world with the requests of each connection that may still be answered. -/
structure Talk where
  world : World
  unanswered : Nat → List Nat

namespace Talk

variable {settings : Settings}

def initial (predefined : Nat → Option (List UInt8)) : Talk := ⟨World.initial predefined,fun _ => []⟩

/-- A step of the proxy. A number comes with it: the request that a response is for. -/
def step (settings : Settings) (talk : Talk) (label : Label × Nat) : Checked Talk := do
  let world ← talk.world.step settings label.1
  return {
    world
    unanswered := fun id =>
      match talk.world.scene id with
      | some scene => scene.settle settings label.1 label.2 (talk.unanswered id)
      | none => [] }

def Step (settings : Settings) (talk : Talk) (label : Label × Nat) (after : Talk) : Prop :=
  talk.step settings label = .ok after

/-- A condition on what a step does to the connection whose messages are logged. -/
def Where (condition : Scene → Label → Nat → List Nat → Prop) (talk : Talk) (label : Label × Nat) :
    Prop :=
  ∀ loop ∈ talk.world.proxy.loop,∀ scene ∈ talk.world.scene loop.id,
    condition scene label.1 label.2 (talk.unanswered loop.id)

instance (condition : Scene → Label → Nat → List Nat → Prop)
    [∀ scene label choice unanswered,Decidable (condition scene label choice unanswered)]
    (talk : Talk) (label : Label × Nat) : Decidable (Where condition talk label) :=
  inferInstanceAs (Decidable (∀ loop ∈ _,∀ scene ∈ _,_))

/-- The talks that runs reach in which the server answers requests that are not answered, and every
step meets the condition. -/
def Reached (settings : Settings) (predefined : Nat → Option (List UInt8))
    (condition : Talk → Label × Nat → Prop) : Talk → Prop :=
  Runs.Reached (· = initial predefined) (Step settings)
    fun talk label => label.1.Enabled talk.world.proxy ∧
      Where (Scene.Answers settings) talk label ∧ condition talk label

section runs

variable {predefined : Nat → Option (List UInt8)} {condition : Talk → Label × Nat → Prop}
  {talk after : Talk} {label : Label × Nat} {id : Nat}

/-- No condition on the steps but that the server answers requests. -/
def Anyhow (_ : Talk) (_ : Label × Nat) : Prop := True

instance (talk : Talk) (label : Label × Nat) : Decidable (Anyhow talk label) :=
  inferInstanceAs (Decidable True)

theorem replayed (settings : Settings) (predefined : Nat → Option (List UInt8))
    (condition : Talk → Label × Nat → Prop) [∀ talk label,Decidable (condition talk label)]
    (holds : Talk → Prop) [DecidablePred holds] (labels : List (Label × Nat))
    (checked : (replay (Talk.step settings)
      (fun talk label => label.1.Enabled talk.world.proxy ∧
        Where (Scene.Answers settings) talk label ∧ condition talk label)
          (initial predefined) labels).any (fun talk => decide (holds talk)) = true) :
    ∃ talk,Reached settings predefined condition talk ∧ holds talk :=
  replay_check holds (fun _ _ _ taken => taken) labels _ rfl checked

theorem step_success (taken : Step settings talk label after) :
    World.Step settings talk.world label.1 after.world ∧ ∀ id,after.unanswered id =
      match talk.world.scene id with
      | some scene => scene.settle settings label.1 label.2 (talk.unanswered id)
      | none => [] := by
  obtain ⟨world,stepped,rest⟩ := bind_success taken
  cases rest
  exact ⟨stepped,fun _ => rfl⟩

theorem reached_world (reached : Reached settings predefined condition talk) :
    World.Reached settings predefined World.Anyhow talk.world := by
  induction reached with
  | start initial =>
    subst initial
    exact .start rfl
  | next label before given taken ih => exact .next label.1 ih ⟨given.1,trivial⟩ (step_success taken).1

theorem Where.move {holds : Scene → Label → Nat → List Nat → Prop} (given : Where holds talk label)
    {scene : Scene} {direction : Direction} {data : Nat} (known : talk.world.scene id = some scene)
    (running : scene.running = some (direction,data)) :
    holds scene label.1 label.2 (talk.unanswered id) := by
  obtain ⟨_,_,_,run⟩ := World.scene_found known
  rw [running,World.running] at run
  cases started : talk.world.proxy.loop with
  | none => simp [started] at run
  | some loop =>
    simp only [started,Option.bind_some] at run
    split at run
    · rename_i here
      subst here
      exact given loop started scene known
    · cases run

/-- What holds when a connection is opened, and is kept by its own moves and by what the others do,
holds in every scene. -/
theorem invariant (holds : Scene → List Nat → Prop)
    (opens : ∀ talk choice,Reached settings predefined condition talk →
      condition talk (.accept,choice) →
        holds (.opening talk.world.proxy.parser talk.world.proxy.accepted) [])
    (moves : ∀ talk label id scene after direction,Reached settings predefined condition talk →
      label.1.Enabled talk.world.proxy → Where (Scene.Answers settings) talk label →
        condition talk label → talk.world.scene id = some scene → holds scene (talk.unanswered id) →
          Scene.Move settings direction scene label.1 after →
            holds after (scene.settle settings label.1 label.2 (talk.unanswered id)))
    (elsewhere : ∀ scene parser unanswered,
      (∀ seqNum,parser.stashedStrings scene.conn.id seqNum =
        scene.parser.stashedStrings scene.conn.id seqNum) →
      (∀ code traits,scene.parser.majorOpcodes code = some traits →
        parser.majorOpcodes code = some traits) →
          holds scene unanswered → holds { scene with parser } unanswered)
    (reached : Reached settings predefined condition talk) {scene : Scene}
    (found : talk.world.scene id = some scene) : holds scene (talk.unanswered id) := by
  induction reached generalizing id scene with
  | start initial =>
    subst initial
    cases found
  | next label before given taken ih =>
    rename_i talk after
    obtain ⟨stepped,settled⟩ := step_success taken
    rw [settled id]
    have keyed := World.reached_keyed (reached_world before)
    rcases World.scene_step keyed given.1 stepped found with
      ⟨earlier,known,step⟩ | ⟨accepting,_,absent,opened⟩
    · rw [known]
      have held := ih known
      cases step with
      | own direction move =>
        exact moves talk label id earlier scene direction before given.1 given.2.1 given.2.2 known held
          move
      | elsewhere parser stash opcodes =>
        by_cases quiet : earlier.handing settings label.1 = []
        · dsimp only
          rw [Scene.settle_idle quiet]
          exact elsewhere earlier parser _ stash opcodes held
        · obtain ⟨round,place,running⟩ := Scene.handing_some quiet
          have enabled := given.1
          rw [round] at enabled stepped
          have move := World.scene_round enabled stepped known running found
          rw [← round] at move
          exact moves talk label id earlier _ place.1 before given.1 given.2.1 given.2.2 known held move
    · have none : talk.world.scene id = none := by
        simp [World.scene,absent]
      rw [none,opened]
      obtain ⟨acting,choice⟩ := label
      dsimp only at accepting
      subst accepting
      exact opens talk choice before given.2.2

end runs

end Talk
end Xtracepp
