import Xtracepp.Dispatch
import Xtracepp.Streams

/-! The name in the table of an extension's major opcode. It is a view into the buffer of
the client whose QueryExtension request gave it, and the table outlives that buffer.
-/
namespace Xtracepp
open Library Library.Outcome Library.Window Library.Runs

namespace ExtensionNames

/-- Whether the characters a view refers to are somewhere, and are this name. -/
def Carries (world : World) (view : StringView) (name : List UInt8) : Prop :=
  ∃ id conn, world.proxy.connections id = some conn ∧
    view.chars conn.clientBuffer.buffer = .ok name

/-- What reading from a socket of the connection that holds the characters may do: it is
not the last read, and what a client sends neither makes its buffer grow nor puts other
bytes where the characters are. -/
def SparesRead (view : StringView) (conn : Connection) (direction : Direction)
    (bytes : List UInt8) : Prop :=
  bytes ≠ [] ∧ (direction = .clientToServer →
    conn.clientBuffer.bytesToRead ≤ conn.clientBuffer.capacity ∧
      ∀ i < view.length, overlay conn.clientBuffer.buffer.cells conn.clientBuffer.bytesRead bytes
        (view.start + i) = conn.clientBuffer.buffer.cells (view.start + i))

def SendResult.Done : SendResult → Prop
  | .failed _ => False
  | .sent _ => True

/-- The steps that leave the characters of a view where they are. -/
def Spares (view : StringView) (world : World) : Xtracepp.Label → Prop
  | .accept => True
  | .receive id direction result => ∀ conn ∈ world.proxy.connections id,
      view.owner = conn.clientBuffer.buffer.owner →
        SparesRead view conn direction (SocketBuffer.arrived result)
  | .round => True
  | .send id _ result => ∀ conn ∈ world.proxy.connections id,
      view.owner = conn.clientBuffer.buffer.owner → SendResult.Done result
  | .pollError id => ∀ conn ∈ world.proxy.connections id,
      view.owner ≠ conn.clientBuffer.buffer.owner

/-- The connection whose client sent the name. -/
structure Home (view : StringView) (conn : Connection) : Prop where
  opened : conn.status = .opened
  shown : view.chars conn.clientBuffer.buffer = .ok bigRequestsName

def Homed (view : StringView) (connections : Nat → Option Connection) : Prop :=
  ∃ id conn, connections id = some conn ∧ Home view conn

section homes

variable {settings : Settings} {view : StringView} {conn next : Connection} {proxy : Proxy}
  {direction : Direction} {parser : X11ProtocolParser} {data : Nat}

theorem chars_success {storage : Storage} {name : List UInt8}
    (ok : view.chars storage = .ok name) :
    view.owner = storage.owner ∧ view.moves = storage.moves ∧
      view.start + view.length ≤ storage.size ∧ name = window storage.cells view.start view.length := by
  unfold StringView.chars at ok
  split at ok
  · rename_i there
    obtain ⟨inside,shown⟩ := Storage.fetch_success ok
    exact ⟨there.1,there.2,inside,shown⟩
  · cases ok

theorem Home.owned (home : Home view conn) : view.owner = conn.clientBuffer.buffer.owner :=
  (chars_success home.shown).1

theorem Home.kept (home : Home view conn) (status : next.status = conn.status)
    (storage : next.clientBuffer.buffer = conn.clientBuffer.buffer) : Home view next := by
  refine ⟨status.trans home.opened,?_⟩
  rw [storage]
  exact home.shown

theorem known_storage {messageSz : Nat} (known : Known settings direction conn data next messageSz) :
    next.clientBuffer.buffer = conn.clientBuffer.buffer := by
  cases direction with
  | clientToServer =>
    have buffer := known.buffer
    change next.clientBuffer = _ at buffer
    rw [buffer]
    rfl
  | serverToClient =>
    have buffer := known.other .clientToServer (by simp)
    change next.clientBuffer = conn.clientBuffer at buffer
    rw [buffer]

/-- No handler writes to the client's buffer. -/
theorem handled_storage {handler : Option Handler} {logged : Logged}
    (round : messageRound settings direction parser conn data = .ok (.handled handler logged)) :
    logged.conn.clientBuffer.buffer = conn.clientBuffer.buffer := by
  obtain ⟨next,messageSz,inner,handling⟩ := handled_left round
  obtain ⟨buffer,mark,left⟩ := handling.left
  have effect := handOver_effect handling.given
  rw [← known_storage handling.known,left]
  cases direction with
  | clientToServer =>
    have kept : inner.conn.clientBuffer = next.clientBuffer := by
      rcases effect.same with kept | ⟨_,server,_⟩
      · exact kept
      · cases server
    obtain ⟨_,mark⟩ := demand_bind_success mark
    obtain ⟨_,mark⟩ := demand_bind_success mark
    cases mark
    change inner.conn.clientBuffer.buffer = next.clientBuffer.buffer
    rw [kept]
  | serverToClient =>
    have kept : inner.conn.clientBuffer = next.clientBuffer :=
      effect.other .clientToServer (by simp)
    change inner.conn.clientBuffer.buffer = next.clientBuffer.buffer
    rw [kept]

theorem Home.handled {handler : Option Handler} {logged : Logged} (home : Home view conn)
    (round : messageRound settings direction parser conn data = .ok (.handled handler logged)) :
    Home view logged.conn := by
  refine home.kept ?_ (handled_storage round)
  obtain ⟨next,messageSz,inner,handling⟩ := handled_left round
  obtain ⟨buffer,_,left⟩ := handling.left
  have same := handling.known.status
  have effect := (handOver_effect handling.given).status
  rw [left,Connection.withBuffer_status,effect,same,home.opened]
  simp

theorem Home.finished (home : Home view conn)
    (round : messageRound settings direction parser conn data = .ok (.finished next)) :
    Home view next := by
  rcases finished_left round with rfl | ⟨messageSz,known,_⟩
  · exact home
  · exact home.kept known.status (known_storage known)

/-- Only a connection that is not open yet is refused. -/
theorem Home.unrefused {text : String} (home : Home view conn)
    (round : messageRound settings direction parser conn data = .ok (.refused text)) : False := by
  cases messageRound_case round with
  | refused text unset measured =>
    have opened := home.opened
    cases direction with
    | clientToServer =>
      simp only [measureMessage,measureClientMessage,opened] at measured
      split at measured
      · cases measured
      · obtain ⟨flag,_,measured⟩ := bind_success measured
        split at measured
        · split at measured
          · cases measured
          · obtain ⟨units,_,measured⟩ := bind_success measured
            cases measured
        · obtain ⟨units,_,measured⟩ := bind_success measured
          cases measured
    | serverToClient =>
      simp only [measureMessage,measureServerMessage,opened] at measured
      split at measured
      · cases measured
      · obtain ⟨first,_,measured⟩ := bind_success measured
        split at measured
        · cases measured
        · split at measured
          · obtain ⟨extra,_,measured⟩ := bind_success measured
            cases measured
          · cases measured

theorem Home.read {result : RecvResult} (home : Home view conn)
    (spared : SparesRead view conn direction (SocketBuffer.arrived result))
    (read : readFrom direction conn result = .ok (some next)) : Home view next := by
  obtain ⟨buffer,left⟩ := readFrom_left read
  have status : next.status = conn.status := by rw [left,Connection.withBuffer_status]
  cases direction with
  | serverToClient =>
    refine home.kept status ?_
    rw [left]
    rfl
  | clientToServer =>
    obtain ⟨enough,same⟩ := spared.2 rfl
    have storage : next.clientBuffer.buffer = { conn.clientBuffer.buffer with
        cells := overlay conn.clientBuffer.buffer.cells conn.clientBuffer.bytesRead
          (SocketBuffer.arrived result) } := (readFrom_storage read).2 enough
    obtain ⟨owner,moves,inside,shown⟩ := chars_success home.shown
    refine ⟨status.trans home.opened,?_⟩
    rw [storage,StringView.chars,if_pos ⟨owner,moves⟩,Storage.fetch,if_pos inside,shown]
    refine congrArg Except.ok (window_congr fun i lower upper => ?_)
    have here := same (i - view.start) (by omega)
    rw [Nat.add_sub_cancel' lower] at here
    exact here

theorem Home.written {result : SendResult} (home : Home view conn)
    (written : writeTo settings direction conn result = .ok (some next)) : Home view next := by
  obtain ⟨buffer,left⟩ := writeTo_left written
  have status : next.status = conn.status := by rw [left,Connection.withBuffer_status]
  refine home.kept status ?_
  cases direction with
  | clientToServer => exact writeTo_storage written
  | serverToClient =>
    rw [left]
    rfl

theorem writeTo_closed {result : SendResult}
    (ended : writeTo settings direction conn result = .ok none) : ¬SendResult.Done result := by
  obtain ⟨⟨buffer,bytesWritten,writeError⟩,written,ended⟩ := bind_success ended
  obtain ⟨_,written⟩ := demand_bind_success written
  cases result with
  | failed reason => exact not_false
  | sent count =>
    obtain ⟨_,written⟩ := demand_bind_success written
    obtain ⟨drained,_,written⟩ := bind_success written
    cases written
    obtain ⟨_,ended⟩ := demand_bind_success ended
    cases ended

theorem Homed.stored {other : Nat} {old new : Connection}
    (homed : Homed view proxy.connections) (present : proxy.connections other = some old)
    (moved : Home view old → Home view new) :
    Homed view (proxy.withConnection other (some new)).connections := by
  obtain ⟨id,conn,found,home⟩ := homed
  by_cases here : id = other
  · subst here
    rw [found] at present
    cases present
    exact ⟨id,new,by simp [Proxy.withConnection],moved home⟩
  · exact ⟨id,conn,by simp [Proxy.withConnection,here,found],home⟩

theorem Homed.removed {other : Nat} (homed : Homed view proxy.connections)
    (away : ∀ old, proxy.connections other = some old → ¬Home view old) :
    Homed view (proxy.closeConnection other).connections := by
  obtain ⟨id,conn,found,home⟩ := homed
  by_cases here : id = other
  · subst here
    exact absurd home (away conn found)
  · exact ⟨id,conn,by simp [Proxy.closeConnection,Proxy.withConnection,here,found],home⟩

/-- One step. -/
theorem Homed.step {world : World} {after : Proxy} {label : Xtracepp.Label}
    (homed : Homed view world.proxy.connections) (spared : Spares view world label)
    (step : Proxy.StepCase settings world.proxy label after) : Homed view after.connections := by
  cases step with
  | accept idle =>
    obtain ⟨id,conn,found,home⟩ := homed
    refine ⟨id,conn,?_,home⟩
    by_cases here : id = world.proxy.accepted % 2^32
    · subst here
      simp only [Proxy.withConnection,if_true,found,Option.some_or]
    · simp only [Proxy.withConnection,here,if_false,found]
  | readClosed id direction result conn idle found polled ended =>
    refine homed.removed fun old present home => ?_
    have read := spared old present home.owned
    rw [found] at present
    cases present
    exact read.1 (readFrom_closed ended)
  | received id direction result conn next idle found polled fits read =>
    exact homed.stored found fun home => home.read (spared conn found home.owned) read
  | lost loop running absent => exact homed
  | finished loop conn next running found round =>
    exact homed.stored found fun home => home.finished round
  | refused loop conn text running found round =>
    refine homed.removed fun old present home => ?_
    rw [found] at present
    cases present
    exact home.unrefused round
  | handled loop conn handler logged running found round =>
    exact homed.stored found fun home => home.handled round
  | sendClosed id direction result conn idle found polled ended =>
    refine homed.removed fun old present home => ?_
    have done := spared old present home.owned
    exact writeTo_closed ended done
  | sent id direction result conn next idle found polled fits written =>
    exact homed.stored found fun home => home.written written
  | pollError id idle =>
    exact homed.removed fun old present home => spared old present home.owned

end homes

section enabling

variable {settings : Settings} {parser : X11ProtocolParser} {conn : Connection} {data : Nat}
  {direction : Direction} {handler : Option Handler} {logged : Logged} {view : StringView}
  {requests : UInt8 → Option RequestOpcodeTraits} {major : UInt8}

/-- Only a reply adds an opcode. -/
theorem runHandler_majors {sz : Nat}
    (ok : runHandler settings parser conn data sz handler = .ok logged)
    (other : handler ≠ some .reply) : logged.parser.majorOpcodes = parser.majorOpcodes := by
  match handler with
  | some .initiation => rw [(logInitiation_success ok).1]
  | some .initResponse =>
    obtain ⟨inner,done,ok⟩ := bind_success ok
    obtain ⟨_,ok⟩ := demand_bind_success ok
    cases ok
    rw [(logInitResponse_success done).1]
  | some .request =>
    obtain ⟨major,minor,request⟩ := logRequest_success ok
    rcases parseRequest_success request.parsed with ⟨_,_,_,name⟩ | ⟨_,_,_,name⟩ | ⟨_,_,kept⟩
    · rw [name.stashed]
      rfl
    · rw [name.stashed]
      rfl
    · rw [kept]
  | some .error =>
    obtain ⟨_,_,_,kept,_⟩ := logError_success ok
    rw [kept]
  | some .reply => exact absurd rfl other
  | some .event => rw [(logEvent_success ok).1]
  | none =>
    cases ok
    rfl

theorem selectHandler_opened (selected : selectHandler direction conn data = .ok (some .reply)) :
    conn.status = .opened := by
  unfold selectHandler at selected
  cases direction with
  | clientToServer => cases status : conn.status <;> simp [status] at selected
  | serverToClient => cases status : conn.status <;> simp [status] at selected ⊢

/-- The connection that the reply came on holds the characters of the name. -/
theorem enabled_home
    (round : messageRound settings direction parser conn data = .ok (.handled handler logged))
    (absent : parser.majorOpcodes major = none)
    (entry : logged.parser.majorOpcodes major = some (.extension view requests)) :
    requests = bigRequestsRequests ∧ Home view logged.conn := by
  obtain ⟨known,sizing,effect⟩ := Dispatch.messageRound_tables round
  obtain ⟨messageSz,same⟩ := sizing_known sizing
  cases effect.majors with
  | same majors =>
    rw [majors,absent] at entry
    cases entry
  | enabled sequence added other stashed shown _ majors =>
    rw [majors] at entry
    dsimp only at entry
    split at entry
    · rename_i here
      subst here
      cases entry
      refine ⟨rfl,?_⟩
      obtain ⟨next,size,inner,handling⟩ := handled_left round
      have opened : conn.status = .opened := by
        obtain ⟨_,given⟩ := demand_bind_success handling.given
        obtain ⟨selected,chosen,given⟩ := bind_success given
        obtain ⟨ran,running,given⟩ := bind_success given
        obtain ⟨_,given⟩ := demand_bind_success given
        cases given
        by_cases reply : handler = some .reply
        · subst reply
          exact handling.known.status.symm.trans (selectHandler_opened chosen)
        · have still := runHandler_majors running reply
          rw [← handling.kept,majors] at still
          have here : some (.extension view bigRequestsRequests) = parser.majorOpcodes major := by
            simpa only [if_true] using congrFun still major
          rw [absent] at here
          cases here
      have home : Home view conn := ⟨opened,by rw [← known_storage same]; exact shown⟩
      exact home.handled round
    · rw [absent] at entry
      cases entry

end enabling

/-- What the table says of an extension from the step on that enabled it. -/
structure Valid (world : World) (major : UInt8) (view : StringView) : Prop where
  entry : world.proxy.parser.majorOpcodes major = some (.extension view bigRequestsRequests)
  named : Carries world view bigRequestsName
  labelled : ∀ minor, ∃ label, Dispatch.requestLabel world.proxy.parser major minor = .ok label ∧
    label.extension = some view ∧
      label.parse = ((bigRequestsRequests minor).elim .unknownRequest fun traits =>
        traits.requestParseFunc)
  core : ∀ code traits, coreRequests code = some traits →
    world.proxy.parser.majorOpcodes code = some traits
  events : world.proxy.parser.eventCodes = coreEvents
  errors : world.proxy.parser.errorCodes = coreErrors

section runs

variable {settings : Settings} {predefined : Nat → Option (List UInt8)} {world enabled after : World}
  {label : Xtracepp.Label} {major : UInt8} {view : StringView}
  {requests : UInt8 → Option RequestOpcodeTraits}

/-- The worlds that are reached from one, with a condition on the steps. -/
def Later (settings : Settings) (condition : World → Xtracepp.Label → Prop) (first : World) :
    World → Prop :=
  Runs.Reached (· = first) (World.Step settings)
    (fun world label => label.Enabled world.proxy ∧ condition world label)

/-- The name that an entry for an extension has. -/
def nameOf : Option MajorOpcodeTraits → Option StringView
  | some (.extension view _) => some view
  | _ => none

theorem nameOf_some {traits : Option MajorOpcodeTraits} (named : nameOf traits = some view) :
    ∃ requests, traits = some (.extension view requests) := by
  match traits with
  | some (.extension other requests) =>
    cases named
    exact ⟨requests,rfl⟩
  | some (.request _) => cases named
  | none => cases named

theorem step_majors (step : Proxy.StepCase settings world.proxy label after.proxy)
    {code : UInt8} {traits : MajorOpcodeTraits}
    (known : world.proxy.parser.majorOpcodes code = some traits) :
    after.proxy.parser.majorOpcodes code = some traits := by
  obtain ⟨proxy,history⟩ := after
  dsimp only at step ⊢
  cases step with
  | handled loop conn handler logged running found round =>
    exact (Proxy.handled_frame round).2.opcodes _ _ known
  | _ => exact known

theorem enabled_homed (given : label.Enabled world.proxy)
    (taken : World.Step settings world label enabled)
    (absent : world.proxy.parser.majorOpcodes major = none)
    (entry : enabled.proxy.parser.majorOpcodes major = some (.extension view requests)) :
    requests = bigRequestsRequests ∧ Homed view enabled.proxy.connections := by
  have step := Proxy.step_case given (World.step_success taken).1
  obtain ⟨proxy,history⟩ := enabled
  dsimp only at step entry ⊢
  cases step with
  | handled loop conn handler logged running found round =>
    obtain ⟨minors,home⟩ := enabled_home round absent entry
    exact ⟨minors,loop.id,logged.conn,by simp [Proxy.withConnection],home⟩
  | _ =>
    have still : world.proxy.parser.majorOpcodes major = some (.extension view requests) := entry
    rw [absent] at still
    cases still

theorem requestLabel_extension {parser : X11ProtocolParser}
    (entry : parser.majorOpcodes major = some (.extension view bigRequestsRequests)) (minor : UInt8) :
    ∃ label, Dispatch.requestLabel parser major minor = .ok label ∧ label.extension = some view ∧
      label.parse = ((bigRequestsRequests minor).elim .unknownRequest fun traits =>
        traits.requestParseFunc) := by
  rw [Dispatch.requestLabel,entry]
  cases found : bigRequestsRequests minor with
  | none =>
    simp only [found]
    exact ⟨_,rfl,rfl,rfl⟩
  | some traits =>
    simp only [found,Dispatch.big_named found,ok_bind]
    exact ⟨_,rfl,rfl,rfl⟩

/-- From the step that enables an extension on, its entry stays valid as long as nothing is
read over its name and the connection that brought it stays. -/
theorem enabled_valid {condition : World → Xtracepp.Label → Prop}
    (reached : World.Reached settings predefined condition world) (given : label.Enabled world.proxy)
    (taken : World.Step settings world label enabled)
    (absent : world.proxy.parser.majorOpcodes major = none)
    (entry : enabled.proxy.parser.majorOpcodes major = some (.extension view requests))
    (later : Later settings (Spares view) enabled after) : Valid after major view := by
  obtain ⟨minors,homed⟩ := enabled_homed given taken absent entry
  subst minors
  have standard : Dispatch.Standard enabled.proxy.parser :=
    Dispatch.step_standard (Proxy.step_case given (World.step_success taken).1)
      (Dispatch.reached_standard reached)
  obtain ⟨entry,homed,standard⟩ : after.proxy.parser.majorOpcodes major =
      some (.extension view bigRequestsRequests) ∧ Homed view after.proxy.connections ∧
        Dispatch.Standard after.proxy.parser := by
    induction later with
    | start first =>
      subst first
      exact ⟨entry,homed,standard⟩
    | next label before allowed taken ih =>
      obtain ⟨entry,homed,standard⟩ := ih
      have step := Proxy.step_case allowed.1 (World.step_success taken).1
      exact ⟨step_majors step entry,homed.step allowed.2 step,Dispatch.step_standard step standard⟩
  obtain ⟨id,conn,found,home⟩ := homed
  exact {
    entry
    named := ⟨id,conn,found,home.shown⟩
    labelled := requestLabel_extension entry
    core := standard.core
    events := standard.events
    errors := standard.errors }

/-- Runs that enable an extension by their round after `first` and go on with `rest`. -/
theorem replayed_enabling (settings : Settings) (predefined : Nat → Option (List UInt8))
    (condition : World → Xtracepp.Label → Prop) [∀ world label, Decidable (condition world label)]
    (holds : World → Prop) [DecidablePred holds] (first rest : List Xtracepp.Label) (major : UInt8)
    (view : StringView)
    (checked : (replay (World.step settings)
      (fun world label => label.Enabled world.proxy ∧ World.Anyhow world label)
        (World.initial predefined) first).any (fun world =>
          decide (Xtracepp.Label.Enabled world.proxy .round) &&
            (world.proxy.parser.majorOpcodes major).isNone &&
              (World.step settings world .round).toOption.any fun enabled =>
                decide (nameOf (enabled.proxy.parser.majorOpcodes major) = some view) &&
                  (replay (World.step settings)
                    (fun world label => label.Enabled world.proxy ∧ condition world label)
                      enabled rest).any fun after => decide (holds after)) = true) :
    ∃ world enabled after requests, World.Reached settings predefined World.Anyhow world ∧
      Xtracepp.Label.Enabled world.proxy .round ∧ World.Step settings world .round enabled ∧
        world.proxy.parser.majorOpcodes major = none ∧
          enabled.proxy.parser.majorOpcodes major = some (.extension view requests) ∧
            Later settings condition enabled after ∧ holds after := by
  cases reached : replay (World.step settings)
      (fun world label => label.Enabled world.proxy ∧ World.Anyhow world label)
        (World.initial predefined) first with
  | none => simp [reached] at checked
  | some world =>
    simp only [reached,Option.any_some,Bool.and_eq_true,decide_eq_true_eq,Option.isNone_iff_eq_none]
      at checked
    obtain ⟨⟨given,absent⟩,checked⟩ := checked
    cases taken : World.step settings world .round with
    | error fault => simp [taken,Except.toOption] at checked
    | ok enabled =>
      simp only [taken,Except.toOption,Option.any_some,Bool.and_eq_true,decide_eq_true_eq] at checked
      obtain ⟨named,checked⟩ := checked
      obtain ⟨requests,entry⟩ := nameOf_some named
      obtain ⟨after,later,held⟩ : ∃ after, Later settings condition enabled after ∧ holds after :=
        replay_check holds (fun _ _ _ taken => taken) rest enabled rfl checked
      exact ⟨world,enabled,after,requests,
        replay_reached (fun _ _ _ taken => taken) first _ world (.start rfl) reached,given,taken,absent,
          entry,later,held⟩

theorem Move.numbered {direction : Direction} {scene next : Scene}
    (move : Scene.Move settings direction scene label next) : next.conn.id = scene.conn.id := by
  cases move with
  | received result conn idle polled fits read =>
    obtain ⟨buffer,rfl⟩ := readFrom_left read
    exact Connection.withBuffer_id _ _ _
  | finished data conn running round =>
    rcases finished_left round with rfl | ⟨messageSz,known,_⟩
    · rfl
    · exact known.id
  | handled data handler logged running round => exact (Proxy.handled_frame round).1
  | sent result conn idle polled fits written =>
    obtain ⟨buffer,rfl⟩ := writeTo_left written
    exact Connection.withBuffer_id _ _ _

/-- A connection's number is that of its buffer. -/
theorem reached_owned {condition : World → Xtracepp.Label → Prop}
    (reached : World.Reached settings predefined condition world) {id : Nat} {conn : Connection}
    (found : world.proxy.connections id = some conn) :
    conn.clientBuffer.buffer.owner % 2^32 = id := by
  have keyed := World.reached_keyed reached id conn found
  rw [← keyed]
  refine World.scenes_invariant (fun scene => scene.conn.serial % 2^32 = scene.conn.id) ?_ ?_ reached
    (World.scene_some found)
  · intro world before given
    rfl
  · intro world label id scene next before enabled given present owned step
    cases step with
    | own direction move => rw [move.serial,Move.numbered move,owned]
    | elsewhere => exact owned

theorem later_reached (reached : World.Reached settings predefined World.Anyhow world)
    (given : label.Enabled world.proxy) (taken : World.Step settings world label enabled)
    (later : Later settings World.Anyhow enabled after) :
    World.Reached settings predefined World.Anyhow after := by
  induction later with
  | start first =>
    subst first
    exact .next label reached ⟨given,trivial⟩ taken
  | next label before allowed taken ih => exact .next label ih allowed taken

end runs

instance (view : StringView) (conn : Connection) (direction : Direction) (bytes : List UInt8) :
    Decidable (SparesRead view conn direction bytes) :=
  inferInstanceAs (Decidable (_ ∧ (_ → _ ∧ _)))

instance (result : SendResult) : Decidable (SendResult.Done result) :=
  match result with
  | .failed _ => inferInstanceAs (Decidable False)
  | .sent _ => inferInstanceAs (Decidable True)

instance (view : StringView) (world : World) (label : Xtracepp.Label) :
    Decidable (Spares view world label) :=
  match label with
  | .accept | .round => inferInstanceAs (Decidable True)
  | .receive _ _ _ | .send _ _ _ => inferInstanceAs (Decidable (∀ conn ∈ _,_ → _))
  | .pollError _ => inferInstanceAs (Decidable (∀ conn ∈ _,_ ≠ _))

/-- A client connects and asks for BIG-REQUESTS, and the reply is read. -/
def asked : List Xtracepp.Label :=
  [.accept,.receive 0 .clientToServer (.received [108,0,11,0,0,0,0,0,0,0,0,0]),.round,.round,
    .send 0 .clientToServer (.sent 12),.receive 0 .serverToClient (.received [1,0,11,0,0,0,0,0]),
    .round,.round,.send 0 .serverToClient (.sent 8),
    .receive 0 .clientToServer (.received ([98,0,5,0,12,0,0,0] ++ bigRequestsName)),.round,.round,
    .send 0 .clientToServer (.sent 20),
    .receive 0 .serverToClient
      (.received ([1,0,1,0,0,0,0,0,1,133,0,0] ++ List.replicate 20 0))]

/-- A short request does not reach the name. -/
theorem enabled_valid_short_request : ∃ after,
    (∃ conn ∈ after.proxy.connections 0,conn.clientBuffer.bytesRead = 4) ∧
      Valid after 133 ⟨0,0,8,12⟩ := by
  obtain ⟨world,enabled,after,requests,reached,given,taken,absent,entry,later,held⟩ :=
    replayed_enabling (.accepting [bigRequestsName] (by simp)) (fun _ => none) (Spares ⟨0,0,8,12⟩)
      (fun after => ∃ conn ∈ after.proxy.connections 0,conn.clientBuffer.bytesRead = 4) asked
      [.round,.send 0 .serverToClient (.sent 32),.receive 0 .clientToServer (.received [43,0,1,0])]
      133 ⟨0,0,8,12⟩ (by decide +kernel)
  exact ⟨after,held,enabled_valid reached given taken absent entry later⟩

/-- The next request of 12 bytes is read over the name, which then is found nowhere. -/
theorem enabled_overwritten : ∃ settings world enabled after requests,
    World.Reached settings (fun _ => none) World.Anyhow world ∧
      Xtracepp.Label.Enabled world.proxy .round ∧ World.Step settings world .round enabled ∧
        world.proxy.parser.majorOpcodes 133 = none ∧
          enabled.proxy.parser.majorOpcodes 133 = some (.extension ⟨0,0,8,12⟩ requests) ∧
            Later settings World.Anyhow enabled after ∧ ¬Carries after ⟨0,0,8,12⟩ bigRequestsName := by
  obtain ⟨world,enabled,after,requests,reached,given,taken,absent,entry,later,held⟩ :=
    replayed_enabling (.accepting [bigRequestsName] (by simp)) (fun _ => none) World.Anyhow
      (fun after => ∃ conn ∈ after.proxy.connections 0,
        StringView.chars ⟨0,0,8,12⟩ conn.clientBuffer.buffer ≠ .ok bigRequestsName) asked
      [.round,.send 0 .serverToClient (.sent 32),
        .receive 0 .clientToServer (.received [127,0,3,0,0,0,0,0,0,0,0,0])]
      133 ⟨0,0,8,12⟩ (by decide +kernel)
  refine ⟨_,world,enabled,after,requests,reached,given,taken,absent,entry,later,?_⟩
  rintro ⟨id,conn,found,shown⟩
  obtain ⟨other,present,different⟩ := held
  have owner : 0 = conn.clientBuffer.buffer.owner := (chars_success shown).1
  have here := reached_owned (later_reached reached given taken later) found
  obtain rfl : id = 0 := by rw [← here,← owner,Nat.zero_mod]
  rw [Option.mem_def,found] at present
  cases present
  exact different shown

end ExtensionNames
end Xtracepp
