import Xtracepp.Pending
import Xtracepp.Forwarding

/-! Which extensions a client is told of. A talk is followed with what was told by the replies to
QueryExtension: where in the stream of the server one was about a denied extension, and which major
opcodes came for an allowed one that is present. The stream that is sent on is the server's with just
these places cleared, and just these opcodes are added to the table.
-/
namespace Xtracepp
open Library Library.Outcome Library.Window Library.Runs Library.Framing

namespace Scene

variable {settings : Settings} {direction : Direction} {scene after : Scene} {label : Label}
  {entry : Handed} {data : Nat} {next : Connection} {inner : Logged} {unanswered : List Nat}
  {choice : Nat}

/-- The replies to QueryExtension that a step hands over. -/
def queried (settings : Settings) (scene : Scene) (label : Label) (choice : Nat) : List Handed :=
  (scene.handing settings label).filter fun entry => entry.handler = some .reply ∧
    (scene.requestAt choice).getD 0 0 = Opcodes.queryExtension

/-- Whether the extension that a request asks for is denied. -/
def refuses (settings : Settings) (scene : Scene) (choice : Nat) : Bool :=
  settings.extensionDenied (nameIn settings scene.conn.byteswap (scene.requestAt choice))

/-- Where a reply tells that a denied extension is present. -/
def deniedPlaces (settings : Settings) (scene : Scene) (label : Label) (choice : Nat) : List Nat :=
  if scene.refuses settings choice then
    (scene.queried settings label choice).map fun entry => entry.offset + 8
  else []

/-- The major opcode of an allowed extension that is present. -/
def grantedMajors (settings : Settings) (scene : Scene) (label : Label) (choice : Nat) : List UInt8 :=
  if scene.refuses settings choice then []
  else ((scene.queried settings label choice).filter fun entry => entry.bytes.getD 8 0 ≠ 0).map
    fun entry => entry.bytes.getD 9 0

theorem queried_nil (none : ∀ entry ∈ scene.handing settings label,entry.handler ≠ some .reply) :
    scene.queried settings label choice = [] := by
  apply List.filter_eq_nil_iff.mpr
  intro entry member both
  exact none entry member (of_decide_eq_true both).1

theorem queried_one (handing : scene.handing settings label = [entry])
    (kind : entry.handler = some .reply)
    (asks : (scene.requestAt choice).getD 0 0 = Opcodes.queryExtension) :
    scene.queried settings label choice = [entry] := by
  rw [queried,handing]
  exact List.filter_cons_of_pos (decide_eq_true ⟨kind,asks⟩)

theorem queried_other (asks : (scene.requestAt choice).getD 0 0 ≠ Opcodes.queryExtension) :
    scene.queried settings label choice = [] := by
  apply List.filter_eq_nil_iff.mpr
  intro entry member both
  exact asks (of_decide_eq_true both).2

theorem denied_nil (none : scene.queried settings label choice = []) :
    scene.deniedPlaces settings label choice = [] := by
  rw [deniedPlaces,none]
  split <;> rfl

theorem granted_nil (none : scene.queried settings label choice = []) :
    scene.grantedMajors settings label choice = [] := by
  rw [grantedMajors,none]
  split <;> rfl

theorem granted_one (handing : scene.handing settings label = [entry])
    (kind : entry.handler = some .reply)
    (asks : (scene.requestAt choice).getD 0 0 = Opcodes.queryExtension) (major : UInt8) :
    major ∈ scene.grantedMajors settings label choice ↔
      (scene.refuses settings choice = false ∧ entry.bytes.getD 8 0 ≠ 0) ∧
        major = entry.bytes.getD 9 0 := by
  rw [grantedMajors,queried_one handing kind asks]
  cases refused : scene.refuses settings choice with
  | true => simp
  | false => by_cases absent : entry.bytes.getD 8 0 = 0 <;> simp_all

/-- What a reply does beside the stash, told by the request it answers. -/
inductive Reported (settings : Settings) (scene : Scene) (choice : Nat) (entry : Handed) (data : Nat)
    (next : Connection) (inner : Logged) : Prop
  | query (view : StringView)
      (asks : (scene.requestAt choice).getD 0 0 = Opcodes.queryExtension)
      (buffer : inner.conn.serverBuffer =
        if scene.refuses settings choice = true then next.serverBuffer.patched (data + 8)
        else next.serverBuffer)
      (majors : inner.parser.majorOpcodes = fun other =>
        if (scene.refuses settings choice = false ∧ entry.bytes.getD 8 0 ≠ 0) ∧
            other = entry.bytes.getD 9 0 then
          (scene.parser.majorOpcodes other).or (some (.extension view bigRequestsRequests))
        else scene.parser.majorOpcodes other)
  | other (asks : (scene.requestAt choice).getD 0 0 ≠ Opcodes.queryExtension)
      (buffer : inner.conn.serverBuffer = next.serverBuffer)
      (majors : inner.parser.majorOpcodes = scene.parser.majorOpcodes)

theorem Intact.reported (intact : Intact settings scene unanswered)
    (standard : Dispatch.Standard scene.parser)
    (said : Said settings .serverToClient scene after entry data next inner)
    (kind : entry.handler = some .reply) (member : choice ∈ unanswered)
    (number : numberOf settings scene.conn.byteswap entry.bytes = choice % 2^16) :
    Reported settings scene choice entry data next inner := by
  obtain ⟨long,parsed,opcodes,func,replied⟩ := said.reply kind
  obtain ⟨id,registry,_,_,storage⟩ := said.next_fields
  have looked : scene.conn.requestOpcodesBySeqNum (choice % 2^16) = some opcodes := by
    have found := replied.looked
    rw [Connection.lookupRequest,registry,number] at found
    split at found
    · rename_i opcodes_ here
      cases found
      exact here
    · cases found
  have queries := (replyParseFunc_named standard replied.chosen).2
  have buffer : inner.conn.serverBuffer = parsed.conn.serverBuffer := by
    rw [replied.conn]
    split <;> rfl
  have byte (start : Nat) (inside : start < 32) :
      next.serverBuffer.buffer.cells (data + start) = entry.bytes.getD start 0 :=
    said.byte (Nat.lt_of_lt_of_le inside long)
  by_cases asks : (scene.requestAt choice).getD 0 0 = Opcodes.queryExtension
  · have carries : named (scene.requestAt choice) = true := by
      rw [named,asks]
      rfl
    have holds := intact.kept choice member carries
    obtain ⟨view,entry_,shown⟩ := holds.shown
    rw [holds.registered,asks] at looked
    cases looked
    have func_ := queries.mpr rfl
    rcases parseReply_success replied.called with
      ⟨here,_⟩ | ⟨_,_,turn,other,name,query⟩ | ⟨_,here,_⟩
    · rw [func_] at here
      cases here
    · have same := (said.number (by omega) query.numbered).trans number
      have found := query.entry
      rw [id,same,entry_] at found
      cases found
      have told := query.shown
      have cells : next.clientBuffer.buffer = scene.conn.clientBuffer.buffer := storage .clientToServer
      rw [cells,shown] at told
      cases told
      refine .query view asks (buffer.trans (by rw [query.left]; rfl)) ?_
      rw [replied.parser,query.reported,byte 8 (by decide),byte 9 (by decide)]
      funext other
      simp only [X11ProtocolParser.reported,X11ProtocolParser.withStash,refuses,Bool.and_eq_true,
        Bool.not_eq_true',decide_eq_true_eq]
      exact ite_congr rfl (fun _ => rfl) (fun _ => rfl)
    · exact absurd func_ here
  · have other : func ≠ .queryExtension := by
      intro query
      obtain ⟨old,another,same,opened⟩ := intact.originated.origin _ _ looked
      have first := queries.mp query
      rw [opened] at first
      change (scene.requestAt old).getD 0 0 = _ at first
      have carries : named (scene.requestAt old) = true := by
        rw [named,first]
        rfl
      have chosen := intact.apart old another carries choice member same.symm
      rw [chosen] at asks
      exact asks first
    rcases parseReply_success replied.called with ⟨_,turn,atom,interned⟩ | ⟨here,_⟩ | ⟨_,_,kept,left⟩
    · refine .other asks (buffer.trans (by rw [interned.kept])) ?_
      rw [replied.parser]
      by_cases zero : atom = 0
      · rw [interned.unnamed zero]
      · obtain ⟨_,_,_,_,left⟩ := interned.named zero
        rw [left]
        rfl
    · exact absurd here other
    · refine .other asks (buffer.trans ?_) (by rw [replied.parser,kept])
      rcases left with same | enabled
      · rw [same]
      · rw [enabled]
        rfl

/-- The table has an entry of an extension. -/
def Extended (parser : X11ProtocolParser) (major : UInt8) : Prop :=
  ∃ view requests,parser.majorOpcodes major = some (.extension view requests)

theorem Intact.extended (intact : Intact settings scene unanswered)
    (standard : Dispatch.Standard scene.parser) (move : Move settings direction scene label after)
    (answers : scene.Answers settings label choice unanswered) (major : UInt8) :
    Extended after.parser major ↔ Extended scene.parser major ∨
      (coreRequests major = none ∧ major ∈ scene.grantedMajors settings label choice) := by
  -- nothing is told of extensions
  have silent (nobody : scene.queried settings label choice = [])
      (majors : after.parser.majorOpcodes = scene.parser.majorOpcodes) :
      Extended after.parser major ↔ Extended scene.parser major ∨
        (coreRequests major = none ∧ major ∈ scene.grantedMajors settings label choice) := by
    rw [granted_nil nobody,Extended,majors]
    simp [Extended]
  rcases move.said with ⟨nothing,quiet⟩ | ⟨entry,data,next,inner,handing,said⟩
  · apply silent _ (by rw [quiet.parser])
    rw [queried,nothing]
    rfl
  · by_cases kind : entry.handler = some .reply
    · have server := said.side.2 (.inl kind)
      subst server
      obtain ⟨member,number⟩ :=
        answers entry (by rw [handing]; exact List.mem_singleton.mpr rfl) (.inr kind)
      cases intact.reported standard said kind member number with
      | other asks buffer majors =>
        exact silent (queried_other asks) (by rw [said.parser,majors])
      | query view asks buffer majors =>
        rw [granted_one handing kind asks,Extended,said.parser,majors]
        dsimp only
        by_cases told : (scene.refuses settings choice = false ∧ entry.bytes.getD 8 0 ≠ 0) ∧
            major = entry.bytes.getD 9 0
        · rw [if_pos told]
          cases core : coreRequests major with
          | some traits =>
            rw [Extended,standard.core _ traits core]
            simp
          | none =>
            rcases standard.other _ core with absent | ⟨other,added⟩
            · rw [absent,Option.none_or]
              exact ⟨fun _ => .inr ⟨rfl,told⟩,fun _ => ⟨view,_,rfl⟩⟩
            · rw [added,Option.some_or]
              exact ⟨fun _ => .inl ⟨other,_,added⟩,fun _ => ⟨other,_,rfl⟩⟩
        · rw [if_neg told]
          exact ⟨.inl,fun either => either.resolve_right fun both => told both.2⟩
    · apply silent (queried_nil _)
      · rw [said.parser]
        exact ExtensionNames.runHandler_majors said.ran kind
      · intro other member
        rw [handing,List.mem_singleton] at member
        rw [member]
        exact kind

/-- What is sent on and held of the server's stream: all of it, with the denied places cleared. -/
structure Screened (scene : Scene) (denied : List Nat) : Prop where
  placed : Placed .serverToClient scene
  bound : ∀ place ∈ denied,place < ((scene.history .serverToClient).received).length
  stream : scene.stream .serverToClient = mask 0 denied (scene.history .serverToClient).received

theorem Screened.opening (parser : X11ProtocolParser) (serial : Nat) :
    Screened (Scene.opening parser serial) [] := by
  obtain ⟨placed,nothing⟩ := @Placed.opening .serverToClient parser serial
  refine ⟨placed,?_,?_⟩
  · intro place member
    cases member
  · rw [nothing,mask_nil]
    rfl

theorem Screened.move {denied : List Nat} (screened : Screened scene denied)
    (intact : Intact settings scene unanswered) (standard : Dispatch.Standard scene.parser)
    (move : Move settings direction scene label after)
    (answers : scene.Answers settings label choice unanswered) :
    Screened after (denied ++ scene.deniedPlaces settings label choice) := by
  have bound := screened.bound
  have length := congrArg List.length screened.stream
  rw [mask_length] at length
  -- nothing is told of extensions
  have silent (none : ∀ entry ∈ scene.handing settings label,entry.handler ≠ some .reply)
      (placed : Placed .serverToClient after) (bytes : List UInt8)
      (received : (after.history .serverToClient).received =
        (scene.history .serverToClient).received ++ bytes)
      (stream : after.stream .serverToClient = scene.stream .serverToClient ++ bytes) :
      Screened after (denied ++ scene.deniedPlaces settings label choice) := by
    rw [denied_nil (queried_nil none),List.append_nil]
    refine ⟨placed,?_,?_⟩
    · intro place member
      rw [received,List.length_append]
      exact Nat.lt_of_lt_of_le (bound place member) (Nat.le_add_right _ _)
    · rw [stream,received,screened.stream,mask_append 0 bound]
  by_cases server : Direction.serverToClient = direction
  · subst server
    obtain ⟨placed,flow⟩ := screened.placed.move move
    cases flow with
    | quiet bytes nothing received stream handed =>
      apply silent _ placed bytes received stream
      intro entry member
      rw [nothing] at member
      cases member
    | message entry data next inner handing said received inside kept changed =>
      by_cases kind : entry.handler = some .reply
      · obtain ⟨member,number⟩ :=
          answers entry (by rw [handing]; exact List.mem_singleton.mpr rfl) (.inr kind)
        have long := (said.reply kind).1
        cases intact.reported standard said kind member number with
        | query view asks buffer majors =>
          rw [deniedPlaces,queried_one handing kind asks]
          by_cases refused : scene.refuses settings choice = true
          · rw [if_pos refused] at buffer ⊢
            refine ⟨placed,?_,?_⟩
            · intro place member
              rw [received]
              rcases List.mem_append.mp member with old | new_
              · exact bound place old
              · rw [List.map_cons,List.map_nil,List.mem_singleton] at new_
                omega
            · rw [changed buffer,received,screened.stream]
              exact (mask_set _ _ _ _).symm
          · rw [if_neg refused] at buffer ⊢
            rw [List.append_nil]
            refine ⟨placed,by rw [received]; exact bound,?_⟩
            rw [kept buffer,received,screened.stream]
        | other asks buffer majors =>
          rw [denied_nil (queried_other asks),List.append_nil]
          refine ⟨placed,by rw [received]; exact bound,?_⟩
          rw [kept buffer,received,screened.stream]
      · apply silent _ placed [] (by rw [received,List.append_nil])
        · rw [List.append_nil]
          apply kept
          exact said.written.resolve_right fun here => kind here.1
        · intro other member
          rw [handing,List.mem_singleton] at member
          rw [member]
          exact kind
  · have aside := move.aside server
    obtain ⟨placed,stream⟩ := screened.placed.aside aside
    apply silent _ placed [] (by rw [aside.history,List.append_nil]) (by rw [stream,List.append_nil])
    intro entry member reply
    rcases move.said with ⟨nothing,_⟩ | ⟨other,_,_,_,handing,said⟩
    · rw [nothing] at member
      cases member
    · rw [handing,List.mem_singleton] at member
      subst member
      exact server (said.side.2 (.inl reply)).symm

end Scene
namespace Talk

variable {settings : Settings} {talk after : Talk} {label : Label × Nat} {id : Nat} {scene : Scene}

/-- What a step of a talk is for one connection that is open after it. -/
inductive Turn (settings : Settings) (talk : Talk) (label : Label × Nat) (id : Nat) (scene : Scene) :
    Prop
  | moved (earlier : Scene) (direction : Direction) (known : talk.world.scene id = some earlier)
      (move : Scene.Move settings direction earlier label.1 scene)
  | aside (earlier : Scene) (parser : X11ProtocolParser) (known : talk.world.scene id = some earlier)
      (quiet : earlier.handing settings label.1 = []) (same : scene = { earlier with parser })
  | opened (none : talk.world.scene id = none)
      (fresh : scene = Scene.opening talk.world.proxy.parser talk.world.proxy.accepted)

theorem step_turn (keyed : talk.world.proxy.Keyed) (enabled : label.1.Enabled talk.world.proxy)
    (taken : Step settings talk label after) (found : after.world.scene id = some scene) :
    Turn settings talk label id scene := by
  have stepped := (step_success taken).1
  rcases World.scene_step keyed enabled stepped found with
    ⟨earlier,known,step⟩ | ⟨_,_,absent,opened⟩
  · cases step with
    | own direction move => exact .moved earlier direction known move
    | elsewhere parser stash opcodes =>
      by_cases quiet : earlier.handing settings label.1 = []
      · exact .aside earlier parser known quiet rfl
      · obtain ⟨round,place,running⟩ := Scene.handing_some quiet
        rw [round] at enabled stepped
        have move := World.scene_round enabled stepped known running found
        rw [← round] at move
        exact .moved earlier place.1 known move
  · exact .opened (by simp [World.scene,absent]) opened

end Talk

/-- A talk with the places in the streams of servers where a denied extension was told of, and the
major opcodes of the allowed ones that are present. -/
structure Screening where
  talk : Talk
  denied : Nat → List Nat
  granted : List UInt8

namespace Screening

variable {settings : Settings} {predefined : Nat → Option (List UInt8)}
  {screening after : Screening} {label : Label × Nat} {id : Nat} {scene : Scene}

def initial (predefined : Nat → Option (List UInt8)) : Screening :=
  ⟨Talk.initial predefined,fun _ => [],[]⟩

/-- The connection whose messages are logged. -/
def current (screening : Screening) : Option Scene :=
  screening.talk.world.proxy.loop.bind fun loop => screening.talk.world.scene loop.id

def step (settings : Settings) (screening : Screening) (label : Label × Nat) : Checked Screening := do
  let talk ← screening.talk.step settings label
  return {
    talk
    denied := fun id =>
      match screening.talk.world.scene id with
      | some scene => screening.denied id ++ scene.deniedPlaces settings label.1 label.2
      | none => []
    granted := screening.granted ++
      match screening.current with
      | some scene => scene.grantedMajors settings label.1 label.2
      | none => [] }

def Step (settings : Settings) (screening : Screening) (label : Label × Nat) (after : Screening) : Prop :=
  screening.step settings label = .ok after

/-- Guarded runs of talks. -/
def Reached (settings : Settings) (predefined : Nat → Option (List UInt8)) : Screening → Prop :=
  Runs.Reached (· = initial predefined) (Step settings)
    fun screening label => label.1.Enabled screening.talk.world.proxy ∧
      Talk.Where (Scene.Answers settings) screening.talk label ∧
        Talk.Guarded settings screening.talk label

theorem replayed (settings : Settings) (predefined : Nat → Option (List UInt8))
    (holds : Screening → Prop) [DecidablePred holds] (labels : List (Label × Nat))
    (checked : (replay (Screening.step settings)
      (fun screening label => label.1.Enabled screening.talk.world.proxy ∧
        Talk.Where (Scene.Answers settings) screening.talk label ∧
          Talk.Guarded settings screening.talk label) (initial predefined) labels).any
            (fun screening => decide (holds screening)) = true) :
    ∃ screening,Reached settings predefined screening ∧ holds screening :=
  replay_check holds (fun _ _ _ taken => taken) labels _ rfl checked

theorem step_success (taken : Step settings screening label after) :
    Talk.Step settings screening.talk label after.talk ∧
      (∀ id,after.denied id =
        match screening.talk.world.scene id with
        | some scene => screening.denied id ++ scene.deniedPlaces settings label.1 label.2
        | none => []) ∧
      after.granted = screening.granted ++
        match screening.current with
        | some scene => scene.grantedMajors settings label.1 label.2
        | none => [] := by
  obtain ⟨talk,stepped,rest⟩ := bind_success taken
  cases rest
  exact ⟨stepped,fun _ => rfl,rfl⟩

theorem reached_talk (reached : Reached settings predefined screening) :
    Talk.Reached settings predefined (Talk.Guarded settings) screening.talk := by
  induction reached with
  | start initial =>
    subst initial
    exact .start rfl
  | next label before given taken ih => exact .next label ih given (step_success taken).1

theorem standard (reached : Reached settings predefined screening)
    (known : screening.talk.world.scene id = some scene) : Dispatch.Standard scene.parser := by
  rw [(World.scene_found known).2.1]
  exact Dispatch.reached_standard (Talk.reached_world (reached_talk reached))

theorem reached_screened (reached : Reached settings predefined screening)
    (found : screening.talk.world.scene id = some scene) : scene.Screened (screening.denied id) := by
  induction reached generalizing id scene with
  | start initial =>
    subst initial
    cases found
  | next label before given taken ih =>
    rename_i screening after
    obtain ⟨stepped,denied,_⟩ := step_success taken
    have talked := reached_talk before
    have keyed := World.reached_keyed (Talk.reached_world talked)
    rw [denied id]
    cases Talk.step_turn keyed given.1 stepped found with
    | moved earlier direction known move =>
      have intact := Talk.reached_intact (fun _ _ given => given) talked known
      rw [known]
      exact (ih known).move intact (standard before known) move (given.2.1.answers known)
    | aside earlier parser known quiet same =>
      obtain ⟨placed,bound,stream⟩ := ih known
      rw [known]
      dsimp only
      rw [Scene.denied_nil (Scene.queried_nil (by
        intro entry member
        rw [quiet] at member
        cases member)),List.append_nil,same]
      exact ⟨⟨placed.sound,placed.within⟩,bound,stream⟩
    | opened none fresh =>
      rw [none,fresh]
      exact Scene.Screened.opening _ _

theorem current_some {loop : Loop} {conn : Connection}
    (running : screening.talk.world.proxy.loop = some loop)
    (found : screening.talk.world.proxy.connections loop.id = some conn) :
    ∃ scene,screening.current = some scene ∧ screening.talk.world.scene loop.id = some scene ∧
      scene.running = some (loop.direction,loop.data) ∧
        scene.handing settings .round = (scene.history loop.direction).handedBy settings
          loop.direction screening.talk.world.proxy.parser conn loop.data := by
  have known := World.scene_some found
  have started : screening.talk.world.running loop.id = some (loop.direction,loop.data) := by
    simp [World.running,running]
  refine ⟨_,?_,known,started,?_⟩
  · rw [current,running]
    exact known
  · simp only [Scene.handing,started]

theorem step_table (reached : Reached settings predefined screening)
    (enabled : label.1.Enabled screening.talk.world.proxy)
    (answers : Talk.Where (Scene.Answers settings) screening.talk label)
    (taken : Step settings screening label after) (major : UInt8) :
    Scene.Extended after.talk.world.proxy.parser major ↔
      Scene.Extended screening.talk.world.proxy.parser major ∨
        (coreRequests major = none ∧ ∃ scene,screening.current = some scene ∧
          major ∈ scene.grantedMajors settings label.1 label.2) := by
  obtain ⟨acting,choice⟩ := label
  have stepped := (Talk.step_success (step_success taken).1).1
  dsimp only at stepped answers enabled ⊢
  generalize after.talk.world = world at stepped ⊢
  have idle (nobody : ∀ scene,screening.current = some scene → scene.handing settings acting = [])
      (same : world.proxy.parser = screening.talk.world.proxy.parser) :
      Scene.Extended world.proxy.parser major ↔
        Scene.Extended screening.talk.world.proxy.parser major ∨
          (coreRequests major = none ∧ ∃ scene,screening.current = some scene ∧
            major ∈ scene.grantedMajors settings acting choice) := by
    rw [same]
    constructor
    · exact .inl
    · rintro (old | ⟨_,scene,known,member⟩)
      · exact old
      · rw [Scene.granted_nil (by rw [Scene.queried,nobody scene known]; rfl)] at member
        cases member
  obtain ⟨proxy,history⟩ := world
  have step := Proxy.step_case enabled (World.step_success stepped).1
  dsimp only at step idle ⊢
  cases step with
  | accept | readClosed | received | sendClosed | sent | pollError => exact idle (fun _ _ => rfl) rfl
  | lost loop running absent =>
    apply idle _ rfl
    intro scene known
    rw [current,running] at known
    simp [World.scene,absent] at known
  | finished loop conn next running found round =>
    apply idle _ rfl
    intro scene known
    obtain ⟨_,same,_,_,handing⟩ := @current_some settings screening loop conn running found
    rw [known] at same
    cases same
    rw [handing,History.handedBy,round]
    rfl
  | refused loop conn text running found round =>
    apply idle _ rfl
    intro scene known
    obtain ⟨_,same,_,_,handing⟩ := @current_some settings screening loop conn running found
    rw [known] at same
    cases same
    rw [handing,History.handedBy,round]
    rfl
  | handled loop conn handler logged running found round =>
    obtain ⟨scene,now,known,started,_⟩ := @current_some settings screening loop conn running found
    have present := @World.scene_some ⟨{ screening.talk.world.proxy.withConnection loop.id
      (some logged.conn) with
        parser := logged.parser
        loop := some { loop with data := loop.data + logged.bytesParsed } },history⟩ loop.id
          logged.conn (if_pos rfl)
    have move := World.scene_round enabled stepped known started present
    have intact := Talk.reached_intact (fun _ _ given => given) (reached_talk reached) known
    have told := intact.extended (standard reached known) move (answers.answers known) major
    rw [(World.scene_found known).2.1] at told
    rw [now]
    refine told.trans (or_congr_right (and_congr_right fun _ => ?_))
    constructor
    · intro member
      exact ⟨scene,rfl,member⟩
    · rintro ⟨other,same,member⟩
      cases same
      exact member

/-- The opcodes of extensions in the table are those that were granted, but for core ones. -/
theorem reached_extended (reached : Reached settings predefined screening) (major : UInt8) :
    Scene.Extended screening.talk.world.proxy.parser major ↔
      coreRequests major = none ∧ major ∈ screening.granted := by
  induction reached with
  | start initial =>
    subst initial
    refine ⟨?_,fun granted => absurd granted.2 List.not_mem_nil⟩
    rintro ⟨view,requests,entry⟩
    have core : coreRequests major = some (.extension view requests) := entry
    unfold coreRequests at core
    repeat' split at core
    all_goals cases core
  | next label before given taken ih =>
    rename_i screening after
    rw [step_table before given.1 given.2.1 taken major,ih,(step_success taken).2.2,List.mem_append]
    cases now : screening.current with
    | none => simp
    | some scene => simp [and_or_left]

/-- BIG-REQUESTS is allowed, and another extension is not; the server has both. -/
def twoQueries : List (Label × Nat) :=
  Talk.before (World.setup ++ [
    .receive 0 .clientToServer (.received (World.deniedQuery ++ [98,0,5,0,12,0,0,0] ++ bigRequestsName)),
    .round,.round,.round,.send 0 .clientToServer (.sent 32),
    .receive 0 .serverToClient (.received
      (World.presentReply ++ ([1,0,2,0,0,0,0,0,1,133] ++ List.replicate 22 0)))]) ++
  [(.round,1),(.round,2),(.round,0)]

end Screening
end Xtracepp
