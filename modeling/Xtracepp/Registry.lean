import Xtracepp.Dialogue

/-! The registry of request opcodes over whole runs: what is looked up for a reply is what was
registered for the request it answers.
-/
namespace Xtracepp
open Library Library.Outcome Library.Window Library.Runs Library.Framing

def Latest (requests : List (List UInt8)) (number : Nat) (request : List UInt8) : Prop :=
  ∃ index,requests[index]? = some request ∧ (index + 1) % 2^16 = number ∧
    ∀ later,index < later → later < requests.length → (later + 1) % 2^16 ≠ number

namespace Scene

variable {settings : Settings} {direction : Direction} {scene after : Scene} {label : Label}
  {entry : Handed} {data : Nat} {next : Connection} {inner : Logged} {unanswered : List Nat}

/-- A request finds its number free, and has no minor opcode but 0. -/
def Tracked (settings : Settings) (scene : Scene) (label : Label) (_ : Nat) (_ : List Nat) : Prop :=
  ∀ entry ∈ scene.handing settings label,entry.handler = some .request →
    scene.conn.requestOpcodesBySeqNum ((scene.conn.sequence + 1) % 2^16) = none ∧
      (opcodesOf entry.bytes).minor = 0

instance (settings : Settings) (scene : Scene) (label : Label) (choice : Nat)
    (unanswered : List Nat) : Decidable (Tracked settings scene label choice unanswered) :=
  inferInstanceAs (Decidable (∀ entry ∈ _,_ → _ ∧ _))

/-- The registry holds the opcodes of every request that may still be answered, and no two of these
have one number. -/
structure Registered (scene : Scene) (unanswered : List Nat) : Prop where
  numbered : scene.conn.sequence = (asked scene.history).length % 2^16
  nodup : unanswered.Nodup
  kept : ∀ number ∈ unanswered,∃ request,0 < number ∧
    (asked scene.history)[number - 1]? = some request ∧
      scene.conn.requestOpcodesBySeqNum (number % 2^16) = some (opcodesOf request)
  latest : ∀ number ∈ unanswered,∀ later,number < later → later ≤ (asked scene.history).length →
    later % 2^16 ≠ number % 2^16

theorem Registered.bound (registered : Registered scene unanswered) {number : Nat}
    (member : number ∈ unanswered) : number ≤ (asked scene.history).length := by
  obtain ⟨_,positive,found,_⟩ := registered.kept number member
  obtain ⟨inside,_⟩ := List.getElem?_eq_some_iff.mp found
  omega

theorem Registered.apart (registered : Registered scene unanswered) {number other : Nat}
    (member : number ∈ unanswered) (another : other ∈ unanswered)
    (same : number % 2^16 = other % 2^16) : number = other := by
  have bound := registered.bound member
  have limit := registered.bound another
  rcases Nat.lt_trichotomy number other with less | equal | more
  · exact absurd same.symm (registered.latest number member other less limit)
  · exact equal
  · exact absurd same (registered.latest other another number more bound)

/-- The opcodes that are looked up for an answer are those of the latest request with its number. -/
theorem Registered.found (registered : Registered scene unanswered) {number : Nat}
    (member : number ∈ unanswered) :
    ∃ request,Latest (asked scene.history) (number % 2^16) request ∧
      scene.conn.lookupRequest (number % 2^16) = .ok (opcodesOf request) := by
  obtain ⟨request,positive,found,stored⟩ := registered.kept number member
  refine ⟨request,⟨number - 1,found,?_,?_⟩,?_⟩
  · rw [Nat.sub_add_cancel positive]
  · intro later more inside
    exact registered.latest number member (later + 1) (by omega) (by omega)
  · rw [Connection.lookupRequest,stored]

theorem Registered.answered (registered : Registered scene unanswered) {choice : Nat}
    (member : choice ∈ unanswered) (requests : asked after.history = asked scene.history)
    (sequence : after.conn.sequence = scene.conn.sequence)
    (registry : ∀ number,number ≠ choice % 2^16 →
      after.conn.requestOpcodesBySeqNum number = scene.conn.requestOpcodesBySeqNum number) :
    Registered after (unanswered.erase choice) := by
  refine ⟨?_,registered.nodup.erase choice,?_,?_⟩
  · rw [sequence,requests]
    exact registered.numbered
  · intro number left
    obtain ⟨different,inside⟩ := registered.nodup.mem_erase_iff.mp left
    obtain ⟨request,positive,found,stored⟩ := registered.kept number inside
    refine ⟨request,positive,by rw [requests]; exact found,?_⟩
    rw [registry _ (fun same => different (registered.apart inside member same))]
    exact stored
  · intro number left
    rw [requests]
    exact registered.latest number (List.mem_of_mem_erase left)

theorem Registered.same (registered : Registered scene unanswered)
    (requests : asked after.history = asked scene.history)
    (sequence : after.conn.sequence = scene.conn.sequence)
    (registry : after.conn.requestOpcodesBySeqNum = scene.conn.requestOpcodesBySeqNum) :
    Registered after unanswered := by
  refine ⟨?_,registered.nodup,?_,?_⟩
  · rw [sequence,requests]
    exact registered.numbered
  · rw [registry,requests]
    exact registered.kept
  · rw [requests]
    exact registered.latest

theorem Registered.request (registered : Registered scene unanswered)
    (said : Said settings .clientToServer scene after entry data next inner)
    (kind : entry.handler = some .request)
    (free : scene.conn.requestOpcodesBySeqNum ((scene.conn.sequence + 1) % 2^16) = none)
    (minor : (opcodesOf entry.bytes).minor = 0) :
    Registered after (unanswered ++ [(asked scene.history).length + 1]) := by
  obtain ⟨_,logged⟩ := said.request kind
  obtain ⟨_,registry,sequence,_⟩ := said.next_fields
  obtain ⟨_,left,number,_⟩ := said.after_fields
  have requests := asked_request said kind
  have numbered := registered.numbered
  have turn : (scene.conn.sequence + 1) % 2^16 = ((asked scene.history).length + 1) % 2^16 := by omega
  have opcodes : opcodesOf entry.bytes = ⟨entry.bytes.getD 0 0,0⟩ :=
    congrArg (RequestOpcodes.mk (entry.bytes.getD 0 0)) minor
  have stored : after.conn.requestOpcodesBySeqNum = fun seqNum =>
      if seqNum = ((asked scene.history).length + 1) % 2^16 then some (opcodesOf entry.bytes)
      else scene.conn.requestOpcodesBySeqNum seqNum := by
    rw [left,logged.registered]
    ext1 seqNum
    simp only [Connection.registerRequest,registry,sequence,turn]
    split
    · rename_i here
      rw [turn] at free
      rw [here,free,Option.none_or,opcodes]
    · rfl
  have apart : ∀ old ∈ unanswered,old % 2^16 ≠ ((asked scene.history).length + 1) % 2^16 := by
    intro old member same
    obtain ⟨_,_,_,kept⟩ := registered.kept old member
    rw [same,← turn,free] at kept
    cases kept
  refine ⟨?_,?_,?_,?_⟩
  · rw [number,logged.registered,requests,List.length_append,List.length_singleton]
    change (next.sequence + 1) % 2^16 = _
    rw [sequence,turn]
  · rw [List.nodup_append]
    refine ⟨registered.nodup,List.nodup_singleton _,?_⟩
    intro old member new_ fresh
    rw [List.mem_singleton] at fresh
    have bound := registered.bound member
    omega
  · intro any member
    rw [requests,stored]
    rcases List.mem_append.mp member with old | fresh
    · obtain ⟨request,positive,found,kept⟩ := registered.kept any old
      obtain ⟨inside,_⟩ := List.getElem?_eq_some_iff.mp found
      refine ⟨request,positive,?_,?_⟩
      · rw [List.getElem?_append_left inside]
        exact found
      · exact (if_neg (apart any old)).trans kept
    · rw [List.mem_singleton] at fresh
      subst fresh
      refine ⟨entry.bytes,Nat.succ_pos _,?_,if_pos rfl⟩
      rw [Nat.add_sub_cancel,List.getElem?_append_right (Nat.le_refl _),Nat.sub_self]
      rfl
  · intro any member later more inside
    rw [requests,List.length_append,List.length_singleton] at inside
    rcases List.mem_append.mp member with old | fresh
    · by_cases last : later = (asked scene.history).length + 1
      · rw [last]
        exact (apart any old).symm
      · exact registered.latest any old later more (by omega)
    · rw [List.mem_singleton] at fresh
      omega

theorem parseReply_registry {parser : X11ProtocolParser} {conn : Connection} {sz : Nat} {parsed : Logged}
    {func : ReplyParse} (called : parseReply settings parser conn data sz func = .ok parsed) :
    parsed.conn.requestOpcodesBySeqNum = conn.requestOpcodesBySeqNum ∧
      parsed.conn.sequence = conn.sequence := by
  rcases parseReply_success called with ⟨_,_,_,atom⟩ | ⟨_,_,_,_,_,query⟩ | ⟨_,_,_,kept | enabled⟩
  · rw [atom.kept]
    exact ⟨rfl,rfl⟩
  · rw [query.left]
    exact ⟨rfl,rfl⟩
  · rw [kept]
    exact ⟨rfl,rfl⟩
  · rw [enabled]
    exact ⟨rfl,rfl⟩

theorem Registered.aside (registered : Registered scene unanswered)
    (said : Said settings direction scene after entry data next inner)
    (request : entry.handler ≠ some .request) (reply : entry.handler ≠ some .reply)
    (error : entry.handler ≠ some .error) : Registered after unanswered := by
  obtain ⟨_,registry,sequence,_⟩ := said.next_fields
  obtain ⟨_,left,number,_⟩ := said.after_fields
  obtain ⟨_,status,conn⟩ := said.aside request reply error
  apply registered.same (asked_other said request)
  · rw [number,conn]
    exact sequence
  · rw [left,conn]
    exact registry

theorem Registered.error (registered : Registered scene unanswered) {choice : Nat}
    (said : Said settings .serverToClient scene after entry data next inner)
    (kind : entry.handler = some .error) (member : choice ∈ unanswered)
    (same : numberOf settings scene.conn.byteswap entry.bytes = choice % 2^16) :
    Registered after (unanswered.erase choice) := by
  obtain ⟨_,registry,sequence,_⟩ := said.next_fields
  obtain ⟨_,left,number,_⟩ := said.after_fields
  obtain ⟨_,conn⟩ := said.error kind
  refine registered.answered member (asked_other said (by simp [kind])) ?_ ?_
  · rw [number,conn]
    exact sequence
  · intro other different
    rw [left,conn,← registry]
    simp only [Connection.unregisterRequest]
    rw [if_neg (by rw [same]; exact different)]

/-- A reply takes its request away, unless more replies to it follow. -/
theorem Registered.reply (registered : Registered scene unanswered) {choice : Nat}
    (said : Said settings .serverToClient scene after entry data next inner)
    (kind : entry.handler = some .reply) (member : choice ∈ unanswered)
    (same : numberOf settings scene.conn.byteswap entry.bytes = choice % 2^16) :
    Registered after (if continued ((asked scene.history).getD (choice - 1) []) entry.bytes then
      unanswered else unanswered.erase choice) := by
  obtain ⟨_,registry,sequence,_⟩ := said.next_fields
  obtain ⟨_,left,number,_⟩ := said.after_fields
  obtain ⟨_,parsed,opcodes,func,replied⟩ := said.reply kind
  obtain ⟨still,count⟩ := parseReply_registry replied.called
  obtain ⟨request,positive,found,stored⟩ := registered.kept choice member
  have looked := replied.looked
  rw [Connection.lookupRequest,registry,same,stored] at looked
  cases looked
  have known : (asked scene.history).getD (choice - 1) [] = request := by
    rw [List.getD_eq_getElem?_getD,found]
    rfl
  have requests := asked_other said (by simp [kind])
  have conn := replied.conn
  rw [known]
  by_cases more : continued request entry.bytes = true
  · rw [if_pos more]
    simp only [continued,Bool.and_eq_true,decide_eq_true_eq,bne_iff_ne,ne_eq] at more
    rw [if_neg (by
      rintro (other | last)
      · exact other more.1
      · exact more.2 last)] at conn
    apply registered.same requests
    · rw [number,conn,count]
      exact sequence
    · rw [left,conn,still]
      exact registry
  · rw [if_neg more]
    refine registered.answered member requests ?_ ?_
    · rw [number,conn]
      split
      · exact count.trans sequence
      · exact count.trans sequence
    · intro other different
      rw [left,conn,← registry,← still]
      split
      · simp only [Connection.unregisterRequest]
        rw [if_neg (by rw [same]; exact different)]
      · rfl

theorem Registered.move (registered : Registered scene unanswered) {choice : Nat}
    (move : Move settings direction scene label after)
    (answers : scene.Answers settings label choice unanswered)
    (tracked : scene.Tracked settings label choice unanswered) :
    Registered after (scene.settle settings label choice unanswered) := by
  rcases move.said with ⟨nothing,quiet⟩ | ⟨entry,data,next,inner,handing,said⟩
  · rw [settle_idle nothing]
    refine registered.same ?_ quiet.sequence quiet.registry
    rw [asked,asked,quiet.handed]
  · have given := answers entry (by rw [handing]; exact List.mem_singleton.mpr rfl)
    have free := tracked entry (by rw [handing]; exact List.mem_singleton.mpr rfl)
    obtain ⟨asks,responds⟩ := said.side
    rw [Scene.settle,handing]
    dsimp only
    cases kind : entry.handler with
    | none =>
      simp only [Xtracepp.settle,kind]
      exact registered.aside said (by simp [kind]) (by simp [kind]) (by simp [kind])
    | some handler =>
      cases handler with
      | request =>
        have side := asks kind
        subst side
        obtain ⟨available,minor⟩ := free kind
        simp only [Xtracepp.settle,kind]
        exact registered.request said kind available minor
      | error =>
        have side := responds (.inr kind)
        subst side
        obtain ⟨member,same⟩ := given (.inl kind)
        simp only [Xtracepp.settle,kind]
        exact registered.error said kind member same
      | reply =>
        have side := responds (.inl kind)
        subst side
        obtain ⟨member,same⟩ := given (.inr kind)
        simp only [Xtracepp.settle,kind]
        exact registered.reply said kind member same
      | initiation | initResponse | event =>
        simp only [Xtracepp.settle,kind]
        exact registered.aside said (by simp [kind]) (by simp [kind]) (by simp [kind])

/-- Whatever request the server answers next, what is looked up for it are the opcodes of the latest
request with its number. -/
def Attributed (scene : Scene) (unanswered : List Nat) : Prop :=
  ∀ number ∈ unanswered,∃ request,Latest (asked scene.history) (number % 2^16) request ∧
    scene.conn.lookupRequest (number % 2^16) = .ok (opcodesOf request)

end Scene

namespace Talk

variable {settings : Settings} {predefined : Nat → Option (List UInt8)} {talk : Talk} {id : Nat}

/-- In every run in which requests find their numbers free, and have no minor opcode but 0, replies
are attributed to the requests they answer. -/
theorem replies_attributed (reached : Reached settings predefined (Where (Scene.Tracked settings)) talk)
    {scene : Scene} (found : talk.world.scene id = some scene) :
    scene.Attributed (talk.unanswered id) := by
  have registered : scene.Registered (talk.unanswered id) := by
    apply invariant Scene.Registered ?_ ?_ ?_ reached found
    · intro talk _ _ _
      refine ⟨rfl,List.nodup_nil,?_,?_⟩
      · intro number member
        cases member
      · intro number member
        cases member
    · intro talk label id scene after direction _ _ answers tracked known registered move
      by_cases quiet : scene.handing settings label.1 = []
      · apply registered.move move
        · intro entry member
          rw [quiet] at member
          cases member
        · intro entry member
          rw [quiet] at member
          cases member
      · obtain ⟨_,⟨side,data⟩,running⟩ := Scene.handing_some quiet
        exact registered.move move (answers.move known running) (tracked.move known running)
    · intro scene parser unanswered _ _ registered
      exact ⟨registered.numbered,registered.nodup,registered.kept,registered.latest⟩
  intro number member
  exact registered.found member

/-- A run of labels, with the request that each response is for. -/
def before (labels : List Label) : List (Label × Nat) := labels.map fun label => (label,0)

/-- The second of two GetInputFocus requests waits for its reply. -/
theorem replies_attributed_second : ∃ talk scene,
    Reached World.plainly (fun _ => none) (Where (Scene.Tracked World.plainly)) talk ∧
      talk.world.scene 0 = some scene ∧ talk.unanswered 0 = [2] ∧
        scene.Attributed (talk.unanswered 0) := by
  obtain ⟨talk,reached,present,second⟩ :=
    replayed World.plainly (fun _ => none) (Where (Scene.Tracked World.plainly))
      (fun talk => (talk.world.scene 0).isSome = true ∧ talk.unanswered 0 = [2])
      (before (World.setup ++ [.receive 0 .clientToServer (.received [43,0,1,0]),.round,.round,
        .send 0 .clientToServer (.sent 4),
        .receive 0 .serverToClient (.received (1 :: 0 :: 1 :: List.replicate 29 0))]) ++
        [(.round,1),(.round,0)] ++ before [.receive 0 .clientToServer (.received [43,0,1,0]),.round,
          .round]) (by decide +kernel)
  obtain ⟨scene,found⟩ := Option.isSome_iff_exists.mp present
  exact ⟨talk,scene,reached,found,second,replies_attributed reached found⟩

/-- The minor opcode of a request of an extension is not registered. -/
theorem minor_unattributed : ∃ talk scene,
    Reached World.plainly (fun _ => none) Anyhow talk ∧
      talk.world.scene 0 = some scene ∧ ¬scene.Attributed (talk.unanswered 0) := by
  obtain ⟨talk,reached,present,first,requests,stored⟩ :=
    replayed World.plainly (fun _ => none) Anyhow
      (fun talk => (talk.world.scene 0).isSome = true ∧ talk.unanswered 0 = [1] ∧
        (∀ scene ∈ talk.world.scene 0,asked scene.history = [[200,3,1,0]]) ∧
        ∀ scene ∈ talk.world.scene 0,scene.conn.requestOpcodesBySeqNum 1 = some ⟨200,0⟩)
      (before (World.setup ++ [.receive 0 .clientToServer (.received [200,3,1,0]),.round,.round]))
      (by decide +kernel)
  obtain ⟨scene,found⟩ := Option.isSome_iff_exists.mp present
  refine ⟨talk,scene,reached,found,?_⟩
  intro attributed
  have request := requests scene found
  have opcodes := stored scene found
  obtain ⟨other,⟨index,member,_⟩,looked⟩ := attributed 1 (by rw [first]; exact List.mem_singleton.mpr rfl)
  rw [request] at member
  have zero : index = 0 := by
    obtain ⟨inside,_⟩ := List.getElem?_eq_some_iff.mp member
    simpa using inside
  subst zero
  cases member
  have small : (1 : Nat) % 2^16 = 1 := rfl
  rw [small,Connection.lookupRequest,opcodes] at looked
  cases looked

end Talk
end Xtracepp
