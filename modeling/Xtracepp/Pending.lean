import Xtracepp.Registry
import Xtracepp.ExtensionNames
import Xtracepp.Tidy

/-! Requests whose name is needed again for the reply: InternAtom and QueryExtension. The name stays
behind as a view into the client's buffer, filed under the number of the request. Told here is in
which runs the view still shows the name when the reply comes.
-/
namespace Xtracepp
open Library Library.Outcome Library.Window Library.Runs Library.Framing

/-- Whether a request has its name stashed. -/
def named (request : List UInt8) : Bool :=
  request.getD 0 0 == Opcodes.internAtom || request.getD 0 0 == Opcodes.queryExtension

/-- The name in such a request, in either form of its header. -/
def nameIn (settings : Settings) (byteswap : Bool) (request : List UInt8) : List UInt8 :=
  let headerSz := requestHeaderSz (ordered settings.littleEndian byteswap (slice request 2 2))
  slice request (headerSz + 4)
    (ordered settings.littleEndian byteswap (slice request headerSz 2))

namespace Scene

variable {settings : Settings} {direction : Direction} {scene after : Scene} {label : Label}
  {entry : Handed} {data : Nat} {next : Connection} {inner : Logged} {unanswered settled : List Nat}
  {choice number : Nat}

/-- A request by its number. -/
def requestAt (scene : Scene) (number : Nat) : List UInt8 :=
  (asked scene.history).getD (number - 1) []

/-- What a step does to the requests of its scene, with those that may be answered after it. -/
inductive Deed (settings : Settings) (scene : Scene) (label : Label) (after : Scene) (choice : Nat)
    (unanswered : List Nat) : List Nat → Prop
  | quiet {direction : Direction} (quiet : Quiet direction scene after) :
      Deed settings scene label after choice unanswered unanswered
  | aside {direction : Direction} {entry : Handed} {data : Nat} {next : Connection} {inner : Logged}
      (handing : scene.handing settings label = [entry])
      (said : Said settings direction scene after entry data next inner)
      (request : entry.handler ≠ some .request) (reply : entry.handler ≠ some .reply)
      (error : entry.handler ≠ some .error) :
      Deed settings scene label after choice unanswered unanswered
  | request {entry : Handed} {data : Nat} {next : Connection} {inner : Logged}
      (handing : scene.handing settings label = [entry])
      (said : Said settings .clientToServer scene after entry data next inner)
      (kind : entry.handler = some .request) :
      Deed settings scene label after choice unanswered (unanswered ++ [(asked scene.history).length + 1])
  | error {entry : Handed} {data : Nat} {next : Connection} {inner : Logged}
      (handing : scene.handing settings label = [entry])
      (said : Said settings .serverToClient scene after entry data next inner)
      (kind : entry.handler = some .error) (member : choice ∈ unanswered)
      (number : numberOf settings scene.conn.byteswap entry.bytes = choice % 2^16) :
      Deed settings scene label after choice unanswered (unanswered.erase choice)
  | reply {entry : Handed} {data : Nat} {next : Connection} {inner : Logged}
      (handing : scene.handing settings label = [entry])
      (said : Said settings .serverToClient scene after entry data next inner)
      (kind : entry.handler = some .reply) (member : choice ∈ unanswered)
      (number : numberOf settings scene.conn.byteswap entry.bytes = choice % 2^16) :
      Deed settings scene label after choice unanswered
        (if continued (scene.requestAt choice) entry.bytes then unanswered
         else unanswered.erase choice)

theorem Move.deed (move : Move settings direction scene label after)
    (answers : scene.Answers settings label choice unanswered) :
    Deed settings scene label after choice unanswered
      (scene.settle settings label choice unanswered) := by
  rcases move.said with ⟨nothing,quiet⟩ | ⟨entry,data,next,inner,handing,said⟩
  · rw [settle_idle nothing]
    exact .quiet quiet
  · have given := answers entry (by rw [handing]; exact List.mem_singleton.mpr rfl)
    obtain ⟨asks,responds⟩ := said.side
    rw [Scene.settle,handing]
    dsimp only
    cases kind : entry.handler with
    | none =>
      simp only [Xtracepp.settle,kind]
      exact .aside handing said (by simp [kind]) (by simp [kind]) (by simp [kind])
    | some handler =>
      cases handler with
      | request =>
        have side := asks kind
        subst side
        simp only [Xtracepp.settle,kind]
        exact .request handing said kind
      | error =>
        have side := responds (.inr kind)
        subst side
        obtain ⟨member,number⟩ := given (.inl kind)
        simp only [Xtracepp.settle,kind]
        exact .error handing said kind member number
      | reply =>
        have side := responds (.inl kind)
        subst side
        obtain ⟨member,number⟩ := given (.inr kind)
        simp only [Xtracepp.settle,kind]
        exact .reply handing said kind member number
      | initiation | initResponse | event =>
        simp only [Xtracepp.settle,kind]
        exact .aside handing said (by simp [kind]) (by simp [kind]) (by simp [kind])

/-- Every entry of the registry was made for a request that may still be answered. -/
structure Originated (scene : Scene) (unanswered : List Nat) : Prop where
  numbered : scene.conn.sequence = (asked scene.history).length % 2^16
  nodup : unanswered.Nodup
  bound : ∀ number ∈ unanswered,0 < number ∧ number ≤ (asked scene.history).length
  origin : ∀ seqNum opcodes,scene.conn.requestOpcodesBySeqNum seqNum = some opcodes →
    ∃ number ∈ unanswered,number % 2^16 = seqNum ∧
      opcodes = ⟨(scene.requestAt number).getD 0 0,0⟩

theorem requestAt_append {bytes : List UInt8} (requests : asked after.history = asked scene.history ++
    [bytes]) {number : Nat} (inside : number ≤ (asked scene.history).length) (positive : 0 < number) :
    after.requestAt number = scene.requestAt number := by
  rw [requestAt,requestAt,requests,List.getD_append _ _ _ _ (by omega)]

theorem requestAt_same (requests : asked after.history = asked scene.history) (number : Nat) :
    after.requestAt number = scene.requestAt number := by
  rw [requestAt,requestAt,requests]

theorem requestAt_last {bytes : List UInt8}
    (requests : asked after.history = asked scene.history ++ [bytes]) :
    after.requestAt ((asked scene.history).length + 1) = bytes := by
  rw [requestAt,requests,Nat.add_sub_cancel,List.getD_append_right _ _ _ _ (Nat.le_refl _),Nat.sub_self]
  rfl

theorem Originated.fewer (originated : Originated scene unanswered)
    (requests : asked after.history = asked scene.history)
    (sequence : after.conn.sequence = scene.conn.sequence) (nodup : settled.Nodup)
    (part : ∀ number ∈ settled,number ∈ unanswered)
    (kept : ∀ seqNum opcodes,after.conn.requestOpcodesBySeqNum seqNum = some opcodes →
      scene.conn.requestOpcodesBySeqNum seqNum = some opcodes ∧
        ∀ number ∈ unanswered,number % 2^16 = seqNum →
          opcodes = ⟨(scene.requestAt number).getD 0 0,0⟩ → number ∈ settled) :
    Originated after settled := by
  refine ⟨?_,nodup,?_,?_⟩
  · rw [sequence,requests]
    exact originated.numbered
  · intro number member
    rw [requests]
    exact originated.bound number (part number member)
  · intro seqNum opcodes found
    obtain ⟨before,still⟩ := kept seqNum opcodes found
    obtain ⟨number,member,same,opened⟩ := originated.origin seqNum opcodes before
    refine ⟨number,still number member same opened,same,?_⟩
    rw [requestAt_same requests]
    exact opened

theorem Originated.unchanged (originated : Originated scene unanswered)
    (requests : asked after.history = asked scene.history)
    (sequence : after.conn.sequence = scene.conn.sequence)
    (registry : after.conn.requestOpcodesBySeqNum = scene.conn.requestOpcodesBySeqNum) :
    Originated after unanswered := by
  apply originated.fewer requests sequence originated.nodup (fun _ member => member)
  intro seqNum opcodes found
  rw [registry] at found
  exact ⟨found,fun _ member _ _ => member⟩

theorem Said.registered (said : Said settings .clientToServer scene after entry data next inner)
    (kind : entry.handler = some .request) :
    after.conn.sequence = (scene.conn.sequence + 1) % 2^16 ∧
      after.conn.requestOpcodesBySeqNum = fun seqNum =>
        if seqNum = (scene.conn.sequence + 1) % 2^16 then
          (scene.conn.requestOpcodesBySeqNum seqNum).or (some ⟨entry.bytes.getD 0 0,0⟩)
        else scene.conn.requestOpcodesBySeqNum seqNum := by
  obtain ⟨_,logged⟩ := said.request kind
  obtain ⟨_,registry,sequence,_⟩ := said.next_fields
  obtain ⟨_,left,number,_⟩ := said.after_fields
  rw [left,number,logged.registered]
  refine ⟨?_,?_⟩
  · change (next.sequence + 1) % 2^16 = _
    rw [sequence]
  · change (fun seqNum => if seqNum = (next.sequence + 1) % 2^16 then
      (next.requestOpcodesBySeqNum seqNum).or (some _) else next.requestOpcodesBySeqNum seqNum) = _
    rw [registry,sequence]

theorem Said.replied (said : Said settings .serverToClient scene after entry data next inner)
    (kind : entry.handler = some .reply) :
    after.conn.sequence = scene.conn.sequence ∧ ∃ opcodes,
      scene.conn.requestOpcodesBySeqNum (numberOf settings scene.conn.byteswap entry.bytes) =
          some opcodes ∧
        after.conn.requestOpcodesBySeqNum =
          if opcodes.major ≠ Opcodes.listFontsWithInfo ∨ entry.bytes.getD 1 0 = 0 then fun other =>
            if other = numberOf settings scene.conn.byteswap entry.bytes then none
            else scene.conn.requestOpcodesBySeqNum other
          else scene.conn.requestOpcodesBySeqNum := by
  obtain ⟨_,parsed,opcodes,func,replied⟩ := said.reply kind
  obtain ⟨_,registry,sequence,_⟩ := said.next_fields
  obtain ⟨_,left,number,_⟩ := said.after_fields
  obtain ⟨still,count⟩ := parseReply_registry replied.called
  have looked := replied.looked
  have conn := replied.conn
  have found : next.requestOpcodesBySeqNum (numberOf settings scene.conn.byteswap entry.bytes) =
      some opcodes := by
    unfold Connection.lookupRequest at looked
    split at looked
    · rename_i opcodes_ found
      cases looked
      exact found
    · cases looked
  rw [registry] at found
  rw [left,number,conn]
  refine ⟨?_,opcodes,found,?_⟩
  · split
    · exact count.trans sequence
    · exact count.trans sequence
  · split
    · rw [Connection.unregisterRequest,still,registry]
    · rw [still,registry]

theorem Originated.request (originated : Originated scene unanswered)
    (said : Said settings .clientToServer scene after entry data next inner)
    (kind : entry.handler = some .request) :
    Originated after (unanswered ++ [(asked scene.history).length + 1]) := by
  obtain ⟨sequence,registry⟩ := said.registered kind
  have requests := asked_request said kind
  have numbered := originated.numbered
  refine ⟨?_,?_,?_,?_⟩
  · rw [sequence,requests,numbered,List.length_append,List.length_singleton]
    omega
  · rw [List.nodup_append]
    refine ⟨originated.nodup,List.nodup_singleton _,?_⟩
    intro old member last fresh
    rw [List.mem_singleton] at fresh
    have bound := originated.bound old member
    omega
  · intro number member
    rw [requests,List.length_append,List.length_singleton]
    rcases List.mem_append.mp member with old | fresh
    · have bound := originated.bound number old
      omega
    · rw [List.mem_singleton] at fresh
      omega
  · intro seqNum opcodes found
    rw [registry] at found
    dsimp only at found
    have earlier (before : scene.conn.requestOpcodesBySeqNum seqNum = some opcodes) :
        ∃ number ∈ unanswered ++ [(asked scene.history).length + 1],number % 2^16 = seqNum ∧
          opcodes = ⟨(after.requestAt number).getD 0 0,0⟩ := by
      obtain ⟨number,member,same,opened⟩ := originated.origin seqNum opcodes before
      obtain ⟨positive,inside⟩ := originated.bound number member
      refine ⟨number,List.mem_append_left _ member,same,?_⟩
      rw [requestAt_append requests inside positive]
      exact opened
    split at found
    · rename_i here
      cases before : scene.conn.requestOpcodesBySeqNum seqNum with
      | some old =>
        rw [before,Option.some_or] at found
        exact earlier (before.trans found)
      | none =>
        rw [before,Option.none_or] at found
        cases found
        refine ⟨_,List.mem_append_right _ (List.mem_singleton.mpr rfl),?_,?_⟩
        · rw [here,numbered]
          omega
        · rw [requestAt_last requests]
    · exact earlier found

theorem Originated.error (originated : Originated scene unanswered)
    (said : Said settings .serverToClient scene after entry data next inner)
    (kind : entry.handler = some .error)
    (number : numberOf settings scene.conn.byteswap entry.bytes = choice % 2^16) :
    Originated after (unanswered.erase choice) := by
  obtain ⟨_,registry,sequence,_⟩ := said.next_fields
  obtain ⟨_,left,count,_⟩ := said.after_fields
  obtain ⟨_,conn⟩ := said.error kind
  apply originated.fewer (asked_other said (by simp [kind])) _ (originated.nodup.erase choice)
    (fun _ inside => List.mem_of_mem_erase inside)
  · intro seqNum opcodes found
    rw [left,conn,Connection.unregisterRequest,registry] at found
    dsimp only at found
    split at found
    · cases found
    · rename_i different
      refine ⟨found,?_⟩
      intro other inside same _
      apply (originated.nodup.mem_erase_iff).mpr
      refine ⟨?_,inside⟩
      intro chosen
      rw [number,← chosen] at different
      exact different same.symm
  · rw [count,conn]
    exact sequence

theorem Originated.reply (originated : Originated scene unanswered)
    (said : Said settings .serverToClient scene after entry data next inner)
    (kind : entry.handler = some .reply)
    (number : numberOf settings scene.conn.byteswap entry.bytes = choice % 2^16) :
    Originated after (if continued (scene.requestAt choice) entry.bytes then unanswered
      else unanswered.erase choice) := by
  obtain ⟨sequence,opcodes,found,registry⟩ := said.replied kind
  rw [number] at found registry
  have nodup : (if continued (scene.requestAt choice) entry.bytes then unanswered
      else unanswered.erase choice).Nodup := by
    split
    · exact originated.nodup
    · exact originated.nodup.erase choice
  have part : ∀ other ∈ (if continued (scene.requestAt choice) entry.bytes then unanswered
      else unanswered.erase choice),other ∈ unanswered := by
    intro other inside
    split at inside
    · exact inside
    · exact List.mem_of_mem_erase inside
  apply originated.fewer (asked_other said (by simp [kind])) sequence nodup part
  intro seqNum looked left
  rw [registry] at left
  have before : scene.conn.requestOpcodesBySeqNum seqNum = some looked := by
    split at left
    · dsimp only at left
      split at left
      · cases left
      · exact left
    · exact left
  refine ⟨before,?_⟩
  intro other inside same opened
  by_cases more : continued (scene.requestAt choice) entry.bytes = true
  · rw [if_pos more]
    exact inside
  · rw [if_neg more]
    apply (originated.nodup.mem_erase_iff).mpr
    refine ⟨?_,inside⟩
    -- an entry that a reply leaves is that of a series of replies, which goes on
    intro chosen
    subst chosen
    rw [same,before] at found
    cases found
    rw [opened] at left
    split at left
    · rw [same] at left
      simp at left
    · rename_i goes
      apply more
      simpa [continued] using goes

theorem Originated.deed (originated : Originated scene unanswered)
    (deed : Deed settings scene label after choice unanswered settled) : Originated after settled := by
  cases deed with
  | quiet quiet =>
    apply originated.unchanged _ quiet.sequence quiet.registry
    rw [asked,asked,quiet.handed]
  | aside handing said request reply error =>
    obtain ⟨_,registry,sequence,_⟩ := said.next_fields
    obtain ⟨_,left,number,_⟩ := said.after_fields
    obtain ⟨_,status,conn⟩ := said.aside request reply error
    apply originated.unchanged (asked_other said request)
    · rw [number,conn]
      exact sequence
    · rw [left,conn]
      exact registry
  | request handing said kind => exact originated.request said kind
  | error handing said kind member number => exact originated.error said kind number
  | reply handing said kind member number => exact originated.reply said kind number

/-- A request whose name is stashed shares its number with no request that may be answered. -/
def Apart (settings : Settings) (scene : Scene) (label : Label) (_ : Nat) (unanswered : List Nat) :
    Prop :=
  ∀ entry ∈ scene.handing settings label,entry.handler = some .request →
    ∀ number ∈ unanswered,number % 2^16 = ((asked scene.history).length + 1) % 2^16 →
      named (scene.requestAt number) = false ∧ named entry.bytes = false

instance (settings : Settings) (scene : Scene) (label : Label) (choice : Nat)
    (unanswered : List Nat) : Decidable (Apart settings scene label choice unanswered) :=
  inferInstanceAs (Decidable (∀ entry ∈ _,_ → ∀ number ∈ _,_ → _ ∧ _))

/-- What arrives from the client leaves the names where they are: the buffer does not grow, and the
bytes the views show stay the same. -/
def Spared (scene : Scene) (unanswered : List Nat) (bytes : List UInt8) : Prop :=
  ∀ number ∈ unanswered,named (scene.requestAt number) = true →
    scene.conn.clientBuffer.bytesToRead ≤ scene.conn.clientBuffer.capacity ∧
      ∀ view ∈ scene.parser.stashedStrings scene.conn.id (number % 2^16),∀ i < view.length,
        overlay scene.conn.clientBuffer.buffer.cells scene.conn.clientBuffer.bytesRead bytes
          (view.start + i) = scene.conn.clientBuffer.buffer.cells (view.start + i)

instance (scene : Scene) (unanswered : List Nat) (bytes : List UInt8) :
    Decidable (scene.Spared unanswered bytes) :=
  inferInstanceAs (Decidable (∀ number ∈ _,_ → _ ∧ ∀ view ∈ _,∀ i < _,_))

theorem Move.storage (move : Move settings direction scene label after) :
    after.conn.clientBuffer.buffer = scene.conn.clientBuffer.buffer ∨
      ∃ result,label = .receive scene.conn.id .clientToServer result ∧
        readFrom .clientToServer scene.conn result = .ok (some after.conn) := by
  cases move with
  | received result next idle polled fits read =>
    cases direction with
    | clientToServer => exact .inr ⟨result,rfl,read⟩
    | serverToClient =>
      obtain ⟨buffer,rfl⟩ := readFrom_left read
      exact .inl rfl
  | finished data next running round =>
    left
    rcases finished_left round with same | ⟨messageSz,known,_⟩
    · rw [same]
    · exact ExtensionNames.known_storage known
  | handled data handler logged running round => exact .inl (ExtensionNames.handled_storage round)
  | sent result next idle polled fits written =>
    left
    cases direction with
    | clientToServer => exact writeTo_storage written
    | serverToClient =>
      obtain ⟨buffer,rfl⟩ := writeTo_left written
      rfl

theorem Move.shown (move : Move settings direction scene label after) {view : StringView}
    {name : List UInt8} (shown : view.chars scene.conn.clientBuffer.buffer = .ok name)
    (spared : ∀ result,label = .receive scene.conn.id .clientToServer result →
      scene.conn.clientBuffer.bytesToRead ≤ scene.conn.clientBuffer.capacity ∧ ∀ i < view.length,
        overlay scene.conn.clientBuffer.buffer.cells scene.conn.clientBuffer.bytesRead
          (SocketBuffer.arrived result) (view.start + i) =
            scene.conn.clientBuffer.buffer.cells (view.start + i)) :
    view.chars after.conn.clientBuffer.buffer = .ok name := by
  rcases move.storage with same | ⟨result,receives,read⟩
  · rw [same]
    exact shown
  · obtain ⟨enough,same⟩ := spared result receives
    have storage : after.conn.clientBuffer.buffer = { scene.conn.clientBuffer.buffer with
        cells := overlay scene.conn.clientBuffer.buffer.cells scene.conn.clientBuffer.bytesRead
          (SocketBuffer.arrived result) } := (readFrom_storage read).2 enough
    obtain ⟨owner,moves,inside,chars⟩ := ExtensionNames.chars_success shown
    rw [storage,StringView.chars,if_pos ⟨owner,moves⟩,Storage.fetch,if_pos inside,chars]
    apply congrArg Except.ok
    apply window_congr
    intro i lower upper
    have here := same (i - view.start) (by omega)
    rw [Nat.add_sub_cancel' lower] at here
    exact here

/-- The name of a request that may still be answered is stashed, and still shown. -/
structure Holds (settings : Settings) (scene : Scene) (number : Nat) : Prop where
  registered : scene.conn.requestOpcodesBySeqNum (number % 2^16) =
    some ⟨(scene.requestAt number).getD 0 0,0⟩
  shown : ∃ view,scene.parser.stashedStrings scene.conn.id (number % 2^16) = some view ∧
    view.chars scene.conn.clientBuffer.buffer =
      .ok (nameIn settings scene.conn.byteswap (scene.requestAt number))

/-- The names of all requests that may still be answered. -/
structure Intact (settings : Settings) (scene : Scene) (unanswered : List Nat) : Prop where
  originated : Originated scene unanswered
  opened : asked scene.history ≠ [] → scene.conn.status = .opened
  apart : ∀ number ∈ unanswered,named (scene.requestAt number) = true →
    ∀ other ∈ unanswered,other % 2^16 = number % 2^16 → other = number
  kept : ∀ number ∈ unanswered,named (scene.requestAt number) = true → scene.Holds settings number

theorem Intact.begun (intact : Intact settings scene unanswered) {number : Nat}
    (member : number ∈ unanswered) : asked scene.history ≠ [] := by
  obtain ⟨positive,inside⟩ := intact.originated.bound number member
  intro nothing
  rw [nothing,List.length_nil] at inside
  omega

theorem Holds.kept (holds : Holds settings scene number)
    (move : Move settings direction scene label after)
    (spared : ∀ result,label = .receive scene.conn.id .clientToServer result →
      scene.conn.clientBuffer.bytesToRead ≤ scene.conn.clientBuffer.capacity ∧
        ∀ view ∈ scene.parser.stashedStrings scene.conn.id (number % 2^16),∀ i < view.length,
          overlay scene.conn.clientBuffer.buffer.cells scene.conn.clientBuffer.bytesRead
            (SocketBuffer.arrived result) (view.start + i) =
              scene.conn.clientBuffer.buffer.cells (view.start + i))
    (order : after.conn.byteswap = scene.conn.byteswap)
    (same : after.requestAt number = scene.requestAt number)
    (registry : after.conn.requestOpcodesBySeqNum (number % 2^16) =
      scene.conn.requestOpcodesBySeqNum (number % 2^16))
    (stash : after.parser.stashedStrings scene.conn.id (number % 2^16) =
      scene.parser.stashedStrings scene.conn.id (number % 2^16)) : Holds settings after number := by
  have id : after.conn.id = scene.conn.id := ExtensionNames.Move.numbered move
  obtain ⟨view,entry,shown⟩ := holds.shown
  refine ⟨?_,view,?_,?_⟩
  · rw [registry,same]
    exact holds.registered
  · rw [id,stash]
    exact entry
  · rw [same,order]
    apply move.shown shown
    intro result receives
    obtain ⟨enough,cells⟩ := spared result receives
    exact ⟨enough,cells view (by rw [entry]; rfl)⟩

/-- What a reply leaves of the stash: at most the name under its own number is taken out. -/
theorem Said.unstashed (said : Said settings .serverToClient scene after entry data next inner)
    (kind : entry.handler = some .reply) (seqNum : Nat) :
    after.parser.stashedStrings scene.conn.id seqNum =
        scene.parser.stashedStrings scene.conn.id seqNum ∨
      (seqNum = numberOf settings scene.conn.byteswap entry.bytes ∧
        after.parser.stashedStrings scene.conn.id seqNum = none) := by
  obtain ⟨long,parsed,opcodes,func,replied⟩ := said.reply kind
  obtain ⟨id,_⟩ := said.next_fields
  -- both functions take out what is under the number
  have taken {number : Nat} (same : number = numberOf settings scene.conn.byteswap entry.bytes)
      (left : after.parser.stashedStrings =
        (scene.parser.withStash next.id number none).stashedStrings) :
      after.parser.stashedStrings scene.conn.id seqNum =
          scene.parser.stashedStrings scene.conn.id seqNum ∨
        (seqNum = numberOf settings scene.conn.byteswap entry.bytes ∧
          after.parser.stashedStrings scene.conn.id seqNum = none) := by
    rw [left,← same]
    by_cases here : seqNum = number
    · exact .inr ⟨here,if_pos ⟨id.symm,here⟩⟩
    · exact .inl (if_neg (fun both => here both.2))
  have parser : after.parser = parsed.parser := said.parser.trans replied.parser
  rcases parseReply_success replied.called with
    ⟨_,number,atom,named⟩ | ⟨_,_,number,view,name,query⟩ | ⟨_,_,kept,_⟩
  · by_cases zero : atom = 0
    · rw [parser,named.unnamed zero]
      exact .inl rfl
    · obtain ⟨_,_,_,_,left⟩ := named.named zero
      apply taken (said.number (by omega) named.numbered)
      rw [parser,left]
      rfl
  · apply taken (said.number (by omega) query.numbered)
    rw [parser,query.reported]
    rfl
  · rw [parser,kept]
    exact .inl rfl

/-- Only these two requests are parsed by a function that stashes. -/
theorem requestParseFunc_named {parser : X11ProtocolParser} (standard : Dispatch.Standard parser)
    (major minor : UInt8) :
    (parser.requestParseFunc major minor = .internAtom ∨
        parser.requestParseFunc major minor = .queryExtension) ↔
      (major == Opcodes.internAtom || major == Opcodes.queryExtension) = true := by
  rw [Bool.or_eq_true,beq_iff_eq,beq_iff_eq]
  unfold X11ProtocolParser.requestParseFunc
  cases known : coreRequests major with
  | some traits =>
    rw [standard.core major traits known]
    unfold coreRequests at known
    split at known
    · rename_i atom
      cases known
      simp [atom]
    · rename_i other
      split at known
      · rename_i query
        cases known
        simp [query]
      · rename_i different
        split at known
        · cases known
          simp [other,different]
        · cases known
  | none =>
    have other : ¬(major = Opcodes.internAtom ∨ major = Opcodes.queryExtension) := by
      rintro (here | here) <;> subst here <;> cases known
    rcases standard.other major known with absent | ⟨view,added⟩
    · rw [absent]
      simpa using other
    · rw [added]
      cases found : bigRequestsRequests minor with
      | none => simpa [found] using other
      | some traits =>
        unfold bigRequestsRequests at found
        split at found
        · cases found
          simpa [‹minor = 0›,bigRequestsRequests] using other
        · cases found

theorem replyParseFunc_named {parser : X11ProtocolParser} (standard : Dispatch.Standard parser)
    {opcodes : RequestOpcodes} {func : ReplyParse} (chosen : parser.replyParseFunc opcodes = .ok func) :
    (func = .internAtom ↔ opcodes.major = Opcodes.internAtom) ∧
      (func = .queryExtension ↔ opcodes.major = Opcodes.queryExtension) := by
  unfold X11ProtocolParser.replyParseFunc at chosen
  cases known : coreRequests opcodes.major with
  | some traits =>
    rw [standard.core opcodes.major traits known] at chosen
    unfold coreRequests at known
    split at known
    · rename_i atom
      cases known
      cases chosen
      rw [atom]
      decide
    · rename_i other
      split at known
      · rename_i query
        cases known
        cases chosen
        rw [query]
        decide
      · rename_i different
        split at known
        · cases known
          dsimp only at chosen
          split at chosen
          · rename_i reply present
            cases chosen
            split at present
            · cases present
              simp [other,different]
            · cases present
          · cases chosen
        · cases known
  | none =>
    have other : opcodes.major ≠ Opcodes.internAtom ∧ opcodes.major ≠ Opcodes.queryExtension := by
      constructor
      · intro here
        rw [here] at known
        cases known
      · intro here
        rw [here] at known
        cases known
    have unknown : func = .unknownRequest ∨ func = .bigReqEnable := by
      rcases standard.other opcodes.major known with absent | ⟨view,added⟩
      · rw [absent] at chosen
        cases chosen
        exact .inl rfl
      · rw [added] at chosen
        unfold bigRequestsRequests at chosen
        dsimp only at chosen
        split at chosen
        · cases chosen
          exact .inl rfl
        · rename_i traits found
          split at found
          · cases found
            cases chosen
            exact .inr rfl
          · cases found
    rcases unknown with here | here <;> subst here <;> simp [other.1,other.2]

theorem Said.request_order (said : Said settings .clientToServer scene after entry data next inner)
    (kind : entry.handler = some .request) :
    scene.conn.status = .opened ∧ next.byteswap = scene.conn.byteswap := by
  have chosen := said.chosen
  rw [kind] at chosen
  have opened : next.status = .opened := by
    unfold selectHandler at chosen
    cases status : next.status <;> simp [status] at chosen ⊢
  have status : scene.conn.status = .opened := said.known.status.symm.trans opened
  refine ⟨status,?_⟩
  rcases said.known.origin with ⟨_,_,same⟩ | ⟨_,_,_,_,same⟩
  · exact same
  · exact same (.inl (by simp [status]))

/-- What a request leaves of the stash: its name, if it has one that is needed. -/
inductive Stashing (settings : Settings) (scene after : Scene) (bytes : List UInt8) : Prop
  | unnamed (plain : named bytes = false) (kept : after.parser = scene.parser)
  | stashed (carries : named bytes = true) (view : StringView)
      (absent : scene.parser.stashedStrings scene.conn.id ((scene.conn.sequence + 1) % 2^16) = none)
      (left : after.parser =
        scene.parser.withStash scene.conn.id ((scene.conn.sequence + 1) % 2^16) (some view))
      (shown : view.chars after.conn.clientBuffer.buffer =
        .ok (nameIn settings scene.conn.byteswap bytes))

theorem Said.stashing (said : Said settings .clientToServer scene after entry data next inner)
    (kind : entry.handler = some .request) (standard : Dispatch.Standard scene.parser) :
    Stashing settings scene after entry.bytes := by
  obtain ⟨long,logged⟩ := said.request kind
  obtain ⟨id,_,sequence,_,storage⟩ := said.next_fields
  have order := (said.request_order kind).2
  have which := requestParseFunc_named standard (entry.bytes.getD 0 0) (entry.bytes.getD 1 0)
  have left : after.conn.clientBuffer.buffer = next.clientBuffer.buffer := by
    obtain ⟨buffer,mark,left⟩ := said.conn
    obtain ⟨_,mark⟩ := demand_bind_success mark
    obtain ⟨_,mark⟩ := demand_bind_success mark
    cases mark
    rw [left,logged.registered]
    rfl
  -- the two functions do the same
  have stashes (opcode : UInt8) (headerSz nameLen : Nat)
      (carries : named entry.bytes = true)
      (name : NameStashed settings scene.parser inner.parser
        (next.registerRequest (entry.bytes.getD 0 0) 0) data inner.bytesParsed opcode headerSz
          nameLen) : Stashing settings scene after entry.bytes := by
    have turn : (next.registerRequest (entry.bytes.getD 0 0) 0).sequence =
        (scene.conn.sequence + 1) % 2^16 := by
      rw [← sequence]
      rfl
    have same : (next.registerRequest (entry.bytes.getD 0 0) 0).id = scene.conn.id := id
    have absent := name.absent
    have stashed := name.stashed
    rw [same,turn] at absent stashed
    refine .stashed carries _ absent (said.parser.trans stashed) ?_
    obtain ⟨flag,flagged,header⟩ := name.header
    obtain ⟨_,flag_⟩ := Storage.field_success flagged
    obtain ⟨_,count⟩ := Storage.field_success name.counted
    change flag = ordered settings.littleEndian next.byteswap
      (window (next.buffer .clientToServer).buffer.cells (data + 2) 2) at flag_
    rw [said.slice (by omega),order] at flag_
    have header : headerSz =
        requestHeaderSz (ordered settings.littleEndian scene.conn.byteswap
          (Library.Framing.slice entry.bytes 2 2)) := by rw [header,flag_]
    have parsed := name.parsed
    have bound := logged.bound
    have small : nameLen < 65536 := by
      have limit := ordered_lt settings.littleEndian next.byteswap
        (window next.clientBuffer.buffer.cells (data + headerSz) 2)
      rw [window_length] at limit
      change nameLen = ordered settings.littleEndian next.byteswap
        (window next.clientBuffer.buffer.cells (data + headerSz) 2) at count
      omega
    rw [Alignment.pad_small (by omega)] at parsed
    change nameLen = ordered settings.littleEndian next.byteswap
      (window (next.buffer .clientToServer).buffer.cells (data + headerSz) 2) at count
    rw [said.slice (by omega),order] at count
    have inside := name.inside
    have shown := @Said.slice _ _ _ _ _ _ _ _ said (headerSz + 4) nameLen (by omega)
    rw [left,StringView.chars,if_pos ⟨rfl,rfl⟩]
    refine Eq.trans (if_pos inside) (congrArg Except.ok ?_)
    rw [nameIn,← header,← count]
    exact shown
  rcases parseRequest_success logged.parsed with
    ⟨func,headerSz,nameLen,name⟩ | ⟨func,headerSz,nameLen,name⟩ | ⟨atom,query,kept⟩
  · exact stashes _ headerSz nameLen (which.mp (.inl func)) name
  · exact stashes _ headerSz nameLen (which.mp (.inr func)) name
  · refine .unnamed ?_ (said.parser.trans kept)
    apply Bool.eq_false_iff.mpr
    intro carries
    rcases which.mpr carries with func | func
    · exact atom func
    · exact query func

/-- What a step leaves alone of the numbers of requests. -/
structure Untouched (scene after : Scene) (seqNum : Nat) : Prop where
  registry : after.conn.requestOpcodesBySeqNum seqNum = scene.conn.requestOpcodesBySeqNum seqNum
  stash : after.parser.stashedStrings scene.conn.id seqNum =
    scene.parser.stashedStrings scene.conn.id seqNum

theorem Quiet.untouched (quiet : Quiet direction scene after) (seqNum : Nat) :
    Untouched scene after seqNum := by
  refine ⟨?_,?_⟩
  · rw [quiet.registry]
  · rw [quiet.parser]

theorem Said.untouched (said : Said settings direction scene after entry data next inner)
    (request : entry.handler ≠ some .request) (reply : entry.handler ≠ some .reply)
    (error : entry.handler ≠ some .error) (seqNum : Nat) : Untouched scene after seqNum := by
  obtain ⟨_,registry,_⟩ := said.next_fields
  obtain ⟨_,left,_⟩ := said.after_fields
  obtain ⟨parser,status,conn⟩ := said.aside request reply error
  refine ⟨?_,?_⟩
  · rw [left,conn]
    exact congrFun registry seqNum
  · rw [said.parser,parser]

theorem Said.error_untouched (said : Said settings .serverToClient scene after entry data next inner)
    (kind : entry.handler = some .error) {seqNum : Nat}
    (other : seqNum ≠ numberOf settings scene.conn.byteswap entry.bytes) :
    Untouched scene after seqNum := by
  obtain ⟨_,registry,_⟩ := said.next_fields
  obtain ⟨_,left,_⟩ := said.after_fields
  obtain ⟨parser,conn⟩ := said.error kind
  refine ⟨?_,?_⟩
  · rw [left,conn,← registry]
    exact if_neg other
  · rw [said.parser,parser]

theorem Said.reply_untouched (said : Said settings .serverToClient scene after entry data next inner)
    (kind : entry.handler = some .reply) {seqNum : Nat}
    (other : seqNum ≠ numberOf settings scene.conn.byteswap entry.bytes) :
    Untouched scene after seqNum := by
  refine ⟨?_,(said.unstashed kind seqNum).resolve_right (fun here => other here.1)⟩
  obtain ⟨_,opcodes,_,registry⟩ := said.replied kind
  rw [registry]
  split
  · exact if_neg other
  · rfl

theorem Said.request_untouched (said : Said settings .clientToServer scene after entry data next inner)
    (kind : entry.handler = some .request) (standard : Dispatch.Standard scene.parser) {seqNum : Nat}
    (other : seqNum ≠ (scene.conn.sequence + 1) % 2^16) : Untouched scene after seqNum := by
  refine ⟨?_,?_⟩
  · rw [(said.registered kind).2]
    exact if_neg other
  · cases said.stashing kind standard with
    | unnamed plain kept => rw [kept]
    | stashed carries view absent left shown =>
      rw [left]
      exact if_neg (fun here => other here.2)

theorem Move.opened (move : Move settings direction scene label after)
    (opened : scene.conn.status = .opened) : after.conn.status = .opened := by
  rcases move.status with same | ⟨_,_,early,_⟩
  · exact same.trans opened
  · rw [early] at opened
    cases opened

theorem Move.order_opened (move : Move settings direction scene label after)
    (opened : scene.conn.status = .opened) : after.conn.byteswap = scene.conn.byteswap := by
  rcases move.order (.inr opened) with same | ⟨_,early⟩
  · exact same
  · rw [early] at opened
    cases opened

theorem Intact.keep (intact : Intact settings scene unanswered)
    (move : Move settings direction scene label after)
    (spared : ∀ result,label = .receive scene.conn.id .clientToServer result →
      scene.Spared unanswered (SocketBuffer.arrived result))
    {number : Nat} (member : number ∈ unanswered) (carries : named (scene.requestAt number) = true)
    (same : after.requestAt number = scene.requestAt number)
    (untouched : Untouched scene after (number % 2^16)) : Holds settings after number := by
  have opened := intact.opened (intact.begun member)
  apply (intact.kept number member carries).kept move ?_ (move.order_opened opened) same
    untouched.registry untouched.stash
  intro result receives
  exact spared result receives number member carries

theorem Intact.fewer (intact : Intact settings scene unanswered)
    (move : Move settings direction scene label after)
    (spared : ∀ result,label = .receive scene.conn.id .clientToServer result →
      scene.Spared unanswered (SocketBuffer.arrived result))
    {settled : List Nat} (requests : asked after.history = asked scene.history)
    (originated : Originated after settled) (part : ∀ number ∈ settled,number ∈ unanswered)
    (untouched : ∀ number ∈ settled,named (scene.requestAt number) = true →
      Untouched scene after (number % 2^16)) : Intact settings after settled := by
  refine ⟨originated,?_,?_,?_⟩
  · rw [requests]
    intro begun
    exact move.opened (intact.opened begun)
  · intro number member carries other another same
    rw [requestAt_same requests] at carries
    exact intact.apart number (part number member) carries other (part other another) same
  · intro number member carries
    rw [requestAt_same requests] at carries
    exact intact.keep move spared (part number member) carries (requestAt_same requests number)
      (untouched number member carries)

theorem Intact.error_untouched (intact : Intact settings scene unanswered)
    (said : Said settings .serverToClient scene after entry data next inner)
    (kind : entry.handler = some .error) (member : choice ∈ unanswered)
    (number : numberOf settings scene.conn.byteswap entry.bytes = choice % 2^16) :
    ∀ other ∈ unanswered.erase choice,named (scene.requestAt other) = true →
      Untouched scene after (other % 2^16) := by
  intro other inside carries
  obtain ⟨different,another⟩ := (intact.originated.nodup.mem_erase_iff).mp inside
  apply said.error_untouched kind
  rw [number]
  intro same
  exact different (intact.apart other another carries choice member same.symm).symm

theorem Intact.reply_untouched (intact : Intact settings scene unanswered)
    (said : Said settings .serverToClient scene after entry data next inner)
    (kind : entry.handler = some .reply) (member : choice ∈ unanswered)
    (number : numberOf settings scene.conn.byteswap entry.bytes = choice % 2^16) :
    ∀ other ∈ (if continued (scene.requestAt choice) entry.bytes then unanswered
        else unanswered.erase choice),
      other ∈ unanswered ∧ (named (scene.requestAt other) = true →
        Untouched scene after (other % 2^16)) := by
  intro other inside
  have part : other ∈ unanswered := by
    split at inside
    · exact inside
    · exact List.mem_of_mem_erase inside
  refine ⟨part,fun carries => ?_⟩
  apply said.reply_untouched kind
  rw [number]
  intro same
  have chosen := intact.apart other part carries choice member same.symm
  subst chosen
  split at inside
  · rename_i more
    simp only [continued,Bool.and_eq_true,decide_eq_true_eq] at more
    rw [named,more.1] at carries
    cases carries
  · exact intact.originated.nodup.not_mem_erase inside

theorem Intact.earlier (intact : Intact settings scene unanswered)
    (said : Said settings .clientToServer scene after entry data next inner)
    (kind : entry.handler = some .request) {number : Nat} (member : number ∈ unanswered) :
    after.requestAt number = scene.requestAt number := by
  obtain ⟨positive,inside⟩ := intact.originated.bound number member
  exact requestAt_append (asked_request said kind) inside positive

theorem Intact.turn (intact : Intact settings scene unanswered) :
    ((asked scene.history).length + 1) % 2^16 = (scene.conn.sequence + 1) % 2^16 := by
  have numbered := intact.originated.numbered
  omega

theorem Intact.request_apart (intact : Intact settings scene unanswered)
    (said : Said settings .clientToServer scene after entry data next inner)
    (kind : entry.handler = some .request)
    (clear : ∀ number ∈ unanswered,number % 2^16 = ((asked scene.history).length + 1) % 2^16 →
      named (scene.requestAt number) = false ∧ named entry.bytes = false) :
    ∀ number ∈ unanswered ++ [(asked scene.history).length + 1],named (after.requestAt number) = true →
      ∀ other ∈ unanswered ++ [(asked scene.history).length + 1],
        other % 2^16 = number % 2^16 → other = number := by
  have last := requestAt_last (asked_request said kind)
  intro number member carries other another same
  rcases List.mem_append.mp member with old | fresh
  · rw [intact.earlier said kind old] at carries
    rcases List.mem_append.mp another with early | late
    · exact intact.apart number old carries other early same
    · rw [List.mem_singleton] at late
      subst late
      rw [(clear number old same.symm).1] at carries
      cases carries
  · rw [List.mem_singleton] at fresh
    subst fresh
    rw [last] at carries
    rcases List.mem_append.mp another with early | late
    · rw [(clear other early same).2] at carries
      cases carries
    · exact List.mem_singleton.mp late

theorem Intact.request_holds (intact : Intact settings scene unanswered)
    (said : Said settings .clientToServer scene after entry data next inner)
    (kind : entry.handler = some .request)
    (clear : ∀ number ∈ unanswered,number % 2^16 = ((asked scene.history).length + 1) % 2^16 →
      named (scene.requestAt number) = false ∧ named entry.bytes = false)
    (standard : Dispatch.Standard scene.parser)
    (move : Move settings direction scene label after) (carries : named entry.bytes = true) :
    Holds settings after ((asked scene.history).length + 1) := by
  have last := requestAt_last (asked_request said kind)
  have turn := intact.turn
  have id : after.conn.id = scene.conn.id := ExtensionNames.Move.numbered move
  refine ⟨?_,?_⟩
  · rw [last,(said.registered kind).2,turn]
    dsimp only
    rw [if_pos rfl]
    -- an entry would be that of a request with the same number
    cases before : scene.conn.requestOpcodesBySeqNum ((scene.conn.sequence + 1) % 2^16) with
    | none => rfl
    | some opcodes =>
      obtain ⟨old,early,same,_⟩ := intact.originated.origin _ _ before
      rw [(clear old early (same.trans turn.symm)).2] at carries
      cases carries
  · rw [last,id,turn]
    cases said.stashing kind standard with
    | unnamed plain kept =>
      rw [plain] at carries
      cases carries
    | stashed _ view absent left shown =>
      refine ⟨view,?_,?_⟩
      · rw [left]
        exact if_pos ⟨rfl,rfl⟩
      · rw [move.order_opened (said.request_order kind).1]
        exact shown

/-- A step that finds names stashed keeps those that are still needed. -/
theorem Intact.move (intact : Intact settings scene unanswered)
    (standard : Dispatch.Standard scene.parser) (move : Move settings direction scene label after)
    (answers : scene.Answers settings label choice unanswered)
    (distinct : scene.Apart settings label choice unanswered)
    (spared : ∀ result,label = .receive scene.conn.id .clientToServer result →
      scene.Spared unanswered (SocketBuffer.arrived result)) :
    Intact settings after (scene.settle settings label choice unanswered) := by
  have deed := move.deed answers
  generalize scene.settle settings label choice unanswered = settled at deed ⊢
  have originated := intact.originated.deed deed
  cases deed with
  | quiet quiet =>
    apply intact.fewer move spared _ originated (fun _ member => member)
      (fun number _ _ => quiet.untouched _)
    rw [asked,asked,quiet.handed]
  | aside handing said request reply error =>
    exact intact.fewer move spared (asked_other said request) originated (fun _ member => member)
      (fun number _ _ => said.untouched request reply error _)
  | error handing said kind member number =>
    exact intact.fewer move spared (asked_other said (by simp [kind])) originated
      (fun _ => List.mem_of_mem_erase) (intact.error_untouched said kind member number)
  | reply handing said kind member number =>
    have kept := intact.reply_untouched said kind member number
    exact intact.fewer move spared (asked_other said (by simp [kind])) originated
      (fun other inside => (kept other inside).1) (fun other inside => (kept other inside).2)
  | @request entry data next inner handing said kind =>
    have clear (number : Nat) (member : number ∈ unanswered)
        (same : number % 2^16 = ((asked scene.history).length + 1) % 2^16) :
        named (scene.requestAt number) = false ∧ named entry.bytes = false := by
      exact distinct entry (by rw [handing]; exact List.mem_singleton.mpr rfl) kind number member same
    refine ⟨originated,fun _ => move.opened (said.request_order kind).1,
      intact.request_apart said kind clear,?_⟩
    intro number member carries
    rcases List.mem_append.mp member with old | fresh
    · rw [intact.earlier said kind old] at carries
      apply intact.keep move spared old carries (intact.earlier said kind old)
      apply said.request_untouched kind standard
      intro same
      rw [(clear number old (same.trans (intact.turn).symm)).1] at carries
      cases carries
    · rw [List.mem_singleton] at fresh
      subst fresh
      rw [requestAt_last (asked_request said kind)] at carries
      exact intact.request_holds said kind clear standard move carries

theorem Intact.opening (parser : X11ProtocolParser) (serial : Nat) :
    Intact settings (Scene.opening parser serial) [] := by
  refine ⟨⟨rfl,List.nodup_nil,?_,?_⟩,?_,?_,?_⟩
  · intro number member
    cases member
  · intro seqNum opcodes found
    cases found
  · intro begun
    exact absurd rfl begun
  · intro number member
    cases member
  · intro number member
    cases member

theorem Intact.elsewhere {parser : X11ProtocolParser} (intact : Intact settings scene unanswered)
    (stash : ∀ seqNum,parser.stashedStrings scene.conn.id seqNum =
      scene.parser.stashedStrings scene.conn.id seqNum) :
    Intact settings { scene with parser } unanswered := by
  refine ⟨⟨intact.originated.numbered,intact.originated.nodup,intact.originated.bound,
    intact.originated.origin⟩,intact.opened,intact.apart,?_⟩
  intro number member carries
  obtain ⟨view,entry,shown⟩ := (intact.kept number member carries).shown
  exact ⟨(intact.kept number member carries).registered,view,(stash _).trans entry,shown⟩

/-- What the reply to a request finds under its number: the name that the request carried. -/
def Named (settings : Settings) (scene : Scene) (number : Nat) : Prop :=
  ∃ view,(∃ parser,scene.parser.unstashString scene.conn.id (number % 2^16) = .ok (parser,view)) ∧
    view.chars scene.conn.clientBuffer.buffer =
      .ok (nameIn settings scene.conn.byteswap (scene.requestAt number))

theorem Holds.named (holds : Holds settings scene number) : scene.Named settings number := by
  obtain ⟨view,entry,shown⟩ := holds.shown
  refine ⟨view,?_,shown⟩
  rw [X11ProtocolParser.unstashString,entry]
  exact ⟨_,rfl⟩

end Scene

namespace Talk

variable {settings : Settings} {predefined : Nat → Option (List UInt8)} {talk : Talk} {id : Nat}

/-- What arrives from a client leaves the names of its requests where they are. -/
def Spares (talk : Talk) : Label → Prop
  | .receive id .clientToServer result => ∀ scene ∈ talk.world.scene id,
      scene.Spared (talk.unanswered id) (SocketBuffer.arrived result)
  | _ => True

instance (talk : Talk) (label : Label) : Decidable (talk.Spares label) :=
  match label with
  | .receive _ .clientToServer _ => inferInstanceAs (Decidable (∀ scene ∈ _,_))
  | .receive _ .serverToClient _ | .accept | .round | .send _ _ _ | .pollError _ =>
    inferInstanceAs (Decidable True)

/-- Names are not read over while they are needed, and their requests have numbers of their own. -/
def Guarded (settings : Settings) (talk : Talk) (label : Label × Nat) : Prop :=
  Where (Scene.Apart settings) talk label ∧ talk.Spares label.1

instance (settings : Settings) (talk : Talk) (label : Label × Nat) :
    Decidable (Guarded settings talk label) :=
  inferInstanceAs (Decidable (_ ∧ _))

/-- What a condition says of the connections whose messages are not logged, too, if it is about
messages only. -/
theorem Where.everywhere {holds : Scene → Label → Nat → List Nat → Prop} {label : Label × Nat}
    {scene : Scene} (given : Where holds talk label) (known : talk.world.scene id = some scene)
    (idle : scene.handing settings label.1 = [] →
      holds scene label.1 label.2 (talk.unanswered id)) :
    holds scene label.1 label.2 (talk.unanswered id) := by
  by_cases quiet : scene.handing settings label.1 = []
  · exact idle quiet
  · obtain ⟨_,place,running⟩ := Scene.handing_some quiet
    exact given.move known running

theorem Where.apart {label : Label × Nat} {scene : Scene}
    (given : Where (Scene.Apart settings) talk label) (known : talk.world.scene id = some scene) :
    scene.Apart settings label.1 label.2 (talk.unanswered id) := by
  apply given.everywhere known
  intro quiet entry member
  rw [quiet] at member
  cases member

theorem Where.answers {label : Label × Nat} {scene : Scene}
    (given : Where (Scene.Answers settings) talk label) (known : talk.world.scene id = some scene) :
    scene.Answers settings label.1 label.2 (talk.unanswered id) := by
  apply given.everywhere known
  intro quiet entry member
  rw [quiet] at member
  cases member

theorem Spares.spared {label : Label} {scene : Scene} (spares : talk.Spares label)
    (known : talk.world.scene id = some scene) (keyed : scene.conn.id = id) (result : RecvResult)
    (receives : label = .receive scene.conn.id .clientToServer result) :
    scene.Spared (talk.unanswered id) (SocketBuffer.arrived result) := by
  subst receives
  rw [keyed] at spares
  exact spares scene known

theorem reached_intact {condition : Talk → Label × Nat → Prop}
    (guarded : ∀ talk label,condition talk label → Guarded settings talk label)
    (reached : Reached settings predefined condition talk) {scene : Scene}
    (found : talk.world.scene id = some scene) :
    scene.Intact settings (talk.unanswered id) := by
  apply invariant (Scene.Intact settings) ?_ ?_ ?_ reached found
  · intro talk _ _ _
    exact Scene.Intact.opening _ _
  · intro talk label id scene after direction before _ answers given known intact move
    obtain ⟨apart,spares⟩ := guarded talk label given
    obtain ⟨present,parser,_⟩ := World.scene_found known
    have standard : Dispatch.Standard scene.parser := by
      rw [parser]
      exact Dispatch.reached_standard (reached_world before)
    exact intact.move standard move (answers.answers known) (apart.apart known)
      (spares.spared known (World.reached_keyed (reached_world before) _ _ present))
  · intro scene parser unanswered stash _ intact
    exact intact.elsewhere stash

/-- InternAtom for a name of two bytes. -/
def atomRequest : List UInt8 := [16,0,3,0,2,0,0,0,65,66,0,0]

end Talk
namespace Scene

variable {settings : Settings} {direction : Direction} {scene after : Scene} {label : Label}
  {unanswered : List Nat} {choice : Nat}

/-- No error comes for a request whose name is stashed, and no InternAtom reply without an atom. -/
def Concluded (settings : Settings) (scene : Scene) (label : Label) (choice : Nat) (_ : List Nat) : Prop :=
  ∀ entry ∈ scene.handing settings label,
    (entry.handler = some .error → named (scene.requestAt choice) = false) ∧
      (entry.handler = some .reply → (scene.requestAt choice).getD 0 0 = Opcodes.internAtom →
        ordered settings.littleEndian scene.conn.byteswap
          (Library.Framing.slice entry.bytes 8 4) ≠ 0)

instance (settings : Settings) (scene : Scene) (label : Label) (choice : Nat)
    (unanswered : List Nat) : Decidable (Concluded settings scene label choice unanswered) :=
  inferInstanceAs (Decidable (∀ entry ∈ _,(_ → _) ∧ (_ → _ → _)))

/-- Every name that is stashed is that of a request which may still be answered. -/
def Needed (scene : Scene) (unanswered : List Nat) : Prop :=
  ∀ seqNum,scene.parser.stashedStrings scene.conn.id seqNum ≠ none →
    ∃ number ∈ unanswered,named (scene.requestAt number) = true ∧ number % 2^16 = seqNum

theorem Said.taken {entry : Handed} {data : Nat} {next : Connection} {inner : Logged}
    (said : Said settings .serverToClient scene after entry data next inner)
    (kind : entry.handler = some .reply) (standard : Dispatch.Standard scene.parser)
    (holds : Holds settings scene choice) (carries : named (scene.requestAt choice) = true)
    (number : numberOf settings scene.conn.byteswap entry.bytes = choice % 2^16)
    (atom : (scene.requestAt choice).getD 0 0 = Opcodes.internAtom →
      ordered settings.littleEndian scene.conn.byteswap
        (Library.Framing.slice entry.bytes 8 4) ≠ 0) :
    after.parser.stashedStrings scene.conn.id (choice % 2^16) = none := by
  obtain ⟨long,parsed,opcodes,func,replied⟩ := said.reply kind
  obtain ⟨id,registry,_,_,_⟩ := said.next_fields
  have looked := replied.looked
  rw [Connection.lookupRequest,registry,number,holds.registered] at looked
  cases looked
  obtain ⟨interned,queried⟩ := replyParseFunc_named standard replied.chosen
  rw [said.parser,replied.parser]
  rcases parseReply_success replied.called with
    ⟨_,turn,value,naming⟩ | ⟨_,_,turn,view,name,query⟩ | ⟨other,different,_⟩
  · have same := said.number (by omega) naming.numbered
    obtain ⟨_,valued⟩ := Storage.field_success naming.valued
    change value = ordered settings.littleEndian next.byteswap
      (window (next.buffer .serverToClient).buffer.cells (data + 8) 4) at valued
    rw [said.slice (by omega),said.order] at valued
    have nonzero : value ≠ 0 := by
      rw [valued]
      exact atom (interned.mp (by assumption))
    obtain ⟨_,_,_,_,left⟩ := naming.named nonzero
    rw [left]
    exact if_pos ⟨id.symm,(same.trans number).symm⟩
  · have same := said.number (by omega) query.numbered
    rw [query.reported]
    exact if_pos ⟨id.symm,(same.trans number).symm⟩
  · exfalso
    simp only [named,Bool.or_eq_true,beq_iff_eq] at carries
    rcases carries with here | here
    · exact other (interned.mpr here)
    · exact different (queried.mpr here)

/-- Names stay needed when none is new and no request that has one is concluded. -/
theorem Needed.still (needed : Needed scene unanswered) {settled : List Nat}
    (id : after.conn.id = scene.conn.id) (requests : asked after.history = asked scene.history)
    (kept : ∀ seqNum,after.parser.stashedStrings scene.conn.id seqNum ≠ none →
      scene.parser.stashedStrings scene.conn.id seqNum ≠ none ∧
        ∀ number ∈ unanswered,named (scene.requestAt number) = true → number % 2^16 = seqNum →
          number ∈ settled) : Needed after settled := by
  intro seqNum found
  rw [id] at found
  obtain ⟨before,remains⟩ := kept seqNum found
  obtain ⟨number,member,carries,same⟩ := needed seqNum before
  refine ⟨number,remains number member carries same,?_,same⟩
  rw [requestAt_same requests]
  exact carries

/-- A request that has a name is answered by a reply that takes the name out. -/
theorem Needed.reply {entry : Handed} {data : Nat} {next : Connection} {inner : Logged}
    (intact : Intact settings scene unanswered)
    (standard : Dispatch.Standard scene.parser)
    (said : Said settings .serverToClient scene after entry data next inner)
    (kind : entry.handler = some .reply)
    (number : numberOf settings scene.conn.byteswap entry.bytes = choice % 2^16)
    (atom : (scene.requestAt choice).getD 0 0 = Opcodes.internAtom →
      ordered settings.littleEndian scene.conn.byteswap
        (Library.Framing.slice entry.bytes 8 4) ≠ 0)
    {seqNum : Nat} (found : after.parser.stashedStrings scene.conn.id seqNum ≠ none) :
    scene.parser.stashedStrings scene.conn.id seqNum ≠ none ∧
      ∀ other ∈ unanswered,named (scene.requestAt other) = true → other % 2^16 = seqNum →
        other ∈ if continued (scene.requestAt choice) entry.bytes then unanswered
          else unanswered.erase choice := by
  refine ⟨?_,?_⟩
  · rcases said.unstashed kind seqNum with same | ⟨_,gone⟩
    · rw [← same]
      exact found
    · exact absurd gone found
  · intro other inside carries same
    by_cases chosen : other = choice
    · subst chosen same
      exact absurd (said.taken kind standard (intact.kept other inside carries) carries number atom) found
    · split
      · exact inside
      · exact (intact.originated.nodup.mem_erase_iff).mpr ⟨chosen,inside⟩

/-- A new request adds at most its own name. -/
theorem Needed.request {entry : Handed} {data : Nat} {next : Connection} {inner : Logged}
    (needed : Needed scene unanswered) (intact : Intact settings scene unanswered)
    (standard : Dispatch.Standard scene.parser) (id : after.conn.id = scene.conn.id)
    (said : Said settings .clientToServer scene after entry data next inner)
    (kind : entry.handler = some .request) :
    Needed after (unanswered ++ [(asked scene.history).length + 1]) := by
  -- the names that were stashed before
  have earlier (seqNum : Nat) (found : scene.parser.stashedStrings scene.conn.id seqNum ≠ none) :
      ∃ number ∈ unanswered ++ [(asked scene.history).length + 1],
        named (after.requestAt number) = true ∧ number % 2^16 = seqNum := by
    obtain ⟨number,member,carries,same⟩ := needed seqNum found
    refine ⟨number,List.mem_append_left _ member,?_,same⟩
    rw [intact.earlier said kind member]
    exact carries
  intro seqNum found
  rw [id] at found
  cases said.stashing kind standard with
  | unnamed plain kept =>
    rw [kept] at found
    exact earlier seqNum found
  | stashed carries view absent left shown =>
    rw [left] at found
    by_cases here : seqNum = (scene.conn.sequence + 1) % 2^16
    · refine ⟨_,List.mem_append_right _ (List.mem_singleton.mpr rfl),?_,intact.turn.trans here.symm⟩
      rw [requestAt_last (asked_request said kind)]
      exact carries
    · apply earlier seqNum
      intro none
      apply found
      exact (if_neg (fun both => here both.2)).trans none

theorem Needed.move (needed : Needed scene unanswered) (intact : Intact settings scene unanswered)
    (standard : Dispatch.Standard scene.parser) (move : Move settings direction scene label after)
    (answers : scene.Answers settings label choice unanswered)
    (concluded : scene.Concluded settings label choice unanswered) :
    Needed after (scene.settle settings label choice unanswered) := by
  have deed := move.deed answers
  have id : after.conn.id = scene.conn.id := ExtensionNames.Move.numbered move
  generalize scene.settle settings label choice unanswered = settled at deed ⊢
  cases deed with
  | quiet quiet =>
    apply needed.still id (by rw [asked,asked,quiet.handed])
    intro seqNum found
    rw [(quiet.untouched seqNum).stash] at found
    exact ⟨found,fun _ member _ _ => member⟩
  | aside handing said request reply error =>
    apply needed.still id (asked_other said request)
    intro seqNum found
    rw [(said.untouched request reply error seqNum).stash] at found
    exact ⟨found,fun _ member _ _ => member⟩
  | @error entry data next inner handing said kind member number =>
    have plain := (concluded entry (by rw [handing]; exact List.mem_singleton.mpr rfl)).1 kind
    apply needed.still id (asked_other said (by simp [kind]))
    intro seqNum found
    rw [said.parser,(said.error kind).1] at found
    refine ⟨found,?_⟩
    intro other inside carries _
    apply (intact.originated.nodup.mem_erase_iff).mpr
    refine ⟨?_,inside⟩
    intro chosen
    subst chosen
    rw [plain] at carries
    cases carries
  | @reply entry data next inner handing said kind member number =>
    have atom := (concluded entry (by rw [handing]; exact List.mem_singleton.mpr rfl)).2 kind
    apply needed.still id (asked_other said (by simp [kind]))
    intro seqNum found
    exact Needed.reply intact standard said kind number atom found
  | request handing said kind =>
    exact needed.request intact standard id said kind

end Scene
namespace Proxy

/-- Connections, and the names stashed for them, have numbers that were given out. -/
structure Numbered (proxy : Proxy) : Prop where
  connections : ∀ id,proxy.connections id ≠ none → id < proxy.accepted
  names : ∀ id seqNum,proxy.parser.stashedStrings id seqNum ≠ none → id < proxy.accepted

theorem Numbered.step {settings : Settings} {proxy after : Proxy} {label : Label}
    (numbered : Numbered proxy) (keyed : proxy.Keyed) (step : StepCase settings proxy label after) :
    Numbered after := by
  have replaced {id : Nat} {conn : Option Connection} {parser : X11ProtocolParser} {loop : Option Loop}
      (present : conn ≠ none → proxy.connections id ≠ none)
      (names : ∀ other seqNum,parser.stashedStrings other seqNum ≠ none → other < proxy.accepted) :
      Numbered { proxy.withConnection id conn with parser,loop } := by
    refine ⟨?_,names⟩
    intro other found
    by_cases here : other = id
    · rw [here]
      apply numbered.connections id
      apply present
      intro none
      exact found ((if_pos here).trans none)
    · apply numbered.connections other
      intro none
      exact found ((if_neg here).trans none)
  cases step with
  | accept idle =>
    refine ⟨?_,fun id seqNum found => Nat.lt_succ_of_lt (numbered.names id seqNum found)⟩
    intro id found
    by_cases here : id = proxy.accepted % 2^32
    · rw [here]
      exact Nat.lt_succ_of_le (Nat.mod_le _ _)
    · apply Nat.lt_succ_of_lt (numbered.connections id _)
      intro none
      exact found ((if_neg here).trans none)
  | readClosed id direction result conn idle present =>
    exact replaced (fun begun => absurd rfl begun) numbered.names
  | received id direction result conn next idle present polled fits read =>
    exact replaced (by simp [present]) numbered.names
  | lost loop running absent => exact ⟨numbered.connections,numbered.names⟩
  | finished loop conn next running present round =>
    exact replaced (by simp [present]) numbered.names
  | refused loop conn text running present round =>
    exact replaced (fun begun => absurd rfl begun) numbered.names
  | handled loop conn handler logged running present round =>
    apply replaced (by simp [present])
    intro id seqNum found
    by_cases here : id = loop.id
    · rw [here]
      exact numbered.connections loop.id (by simp [present])
    · apply numbered.names id seqNum
      rw [(handled_frame round).2.stash id seqNum (by rw [keyed _ _ present]; exact here)] at found
      exact found
  | sendClosed id direction result conn idle present =>
    exact replaced (fun begun => absurd rfl begun) numbered.names
  | sent id direction result conn next idle present polled fits written =>
    exact replaced (by simp [present]) numbered.names
  | pollError id idle => exact replaced (fun begun => absurd rfl begun) numbered.names

end Proxy

theorem World.reached_numbered {settings : Settings} {predefined : Nat → Option (List UInt8)}
    {condition : World → Label → Prop} {world : World}
    (reached : World.Reached settings predefined condition world) : world.proxy.Numbered := by
  induction reached with
  | start initial =>
    subst initial
    exact ⟨fun id found => absurd rfl found,fun id seqNum found => absurd rfl found⟩
  | next label before given taken ih =>
    exact ih.step (reached_keyed before) (Proxy.step_case given.1 (step_success taken).1)

namespace Talk

variable {settings : Settings} {predefined : Nat → Option (List UInt8)} {talk : Talk} {id : Nat}

/-- Guarded runs in which the server has an atom or an extension for every name it is asked, and in
which the numbers of connections do not start again. -/
def Obliging (settings : Settings) (talk : Talk) (label : Label × Nat) : Prop :=
  Guarded settings talk label ∧ Where (Scene.Concluded settings) talk label ∧
    (label.1 = .accept → talk.world.proxy.accepted < 2^32)

instance (settings : Settings) (talk : Talk) (label : Label × Nat) :
    Decidable (Obliging settings talk label) :=
  inferInstanceAs (Decidable (_ ∧ _ ∧ (_ → _)))

theorem reached_needed (reached : Reached settings predefined (Obliging settings) talk) {scene : Scene}
    (found : talk.world.scene id = some scene) : scene.Needed (talk.unanswered id) := by
  have guarded (talk : Talk) (label : Label × Nat) (given : Obliging settings talk label) :
      Guarded settings talk label := given.1
  apply invariant Scene.Needed ?_ ?_ ?_ reached found
  · intro talk choice before given seqNum stashed
    exfalso
    have few := given.2.2 rfl
    have bound := (World.reached_numbered (reached_world before)).names _ _ stashed
    change talk.world.proxy.accepted % 2^32 < talk.world.proxy.accepted at bound
    rw [Nat.mod_eq_of_lt few] at bound
    exact Nat.lt_irrefl _ bound
  · intro talk label id scene after direction before _ answers given known needed move
    have standard : Dispatch.Standard scene.parser := by
      rw [(World.scene_found known).2.1]
      exact Dispatch.reached_standard (reached_world before)
    apply needed.move (reached_intact guarded before known) standard move (answers.answers known)
    apply given.2.1.everywhere known
    intro quiet entry member
    rw [quiet] at member
    cases member
  · intro scene parser unanswered stash _ needed seqNum stashed
    rw [stash] at stashed
    exact needed seqNum stashed

end Talk
end Xtracepp
