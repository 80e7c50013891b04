import Xtracepp.Lane
import Xtracepp.Library.Runs

/-! The loop of `logClientMessages` on an open connection: that it ends, and what its rounds
take from the buffer.
-/
namespace Xtracepp
open Library Library.Outcome Library.Window

namespace RequestProgress

/-- What the loop carries from one round to the next. -/
structure LoopState where
  parser : X11ProtocolParser
  conn : Connection
  data : Nat

def start (parser : X11ProtocolParser) (conn : Connection) : LoopState :=
  ⟨parser,conn,conn.clientBuffer.data⟩

/-- A round that hands a message over, which is not the last one. -/
def Handles (settings : Settings) (state : LoopState) (handler : Option Handler) (after : LoopState) :
    Prop :=
  ∃ logged,
    messageRound settings .clientToServer state.parser state.conn state.data =
      .ok (.handled handler logged) ∧
    after = ⟨logged.parser,logged.conn,state.data + logged.bytesParsed⟩

/-- The states in which a call of `logClientMessages` starts a round. -/
abbrev Iterates (settings : Settings) (parser : X11ProtocolParser) (conn : Connection) :
    LoopState → Prop :=
  Runs.Reached (· = start parser conn) (Handles settings) fun _ _ => True

/-- The size of the header of the request at `data`. -/
def headerSz (settings : Settings) (conn : Connection) (data : Nat) : Nat :=
  requestHeaderSz (ordered settings.littleEndian false (window conn.clientBuffer.buffer.cells (data + 2) 2))

/-- The size that a round works with. -/
def Framed (settings : Settings) (conn : Connection) (data messageSz : Nat) : Prop :=
  (conn.clientBuffer.messageSizeSet = true ∧ messageSz = conn.clientBuffer.nextMessageSz) ∨
    (conn.clientBuffer.messageSizeSet = false ∧ ∃ header,
      measureMessage settings .clientToServer conn data = .ok (.sized conn.byteswap messageSz header))

section sizes

variable {settings : Settings} {parser : X11ProtocolParser} {conn : Connection} {data messageSz : Nat}

theorem leastFirst_zero {bytes : List UInt8} : leastFirst bytes = 0 ↔ ∀ byte ∈ bytes,byte = 0 := by
  induction bytes with
  | nil => simp [leastFirst]
  | cons byte bytes ih =>
    rw [leastFirst,List.forall_mem_cons,← ih]
    constructor
    · intro zero
      refine ⟨UInt8.toNat.inj ?_,?_⟩
      · change byte.toNat = 0
        omega
      · omega
    · intro zero
      obtain ⟨first,rest⟩ := zero
      rw [first,rest]
      rfl

theorem ordered_zero {littleEndian byteswap : Bool} {bytes : List UInt8} :
    ordered littleEndian byteswap bytes = 0 ↔ ∀ byte ∈ bytes,byte = 0 := by
  cases littleEndian <;> cases byteswap <;> simp [ordered,loaded,leastFirst_zero]

theorem framed_accepted (framed : Framed settings conn data messageSz) {text : String} :
    messageRound settings .clientToServer parser conn data ≠ .ok (.refused text) := by
  intro round
  cases messageRound_case round with
  | refused _ unset measured =>
    rcases framed with ⟨set,_⟩ | ⟨_,header,sized⟩
    · change conn.clientBuffer.messageSizeSet = false at unset
      rw [set] at unset
      cases unset
    · rw [measured] at sized
      cases sized

end sizes

section rounds

variable {settings : Settings} {parser : X11ProtocolParser} {conn : Connection} {data : Nat}
  {handler : Option Handler} {logged : Logged}

/-- An open connection, with what the loop has gone over behind `data`. -/
structure Within (conn : Connection) (data : Nat) : Prop where
  opened : conn.status = .opened
  sound : conn.clientBuffer.Sound
  behind : data ≤ conn.clientBuffer.data + conn.clientBuffer.parsed

theorem handOver_logged (opened : conn.status = .opened)
    (given : handOver settings .clientToServer parser conn data = .ok (handler,logged)) :
    ∃ request major minor,RequestLogged settings parser conn data conn.clientBuffer.messageSize request
      major minor := by
  obtain ⟨_,given⟩ := demand_bind_success given
  obtain ⟨selected,chosen,given⟩ := bind_success given
  obtain ⟨request,ran,_⟩ := bind_success given
  unfold selectHandler at chosen
  rw [opened] at chosen
  cases chosen
  exact ⟨request,logRequest_success ran⟩

theorem Within.known (within : Within conn data) {next : Connection} {messageSz : Nat}
    (known : Known settings .clientToServer conn data next messageSz) :
    Framed settings conn data messageSz ∧ next.status = .opened ∧ next.clientBuffer.Sound := by
  have sound := within.sound
  have opened : next.status = .opened := known.status.trans within.opened
  have buffer : next.clientBuffer = { conn.clientBuffer with nextMessageSz := messageSz } := known.buffer
  rw [buffer]
  rcases known.origin with ⟨set,same,_⟩ | ⟨unset,small,header,measured,order⟩
  · refine ⟨.inl ⟨set,same⟩,opened,{ sound with pendingLt := ?_ }⟩
    rw [same]
    exact sound.pendingLt
  · rw [order (.inl (by simp [within.opened]))] at measured
    refine ⟨.inr ⟨unset,header,measured⟩,opened,{ sound with pendingLt := ?_ }⟩
    dsimp only
    omega

/-- A round that hands over a request takes the framed size, at least four bytes, off what is
left of the received ones. -/
theorem Within.handled (within : Within conn data)
    (round : messageRound settings .clientToServer parser conn data = .ok (.handled handler logged)) :
    Framed settings conn data logged.bytesParsed ∧ 4 ≤ logged.bytesParsed ∧
      conn.clientBuffer.parsed + logged.bytesParsed ≤ conn.clientBuffer.size ∧
      logged.conn.status = .opened ∧
      logged.conn.clientBuffer = { conn.clientBuffer with
        bytesParsed := conn.clientBuffer.bytesParsed + logged.bytesParsed
        nextMessageSz := SocketBuffer.unknownSz } := by
  have sound := within.sound
  obtain ⟨next,messageSz,inner,handling⟩ := handled_left round
  have known := handling.known
  have effect := handOver_effect handling.given
  obtain ⟨framed,opened,again⟩ := within.known known
  obtain ⟨_,_,_,done⟩ := handOver_logged opened handling.given
  have long := done.long
  have buffer : next.clientBuffer = { conn.clientBuffer with nextMessageSz := messageSz } := known.buffer
  have kept : inner.conn.clientBuffer = next.clientBuffer := by
    rcases effect.same with same | ⟨_,server,_⟩
    · exact same
    · cases server
  have size : logged.bytesParsed = messageSz := handling.size
  rw [buffer,SocketBuffer.messageSize] at long
  dsimp only at long
  have bound : conn.clientBuffer.parsed + messageSz ≤ conn.clientBuffer.size := by
    have whole := handling.complete
    change next.clientBuffer.incompleteMessage = false at whole
    have part : ¬_ := (not_congr (Lane.incomplete_iff again)).mp (by simp [whole])
    rw [buffer] at part
    have pending : conn.clientBuffer.bytesParsed < conn.clientBuffer.size := handling.pending
    by_contra beyond
    apply part
    refine ⟨pending,fun _ => ?_⟩
    change conn.clientBuffer.size - conn.clientBuffer.bytesParsed < messageSz
    change ¬conn.clientBuffer.bytesParsed + messageSz ≤ conn.clientBuffer.size at beyond
    omega
  obtain ⟨after,marked,left⟩ := handling.left
  change inner.conn.clientBuffer.markMessageParsed = .ok after at marked
  rw [kept,buffer] at marked
  obtain ⟨_,marked⟩ := demand_bind_success marked
  obtain ⟨_,marked⟩ := demand_bind_success marked
  have bounded := sound.read_lt
  have total := sound.size_eq
  change conn.clientBuffer.bytesParsed + messageSz ≤ conn.clientBuffer.size at bound
  have sum : add64 conn.clientBuffer.bytesParsed messageSz = conn.clientBuffer.bytesParsed + messageSz :=
    add64_small (by omega)
  dsimp only at marked
  rw [sum] at marked
  cases marked
  rw [left,size]
  refine ⟨framed,long,bound,?_,rfl⟩
  change inner.conn.status = .opened
  rw [effect.status,if_neg (by simp),opened]

theorem Within.start (opened : conn.status = .opened) (sound : conn.clientBuffer.Sound) :
    Within conn conn.clientBuffer.data :=
  ⟨opened,sound,Nat.le_add_right _ _⟩

theorem Within.next (within : Within conn data)
    (round : messageRound settings .clientToServer parser conn data = .ok (.handled handler logged)) :
    Within logged.conn (data + logged.bytesParsed) := by
  obtain ⟨_,_,bound,opened,left⟩ := within.handled round
  have sound := within.sound
  have total := sound.size_eq
  have behind := within.behind
  change conn.clientBuffer.bytesParsed + logged.bytesParsed ≤ conn.clientBuffer.size at bound
  refine ⟨opened,?_,?_⟩
  · rw [left]
    exact { sound with
      parsedLe := by
        dsimp only
        omega
      pendingLt := by
        dsimp only
        decide }
  · rw [left]
    change data + logged.bytesParsed ≤
      conn.clientBuffer.data + (conn.clientBuffer.bytesParsed + logged.bytesParsed)
    change data ≤ conn.clientBuffer.data + conn.clientBuffer.bytesParsed at behind
    omega

theorem Iterates.within (opened : conn.status = .opened) (sound : conn.clientBuffer.Sound)
    {state : LoopState} (iterates : Iterates settings parser conn state) :
    Within state.conn state.data := by
  apply iterates.invariant (fun state => Within state.conn state.data)
  · intro state first
    subst first
    exact Within.start opened sound
  · intro state handler after within _ step
    obtain ⟨logged,round,same⟩ := step
    subst same
    exact within.next round

/-- With more rounds than bytes that are not parsed, the loop comes to its end. -/
theorem messageLoop_ends {fuel total : Nat} (within : Within conn data)
    (enough : conn.clientBuffer.size < conn.clientBuffer.parsed + fuel) :
    messageLoop settings .clientToServer fuel parser conn data total ≠ .ok none := by
  induction fuel generalizing parser conn data total with
  | zero =>
    have bound := within.sound.parsed_le
    change conn.clientBuffer.size < conn.clientBuffer.bytesParsed + 0 at enough
    omega
  | succ fuel ih =>
    intro endless
    rw [messageLoop] at endless
    obtain ⟨round,ran,endless⟩ := bind_success endless
    cases round with
    | finished conn => cases endless
    | refused text => cases endless
    | handled handler logged =>
      obtain ⟨_,some,_,_,left⟩ := within.handled ran
      refine ih (within.next ran) ?_ endless
      rw [left]
      change conn.clientBuffer.size < conn.clientBuffer.bytesParsed + logged.bytesParsed + fuel
      change conn.clientBuffer.size < conn.clientBuffer.bytesParsed + (fuel + 1) at enough
      omega

end rounds

/-- An open connection whose client has sent bytes. -/
def opened (bytes : List UInt8) : Connection :=
  { Connection.initial 0 with
    status := .opened
    clientBuffer := (SocketBuffer.initial 0).appended bytes }

theorem opened_sound {bytes : List UInt8} (short : bytes.length ≤ SocketBuffer.blockSz) :
    (opened bytes).clientBuffer.Sound := by
  apply SocketBuffer.appended_sound (SocketBuffer.initial_sound 0)
  change 0 + bytes.length ≤ SocketBuffer.blockSz
  omega

def plain : Settings := Settings.accepting [] (fun _ inside => absurd inside List.not_mem_nil)

def fresh : X11ProtocolParser := X11ProtocolParser.initial fun _ => none

/-- Whether a computation stops for a reason. -/
def stops {α : Type} (fault : Fault) : Checked α → Bool
  | .error other => other = fault
  | .ok _ => false

theorem stops_error {α : Type} {fault : Fault} {outcome : Checked α} (stopped : stops fault outcome = true) :
    outcome = .error fault := by
  cases outcome with
  | error other => rw [of_decide_eq_true stopped]
  | ok result => cases stopped

end RequestProgress
end Xtracepp
