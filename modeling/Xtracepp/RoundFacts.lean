import Xtracepp.HandlerFacts

/-! The ways one round of the loop can end, and what a round that hands over a
message leaves of the connection.
-/
namespace Xtracepp
open Library.Outcome Library.Window

variable {settings : Settings} {direction : Direction} {parser : X11ProtocolParser}
  {conn : Connection} {data : Nat}

/-- The connection once the size of its next message is set. -/
def Connection.withMessageSize (conn : Connection) (direction : Direction) (byteswap : Bool)
    (messageSz : Nat) : Connection :=
  { conn.withBuffer direction { conn.buffer direction with nextMessageSz := messageSz } with byteswap }

inductive SizingCase (settings : Settings) (direction : Direction) (conn : Connection) (data : Nat) :
    Sizing → Prop
  | set (before : (conn.buffer direction).messageSizeSet = true) :
      SizingCase settings direction conn data (.known conn)
  | short (unset : (conn.buffer direction).messageSizeSet = false)
      (measured : measureMessage settings direction conn data = .ok .short) :
      SizingCase settings direction conn data .unknown
  | refused (text : String) (unset : (conn.buffer direction).messageSizeSet = false)
      (measured : measureMessage settings direction conn data = .ok (.refused text)) :
      SizingCase settings direction conn data (.refused text)
  | sized (byteswap : Bool) (messageSz headerSz : Nat)
      (unset : (conn.buffer direction).messageSizeSet = false)
      (measured : measureMessage settings direction conn data =
        .ok (.sized byteswap messageSz headerSz))
      (known : messageSz ≠ SocketBuffer.unknownSz) :
      SizingCase settings direction conn data
        (.known (conn.withMessageSize direction byteswap messageSz))

theorem sizeMessage_case {sizing : Sizing}
    (ok : sizeMessage settings direction conn data = .ok sizing) :
    SizingCase settings direction conn data sizing := by
  unfold sizeMessage at ok
  cases set : (conn.buffer direction).messageSizeSet with
  | true =>
    simp only [set,if_true,pure_ok,Except.ok.injEq] at ok
    subst ok
    exact .set set
  | false =>
    simp only [set,Bool.false_eq_true,if_false] at ok
    obtain ⟨measure,measured,ok⟩ := bind_success ok
    cases measure with
    | short =>
      cases ok
      exact .short set measured
    | refused text =>
      cases ok
      exact .refused text set measured
    | sized byteswap messageSz headerSz =>
      obtain ⟨buffer,sized,ok⟩ := bind_success ok
      obtain ⟨known,sized⟩ := demand_bind_success sized
      obtain ⟨_,sized⟩ := demand_bind_success sized
      cases sized
      cases ok
      exact .sized byteswap messageSz headerSz set measured known

inductive RoundCase (settings : Settings) (direction : Direction) (parser : X11ProtocolParser)
    (conn : Connection) (data : Nat) : Round → Prop
  | drained (all : ¬(conn.buffer direction).parsed < (conn.buffer direction).size) :
      RoundCase settings direction parser conn data (.finished conn)
  | short (pending : (conn.buffer direction).parsed < (conn.buffer direction).size)
      (unset : (conn.buffer direction).messageSizeSet = false)
      (measured : measureMessage settings direction conn data = .ok .short) :
      RoundCase settings direction parser conn data (.finished conn)
  | refused (text : String) (unset : (conn.buffer direction).messageSizeSet = false)
      (measured : measureMessage settings direction conn data = .ok (.refused text)) :
      RoundCase settings direction parser conn data (.refused text)
  | incomplete (known : Connection)
      (pending : (conn.buffer direction).parsed < (conn.buffer direction).size)
      (sizing : SizingCase settings direction conn data (.known known))
      (waiting : (known.buffer direction).incompleteMessage = true) :
      RoundCase settings direction parser conn data (.finished known)
  | handled (known : Connection) (handler : Option Handler) (logged : Logged) (buffer : SocketBuffer)
      (pending : (conn.buffer direction).parsed < (conn.buffer direction).size)
      (sizing : SizingCase settings direction conn data (.known known))
      (complete : (known.buffer direction).incompleteMessage = false)
      (given : handOver settings direction parser known data = .ok (handler,logged))
      (marked : (logged.conn.buffer direction).markMessageParsed = .ok buffer) :
      RoundCase settings direction parser conn data
        (.handled handler { logged with conn := logged.conn.withBuffer direction buffer })

theorem messageRound_case {round : Round}
    (ok : messageRound settings direction parser conn data = .ok round) :
    RoundCase settings direction parser conn data round := by
  unfold messageRound at ok
  by_cases pending : (conn.buffer direction).parsed < (conn.buffer direction).size
  · rw [if_pos pending] at ok
    obtain ⟨sizing,sized,ok⟩ := bind_success ok
    have how := sizeMessage_case sized
    cases sizing with
    | unknown =>
      cases ok
      cases how with
      | short unset measured => exact .short pending unset measured
    | refused text =>
      cases ok
      cases how with
      | refused text unset measured => exact .refused text unset measured
    | known known =>
      cases waiting : (known.buffer direction).incompleteMessage with
      | true =>
        simp only [waiting,if_true,pure_ok,Except.ok.injEq] at ok
        subst ok
        exact .incomplete known pending how waiting
      | false =>
        simp only [waiting,Bool.false_eq_true,if_false] at ok
        obtain ⟨⟨handler,logged⟩,given,ok⟩ := bind_success ok
        obtain ⟨buffer,marked,ok⟩ := bind_success ok
        cases ok
        exact .handled known handler logged buffer pending how waiting given marked
  · rw [if_neg pending] at ok
    cases ok
    exact .drained pending

theorem selectHandler_reply {handler : Option Handler}
    (selected : selectHandler direction conn data = .ok handler)
    (reply : handler = some .reply) : direction = .serverToClient := by
  cases direction with
  | serverToClient => rfl
  | clientToServer =>
    subst reply
    unfold selectHandler at selected
    cases status : conn.status <;> simp [status] at selected

theorem selectHandler_initResponse {handler : Option Handler}
    (selected : selectHandler direction conn data = .ok handler) :
    handler = some .initResponse ↔
      direction = .serverToClient ∧ conn.status = .unestablished := by
  unfold selectHandler at selected
  cases direction <;> cases status : conn.status <;> simp only [status] at selected
  case serverToClient.opened =>
    obtain ⟨first,_,selected⟩ := bind_success selected
    cases selected
    split
    · simp
    · split <;> simp
  all_goals
    cases selected
    simp

/-- What handing a message over leaves of the connection. -/
structure HandOverEffect (direction : Direction) (conn : Connection) (data : Nat)
    (handler : Option Handler) (logged : Logged) : Prop where
  id : logged.conn.id = conn.id
  byteswap : logged.conn.byteswap = conn.byteswap
  status : logged.conn.status =
    if direction = .serverToClient ∧ conn.status = .unestablished then .opened else conn.status
  sized : logged.bytesParsed = (conn.buffer direction).nextMessageSz
  other : ∀ other, other ≠ direction → logged.conn.buffer other = conn.buffer other
  same : logged.conn.buffer direction = conn.buffer direction ∨
    (handler = some .reply ∧ direction = .serverToClient ∧
      32 ≤ (conn.buffer direction).nextMessageSz ∧
        logged.conn.buffer direction = (conn.buffer direction).patched (data + 8))

theorem handOver_effect {handler : Option Handler} {logged : Logged}
    (ok : handOver settings direction parser conn data = .ok (handler,logged)) :
    HandOverEffect direction conn data handler logged := by
  obtain ⟨_,ok⟩ := demand_bind_success ok
  obtain ⟨selected,chosen,ok⟩ := bind_success ok
  obtain ⟨inner,ran,ok⟩ := bind_success ok
  obtain ⟨sized,ok⟩ := demand_bind_success ok
  simp only [pure_ok,Except.ok.injEq,Prod.mk.injEq] at ok
  obtain ⟨rfl,rfl⟩ := ok
  obtain ⟨effect,status⟩ := runHandler_effect ran
  have same : inner.conn.buffer direction = conn.buffer direction ∨
      (selected = some .reply ∧ direction = .serverToClient ∧
        32 ≤ (conn.buffer direction).nextMessageSz ∧
          inner.conn.buffer direction = (conn.buffer direction).patched (data + 8)) := by
    rcases effect.server with kept | ⟨reply,long,patched⟩
    · left
      cases direction with
      | clientToServer => exact effect.client
      | serverToClient => exact kept
    · right
      have server := selectHandler_reply chosen reply
      subst server
      exact ⟨reply,rfl,long,patched⟩
  refine ⟨effect.id,effect.byteswap,?_,?_,?_,same⟩
  · rw [status]
    simp only [selectHandler_initResponse chosen]
  · rw [sized,SocketBuffer.messageSize]
    rcases same with kept | ⟨_,_,_,patched⟩
    · rw [kept]
    · rw [patched]
      rfl
  · intro other different
    cases direction with
    | clientToServer =>
      cases other with
      | clientToServer => contradiction
      | serverToClient =>
        rcases effect.server with kept | ⟨reply,_,_⟩
        · exact kept
        · exact absurd (selectHandler_reply chosen reply) (by simp)
    | serverToClient =>
      cases other with
      | clientToServer => exact effect.client
      | serverToClient => contradiction

end Xtracepp
