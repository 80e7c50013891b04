import Xtracepp.RoundFacts
import Xtracepp.Library.Framing

/-! The framing rule of the protocol on plain bytes, and how the measurement in the
two loops compares with it. `frame` looks only at the bytes it is given; the loops
look at the buffer's size and at whatever stands behind `data`.
-/
namespace Xtracepp
open Library.Outcome Library.Window Library.Framing

/-- The statuses of a connection that is not about to be closed. -/
def Connection.Live (conn : Connection) : Prop :=
  conn.status = .unestablished ∨ conn.status = .opened

/-- The size a message's own first bytes give, with the byte order that goes with
it. There is none when they cannot tell. -/
def frame (settings : Settings) (direction : Direction) (status : Status) (byteswap : Bool)
    (bytes : List UInt8) : Option Measure :=
  let field (byteswap : Bool) (start count : Nat) : Nat :=
    ordered settings.littleEndian byteswap (slice bytes start count)
  match direction,status with
  | .clientToServer,.unestablished =>
    if bytes.length < 12 then some .short
    else
      let byteOrder := bytes.getD 0 0
      let byteswap := settings.littleEndian != decide (byteOrder = lsbFirst)
      if byteOrder = msbFirst ∨ byteOrder = lsbFirst then
        some (.sized byteswap
          (12 + Alignment.pad (field byteswap 6 2) + Alignment.pad (field byteswap 8 2)) 12)
      else none
  | .clientToServer,.opened =>
    if bytes.length < 4 then some .short
    else if field false 2 2 = 0 then
      if bytes.length < 8 then some .short
      else some (.sized byteswap (Alignment.size (field byteswap 4 4)) 8)
    else some (.sized byteswap (Alignment.size (field byteswap 2 2)) 4)
  | .serverToClient,.unestablished =>
    if bytes.length < 8 then some .short
    else some (.sized byteswap (8 + Alignment.size (field byteswap 6 2)) 8)
  | .serverToClient,.opened =>
    if bytes.length < 4 then some .short
    else if bytes.getD 0 0 = 1 then
      if bytes.length < 8 then none
      else some (.sized byteswap (32 + Alignment.size (field byteswap 4 4)) 8)
    else some (.sized byteswap 32 4)
  | _,_ => none

variable {settings : Settings} {direction : Direction} {conn : Connection} {data : Nat}

theorem frame_append {status : Status} {byteswap swap : Bool} {bytes : List UInt8}
    {messageSz headerSz : Nat} (more : List UInt8)
    (framed : frame settings direction status byteswap bytes = some (.sized swap messageSz headerSz)) :
    frame settings direction status byteswap (bytes ++ more) =
      some (.sized swap messageSz headerSz) ∧ headerSz ≤ bytes.length := by
  have first (long : 0 < bytes.length) : (bytes ++ more).getD 0 0 = bytes.getD 0 0 := by
    simp [List.getD_eq_getElem?_getD,List.getElem?_append_left long]
  unfold frame at framed ⊢
  simp only [List.length_append] at framed ⊢
  cases direction <;> cases status <;> simp only at framed ⊢ <;> try contradiction
  case clientToServer.unestablished =>
    split at framed
    · cases framed
    · rename_i long
      rw [first (by omega),slice_append _ _ _ _ (by omega),slice_append _ _ _ _ (by omega),
        if_neg (by omega)]
      split at framed
      · rename_i known
        rw [if_pos known,framed]
        cases framed
        exact ⟨rfl,by omega⟩
      · cases framed
  case clientToServer.opened =>
    split at framed
    · cases framed
    · rename_i long
      rw [slice_append _ _ _ _ (by omega),if_neg (by omega)]
      split at framed
      · rename_i extended
        rw [if_pos extended]
        split at framed
        · cases framed
        · rename_i longer
          rw [slice_append _ _ _ _ (by omega),if_neg (by omega),framed]
          cases framed
          exact ⟨rfl,by omega⟩
      · rename_i plain
        rw [if_neg plain,framed]
        cases framed
        exact ⟨rfl,by omega⟩
  case serverToClient.unestablished =>
    split at framed
    · cases framed
    · rename_i long
      rw [slice_append _ _ _ _ (by omega),if_neg (by omega),framed]
      cases framed
      exact ⟨rfl,by omega⟩
  case serverToClient.opened =>
    split at framed
    · cases framed
    · rename_i long
      rw [first (by omega),if_neg (by omega)]
      split at framed
      · rename_i reply
        rw [if_pos reply]
        split at framed
        · cases framed
        · rename_i longer
          rw [slice_append _ _ _ _ (by omega),if_neg (by omega),framed]
          cases framed
          exact ⟨rfl,by omega⟩
      · rename_i fixed
        rw [if_neg fixed,framed]
        cases framed
        exact ⟨rfl,by omega⟩

section storage

variable {storage : Storage} {count : Nat}

private theorem slice_window (cells : Nat → UInt8) (start count from' length : Nat)
    (inside : from' + length ≤ count) :
    slice (window cells start count) from' length = window cells (start + from') length := by
  rw [slice,window_drop _ _ _ _ (by omega),window_take _ _ _ _ (by omega)]

private theorem getD_window (cells : Nat → UInt8) (start count : Nat) (some : 0 < count) :
    (window cells start count).getD 0 0 = cells start := by
  rw [List.getD_eq_getElem?_getD,List.getElem?_eq_getElem (by simpa using some)]
  simp

private theorem field_slice (stored : data + count ≤ storage.size) (littleEndian byteswap : Bool)
    {from' length : Nat} (inside : from' + length ≤ count) :
    storage.field littleEndian byteswap (data + from') length =
      .ok (ordered littleEndian byteswap (slice (window storage.cells data count) from' length)) := by
  rw [Storage.field_inside _ _ (by omega),slice_window _ _ _ _ _ inside]

private theorem byte_getD (stored : data + count ≤ storage.size) (some : 0 < count) :
    storage.byte data = .ok ((window storage.cells data count).getD 0 0) := by
  rw [Storage.byte_inside (by omega),getD_window _ _ _ some]

end storage

/-- Where the bytes behind `data` that were received tell the size, the loop takes
that size. -/
theorem measureMessage_frame {count messageSz headerSz : Nat} {byteswap : Bool}
    (stored : data + count ≤ (conn.buffer direction).buffer.size)
    (within : count ≤ (conn.buffer direction).size)
    (framed : frame settings direction conn.status conn.byteswap
      (window (conn.buffer direction).buffer.cells data count) =
        some (.sized byteswap messageSz headerSz)) :
    measureMessage settings direction conn data = .ok (.sized byteswap messageSz headerSz) := by
  obtain ⟨bytes,shown⟩ : ∃ bytes, bytes = window (conn.buffer direction).buffer.cells data count :=
    ⟨_,rfl⟩
  have length : bytes.length = count := by rw [shown,window_length]
  have first (some : 0 < count) := byte_getD stored some
  have field (swap : Bool) {from' length : Nat} (inside : from' + length ≤ count) :=
    field_slice stored settings.littleEndian swap inside
  rw [← shown] at framed first field
  unfold frame at framed
  rw [length] at framed
  cases direction <;> cases status : conn.status <;> simp only [status] at framed <;>
    try contradiction
  case clientToServer.unestablished =>
    simp only [Connection.buffer,measureMessage,measureClientMessage,status] at *
    split at framed
    · cases framed
    · rename_i long
      rw [if_neg (by omega),first (by omega),ok_bind]
      split at framed
      · rename_i known
        rw [assert,demand_true known,ok_bind,field _ (by omega),ok_bind,field _ (by omega),ok_bind]
        simpa using framed
      · cases framed
  case clientToServer.opened =>
    simp only [Connection.buffer,measureMessage,measureClientMessage,status] at *
    split at framed
    · cases framed
    · rename_i long
      rw [if_neg (by omega),field _ (by omega),ok_bind]
      split at framed
      · rename_i extended
        rw [if_pos extended]
        split at framed
        · cases framed
        · rename_i longer
          rw [if_neg (by omega),field _ (by omega),ok_bind]
          simpa using framed
      · rename_i plain
        rw [if_neg plain,field _ (by omega),ok_bind]
        simpa using framed
  case serverToClient.unestablished =>
    simp only [Connection.buffer,measureMessage,measureServerMessage,status] at *
    split at framed
    · cases framed
    · rename_i long
      rw [if_neg (by omega),field _ (by omega),ok_bind]
      simpa using framed
  case serverToClient.opened =>
    simp only [Connection.buffer,measureMessage,measureServerMessage,status] at *
    split at framed
    · cases framed
    · rename_i long
      rw [if_neg (by omega),first (by omega),ok_bind]
      split at framed
      · rename_i reply
        split at framed
        · cases framed
        · rename_i longer
          rw [if_neg (by rw [reply]; decide),if_pos reply,field _ (by omega),ok_bind]
          simpa using framed
      · rename_i fixed
        split
        · simpa using framed
        · simpa [fixed] using framed

/-- Where all that is buffered is too short to tell the size, the loop waits. -/
theorem measureMessage_short {count : Nat}
    (stored : data + count ≤ (conn.buffer direction).buffer.size)
    (all : count = (conn.buffer direction).size)
    (framed : frame settings direction conn.status conn.byteswap
      (window (conn.buffer direction).buffer.cells data count) = some .short) :
    measureMessage settings direction conn data = .ok .short := by
  obtain ⟨bytes,shown⟩ : ∃ bytes, bytes = window (conn.buffer direction).buffer.cells data count :=
    ⟨_,rfl⟩
  have length : bytes.length = count := by rw [shown,window_length]
  have field (swap : Bool) {from' length : Nat} (inside : from' + length ≤ count) :=
    field_slice stored settings.littleEndian swap inside
  rw [← shown] at framed field
  unfold frame at framed
  rw [length] at framed
  cases direction <;> cases status : conn.status <;> simp only [status] at framed <;>
    try contradiction
  case clientToServer.unestablished =>
    simp only [Connection.buffer,measureMessage,measureClientMessage,status] at *
    split at framed
    · rename_i small
      rw [if_pos (by omega),pure_ok]
    · split at framed <;> cases framed
  case clientToServer.opened =>
    simp only [Connection.buffer,measureMessage,measureClientMessage,status] at *
    split at framed
    · rename_i small
      rw [if_pos (by omega),pure_ok]
    · rename_i long
      rw [if_neg (by omega),field _ (by omega),ok_bind]
      split at framed
      · rename_i extended
        rw [if_pos extended]
        split at framed
        · rename_i small
          rw [if_pos (by omega),pure_ok]
        · cases framed
      · cases framed
  case serverToClient.unestablished =>
    simp only [Connection.buffer,measureMessage,measureServerMessage,status] at *
    split at framed
    · rename_i small
      rw [if_pos (by omega),pure_ok]
    · cases framed
  case serverToClient.opened =>
    simp only [Connection.buffer,measureMessage,measureServerMessage,status] at *
    split at framed
    · rename_i small
      rw [if_pos (by omega),pure_ok]
    · split at framed
      · split at framed <;> cases framed
      · cases framed

/-- What a measurement can give: the sizes stay small, and only a buffer with few
bytes is waited for. -/
inductive MeasureCase (direction : Direction) (conn : Connection) : Measure → Prop
  | short (small : (conn.buffer direction).size < 12) : MeasureCase direction conn .short
  | dead (closed : ¬conn.Live) (measure : Measure) (unsized : ∀ s n h, measure ≠ .sized s n h) :
      MeasureCase direction conn measure
  | sized (byteswap : Bool) (messageSz headerSz : Nat) (small : messageSz < 2^36)
      (order : conn.status ≠ .unestablished ∨ direction = .serverToClient →
        byteswap = conn.byteswap) :
      MeasureCase direction conn (.sized byteswap messageSz headerSz)

theorem field_lt {storage : Storage} {littleEndian byteswap : Bool} {start count value : Nat}
    (ok : storage.field littleEndian byteswap start count = .ok value) : value < 256 ^ count := by
  obtain ⟨_,rfl⟩ := Storage.field_success ok
  have bound := ordered_lt littleEndian byteswap (window storage.cells start count)
  rwa [window_length] at bound

private theorem pad_lt {sz : Nat} (small : sz < 256^2) : Alignment.pad sz < 2^17 := by
  rw [Alignment.pad_small (by omega)]
  omega

private theorem units_lt {units count : Nat} (narrow : count ≤ 4) (small : units < 256 ^ count) :
    Alignment.size units < 2^35 := by
  have wide : 256 ^ count ≤ 256 ^ 4 := Nat.pow_le_pow_right (by omega) narrow
  rw [Alignment.size_small (by omega)]
  omega

theorem measureClientMessage_case {measure : Measure}
    (ok : measureClientMessage settings conn data = .ok measure) :
    MeasureCase .clientToServer conn measure := by
  unfold measureClientMessage at ok
  cases status : conn.status <;> simp only [status] at ok
  case unestablished =>
    split at ok
    · rename_i small
      cases ok
      exact .short small
    · obtain ⟨_,_,ok⟩ := bind_success ok
      obtain ⟨_,ok⟩ := demand_bind_success ok
      obtain ⟨nameLen,name,ok⟩ := bind_success ok
      obtain ⟨dataLen,datum,ok⟩ := bind_success ok
      have nameSmall := pad_lt (field_lt name)
      have dataSmall := pad_lt (field_lt datum)
      cases ok
      exact .sized _ _ _ (by omega) (by simp [status])
  case opened =>
    split at ok
    · rename_i small
      cases ok
      exact .short (Nat.lt_trans small (by omega))
    · obtain ⟨flag,_,ok⟩ := bind_success ok
      split at ok
      · split at ok
        · rename_i small
          cases ok
          exact .short (Nat.lt_trans small (by omega))
        · obtain ⟨units,counted,ok⟩ := bind_success ok
          have small := units_lt (Nat.le_refl 4) (field_lt counted)
          cases ok
          exact .sized _ _ _ (by omega) (fun _ => rfl)
      · obtain ⟨units,counted,ok⟩ := bind_success ok
        have small := units_lt (by omega) (field_lt counted)
        cases ok
        exact .sized _ _ _ (by omega) (fun _ => rfl)
  all_goals
    cases ok
    exact .dead (by simp [Connection.Live,status]) _ (by simp)

theorem measureServerMessage_case {measure : Measure}
    (ok : measureServerMessage settings conn data = .ok measure) :
    MeasureCase .serverToClient conn measure := by
  unfold measureServerMessage at ok
  cases status : conn.status <;> simp only [status] at ok
  case unestablished =>
    split at ok
    · rename_i small
      cases ok
      exact .short (Nat.lt_trans small (by omega))
    · obtain ⟨units,counted,ok⟩ := bind_success ok
      have small := units_lt (by omega) (field_lt counted)
      cases ok
      exact .sized _ _ _ (by omega) (fun _ => rfl)
  case opened =>
    split at ok
    · rename_i small
      cases ok
      exact .short (Nat.lt_trans small (by omega))
    · obtain ⟨first,_,ok⟩ := bind_success ok
      split at ok
      · cases ok
        exact .sized _ _ _ (by omega) (fun _ => rfl)
      · split at ok
        · obtain ⟨extra,counted,ok⟩ := bind_success ok
          have small := units_lt (Nat.le_refl 4) (field_lt counted)
          cases ok
          exact .sized _ _ _ (by omega) (fun _ => rfl)
        · cases ok
          exact .sized _ _ _ (by omega) (fun _ => rfl)
  all_goals
    cases ok
    exact .dead (by simp [Connection.Live,status]) _ (by simp)

theorem measureMessage_case {measure : Measure}
    (ok : measureMessage settings direction conn data = .ok measure) :
    MeasureCase direction conn measure := by
  cases direction with
  | clientToServer => exact measureClientMessage_case ok
  | serverToClient => exact measureServerMessage_case ok

/-- The connection whose next message has a known size. -/
structure Known (settings : Settings) (direction : Direction) (conn : Connection) (data : Nat)
    (known : Connection) (messageSz : Nat) : Prop where
  buffer : known.buffer direction =
    { conn.buffer direction with nextMessageSz := messageSz }
  definite : messageSz ≠ SocketBuffer.unknownSz
  other : ∀ other, other ≠ direction → known.buffer other = conn.buffer other
  id : known.id = conn.id
  status : known.status = conn.status
  kept : known = conn.withMessageSize direction known.byteswap messageSz
  origin : ((conn.buffer direction).messageSizeSet = true ∧
      messageSz = (conn.buffer direction).nextMessageSz ∧ known.byteswap = conn.byteswap) ∨
    ((conn.buffer direction).messageSizeSet = false ∧ messageSz < 2^36 ∧ ∃ headerSz,
      measureMessage settings direction conn data = .ok (.sized known.byteswap messageSz headerSz) ∧
        (conn.status ≠ .unestablished ∨ direction = .serverToClient →
          known.byteswap = conn.byteswap))

theorem sizing_known {known : Connection}
    (sizing : SizingCase settings direction conn data (.known known)) :
    ∃ messageSz, Known settings direction conn data known messageSz := by
  cases sizing with
  | set before =>
    refine ⟨(conn.buffer direction).nextMessageSz,rfl,?_,fun _ _ => rfl,rfl,rfl,?_,
      .inl ⟨before,rfl,rfl⟩⟩
    · simpa [SocketBuffer.messageSizeSet] using before
    · cases direction <;> rfl
  | sized byteswap messageSz headerSz unset measured known =>
    refine ⟨messageSz,by cases direction <;> rfl,known,?_,by cases direction <;> rfl,
      by cases direction <;> rfl,by cases direction <;> rfl,?_⟩
    · intro other different
      cases direction <;> cases other <;> first | rfl | contradiction
    · have how := measureMessage_case measured
      cases how with
      | dead closed _ unsized => exact absurd rfl (unsized _ _ _)
      | sized _ _ _ small order => exact .inr ⟨unset,small,headerSz,measured,order⟩

section rounds

variable {parser : X11ProtocolParser}

/-- A round that ends the loop at most sets the size of the next message. -/
theorem finished_left {next : Connection}
    (ok : messageRound settings direction parser conn data = .ok (.finished next)) :
    next = conn ∨ ∃ messageSz, Known settings direction conn data next messageSz ∧
      (next.buffer direction).incompleteMessage = true ∧
        (conn.buffer direction).parsed < (conn.buffer direction).size := by
  cases messageRound_case ok with
  | drained all => exact .inl rfl
  | short pending unset measured => exact .inl rfl
  | incomplete known pending sizing waiting =>
    obtain ⟨messageSz,known⟩ := sizing_known sizing
    exact .inr ⟨messageSz,known,waiting,pending⟩

/-- A round that hands over a message, taken apart. -/
structure Handling (settings : Settings) (direction : Direction) (parser : X11ProtocolParser)
    (conn : Connection) (data : Nat) (handler : Option Handler) (logged : Logged)
    (next : Connection) (messageSz : Nat) (inner : Logged) : Prop where
  pending : (conn.buffer direction).parsed < (conn.buffer direction).size
  known : Known settings direction conn data next messageSz
  complete : (next.buffer direction).incompleteMessage = false
  given : handOver settings direction parser next data = .ok (handler,inner)
  kept : logged.parser = inner.parser
  parsed : logged.bytesParsed = inner.bytesParsed
  left : ∃ buffer, (inner.conn.buffer direction).markMessageParsed = .ok buffer ∧
    logged.conn = inner.conn.withBuffer direction buffer

theorem handled_left {handler : Option Handler} {logged : Logged}
    (ok : messageRound settings direction parser conn data = .ok (.handled handler logged)) :
    ∃ next messageSz inner,
      Handling settings direction parser conn data handler logged next messageSz inner := by
  cases messageRound_case ok with
  | handled known handler inner buffer pending sizing complete given marked =>
    obtain ⟨messageSz,next⟩ := sizing_known sizing
    exact ⟨known,messageSz,inner,⟨pending,next,complete,given,rfl,rfl,buffer,marked,rfl⟩⟩

theorem Handling.size {next : Connection} {messageSz : Nat}
    {handler : Option Handler} {logged inner : Logged}
    (handling : Handling settings direction parser conn data handler logged next messageSz inner) :
    logged.bytesParsed = messageSz := by
  have sized := (handOver_effect handling.given).sized
  rw [handling.known.buffer] at sized
  exact handling.parsed.trans sized

end rounds

end Xtracepp
