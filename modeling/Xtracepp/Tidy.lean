import Xtracepp.Orderly

/-! Runs whose reads are tidy: what a read leaves in its buffer is either nothing but
whole messages or the beginning of one. No message that is complete is then kept
back while the buffer waits for another.
-/
namespace Xtracepp
open Library Library.Outcome Library.Window Library.Runs

/-- The phase in which the message behind one that was handed over is framed. -/
def Status.behind (direction : Direction) (status : Status) : Status :=
  if direction = .serverToClient ∧ status = .unestablished then .opened else status

section bytes

variable (settings : Settings) (direction : Direction)

/-- At most the beginning of a message, as far as its own bytes tell. -/
def partMessage (status : Status) (byteswap : Bool) (bytes : List UInt8) : Bool :=
  match frame settings direction status byteswap bytes with
  | some .short => true
  | some (.sized _ messageSz _) => decide (bytes.length < messageSz)
  | _ => false

/-- Nothing but whole messages. -/
def wholeMessages : Nat → Status → Bool → List UInt8 → Bool
  | 0,_,_,bytes => bytes.isEmpty
  | fuel + 1,status,byteswap,bytes => bytes.isEmpty ||
    match frame settings direction status byteswap bytes with
    | some (.sized swap messageSz _) => decide (messageSz ≤ bytes.length) &&
        wholeMessages fuel (status.behind direction) swap (bytes.drop messageSz)
    | _ => false

end bytes

section bytes

variable {settings : Settings} {direction : Direction} {status : Status} {byteswap : Bool}
  {bytes : List UInt8}

theorem part_cases (part : partMessage settings direction status byteswap bytes = true) :
    frame settings direction status byteswap bytes = some .short ∨
      ∃ swap messageSz headerSz, frame settings direction status byteswap bytes =
        some (.sized swap messageSz headerSz) ∧ bytes.length < messageSz := by
  unfold partMessage at part
  split at part
  · rename_i framed
    exact .inl framed
  · rename_i swap messageSz headerSz framed
    exact .inr ⟨swap,messageSz,headerSz,framed,of_decide_eq_true part⟩
  · cases part

theorem short_part (short : frame settings direction status byteswap bytes = some .short) :
    partMessage settings direction status byteswap bytes = true := by
  simp [partMessage,short]

theorem whole_cases {fuel : Nat}
    (whole : wholeMessages settings direction fuel status byteswap bytes = true) :
    bytes = [] ∨ ∃ swap messageSz headerSz fuel,
      frame settings direction status byteswap bytes = some (.sized swap messageSz headerSz) ∧
        messageSz ≤ bytes.length ∧ wholeMessages settings direction fuel
          (status.behind direction) swap (bytes.drop messageSz) = true := by
  cases fuel with
  | zero => exact .inl (by simpa [wholeMessages] using whole)
  | succ fuel =>
    simp only [wholeMessages,Bool.or_eq_true,List.isEmpty_iff] at whole
    rcases whole with none | whole
    · exact .inl none
    · right
      split at whole
      · rename_i swap messageSz headerSz framed
        rw [Bool.and_eq_true,decide_eq_true_eq] at whole
        exact ⟨swap,messageSz,headerSz,fuel,framed,whole.1,whole.2⟩
      · cases whole

theorem frame_nil (live : status = .unestablished ∨ status = .opened) :
    frame settings direction status byteswap [] = some .short := by
  rcases live with rfl | rfl <;> cases direction <;> rfl

/-- Whether the size can be told does not depend on the byte order. -/
theorem frame_short_order (other : Bool)
    (short : frame settings direction status byteswap bytes = some .short) :
    frame settings direction status other bytes = some .short := by
  unfold frame at short ⊢
  cases direction <;> cases status <;> simp only at short ⊢ <;> try contradiction
  case clientToServer.unestablished => exact short
  case clientToServer.opened =>
    split at short
    · rename_i few
      rw [if_pos few]
    · rename_i enough
      rw [if_neg enough]
      split at short
      · rename_i extended
        rw [if_pos extended]
        split at short
        · rename_i few
          rw [if_pos few]
        · cases short
      · cases short
  case serverToClient.unestablished =>
    split at short
    · rename_i few
      rw [if_pos few]
    · cases short
  case serverToClient.opened =>
    split at short
    · rename_i few
      rw [if_pos few]
    · split at short
      · split at short <;> cases short
      · cases short

end bytes

/-- The byte order and the size that a measurement tells. -/
def Measure.told : Measure → Option (Bool × Nat)
  | .sized byteswap messageSz _ => some (byteswap,messageSz)
  | .short | .refused _ => none

section headings

variable (settings : Settings) (direction : Direction) (status : Status) (byteswap : Bool)
  (bytes : List UInt8)

/-- The byte order and the size that a message's own first bytes tell. -/
def heading : Option (Bool × Nat) := (frame settings direction status byteswap bytes).bind Measure.told

/-- A size that is the one its message's own first bytes tell, on a connection of this status
and byte order. -/
def Headed (messageSz : Nat) : Prop :=
  (heading settings direction status byteswap bytes).map Prod.snd = some messageSz

instance (messageSz : Nat) : Decidable (Headed settings direction status byteswap bytes messageSz) :=
  inferInstanceAs (Decidable (_ = _))

end headings

section headings

variable {settings : Settings} {direction : Direction} {status : Status} {byteswap swap : Bool}
  {bytes : List UInt8} {messageSz headerSz : Nat}

theorem frame_heading
    (framed : frame settings direction status byteswap bytes = some (.sized swap messageSz headerSz)) :
    heading settings direction status byteswap bytes = some (swap,messageSz) := by
  rw [heading,framed]
  rfl

theorem frame_headed
    (framed : frame settings direction status byteswap bytes = some (.sized swap messageSz headerSz)) :
    Headed settings direction status byteswap bytes messageSz := by
  rw [Headed,frame_heading framed]
  rfl

theorem Headed.framed (headed : Headed settings direction status byteswap bytes messageSz) :
    ∃ swap headerSz, frame settings direction status byteswap bytes =
      some (.sized swap messageSz headerSz) := by
  unfold Headed heading at headed
  cases read : frame settings direction status byteswap bytes with
  | none => simp [read] at headed
  | some measure =>
    cases measure with
    | short => simp [read,Measure.told] at headed
    | refused text => simp [read,Measure.told] at headed
    | sized swap size headerSz =>
      simp only [read,Option.bind_some,Measure.told,Option.map_some,Option.some.injEq] at headed
      exact ⟨swap,headerSz,by rw [headed]⟩

theorem Headed.append (headed : Headed settings direction status byteswap bytes messageSz)
    (more : List UInt8) : Headed settings direction status byteswap (bytes ++ more) messageSz := by
  obtain ⟨swap,headerSz,framed⟩ := headed.framed
  exact frame_headed (frame_append more framed).1

theorem frame_swap
    (framed : frame settings direction status byteswap bytes = some (.sized swap messageSz headerSz)) :
    frame settings direction status swap bytes = some (.sized swap messageSz headerSz) := by
  have order : frame settings direction status swap bytes =
      frame settings direction status byteswap bytes ∨ swap = byteswap := by
    cases direction <;> cases status <;> simp only [frame] at framed ⊢ <;> try contradiction
    case clientToServer.unestablished => exact .inl trivial
    all_goals
      right
      repeat' split at framed
      all_goals first | (cases framed; rfl) | cases framed
  rcases order with same | same
  · rw [same,framed]
  · rw [same]
    rw [same] at framed
    exact framed

end headings

namespace Connection

variable (settings : Settings) (direction : Direction)

/-- A buffer that holds no complete message, and whose size, once it is taken, is the one
that its first bytes tell. -/
def Waiting (conn : Connection) : Prop :=
  let buffer := conn.buffer direction
  (buffer.messageSizeSet = true ∧ buffer.size < buffer.messageSize ∧
      Headed settings direction conn.status conn.byteswap buffer.contents buffer.messageSize) ∨
    (buffer.messageSizeSet = false ∧
      partMessage settings direction conn.status conn.byteswap buffer.contents = true)

/-- A buffer that waits between two calls. Only what came before the connection was opened
can be long enough to tell a size that is not taken yet. -/
def Waits (conn : Connection) : Prop :=
  let buffer := conn.buffer direction
  (buffer.messageSizeSet = true ∧ buffer.size < buffer.messageSize ∧
      Headed settings direction conn.status conn.byteswap buffer.contents buffer.messageSize) ∨
    (buffer.messageSizeSet = false ∧
      (frame settings direction conn.status conn.byteswap buffer.contents = some .short ∨
        (conn.status = .opened ∧
          partMessage settings direction conn.status conn.byteswap buffer.contents = true)))

/-- Between two calls of `log…Messages` all that is buffered is parsed, or nothing is
and what there is waits. -/
def Settled (conn : Connection) : Prop :=
  let buffer := conn.buffer direction
  (buffer.bytesParsed = 0 ∧ conn.Waits settings direction) ∨
  (0 < buffer.bytesParsed ∧ buffer.bytesParsed = buffer.size ∧ buffer.messageSizeSet = false)

/-- While messages are being logged what is left is nothing but whole messages, or
nothing is parsed yet and there is at most one message. -/
def Loaded (conn : Connection) : Prop :=
  let buffer := conn.buffer direction
  (buffer.messageSizeSet = false ∧ ∃ fuel, wholeMessages settings direction fuel conn.status
      conn.byteswap (buffer.contents.drop buffer.bytesParsed) = true) ∨
  (buffer.bytesParsed = 0 ∧ buffer.messageSizeSet = false ∧
    partMessage settings direction conn.status conn.byteswap buffer.contents = true) ∨
  (buffer.bytesParsed = 0 ∧ buffer.messageSizeSet = true ∧ buffer.size ≤ buffer.messageSize ∧
    Headed settings direction conn.status conn.byteswap buffer.contents buffer.messageSize)

end Connection

section states

variable {settings : Settings} {direction : Direction} {conn next : Connection} {history : History}
  {data messageSz : Nat}

theorem Connection.Waits.waiting (waits : conn.Waits settings direction) :
    conn.Waiting settings direction := by
  rcases waits with headed | ⟨unset,short | ⟨_,part⟩⟩
  · exact .inl headed
  · exact .inr ⟨unset,short_part short⟩
  · exact .inr ⟨unset,part⟩

theorem Connection.Settled.waits (settled : conn.Settled settings direction)
    (fresh : (conn.buffer direction).bytesParsed = 0) : conn.Waits settings direction := by
  rcases settled with ⟨_,waits⟩ | ⟨some,_⟩
  · exact waits
  · omega

theorem Connection.Waits.of_same (waits : conn.Waits settings direction)
    (same : next.buffer direction = conn.buffer direction) (status : next.status = conn.status)
    (order : next.byteswap = conn.byteswap) : next.Waits settings direction := by
  unfold Connection.Waits
  rw [same,status,order]
  exact waits

theorem Connection.Settled.emptied (settled : conn.Settled settings direction) (live : conn.Live)
    (alive : next.Live) (same : next.buffer direction = conn.buffer direction)
    (none : (conn.buffer direction).contents = []) : next.Waits settings direction := by
  have unset : (conn.buffer direction).messageSizeSet = false := by
    rcases settled with ⟨_,⟨_,_,headed⟩ | ⟨unset,_⟩⟩ | ⟨_,_,unset⟩
    · obtain ⟨swap,headerSz,framed⟩ := headed.framed
      rw [none,frame_nil live] at framed
      cases framed
    · exact unset
    · exact unset
  right
  rw [same,none]
  exact ⟨unset,.inl (frame_nil alive)⟩

/-- Input is polled for only when nothing is parsed. -/
theorem Connection.Settled.fresh (settled : conn.Settled settings direction)
    (sound : (conn.buffer direction).Sound) (polled : conn.polledInput direction = true) :
    (conn.buffer direction).bytesParsed = 0 := by
  rcases settled with ⟨fresh,_⟩ | ⟨some,all,_⟩
  · exact fresh
  · have total := sound.size_eq
    unfold Connection.polledInput SocketBuffer.readReady SocketBuffer.empty at polled
    rw [Bool.or_eq_true] at polled
    rcases polled with none | part
    · have zero : (conn.buffer direction).bytesRead = 0 := by simpa using none
      omega
    · have left := ((Lane.incomplete_iff sound).mp part).1
      omega

theorem Lane.unread_window (lane : Lane (conn.buffer direction) history (some data)) :
    (conn.buffer direction).contents.drop (conn.buffer direction).bytesParsed =
      window (conn.buffer direction).buffer.cells data
        ((conn.buffer direction).size - (conn.buffer direction).bytesParsed) ∧
    data + ((conn.buffer direction).size - (conn.buffer direction).bytesParsed) ≤
      (conn.buffer direction).buffer.size := by
  obtain ⟨written,position,_,_⟩ := lane.placed
  have bound := lane.sound.parsed_le
  have held := lane.sound.data_size
  have inside := lane.sound.readLe
  unfold SocketBuffer.data at held
  refine ⟨?_,by omega⟩
  rw [SocketBuffer.contents,window_drop _ _ _ _ bound,SocketBuffer.data,written,position,Nat.zero_add]

theorem Connection.Loaded.short (loaded : conn.Loaded settings direction)
    (lane : Lane (conn.buffer direction) history (some data))
    (pending : (conn.buffer direction).parsed < (conn.buffer direction).size)
    (unset : (conn.buffer direction).messageSizeSet = false)
    (measured : measureMessage settings direction conn data = .ok .short) :
    (conn.buffer direction).bytesParsed = 0 ∧
      frame settings direction conn.status conn.byteswap (conn.buffer direction).contents =
        some .short := by
  obtain ⟨shown,stored⟩ := lane.unread_window
  have rest (swap : Bool) (messageSz headerSz : Nat)
      (framed : frame settings direction conn.status conn.byteswap
        ((conn.buffer direction).contents.drop (conn.buffer direction).bytesParsed) =
          some (.sized swap messageSz headerSz)) : False := by
    rw [shown] at framed
    rw [measureMessage_frame stored (by omega) framed] at measured
    cases measured
  rcases loaded with ⟨_,fuel,whole⟩ | ⟨fresh,_,part⟩ | ⟨_,set,_⟩
  · exfalso
    rcases whole_cases whole with none | ⟨swap,messageSz,headerSz,_,framed,_⟩
    · have length := congrArg List.length none
      rw [shown,window_length] at length
      unfold SocketBuffer.parsed at pending
      simp only [List.length_nil] at length
      omega
    · exact rest _ _ _ framed
  · rw [fresh,List.drop_zero] at rest
    rcases part_cases part with short | ⟨swap,messageSz,headerSz,framed,_⟩
    · exact ⟨fresh,short⟩
    · exact absurd framed (fun framed => rest _ _ _ framed)
  · rw [unset] at set
    cases set

/-- A size that is known while messages are being logged is that of the message
whose bytes come next. -/
inductive FirstCase (settings : Settings) (direction : Direction) (conn next : Connection)
    (messageSz : Nat) : Prop
  | set (fresh : (conn.buffer direction).bytesParsed = 0)
      (before : (conn.buffer direction).messageSizeSet = true)
      (same : messageSz = (conn.buffer direction).messageSize)
      (bound : (conn.buffer direction).size ≤ messageSz)
      (headed : Headed settings direction conn.status conn.byteswap
        (conn.buffer direction).contents messageSz)
      (order : next.byteswap = conn.byteswap)
  | whole (headerSz fuel : Nat) (unset : (conn.buffer direction).messageSizeSet = false)
      (framed : frame settings direction conn.status conn.byteswap
        ((conn.buffer direction).contents.drop (conn.buffer direction).bytesParsed) =
          some (.sized next.byteswap messageSz headerSz))
      (fits : (conn.buffer direction).bytesParsed + messageSz ≤ (conn.buffer direction).size)
      (rest : wholeMessages settings direction fuel (conn.status.behind direction) next.byteswap
        ((conn.buffer direction).contents.drop
          ((conn.buffer direction).bytesParsed + messageSz)) = true)
  | part (headerSz : Nat) (fresh : (conn.buffer direction).bytesParsed = 0)
      (unset : (conn.buffer direction).messageSizeSet = false)
      (framed : frame settings direction conn.status conn.byteswap
        (conn.buffer direction).contents = some (.sized next.byteswap messageSz headerSz))
      (long : (conn.buffer direction).size < messageSz)

theorem Connection.Loaded.first (loaded : conn.Loaded settings direction)
    (lane : Lane (conn.buffer direction) history (some data))
    (pending : (conn.buffer direction).parsed < (conn.buffer direction).size)
    (known : Known settings direction conn data next messageSz) :
    FirstCase settings direction conn next messageSz := by
  obtain ⟨shown,stored⟩ := lane.unread_window
  have length := lane.sound.contents_length
  have total := lane.sound.size_eq
  have measures (swap : Bool) (size headerSz : Nat)
      (framed : frame settings direction conn.status conn.byteswap
        ((conn.buffer direction).contents.drop (conn.buffer direction).bytesParsed) =
          some (.sized swap size headerSz)) :
      measureMessage settings direction conn data = .ok (.sized swap size headerSz) := by
    rw [shown] at framed
    exact measureMessage_frame stored (by omega) framed
  unfold SocketBuffer.parsed at pending
  rcases known.origin with ⟨set,same,order⟩ | ⟨unset,_,headerSz,measured,_⟩
  · rcases loaded with ⟨unset,_⟩ | ⟨_,unset,_⟩ | ⟨fresh,_,bound,headed⟩
    · simp [set] at unset
    · simp [set] at unset
    · rw [SocketBuffer.messageSize] at bound headed
      exact .set fresh set same (same ▸ bound) (same ▸ headed) order
  · rcases loaded with ⟨_,fuel,whole⟩ | ⟨fresh,_,part⟩ | ⟨_,set,_⟩
    · rcases whole_cases whole with none | ⟨swap,size,header,fuel,framed,fits,rest⟩
      · have empty := congrArg List.length none
        rw [List.length_drop,List.length_nil] at empty
        omega
      · rw [measures _ _ _ framed] at measured
        cases measured
        rw [List.length_drop] at fits
        rw [List.drop_drop] at rest
        exact .whole _ fuel unset framed (by omega) rest
    · rw [fresh,List.drop_zero] at measures shown
      rcases part_cases part with short | ⟨swap,size,header,framed,long⟩
      · rw [Nat.sub_zero] at shown
        rw [fresh,Nat.sub_zero] at stored
        rw [shown] at short
        rw [measureMessage_short stored rfl short] at measured
        cases measured
      · rw [measures _ _ _ framed] at measured
        cases measured
        exact .part _ fresh unset framed (by omega)
    · simp [set] at unset

/-- Between calls, and while messages are being logged. -/
def Connection.Kept (settings : Settings) (direction : Direction) (conn : Connection) :
    Option Nat → Prop
  | none => conn.Settled settings direction
  | some _ => conn.Loaded settings direction

/-- A read into an empty place leaves whole messages or the beginning of one. -/
def Connection.TidyRead (settings : Settings) (direction : Direction) (conn : Connection)
    (bytes : List UInt8) : Prop :=
  let all := (conn.buffer direction).contents ++ bytes
  (conn.buffer direction).messageSizeSet = false →
    partMessage settings direction conn.status conn.byteswap all = true ∨
      wholeMessages settings direction all.length conn.status conn.byteswap all = true

theorem Connection.Settled.read {result : RecvResult} {grown : SocketBuffer} {bytes : List UInt8}
    (settled : conn.Settled settings direction) (lane : Lane (conn.buffer direction) history none)
    (fresh : (conn.buffer direction).bytesParsed = 0)
    (effect : ReadEffect direction conn next result grown bytes)
    (tidy : conn.TidyRead settings direction bytes) : next.Loaded settings direction := by
  obtain ⟨read,contents⟩ := lane.read fresh effect
  have sound := read.sound
  have length := sound.contents_length
  have total := sound.size_eq
  have before := lane.sound.contents_length
  have size := lane.sound.size_eq
  have same : (next.buffer direction).nextMessageSz = (conn.buffer direction).nextMessageSz := by
    rw [effect.left,Connection.withBuffer_buffer]
    exact effect.growth.pending
  have sized : (next.buffer direction).messageSizeSet = (conn.buffer direction).messageSizeSet := by
    simp only [SocketBuffer.messageSizeSet,same]
  have parsed : (next.buffer direction).bytesParsed = 0 := by
    rw [effect.left,Connection.withBuffer_buffer]
    exact effect.growth.parsed.trans fresh
  have status : next.status = conn.status := by
    rw [effect.left]
    exact Connection.withBuffer_status _ _ _
  have order : next.byteswap = conn.byteswap := by
    rw [effect.left]
    exact Connection.withBuffer_byteswap _ _ _
  simp only [Connection.Loaded,sized,contents,parsed,List.drop_zero,status,order]
  rcases settled.waits fresh with ⟨set,short,headed⟩ | ⟨unset,_⟩
  · refine .inr (.inr ⟨trivial,set,?_,?_⟩)
    · have asked := effect.short
      have missing := (lane.bytesToRead_bounds fresh).2.2 set
      have small := lane.bounded set
      simp only [SocketBuffer.bytesToRead,set,Bool.not_true,Bool.false_eq_true,if_false] at asked
      rw [sub64_small missing (by omega)] at asked
      rw [contents,List.length_append] at length
      simp only [SocketBuffer.messageSize,same] at short ⊢
      omega
    · rw [SocketBuffer.messageSize,same]
      exact headed.append bytes
  · rcases tidy unset with part | whole
    · exact .inr (.inl ⟨trivial,unset,part⟩)
    · exact .inl ⟨unset,_,whole⟩

theorem Connection.Loaded.finished {parser : X11ProtocolParser}
    (loaded : conn.Loaded settings direction)
    (lane : Lane (conn.buffer direction) history (some data))
    (round : messageRound settings direction parser conn data = .ok (.finished next)) :
    next.Settled settings direction := by
  obtain ⟨written,_,filled,ahead⟩ := lane.placed
  have total := lane.sound.size_eq
  have bound := lane.sound.parsed_le
  cases messageRound_case round with
  | drained all =>
    unfold SocketBuffer.parsed at all
    refine .inr ⟨by omega,by omega,?_⟩
    cases set : (conn.buffer direction).messageSizeSet with
    | false => rfl
    | true =>
      have zero := ahead set
      omega
  | short pending unset measured =>
    obtain ⟨fresh,short⟩ := loaded.short lane pending unset measured
    exact .inl ⟨fresh,.inr ⟨unset,.inl short⟩⟩
  | incomplete known pending sizing waiting =>
    obtain ⟨messageSz,known⟩ := sizing_known sizing
    have sized := lane.sized pending known
    have short := ((Lane.incomplete_iff sized.sound).mp waiting).2 sized.set
    have size : (next.buffer direction).size = (conn.buffer direction).size := by
      rw [known.buffer]
      rfl
    have parsed : (next.buffer direction).bytesParsed = (conn.buffer direction).bytesParsed := by
      rw [known.buffer]
    have contents : (next.buffer direction).contents = (conn.buffer direction).contents := by
      rw [known.buffer]
      rfl
    rw [sized.pending,size,parsed] at short
    simp only [Connection.Settled,Connection.Waits,SocketBuffer.messageSize,sized.pending,size,parsed,
      contents,known.status]
    cases loaded.first lane pending known with
    | set fresh before same bound headed order =>
      rw [order]
      exact .inl ⟨fresh,.inl ⟨sized.set,by omega,headed⟩⟩
    | whole headerSz fuel unset framed fits rest => omega
    | part headerSz fresh unset framed long =>
      exact .inl ⟨fresh,.inl ⟨sized.set,long,frame_headed (frame_swap framed)⟩⟩

theorem Connection.Loaded.handled {parser : X11ProtocolParser} {handler : Option Handler}
    {logged : Logged} (loaded : conn.Loaded settings direction)
    (lane : Lane (conn.buffer direction) history (some data))
    (round : messageRound settings direction parser conn data = .ok (.handled handler logged)) :
    logged.conn.Loaded settings direction := by
  obtain ⟨known,messageSz,inner,handling⟩ := handled_left round
  obtain ⟨buffer,mark,left⟩ := handling.left
  have effect := handOver_effect handling.given
  have sized := lane.sized handling.pending handling.known
  have inside := Lane.complete sized handling.complete
  have marked := Lane.marked sized handling.complete effect mark
  have after := Lane.handled sized marked inside
  have status : logged.conn.status = conn.status.behind direction := by
    rw [left,Connection.withBuffer_status,effect.status,handling.known.status]
    rfl
  have order : logged.conn.byteswap = known.byteswap := by
    rw [left,Connection.withBuffer_byteswap,effect.byteswap]
  have kept : (logged.conn.buffer direction).messageSizeSet = false ∧
      (logged.conn.buffer direction).contents.drop (logged.conn.buffer direction).bytesParsed =
        (conn.buffer direction).contents.drop ((conn.buffer direction).bytesParsed + messageSz) := by
    have parsed : buffer.bytesParsed = (conn.buffer direction).bytesParsed + messageSz := by
      rw [marked.parsed,handling.known.buffer]
    have unread := after.unread
    rw [left,Connection.withBuffer_buffer]
    refine ⟨marked.unset,?_⟩
    rw [unread,parsed,← Nat.add_assoc,← List.drop_drop,← lane.unread,List.drop_drop]
  refine .inl ⟨kept.1,?_⟩
  rw [kept.2,status,order]
  have length := lane.sound.contents_length
  have total := lane.sound.size_eq
  have size : (known.buffer direction).size = (conn.buffer direction).size := by
    rw [handling.known.buffer]
    rfl
  have parsed : (known.buffer direction).bytesParsed = (conn.buffer direction).bytesParsed := by
    rw [handling.known.buffer]
  rw [size,parsed] at inside
  cases loaded.first lane handling.pending handling.known with
  | set fresh before same bound headed order =>
    refine ⟨0,?_⟩
    simp only [wholeMessages,List.isEmpty_iff]
    exact List.drop_of_length_le (by omega)
  | whole headerSz fuel unset framed fits rest => exact ⟨fuel,rest⟩
  | part headerSz fresh unset framed long => omega

theorem Lane.sent_settled {result : SendResult} {count : Nat} (live : conn.Live)
    (lane : Lane (conn.buffer direction) history none)
    (polled : (conn.buffer direction).readReady = false)
    (effect : WriteEffect direction conn next result count) : next.Settled settings direction := by
  obtain ⟨some,all,unset⟩ := lane.ready polled
  have short := effect.short
  have total := lane.sound.size_eq
  have written := lane.write polled effect
  have status : next.status = conn.status := by
    rw [effect.left]
    exact Connection.withBuffer_status _ _ _
  have left := effect.left
  by_cases drained : count = (conn.buffer direction).size
  · rw [if_pos drained] at left
    refine .inl ?_
    unfold Connection.Waits
    rw [status,left,Connection.withBuffer_buffer]
    refine ⟨rfl,.inr ⟨by simp [SocketBuffer.cleared,SocketBuffer.messageSizeSet],.inl ?_⟩⟩
    rw [SocketBuffer.cleared_contents]
    exact frame_nil live
  · rw [if_neg drained] at left
    have marks : count + ((conn.buffer direction).bytesParsed - count) ≤
        (conn.buffer direction).size := by omega
    have sound := SocketBuffer.advanced_sound lane.sound (by omega) marks
    have size := sound.size_eq
    have held := lane.sound.data_size
    refine .inr ?_
    rw [left,Connection.withBuffer_buffer]
    refine ⟨by simp only [SocketBuffer.advanced]; omega,?_,unset⟩
    rw [size]
    simp only [SocketBuffer.advanced,SocketBuffer.data] at *
    omega

theorem Connection.Settled.moved (settled : conn.Settled settings direction)
    (same : next.buffer direction = conn.buffer direction)
    (moved : (next.status = conn.status ∧ next.byteswap = conn.byteswap) ∨
      ((conn.buffer direction).bytesParsed = 0 → next.Waits settings direction)) :
    next.Settled settings direction := by
  unfold Connection.Settled
  rw [same]
  rcases settled with ⟨fresh,waits⟩ | parsed
  · refine .inl ⟨fresh,?_⟩
    rcases moved with ⟨status,order⟩ | turned
    · exact waits.of_same same status order
    · exact turned fresh
  · exact .inr parsed

end states

namespace Scene

variable {settings : Settings} {direction acting : Direction} {scene after : Scene} {label : Label}

/-- Only the client's Initiation sets the byte order. -/
theorem Move.order (move : Move settings acting scene label after) (live : scene.conn.Live) :
    after.conn.byteswap = scene.conn.byteswap ∨
      (acting = .clientToServer ∧ scene.conn.status = .unestablished) := by
  have sized {conn known : Connection} {data messageSz : Nat} (live : conn.Live)
      (sizing : Known settings acting conn data known messageSz) :
      known.byteswap = conn.byteswap ∨ (acting = .clientToServer ∧ conn.status = .unestablished) := by
    rcases sizing.origin with ⟨_,_,kept⟩ | ⟨_,_,_,_,kept⟩
    · exact .inl kept
    · cases acting with
      | serverToClient => exact .inl (kept (.inr rfl))
      | clientToServer =>
        rcases live with early | opened
        · exact .inr ⟨rfl,early⟩
        · exact .inl (kept (.inl (by simp [opened])))
  cases move with
  | received result next idle polled fits read =>
    obtain ⟨buffer,rfl⟩ := readFrom_left read
    exact .inl (Connection.withBuffer_byteswap _ _ _)
  | finished data next running round =>
    rcases finished_left round with rfl | ⟨messageSz,known,_⟩
    · exact .inl rfl
    · exact sized live known
  | handled data handler logged running round =>
    obtain ⟨next,messageSz,inner,handling⟩ := handled_left round
    obtain ⟨buffer,_,left⟩ := handling.left
    dsimp only
    rw [left,Connection.withBuffer_byteswap,(handOver_effect handling.given).byteswap]
    exact sized live handling.known
  | sent result next idle polled fits written =>
    obtain ⟨buffer,rfl⟩ := writeTo_left written
    exact .inl (Connection.withBuffer_byteswap _ _ _)

theorem Move.cursor_other (move : Move settings acting scene label after)
    (different : direction ≠ acting) : scene.cursor direction = none := by
  cases move with
  | received result next idle => simp [cursor,idle]
  | finished data next running => simp [cursor,running,Ne.symm different]
  | handled data handler logged running => simp [cursor,running,Ne.symm different]
  | sent result next idle => simp [cursor,idle]

theorem Move.kept (move : Move settings direction scene label after)
    (orderly : scene.Orderly direction)
    (kept : scene.conn.Kept settings direction (scene.cursor direction))
    (tidy : ∀ result, label = .receive scene.conn.id direction result →
      scene.conn.TidyRead settings direction (SocketBuffer.arrived result)) :
    after.conn.Kept settings direction (after.cursor direction) := by
  obtain ⟨live,lane⟩ := orderly
  cases move with
  | received result next idle polled fits read =>
    have stopped : scene.cursor direction = none := by simp [cursor,idle]
    rw [stopped] at lane kept
    have fresh := Connection.Settled.fresh kept lane.sound polled
    obtain ⟨_,bound,_⟩ := lane.bytesToRead_bounds fresh
    obtain ⟨grown,bytes,effect⟩ := readFrom_success lane.sound bound fits read
    have chunk := tidy result rfl
    rw [effect.result] at chunk
    simpa [cursor,Connection.Kept] using Connection.Settled.read kept lane fresh effect chunk
  | finished data next running round =>
    have started : scene.cursor direction = some data := by simp [cursor,running]
    rw [started] at lane kept
    simpa [cursor,Connection.Kept] using Connection.Loaded.finished kept lane round
  | handled data handler logged running round =>
    have started : scene.cursor direction = some data := by simp [cursor,running]
    rw [started] at lane kept
    simpa [cursor,Connection.Kept] using Connection.Loaded.handled kept lane round
  | sent result next idle polled fits written =>
    have stopped : scene.cursor direction = none := by simp [cursor,idle]
    rw [stopped] at lane kept
    obtain ⟨count,effect⟩ := writeTo_success lane.sound fits written
    simpa [cursor,idle,Connection.Kept] using
      lane.sent_settled live (polledOutput_ready polled) effect

/-- The lane of a direction in which no complete message is kept back. -/
structure Clean (settings : Settings) (direction : Direction) (scene : Scene) : Prop where
  orderly : scene.Orderly direction
  kept : scene.conn.Kept settings direction (scene.cursor direction)

theorem Clean.opening (parser : X11ProtocolParser) (serial : Nat) :
    Clean settings direction (Scene.opening parser serial) := by
  have none : ((Connection.initial serial).buffer direction).contents = [] := by
    cases direction <;>
      simp [Connection.initial,Connection.buffer,SocketBuffer.contents,SocketBuffer.initial,
        SocketBuffer.size,sub64]
  refine ⟨Orderly.opening parser serial,.inl ⟨?_,.inr ⟨?_,.inl ?_⟩⟩⟩
  · cases direction <;> rfl
  · cases direction <;> rfl
  · change frame settings direction .unestablished false
      ((Connection.initial serial).buffer direction).contents = _
    rw [none]
    exact frame_nil (.inl rfl)

theorem Clean.fresh (clean : Clean settings direction scene) (idle : scene.running = none)
    (polled : scene.conn.polledInput direction = true) :
    (scene.conn.buffer direction).bytesParsed = 0 := by
  have kept := clean.kept
  simp only [cursor,idle] at kept
  exact Connection.Settled.fresh kept clean.orderly.2.sound polled

/-- A step keeps a lane clean if its reads are tidy and, when the other direction moves the
connection's status or byte order, the buffer still waits. -/
theorem Clean.step (clean : Clean settings direction scene)
    (step : Step settings scene label after)
    (tidy : ∀ result, label = .receive scene.conn.id direction result →
      scene.conn.TidyRead settings direction (SocketBuffer.arrived result))
    (turns : ∀ acting, acting ≠ direction → Move settings acting scene label after →
      (after.conn.status = scene.conn.status ∧ after.conn.byteswap = scene.conn.byteswap) ∨
        ((scene.conn.buffer direction).bytesParsed = 0 → after.conn.Waits settings direction)) :
    Clean settings direction after := by
  cases step with
  | own acting move =>
    have fresh : ∀ result, label = .receive scene.conn.id direction result →
        (scene.conn.buffer direction).bytesParsed = 0 := by
      rintro result rfl
      cases move with
      | received _ next idle polled fits read => exact clean.fresh idle polled
    refine ⟨clean.orderly.step (.own acting move) fresh,?_⟩
    by_cases same : direction = acting
    · subst same
      exact move.kept clean.orderly clean.kept tidy
    · have aside := move.aside same
      have idle := move.cursor_other same
      have kept := clean.kept
      rw [idle] at kept
      rw [aside.cursor,idle]
      exact Connection.Settled.moved kept aside.buffer (turns acting (Ne.symm same) move)
  | elsewhere => exact ⟨clean.orderly,clean.kept⟩

end Scene

/-- Whether what is unparsed from the server holds its whole answer to the setup. -/
def Connection.answered (settings : Settings) (conn : Connection) : Bool :=
  let buffer := conn.serverBuffer
  if buffer.messageSizeSet then decide (buffer.messageSize ≤ buffer.size)
  else !partMessage settings .serverToClient .unestablished conn.byteswap
    (buffer.contents.drop buffer.bytesParsed)

/-- What waits from the client is no whole request, and a size taken from it is the one this
request tells. -/
def Connection.RequestWaits (settings : Settings) (conn : Connection) : Prop :=
  let buffer := conn.clientBuffer
  (buffer.messageSizeSet = true →
    Headed settings .clientToServer .opened conn.byteswap buffer.contents buffer.messageSize) ∧
  (buffer.messageSizeSet = false →
    partMessage settings .clientToServer .opened conn.byteswap buffer.contents = true)

instance (settings : Settings) (conn : Connection) : Decidable (conn.RequestWaits settings) :=
  inferInstanceAs (Decidable ((_ → _) ∧ (_ → _)))

namespace World

variable {settings : Settings} {direction : Direction} {world : World} {label : Label} {id : Nat}
  {predefined : Nat → Option (List UInt8)}

/-- Reads in a direction are tidy. -/
def TidyReads (settings : Settings) (direction : Direction) (world : World) : Label → Prop
  | .receive id acting result => acting = direction → ∀ conn ∈ world.proxy.connections id,
      conn.TidyRead settings direction (SocketBuffer.arrived result)
  | _ => True

/-- The server's answer is logged while what has come from the client waits as requests do. -/
def OpensTidily (settings : Settings) (world : World) : Label → Prop
  | .round => ∀ loop ∈ world.proxy.loop,loop.direction = .serverToClient →
      ∀ conn ∈ world.proxy.connections loop.id,conn.status = .unestablished →
        conn.answered settings = true → conn.clientBuffer.bytesParsed = 0 →
          conn.RequestWaits settings
  | _ => True

/-- The byte order that an Initiation tells gives an answer that waits the size it was
given. -/
def OrdersTidily (settings : Settings) (world : World) : Label → Prop
  | .round => ∀ loop ∈ world.proxy.loop,loop.direction = .clientToServer →
      ∀ conn ∈ world.proxy.connections loop.id,conn.status = .unestablished →
        conn.serverBuffer.messageSizeSet = true →
          ∀ told ∈ heading settings .clientToServer .unestablished conn.byteswap
              (conn.clientBuffer.contents.drop conn.clientBuffer.bytesParsed),
            Headed settings .serverToClient .unestablished told.1 conn.serverBuffer.contents
              conn.serverBuffer.messageSize
  | _ => True

def Tidy (settings : Settings) (world : World) (label : Label) : Prop :=
  (∀ direction, TidyReads settings direction world label) ∧ OpensTidily settings world label ∧
    OrdersTidily settings world label

/-- In a clean lane only an Initiation that is all there, or the first part of one, tells
the byte order. -/
theorem order_told {scene after : Scene} (clean : scene.Clean settings .clientToServer)
    (move : Scene.Move settings .clientToServer scene label after)
    (early : scene.conn.status = .unestablished) :
    after.conn.byteswap = scene.conn.byteswap ∨
      (label = .round ∧ (∃ data, scene.running = some (.clientToServer,data)) ∧ ∃ messageSz,
        heading settings .clientToServer .unestablished scene.conn.byteswap
          (scene.conn.clientBuffer.contents.drop scene.conn.clientBuffer.bytesParsed) =
            some (after.conn.byteswap,messageSz)) := by
  have kept := clean.kept
  obtain ⟨live,lane⟩ := clean.orderly
  have told {data messageSz : Nat} {known : Connection}
      (running : scene.running = some (.clientToServer,data))
      (pending : (scene.conn.buffer .clientToServer).parsed < (scene.conn.buffer .clientToServer).size)
      (sizing : Known settings .clientToServer scene.conn data known messageSz) :
      known.byteswap = scene.conn.byteswap ∨ ∃ messageSz,
        heading settings .clientToServer .unestablished scene.conn.byteswap
          (scene.conn.clientBuffer.contents.drop scene.conn.clientBuffer.bytesParsed) =
            some (known.byteswap,messageSz) := by
    have started : scene.cursor .clientToServer = some data := by simp [Scene.cursor,running]
    rw [started] at lane kept
    rw [← early]
    cases Connection.Loaded.first kept lane pending sizing with
    | set fresh before same bound headed order => exact .inl order
    | whole headerSz fuel unset framed fits rest => exact .inr ⟨_,frame_heading framed⟩
    | part headerSz fresh unset framed long =>
      simp only [Connection.buffer] at fresh framed
      rw [fresh,List.drop_zero]
      exact .inr ⟨_,frame_heading framed⟩
  cases move with
  | received result next idle polled fits read =>
    obtain ⟨buffer,rfl⟩ := readFrom_left read
    exact .inl (Connection.withBuffer_byteswap _ _ _)
  | finished data next running round =>
    rcases finished_left round with rfl | ⟨messageSz,known,_,pending⟩
    · exact .inl rfl
    · rcases told running pending known with same | told
      · exact .inl same
      · exact .inr ⟨rfl,⟨data,running⟩,told⟩
  | handled data handler logged running round =>
    obtain ⟨known,messageSz,inner,handling⟩ := handled_left round
    obtain ⟨buffer,_,left⟩ := handling.left
    have order : logged.conn.byteswap = known.byteswap := by
      rw [left,Connection.withBuffer_byteswap,(handOver_effect handling.given).byteswap]
    dsimp only
    rw [order]
    rcases told running handling.pending handling.known with same | told
    · exact .inl same
    · exact .inr ⟨rfl,⟨data,running⟩,told⟩
  | sent result next idle polled fits written =>
    obtain ⟨buffer,rfl⟩ := writeTo_left written
    exact .inl (Connection.withBuffer_byteswap _ _ _)

theorem answered_whole {scene after : Scene} (clean : scene.Clean settings .serverToClient)
    (move : Scene.Move settings .serverToClient scene label after)
    (early : scene.conn.status = .unestablished) (opened : after.conn.status = .opened) :
    scene.conn.answered settings = true ∧ after.conn.byteswap = scene.conn.byteswap ∧
      label = .round ∧ ∃ data, scene.running = some (.serverToClient,data) := by
  have kept := clean.kept
  obtain ⟨live,lane⟩ := clean.orderly
  have order : after.conn.byteswap = scene.conn.byteswap := by
    rcases move.order live with same | ⟨client,_⟩
    · exact same
    · cases client
  cases move with
  | received result next idle polled fits read =>
    obtain ⟨buffer,rfl⟩ := readFrom_left read
    simp [early] at opened
  | finished data next running round =>
    rcases finished_left round with same | ⟨messageSz,known,_⟩
    · subst same
      simp [early] at opened
    · have status := known.status
      simp_all
  | handled data handler logged running round =>
    refine ⟨?_,order,rfl,data,running⟩
    have started : scene.cursor .serverToClient = some data := by simp [Scene.cursor,running]
    rw [started] at lane kept
    obtain ⟨known,messageSz,inner,handling⟩ := handled_left round
    have sized := lane.sized handling.pending handling.known
    have inside := Lane.complete sized handling.complete
    have size : (known.buffer .serverToClient).size = (scene.conn.buffer .serverToClient).size := by
      rw [handling.known.buffer]
      rfl
    have parsed : (known.buffer .serverToClient).bytesParsed =
        (scene.conn.buffer .serverToClient).bytesParsed := by
      rw [handling.known.buffer]
    rw [size,parsed] at inside
    unfold Connection.answered
    cases Connection.Loaded.first kept lane handling.pending handling.known with
    | set fresh before same bound headed order =>
      simp only [Connection.buffer] at *
      rw [if_pos before,decide_eq_true_eq]
      omega
    | whole headerSz fuel unset framed fits rest =>
      have length := lane.sound.contents_length
      have total := lane.sound.size_eq
      rw [early] at framed
      simp only [Connection.buffer] at *
      have long : ¬(scene.conn.serverBuffer.contents.drop
          scene.conn.serverBuffer.bytesParsed).length < messageSz := by
        rw [List.length_drop]
        omega
      simp only [unset,Bool.false_eq_true,if_false,partMessage,framed,Bool.not_eq_true',
        decide_eq_false_iff_not]
      exact long
    | part headerSz fresh unset framed long => omega
  | sent result next idle polled fits written =>
    obtain ⟨buffer,rfl⟩ := writeTo_left written
    simp [early] at opened

theorem OpensTidily.waits {scene after : Scene} (found : world.scene id = some scene)
    (opens : OpensTidily settings world label) (clean : ∀ direction, scene.Clean settings direction)
    (move : Scene.Move settings .serverToClient scene label after)
    (early : scene.conn.status = .unestablished) (opened : after.conn.status = .opened)
    (fresh : (scene.conn.buffer .clientToServer).bytesParsed = 0) :
    after.conn.Waits settings .clientToServer := by
  obtain ⟨present,_,_,run⟩ := scene_found found
  obtain ⟨answered,order,rfl,data,running⟩ :=
    answered_whole (clean .serverToClient) move early opened
  rw [run] at running
  obtain ⟨loop,current,rfl,server,_⟩ := running_loop running
  obtain ⟨headed,part⟩ := opens loop current server _ present early answered fresh
  have kept := (clean .clientToServer).kept
  rw [move.cursor_other (by decide)] at kept
  have same := (move.aside (by decide : Direction.clientToServer ≠ .serverToClient)).buffer
  unfold Connection.Waits
  rw [same,opened,order]
  rcases Connection.Settled.waits kept fresh with ⟨set,short,_⟩ | ⟨unset,_⟩
  · exact .inl ⟨set,short,headed set⟩
  · exact .inr ⟨unset,.inr ⟨rfl,part unset⟩⟩

theorem OrdersTidily.waits {scene after : Scene} (found : world.scene id = some scene)
    (orders : OrdersTidily settings world label)
    (clean : ∀ direction, scene.Clean settings direction)
    (move : Scene.Move settings .clientToServer scene label after)
    (early : scene.conn.status = .unestablished) (same : after.conn.status = scene.conn.status)
    (turned : after.conn.byteswap ≠ scene.conn.byteswap)
    (fresh : (scene.conn.buffer .serverToClient).bytesParsed = 0) :
    after.conn.Waits settings .serverToClient := by
  obtain ⟨present,_,_,run⟩ := scene_found found
  rcases order_told (clean .clientToServer) move early with order |
    ⟨rfl,⟨data,running⟩,messageSz,told⟩
  · exact absurd order turned
  rw [run] at running
  obtain ⟨loop,current,rfl,client,_⟩ := running_loop running
  have kept := (clean .serverToClient).kept
  rw [move.cursor_other (by decide)] at kept
  have buffer := (move.aside (by decide : Direction.serverToClient ≠ .clientToServer)).buffer
  unfold Connection.Waits
  rw [buffer,same]
  rcases Connection.Settled.waits kept fresh with ⟨set,short,_⟩ | ⟨unset,short | ⟨opened,_⟩⟩
  · rw [early]
    exact .inl ⟨set,short,orders loop current client _ present early set _ told⟩
  · exact .inr ⟨unset,.inl (frame_short_order _ short)⟩
  · rw [early] at opened
    cases opened

theorem reached_clean (reached : World.Reached settings predefined (Tidy settings) world)
    {scene : Scene} (found : world.scene id = some scene) :
    ∀ direction, scene.Clean settings direction := by
  apply scenes_invariant (fun scene => ∀ direction, scene.Clean settings direction) ?_ ?_ reached
    found
  · intro world _ _ direction
    exact Scene.Clean.opening _ _
  · intro world label id scene after before enabled given known clean step direction
    obtain ⟨present,_,_,run⟩ := scene_found known
    have numbered := reached_keyed before _ _ present
    apply (clean direction).step step
    · rintro result rfl
      have tidy := given.1 direction
      rw [numbered] at tidy
      exact tidy rfl _ present
    · intro acting different move
      rcases move.status with same | ⟨server,_,early,opened⟩
      · by_cases order : after.conn.byteswap = scene.conn.byteswap
        · exact .inl ⟨same,order⟩
        rcases move.order (clean direction).orderly.1 with still | ⟨client,early⟩
        · exact absurd still order
        subst client
        have server : direction = .serverToClient := by
          cases direction with
          | clientToServer => contradiction
          | serverToClient => rfl
        subst server
        exact .inr (given.2.2.waits known clean move early same order)
      · subst server
        have client : direction = .clientToServer := by
          cases direction with
          | clientToServer => rfl
          | serverToClient => contradiction
        subst client
        exact .inr (given.2.1.waits known clean move early opened)

end World

theorem updatePollFlags_ready {conn : Connection}
    (ready : ∀ direction, (conn.buffer direction).readReady = false →
      (conn.buffer direction).writeReady = true) : ∃ flags, updatePollFlags conn = .ok flags := by
  have client := ready .clientToServer
  have server := ready .serverToClient
  simp only [Connection.buffer] at client server
  unfold updatePollFlags
  cases first : conn.clientBuffer.readReady <;> cases second : conn.serverBuffer.readReady <;>
    simp [assert,demand, *]

theorem Connection.Settled.ready {settings : Settings} {direction : Direction} {conn : Connection}
    (settled : conn.Settled settings direction) (sound : (conn.buffer direction).Sound) :
    ((conn.buffer direction).readReady = false → (conn.buffer direction).writeReady = true) ∧
      (0 < (conn.buffer direction).bytesParsed → (conn.buffer direction).readReady = false) := by
  have total := sound.size_eq
  have drained := sound.rewound
  have ordered := sound.writtenLe
  have part := Lane.incomplete_iff sound
  rcases settled with ⟨fresh,waits⟩ | ⟨some,all,unset⟩
  · have reads : (conn.buffer direction).readReady = true := by
      unfold SocketBuffer.readReady SocketBuffer.empty
      by_cases none : (conn.buffer direction).bytesRead = 0
      · simp [none]
      · have waiting : (conn.buffer direction).incompleteMessage = true := by
          refine part.mpr ⟨by omega,fun set => ?_⟩
          rcases waits with ⟨_,short,_⟩ | ⟨unset,_⟩
          · rw [SocketBuffer.messageSize] at short
            omega
          · simp [set] at unset
        simp [waiting]
    exact ⟨fun closed => by simp [reads] at closed,by omega⟩
  · have filled : (conn.buffer direction).empty = false := by
      simp only [SocketBuffer.empty,beq_eq_false_iff_ne]
      omega
    have complete : (conn.buffer direction).incompleteMessage = false := by
      rw [Bool.eq_false_iff]
      intro waiting
      have left := (part.mp waiting).1
      omega
    exact ⟨fun _ => by simp [SocketBuffer.writeReady,filled,some],
      fun _ => by simp [SocketBuffer.readReady,filled,complete]⟩

namespace World

variable {settings : Settings} {direction : Direction} {world : World} {id : Nat} {conn : Connection}
  {predefined : Nat → Option (List UInt8)}

/-- What is marked parsed is polled for output, and when the stream ends it has been sent
on but for the beginning of a message. -/
def NothingWithheld (settings : Settings) (world : World) (id : Nat) (direction : Direction)
    (conn : Connection) : Prop :=
  (0 < (conn.buffer direction).bytesParsed →
    ∃ flags, updatePollFlags conn = .ok flags ∧ flags.output direction = true) ∧
  ((Label.receive id direction (.received [])).Enabled world.proxy →
    (conn.buffer direction).bytesParsed = 0 ∧
      (world.history id direction).received.drop (world.history id direction).sent.length =
        (conn.buffer direction).contents ∧
      conn.Waiting settings direction)

theorem complete_messages_sent (reached : World.Reached settings predefined (Tidy settings) world)
    (idle : world.proxy.loop = none) (found : world.proxy.connections id = some conn)
    (direction : Direction) : NothingWithheld settings world id direction conn := by
  have clean := reached_clean reached (scene_some found)
  have stopped := @running_idle world id idle
  have settled (direction : Direction) : conn.Settled settings direction := by
    have kept := (clean direction).kept
    simpa [Scene.cursor,stopped,Connection.Kept] using kept
  have sound (direction : Direction) := (clean direction).orderly.2.sound
  have ready (direction : Direction) := (settled direction).ready (sound direction)
  constructor
  · intro some
    obtain ⟨flags,asked⟩ := updatePollFlags_ready fun direction => (ready direction).1
    have output := (updatePollFlags_success asked direction).2.1
    rw [(ready direction).2 some] at output
    exact ⟨flags,asked,output⟩
  · rintro ⟨_,other,same,polled,_⟩
    rw [Option.mem_def,found] at same
    cases same
    have fresh := (settled direction).fresh (sound direction) polled
    have unread := (clean direction).orderly.2.unread
    simp only [fresh,List.drop_zero,Nat.add_zero] at unread
    exact ⟨fresh,unread.symm,((settled direction).waits fresh).waiting⟩

instance (direction : Direction) (label : Label) :
    Decidable (TidyReads settings direction world label) :=
  match label with
  | .receive _ _ _ => inferInstanceAs (Decidable (_ → ∀ conn ∈ _,_ → _ ∨ _))
  | .accept | .round | .send _ _ _ | .pollError _ => inferInstanceAs (Decidable True)

instance (label : Label) : Decidable (OpensTidily settings world label) :=
  match label with
  | .round => inferInstanceAs (Decidable (∀ loop ∈ _,_ → ∀ conn ∈ _,_ → _ → _ → _))
  | .accept | .receive _ _ _ | .send _ _ _ | .pollError _ => inferInstanceAs (Decidable True)

instance (label : Label) : Decidable (OrdersTidily settings world label) :=
  match label with
  | .round => inferInstanceAs (Decidable (∀ loop ∈ _,_ → ∀ conn ∈ _,_ → _ → ∀ told ∈ _,_))
  | .accept | .receive _ _ _ | .send _ _ _ | .pollError _ => inferInstanceAs (Decidable True)

instance (label : Label) : Decidable (Tidy settings world label) :=
  decidable_of_iff
    ((TidyReads settings .clientToServer world label ∧
      TidyReads settings .serverToClient world label) ∧ OpensTidily settings world label ∧
        OrdersTidily settings world label)
    ⟨fun tidy => ⟨fun direction => by cases direction; exacts [tidy.1.1,tidy.1.2],tidy.2⟩,
      fun tidy => ⟨⟨tidy.1 _,tidy.1 _⟩,tidy.2⟩⟩

/-- A request of which half was waiting when the answer to the setup was logged is sent on. -/
theorem complete_messages_sent_request : ∃ world conn,
    World.Reached (.accepting [] (by simp)) (fun _ => none) (Tidy (.accepting [] (by simp))) world ∧
      conn ∈ world.proxy.connections 0 ∧ (conn.buffer .clientToServer).bytesParsed = 4 ∧
        NothingWithheld (.accepting [] (by simp)) world 0 .clientToServer conn := by
  obtain ⟨world,reached,idle,conn,found,parsed⟩ :=
    replayed (.accepting [] (by simp)) (fun _ => none) (Tidy (.accepting [] (by simp)))
      (fun world => world.proxy.loop = none ∧
        ∃ conn ∈ world.proxy.connections 0,(conn.buffer .clientToServer).bytesParsed = 4)
      [.accept,.receive 0 .clientToServer (.received [108,0,11,0,0]),.round,
        .receive 0 .clientToServer (.received [0,0,0,0,0,0,0]),.round,.round,
        .send 0 .clientToServer (.sent 12),.receive 0 .clientToServer (.received [43,0]),.round,
        .receive 0 .serverToClient (.received [1,0,11,0,0,0,0,0]),.round,.round,
        .receive 0 .clientToServer (.received [1,0]),.round,.round] (by decide +kernel)
  exact ⟨world,conn,reached,found,parsed,complete_messages_sent reached idle found _⟩

/-- An Initiation is kept back, and lost at the end of the stream, when the chunk that
completes it brings one more byte. -/
theorem complete_message_withheld : ∃ world conn,
    World.Reached (.accepting [] (by simp)) (fun _ => none) Anyhow world ∧
      world.proxy.loop = none ∧ conn ∈ world.proxy.connections 0 ∧
        ¬NothingWithheld (.accepting [] (by simp)) world 0 .clientToServer conn := by
  obtain ⟨world,reached,idle,enabled,conn,found,parsed⟩ :=
    replayed (.accepting [] (by simp)) (fun _ => none) Anyhow
      (fun world => world.proxy.loop = none ∧
        (Label.receive 0 .clientToServer (.received [])).Enabled world.proxy ∧
          ∃ conn ∈ world.proxy.connections 0,(conn.buffer .clientToServer).bytesParsed = 12)
      [.accept,.receive 0 .clientToServer (.received [108,0,11,0,0,0,0,0,0,0,0,0,108]),.round,.round]
      (by decide +kernel)
  refine ⟨world,conn,reached,idle,found,fun sent => ?_⟩
  have fresh := (sent.2 enabled).1
  omega

end World
end Xtracepp
