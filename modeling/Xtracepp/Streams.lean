import Xtracepp.Tidy

/-! The streams of two peers that follow the protocol, and how the messages the proxy
hands over compare with the messages of the streams. A stream is the list of its
messages; how `recv` cuts it up is left open.
-/
namespace Xtracepp
open Library Library.Outcome Library.Window Library.Runs Library.Framing

/-- A message is one whole message of its phase. -/
def Framed (settings : Settings) (direction : Direction) (status : Status) (byteswap : Bool)
    (message : List UInt8) : Prop :=
  ∃ headerSz, frame settings direction status byteswap message =
    some (.sized byteswap message.length headerSz)

/-- What the two peers of a connection send, in the byte order the client chose. -/
structure Streams (settings : Settings) where
  byteswap : Bool
  initiation : List UInt8
  requests : List (List UInt8)
  acceptance : List UInt8
  responses : List (List UInt8)
  opens : Framed settings .clientToServer .unestablished byteswap initiation
  asks : ∀ request ∈ requests, Framed settings .clientToServer .opened byteswap request
  accepts : Framed settings .serverToClient .unestablished byteswap acceptance
  answers : ∀ response ∈ responses, Framed settings .serverToClient .opened byteswap response

/-- The phase of the message with a given index. -/
def stage (index : Nat) : Status := if index = 0 then .unestablished else .opened

/-- Who takes a message, by its place in the stream and its first byte. -/
def messageHandler (direction : Direction) (offset : Nat) (bytes : List UInt8) : Handler :=
  match direction with
  | .clientToServer => if offset = 0 then .initiation else .request
  | .serverToClient =>
    if offset = 0 then .initResponse
    else if bytes.getD 0 0 = 0 then .error
    else if bytes.getD 0 0 = 1 then .reply
    else .event

namespace Streams

variable {settings : Settings} (streams : Streams settings) (direction : Direction)

def messages : Direction → List (List UInt8)
  | .clientToServer => streams.initiation :: streams.requests
  | .serverToClient => streams.acceptance :: streams.responses

/-- The first messages of a stream as they are handed over when each arrives alone. -/
def expected (done : Nat) : List Handed :=
  (spans 0 ((streams.messages direction).take done)).map fun span =>
    ⟨some (messageHandler direction span.1 span.2),span.1,span.2⟩

variable {streams direction}

theorem message_framed {index : Nat} {message : List UInt8}
    (found : (streams.messages direction)[index]? = some message) :
    Framed settings direction (stage index) streams.byteswap message := by
  cases direction with
  | clientToServer =>
    cases index with
    | zero =>
      cases found
      exact streams.opens
    | succ index => exact streams.asks _ (List.mem_of_getElem? found)
  | serverToClient =>
    cases index with
    | zero =>
      cases found
      exact streams.accepts
    | succ index => exact streams.answers _ (List.mem_of_getElem? found)

end Streams

section framed

variable {settings : Settings} {direction : Direction} {status : Status} {byteswap swap : Bool}
  {message front : List UInt8} {messageSz headerSz : Nat}

theorem Framed.length (framed : Framed settings direction status byteswap message) :
    0 < message.length := by
  obtain ⟨headerSz,read⟩ := framed
  rw [List.length_pos_iff]
  rintro rfl
  cases direction <;> cases status <;> simp [frame] at read

private def sizedAs (settings : Settings) (direction : Direction) (status : Status) (byteswap : Bool)
    (bytes : List UInt8) : Option (Bool × Nat × Nat) :=
  match frame settings direction status byteswap bytes with
  | some (.sized swap messageSz headerSz) => some (swap,messageSz,headerSz)
  | _ => none

private theorem sizedAs_some : sizedAs settings direction status byteswap front =
    some (swap,messageSz,headerSz) ↔ frame settings direction status byteswap front =
      some (.sized swap messageSz headerSz) := by
  unfold sizedAs
  split
  · rename_i framed
    simp [framed]
  · rename_i other
    constructor
    · intro impossible
      cases impossible
    · intro framed
      exact absurd framed (other _ _ _)

theorem Framed.agrees (framed : Framed settings direction status byteswap message)
    {rest : List UInt8} (before : front <+: message ++ rest)
    (read : frame settings direction status byteswap front = some (.sized swap messageSz headerSz)) :
    swap = byteswap ∧ messageSz = message.length := by
  obtain ⟨header,own⟩ := framed
  have same := same_reading (sizedAs settings direction status byteswap)
    (fun items more value known => sizedAs_some.mpr (frame_append more (sizedAs_some.mp known)).1)
    (sizedAs_some.mpr read) (sizedAs_some.mpr own) before (List.prefix_append _ _)
  cases same
  exact ⟨rfl,rfl⟩

theorem Framed.longer (framed : Framed settings direction status byteswap message)
    {rest : List UInt8} (before : front <+: message ++ rest)
    (short : frame settings direction status byteswap front = some .short) :
    front.length < message.length := by
  obtain ⟨header,own⟩ := framed
  by_contra enough
  have inside : message <+: front :=
    List.prefix_of_prefix_length_le (List.prefix_append message rest) before (by omega)
  obtain ⟨more,rfl⟩ := inside
  rw [(frame_append more own).1] at short
  cases short

end framed

/-- A header is only read when all of it has arrived. -/
theorem Connection.Loaded.sized {settings : Settings} {direction : Direction} {conn : Connection}
    {history : History} {data : Nat} (loaded : conn.Loaded settings direction)
    (lane : Lane (conn.buffer direction) history (some data)) :
    ∀ entry ∈ history.sizedBy settings direction conn data,
      entry.offset + entry.headerSz ≤ entry.received := by
  intro entry member
  unfold History.sizedBy at member
  dsimp only at member
  split at member
  · rename_i given
    obtain ⟨pending,unset⟩ := given
    split at member
    · rename_i swap messageSz headerSz measured
      obtain ⟨written,position,_,_⟩ := lane.placed
      obtain ⟨shown,stored⟩ := lane.unread_window
      have counted := lane.counted
      have length := lane.sound.contents_length
      have total := lane.sound.size_eq
      have inside : headerSz ≤ ((conn.buffer direction).contents.drop
          (conn.buffer direction).bytesParsed).length := by
        have measures (swap : Bool) (size header : Nat)
            (framed : frame settings direction conn.status conn.byteswap
              ((conn.buffer direction).contents.drop (conn.buffer direction).bytesParsed) =
                some (.sized swap size header)) : headerSz ≤ ((conn.buffer direction).contents.drop
                  (conn.buffer direction).bytesParsed).length := by
          have again := framed
          rw [shown] at again
          rw [measureMessage_frame stored (by omega) again] at measured
          cases measured
          exact (frame_append [] framed).2
        rcases loaded with ⟨_,fuel,whole⟩ | ⟨fresh,_,part⟩ | ⟨_,set,_⟩
        · rcases whole_cases whole with none | ⟨_,_,_,_,framed,_⟩
          · have empty := congrArg List.length none
            rw [List.length_drop,List.length_nil] at empty
            unfold SocketBuffer.parsed at pending
            omega
          · exact measures _ _ _ framed
        · rcases part_cases part with short | ⟨_,_,_,framed,_⟩
          · rw [fresh,List.drop_zero,Nat.sub_zero] at shown
            rw [fresh,Nat.sub_zero] at stored
            rw [shown] at short
            rw [measureMessage_short stored rfl short] at measured
            cases measured
          · rw [fresh,List.drop_zero] at measures ⊢
            exact measures _ _ _ framed
        · simp [set] at unset
      rw [List.length_drop] at inside
      simp only [List.mem_singleton] at member
      subst member
      simp only [History.offset,SocketBuffer.data]
      unfold SocketBuffer.parsed at pending
      omega
    · cases member
  · cases member

namespace Scene

variable {settings : Settings} {direction acting : Direction} {streams : Streams settings}
  {scene after : Scene} {label : Label} {done : Nat}

/-- How far a direction of a scene is in its stream: the first `done` messages have been
handed over, each as it stands in the stream. -/
structure Streamed (direction : Direction) (streams : Streams settings) (scene : Scene)
    (done : Nat) : Prop where
  bound : done ≤ (streams.messages direction).length
  received : (scene.history direction).received <+: (streams.messages direction).flatten
  position : ((streams.messages direction).take done).flatten.length =
    (scene.history direction).sent.length + (scene.conn.buffer direction).bytesParsed
  handed : (scene.history direction).handed = streams.expected direction done
  sized : ∀ entry ∈ (scene.history direction).sized,entry.offset + entry.headerSz ≤ entry.received
  pending : (scene.conn.buffer direction).messageSizeSet = true →
    ∃ message ∈ (streams.messages direction)[done]?,
      (scene.conn.buffer direction).messageSize = message.length

/-- What has been received but not handed over. -/
def unread (scene : Scene) (direction : Direction) : List UInt8 :=
  (scene.conn.buffer direction).contents.drop (scene.conn.buffer direction).bytesParsed

/-- What is unread is framed as the stream frames its next message. -/
def Aligned (direction : Direction) (streams : Streams settings) (scene : Scene) (done : Nat) : Prop :=
  scene.unread direction ≠ [] → scene.conn.status = stage done ∧
    ∀ bytes, frame settings direction scene.conn.status scene.conn.byteswap bytes =
      frame settings direction (stage done) streams.byteswap bytes

theorem Streamed.unread_prefix (streamed : Streamed direction streams scene done)
    (orderly : scene.Orderly direction) :
    scene.unread direction <+: ((streams.messages direction).drop done).flatten := by
  rw [Scene.unread,orderly.2.unread,← streamed.position]
  exact rest_prefix streamed.received done

theorem Streamed.first (streamed : Streamed direction streams scene done)
    (clean : scene.Clean settings direction) (aligned : Aligned direction streams scene done)
    {data messageSz : Nat} {next : Connection} (running : scene.cursor direction = some data)
    (pending : (scene.conn.buffer direction).parsed < (scene.conn.buffer direction).size)
    (known : Known settings direction scene.conn data next messageSz) :
    ∃ message, (streams.messages direction)[done]? = some message ∧ messageSz = message.length ∧
      scene.unread direction <+: message ++ ((streams.messages direction).drop (done + 1)).flatten ∧
      scene.conn.status = stage done ∧
      ((scene.conn.buffer direction).messageSizeSet = true ∧ next.byteswap = scene.conn.byteswap ∨
        next.byteswap = streams.byteswap) := by
  obtain ⟨_,lane⟩ := clean.orderly
  have kept := clean.kept
  rw [running] at lane kept
  have length := lane.sound.contents_length
  have total := lane.sound.size_eq
  have filled : scene.unread direction ≠ [] := by
    intro none
    have empty := congrArg List.length none
    rw [Scene.unread,List.length_drop,List.length_nil] at empty
    unfold SocketBuffer.parsed at pending
    omega
  obtain ⟨status,frames⟩ := aligned filled
  obtain ⟨message,found,before⟩ := next_message (streamed.unread_prefix clean.orderly) filled
  have framed := Streams.message_framed found
  refine ⟨message,found,?_,before,status,?_⟩
  all_goals
    cases Connection.Loaded.first kept lane pending known with
    | set fresh set same bound headed order =>
      obtain ⟨stored,member,size⟩ := streamed.pending set
      rw [Option.mem_def,found] at member
      cases member
      first | exact same.trans size | exact .inl ⟨set,order⟩
    | whole headerSz fuel unset read fits rest =>
      rw [frames] at read
      have agrees := framed.agrees before read
      first | exact agrees.2 | exact .inr agrees.1
    | part headerSz fresh unset read long =>
      rw [Scene.unread,fresh,List.drop_zero] at before
      rw [frames] at read
      have agrees := framed.agrees before read
      first | exact agrees.2 | exact .inr agrees.1

/-- The byte order is the client's from the time its Initiation is measured. -/
def Ordered (direction : Direction) (streams : Streams settings) (scene : Scene) (done : Nat) : Prop :=
  0 < done ∨ (scene.conn.buffer direction).messageSizeSet = true →
    scene.conn.byteswap = streams.byteswap

/-- A scene after a move, with its place in the stream. -/
structure Moved (direction : Direction) (streams : Streams settings) (scene after : Scene)
    (done next : Nat) : Prop where
  streamed : Streamed direction streams after next
  ordered : Ordered direction streams scene done → Ordered direction streams after next
  status : direction = .serverToClient → scene.conn.status = stage done →
    after.conn.status = stage next

private theorem round_kept (history : History) (parser : X11ProtocolParser) (conn : Connection)
    (data : Nat) :
    (history.round settings direction parser conn data).received = history.received ∧
      (history.round settings direction parser conn data).sent = history.sent := ⟨rfl,rfl⟩

theorem history_here (scene : Scene) (direction : Direction) (history : History) :
    scene.withHistory direction history direction = history := by simp [withHistory]

theorem Streamed.read (streamed : Streamed direction streams scene done)
    {result : RecvResult} {next : Connection} {running : Option (Direction × Nat)}
    {grown : SocketBuffer} {bytes : List UInt8}
    (effect : ReadEffect direction scene.conn next result grown bytes)
    (conforms : (scene.history direction).received ++ SocketBuffer.arrived result <+:
      (streams.messages direction).flatten) :
    Moved direction streams scene
      { scene with
        conn := next
        history := scene.withHistory direction ((scene.history direction).receive result)
        running } done done := by
  have parsed : (next.buffer direction).bytesParsed = (scene.conn.buffer direction).bytesParsed := by
    rw [effect.left,Connection.withBuffer_buffer]
    exact effect.growth.parsed
  have size : (next.buffer direction).nextMessageSz =
      (scene.conn.buffer direction).nextMessageSz := by
    rw [effect.left,Connection.withBuffer_buffer]
    exact effect.growth.pending
  refine ⟨⟨streamed.bound,?_,?_,?_,?_,?_⟩,?_,?_⟩
  · simp only [history_here]
    exact conforms
  · simp only [history_here,parsed]
    exact streamed.position
  · simp only [history_here]
    exact streamed.handed
  · simp only [history_here]
    exact streamed.sized
  · have pending := streamed.pending
    simp only [SocketBuffer.messageSizeSet,SocketBuffer.messageSize,size] at pending ⊢
    exact pending
  · intro ordered given
    have order : next.byteswap = scene.conn.byteswap := by
      rw [effect.left]
      exact Connection.withBuffer_byteswap _ _ _
    refine order.trans (ordered ?_)
    simpa only [SocketBuffer.messageSizeSet,size] using given
  · intro _ status
    refine Eq.trans ?_ status
    rw [effect.left]
    exact Connection.withBuffer_status _ _ _

theorem Streamed.sent (streamed : Streamed direction streams scene done)
    {result : SendResult} {next : Connection} {count : Nat} (orderly : scene.Orderly direction)
    (idle : scene.cursor direction = none)
    (polled : (scene.conn.buffer direction).readReady = false)
    (effect : WriteEffect direction scene.conn next result count) :
    Moved direction streams scene
      { scene with
        conn := next
        history := scene.withHistory direction
          ((scene.history direction).send (scene.conn.buffer direction) result) } done done := by
  have lane := orderly.2
  rw [idle] at lane
  obtain ⟨some,all,unset⟩ := lane.ready polled
  have short := effect.short
  have total := lane.sound.size_eq
  have sum : (next.buffer direction).bytesParsed + count =
        (scene.conn.buffer direction).bytesParsed ∧
      (next.buffer direction).messageSizeSet = false := by
    rw [effect.left,Connection.withBuffer_buffer]
    split
    · exact ⟨by simp only [SocketBuffer.cleared]; omega,
        by simp [SocketBuffer.cleared,SocketBuffer.messageSizeSet]⟩
    · exact ⟨by simp only [SocketBuffer.advanced]; omega,unset⟩
  have length : ((scene.history direction).send (scene.conn.buffer direction) result).sent.length =
      (scene.history direction).sent.length + count := by
    simp [History.send,effect.result,SocketBuffer.departed]
  refine ⟨⟨streamed.bound,?_,?_,?_,?_,?_⟩,?_,?_⟩
  · simp only [history_here]
    exact streamed.received
  · have before := streamed.position
    have parsed := sum.1
    simp only [history_here,length]
    omega
  · simp only [history_here]
    exact streamed.handed
  · simp only [history_here]
    exact streamed.sized
  · intro set
    simp [sum.2] at set
  · intro ordered given
    have order : next.byteswap = scene.conn.byteswap := by
      rw [effect.left]
      exact Connection.withBuffer_byteswap _ _ _
    refine order.trans (ordered ?_)
    rcases given with some | set
    · exact .inl some
    · simp [sum.2] at set
  · intro _ status
    refine Eq.trans ?_ status
    rw [effect.left]
    exact Connection.withBuffer_status _ _ _

theorem Clean.sized (clean : scene.Clean settings direction) {data : Nat}
    (running : scene.cursor direction = some data) :
    ∀ entry ∈ (scene.history direction).sizedBy settings direction scene.conn data,
      entry.offset + entry.headerSz ≤ entry.received := by
  obtain ⟨_,lane⟩ := clean.orderly
  have kept := clean.kept
  rw [running] at lane kept
  apply Connection.Loaded.sized
  · exact kept
  · exact lane

theorem Streamed.finished (streamed : Streamed direction streams scene done)
    (clean : scene.Clean settings direction) (aligned : Aligned direction streams scene done)
    {data : Nat} {next : Connection} (running : scene.cursor direction = some data)
    (round : messageRound settings direction scene.parser scene.conn data = .ok (.finished next)) :
    Moved direction streams scene
      { scene with
        conn := next
        history := scene.withHistory direction
          ((scene.history direction).round settings direction scene.parser scene.conn data)
        running := none } done done := by
  have none : (scene.history direction).handedBy settings direction scene.parser scene.conn data =
      [] := by
    rw [History.handedBy,round]
    rfl
  have sized := clean.sized running
  have left := finished_left round
  have buffer : (next.buffer direction).bytesParsed = (scene.conn.buffer direction).bytesParsed := by
    rcases left with rfl | ⟨messageSz,known,_⟩
    · rfl
    · rw [known.buffer]
  refine ⟨⟨streamed.bound,?_,?_,?_,?_,?_⟩,?_,?_⟩
  · simp only [history_here,round_kept]
    exact streamed.received
  · simp only [history_here,round_kept,buffer]
    exact streamed.position
  · simp only [history_here]
    simp only [History.round,none,List.append_nil]
    exact streamed.handed
  · simp only [history_here]
    intro entry member
    rcases List.mem_append.mp member with old | new
    · exact streamed.sized _ old
    · exact sized _ new
  · rcases left with rfl | ⟨messageSz,known,_,pending⟩
    · exact streamed.pending
    · obtain ⟨message,found,size,_⟩ := streamed.first clean aligned running pending known
      intro _
      refine ⟨message,found,?_⟩
      simp only [SocketBuffer.messageSize,known.buffer]
      exact size
  · intro ordered given
    rcases left with rfl | ⟨messageSz,known,_,pending⟩
    · exact ordered given
    · obtain ⟨_,_,_,_,_,⟨set,order⟩ | order⟩ := streamed.first clean aligned running pending known
      · exact order.trans (ordered (.inr set))
      · exact order
  · intro _ status
    rcases left with rfl | ⟨messageSz,known,_⟩
    · exact status
    · exact known.status.trans status

private theorem selected {direction : Direction} {conn : Connection} {data offset : Nat}
    {handler : Option Handler} {message : List UInt8} {done : Nat}
    (chosen : selectHandler direction conn data = .ok handler) (status : conn.status = stage done)
    (offsets : offset = 0 ↔ done = 0)
    (first : conn.serverBuffer.buffer.cells data = message.getD 0 0 ∨ direction = .clientToServer) :
    handler = some (messageHandler direction offset message) := by
  unfold selectHandler at chosen
  cases direction with
  | clientToServer =>
    by_cases zero : done = 0
    · rw [status,stage,if_pos zero] at chosen
      cases chosen
      simp [messageHandler,offsets.mpr zero]
    · rw [status,stage,if_neg zero] at chosen
      cases chosen
      have later : offset ≠ 0 := fun early => zero (offsets.mp early)
      simp [messageHandler,later]
  | serverToClient =>
    by_cases zero : done = 0
    · rw [status,stage,if_pos zero] at chosen
      cases chosen
      simp [messageHandler,offsets.mpr zero]
    · rw [status,stage,if_neg zero] at chosen
      obtain ⟨byte,read,chosen⟩ := bind_success chosen
      obtain ⟨_,rfl⟩ := Storage.byte_success read
      cases chosen
      have later : offset ≠ 0 := fun early => zero (offsets.mp early)
      rcases first with same | other
      · simp only [messageHandler,later,if_false,same]
      · cases other

theorem Streamed.offset_zero (streamed : Streamed direction streams scene done) :
    ((streams.messages direction).take done).flatten.length = 0 ↔ done = 0 := by
  constructor
  · intro none
    by_contra some
    have front : ∃ first rest, streams.messages direction = first :: rest ∧ 0 < first.length := by
      cases direction with
      | clientToServer => exact ⟨_,_,rfl,streams.opens.length⟩
      | serverToClient => exact ⟨_,_,rfl,streams.accepts.length⟩
    obtain ⟨first,rest,shape,long⟩ := front
    obtain ⟨less,rfl⟩ := Nat.exists_eq_succ_of_ne_zero some
    rw [shape,List.take_succ_cons,List.flatten_cons,List.length_append] at none
    omega
  · rintro rfl
    simp

/-- A message of the stream is handed to the handler that its place and its first byte ask for. -/
theorem Streamed.chosen (streamed : Streamed direction streams scene done) {data messageSz : Nat}
    {handler : Option Handler} {logged inner : Logged} {next : Connection} {message : List UInt8}
    (handling : Handling settings direction scene.parser scene.conn data handler logged next messageSz
      inner)
    (found : (streams.messages direction)[done]? = some message)
    (bytes : window (scene.conn.buffer direction).buffer.cells data message.length = message)
    (status : scene.conn.status = stage done) :
    handler =
      some (messageHandler direction ((streams.messages direction).take done).flatten.length message) := by
  obtain ⟨_,given⟩ := demand_bind_success handling.given
  obtain ⟨chosen,select,given⟩ := bind_success given
  obtain ⟨ran,_,given⟩ := bind_success given
  obtain ⟨_,given⟩ := demand_bind_success given
  cases given
  have first : next.serverBuffer.buffer.cells data = message.getD 0 0 ∨
      direction = .clientToServer := by
    cases direction with
    | clientToServer => exact .inr rfl
    | serverToClient =>
      left
      have buffer := handling.known.buffer
      simp only [Connection.buffer] at buffer bytes
      have long := (Streams.message_framed found).length
      rw [buffer]
      simp only
      rw [← bytes,List.getD_eq_getElem?_getD,List.getElem?_eq_getElem (by simpa using long)]
      simp
  exact selected select (handling.known.status.trans status) streamed.offset_zero first

theorem Streamed.handled (streamed : Streamed direction streams scene done)
    (clean : scene.Clean settings direction) (aligned : Aligned direction streams scene done)
    {data : Nat} {handler : Option Handler} {logged : Logged}
    (running : scene.cursor direction = some data)
    (round : messageRound settings direction scene.parser scene.conn data =
      .ok (.handled handler logged)) {cursor : Option (Direction × Nat)} :
    Moved direction streams scene
      { parser := logged.parser
        conn := logged.conn
        history := scene.withHistory direction
          ((scene.history direction).round settings direction scene.parser scene.conn data)
        running := cursor } done (done + 1) := by
  obtain ⟨_,lane⟩ := clean.orderly
  rw [running] at lane
  obtain ⟨next,messageSz,inner,handling⟩ := handled_left round
  obtain ⟨buffer,mark,left⟩ := handling.left
  obtain ⟨message,found,size,before,status,order⟩ :=
    streamed.first clean aligned running handling.pending handling.known
  have effect := handOver_effect handling.given
  have sized := lane.sized handling.pending handling.known
  have inside := Lane.complete sized handling.complete
  have marked := Lane.marked sized handling.complete effect mark
  have sizedBy := clean.sized running
  obtain ⟨written,position,_,_⟩ := lane.placed
  obtain ⟨shown,stored⟩ := lane.unread_window
  have parsed : buffer.bytesParsed =
      (scene.conn.buffer direction).bytesParsed + message.length := by
    rw [marked.parsed,handling.known.buffer,size]
  have room : (scene.conn.buffer direction).bytesParsed + message.length ≤
      (scene.conn.buffer direction).size := by
    have same : (next.buffer direction).size = (scene.conn.buffer direction).size := by
      rw [handling.known.buffer]
      rfl
    have mark : (next.buffer direction).bytesParsed =
        (scene.conn.buffer direction).bytesParsed := by rw [handling.known.buffer]
    omega
  have bytes : window (scene.conn.buffer direction).buffer.cells data message.length = message := by
    have front : message <+: scene.unread direction := by
      apply List.prefix_of_prefix_length_le (List.prefix_append _ _) before
      rw [Scene.unread,shown,window_length]
      omega
    obtain ⟨rest,whole⟩ := front
    rw [Scene.unread,shown] at whole
    have cut := congrArg (List.take message.length) whole
    rw [List.take_left,window_take _ _ _ _ (by omega)] at cut
    exact cut.symm
  have offset : (scene.history direction).offset (scene.conn.buffer direction) data =
      ((streams.messages direction).take done).flatten.length := by
    rw [streamed.position]
    simp only [History.offset,SocketBuffer.data]
    omega
  have chosen := streamed.chosen handling found bytes status
  have entry : (scene.history direction).handedBy settings direction scene.parser scene.conn data =
      [⟨some (messageHandler direction ((streams.messages direction).take done).flatten.length message),
        ((streams.messages direction).take done).flatten.length,message⟩] := by
    rw [History.handedBy,round,History.handedOf,handling.size,size,bytes,offset,chosen]
  refine ⟨⟨?_,?_,?_,?_,?_,?_⟩,?_,?_⟩
  · have inside := List.getElem?_eq_some_iff.mp found
    exact inside.1
  · simp only [history_here,round_kept]
    exact streamed.received
  · simp only [history_here,round_kept,left,Connection.withBuffer_buffer,parsed]
    rw [flatten_succ found,List.length_append,streamed.position]
    omega
  · simp only [history_here,History.round,entry,streamed.handed,Streams.expected]
    rw [spans_succ found,List.map_append]
    simp
  · simp only [history_here]
    intro entry member
    rcases List.mem_append.mp member with old | new
    · exact streamed.sized _ old
    · exact sizedBy _ new
  · intro set
    simp [left,marked.unset] at set
  · intro ordered _
    simp only [left,Connection.withBuffer_byteswap,effect.byteswap]
    rcases order with ⟨set,same⟩ | same
    · exact same.trans (ordered (.inr set))
    · exact same
  · rintro rfl _
    simp only [left,Connection.withBuffer_status,effect.status,handling.known.status,status]
    unfold stage
    split <;> simp_all

end Scene

/-- The number of connections that were accepted before this one. -/
def Connection.serial (conn : Connection) : Nat := conn.clientBuffer.buffer.owner

namespace Scene

variable {settings : Settings} {direction acting : Direction} {scene after : Scene} {label : Label}

theorem Move.serial (move : Move settings acting scene label after) :
    after.conn.serial = scene.conn.serial := by
  by_cases client : Direction.clientToServer = acting
  · subst client
    change (after.conn.buffer .clientToServer).buffer.owner =
      (scene.conn.buffer .clientToServer).buffer.owner
    cases move with
    | received result next idle polled fits read => exact (readFrom_storage read).1
    | finished data next running round =>
      rcases finished_left round with rfl | ⟨messageSz,known,_⟩
      · rfl
      · simp only [known.buffer]
    | handled data handler logged running round =>
      obtain ⟨next,messageSz,inner,handling⟩ := handled_left round
      obtain ⟨buffer,mark,left⟩ := handling.left
      have storage : buffer.buffer = (inner.conn.buffer .clientToServer).buffer := by
        obtain ⟨_,mark⟩ := demand_bind_success mark
        obtain ⟨_,mark⟩ := demand_bind_success mark
        cases mark
        rfl
      have kept : inner.conn.buffer .clientToServer = next.buffer .clientToServer := by
        rcases (handOver_effect handling.given).same with kept | ⟨_,server,_⟩
        · exact kept
        · cases server
      simp only [left,Connection.withBuffer_buffer,storage,kept,handling.known.buffer]
    | sent result next idle polled fits written => rw [writeTo_storage written]
  · have aside := move.aside client
    change (after.conn.buffer .clientToServer).buffer.owner =
      (scene.conn.buffer .clientToServer).buffer.owner
    rw [aside.buffer]

end Scene

end Xtracepp
