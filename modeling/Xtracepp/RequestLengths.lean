import Xtracepp.ParseFunctions

/-! Requests whose length is too small for what they are: for their header, for the fixed fields of
their kind, or for what these fields count. The loop of `logClientMessages` on an open connection
ends, and takes whole requests, but it has no error result for those.
-/
namespace Xtracepp
open Library Library.Outcome Library.Window

section kinds
open Encodings Formatting CountedLists

/-- The size of the fixed fields behind the header. -/
def RequestParse.encodingSz : RequestParse → Nat
  | .core major => (requestType major).elim 0 RequestType.encodingSz
  | .internAtom | .queryExtension => 4
  | .bigReqEnable | .unknownRequest => 0

/-- A message that has room for exactly what its fixed fields tell. -/
def RequestParse.Roomy (reader : Reader) (big_request : Bool) (message : List UInt8) :
    RequestParse → Prop
  | .core major => ∃ type ∈ requestType major,∃ counts,type.Formed reader big_request message counts
  | .internAtom | .queryExtension => message.length =
      start big_request + 4 + padded (reader.value message (start big_request) 2)
  | .bigReqEnable => message.length = start big_request
  | .unknownRequest => True

/-- A message that ends within its header or its fixed fields, or that has not the room they tell
where a longer one that begins like it has. -/
def RequestParse.TooShort (reader : Reader) (big_request : Bool) (message : List UInt8)
    (func : RequestParse) : Prop :=
  message.length < start big_request + func.encodingSz ∨
    (¬func.Roomy reader big_request message ∧ ∃ more,func.Roomy reader big_request (message ++ more))

end kinds

namespace RequestProgress
open Encodings Formatting CountedLists

/-- The function that parses the request at `data`. -/
def LoopState.func (state : LoopState) : RequestParse :=
  state.parser.requestParseFunc (state.conn.clientBuffer.buffer.cells state.data)
    (state.conn.clientBuffer.buffer.cells (state.data + 1))

/-- A request that the loop comes to, all of which was received. -/
structure Received (settings : Settings) (state : LoopState) (messageSz : Nat) : Prop where
  pending : state.conn.clientBuffer.parsed < state.conn.clientBuffer.size
  framed : Framed settings state.conn state.data messageSz
  whole : state.conn.clientBuffer.parsed + messageSz ≤ state.conn.clientBuffer.size

/-- The request at `data` is too short. -/
def LoopState.TooShort (settings : Settings) (context : X11ProtocolParser → Context) (state : LoopState)
    (messageSz : Nat) : Prop :=
  state.func.TooShort (readerOf settings.littleEndian context state.parser state.conn)
    (headerSz settings state.conn state.data == 8)
    (window state.conn.clientBuffer.buffer.cells state.data messageSz)

/-- A round goes on by the framed size, which covers the header and lies within what was received,
and a request that is too short is reported. -/
structure Progresses (settings : Settings) (context : X11ProtocolParser → Context) (state : LoopState) :
    Prop where
  consumed : ∀ handler logged,
    messageRound settings .clientToServer state.parser state.conn state.data =
      .ok (.handled handler logged) →
    Framed settings state.conn state.data logged.bytesParsed ∧
      headerSz settings state.conn state.data ≤ logged.bytesParsed ∧
      state.data + logged.bytesParsed ≤ state.conn.clientBuffer.data + state.conn.clientBuffer.size
  reported : ∀ messageSz,Received settings state messageSz →
    state.TooShort settings context messageSz →
      ∃ text,messageRound settings .clientToServer state.parser state.conn state.data =
        .ok (.refused text)

section rounds

variable {settings : Settings} {context : X11ProtocolParser → Context} {parser : X11ProtocolParser}
  {conn : Connection} {state : LoopState} {data messageSz : Nat}

theorem framed_unique {other : Nat} (framed : Framed settings conn data messageSz)
    (again : Framed settings conn data other) : other = messageSz := by
  rcases framed with ⟨set,same⟩ | ⟨unset,header,measured⟩ <;>
    rcases again with ⟨known,equal⟩ | ⟨unknown,another,read⟩
  · exact equal.trans same.symm
  · simp [set] at unknown
  · simp [unset] at known
  · rw [measured] at read
    cases read
    rfl

theorem LoopState.long_header (long : ¬state.TooShort settings context messageSz) :
    headerSz settings state.conn state.data ≤ messageSz := by
  have header : headerSz settings state.conn state.data =
      CountedLists.start (headerSz settings state.conn state.data == 8) := by
    unfold headerSz requestHeaderSz
    split <;> rfl
  have enough : ¬_ := fun few => long (.inl few)
  rw [window_length] at enough
  omega

theorem progresses_long (within : Within state.conn state.data)
    (long : ∀ messageSz,Received settings state messageSz → ¬state.TooShort settings context messageSz) :
    Progresses settings context state := by
  constructor
  · intro handler logged round
    obtain ⟨framed,_,bound,_⟩ := within.handled round
    obtain ⟨_,_,_,handling⟩ := handled_left round
    have behind := within.behind
    exact ⟨framed,state.long_header (long _ ⟨handling.pending,framed,bound⟩),by omega⟩
  · intro messageSz received short
    exact absurd short (long messageSz received)

theorem long_progresses (progresses : Progresses settings context state)
    (received : Received settings state messageSz) : ¬state.TooShort settings context messageSz := by
  intro short
  obtain ⟨text,refused⟩ := progresses.reported messageSz received short
  exact framed_accepted received.framed refused

end rounds

section lengths

variable {settings : Settings} {context : X11ProtocolParser → Context} {parser : X11ProtocolParser}
  {conn : Connection} {state : LoopState} {data messageSz : Nat} {reader : Reader}

theorem parseLayout_long {layout : Layout} {bytes : List UInt8} {sz : Nat} {outputs : Outputs}
    (done : reader.parseLayout layout bytes sz = .ok outputs) : 4 + layout.encodingSz ≤ sz :=
  (demand_bind_success done).1

theorem parseDerived_base {name : String} {opcode : UInt8}
    {parseBase : List UInt8 → Nat → Checked Outputs} {bytes : List UInt8} {sz : Nat} {outputs : Outputs}
    (done : parseDerived name opcode parseBase bytes sz = .ok outputs) :
    parseBase bytes sz = .ok outputs := by
  obtain ⟨_,done⟩ := demand_bind_success done
  obtain ⟨_,_,done⟩ := bind_success done
  exact done

/-- Each function asserts that the request is as long as its fixed fields and a short header. -/
theorem parseRequestType_long {type : RequestType} {bytes : List UInt8} {sz : Nat} {outputs : Outputs}
    (done : reader.parseRequestType type bytes sz = .ok outputs) : 4 + type.encodingSz ≤ sz := by
  cases type with
  | own layout => exact parseLayout_long done
  | derived name opcode layout => exact parseLayout_long (parseDerived_base done)
  | polyPoint name opcode => exact (demand_bind_success (parseDerived_base done)).1
  | changeProperty => exact (demand_bind_success done).1
  | polyArc => exact (demand_bind_success done).1

theorem parseRequest_long {func : RequestParse} {sz : Nat} {result : X11ProtocolParser × Nat}
    (four : 4 ≤ sz)
    (done : parseRequest (settings.withParseFunctions context) parser conn data sz func = .ok result) :
    4 + func.encodingSz ≤ sz := by
  cases func with
  | core major =>
    obtain ⟨_,done,_⟩ := bind_success done
    obtain ⟨bytes,_,done⟩ := bind_success done
    obtain ⟨outputs,done,_⟩ := bind_success done
    change Reader.parseRequestCode _ major bytes sz = _ at done
    cases found : requestType major with
    | none =>
      rw [Reader.parseRequestCode,found] at done
      cases done
    | some type =>
      rw [Reader.parseRequestCode,found] at done
      rw [RequestParse.encodingSz,found]
      exact parseRequestType_long done
  | internAtom => exact (demand_bind_success done).1
  | queryExtension => exact (demand_bind_success done).1
  | bigReqEnable => exact four
  | unknownRequest => exact four

theorem Received.goes_on (received : Received settings state messageSz)
    (within : Within state.conn state.data) {next : Connection} :
    messageRound settings .clientToServer state.parser state.conn state.data ≠ .ok (.finished next) := by
  intro round
  have whole := received.whole
  cases messageRound_case round with
  | drained all => exact all received.pending
  | short _ unset measured =>
    rcases received.framed with ⟨set,_⟩ | ⟨_,header,sized⟩
    · change state.conn.clientBuffer.messageSizeSet = false at unset
      rw [set] at unset
      cases unset
    · rw [measured] at sized
      cases sized
  | incomplete known pending sizing waiting =>
    obtain ⟨size,known⟩ := sizing_known sizing
    obtain ⟨framed,_,sound⟩ := within.known known
    have same := framed_unique received.framed framed
    have buffer : next.clientBuffer = { state.conn.clientBuffer with nextMessageSz := size } :=
      known.buffer
    have part := ((Lane.incomplete_iff sound).mp waiting).2
    rw [buffer] at part
    have few := part (bne_iff_ne.mpr known.definite)
    change state.conn.clientBuffer.size - state.conn.clientBuffer.bytesParsed < size at few
    change state.conn.clientBuffer.bytesParsed + messageSz ≤ _ at whole
    have pending := received.pending
    change state.conn.clientBuffer.bytesParsed < _ at pending
    omega

/-- A request without room for a short header and its fixed fields fails an assertion. -/
theorem short_asserts (within : Within state.conn state.data)
    (received : Received (settings.withParseFunctions context) state messageSz)
    (short : messageSz < 4 + state.func.encodingSz) :
    ∃ fault,messageRound (settings.withParseFunctions context) .clientToServer state.parser state.conn
      state.data = .error fault := by
  cases round : messageRound (settings.withParseFunctions context) .clientToServer state.parser
      state.conn state.data with
  | error fault => exact ⟨fault,rfl⟩
  | ok outcome =>
    exfalso
    cases outcome with
    | refused text => exact framed_accepted received.framed round
    | finished next => exact received.goes_on within round
    | handled handler logged =>
      obtain ⟨framed,_⟩ := within.handled round
      obtain ⟨next,size,inner,handling⟩ := handled_left round
      have known := handling.known
      obtain ⟨_,opened,_⟩ := within.known known
      have buffer : next.clientBuffer = { state.conn.clientBuffer with nextMessageSz := size } :=
        known.buffer
      obtain ⟨_,major,minor,done⟩ := handOver_logged opened handling.given
      have long := parseRequest_long done.long done.parsed
      obtain ⟨_,first⟩ := Storage.byte_success done.first
      obtain ⟨_,second⟩ := Storage.byte_success done.second
      rw [buffer] at first second long
      have same := framed_unique received.framed framed
      rw [handling.size] at same
      have func : state.func = state.parser.requestParseFunc major minor := by
        rw [LoopState.func,first,second]
      rw [func] at short
      change 4 + _ ≤ size at long
      omega

end lengths

section accepted

variable {settings : Settings} {context : X11ProtocolParser → Context} {parser : X11ProtocolParser}
  {conn : Connection} {state : LoopState} {messages : List (List UInt8)} {message more : List UInt8}
  {messageSz : Nat}

theorem Iterates.accepted
    (unparsed : Unparsed conn.clientBuffer conn.clientBuffer.data messages.flatten)
    (opened : conn.status = .opened) (standard : Dispatch.Standard parser)
    (accepted : ∀ message ∈ messages,
      Accepted parser (readerOf settings.littleEndian context parser conn) message)
    (iterates : Iterates (settings.withParseFunctions context) parser conn state) :
    ∃ rest : List (List UInt8),(∀ message ∈ rest,message ∈ messages) ∧
      Unparsed state.conn.clientBuffer state.data rest.flatten ∧ state.conn.status = .opened ∧
        state.parser = parser ∧ readerOf settings.littleEndian context state.parser state.conn =
          readerOf settings.littleEndian context parser conn := by
  apply iterates.invariant
  · rintro state rfl
    exact ⟨messages,fun _ listed => listed,unparsed,opened,rfl,rfl⟩
  · rintro ⟨parser',conn',data⟩ handler after ⟨rest,listed,unparsed,opened,rfl,reader⟩ _ ⟨logged,round,rfl⟩
    dsimp only at *
    cases rest with
    | nil =>
      obtain ⟨_,_,_,handling⟩ := handled_left round
      have pending := handling.pending
      have length := unparsed.length
      change conn'.clientBuffer.bytesParsed < conn'.clientBuffer.size at pending
      simp at length
      omega
    | cons message rest =>
      rw [List.forall_mem_cons] at listed
      have here := accepted message listed.1
      rw [← reader] at here
      rw [List.flatten_cons] at unparsed
      rw [request_round unparsed opened standard here] at round
      cases round
      exact ⟨rest,listed.2,unparsed.next,opened,rfl,reader⟩

theorem accepted_room {reader : Reader} (standard : Dispatch.Standard parser)
    (accepted : Accepted parser reader message) :
    ¬(parser.requestParseFunc (message.getD 0 0) (message.getD 1 0)).TooShort reader
      (decide (reader.value message 2 2 = 0)) message := by
  have form {fixed : Nat} {big_request : Bool} (request : Request reader message fixed big_request) :
      decide (reader.value message 2 2 = 0) = big_request := by
    simp only [request.flag,Bool.decide_eq_true]
  cases accepted with
  | core found request formed accepts =>
    rw [form request,core_func standard found]
    rintro (few | ⟨crowded,_⟩)
    · rw [RequestParse.encodingSz,found] at few
      exact absurd request.long (Nat.not_le.mpr few)
    · exact crowded ⟨_,found,_,formed⟩
  | unknown request func =>
    rw [form request,func]
    rintro (few | ⟨crowded,_⟩)
    · exact absurd request.long (Nat.not_le.mpr few)
    · exact crowded trivial
  | bigReqEnable request func minor whole =>
    rw [form request,func]
    rintro (few | ⟨crowded,_⟩)
    · exact absurd request.long (Nat.not_le.mpr few)
    · exact crowded whole

theorem accepted_size (unparsed : Unparsed state.conn.clientBuffer state.data (message ++ more))
    (opened : state.conn.status = .opened)
    (accepted : Accepted state.parser (readerOf settings.littleEndian context state.parser state.conn)
      message)
    (framed : Framed (settings.withParseFunctions context) state.conn state.data messageSz) :
    messageSz = message.length := by
  obtain ⟨four,small,header,read⟩ :=
    @Accepted.framed (settings.withParseFunctions context) _ _ _ accepted rfl
  have inside := unparsed.inside
  have length := unparsed.length
  rw [List.length_append] at inside length
  have unset : state.conn.clientBuffer.messageSizeSet = false := by
    rw [SocketBuffer.messageSizeSet,unparsed.unset,bne_self_eq_false]
  have whole : frame (settings.withParseFunctions context) .clientToServer state.conn.status
      state.conn.byteswap (window state.conn.clientBuffer.buffer.cells state.data message.length) =
        some (.sized state.conn.byteswap message.length header) := by
    rw [unparsed.front,opened]
    exact read
  have stored : state.data + message.length ≤ state.conn.clientBuffer.buffer.size := by omega
  have within : message.length ≤ state.conn.clientBuffer.size := by omega
  have measured := @measureMessage_frame (settings.withParseFunctions context) .clientToServer
    state.conn state.data message.length message.length header state.conn.byteswap stored within whole
  exact framed_unique (.inr ⟨unset,header,measured⟩) framed

theorem accepted_long (unparsed : Unparsed state.conn.clientBuffer state.data (message ++ more))
    (opened : state.conn.status = .opened) (standard : Dispatch.Standard state.parser)
    (accepted : Accepted state.parser (readerOf settings.littleEndian context state.parser state.conn)
      message)
    (framed : Framed (settings.withParseFunctions context) state.conn state.data messageSz) :
    ¬state.TooShort (settings.withParseFunctions context) context messageSz := by
  obtain ⟨four,_⟩ := @Accepted.framed (settings.withParseFunctions context) _ _ _ accepted rfl
  obtain rfl := accepted_size unparsed opened accepted framed
  obtain ⟨_,major⟩ := Storage.byte_success (unparsed.byte (by omega : 0 < message.length))
  obtain ⟨_,minor⟩ := Storage.byte_success (unparsed.byte (by omega : 1 < message.length))
  have field := unparsed.field settings.littleEndian false (by omega : 2 + 2 ≤ message.length)
  obtain ⟨_,flag⟩ := Storage.field_success field
  have func : state.func = state.parser.requestParseFunc (message.getD 0 0) (message.getD 1 0) := by
    rw [Nat.add_zero] at major
    rw [LoopState.func,major,minor]
  have form : (headerSz (settings.withParseFunctions context) state.conn state.data == 8) =
      decide ((readerOf settings.littleEndian context state.parser state.conn).value message 2 2 = 0) := by
    have zero := (@ordered_zero settings.littleEndian false (Framing.slice message 2 2)).trans
      (@ordered_zero settings.littleEndian state.conn.byteswap (Framing.slice message 2 2)).symm
    change (requestHeaderSz (ordered settings.littleEndian false
      (window state.conn.clientBuffer.buffer.cells (state.data + 2) 2)) == 8) =
        decide (ordered settings.littleEndian state.conn.byteswap (Framing.slice message 2 2) = 0)
    rw [← flag,requestHeaderSz,← decide_eq_decide.mpr zero]
    split
    · rename_i extended
      rw [decide_eq_true extended]
      rfl
    · rename_i plain
      rw [decide_eq_false plain]
      rfl
  rw [LoopState.TooShort,unparsed.front,func,form]
  exact accepted_room standard accepted

end accepted

section runs

variable {conn : Connection}

theorem accepted_enough {settings : Settings} {context : X11ProtocolParser → Context}
    {parser : X11ProtocolParser} {messages : List (List UInt8)} {state : LoopState} {messageSz : Nat}
    (unparsed : Unparsed conn.clientBuffer conn.clientBuffer.data messages.flatten)
    (opened : conn.status = .opened) (standard : Dispatch.Standard parser)
    (accepted : ∀ message ∈ messages,
      Accepted parser (readerOf settings.littleEndian context parser conn) message)
    (iterates : Iterates (settings.withParseFunctions context) parser conn state)
    (received : Received (settings.withParseFunctions context) state messageSz) :
    ¬state.TooShort (settings.withParseFunctions context) context messageSz := by
  obtain ⟨rest,listed,left,status,same,reader⟩ := iterates.accepted unparsed opened standard accepted
  cases rest with
  | nil =>
    have pending := received.pending
    have length := left.length
    change state.conn.clientBuffer.bytesParsed < state.conn.clientBuffer.size at pending
    simp at length
    omega
  | cons message rest =>
    have here := accepted message (listed message List.mem_cons_self)
    rw [← reader,← same] at here
    rw [← same] at standard
    exact accepted_long left status standard here received.framed

end runs

def usual : Context := CountedLists.plain.context

/-- Settings with the parse functions of the source. -/
abbrev sourced : Settings := plain.withParseFunctions fun _ => usual

/-- A ListFonts with a pattern of two bytes. -/
def listFonts : List UInt8 := [49,0,3,0,5,0,2,0,65,66,0,0]

end RequestProgress
end Xtracepp
