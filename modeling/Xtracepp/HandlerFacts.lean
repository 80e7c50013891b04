import Xtracepp.MessageLoop

/-! What each handler leaves when it returns: one inversion lemma a function, in
terms of the fields it read and the parts of the state it changed.
-/
namespace Xtracepp
open Library.Outcome Library.Window

namespace Storage

variable {storage : Storage}

theorem byte_success {i : Nat} {value : UInt8} (ok : storage.byte i = .ok value) :
    i < storage.size ∧ storage.cells i = value := by
  unfold byte at ok
  split at ok
  · rename_i inside
    exact ⟨inside,by simpa using ok⟩
  · contradiction

theorem fetch_success {start count : Nat} {bytes : List UInt8}
    (ok : storage.fetch start count = .ok bytes) :
    start + count ≤ storage.size ∧ bytes = window storage.cells start count := by
  unfold fetch at ok
  split at ok
  · rename_i inside
    exact ⟨inside,by simpa using ok.symm⟩
  · contradiction

theorem field_success {littleEndian byteswap : Bool} {start count value : Nat}
    (ok : storage.field littleEndian byteswap start count = .ok value) :
    start + count ≤ storage.size ∧
      value = ordered littleEndian byteswap (window storage.cells start count) := by
  obtain ⟨bytes,fetched,rest⟩ := bind_success ok
  obtain ⟨inside,rfl⟩ := fetch_success fetched
  exact ⟨inside,by simpa using rest.symm⟩

theorem byte_inside {i : Nat} (inside : i < storage.size) :
    storage.byte i = .ok (storage.cells i) := by simp [byte,inside]

theorem field_inside (littleEndian byteswap : Bool) {start count : Nat}
    (inside : start + count ≤ storage.size) :
    storage.field littleEndian byteswap start count =
      .ok (ordered littleEndian byteswap (window storage.cells start count)) := by
  simp [field,fetch,inside]

theorem store_success {start : Nat} {bytes : List UInt8} {after : Storage}
    (ok : storage.store start bytes = .ok after) :
    start + bytes.length ≤ storage.size ∧
      after = { storage with cells := overlay storage.cells start bytes } := by
  unfold store at ok
  split at ok
  · rename_i inside
    exact ⟨inside,by simpa using ok.symm⟩
  · contradiction

end Storage

namespace X11ProtocolParser

def withStash (parser : X11ProtocolParser) (connId seqNum : Nat) (entry : Option StringView) :
    X11ProtocolParser :=
  { parser with
    stashedStrings := fun otherId otherNum =>
      if otherId = connId ∧ otherNum = seqNum then entry
      else parser.stashedStrings otherId otherNum }

theorem stashString_success {parser after : X11ProtocolParser} {connId seqNum : Nat}
    {view : StringView} (ok : parser.stashString connId seqNum view = .ok after) :
    parser.stashedStrings connId seqNum = none ∧
      after = parser.withStash connId seqNum (some view) := by
  obtain ⟨absent,rest⟩ := demand_bind_success ok
  exact ⟨absent,by simpa [withStash] using rest.symm⟩

theorem unstashString_success {parser after : X11ProtocolParser} {connId seqNum : Nat}
    {view : StringView} (ok : parser.unstashString connId seqNum = .ok (after,view)) :
    parser.stashedStrings connId seqNum = some view ∧
      after = parser.withStash connId seqNum none := by
  unfold unstashString at ok
  cases entry : parser.stashedStrings connId seqNum with
  | none => simp [entry] at ok
  | some found =>
    simp only [entry,Except.ok.injEq,Prod.mk.injEq] at ok
    obtain ⟨rfl,rfl⟩ := ok
    exact ⟨rfl,rfl⟩

end X11ProtocolParser

section requests

variable {settings : Settings} {parser after : X11ProtocolParser} {conn : Connection}
  {data sz bytesParsed : Nat}

/-- The header size of a request: the extended form has a zero where the other has
its length. -/
def requestHeaderSz (flag : Nat) : Nat := if flag = 0 then 8 else 4

/-- What `parseNameRequest` found and did. -/
structure NameStashed (settings : Settings) (parser after : X11ProtocolParser) (conn : Connection)
    (data bytesParsed : Nat) (opcode : UInt8) (headerSz nameLen : Nat) : Prop where
  first : conn.clientBuffer.buffer.byte data = .ok opcode
  header : ∃ flag, conn.clientBuffer.buffer.field settings.littleEndian conn.byteswap
    (data + 2) 2 = .ok flag ∧ headerSz = requestHeaderSz flag
  counted : conn.clientBuffer.buffer.field settings.littleEndian conn.byteswap
    (data + headerSz) 2 = .ok nameLen
  absent : parser.stashedStrings conn.id conn.sequence = none
  stashed : after = parser.withStash conn.id conn.sequence (some
    { owner := conn.clientBuffer.buffer.owner
      moves := conn.clientBuffer.buffer.moves
      start := data + (headerSz + 4)
      length := nameLen })
  inside : data + (headerSz + 4) + nameLen ≤ conn.clientBuffer.buffer.size
  parsed : bytesParsed = headerSz + 4 + Alignment.pad nameLen

theorem parseNameRequest_success {opcode : UInt8}
    (ok : parseNameRequest settings parser conn data sz opcode = .ok (after,bytesParsed)) :
    ∃ headerSz nameLen,
      NameStashed settings parser after conn data bytesParsed opcode headerSz nameLen := by
  obtain ⟨_,ok⟩ := demand_bind_success ok
  obtain ⟨flag,flagged,ok⟩ := bind_success ok
  obtain ⟨_,ok⟩ := demand_bind_success ok
  obtain ⟨found,first,ok⟩ := bind_success ok
  obtain ⟨same,ok⟩ := demand_bind_success ok
  obtain ⟨nameLen,counted,ok⟩ := bind_success ok
  obtain ⟨units,_,ok⟩ := bind_success ok
  obtain ⟨_,ok⟩ := demand_bind_success ok
  obtain ⟨stashed,kept,ok⟩ := bind_success ok
  obtain ⟨_,fetched,ok⟩ := bind_success ok
  obtain ⟨absent,rfl⟩ := X11ProtocolParser.stashString_success kept
  simp only [pure_ok,Except.ok.injEq,Prod.mk.injEq] at ok
  obtain ⟨rfl,rfl⟩ := ok
  subst same
  simp only [decide_eq_true_eq] at counted fetched ⊢
  exact ⟨requestHeaderSz flag,nameLen,{
    first
    header := ⟨flag,flagged,rfl⟩
    counted
    absent
    stashed := rfl
    inside := (Storage.fetch_success fetched).1
    parsed := rfl }⟩

/-- A request either has its name stashed or leaves the parser alone. -/
theorem parseRequest_success {func : RequestParse}
    (ok : parseRequest settings parser conn data sz func = .ok (after,bytesParsed)) :
    (func = .internAtom ∧ ∃ headerSz nameLen, NameStashed settings parser after conn data
        bytesParsed Opcodes.internAtom headerSz nameLen) ∨
      (func = .queryExtension ∧ ∃ headerSz nameLen, NameStashed settings parser after conn data
        bytesParsed Opcodes.queryExtension headerSz nameLen) ∨
      (func ≠ .internAtom ∧ func ≠ .queryExtension ∧ after = parser) := by
  have untouched {run : Checked Nat}
      (ok : (do let n ← run; return (parser,n) : Checked (X11ProtocolParser × Nat)) =
        .ok (after,bytesParsed)) : after = parser := by
    obtain ⟨n,_,rest⟩ := bind_success ok
    simp only [pure_ok,Except.ok.injEq,Prod.mk.injEq] at rest
    exact rest.1.symm
  cases func with
  | core major => exact .inr (.inr ⟨by simp,by simp,untouched ok⟩)
  | internAtom => exact .inl ⟨rfl,parseNameRequest_success ok⟩
  | queryExtension => exact .inr (.inl ⟨rfl,parseNameRequest_success ok⟩)
  | bigReqEnable => exact .inr (.inr ⟨by simp,by simp,untouched ok⟩)
  | unknownRequest => exact .inr (.inr ⟨by simp,by simp,untouched ok⟩)

/-- What `_logRequest` read and left. -/
structure RequestLogged (settings : Settings) (parser : X11ProtocolParser) (conn : Connection)
    (data sz : Nat) (logged : Logged) (major minor : UInt8) : Prop where
  long : 4 ≤ sz
  first : conn.clientBuffer.buffer.byte data = .ok major
  second : conn.clientBuffer.buffer.byte (data + 1) = .ok minor
  registered : logged.conn = conn.registerRequest major 0
  parsed : parseRequest settings parser (conn.registerRequest major 0) data sz
    (parser.requestParseFunc major minor) = .ok (logged.parser,logged.bytesParsed)
  some : logged.bytesParsed ≠ 0
  bound : logged.bytesParsed ≤ sz

theorem logRequest_success {logged : Logged}
    (ok : logRequest settings parser conn data sz = .ok logged) :
    ∃ major minor, RequestLogged settings parser conn data sz logged major minor := by
  obtain ⟨long,ok⟩ := demand_bind_success ok
  obtain ⟨major,first,ok⟩ := bind_success ok
  obtain ⟨minor,second,ok⟩ := bind_success ok
  obtain ⟨⟨after,bytes⟩,parsed,ok⟩ := bind_success ok
  obtain ⟨some,ok⟩ := demand_bind_success ok
  obtain ⟨bound,ok⟩ := demand_bind_success ok
  simp only [pure_ok,Except.ok.injEq] at ok
  subst ok
  exact ⟨major,minor,⟨long,first,second,rfl,parsed,some,bound⟩⟩

end requests

section replies

variable {settings : Settings} {parser : X11ProtocolParser} {conn : Connection} {data sz : Nat}
  {logged : Logged}

/-- A server buffer in which `present` was overwritten. -/
def SocketBuffer.patched (buffer : SocketBuffer) (start : Nat) : SocketBuffer :=
  { buffer with buffer := { buffer.buffer with cells := overlay buffer.buffer.cells start [0] } }

structure AtomReplied (settings : Settings) (parser : X11ProtocolParser) (conn : Connection)
    (data : Nat) (logged : Logged) (sequence atom : Nat) : Prop where
  numbered : conn.serverBuffer.buffer.field settings.littleEndian conn.byteswap (data + 2) 2 =
    .ok sequence
  valued : conn.serverBuffer.buffer.field settings.littleEndian conn.byteswap (data + 8) 4 = .ok atom
  kept : logged.conn = conn
  unnamed : atom = 0 → logged.parser = parser
  named : atom ≠ 0 → ∃ view name, parser.stashedStrings conn.id sequence = some view ∧
    view.chars conn.clientBuffer.buffer = .ok name ∧
      logged.parser = (parser.withStash conn.id sequence none).internAtom atom name

theorem parseInternAtomReply_success
    (ok : parseInternAtomReply settings parser conn data sz = .ok logged) :
    ∃ sequence atom, AtomReplied settings parser conn data logged sequence atom := by
  obtain ⟨_,_,ok⟩ := bind_success ok
  obtain ⟨sequence,numbered,ok⟩ := bind_success ok
  obtain ⟨atom,valued,ok⟩ := bind_success ok
  obtain ⟨after,effect,ok⟩ := bind_success ok
  obtain ⟨_,_,ok⟩ := bind_success ok
  obtain ⟨_,ok⟩ := demand_bind_success ok
  simp only [pure_ok,Except.ok.injEq] at ok
  subst ok
  refine ⟨sequence,atom,⟨numbered,valued,rfl,?_,?_⟩⟩
  · intro zero
    simpa [internReplied,zero] using effect.symm
  · intro nonzero
    rw [internReplied,if_pos nonzero] at effect
    obtain ⟨⟨unstashed,view⟩,taken,effect⟩ := bind_success effect
    obtain ⟨name,shown,effect⟩ := bind_success effect
    obtain ⟨entry,rfl⟩ := X11ProtocolParser.unstashString_success taken
    exact ⟨view,name,entry,shown,by simpa using effect.symm⟩

/-- What `_enableExtensionParsing` leaves of the opcode table. -/
theorem enableExtensionParsing_success {after : X11ProtocolParser} {view : StringView}
    {name : List UInt8} {majorOpcode firstEvent firstError : UInt8}
    (ok : parser.enableExtensionParsing settings view name majorOpcode firstEvent firstError =
      .ok after) :
    settings.extensionDenied name = false ∧ name = bigRequestsName ∧
      after = { parser with
        majorOpcodes := fun other =>
          if other = majorOpcode then
            (parser.majorOpcodes other).or (some (.extension view bigRequestsRequests))
          else parser.majorOpcodes other } := by
  obtain ⟨allowed,ok⟩ := demand_bind_success ok
  by_cases known : name = bigRequestsName
  · refine ⟨allowed,known,?_⟩
    simp only [extensions,known,if_true] at ok
    cases entry : parser.majorOpcodes majorOpcode with
    | some traits =>
      have same : (fun other => if other = majorOpcode then
          (parser.majorOpcodes other).or (some (.extension view bigRequestsRequests))
          else parser.majorOpcodes other) = parser.majorOpcodes := by
        funext other
        by_cases same : other = majorOpcode <;> simp [same,entry]
      simp only [entry,pure_ok,Except.ok.injEq] at ok
      rw [same]
      exact ok.symm
    | none =>
      have same : (fun other => if other = majorOpcode then
          (parser.majorOpcodes other).or (some (.extension view bigRequestsRequests))
          else parser.majorOpcodes other) = fun other => if other = majorOpcode then
          some (.extension view bigRequestsRequests) else parser.majorOpcodes other := by
        funext other
        by_cases same : other = majorOpcode <;> simp [same,entry]
      simp only [entry,pure_ok,Except.ok.injEq] at ok
      rw [same]
      exact ok.symm
  · simp [extensions,known] at ok

/-- The opcode table after a reply that reports an extension present or absent. -/
def X11ProtocolParser.reported (parser : X11ProtocolParser) (present : Bool) (view : StringView)
    (majorOpcode : UInt8) : X11ProtocolParser :=
  { parser with
    majorOpcodes := fun other =>
      if present = true ∧ other = majorOpcode then
        (parser.majorOpcodes other).or (some (.extension view bigRequestsRequests))
      else parser.majorOpcodes other }

theorem X11ProtocolParser.reported_absent (parser : X11ProtocolParser) (view : StringView)
    (majorOpcode : UInt8) : parser.reported false view majorOpcode = parser := by
  simp [X11ProtocolParser.reported]

structure QueryReplied (settings : Settings) (parser : X11ProtocolParser) (conn : Connection)
    (data : Nat) (logged : Logged) (sequence : Nat) (view : StringView) (name : List UInt8) :
    Prop where
  numbered : conn.serverBuffer.buffer.field settings.littleEndian conn.byteswap (data + 2) 2 =
    .ok sequence
  entry : parser.stashedStrings conn.id sequence = some view
  shown : view.chars conn.clientBuffer.buffer = .ok name
  inside : data + 9 ≤ conn.serverBuffer.buffer.size
  left : logged.conn = { conn with
    serverBuffer :=
      if settings.extensionDenied name = true then conn.serverBuffer.patched (data + 8)
      else conn.serverBuffer }
  reported : logged.parser = (parser.withStash conn.id sequence none).reported
    (!settings.extensionDenied name && decide (conn.serverBuffer.buffer.cells (data + 8) ≠ 0))
    view (conn.serverBuffer.buffer.cells (data + 9))
  named : logged.parser.majorOpcodes ≠ parser.majorOpcodes → name = bigRequestsName

private theorem present_branch {after : X11ProtocolParser} {server : Connection} {view : StringView}
    {name : List UInt8}
    (ok : (do
      let majorOpcode ← server.serverBuffer.buffer.byte (data + 9)
      let firstEvent ← server.serverBuffer.buffer.byte (data + 10)
      let firstError ← server.serverBuffer.buffer.byte (data + 11)
      let parser ← after.enableExtensionParsing settings view name majorOpcode firstEvent firstError
      if name ≠ bigRequestsName then do
        assert "!conn->extensionEnabled( ext_name )" (server.extensionEnabled name = false)
        return ⟨parser,server.enableExtension name,32⟩
      else return ⟨parser,server,32⟩ : Checked Logged) = .ok logged) :
    logged.conn = server ∧ settings.extensionDenied name = false ∧ name = bigRequestsName ∧
      logged.parser = after.reported true view (server.serverBuffer.buffer.cells (data + 9)) := by
  obtain ⟨majorOpcode,first,ok⟩ := bind_success ok
  obtain ⟨firstEvent,_,ok⟩ := bind_success ok
  obtain ⟨firstError,_,ok⟩ := bind_success ok
  obtain ⟨enabled,done,ok⟩ := bind_success ok
  obtain ⟨allowed,known,rfl⟩ := enableExtensionParsing_success done
  obtain ⟨_,rfl⟩ := Storage.byte_success first
  simp only [known,ne_eq,not_true_eq_false,if_false,pure_ok,Except.ok.injEq] at ok
  subst ok
  exact ⟨rfl,allowed,known,by simp [X11ProtocolParser.reported]⟩

theorem parseQueryExtensionReply_success
    (ok : parseQueryExtensionReply settings parser conn data sz = .ok logged) :
    ∃ sequence view name, QueryReplied settings parser conn data logged sequence view name := by
  obtain ⟨_,_,ok⟩ := bind_success ok
  obtain ⟨sequence,numbered,ok⟩ := bind_success ok
  obtain ⟨⟨unstashed,view⟩,taken,ok⟩ := bind_success ok
  obtain ⟨name,shown,ok⟩ := bind_success ok
  obtain ⟨entry,rfl⟩ := X11ProtocolParser.unstashString_success taken
  refine ⟨sequence,view,name,?_⟩
  cases denied : settings.extensionDenied name with
  | true =>
    simp only [spoofPresent,denied,if_true] at ok
    obtain ⟨storage,stored,ok⟩ := bind_success ok
    obtain ⟨inside,rfl⟩ := Storage.store_success stored
    obtain ⟨present,shownPresent,ok⟩ := bind_success ok
    obtain ⟨_,rfl⟩ := Storage.byte_success shownPresent
    have zero : overlay conn.serverBuffer.buffer.cells (data + 8) [0] (data + 8) = 0 := by
      simp [overlay]
    simp only [zero,ne_eq,not_true_eq_false,if_false,pure_ok,Except.ok.injEq] at ok
    subst ok
    exact {
      numbered, entry, shown
      inside := Nat.succ_le_of_lt inside
      left := by simp [denied,SocketBuffer.patched]
      reported := by simp [denied,X11ProtocolParser.reported_absent]
      named := by intro changed; exact absurd rfl changed }
  | false =>
    simp only [spoofPresent,denied,Bool.false_eq_true,if_false,pure_ok,ok_bind] at ok
    obtain ⟨present,shownPresent,ok⟩ := bind_success ok
    obtain ⟨inside,rfl⟩ := Storage.byte_success shownPresent
    by_cases absent : conn.serverBuffer.buffer.cells (data + 8) = 0
    · simp only [absent,ne_eq,not_true_eq_false,if_false,Except.ok.injEq] at ok
      subst ok
      exact {
        numbered, entry, shown
        inside := by omega
        left := by simp [denied]
        reported := by simp [absent,X11ProtocolParser.reported_absent]
        named := by intro changed; exact absurd rfl changed }
    · rw [if_pos absent] at ok
      obtain ⟨kept,_,known,reported⟩ := present_branch ok
      exact {
        numbered, entry, shown
        inside := by omega
        left := by simp [denied,kept]
        reported := by simp [denied,absent,reported]
        named := fun _ => known }

theorem replyWithoutExtra_success {done : Unit}
    (ok : replyWithoutExtra settings conn data sz = .ok done) : 32 ≤ sz :=
  (demand_bind_success ok).1

theorem parseQueryExtensionReply_long
    (ok : parseQueryExtensionReply settings parser conn data sz = .ok logged) : 32 ≤ sz := by
  obtain ⟨_,checked,_⟩ := bind_success ok
  exact replyWithoutExtra_success checked

theorem parseBigReqEnableReply_success
    (ok : parseBigReqEnableReply settings parser conn data sz = .ok logged) :
    logged.parser = parser ∧ logged.conn = conn.enableExtension bigRequestsName := by
  obtain ⟨_,_,ok⟩ := bind_success ok
  obtain ⟨_,ok⟩ := demand_bind_success ok
  simp only [pure_ok,Except.ok.injEq] at ok
  subst ok
  exact ⟨rfl,rfl⟩

/-- What parsing a reply did, by the parse function that was called. -/
theorem parseReply_success {func : ReplyParse}
    (ok : parseReply settings parser conn data sz func = .ok logged) :
    (func = .internAtom ∧
        ∃ sequence atom, AtomReplied settings parser conn data logged sequence atom) ∨
      (func = .queryExtension ∧ 32 ≤ sz ∧ ∃ sequence view name,
        QueryReplied settings parser conn data logged sequence view name) ∨
      (func ≠ .internAtom ∧ func ≠ .queryExtension ∧ logged.parser = parser ∧
        (logged.conn = conn ∨ logged.conn = conn.enableExtension bigRequestsName)) := by
  have untouched {run : Checked Nat}
      (ok : (do return ⟨parser,conn,← run⟩ : Checked Logged) = .ok logged) :
      logged.parser = parser ∧ logged.conn = conn := by
    obtain ⟨n,_,rest⟩ := bind_success ok
    simp only [pure_ok,Except.ok.injEq] at rest
    subst rest
    exact ⟨rfl,rfl⟩
  cases func with
  | core major =>
    exact .inr (.inr ⟨by simp,by simp,(untouched ok).1,.inl (untouched ok).2⟩)
  | internAtom => exact .inl ⟨rfl,parseInternAtomReply_success ok⟩
  | queryExtension =>
    exact .inr (.inl ⟨rfl,parseQueryExtensionReply_long ok,parseQueryExtensionReply_success ok⟩)
  | bigReqEnable =>
    obtain ⟨kept,enabled⟩ := parseBigReqEnableReply_success ok
    exact .inr (.inr ⟨by simp,by simp,kept,.inr enabled⟩)
  | unknownRequest =>
    exact .inr (.inr ⟨by simp,by simp,(untouched ok).1,.inl (untouched ok).2⟩)

/-- What `_logReply` read and left; `parsed` is what the parse function gave. -/
structure ReplyLogged (settings : Settings) (parser : X11ProtocolParser) (conn : Connection)
    (data sz : Nat) (logged parsed : Logged) (sequence : Nat) (opcodes : RequestOpcodes)
    (func : ReplyParse) (lastReply : UInt8) : Prop where
  first : conn.serverBuffer.buffer.byte data = .ok 1
  numbered : conn.serverBuffer.buffer.field settings.littleEndian conn.byteswap (data + 2) 2 =
    .ok sequence
  looked : conn.lookupRequest sequence = .ok opcodes
  chosen : parser.replyParseFunc opcodes = .ok func
  called : parseReply settings parser conn data sz func = .ok parsed
  last : conn.serverBuffer.buffer.byte (data + 1) = .ok lastReply
  parser : logged.parser = parsed.parser
  conn : logged.conn =
    if opcodes.major ≠ Opcodes.listFontsWithInfo ∨ lastReply = 0 then
      parsed.conn.unregisterRequest sequence
    else parsed.conn

theorem logReply_success (ok : logReply settings parser conn data sz = .ok logged) :
    ∃ parsed sequence opcodes func lastReply,
      ReplyLogged settings parser conn data sz logged parsed sequence opcodes func lastReply := by
  obtain ⟨_,ok⟩ := demand_bind_success ok
  obtain ⟨reply,first,ok⟩ := bind_success ok
  obtain ⟨one,ok⟩ := demand_bind_success ok
  obtain ⟨sequence,numbered,ok⟩ := bind_success ok
  obtain ⟨opcodes,looked,ok⟩ := bind_success ok
  obtain ⟨func,chosen,ok⟩ := bind_success ok
  obtain ⟨parsed,called,ok⟩ := bind_success ok
  obtain ⟨lastReply,last,ok⟩ := bind_success ok
  obtain ⟨_,ok⟩ := demand_bind_success ok
  obtain ⟨_,ok⟩ := demand_bind_success ok
  simp only [pure_ok,Except.ok.injEq] at ok
  subst ok
  rw [one] at first
  exact ⟨parsed,sequence,opcodes,func,lastReply,
    ⟨first,numbered,looked,chosen,called,last,rfl,rfl⟩⟩

theorem logEvent_success (ok : logEvent settings parser conn data sz = .ok logged) :
    logged.parser = parser ∧ logged.conn = conn := by
  obtain ⟨_,ok⟩ := demand_bind_success ok
  obtain ⟨first,_,ok⟩ := bind_success ok
  cases entry : parser.eventCodes (first &&& 0x7F) with
  | none => simp [entry] at ok
  | some traits =>
    simp only [entry] at ok
    obtain ⟨_,_,ok⟩ := bind_success ok
    obtain ⟨_,ok⟩ := demand_bind_success ok
    simp only [pure_ok,Except.ok.injEq] at ok
    subst ok
    exact ⟨rfl,rfl⟩

theorem logError_success (ok : logError settings parser conn data sz = .ok logged) :
    ∃ sequence, conn.serverBuffer.buffer.byte data = .ok 0 ∧
      conn.serverBuffer.buffer.field settings.littleEndian conn.byteswap (data + 2) 2 =
        .ok sequence ∧
      logged.parser = parser ∧ logged.conn = conn.unregisterRequest sequence := by
  obtain ⟨_,ok⟩ := demand_bind_success ok
  obtain ⟨error,first,ok⟩ := bind_success ok
  obtain ⟨zero,ok⟩ := demand_bind_success ok
  obtain ⟨code,_,ok⟩ := bind_success ok
  obtain ⟨sequence,numbered,ok⟩ := bind_success ok
  cases entry : parser.errorCodes code with
  | none => simp [entry] at ok
  | some traits =>
    simp only [entry] at ok
    obtain ⟨_,_,ok⟩ := bind_success ok
    simp only [pure_ok,Except.ok.injEq] at ok
    subst ok
    rw [zero] at first
    exact ⟨sequence,first,numbered,rfl,rfl⟩

theorem logInitiation_success (ok : logInitiation settings parser conn data sz = .ok logged) :
    logged.parser = parser ∧ logged.conn = conn := by
  obtain ⟨_,ok⟩ := demand_bind_success ok
  obtain ⟨_,_,ok⟩ := bind_success ok
  obtain ⟨_,ok⟩ := demand_bind_success ok
  obtain ⟨_,ok⟩ := demand_bind_success ok
  obtain ⟨_,_,ok⟩ := bind_success ok
  obtain ⟨_,_,ok⟩ := bind_success ok
  obtain ⟨_,ok⟩ := demand_bind_success ok
  simp only [pure_ok,Except.ok.injEq] at ok
  subst ok
  exact ⟨rfl,rfl⟩

private theorem logSetupResponse_success {success : UInt8}
    (ok : logSetupResponse settings parser conn data sz success = .ok logged) :
    logged.parser = parser ∧ ∃ status, logged.conn = { conn with status } := by
  unfold logSetupResponse at ok
  split at ok
  · obtain ⟨_,_,ok⟩ := bind_success ok
    cases ok
    exact ⟨rfl,_,rfl⟩
  · split at ok
    · obtain ⟨_,_,ok⟩ := bind_success ok
      cases ok
      exact ⟨rfl,_,rfl⟩
    · split at ok
      · obtain ⟨_,_,ok⟩ := bind_success ok
        cases ok
        exact ⟨rfl,_,rfl⟩
      · cases ok
        exact ⟨rfl,conn.status,rfl⟩

theorem logInitResponse_success (ok : logInitResponse settings parser conn data sz = .ok logged) :
    logged.parser = parser ∧ ∃ status, logged.conn = { conn with status } := by
  obtain ⟨_,ok⟩ := demand_bind_success ok
  obtain ⟨_,_,ok⟩ := bind_success ok
  obtain ⟨inner,done,ok⟩ := bind_success ok
  obtain ⟨_,ok⟩ := demand_bind_success ok
  cases ok
  exact logSetupResponse_success done

end replies

section effects

variable {settings : Settings} {parser : X11ProtocolParser} {conn : Connection} {data sz : Nat}
  {logged : Logged}

/-- The frame of every handler: the client buffer stays, and of the server buffer at
most `present` of the reply just parsed changes. -/
structure HandlerEffect (handler : Option Handler) (conn after : Connection) (data sz : Nat) :
    Prop where
  id : after.id = conn.id
  byteswap : after.byteswap = conn.byteswap
  client : after.clientBuffer = conn.clientBuffer
  server : after.serverBuffer = conn.serverBuffer ∨
    (handler = some .reply ∧ 32 ≤ sz ∧ after.serverBuffer = conn.serverBuffer.patched (data + 8))

theorem logReply_effect (ok : logReply settings parser conn data sz = .ok logged) :
    HandlerEffect (some .reply) conn logged.conn data sz ∧ logged.conn.status = conn.status := by
  obtain ⟨parsed,sequence,opcodes,func,lastReply,replied⟩ := logReply_success ok
  have inner : HandlerEffect (some .reply) conn parsed.conn data sz ∧
      parsed.conn.status = conn.status := by
    rcases parseReply_success replied.called with
      ⟨_,_,_,atom⟩ | ⟨_,long,_,_,name,query⟩ | ⟨_,_,_,kept | enabled⟩
    · rw [atom.kept]
      exact ⟨⟨rfl,rfl,rfl,.inl rfl⟩,rfl⟩
    · rw [query.left]
      refine ⟨⟨rfl,rfl,rfl,?_⟩,rfl⟩
      cases denied : settings.extensionDenied name with
      | true => exact .inr ⟨rfl,long,by simp⟩
      | false => exact .inl (by simp)
    · rw [kept]
      exact ⟨⟨rfl,rfl,rfl,.inl rfl⟩,rfl⟩
    · rw [enabled]
      exact ⟨⟨rfl,rfl,rfl,.inl rfl⟩,rfl⟩
  obtain ⟨effect,status⟩ := inner
  rw [replied.conn]
  split
  · exact ⟨⟨effect.id,effect.byteswap,effect.client,effect.server⟩,status⟩
  · exact ⟨effect,status⟩

theorem runHandler_effect {handler : Option Handler}
    (ok : runHandler settings parser conn data sz handler = .ok logged) :
    HandlerEffect handler conn logged.conn data sz ∧
      logged.conn.status = if handler = some .initResponse then .opened else conn.status := by
  have still : HandlerEffect handler conn conn data sz := ⟨rfl,rfl,rfl,.inl rfl⟩
  match handler with
  | some .initiation =>
    rw [(logInitiation_success ok).2]
    exact ⟨still,by simp⟩
  | some .initResponse =>
    obtain ⟨inner,done,ok⟩ := bind_success ok
    obtain ⟨opened,ok⟩ := demand_bind_success ok
    cases ok
    obtain ⟨_,status,left⟩ := logInitResponse_success done
    refine ⟨?_,by simpa using opened⟩
    rw [left]
    exact ⟨rfl,rfl,rfl,.inl rfl⟩
  | some .request =>
    obtain ⟨_,_,logged⟩ := logRequest_success ok
    rw [logged.registered]
    exact ⟨⟨rfl,rfl,rfl,.inl rfl⟩,by simp [Connection.registerRequest]⟩
  | some .error =>
    obtain ⟨_,_,_,_,left⟩ := logError_success ok
    rw [left]
    exact ⟨⟨rfl,rfl,rfl,.inl rfl⟩,by simp [Connection.unregisterRequest]⟩
  | some .reply => simpa using logReply_effect ok
  | some .event =>
    rw [(logEvent_success ok).2]
    exact ⟨still,by simp⟩
  | none =>
    cases ok
    exact ⟨still,by simp⟩

/-- The frame of every handler on the parser: strings stashed for other connections
stay, and so does every opcode that is known. -/
structure ParserEffect (connId : Nat) (before after : X11ProtocolParser) : Prop where
  stash : ∀ other seqNum, other ≠ connId →
    after.stashedStrings other seqNum = before.stashedStrings other seqNum
  opcodes : ∀ code traits, before.majorOpcodes code = some traits →
    after.majorOpcodes code = some traits

private theorem withStash_effect (entry : Option StringView) (seqNum : Nat) :
    ParserEffect conn.id parser (parser.withStash conn.id seqNum entry) where
  stash := by intro other seqNum different; simp [X11ProtocolParser.withStash,different]
  opcodes := by intro code traits known; exact known

theorem logRequest_effect (ok : logRequest settings parser conn data sz = .ok logged) :
    ParserEffect conn.id parser logged.parser := by
  obtain ⟨major,minor,request⟩ := logRequest_success ok
  rcases parseRequest_success request.parsed with ⟨_,_,_,name⟩ | ⟨_,_,_,name⟩ | ⟨_,_,kept⟩
  · rw [name.stashed]
    exact withStash_effect _ _
  · rw [name.stashed]
    exact withStash_effect _ _
  · rw [kept]
    exact ⟨fun _ _ _ => rfl,fun _ _ known => known⟩

theorem logReply_stash (ok : logReply settings parser conn data sz = .ok logged) :
    ParserEffect conn.id parser logged.parser := by
  obtain ⟨parsed,sequence,opcodes,func,lastReply,replied⟩ := logReply_success ok
  rw [replied.parser]
  rcases parseReply_success replied.called with
    ⟨_,number,atom,named⟩ | ⟨_,_,number,view,name,query⟩ | ⟨_,_,kept,_⟩
  · by_cases zero : atom = 0
    · rw [named.unnamed zero]
      exact ⟨fun _ _ _ => rfl,fun _ _ known => known⟩
    · obtain ⟨_,_,_,_,left⟩ := named.named zero
      rw [left]
      exact ⟨(withStash_effect none number).stash,fun _ _ known => known⟩
  · rw [query.reported]
    refine ⟨(withStash_effect none number).stash,?_⟩
    intro code traits known
    simp only [X11ProtocolParser.reported,X11ProtocolParser.withStash]
    split
    · simp [known]
    · exact known
  · rw [kept]
    exact ⟨fun _ _ _ => rfl,fun _ _ known => known⟩

theorem runHandler_stash {handler : Option Handler}
    (ok : runHandler settings parser conn data sz handler = .ok logged) :
    ParserEffect conn.id parser logged.parser := by
  have still : ParserEffect conn.id parser parser := ⟨fun _ _ _ => rfl,fun _ _ known => known⟩
  match handler with
  | some .initiation =>
    rw [(logInitiation_success ok).1]
    exact still
  | some .initResponse =>
    obtain ⟨inner,done,ok⟩ := bind_success ok
    obtain ⟨_,ok⟩ := demand_bind_success ok
    cases ok
    rw [(logInitResponse_success done).1]
    exact still
  | some .request => exact logRequest_effect ok
  | some .error =>
    obtain ⟨_,_,_,kept,_⟩ := logError_success ok
    rw [kept]
    exact still
  | some .reply => exact logReply_stash ok
  | some .event =>
    rw [(logEvent_success ok).1]
    exact still
  | none =>
    cases ok
    exact still

end effects

end Xtracepp
