import Xtracepp.CoreRequests
import Xtracepp.ExtensionNames
import Xtracepp.RequestProgress

/-! Which name and which parse function each message of an open connection is resolved to, and that
its handler goes on with that function. A SendEvent request resolves the event in it as well.
-/
namespace Xtracepp
open Library Library.Outcome

namespace Dispatch
open Encodings CountedLists

/-- The function that parses a message. -/
inductive ParseFunction
  | request (func : RequestParse)
  | event (code : UInt8)
  | error (code : UInt8)
  deriving DecidableEq, Repr

/-- The lookups for a message. -/
def lookup (parser : X11ProtocolParser) : Message → Checked (Label ParseFunction)
  | .request major minor => do
    let label ← requestLabel parser major minor
    return ⟨label.name,label.extension,.request label.parse⟩
  | .event first => do
    let label ← eventLabel parser first
    return ⟨label.name,label.extension,.event label.parse⟩
  | .error code => do
    let label ← errorLabel parser code
    return ⟨label.name,label.extension,.error label.parse⟩
  | .sendEvent evtCode => do
    let label ← sendEventLabel parser evtCode
    return ⟨label.name,label.extension,.event label.parse⟩

/-- The name and the function of an entry for a code, and the name for unknown ones without. -/
def Coded (codes : UInt8 → Option CodeTraits) (names : List String) (code : UInt8)
    (parse : UInt8 → ParseFunction) (label : Label ParseFunction) : Prop :=
  match codes code with
  | none => label.name = unknown
  | some traits => names[traits.code.toNat]? = some label.name ∧ label.parse = parse traits.code

/-- The name and the function are those that the tables have for the message's code. -/
def Entered (parser : X11ProtocolParser) (label : Label ParseFunction) : Message → Prop
  | .request major minor =>
    match parser.majorOpcodes major with
    | none => label.name = unknown ∧ label.parse = .request .unknownRequest
    | some (.request traits) => requestNames[major.toNat]? = some label.name ∧
        label.parse = .request traits.requestParseFunc
    | some (.extension view requests) => label.extension = some view ∧
        match requests minor with
        | none => label.name = unknown ∧ label.parse = .request .unknownRequest
        | some traits => bigRequestsNames[minor.toNat]? = some label.name ∧
            label.parse = .request traits.requestParseFunc
  | .event first => Coded parser.eventCodes eventNames (first &&& 0x7F) .event label
  | .error code => Coded parser.errorCodes errorNames code .error label
  | .sendEvent evtCode => Coded parser.eventCodes eventNames (evtCode &&& 0x7F) .event label

/-- The function is one that there is. -/
def Provided : ParseFunction → Prop
  | .request (.core major) => (requestType major).isSome
  | .request _ => True
  | .event code => (eventType code).isSome
  | .error code => (errorType code).isSome

section handlers

variable (settings : Settings) (parser : X11ProtocolParser) (conn : Connection) (data sz : Nat)

/-- A message at `data`, in the buffer it comes by. The event in a SendEvent request has none of
its own. -/
def At : Message → Prop
  | .request major minor => 4 ≤ sz ∧ conn.clientBuffer.buffer.byte data = .ok major ∧
      conn.clientBuffer.buffer.byte (data + 1) = .ok minor
  | .event first => 32 ≤ sz ∧ conn.serverBuffer.buffer.byte data = .ok first
  | .error code => 32 ≤ sz ∧ conn.serverBuffer.buffer.byte data = .ok 0 ∧
      conn.serverBuffer.buffer.byte (data + 1) = .ok code ∧ ∃ sequence,
        conn.serverBuffer.buffer.field settings.littleEndian conn.byteswap (data + 2) 2 = .ok sequence
  | .sendEvent _ => False

def handler : Message → Checked Logged
  | .request _ _ | .sendEvent _ => logRequest settings parser conn data sz
  | .event _ => logEvent settings parser conn data sz
  | .error _ => logError settings parser conn data sz

/-- What a handler does with the function that it has found. -/
def proceed : ParseFunction → Checked Logged
  | .request func => do
    let majorOpcode ← conn.clientBuffer.buffer.byte data
    let conn := conn.registerRequest majorOpcode 0
    let (parser,bytesParsed) ← parseRequest settings parser conn data sz func
    assert "request.bytes_parsed != 0" (bytesParsed ≠ 0)
    assert "request.bytes_parsed <= sz" (bytesParsed ≤ sz)
    return ⟨parser,conn,bytesParsed⟩
  | .event code => do
    let bytesParsed ← settings.parse.event code parser conn data sz
    assert "event.bytes_parsed == protocol::events::Event::ENCODING_SZ" (bytesParsed = 32)
    return ⟨parser,conn,bytesParsed⟩
  | .error code => do
    let sequence ← conn.serverBuffer.buffer.field settings.littleEndian conn.byteswap (data + 2) 2
    let bytesParsed ← settings.parse.error code parser conn data sz
    return ⟨parser,conn.unregisterRequest sequence,bytesParsed⟩

end handlers

/-- What the parser of SendEvent requests does with what it has found for the event. -/
def proceedSent (reader : Reader) (bytes : List UInt8) (label : Label ParseFunction) : Checked Suffix :=
  match label.parse with
  | .event code => do
    let event ← reader.parseEventCode code bytes 32
    assert "event.bytes_parsed == protocol::events::Event::ENCODING_SZ" (event.bytes_parsed = 32)
    return ⟨[[("event",label.name) :: event.text ++ event.lists.flatten.flatten]],[],event.bytes_parsed⟩
  | .request _ | .error _ => .error (.undefined "code_traits.parse_func")

/-- Wherever the message stands, its handler goes on with what was found. -/
def Handled (settings : Settings) (parser : X11ProtocolParser) (label : Label ParseFunction)
    (message : Message) : Prop :=
  (∀ conn data sz,At settings conn data sz message →
    handler settings parser conn data sz message = proceed settings parser conn data sz label.parse) ∧
  ∀ evtCode,message = .sendEvent evtCode → ∀ (reader : Reader) big_request bytes sz,
    byteAt (bytes.drop (start big_request + 8)) 0 = .ok evtCode →
      Requests.SendEvent.tail.parse reader big_request bytes sz =
        proceedSent reader (bytes.drop (start big_request + 8)) label

/-- Wherever the message stands, its handler ends in a fault. -/
def Faulted (settings : Settings) (parser : X11ProtocolParser) (message : Message) : Prop :=
  (∀ conn data sz,At settings conn data sz message →
    ∃ fault,handler settings parser conn data sz message = .error fault) ∧
  ∀ evtCode,message = .sendEvent evtCode → ∀ (reader : Reader) big_request bytes sz,
    byteAt (bytes.drop (start big_request + 8)) 0 = .ok evtCode →
      ∃ fault,Requests.SendEvent.tail.parse reader big_request bytes sz = .error fault

/-- A message is resolved to the name and the function of the tables, which is there, and with which
its handler goes on. -/
def Resolved (settings : Settings) (parser : X11ProtocolParser) (message : Message) : Prop :=
  ∃ label,lookup parser message = .ok label ∧ Entered parser label message ∧
    Provided label.parse ∧ Handled settings parser label message

/-- Any request, and the codes of the core events and errors, which in a SendEvent come
without the flag. -/
def Covered : Message → Prop
  | .request _ _ => True
  | .event first => 2 ≤ first &&& 0x7F ∧ first &&& 0x7F ≤ 34
  | .error code => 1 ≤ code ∧ code ≤ 17
  | .sendEvent evtCode => 2 ≤ evtCode ∧ evtCode ≤ 34

section requests

variable {settings : Settings} {parser : X11ProtocolParser} {conn : Connection} {data sz : Nat}

theorem requestLabel_total (standard : Standard parser) (major minor : UInt8) :
    ∃ name extension,
      requestLabel parser major minor = .ok ⟨name,extension,parser.requestParseFunc major minor⟩ ∧
        Entered parser ⟨name,extension,.request (parser.requestParseFunc major minor)⟩
          (.request major minor) := by
  cases known : coreRequests major with
  | some traits =>
    have here := standard.core major traits known
    cases traits with
    | request traits =>
      have inside := core_named known
      refine ⟨requestNames[major.toNat],none,?_⟩
      simp only [requestLabel,X11ProtocolParser.requestParseFunc,Entered,here,nameAt_inside inside]
      exact ⟨rfl,List.getElem?_eq_getElem inside,trivial⟩
    | extension view requests =>
      unfold coreRequests at known
      repeat' split at known
      all_goals cases known
  | none =>
    rcases standard.other major known with absent | ⟨view,added⟩
    · refine ⟨unknown,none,?_⟩
      simp only [requestLabel,X11ProtocolParser.requestParseFunc,Entered,absent]
      exact ⟨rfl,trivial,trivial⟩
    · by_cases zero : minor = 0
      · have found : bigRequestsRequests minor = some ⟨.bigReqEnable,some .bigReqEnable⟩ := if_pos zero
        refine ⟨"BigReqEnable",some view,?_⟩
        simp only [requestLabel,X11ProtocolParser.requestParseFunc,Entered,added,found,big_named found]
        exact ⟨rfl,trivial,by rw [zero]; rfl,trivial⟩
      · have found : bigRequestsRequests minor = none := if_neg zero
        refine ⟨unknown,some view,?_⟩
        simp only [requestLabel,X11ProtocolParser.requestParseFunc,Entered,added,found]
        exact ⟨rfl,trivial,trivial,trivial⟩

theorem request_provided (standard : Standard parser) (major minor : UInt8) :
    Provided (.request (parser.requestParseFunc major minor)) := by
  unfold X11ProtocolParser.requestParseFunc
  cases known : coreRequests major with
  | some traits =>
    rw [standard.core major traits known]
    unfold coreRequests at known
    split at known
    · cases known
      trivial
    · rename_i atom
      split at known
      · cases known
        trivial
      · rename_i query
        split at known
        · rename_i core
          cases known
          have table := requestType_table major
          rw [if_pos ⟨core,atom,query⟩] at table
          obtain ⟨type,found,_⟩ := Option.map_eq_some_iff.mp table
          change (requestType major).isSome = true
          rw [found]
          rfl
        · cases known
  | none =>
    rcases standard.other major known with absent | ⟨view,added⟩
    · rw [absent]
      trivial
    · rw [added]
      by_cases zero : minor = 0
      · rw [zero]
        trivial
      · have found : bigRequestsRequests minor = none := if_neg zero
        simp only [found]
        trivial

theorem logRequest_proceeds {major minor : UInt8}
    (stands : At settings conn data sz (.request major minor)) :
    logRequest settings parser conn data sz =
      proceed settings parser conn data sz (.request (parser.requestParseFunc major minor)) := by
  obtain ⟨long,first,second⟩ := stands
  rw [logRequest,assert,demand_true long,ok_bind,first,ok_bind,second,ok_bind,proceed,first,ok_bind]

theorem request_resolved (standard : Standard parser) (major minor : UInt8) :
    Resolved settings parser (.request major minor) := by
  obtain ⟨name,extension,found,entered⟩ := requestLabel_total standard major minor
  refine ⟨_,?_,entered,request_provided standard major minor,?_,?_⟩
  · rw [lookup,found]
    rfl
  · intro conn data sz stands
    exact logRequest_proceeds stands
  · intro evtCode other
    cases other

end requests

section codes

variable {settings : Settings} {parser : X11ProtocolParser} {conn : Connection} {data sz : Nat}
  {code : UInt8}

theorem event_provided (core : 2 ≤ code ∧ code ≤ 34) : Provided (.event code) := by
  have table := eventType_table code
  rw [coreEvents_some core,Option.map_some] at table
  obtain ⟨type,found,_⟩ := Option.map_eq_some_iff.mp table
  rw [Provided,found]
  rfl

theorem error_provided (core : 1 ≤ code ∧ code ≤ 17) : Provided (.error code) := by
  have table := errorType_table code
  rw [coreErrors_some core,Option.map_some] at table
  obtain ⟨type,found,_⟩ := Option.map_eq_some_iff.mp table
  rw [Provided,found]
  rfl

theorem event_coded (standard : Standard parser) {name : String} (core : 2 ≤ code ∧ code ≤ 34)
    (named : eventNames[code.toNat]? = some name) :
    Coded parser.eventCodes eventNames code .event ⟨name,none,.event code⟩ := by
  rw [Coded,standard.events,coreEvents_some core]
  exact ⟨named,rfl⟩

theorem error_coded (standard : Standard parser) {name : String} (core : 1 ≤ code ∧ code ≤ 17)
    (named : errorNames[code.toNat]? = some name) :
    Coded parser.errorCodes errorNames code .error ⟨name,none,.error code⟩ := by
  rw [Coded,standard.errors,coreErrors_some core]
  exact ⟨named,rfl⟩

theorem event_resolved (standard : Standard parser) (core : 2 ≤ code &&& 0x7F ∧ code &&& 0x7F ≤ 34) :
    Resolved settings parser (.event code) := by
  obtain ⟨name,named,found⟩ := eventLabel_core standard core
  refine ⟨_,?_,event_coded standard core named,event_provided core,?_,?_⟩
  · rw [lookup,found]
    rfl
  · rintro conn data sz ⟨long,first⟩
    rw [handler,logEvent,assert,demand_true long,ok_bind,first,ok_bind,standard.events,
      coreEvents_some core]
    rfl
  · intro evtCode other
    cases other

theorem error_resolved (standard : Standard parser) (core : 1 ≤ code ∧ code ≤ 17) :
    Resolved settings parser (.error code) := by
  obtain ⟨name,named,found⟩ := errorLabel_core standard core
  refine ⟨_,?_,error_coded standard core named,error_provided core,?_,?_⟩
  · rw [lookup,found]
    rfl
  · rintro conn data sz ⟨long,first,second,sequence,third⟩
    rw [handler,logError,assert,demand_true long,ok_bind,first,ok_bind,assert,demand_true rfl,ok_bind,
      second,ok_bind,third,ok_bind,standard.errors,coreErrors_some core,proceed,third,ok_bind]
  · intro evtCode other
    cases other

theorem sendEvent_resolved (standard : Standard parser) (core : 2 ≤ code ∧ code ≤ 34) :
    Resolved settings parser (.sendEvent code) := by
  have few : code.toNat ≤ 34 := UInt8.le_iff_toNat_le.mp core.2
  have plain := unflagged (Nat.lt_of_le_of_lt few (by decide))
  obtain ⟨name,named,found⟩ := sendEventLabel_core standard core
  have coded := event_coded standard core named
  refine ⟨⟨name,none,.event code⟩,?_,?_,event_provided core,?_,?_⟩
  · rw [lookup,found]
    rfl
  · rw [Entered,plain]
    exact coded
  · rintro conn data sz ⟨⟩
  · rintro evtCode same reader big_request bytes sz first
    cases same
    change parseSentEvent 8 reader big_request bytes sz = _
    rw [parseSentEvent,first,ok_bind,Reader.parseEvent,assert,demand_true (Nat.le_refl 32),ok_bind,
      first,ok_bind,plain,coreEvents_some core,named,proceedSent]
    dsimp only
    cases reader.parseEventCode code (bytes.drop (start big_request + 8)) 32 with
    | error fault => rfl
    | ok event =>
      by_cases whole : event.bytes_parsed = 32
      · simp only [ok_bind,assert,demand_true whole]
        rfl
      · simp only [ok_bind,assert,demand_false whole]
        rfl

end codes

section faults

variable {settings : Settings} {parser : X11ProtocolParser} {code : UInt8}

theorem event_faulted (standard : Standard parser)
    (other : ¬(2 ≤ code &&& 0x7F ∧ code &&& 0x7F ≤ 34)) : Faulted settings parser (.event code) := by
  constructor
  · rintro conn data sz ⟨long,first⟩
    exact ⟨_,logEvent_other standard long first other⟩
  · intro evtCode same
    cases same

theorem error_faulted (standard : Standard parser) (other : ¬(1 ≤ code ∧ code ≤ 17)) :
    Faulted settings parser (.error code) := by
  constructor
  · rintro conn data sz ⟨long,first,second,sequence,third⟩
    exact ⟨_,logError_other standard long first second third other⟩
  · intro evtCode same
    cases same

theorem sendEvent_faulted (other : ¬(2 ≤ code ∧ code ≤ 34)) :
    Faulted settings parser (.sendEvent code) := by
  constructor
  · rintro conn data sz ⟨⟩
  · rintro evtCode same reader big_request bytes sz first
    cases same
    change ∃ fault,parseSentEvent 8 reader big_request bytes sz = .error fault
    cases done : parseSentEvent 8 reader big_request bytes sz with
    | error fault => exact ⟨fault,rfl⟩
    | ok suffix =>
      exfalso
      rw [parseSentEvent,first,ok_bind] at done
      obtain ⟨event,parsed,done⟩ := bind_success done
      -- the name is there for codes below 35 only, and those have no flag to take off
      have few : code.toNat < eventNames.length := by
        by_contra beyond
        rw [List.getElem?_eq_none (Nat.le_of_not_lt beyond)] at done
        cases done
      have small : code.toNat < 35 := few
      rw [Reader.parseEvent,assert,demand_true (Nat.le_refl 32),ok_bind,first,ok_bind,
        unflagged (by omega),coreEvents,if_neg other] at parsed
      cases parsed

end faults

/-- In every run, a message is resolved exactly when its code is covered, and the handlers of the
others end in a fault. -/
theorem reached_resolved {settings : Settings} {predefined : Nat → Option (List UInt8)}
    {condition : World → Xtracepp.Label → Prop} {world : World}
    (reached : World.Reached settings predefined condition world) (message : Message) :
    (Resolved settings world.proxy.parser message ↔ Covered message) ∧
      (¬Covered message → Faulted settings world.proxy.parser message) := by
  have standard := reached_standard reached
  cases message with
  | request major minor =>
    exact ⟨iff_of_true (request_resolved standard major minor) trivial,fun other => absurd trivial other⟩
  | event first =>
    refine ⟨⟨?_,event_resolved standard⟩,event_faulted standard⟩
    rintro ⟨label,found,_⟩
    by_contra other
    rw [lookup,eventLabel_other standard other] at found
    cases found
  | error code =>
    refine ⟨⟨?_,error_resolved standard⟩,error_faulted standard⟩
    rintro ⟨label,found,_⟩
    by_contra other
    rw [lookup,errorLabel_other standard other] at found
    cases found
  | sendEvent evtCode =>
    refine ⟨⟨?_,sendEvent_resolved standard⟩,sendEvent_faulted⟩
    rintro ⟨label,found,_⟩
    by_contra other
    obtain ⟨fault,failed⟩ := sendEventLabel_other standard other
    rw [lookup,failed] at found
    cases found

/-- When BIG-REQUESTS is enabled, its request, a motion event that was sent, a drawable error and the
KeyPress in a SendEvent are resolved. -/
theorem reached_resolved_enabled : ∃ world,
    World.Reached (.accepting [bigRequestsName] (by simp)) (fun _ => none) World.Anyhow world ∧
      (world.proxy.parser.majorOpcodes 133).isSome = true ∧
        ∀ message ∈ [Message.request 133 0,.event 0x86,.error 9,.sendEvent 2],
          Resolved (.accepting [bigRequestsName] (by simp)) world.proxy.parser message := by
  obtain ⟨world,reached,enabled⟩ :=
    World.replayed (.accepting [bigRequestsName] (by simp)) (fun _ => none) World.Anyhow
      (fun world => (world.proxy.parser.majorOpcodes 133).isSome = true)
      (ExtensionNames.asked ++ [.round]) (by decide +kernel)
  refine ⟨world,reached,enabled,?_⟩
  intro message listed
  have covered : Covered message := by
    simp only [List.mem_cons,List.not_mem_nil,or_false] at listed
    rcases listed with rfl | rfl | rfl | rfl
    · trivial
    all_goals exact ⟨by decide,by decide⟩
  exact (reached_resolved reached message).1.mpr covered

/-- An open connection with a message in both buffers. -/
def delivered (bytes : List UInt8) : Connection :=
  { RequestProgress.opened bytes with serverBuffer := (SocketBuffer.initial 0).appended bytes }

/-- A code without an entry ends the handler of an event and of an error, and an event with the flag
that of a SendEvent request. -/
theorem resolved_fails : ∃ world,
    World.Reached World.plainly (fun _ => none) World.Anyhow world ∧
      logEvent World.plainly world.proxy.parser (delivered (35 :: List.replicate 31 0)) 0 32 =
        .error (.outOfRange "_event_codes.at") ∧
      logError World.plainly world.proxy.parser (delivered ([0,18] ++ List.replicate 30 0)) 0 32 =
        .error (.outOfRange "_error_codes.at") ∧
      CountedLists.plain.parseRequestCode 25 ([25,0,11,0] ++ List.replicate 8 0 ++ 0x82 ::
        List.replicate 31 0) 44 = .error (.undefined "protocol::events::names[ evt_code ]") ∧
      ∀ message ∈ [Message.event 35,.error 18,.sendEvent 0x82],
        ¬Resolved World.plainly world.proxy.parser message := by
  refine ⟨World.initial fun _ => none,.start rfl,?_,?_,?_,?_⟩
  · exact RequestProgress.stops_error (by decide +kernel)
  · exact RequestProgress.stops_error (by decide +kernel)
  · exact RequestProgress.stops_error (by decide +kernel)
  · intro message listed
    simp only [List.mem_cons,List.not_mem_nil,or_false] at listed
    rcases listed with rfl | rfl | rfl
    all_goals
      rintro ⟨label,found,_⟩
      cases found

end Dispatch
end Xtracepp
