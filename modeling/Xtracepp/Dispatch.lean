import Xtracepp.SystemFacts

/-! The tables that codes are looked up in, over whole runs, and which name and parse
function each message is resolved to.
-/
namespace Xtracepp
open Library Library.Outcome

namespace Dispatch

/-- `protocol::requests::names`. -/
def requestNames : List String :=
  ["(unused core opcode)","CreateWindow","ChangeWindowAttributes","GetWindowAttributes","DestroyWindow",
    "DestroySubwindows","ChangeSaveSet","ReparentWindow","MapWindow","MapSubwindows","UnmapWindow",
    "UnmapSubwindows","ConfigureWindow","CirculateWindow","GetGeometry","QueryTree","InternAtom",
    "GetAtomName","ChangeProperty","DeleteProperty","GetProperty","ListProperties",
    "SetSelectionOwner","GetSelectionOwner","ConvertSelection","SendEvent","GrabPointer",
    "UngrabPointer","GrabButton","UngrabButton","ChangeActivePointerGrab","GrabKeyboard",
    "UngrabKeyboard","GrabKey","UngrabKey","AllowEvents","GrabServer","UngrabServer",
    "QueryPointer","GetMotionEvents","TranslateCoordinates","WarpPointer","SetInputFocus",
    "GetInputFocus","QueryKeymap","OpenFont","CloseFont","QueryFont","QueryTextExtents",
    "ListFonts","ListFontsWithInfo","SetFontPath","GetFontPath","CreatePixmap","FreePixmap",
    "CreateGC","ChangeGC","CopyGC","SetDashes","SetClipRectangles","FreeGC","ClearArea",
    "CopyArea","CopyPlane","PolyPoint","PolyLine","PolySegment","PolyRectangle","PolyArc",
    "FillPoly","PolyFillRectangle","PolyFillArc","PutImage","GetImage","PolyText8","PolyText16",
    "ImageText8","ImageText16","CreateColormap","FreeColormap","CopyColormapAndFree",
    "InstallColormap","UninstallColormap","ListInstalledColormaps","AllocColor",
    "AllocNamedColor","AllocColorCells","AllocColorPlanes","FreeColors","StoreColors",
    "StoreNamedColor","QueryColors","LookupColor","CreateCursor","CreateGlyphCursor",
    "FreeCursor","RecolorCursor","QueryBestSize","QueryExtension","ListExtensions",
    "ChangeKeyboardMapping","GetKeyboardMapping","ChangeKeyboardControl","GetKeyboardControl",
    "Bell","ChangePointerControl","GetPointerControl","SetScreenSaver","GetScreenSaver",
    "ChangeHosts","ListHosts","SetAccessControl","SetCloseDownMode","KillClient",
    "RotateProperties","ForceScreenSaver","SetPointerMapping","GetPointerMapping",
    "SetModifierMapping","GetModifierMapping","(unused core opcode)","(unused core opcode)",
    "(unused core opcode)","(unused core opcode)","(unused core opcode)","(unused core opcode)","(unused core opcode)",
    "NoOperation"]

/-- `protocol::events::names`. -/
def eventNames : List String :=
  ["","","KeyPress","KeyRelease","ButtonPress","ButtonRelease","MotionNotify","EnterNotify",
    "LeaveNotify","FocusIn","FocusOut","KeymapNotify","Expose","GraphicsExposure","NoExposure",
    "VisibilityNotify","CreateNotify","DestroyNotify","UnmapNotify","MapNotify","MapRequest",
    "ReparentNotify","ConfigureNotify","ConfigureRequest","GravityNotify","ResizeRequest",
    "CirculateNotify","CirculateRequest","PropertyNotify","SelectionClear","SelectionRequest",
    "SelectionNotify","ColormapNotify","ClientMessage","MappingNotify"]

/-- `protocol::errors::names`. -/
def errorNames : List String :=
  ["","Request","Value","Window","Pixmap","Atom","Cursor","Font","Match","Drawable","Access",
    "Alloc","Colormap","GContext","IDChoice","Name","Length","Implementation"]

/-- `big_requests::requests::names`. -/
def bigRequestsNames : List String := ["BigReqEnable"]

def unknown : String := "(unknown opcode)"

/-- The name that an entry was made with, `names.at( code )`. -/
def nameAt (names : List String) (code : UInt8) : Checked String :=
  match names[code.toNat]? with
  | some name => .ok name
  | none => .error (.outOfRange "names.at")

/-- What a message is resolved to; `extension` is the name in the table, if any. -/
structure Label (φ : Type) where
  name : String
  extension : Option StringView
  parse : φ

/-- The lookups in `_logRequest`. -/
def requestLabel (parser : X11ProtocolParser) (major minor : UInt8) : Checked (Label RequestParse) :=
  match parser.majorOpcodes major with
  | none => return ⟨unknown,none,.unknownRequest⟩
  | some (.request traits) => do
    let name ← nameAt requestNames major
    return ⟨name,none,traits.requestParseFunc⟩
  | some (.extension view requests) =>
    match requests minor with
    | none => return ⟨unknown,some view,.unknownRequest⟩
    | some traits => do
      let name ← nameAt bigRequestsNames minor
      return ⟨name,some view,traits.requestParseFunc⟩

/-- `at` of a table of codes, and the name of the entry. -/
def codeLabel (table : String) (codes : UInt8 → Option CodeTraits) (names : List String) (code : UInt8) :
    Checked (Label UInt8) :=
  match codes code with
  | none => .error (.outOfRange table)
  | some traits => do
    let name ← nameAt names traits.code
    return ⟨name,none,traits.code⟩

/-- The lookups in `_logEvent` and in `_parseEvent`. -/
def eventLabel (parser : X11ProtocolParser) (first : UInt8) : Checked (Label UInt8) :=
  codeLabel "_event_codes.at" parser.eventCodes eventNames (first &&& 0x7F)

/-- The lookup in `_logError`. -/
def errorLabel (parser : X11ProtocolParser) (code : UInt8) : Checked (Label UInt8) :=
  codeLabel "_error_codes.at" parser.errorCodes errorNames code

/-- The lookups in `_parseRequest< SendEvent >`: the event is parsed by its code without the
flag, and its name is taken from the array by the code with the flag. -/
def sendEventLabel (parser : X11ProtocolParser) (evtCode : UInt8) : Checked (Label UInt8) := do
  let label ← eventLabel parser evtCode
  match eventNames[evtCode.toNat]? with
  | some name => return { label with name }
  | none => .error (.undefined "protocol::events::names[ evt_code ]")

inductive Message
  | request (major minor : UInt8)
  | event (first : UInt8)
  | error (code : UInt8)
  | sendEvent (evtCode : UInt8)
  deriving DecidableEq, Repr

/-- The tables as they are all along: the core entries, and BIG-REQUESTS under other opcodes. -/
structure Standard (parser : X11ProtocolParser) : Prop where
  events : parser.eventCodes = coreEvents
  errors : parser.errorCodes = coreErrors
  core : ∀ major traits, coreRequests major = some traits → parser.majorOpcodes major = some traits
  other : ∀ major, coreRequests major = none → parser.majorOpcodes major = none ∨
    ∃ view, parser.majorOpcodes major = some (.extension view bigRequestsRequests)

section tables

variable {settings : Settings} {parser after : X11ProtocolParser} {conn : Connection} {data sz : Nat}
  {logged : Logged}

theorem initial_standard (predefined : Nat → Option (List UInt8)) :
    Standard (X11ProtocolParser.initial predefined) :=
  ⟨rfl,rfl,fun _ _ known => known,fun _ absent => .inl absent⟩

/-- What a handler does to the tables: nothing, or one new entry for an extension whose name
a client sent and the server confirmed. -/
inductive TablesCase (conn : Connection) (parser after : X11ProtocolParser) : Prop
  | same (majors : after.majorOpcodes = parser.majorOpcodes)
  | enabled (sequence : Nat) (view : StringView) (major : UInt8)
      (entry : parser.stashedStrings conn.id sequence = some view)
      (shown : view.chars conn.clientBuffer.buffer = .ok bigRequestsName)
      (absent : parser.majorOpcodes major = none)
      (majors : after.majorOpcodes = fun other => if other = major then
        some (.extension view bigRequestsRequests) else parser.majorOpcodes other)

structure TablesEffect (conn : Connection) (parser after : X11ProtocolParser) : Prop where
  events : after.eventCodes = parser.eventCodes
  errors : after.errorCodes = parser.errorCodes
  majors : TablesCase conn parser after

theorem still_effect : TablesEffect conn parser parser := ⟨rfl,rfl,.same rfl⟩

theorem logRequest_tables (ok : logRequest settings parser conn data sz = .ok logged) :
    TablesEffect conn parser logged.parser := by
  obtain ⟨major,minor,request⟩ := logRequest_success ok
  rcases parseRequest_success request.parsed with ⟨_,_,_,name⟩ | ⟨_,_,_,name⟩ | ⟨_,_,kept⟩
  · rw [name.stashed]
    exact ⟨rfl,rfl,.same rfl⟩
  · rw [name.stashed]
    exact ⟨rfl,rfl,.same rfl⟩
  · rw [kept]
    exact still_effect

theorem reported_case {view : StringView} {name : List UInt8} {sequence : Nat} {present : Bool}
    {major : UInt8} (entry : parser.stashedStrings conn.id sequence = some view)
    (shown : view.chars conn.clientBuffer.buffer = .ok name)
    (left : after = (parser.withStash conn.id sequence none).reported present view major)
    (named : after.majorOpcodes ≠ parser.majorOpcodes → name = bigRequestsName) :
    TablesEffect conn parser after := by
  subst left
  refine ⟨rfl,rfl,?_⟩
  by_cases same : ((parser.withStash conn.id sequence none).reported present view major).majorOpcodes =
      parser.majorOpcodes
  · exact .same same
  · have known := named same
    subst known
    cases present with
    | false =>
      rw [X11ProtocolParser.reported_absent] at same
      exact absurd rfl same
    | true =>
      cases absent : parser.majorOpcodes major with
      | some traits =>
        refine absurd ?_ same
        funext other
        by_cases here : other = major <;>
          simp [X11ProtocolParser.reported,X11ProtocolParser.withStash,here,absent]
      | none =>
        refine .enabled sequence view major entry shown absent ?_
        funext other
        by_cases here : other = major <;>
          simp [X11ProtocolParser.reported,X11ProtocolParser.withStash,here,absent]

theorem logReply_tables (ok : logReply settings parser conn data sz = .ok logged) :
    TablesEffect conn parser logged.parser := by
  obtain ⟨parsed,sequence,opcodes,func,lastReply,replied⟩ := logReply_success ok
  rw [replied.parser]
  rcases parseReply_success replied.called with
    ⟨_,number,atom,named⟩ | ⟨_,_,number,view,name,query⟩ | ⟨_,_,kept,_⟩
  · by_cases zero : atom = 0
    · rw [named.unnamed zero]
      exact still_effect
    · obtain ⟨_,_,_,_,left⟩ := named.named zero
      rw [left]
      exact ⟨rfl,rfl,.same rfl⟩
  · exact reported_case query.entry query.shown query.reported query.named
  · rw [kept]
    exact still_effect

theorem runHandler_tables {handler : Option Handler}
    (ok : runHandler settings parser conn data sz handler = .ok logged) :
    TablesEffect conn parser logged.parser := by
  match handler with
  | some .initiation =>
    rw [(logInitiation_success ok).1]
    exact still_effect
  | some .initResponse =>
    obtain ⟨inner,done,ok⟩ := bind_success ok
    obtain ⟨_,ok⟩ := demand_bind_success ok
    cases ok
    rw [(logInitResponse_success done).1]
    exact still_effect
  | some .request => exact logRequest_tables ok
  | some .error =>
    obtain ⟨_,_,_,kept,_⟩ := logError_success ok
    rw [kept]
    exact still_effect
  | some .reply => exact logReply_tables ok
  | some .event =>
    rw [(logEvent_success ok).1]
    exact still_effect
  | none =>
    cases ok
    exact still_effect

theorem TablesEffect.standard (effect : TablesEffect conn parser after) (before : Standard parser) :
    Standard after := by
  refine ⟨effect.events.trans before.events,effect.errors.trans before.errors,?_,?_⟩
  · intro major traits known
    cases effect.majors with
    | same majors =>
      rw [majors]
      exact before.core major traits known
    | enabled sequence view added entry shown absent majors =>
      have here := before.core major traits known
      have apart : major ≠ added := by
        rintro rfl
        rw [absent] at here
        cases here
      rw [majors]
      simp only [apart,if_false]
      exact here
  · intro major absent
    cases effect.majors with
    | same majors =>
      rw [majors]
      exact before.other major absent
    | enabled sequence view added entry shown _ majors =>
      rw [majors]
      by_cases here : major = added
      · simp only [here,if_true]
        exact .inr ⟨view,rfl⟩
      · simp only [here,if_false]
        exact before.other major absent

/-- A round leaves the tables or adds one entry, for a connection with the same id and
client buffer. -/
theorem messageRound_tables {direction : Direction} {handler : Option Handler}
    (ok : messageRound settings direction parser conn data = .ok (.handled handler logged)) :
    ∃ known, SizingCase settings direction conn data (.known known) ∧
      TablesEffect known parser logged.parser := by
  cases messageRound_case ok with
  | handled known handler logged buffer pending sizing complete given marked =>
    refine ⟨known,sizing,?_⟩
    obtain ⟨_,given⟩ := demand_bind_success given
    obtain ⟨chosen,_,given⟩ := bind_success given
    obtain ⟨inner,handled,given⟩ := bind_success given
    obtain ⟨_,given⟩ := demand_bind_success given
    cases given
    have effect := runHandler_tables handled
    exact effect

theorem step_standard {proxy next : Proxy} {action : Xtracepp.Label}
    (step : Proxy.StepCase settings proxy action next) (before : Standard proxy.parser) :
    Standard next.parser := by
  cases step with
  | handled loop conn handler logged running found round =>
    obtain ⟨known,_,effect⟩ := messageRound_tables round
    exact effect.standard before
  | accept => exact before
  | readClosed => exact before
  | received => exact before
  | lost => exact before
  | finished => exact before
  | refused => exact before
  | sendClosed => exact before
  | sent => exact before
  | pollError => exact before

theorem reached_standard {predefined : Nat → Option (List UInt8)} {condition : World → Xtracepp.Label → Prop}
    {world : World} (reached : World.Reached settings predefined condition world) :
    Standard world.proxy.parser := by
  refine Runs.Reached.invariant (fun world => Standard world.proxy.parser) ?_ ?_ reached
  · rintro _ rfl
    exact initial_standard predefined
  · intro state label after before given taken
    exact step_standard (Proxy.step_case given.1 (World.step_success taken).1) before

end tables

section resolving

variable {settings : Settings} {parser : X11ProtocolParser} {conn : Connection} {data sz : Nat}

theorem nameAt_inside {names : List String} {code : UInt8} (inside : code.toNat < names.length) :
    nameAt names code = .ok names[code.toNat] := by
  rw [nameAt,List.getElem?_eq_getElem inside]

set_option maxRecDepth 4096 in
theorem requestNames_length : requestNames.length = 128 := rfl

theorem core_named {major : UInt8} {traits : MajorOpcodeTraits}
    (known : coreRequests major = some traits) : major.toNat < requestNames.length := by
  rw [requestNames_length]
  unfold coreRequests at known
  split at known
  · rename_i here
    rw [here]
    decide
  · split at known
    · rename_i here
      rw [here]
      decide
    · split at known
      · rename_i core
        rcases core with ⟨_,upper⟩ | here
        · have upper : major.toNat ≤ 119 := UInt8.le_iff_toNat_le.mp upper
          omega
        · rw [here]
          decide
      · cases known

theorem big_named {minor : UInt8} {traits : RequestOpcodeTraits}
    (known : bigRequestsRequests minor = some traits) : nameAt bigRequestsNames minor =
      .ok "BigReqEnable" := by
  unfold bigRequestsRequests at known
  split at known
  · subst_vars
    rfl
  · cases known

theorem codeLabel_some {table : String} {codes : UInt8 → Option CodeTraits} {names : List String}
    {code : UInt8} {traits : CodeTraits} (found : codes code = some traits)
    (named : traits.code.toNat < names.length) :
    codeLabel table codes names code = .ok ⟨names[traits.code.toNat],none,traits.code⟩ := by
  rw [codeLabel,found]
  simp only [nameAt_inside named,ok_bind]
  rfl

theorem codeLabel_none {table : String} {codes : UInt8 → Option CodeTraits} {names : List String}
    {code : UInt8} (absent : codes code = none) :
    codeLabel table codes names code = .error (.outOfRange table) := by
  rw [codeLabel,absent]

theorem coreEvents_some {code : UInt8} (core : 2 ≤ code ∧ code ≤ 34) :
    coreEvents code = some ⟨code,false⟩ := by
  rw [coreEvents,if_pos core]

theorem eventLabel_core (standard : Standard parser) {first : UInt8}
    (core : 2 ≤ first &&& 0x7F ∧ first &&& 0x7F ≤ 34) :
    ∃ name, eventNames[(first &&& 0x7F).toNat]? = some name ∧
      eventLabel parser first = .ok ⟨name,none,first &&& 0x7F⟩ := by
  have few : (first &&& 0x7F).toNat ≤ 34 := UInt8.le_iff_toNat_le.mp core.2
  have inside : (first &&& 0x7F).toNat < eventNames.length := Nat.lt_of_le_of_lt few (by decide)
  refine ⟨eventNames[(first &&& 0x7F).toNat],List.getElem?_eq_getElem inside,?_⟩
  rw [eventLabel,standard.events,codeLabel_some (coreEvents_some core) inside]

/-- An event without an entry ends the call. -/
theorem eventLabel_other (standard : Standard parser) {first : UInt8}
    (other : ¬(2 ≤ first &&& 0x7F ∧ first &&& 0x7F ≤ 34)) :
    eventLabel parser first = .error (.outOfRange "_event_codes.at") := by
  rw [eventLabel,standard.events,codeLabel_none]
  rw [coreEvents,if_neg other]

theorem coreErrors_some {code : UInt8} (core : 1 ≤ code ∧ code ≤ 17) :
    coreErrors code = some ⟨code,false⟩ := by
  rw [coreErrors,if_pos core]

theorem errorLabel_core (standard : Standard parser) {code : UInt8} (core : 1 ≤ code ∧ code ≤ 17) :
    ∃ name, errorNames[code.toNat]? = some name ∧ errorLabel parser code = .ok ⟨name,none,code⟩ := by
  have few : code.toNat ≤ 17 := UInt8.le_iff_toNat_le.mp core.2
  have inside : code.toNat < errorNames.length := Nat.lt_of_le_of_lt few (by decide)
  refine ⟨errorNames[code.toNat],List.getElem?_eq_getElem inside,?_⟩
  rw [errorLabel,standard.errors,codeLabel_some (coreErrors_some core) inside]

theorem errorLabel_other (standard : Standard parser) {code : UInt8}
    (other : ¬(1 ≤ code ∧ code ≤ 17)) :
    errorLabel parser code = .error (.outOfRange "_error_codes.at") := by
  rw [errorLabel,standard.errors,codeLabel_none]
  rw [coreErrors,if_neg other]

theorem unflagged {code : UInt8} (small : code.toNat < 128) : code &&& 0x7F = code := by
  apply UInt8.toNat.inj
  rw [UInt8.toNat_and]
  change code.toNat &&& 2 ^ 7 - 1 = code.toNat
  rw [Nat.and_two_pow_sub_one_eq_mod,Nat.mod_eq_of_lt small]

theorem sendEventLabel_core (standard : Standard parser) {evtCode : UInt8}
    (core : 2 ≤ evtCode ∧ evtCode ≤ 34) :
    ∃ name, eventNames[evtCode.toNat]? = some name ∧
      sendEventLabel parser evtCode = .ok ⟨name,none,evtCode⟩ := by
  have few : evtCode.toNat ≤ 34 := UInt8.le_iff_toNat_le.mp core.2
  have plain := unflagged (Nat.lt_of_le_of_lt few (by decide))
  have same := core
  rw [← plain] at same
  obtain ⟨name,listed,found⟩ := eventLabel_core standard same
  rw [plain] at listed found
  refine ⟨name,listed,?_⟩
  rw [sendEventLabel,found,ok_bind,listed]
  rfl

theorem sendEventLabel_other (standard : Standard parser) {evtCode : UInt8}
    (other : ¬(2 ≤ evtCode ∧ evtCode ≤ 34)) :
    ∃ fault, sendEventLabel parser evtCode = .error fault := by
  rw [sendEventLabel]
  by_cases masked : 2 ≤ evtCode &&& 0x7F ∧ evtCode &&& 0x7F ≤ 34
  · obtain ⟨_,_,found⟩ := eventLabel_core standard masked
    have beyond : ¬evtCode.toNat < eventNames.length := by
      intro inside
      have few : evtCode.toNat < 35 := inside
      rw [unflagged (by omega)] at masked
      exact other masked
    rw [found,ok_bind,List.getElem?_eq_none (Nat.le_of_not_lt beyond)]
    exact ⟨_,rfl⟩
  · rw [eventLabel_other standard masked]
    exact ⟨_,rfl⟩

/-- The handlers stop where the lookup does. -/
theorem logEvent_other (standard : Standard parser) (long : 32 ≤ sz) {first : UInt8}
    (read : conn.serverBuffer.buffer.byte data = .ok first)
    (other : ¬(2 ≤ first &&& 0x7F ∧ first &&& 0x7F ≤ 34)) :
    logEvent settings parser conn data sz = .error (.outOfRange "_event_codes.at") := by
  rw [logEvent,assert,demand_true long,ok_bind,read,ok_bind,standard.events,coreEvents,if_neg other]

theorem logError_other (standard : Standard parser) (long : 32 ≤ sz) {code : UInt8} {sequence : Nat}
    (first : conn.serverBuffer.buffer.byte data = .ok 0)
    (second : conn.serverBuffer.buffer.byte (data + 1) = .ok code)
    (third : conn.serverBuffer.buffer.field settings.littleEndian conn.byteswap (data + 2) 2 =
      .ok sequence) (other : ¬(1 ≤ code ∧ code ≤ 17)) :
    logError settings parser conn data sz = .error (.outOfRange "_error_codes.at") := by
  simp only [logError,assert,demand_true long,ok_bind,first,demand_true,second,third,
    standard.errors,coreErrors,if_neg other]

end resolving

end Dispatch
end Xtracepp
