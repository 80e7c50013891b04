import Xtracepp.Connection

/-! The state of `X11ProtocolParser`: stashed strings, interned atoms and the
tables of parse functions, with the operations on them. Parse functions that
only read their message are a parameter; those with effects are named here and
defined with the other handlers.
-/
namespace Xtracepp
open Library.Outcome

/-- A `std::string_view` into the storage of a client buffer. -/
structure StringView where
  owner : Nat
  moves : Nat
  start : Nat
  length : Nat
  deriving DecidableEq, Repr

/-- The characters a view shows when it is read, if its storage is still there. -/
def StringView.chars (view : StringView) (storage : Storage) : Checked (List UInt8) :=
  if view.owner = storage.owner ∧ view.moves = storage.moves then
    storage.fetch view.start view.length
  else .error (.undefined "dangling string_view")

namespace Opcodes

def internAtom : UInt8 := 16
def listFontsWithInfo : UInt8 := 50
def queryExtension : UInt8 := 98
def noOperation : UInt8 := 127

/-- Core requests whose entry has a reply parse function. -/
def answered : List UInt8 :=
  [3,14,15,16,17,20,21,23,26,31,38,39,40,43,44,47,48,49,50,52,73,83,84,85,86,87,91,92,97,98,99,
    101,103,106,108,110,116,117,118,119]

end Opcodes

inductive RequestParse
  | core (major : UInt8)
  | internAtom
  | queryExtension
  | bigReqEnable
  | unknownRequest
  deriving DecidableEq, Repr

inductive ReplyParse
  | core (major : UInt8)
  | internAtom
  | queryExtension
  | bigReqEnable
  | unknownRequest
  deriving DecidableEq, Repr

structure RequestOpcodeTraits where
  requestParseFunc : RequestParse
  replyParseFunc : Option ReplyParse
  deriving DecidableEq, Repr

inductive MajorOpcodeTraits
  | request (traits : RequestOpcodeTraits)
  | extension (name : StringView) (requests : UInt8 → Option RequestOpcodeTraits)

/-- An event or error code: the code of the parse function, and whether an
extension brought it. -/
structure CodeTraits where
  code : UInt8
  extension : Bool
  deriving DecidableEq, Repr

structure ExtensionTraits where
  requests : UInt8 → Option RequestOpcodeTraits
  events : List (UInt8 × CodeTraits)
  errors : List (UInt8 × CodeTraits)

def coreRequests (major : UInt8) : Option MajorOpcodeTraits :=
  if major = Opcodes.internAtom then some (.request ⟨.internAtom,some .internAtom⟩)
  else if major = Opcodes.queryExtension then some (.request ⟨.queryExtension,some .queryExtension⟩)
  else if (1 ≤ major ∧ major ≤ 119) ∨ major = Opcodes.noOperation then
    some (.request ⟨.core major,if major ∈ Opcodes.answered then some (.core major) else none⟩)
  else none

def coreEvents (code : UInt8) : Option CodeTraits :=
  if 2 ≤ code ∧ code ≤ 34 then some ⟨code,false⟩ else none

def coreErrors (code : UInt8) : Option CodeTraits :=
  if 1 ≤ code ∧ code ≤ 17 then some ⟨code,false⟩ else none

def bigRequestsRequests (minor : UInt8) : Option RequestOpcodeTraits :=
  if minor = 0 then some ⟨.bigReqEnable,some .bigReqEnable⟩ else none

/-- `_extensions`: BIG-REQUESTS, with its one request and no events or errors. -/
def extensions (name : List UInt8) : Option ExtensionTraits :=
  if name = bigRequestsName then some { requests := bigRequestsRequests, events := [], errors := [] }
  else none

structure X11ProtocolParser where
  stashedStrings : Nat → Nat → Option StringView
  internedAtoms : Nat → Option (List UInt8)
  majorOpcodes : UInt8 → Option MajorOpcodeTraits
  eventCodes : UInt8 → Option CodeTraits
  errorCodes : UInt8 → Option CodeTraits

/-- A parse function that reads its message and gives `bytes_parsed`. -/
abbrev ParseFunc := X11ProtocolParser → Connection → Nat → Nat → Checked Nat

structure ParseFuncs where
  request : UInt8 → ParseFunc
  reply : UInt8 → ParseFunc
  event : UInt8 → ParseFunc
  error : UInt8 → ParseFunc
  unknownRequest : ParseFunc
  unknownReply : ParseFunc
  bigReqEnable : ParseFunc
  refusal : ParseFunc
  requireFurtherAuthentication : ParseFunc
  acceptance : ParseFunc

/-- What a run is configured with. Every name that can be allowed has been
through `_validateExtensionName`. -/
structure Settings where
  littleEndian : Bool
  ndebug : Bool
  allowedExtensions : List (List UInt8)
  recognized : ∀ name ∈ allowedExtensions, name = bigRequestsName
  parse : ParseFuncs

def Settings.extensionDenied (settings : Settings) (name : List UInt8) : Bool :=
  !settings.allowedExtensions.contains name

namespace X11ProtocolParser

def initial (predefined : Nat → Option (List UInt8)) : X11ProtocolParser where
  stashedStrings := fun _ _ => none
  internedAtoms := predefined
  majorOpcodes := coreRequests
  eventCodes := coreEvents
  errorCodes := coreErrors

def stashString (parser : X11ProtocolParser) (connId seqNum : Nat) (view : StringView) :
    Checked X11ProtocolParser := do
  assert "_stashed_strings.find( ss_id ) == _stashed_strings.end()"
    (parser.stashedStrings connId seqNum = none)
  return { parser with
    stashedStrings := fun otherId otherNum =>
      if otherId = connId ∧ otherNum = seqNum then some view
      else parser.stashedStrings otherId otherNum }

def unstashString (parser : X11ProtocolParser) (connId seqNum : Nat) :
    Checked (X11ProtocolParser × StringView) :=
  match parser.stashedStrings connId seqNum with
  | none => .error (.assertion "ss_it != _stashed_strings.end()")
  | some view => .ok ({ parser with
      stashedStrings := fun otherId otherNum =>
        if otherId = connId ∧ otherNum = seqNum then none
        else parser.stashedStrings otherId otherNum },view)

def internAtom (parser : X11ProtocolParser) (atom : Nat) (name : List UInt8) : X11ProtocolParser :=
  { parser with
    internedAtoms := fun other => if other = atom then some name else parser.internedAtoms other }

/-- `emplace` of consecutive codes from `first` on. -/
def emplaceCodes (codes : UInt8 → Option CodeTraits) (first : UInt8)
    (added : List (UInt8 × CodeTraits)) : UInt8 → Option CodeTraits :=
  added.foldl
    (fun table entry code =>
      if code = first + entry.1 then (table code).or (some entry.2) else table code) codes

def enableExtensionParsing (settings : Settings) (parser : X11ProtocolParser) (view : StringView)
    (name : List UInt8) (majorOpcode firstEvent firstError : UInt8) :
    Checked X11ProtocolParser := do
  assert "!settings.extensionDenied( name )" (settings.extensionDenied name = false)
  match extensions name with
  | none => .error (.assertion "ext_it != _extensions.end()")
  | some extension =>
    match parser.majorOpcodes majorOpcode with
    | some _ => return parser
    | none => return { parser with
        majorOpcodes := fun other =>
          if other = majorOpcode then some (.extension view extension.requests)
          else parser.majorOpcodes other
        eventCodes := emplaceCodes parser.eventCodes firstEvent extension.events
        errorCodes := emplaceCodes parser.errorCodes firstError extension.errors }

/-- Which parse function `_logRequest` calls. -/
def requestParseFunc (parser : X11ProtocolParser) (major minor : UInt8) : RequestParse :=
  match parser.majorOpcodes major with
  | none => .unknownRequest
  | some (.request traits) => traits.requestParseFunc
  | some (.extension _ requests) =>
    match requests minor with
    | none => .unknownRequest
    | some traits => traits.requestParseFunc

/-- Which parse function `_logReply` calls. -/
def replyParseFunc (parser : X11ProtocolParser) (opcodes : RequestOpcodes) : Checked ReplyParse :=
  let present (traits : RequestOpcodeTraits) : Checked ReplyParse :=
    match traits.replyParseFunc with
    | some func => .ok func
    | none => .error (.assertion "reply_parse_func != nullptr")
  match parser.majorOpcodes opcodes.major with
  | none => .ok .unknownRequest
  | some (.request traits) => present traits
  | some (.extension _ requests) =>
    match requests opcodes.minor with
    | none => .ok .unknownRequest
    | some traits => present traits

end X11ProtocolParser
end Xtracepp
