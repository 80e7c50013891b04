import Xtracepp.Encodings
import Xtracepp.ValueList
import Xtracepp.Dispatch

/-! Events and errors: the encodings of 32 bytes, with the parse function of each code.
-/
namespace Xtracepp
open Library.Outcome Library.Framing

namespace Encodings
open Formatting ListParsing CountedLists

def CARD8 : MemberType := .integer (.integer .CARD8) false (by decide) (by decide)

/-- A list of CARD8 that has its place in the encoding. -/
structure InnerList where
  offset : Nat
  count : Nat

/-- An event: its code, whether its function checks the code and then calls that of an
encoding shared with others, the members that are formatted, and the lists among them. -/
structure EventType where
  name : String
  code : UInt8
  shared : Bool
  lists : List InnerList
  members : List Member

def EventType.own (name : String) (code : UInt8) (lists : List InnerList) (members : List Member) :
    EventType := ⟨name,code,false,lists,members⟩

def EventType.derived (name : String) (code : UInt8) (members : List Member) : EventType :=
  ⟨name,code,true,[],members⟩

structure ErrorType where
  name : String
  code : UInt8
  shared : Bool
  members : List Member

def ErrorType.own (name : String) (code : UInt8) (members : List Member) : ErrorType :=
  ⟨name,code,false,members⟩

def ErrorType.derived (name : String) (code : UInt8) (members : List Member) : ErrorType :=
  ⟨name,code,true,members⟩

namespace Events

def MotionNotify.detail_names : EnumNameRange := .all "Normal" ["Hint"]
def VisibilityNotify.state_names : EnumNameRange :=
  .all "Unobscured" ["PartiallyObscured","FullyObscured"]
def PropertyNotify.state_names : EnumNameRange := .all "NewValue" ["Deleted"]
def ColormapNotify.state_names : EnumNameRange := .all "Uninstalled" ["Installed"]
def MappingNotify.request_names : EnumNameRange := .all "Modifier" ["Keyboard","Pointer"]

def InputEvent.members : List Member :=
  [.hidden "code" 0 (.integer .CARD8),.plain "detail" 1 .KEYCODE,
    .hidden "(sequence number)" 2 (.integer .CARD16),.plain "time" 4 .TIMESTAMP,
    .plain "root" 8 .ResourceId,.plain "event" 12 .ResourceId,
    .named "child" 16 .ResourceId zero_none,.plain "root-x" 20 (.integer .INT16),
    .plain "root-y" 22 (.integer .INT16),.plain "event-x" 24 (.integer .INT16),
    .plain "event-y" 26 (.integer .INT16),.plain "state" 28 .SETofKEYBUTMASK,
    .plain "same-screen" 30 .BOOL]

def KeyPress : EventType := .derived "KeyPress" 2 InputEvent.members

def KeyRelease : EventType := .derived "KeyRelease" 3 InputEvent.members

def ButtonPress : EventType := .derived "ButtonPress" 4 InputEvent.members

def ButtonRelease : EventType := .derived "ButtonRelease" 5 InputEvent.members

def MotionNotify : EventType := .own "MotionNotify" 6 []
  [.hidden "code" 0 (.integer .CARD8),.named "detail" 1 (.integer .CARD8) MotionNotify.detail_names,
    .hidden "(sequence number)" 2 (.integer .CARD16),.plain "time" 4 .TIMESTAMP,
    .plain "root" 8 .ResourceId,.plain "event" 12 .ResourceId,
    .named "child" 16 .ResourceId zero_none,.plain "root-x" 20 (.integer .INT16),
    .plain "root-y" 22 (.integer .INT16),.plain "event-x" 24 (.integer .INT16),
    .plain "event-y" 26 (.integer .INT16),.plain "state" 28 .SETofKEYBUTMASK,
    .plain "same-screen" 30 .BOOL]

def BoundaryEvent.members : List Member :=
  [.hidden "code" 0 (.integer .CARD8),
    .named "detail" 1 (.integer .CARD8) (focus_detail.upTo 4 (by decide)),
    .hidden "(sequence number)" 2 (.integer .CARD16),.plain "time" 4 .TIMESTAMP,
    .plain "root" 8 .ResourceId,.plain "event" 12 .ResourceId,
    .named "child" 16 .ResourceId zero_none,.plain "root-x" 20 (.integer .INT16),
    .plain "root-y" 22 (.integer .INT16),.plain "event-x" 24 (.integer .INT16),
    .plain "event-y" 26 (.integer .INT16),.plain "state" 28 .SETofKEYBUTMASK,
    .named "mode" 30 (.integer .CARD8) (focus_mode.upTo 2 (by decide)),
    .flags "(same-screen/focus mask)" 31 (.integer .CARD8) focus_same_screen_mask]

def EnterNotify : EventType := .derived "EnterNotify" 7 BoundaryEvent.members

def LeaveNotify : EventType := .derived "LeaveNotify" 8 BoundaryEvent.members

def FocusEvent.members : List Member :=
  [.hidden "code" 0 (.integer .CARD8),.named "detail" 1 (.integer .CARD8) focus_detail,
    .hidden "(sequence number)" 2 (.integer .CARD16),.plain "event" 4 .ResourceId,
    .named "mode" 8 (.integer .CARD8) focus_mode]

def FocusIn : EventType := .derived "FocusIn" 9 FocusEvent.members

def FocusOut : EventType := .derived "FocusOut" 10 FocusEvent.members

def KeymapNotify : EventType := .own "KeymapNotify" 11 [⟨1,31⟩]
  [.hidden "code" 0 (.integer .CARD8)]

def Expose : EventType := .own "Expose" 12 []
  [.hidden "code" 0 (.integer .CARD8),.hidden "(sequence number)" 2 (.integer .CARD16),
    .plain "window" 4 .ResourceId,.plain "x" 8 (.integer .CARD16),.plain "y" 10 (.integer .CARD16),
    .plain "width" 12 (.integer .CARD16),.plain "height" 14 (.integer .CARD16),
    .plain "count" 16 (.integer .CARD16)]

def GraphicsExposure : EventType := .own "GraphicsExposure" 13 []
  [.hidden "code" 0 (.integer .CARD8),.hidden "(sequence number)" 2 (.integer .CARD16),
    .plain "drawable" 4 .DRAWABLE,.plain "x" 8 (.integer .CARD16),.plain "y" 10 (.integer .CARD16),
    .plain "width" 12 (.integer .CARD16),.plain "height" 14 (.integer .CARD16),
    .plain "minor-opcode" 16 (.integer .CARD16),.plain "count" 18 (.integer .CARD16),
    .plain "major-opcode" 20 (.integer .CARD8)]

def NoExposure : EventType := .own "NoExposure" 14 []
  [.hidden "code" 0 (.integer .CARD8),.hidden "(sequence number)" 2 (.integer .CARD16),
    .plain "drawable" 4 .DRAWABLE,.plain "minor-opcode" 8 (.integer .CARD16),
    .plain "major-opcode" 10 (.integer .CARD8)]

def VisibilityNotify : EventType := .own "VisibilityNotify" 15 []
  [.hidden "code" 0 (.integer .CARD8),.hidden "(sequence number)" 2 (.integer .CARD16),
    .plain "window" 4 .ResourceId,.named "state" 8 (.integer .CARD8) VisibilityNotify.state_names]

def CreateNotify : EventType := .own "CreateNotify" 16 []
  [.hidden "code" 0 (.integer .CARD8),.hidden "(sequence number)" 2 (.integer .CARD16),
    .plain "parent" 4 .ResourceId,.plain "window" 8 .ResourceId,.plain "x" 12 (.integer .INT16),
    .plain "y" 14 (.integer .INT16),.plain "width" 16 (.integer .CARD16),
    .plain "height" 18 (.integer .CARD16),.plain "border-width" 20 (.integer .CARD16),
    .plain "override-redirect" 22 .BOOL]

def DestroyNotify : EventType := .own "DestroyNotify" 17 []
  [.hidden "code" 0 (.integer .CARD8),.hidden "(sequence number)" 2 (.integer .CARD16),
    .plain "event" 4 .ResourceId,.plain "window" 8 .ResourceId]

def UnmapNotify : EventType := .own "UnmapNotify" 18 []
  [.hidden "code" 0 (.integer .CARD8),.hidden "(sequence number)" 2 (.integer .CARD16),
    .plain "event" 4 .ResourceId,.plain "window" 8 .ResourceId,.plain "from-configure" 12 .BOOL]

def MapNotify : EventType := .own "MapNotify" 19 []
  [.hidden "code" 0 (.integer .CARD8),.hidden "(sequence number)" 2 (.integer .CARD16),
    .plain "event" 4 .ResourceId,.plain "window" 8 .ResourceId,.plain "override-redirect" 12 .BOOL]

def MapRequest : EventType := .own "MapRequest" 20 []
  [.hidden "code" 0 (.integer .CARD8),.hidden "(sequence number)" 2 (.integer .CARD16),
    .plain "parent" 4 .ResourceId,.plain "window" 8 .ResourceId]

def ReparentNotify : EventType := .own "ReparentNotify" 21 []
  [.hidden "code" 0 (.integer .CARD8),.hidden "(sequence number)" 2 (.integer .CARD16),
    .plain "event" 4 .ResourceId,.plain "window" 8 .ResourceId,.plain "parent" 12 .ResourceId,
    .plain "x" 16 (.integer .INT16),.plain "y" 18 (.integer .INT16),
    .plain "override-redirect" 20 .BOOL]

def ConfigureNotify : EventType := .own "ConfigureNotify" 22 []
  [.hidden "code" 0 (.integer .CARD8),.hidden "(sequence number)" 2 (.integer .CARD16),
    .plain "event" 4 .ResourceId,.plain "window" 8 .ResourceId,
    .named "above-sibling" 12 .ResourceId zero_none,.plain "x" 16 (.integer .INT16),
    .plain "y" 18 (.integer .INT16),.plain "width" 20 (.integer .CARD16),
    .plain "height" 22 (.integer .CARD16),.plain "border-width" 24 (.integer .CARD16),
    .plain "override-redirect" 26 .BOOL]

def ConfigureRequest : EventType := .own "ConfigureRequest" 23 []
  [.hidden "code" 0 (.integer .CARD8),
    .named "stack-mode" 1 (.integer .CARD8) ValueList.window_value_stack_mode,
    .hidden "(sequence number)" 2 (.integer .CARD16),.plain "parent" 4 .ResourceId,
    .plain "window" 8 .ResourceId,.named "sibling" 12 .ResourceId zero_none,
    .plain "x" 16 (.integer .INT16),.plain "y" 18 (.integer .INT16),
    .plain "width" 20 (.integer .CARD16),.plain "height" 22 (.integer .CARD16),
    .plain "border-width" 24 (.integer .CARD16),
    .flags "value-mask" 26 (.integer .CARD16) window_value_mask]

def GravityNotify : EventType := .own "GravityNotify" 24 []
  [.hidden "code" 0 (.integer .CARD8),.hidden "(sequence number)" 2 (.integer .CARD16),
    .plain "event" 4 .ResourceId,.plain "window" 8 .ResourceId,.plain "x" 12 (.integer .INT16),
    .plain "y" 14 (.integer .INT16)]

def ResizeRequest : EventType := .own "ResizeRequest" 25 []
  [.hidden "code" 0 (.integer .CARD8),.hidden "(sequence number)" 2 (.integer .CARD16),
    .plain "window" 4 .ResourceId,.plain "width" 8 (.integer .CARD16),
    .plain "height" 10 (.integer .CARD16)]

def CirculateNotify : EventType := .own "CirculateNotify" 26 []
  [.hidden "code" 0 (.integer .CARD8),.hidden "(sequence number)" 2 (.integer .CARD16),
    .plain "event" 4 .ResourceId,.plain "window" 8 .ResourceId,
    .named "place" 16 (.integer .CARD8) circulate_place]

def CirculateRequest : EventType := .own "CirculateRequest" 27 []
  [.hidden "code" 0 (.integer .CARD8),.hidden "(sequence number)" 2 (.integer .CARD16),
    .plain "parent" 4 .ResourceId,.plain "window" 8 .ResourceId,
    .named "place" 16 (.integer .CARD8) circulate_place]

def PropertyNotify : EventType := .own "PropertyNotify" 28 []
  [.hidden "code" 0 (.integer .CARD8),.hidden "(sequence number)" 2 (.integer .CARD16),
    .plain "window" 4 .ResourceId,.plain "atom" 8 .ATOM,.plain "time" 12 .TIMESTAMP,
    .named "state" 16 (.integer .CARD8) PropertyNotify.state_names]

def SelectionClear : EventType := .own "SelectionClear" 29 []
  [.hidden "code" 0 (.integer .CARD8),.hidden "(sequence number)" 2 (.integer .CARD16),
    .plain "time" 4 .TIMESTAMP,.plain "owner" 8 .ResourceId,.plain "selection" 12 .ATOM]

def SelectionRequest : EventType := .own "SelectionRequest" 30 []
  [.hidden "code" 0 (.integer .CARD8),.hidden "(sequence number)" 2 (.integer .CARD16),
    .named "time" 4 .TIMESTAMP time,.plain "owner" 8 .ResourceId,.plain "requestor" 12 .ResourceId,
    .plain "selection" 16 .ATOM,.plain "target" 20 .ATOM,.named "property" 24 .ATOM zero_none]

def SelectionNotify : EventType := .own "SelectionNotify" 31 []
  [.hidden "code" 0 (.integer .CARD8),.hidden "(sequence number)" 2 (.integer .CARD16),
    .named "time" 4 .TIMESTAMP time,.plain "requestor" 8 .ResourceId,.plain "selection" 12 .ATOM,
    .plain "target" 16 .ATOM,.named "property" 20 .ATOM zero_none]

def ColormapNotify : EventType := .own "ColormapNotify" 32 []
  [.hidden "code" 0 (.integer .CARD8),.hidden "(sequence number)" 2 (.integer .CARD16),
    .plain "window" 4 .ResourceId,.named "colormap" 8 .ResourceId zero_none,.plain "new" 12 .BOOL,
    .named "state" 13 (.integer .CARD8) ColormapNotify.state_names]

def ClientMessage : EventType := .own "ClientMessage" 33 []
  [.hidden "code" 0 (.integer .CARD8),.plain "format" 1 (.integer .CARD8),
    .hidden "(sequence number)" 2 (.integer .CARD16),.plain "window" 4 .ResourceId,
    .plain "type" 8 .ATOM]

def MappingNotify : EventType := .own "MappingNotify" 34 []
  [.hidden "code" 0 (.integer .CARD8),.hidden "(sequence number)" 2 (.integer .CARD16),
    .named "request" 4 (.integer .CARD8) MappingNotify.request_names,
    .plain "first-keycode" 5 .KEYCODE,.plain "count" 6 (.integer .CARD8)]

end Events

open Events in
def events : List EventType :=
  [KeyPress,KeyRelease,ButtonPress,ButtonRelease,MotionNotify,EnterNotify,LeaveNotify,FocusIn,
    FocusOut,KeymapNotify,Expose,GraphicsExposure,NoExposure,VisibilityNotify,CreateNotify,
    DestroyNotify,UnmapNotify,MapNotify,MapRequest,ReparentNotify,ConfigureNotify,ConfigureRequest,
    GravityNotify,ResizeRequest,CirculateNotify,CirculateRequest,PropertyNotify,SelectionClear,
    SelectionRequest,SelectionNotify,ColormapNotify,ClientMessage,MappingNotify]

namespace Errors

def SimpleError.members : List Member :=
  [.hidden "error" 0 (.integer .CARD8),.hidden "code" 1 (.integer .CARD8),
    .hidden "(sequence number)" 2 (.integer .CARD16),.plain "(minor opcode)" 8 (.integer .CARD16),
    .plain "(major opcode)" 10 (.integer .CARD8)]

def Request : ErrorType := .derived "Request" 1 SimpleError.members

def Value : ErrorType := .own "Value" 2
  [.hidden "error" 0 (.integer .CARD8),.hidden "code" 1 (.integer .CARD8),
    .hidden "(sequence number)" 2 (.integer .CARD16),.plain "(bad value)" 4 (.integer .CARD32),
    .plain "(minor opcode)" 8 (.integer .CARD16),.plain "(major opcode)" 10 (.integer .CARD8)]

def ResourceIdError.members : List Member :=
  [.hidden "error" 0 (.integer .CARD8),.hidden "code" 1 (.integer .CARD8),
    .hidden "(sequence number)" 2 (.integer .CARD16),
    .plain "(bad resource id)" 4 (.integer .CARD32),.plain "(minor opcode)" 8 (.integer .CARD16),
    .plain "(major opcode)" 10 (.integer .CARD8)]

def Window : ErrorType := .derived "Window" 3 ResourceIdError.members

def Pixmap : ErrorType := .derived "Pixmap" 4 ResourceIdError.members

def Atom : ErrorType := .own "Atom" 5
  [.hidden "error" 0 (.integer .CARD8),.hidden "code" 1 (.integer .CARD8),
    .hidden "(sequence number)" 2 (.integer .CARD16),.plain "(bad atom id)" 4 (.integer .CARD32),
    .plain "(minor opcode)" 8 (.integer .CARD16),.plain "(major opcode)" 10 (.integer .CARD8)]

def Cursor : ErrorType := .derived "Cursor" 6 ResourceIdError.members

def Font : ErrorType := .derived "Font" 7 ResourceIdError.members

def Match : ErrorType := .derived "Match" 8 SimpleError.members

def Drawable : ErrorType := .derived "Drawable" 9 ResourceIdError.members

def Access : ErrorType := .derived "Access" 10 SimpleError.members

def Alloc : ErrorType := .derived "Alloc" 11 SimpleError.members

def Colormap : ErrorType := .derived "Colormap" 12 ResourceIdError.members

def GContext : ErrorType := .derived "GContext" 13 ResourceIdError.members

def IDChoice : ErrorType := .derived "IDChoice" 14 ResourceIdError.members

def Name : ErrorType := .derived "Name" 15 SimpleError.members

def Length : ErrorType := .derived "Length" 16 SimpleError.members

def Implementation : ErrorType := .derived "Implementation" 17 SimpleError.members

end Errors

open Errors in
def errors : List ErrorType :=
  [Request,Value,Window,Pixmap,Atom,Cursor,Font,Match,Drawable,Access,Alloc,Colormap,GContext,
    IDChoice,Name,Length,Implementation]

/-- The parse function of a code. -/
def eventType (code : UInt8) : Option EventType := events.find? fun type => type.code == code

def errorType (code : UInt8) : Option ErrorType := errors.find? fun type => type.code == code

def byteAt (data : List UInt8) (offset : Nat) : Checked UInt8 := do
  return (← readBytes data offset 1).getD 0 0

/-- What comes before the members are formatted; a function that calls another checks the size
of the header first. -/
def EventType.check (type : EventType) (data : List UInt8) (sz : Nat) : Checked Unit := do
  assert "sz >= sizeof( Header )" ((if type.shared then 4 else 32) ≤ sz)
  let code ← byteAt data 0
  assert "( _ordered( encoding->header.code, byteswap ) & EVENT_CODE_MASK ) == codes"
    (code &&& 0x7F = type.code)
  assert "sz >= ENCODING_SZ" (32 ≤ sz)

end Encodings

namespace CountedLists.Reader
open Formatting ListParsing Encodings

variable (reader : Reader)

def parseInner (data : List UInt8) (list : InnerList) : Checked (List CountedLists.Text) := do
  let memb ← parseLISTofUint16 (CARD8.parse reader) (data.drop list.offset) list.count list.count
  return memb.members

/-- `_parseEvent` of a type. -/
def parseEventType (type : EventType) (data : List UInt8) (sz : Nat) : Checked Outputs := do
  type.check data sz
  let lists ← type.lists.mapM (reader.parseInner data)
  let text ← reader.formatMembers data type.members
  return ⟨lists,text,32⟩

/-- The function of an entry of the table. -/
def parseEventCode (code : UInt8) (data : List UInt8) (sz : Nat) : Checked Outputs :=
  match eventType code with
  | none => .error (.undefined "code_traits.parse_func")
  | some type => reader.parseEventType type data sz

/-- `_parseEvent` with the table of codes. -/
def parseEvent (codes : UInt8 → Option CodeTraits) (data : List UInt8) (sz : Nat) : Checked Outputs := do
  assert "sz >= protocol::events::Event::ENCODING_SZ" (32 ≤ sz)
  let code ← byteAt data 0
  match codes (code &&& 0x7F) with
  | none => .error (.outOfRange "_event_codes.at")
  | some traits => do
    let event ← reader.parseEventCode traits.code data sz
    assert "event.bytes_parsed == protocol::events::Event::ENCODING_SZ" (event.bytes_parsed = 32)
    return event

/-- `_parseError` of a type: whichever function checks the code, both check the first byte. -/
def parseErrorType (type : ErrorType) (data : List UInt8) (sz : Nat) : Checked Outputs := do
  assert "sz >= sizeof( Header )" ((if type.shared then 4 else 32) ≤ sz)
  let code ← byteAt data 1
  assert "_ordered( encoding->header.code, byteswap ) == codes" (code = type.code)
  assert "sz >= ENCODING_SZ" (32 ≤ sz)
  let error ← byteAt data 0
  assert "_ordered( encoding->header.error, byteswap ) == ERROR" (error = 0)
  let text ← reader.formatMembers data type.members
  return ⟨[],text,32⟩

def parseErrorCode (code : UInt8) (data : List UInt8) (sz : Nat) : Checked Outputs :=
  match errorType code with
  | none => .error (.undefined "code_traits.parse_func")
  | some type => reader.parseErrorType type data sz

end CountedLists.Reader

namespace Encodings
open Formatting ListParsing CountedLists

def EventType.usable (type : EventType) : Bool :=
  Fits type.members 32 &&
    type.lists.all fun list => decide (list.offset + list.count ≤ 32)

def ErrorType.usable (type : ErrorType) : Bool := Fits type.members 32

theorem events_usable : ∀ type ∈ events,type.usable = true := by decide +kernel

theorem errors_usable : ∀ type ∈ errors,type.usable = true := by decide +kernel

/-- The codes of the table have their functions. -/
theorem eventType_table (code : UInt8) :
    (eventType code).map EventType.code = (coreEvents code).map CodeTraits.code := by
  have all : ∀ code : Fin 256,(eventType (UInt8.ofNat code)).map EventType.code =
      (coreEvents (UInt8.ofNat code)).map CodeTraits.code := by decide +kernel
  have here := all ⟨code.toNat,code.toNat_lt⟩
  rwa [UInt8.ofNat_toNat] at here

theorem errorType_table (code : UInt8) :
    (errorType code).map ErrorType.code = (coreErrors code).map CodeTraits.code := by
  have all : ∀ code : Fin 256,(errorType (UInt8.ofNat code)).map ErrorType.code =
      (coreErrors (UInt8.ofNat code)).map CodeTraits.code := by decide +kernel
  have here := all ⟨code.toNat,code.toNat_lt⟩
  rwa [UInt8.ofNat_toNat] at here

theorem errors_unchecked : ∀ type ∈ errors,∀ member ∈ type.members,member.unchecked = true := by
  decide +kernel

section messages

variable {reader : Reader} {message more : List UInt8}

theorem CARD8_good (bytes : List UInt8) : CARD8.good reader bytes := by
  intro member listed
  rw [List.mem_singleton] at listed
  rw [listed]
  trivial

theorem parseInner_done {list : InnerList} (inside : list.offset + list.count ≤ message.length)
    (narrow : list.count < 2^16) :
    ∃ memb,reader.parseInner (message ++ more) list = .ok memb ∧ memb.length = list.count := by
  have whole : list.count * CARD8.width = list.count := Nat.mul_one _
  have behind := @behind_length message more list.offset (by omega)
  have parsed := @parseLISTofUint16_fixed (CARD8.parse reader) CARD8.width (CARD8.good reader)
    (CARD8.fixed reader) ((message ++ more).drop list.offset) list.count list.count
    (by omega) (by omega) (by omega) (by omega)
  obtain ⟨memb,found⟩ := parsed.1.mpr fun i below => CARD8_good _
  refine ⟨memb.members,?_,?_⟩
  · rw [Reader.parseInner,found]
    rfl
  · rw [(parsed.2 memb found).1,Nat.mod_eq_of_lt narrow]

theorem parseInners_done {lists : List InnerList} {size : Nat}
    (inside : ∀ list ∈ lists,list.offset + list.count ≤ size) (long : size ≤ message.length)
    (narrow : size < 2^16) :
    ∃ membs,lists.mapM (reader.parseInner (message ++ more)) = .ok membs ∧
      membs.map List.length = lists.map InnerList.count := by
  induction lists with
  | nil => exact ⟨[],rfl,rfl⟩
  | cons list lists ih =>
    have here := inside list List.mem_cons_self
    obtain ⟨memb,first,length⟩ := @parseInner_done reader message more list (by omega) (by omega)
    obtain ⟨membs,others,lengths⟩ := ih fun other member => inside other (List.mem_cons_of_mem _ member)
    refine ⟨memb :: membs,?_,?_⟩
    · rw [List.mapM_cons,first,ok_bind,others]
      rfl
    · rw [List.map_cons,List.map_cons,length,lengths]

theorem byteAt_inside {offset : Nat} (inside : offset < message.length) :
    byteAt (message ++ more) offset = .ok (message.getD offset 0) := by
  rw [byteAt,readBytes_inside (by omega),slice,ok_bind,List.drop_eq_getElem_cons inside,
    List.getD_eq_getElem _ _ inside]
  rfl

theorem EventType.check_done {type : EventType} (length : message.length = 32)
    (code : message.getD 0 0 &&& 0x7F = type.code) :
    type.check (message ++ more) 32 = .ok () := by
  have header : (if type.shared then 4 else 32) ≤ 32 := by
    split <;> omega
  rw [EventType.check,assert,demand_true header,ok_bind,byteAt_inside (by omega),ok_bind,assert,
    demand_true code]
  rfl

theorem parseEventType_steps {type : EventType} (usable : type.usable = true)
    (length : message.length = 32) (code : message.getD 0 0 &&& 0x7F = type.code) :
    ∃ membs,membs.map List.length = type.lists.map InnerList.count ∧
      reader.parseEventType type (message ++ more) 32 = do
        let text ← reader.formatMembers (message ++ more) type.members
        return ⟨membs,text,32⟩ := by
  rw [EventType.usable,Bool.and_eq_true,List.all_eq_true] at usable
  obtain ⟨membs,lists,counts⟩ := @parseInners_done reader message more type.lists 32
    (fun list member => of_decide_eq_true (usable.2 list member)) (by omega) (by decide)
  refine ⟨membs,counts,?_⟩
  rw [Reader.parseEventType,EventType.check_done length code,ok_bind,lists,ok_bind]

/-- An event is parsed if and only if the host sees the zero bits of its members clear. -/
theorem parseEventType_iff {type : EventType} (usable : type.usable = true)
    (length : message.length = 32) (code : message.getD 0 0 &&& 0x7F = type.code) :
    (∃ outputs,reader.parseEventType type (message ++ more) 32 = .ok outputs) ↔
      ∀ member ∈ type.members,member.Accepts reader.littleEndian message := by
  obtain ⟨membs,_,steps⟩ := @parseEventType_steps reader message more type usable length code
  rw [EventType.usable,Bool.and_eq_true,← length] at usable
  rw [steps,wrapped_iff,formatMembers_iff usable.1]

theorem parseEventType_whole {type : EventType} {outputs : Outputs} (usable : type.usable = true)
    (length : message.length = 32) (code : message.getD 0 0 &&& 0x7F = type.code)
    (done : reader.parseEventType type (message ++ more) 32 = .ok outputs) :
    outputs.lists.map List.length = type.lists.map InnerList.count ∧ outputs.bytes_parsed = 32 := by
  obtain ⟨membs,counts,steps⟩ := @parseEventType_steps reader message more type usable length code
  rw [steps] at done
  obtain ⟨text,_,done⟩ := bind_success done
  cases done
  exact ⟨counts,rfl⟩

theorem eventType_listed {code : UInt8} {type : EventType} (found : eventType code = some type) :
    type ∈ events ∧ type.code = code := by
  have same := List.find?_some found
  exact ⟨List.mem_of_find?_eq_some found,beq_iff_eq.mp same⟩

theorem errorType_listed {code : UInt8} {type : ErrorType} (found : errorType code = some type) :
    type ∈ errors ∧ type.code = code := by
  have same := List.find?_some found
  exact ⟨List.mem_of_find?_eq_some found,beq_iff_eq.mp same⟩

/-- The code is that of an event, of which the members are accepted. -/
def EventAccepted (littleEndian : Bool) (message : List UInt8) : Prop :=
  ∃ type,eventType (message.getD 0 0 &&& 0x7F) = some type ∧
    ∀ member ∈ type.members,member.Accepts littleEndian message

/-- Which of all events are parsed. -/
theorem parseEvent_iff (length : message.length = 32) :
    (∃ outputs,reader.parseEvent coreEvents (message ++ more) 32 = .ok outputs) ↔
      EventAccepted reader.littleEndian message := by
  have table := eventType_table (message.getD 0 0 &&& 0x7F)
  rw [Reader.parseEvent,assert,demand_true (Nat.le_refl 32),ok_bind,byteAt_inside (by omega),ok_bind]
  cases known : coreEvents (message.getD 0 0 &&& 0x7F) with
  | none =>
    refine iff_of_false (by simp) ?_
    rintro ⟨type,found,_⟩
    rw [found,known] at table
    cases table
  | some traits =>
    rw [known] at table
    obtain ⟨type,found,same⟩ := Option.map_eq_some_iff.mp table
    obtain ⟨listed,code⟩ := eventType_listed found
    rw [code] at same
    have parsed := @parseEventType_iff reader message more type (events_usable type listed) length
      code.symm
    dsimp only
    rw [Reader.parseEventCode,← same,found]
    constructor
    · rintro ⟨outputs,done⟩
      obtain ⟨event,done,_⟩ := bind_success done
      exact ⟨type,found,parsed.mp ⟨event,done⟩⟩
    · rintro ⟨other,among,accepted⟩
      cases found.symm.trans among
      obtain ⟨event,done⟩ := parsed.mpr accepted
      have size := (parseEventType_whole (events_usable type listed) length code.symm done).2
      refine ⟨event,?_⟩
      dsimp only
      rw [done,ok_bind,assert,demand_true size]
      rfl

theorem parseEvent_size {sz : Nat} {codes : UInt8 → Option CodeTraits} {data : List UInt8}
    {outputs : Outputs} (done : reader.parseEvent codes data sz = .ok outputs) :
    outputs.bytes_parsed = 32 := by
  obtain ⟨_,done⟩ := demand_bind_success done
  obtain ⟨code,_,done⟩ := bind_success done
  cases known : codes (code &&& 0x7F) with
  | none =>
    rw [known] at done
    cases done
  | some traits =>
    rw [known] at done
    obtain ⟨event,_,done⟩ := bind_success done
    obtain ⟨size,done⟩ := demand_bind_success done
    cases done
    exact size

/-- Every core error is parsed. -/
theorem parseErrorCode_done {code : UInt8} (known : coreErrors code ≠ none)
    (length : message.length = 32) (error : message.getD 0 0 = 0) (named : message.getD 1 0 = code) :
    ∃ outputs,reader.parseErrorCode code (message ++ more) 32 = .ok outputs ∧
      outputs.bytes_parsed = 32 := by
  have table := errorType_table code
  obtain ⟨traits,known⟩ := Option.ne_none_iff_exists'.mp known
  rw [known] at table
  obtain ⟨type,found,_⟩ := Option.map_eq_some_iff.mp table
  obtain ⟨listed,same⟩ := errorType_listed found
  have header : (if type.shared then 4 else 32) ≤ 32 := by
    split <;> omega
  have usable := errors_usable type listed
  rw [ErrorType.usable,← length] at usable
  obtain ⟨text,printed⟩ := (@formatMembers_iff reader message more type.members usable).mpr
    fun member among => unchecked_accepted (errors_unchecked type listed member among)
  refine ⟨⟨[],text,32⟩,?_,rfl⟩
  rw [Reader.parseErrorCode,found]
  dsimp only
  rw [Reader.parseErrorType,assert,demand_true header,ok_bind,byteAt_inside (by omega),ok_bind,assert,
    demand_true (by rw [named,same]),ok_bind,assert,demand_true (Nat.le_refl 32),ok_bind,
    byteAt_inside (by omega),ok_bind,assert,demand_true error,ok_bind,printed]
  rfl

end messages

/-- An event is parsed if and only if its code is listed and the host sees the bits that its members
assert clear; a core error is always parsed. -/
theorem responses_parsed {reader : Reader} {message : List UInt8} (more : List UInt8)
    (length : message.length = 32) :
    ((∃ outputs,reader.parseEvent coreEvents (message ++ more) 32 = .ok outputs ∧
        outputs.bytes_parsed = 32) ↔ EventAccepted reader.littleEndian message) ∧
      (message.getD 0 0 = 0 → coreErrors (message.getD 1 0) ≠ none →
        ∃ outputs,reader.parseErrorCode (message.getD 1 0) (message ++ more) 32 = .ok outputs ∧
          outputs.bytes_parsed = 32) := by
  refine ⟨?_,fun error known => parseErrorCode_done known length error rfl⟩
  rw [← @parseEvent_iff reader message more length]
  constructor
  · rintro ⟨outputs,done,_⟩
    exact ⟨outputs,done⟩
  · rintro ⟨outputs,done⟩
    exact ⟨outputs,done,parseEvent_size done⟩

/-- A KeyPress from a server in the other byte order. -/
def keyPress : List UInt8 := [2,38,0,9] ++ List.replicate 28 0

theorem responses_parsed_keyPress :
    ((∃ outputs,{ plain with byteswap := true }.parseEvent coreEvents (keyPress ++ []) 32 = .ok outputs ∧
        outputs.bytes_parsed = 32) ↔ EventAccepted plain.littleEndian keyPress) ∧
      (keyPress.getD 0 0 = 0 → coreErrors (keyPress.getD 1 0) ≠ none →
        ∃ outputs,{ plain with byteswap := true }.parseErrorCode (keyPress.getD 1 0) (keyPress ++ []) 32 =
            .ok outputs ∧ outputs.bytes_parsed = 32) :=
  @responses_parsed { plain with byteswap := true } keyPress [] rfl

end Encodings
end Xtracepp
