import Xtracepp.Requests

/-! The core requests: the layouts of their encodings, and the table of their parse functions.
-/
namespace Xtracepp
open Library.Outcome Library.Framing

namespace Encodings
namespace Requests
open Formatting ListParsing CountedLists

/-! Types of list members. -/

def CARD32 : MemberType := .integer (.integer .CARD32) false (by decide) (by decide)
def ATOM : MemberType := .integer .ATOM false (by decide) (by decide)
def KEYCODE : MemberType := .integer .KEYCODE false (by decide) (by decide)
def KEYSYM : MemberType := .integer .KEYSYM false (by decide) (by decide)

def POINT : MemberType :=
  .struct 4 [.plain "x" 0 (.integer .INT16),.plain "y" 2 (.integer .INT16)] (by decide) (by decide)

def SEGMENT : MemberType :=
  .struct 8 [.plain "x1" 0 (.integer .INT16),.plain "y1" 2 (.integer .INT16),
    .plain "x2" 4 (.integer .INT16),.plain "y2" 6 (.integer .INT16)] (by decide) (by decide)

def RECTANGLE.members : List Member :=
  [.plain "x" 0 (.integer .INT16),.plain "y" 2 (.integer .INT16),
    .plain "width" 4 (.integer .CARD16),.plain "height" 6 (.integer .CARD16)]

def RECTANGLE : MemberType := .struct 8 RECTANGLE.members (by decide) (by decide)

def ARC : MemberType :=
  .struct 12 (RECTANGLE.members ++ [.plain "angle1" 8 (.integer .INT16),
    .plain "angle2" 10 (.integer .INT16)]) (by decide) (by decide)

def COLORITEM.members : List Member :=
  [.plain "pixel" 0 (.integer .CARD32),.plain "red" 4 (.integer .CARD16),
    .plain "green" 6 (.integer .CARD16),.plain "blue" 8 (.integer .CARD16),
    .flags "(do rgb mask)" 10 (.integer .CARD8) do_rgb_mask]

/-- The first assertion of `_formatVariable( COLORITEM )` is about the flags. -/
def COLORITEM.parse (reader : Reader) : ListMember CountedLists.Text := fun data sz => do
  assert "sz >= sizeof( ProtocolStructT )" (12 ≤ sz)
  let memb ← readBytes data 0 12
  assert "( coloritem.do_rgb_mask & COLORITEM::DO_RGB_ZERO_BITS ) == 0"
    (memb.getD 10 0 &&& 0xF8 = 0)
  return (← reader.formatMembers memb COLORITEM.members,12)

theorem COLORITEM.fixed (reader : Reader) :
    Fixed (COLORITEM.parse reader) 12 fun bytes => bytes.getD 10 0 &&& 0xF8 = 0 := by
  have fits : Fits COLORITEM.members 12 = true := by decide
  refine ⟨fun data sz long room clear => ?_,fun data sz shown count long parsed => ?_⟩
  · obtain ⟨text,done⟩ := (@formatMembers_take 12 COLORITEM.members reader data fits long).mpr fun member listed =>
      unchecked_accepted (by revert member; decide)
    refine ⟨text,?_⟩
    rw [COLORITEM.parse,assert,demand_true room,ok_bind,readBytes_take long,ok_bind,assert,
      demand_true clear,ok_bind,done]
    rfl
  · obtain ⟨_,parsed⟩ := demand_bind_success parsed
    rw [readBytes_take long,ok_bind] at parsed
    obtain ⟨clear,parsed⟩ := demand_bind_success parsed
    obtain ⟨text,_,parsed⟩ := bind_success parsed
    cases parsed
    exact ⟨rfl,clear⟩

def COLORITEM : MemberType := ⟨12,by decide,COLORITEM.parse,_,COLORITEM.fixed⟩

/-! Members of the lists of VALUEs. -/

open ValueList (plain flags) in
/-- `value_types`, `value_names` and the traits of CreateGC and ChangeGC. -/
def gcMembers : List ValueList.ValueMember :=
  [ValueList.named (.integer .CARD8) "function" gc_value_function,
    flags (.integer .CARD32) "plane-mask",
    plain (.integer .CARD32) "foreground",
    plain (.integer .CARD32) "background",
    plain (.integer .CARD16) "line-width",
    ValueList.named (.integer .CARD8) "line-style" gc_value_line_style,
    ValueList.named (.integer .CARD8) "cap-style" gc_value_cap_style,
    ValueList.named (.integer .CARD8) "join-style" gc_value_join_style,
    ValueList.named (.integer .CARD8) "fill-style" gc_value_fill_style,
    ValueList.named (.integer .CARD8) "fill-rule" gc_value_fill_rule,
    plain .ResourceId "tile",
    plain .ResourceId "stipple",
    plain (.integer .INT16) "tile-stipple-x-origin",
    plain (.integer .INT16) "tile-stipple-y-origin",
    plain .ResourceId "font",
    ValueList.named (.integer .CARD8) "subwindow-mode" gc_value_subwindow_mode,
    plain .BOOL "graphics-exposures",
    plain (.integer .INT16) "clip-x-origin",
    plain (.integer .INT16) "clip-y-origin",
    ⟨.ResourceId,"clip-mask",zero_none,true⟩,
    plain (.integer .CARD16) "dash-offset",
    plain (.integer .CARD8) "dashes",
    ValueList.named (.integer .CARD8) "arc-mode" gc_value_arc_mode]

open ValueList (plain) in
def keyboardControlMembers : List ValueList.ValueMember :=
  [plain (.integer .INT8) "key-click-percent",
    plain (.integer .INT8) "bell-percent",
    plain (.integer .INT16) "bell-pitch",
    plain (.integer .INT16) "bell-duration",
    plain (.integer .CARD8) "led",
    ValueList.named (.integer .CARD8) "led-mode" (off_on.upTo 1 (by decide)),
    plain .KEYCODE "key",
    ValueList.named (.integer .CARD8) "auto-repeat-mode" off_on]

theorem windowMembers_usable :
    ∀ member ∈ ValueList.windowMembers,(valueMember member).usable = true := by decide +kernel

theorem configureMembers_usable :
    ∀ member ∈ ValueList.configureMembers,(valueMember member).usable = true := by decide +kernel

theorem gcMembers_usable : ∀ member ∈ gcMembers,(valueMember member).usable = true := by
  decide +kernel

theorem keyboardControlMembers_usable :
    ∀ member ∈ keyboardControlMembers,(valueMember member).usable = true := by decide +kernel

/-- The opcode is the first member and printed only if verbose. -/
def coded (members : List Member) : List Member := .hidden "opcode" 0 (.integer .CARD8) :: members

end Requests

/-- A request without a suffix. -/
def Layout.plain (name : String) (opcode : UInt8) (head : List Member) (encodingSz : Nat)
    (encoding : List Member) : Layout where
  name := name
  opcode := some opcode
  head := Requests.coded head
  encodingSz := encodingSz
  encoding := encoding
  compared := false
  tail := nothing

namespace Requests
open Formatting ListParsing CountedLists

/-! Enum names of single requests. -/

def CirculateWindow.direction_names : EnumNameRange := .all "RaiseLowest" ["LowerHighest"]
def SendEvent.destination_names : EnumNameRange := .all "PointerWindow" ["InputFocus"]
def AllowEvents.mode_names : EnumNameRange :=
  .all "AsyncPointer" ["SyncPointer","ReplayPointer","AsyncKeyboard","SyncKeyboard",
    "ReplayKeyboard","AsyncBoth","SyncBoth"]
def SetClipRectangles.ordering_names : EnumNameRange :=
  .all "UnSorted" ["YSorted","YXSorted","YXBanded"]
def FillPoly.shape_names : EnumNameRange := .all "Complex" ["Nonconvex","Convex"]
def CreateColormap.alloc_names : EnumNameRange := .all "None" ["All"]
def QueryBestSize.class_names : EnumNameRange := .all "Cursor" ["Tile","Stipple"]
def ChangeHosts.mode_names : EnumNameRange := .all "Insert" ["Delete"]
def SetAccessControl.mode_names : EnumNameRange := .all "Disable" ["Enable"]
def SetCloseDownMode.mode_names : EnumNameRange :=
  .all "Destroy" ["RetainPermanent","RetainTemporary"]
def KillClient.resource_names : EnumNameRange := .all "AllTemporary" []
def ForceScreenSaver.mode_names : EnumNameRange := .all "Reset" ["Activate"]

/-! The layouts, with those that several requests share first. -/

def SimpleRequest : Layout where
  name := "SimpleRequest"
  opcode := none
  head := coded []
  encodingSz := 0
  encoding := []
  compared := false
  tail := nothing

/-- A request that no table knows: what follows the header is passed over. -/
def UnknownRequest : Layout where
  name := "_UnknownRequest"
  opcode := none
  head := [.plain "major-opcode" 0 (.integer .CARD8),.plain "minor-opcode" 1 (.integer .CARD8)]
  encodingSz := 0
  encoding := []
  compared := true
  tail := skipped true (by decide)

/-- `ext::requests::impl::SimpleRequest` -/
def ExtensionRequest : Layout where
  name := "SimpleRequest"
  opcode := none
  head := [.hidden "major-opcode" 0 (.integer .CARD8),.hidden "minor-opcode" 1 (.integer .CARD8)]
  encodingSz := 0
  encoding := []
  compared := false
  tail := nothing

def SimpleWindowRequest : Layout where
  name := "SimpleWindowRequest"
  opcode := none
  head := coded []
  encodingSz := 4
  encoding := [.plain "window" 0 .ResourceId]
  compared := false
  tail := nothing

def ListFontsRequest : Layout where
  name := "ListFontsRequest"
  opcode := none
  head := coded []
  encodingSz := 4
  encoding :=
    [.plain "max-names" 0 (.integer .CARD16),.hidden "(pattern length)" 2 (.integer .CARD16)]
  compared := false
  tail := text "pattern" ⟨true,2,2⟩ (by decide) (by decide)

def SimpleCmapRequest : Layout where
  name := "SimpleCmapRequest"
  opcode := none
  head := coded []
  encodingSz := 4
  encoding := [.plain "cmap" 0 .ResourceId]
  compared := false
  tail := nothing

def CreateWindow : Layout where
  name := "CreateWindow"
  opcode := some 1
  head := coded [.plain "depth" 1 (.integer .CARD8)]
  encodingSz := 28
  encoding :=
    [.plain "wid" 0 .ResourceId,.plain "parent" 4 .ResourceId,.plain "x" 8 (.integer .INT16),
      .plain "y" 10 (.integer .INT16),.plain "width" 12 (.integer .CARD16),
      .plain "height" 14 (.integer .CARD16),.plain "border-width" 16 (.integer .CARD16),
      .named "class" 18 (.integer .CARD16) window_class,
      .named "visual" 20 .ResourceId ValueList.zero_copy_from_parent,
      .flags "value-mask" 24 (.integer .CARD32) .none]
  compared := false
  tail := values ValueList.windowMembers ⟨true,24,4⟩ (by decide) windowMembers_usable

def ChangeWindowAttributes : Layout where
  name := "ChangeWindowAttributes"
  opcode := some 2
  head := coded []
  encodingSz := 8
  encoding := [.plain "window" 0 .ResourceId,.flags "value-mask" 4 (.integer .CARD32) .none]
  compared := false
  tail := values ValueList.windowMembers ⟨true,4,4⟩ (by decide) windowMembers_usable

def ChangeSaveSet : Layout := .plain "ChangeSaveSet" 6
  [.named "mode" 1 (.integer .CARD8) change_mode] 4
  [.plain "window" 0 .ResourceId]

def ReparentWindow : Layout := .plain "ReparentWindow" 7 [] 12
  [.plain "window" 0 .ResourceId,.plain "parent" 0 .ResourceId,.plain "x" 8 (.integer .INT16),
    .plain "y" 10 (.integer .INT16)]

def ConfigureWindow : Layout where
  name := "ConfigureWindow"
  opcode := some 12
  head := coded []
  encodingSz := 8
  encoding := [.plain "window" 0 .ResourceId,.flags "value-mask" 4 (.integer .CARD16) .none]
  compared := false
  tail := values ValueList.configureMembers ⟨true,4,2⟩ (by decide) configureMembers_usable

def CirculateWindow : Layout := .plain "CirculateWindow" 13
  [.named "direction" 1 (.integer .CARD8) CirculateWindow.direction_names] 4
  [.plain "window" 0 .ResourceId]

def GetGeometry : Layout := .plain "GetGeometry" 14 [] 4 [.plain "drawable" 0 .DRAWABLE]

def GetAtomName : Layout := .plain "GetAtomName" 17 [] 4 [.plain "atom" 0 .ATOM]

def DeleteProperty : Layout := .plain "DeleteProperty" 19 [] 8
  [.plain "window" 0 .ResourceId,.plain "property" 4 .ATOM]

def GetProperty : Layout := .plain "GetProperty" 20 [.plain "delete" 1 .BOOL] 20
  [.plain "window" 0 .ResourceId,.plain "property" 4 .ATOM,
    .named "type" 8 .ATOM GetProperty.type_names,.plain "long-offset" 12 (.integer .CARD32),
    .plain "long-length" 16 (.integer .CARD32)]

def SetSelectionOwner : Layout := .plain "SetSelectionOwner" 22 [] 12
  [.named "owner" 0 .ResourceId zero_none,.plain "selection" 4 .ATOM,
    .named "time" 8 .TIMESTAMP time]

def GetSelectionOwner : Layout := .plain "GetSelectionOwner" 23 [] 4 [.plain "selection" 0 .ATOM]

def ConvertSelection : Layout := .plain "ConvertSelection" 24 [] 20
  [.plain "requestor" 0 .ResourceId,.plain "selection" 4 .ATOM,.plain "target" 8 .ATOM,
    .named "property" 12 .ATOM zero_none,.named "time" 16 .TIMESTAMP time]

def SendEvent : Layout where
  name := "SendEvent"
  opcode := some 25
  head := coded [.plain "propagate" 1 .BOOL]
  encodingSz := 8
  encoding :=
    [.named "destination" 0 .ResourceId SendEvent.destination_names,
      .plain "event-mask" 4 .SETofEVENT]
  compared := false
  tail := sentEvent

def GrabPointer : Layout := .plain "GrabPointer" 26 [.plain "owner-events" 1 .BOOL] 20
  [.plain "grab-window" 0 .ResourceId,.plain "event-mask" 4 .SETofPOINTEREVENT,
    .named "pointer-mode" 6 (.integer .CARD8) input_mode,
    .named "keyboard-mode" 7 (.integer .CARD8) input_mode,
    .named "confine-to" 8 .ResourceId zero_none,.named "cursor" 12 .ResourceId zero_none,
    .named "time" 16 .TIMESTAMP time]

def UngrabPointer : Layout := .plain "UngrabPointer" 27 [] 4 [.named "time" 0 .TIMESTAMP time]

def GrabButton : Layout := .plain "GrabButton" 28 [.plain "owner-events" 1 .BOOL] 20
  [.plain "grab-window" 0 .ResourceId,.plain "event-mask" 4 .SETofPOINTEREVENT,
    .named "pointer-mode" 6 (.integer .CARD8) input_mode,
    .named "keyboard-mode" 7 (.integer .CARD8) input_mode,
    .named "confine-to" 8 .ResourceId zero_none,.named "cursor" 12 .ResourceId zero_none,
    .named "button" 16 .BUTTON button,.plain "modifiers" 18 .SETofKEYMASK]

def UngrabButton : Layout := .plain "UngrabButton" 29 [.named "button" 1 .BUTTON button] 8
  [.plain "grab-window" 0 .ResourceId,.plain "modifiers" 4 .SETofKEYMASK]

def ChangeActivePointerGrab : Layout := .plain "ChangeActivePointerGrab" 30 [] 12
  [.named "cursor" 0 .ResourceId zero_none,.named "time" 4 .TIMESTAMP time,
    .plain "event-mask" 8 .SETofPOINTEREVENT]

def GrabKeyboard : Layout := .plain "GrabKeyboard" 31 [.plain "owner-events" 1 .BOOL] 12
  [.plain "grab-window" 0 .ResourceId,.named "time" 4 .TIMESTAMP time,
    .named "pointer-mode" 8 (.integer .CARD8) input_mode,
    .named "keyboard-mode" 9 (.integer .CARD8) input_mode]

def UngrabKeyboard : Layout := .plain "UngrabKeyboard" 32 [] 4 [.named "time" 0 .TIMESTAMP time]

def GrabKey : Layout := .plain "GrabKey" 33 [.plain "owner-events" 1 .BOOL] 12
  [.plain "modifiers" 4 .SETofKEYMASK,.named "key" 6 .KEYCODE key,
    .named "pointer-mode" 7 (.integer .CARD8) input_mode,
    .named "keyboard-mode" 8 (.integer .CARD8) input_mode]

def UngrabKey : Layout := .plain "UngrabKey" 34 [.named "key" 1 .KEYCODE key] 8
  [.plain "grab-window" 0 .ResourceId,.plain "modifiers" 4 .SETofKEYMASK]

def AllowEvents : Layout := .plain "AllowEvents" 35
  [.named "mode" 1 (.integer .CARD8) AllowEvents.mode_names] 4
  [.named "time" 0 .TIMESTAMP time]

def GetMotionEvents : Layout := .plain "GetMotionEvents" 39 [] 12
  [.plain "window" 0 .ResourceId,.named "start" 4 .TIMESTAMP time,.named "stop" 8 .TIMESTAMP time]

def TranslateCoordinates : Layout := .plain "TranslateCoordinates" 40 [] 12
  [.plain "src-window" 0 .ResourceId,.plain "dst-window" 4 .ResourceId,
    .plain "src-x" 8 (.integer .INT16),.plain "src-y" 10 (.integer .INT16)]

def WarpPointer : Layout := .plain "WarpPointer" 41 [] 20
  [.named "src-window" 0 .ResourceId zero_none,.named "dst-window" 4 .ResourceId zero_none,
    .plain "src-x" 8 (.integer .INT16),.plain "src-y" 10 (.integer .INT16),
    .plain "src-width" 12 (.integer .CARD16),.plain "src-height" 14 (.integer .CARD16),
    .plain "dst-x" 16 (.integer .INT16),.plain "dst-y" 18 (.integer .INT16)]

def SetInputFocus : Layout := .plain "SetInputFocus" 42
  [.named "revert-to" 1 (.integer .CARD8) input_focus] 8
  [.named "focus" 0 .ResourceId (input_focus.upTo 1 (by decide)),.named "time" 4 .TIMESTAMP time]

def OpenFont : Layout where
  name := "OpenFont"
  opcode := some 45
  head := coded []
  encodingSz := 8
  encoding := [.plain "fid" 0 .ResourceId,.hidden "(name length)" 4 (.integer .CARD16)]
  compared := false
  tail := text "name" ⟨true,4,2⟩ (by decide) (by decide)

def CloseFont : Layout := .plain "CloseFont" 46 [] 4 [.plain "font" 0 .ResourceId]

def QueryFont : Layout := .plain "QueryFont" 47 [] 4 [.plain "font" 0 .FONTABLE]

def QueryTextExtents : Layout where
  name := "QueryTextExtents"
  opcode := some 48
  head := coded [.hidden "(odd length)" 1 .BOOL]
  encodingSz := 4
  encoding := [.plain "font" 0 .FONTABLE]
  compared := true
  tail := string16 ⟨false,1,1⟩ (by decide)

def SetFontPath : Layout where
  name := "SetFontPath"
  opcode := some 51
  head := coded []
  encodingSz := 4
  encoding := [.hidden "(STRs in path)" 0 (.integer .CARD16)]
  compared := false
  tail := strings ⟨true,0,2⟩ (by decide) (by decide)

def CreatePixmap : Layout := .plain "CreatePixmap" 53 [.plain "depth" 1 (.integer .CARD8)] 12
  [.plain "pid" 0 .ResourceId,.plain "drawable" 4 .DRAWABLE,.plain "width" 8 (.integer .CARD16),
    .plain "height" 10 (.integer .CARD16)]

def FreePixmap : Layout := .plain "FreePixmap" 54 [] 4 [.plain "pixmap" 0 .ResourceId]

def CreateGC : Layout where
  name := "CreateGC"
  opcode := some 55
  head := coded []
  encodingSz := 12
  encoding :=
    [.plain "cid" 0 .ResourceId,.plain "drawable" 4 .DRAWABLE,
      ⟨⟨"value-mask",8,.integer .CARD32,gc_value_mask⟩,true,true⟩]
  compared := false
  tail := values gcMembers ⟨true,8,4⟩ (by decide) gcMembers_usable

def ChangeGC : Layout where
  name := "ChangeGC"
  opcode := some 56
  head := coded []
  encodingSz := 8
  encoding :=
    [.plain "gc" 0 .ResourceId,⟨⟨"value-mask",4,.integer .CARD32,gc_value_mask⟩,true,true⟩]
  compared := false
  tail := values gcMembers ⟨true,4,4⟩ (by decide) gcMembers_usable

def CopyGC : Layout := .plain "CopyGC" 57 [] 12
  [.plain "src-gc" 0 .ResourceId,.plain "dst-gc" 4 .ResourceId,
    .flags "value-mask" 8 (.integer .CARD32) gc_value_mask]

def SetDashes : Layout where
  name := "SetDashes"
  opcode := some 58
  head := coded []
  encodingSz := 8
  encoding :=
    [.plain "gc" 0 .ResourceId,.plain "dash-offset" 4 (.integer .CARD16),
      .hidden "(dashes length)" 6 (.integer .CARD16)]
  compared := false
  tail := counted CARD8 ⟨true,6,2⟩ .rest (by decide) (by decide)

def SetClipRectangles : Layout where
  name := "SetClipRectangles"
  opcode := some 59
  head := coded [.named "ordering" 1 (.integer .CARD8) SetClipRectangles.ordering_names]
  encodingSz := 8
  encoding :=
    [.plain "gc" 0 .ResourceId,.plain "clip-x-origin" 4 (.integer .INT16),
      .plain "clip-y-origin" 6 (.integer .INT16)]
  compared := false
  tail := inferred RECTANGLE

def FreeGC : Layout := .plain "FreeGC" 60 [] 4 [.plain "gc" 0 .ResourceId]

def ClearArea : Layout := .plain "ClearArea" 61 [.plain "exposures" 1 .BOOL] 12
  [.plain "window" 0 .ResourceId,.plain "x" 4 (.integer .INT16),.plain "y" 6 (.integer .INT16),
    .plain "width" 8 (.integer .CARD16),.plain "height" 10 (.integer .CARD16)]

def CopyArea : Layout := .plain "CopyArea" 62 [] 24
  [.plain "src-drawable" 0 .DRAWABLE,.plain "dst-drawable" 4 .DRAWABLE,.plain "gc" 8 .ResourceId,
    .plain "src-x" 12 (.integer .INT16),.plain "src-y" 14 (.integer .INT16),
    .plain "dst-x" 16 (.integer .INT16),.plain "dst-y" 18 (.integer .INT16),
    .plain "width" 20 (.integer .CARD16),.plain "height" 22 (.integer .CARD16)]

def CopyPlane : Layout := .plain "CopyPlane" 63 [] 28
  [.plain "src-drawable" 0 .DRAWABLE,.plain "dst-drawable" 4 .DRAWABLE,.plain "gc" 8 .ResourceId,
    .plain "src-x" 12 (.integer .INT16),.plain "src-y" 14 (.integer .INT16),
    .plain "dst-x" 16 (.integer .INT16),.plain "dst-y" 18 (.integer .INT16),
    .plain "width" 20 (.integer .CARD16),.plain "height" 22 (.integer .CARD16),
    .plain "bit-plane" 24 (.integer .CARD32)]

def PolySegment : Layout where
  name := "PolySegment"
  opcode := some 66
  head := coded []
  encodingSz := 8
  encoding := [.plain "drawable" 0 .DRAWABLE,.plain "gc" 4 .ResourceId]
  compared := true
  tail := inferred SEGMENT

def PolyRectangle : Layout where
  name := "PolyRectangle"
  opcode := some 67
  head := coded []
  encodingSz := 8
  encoding := [.plain "drawable" 0 .DRAWABLE,.plain "gc" 4 .ResourceId]
  compared := true
  tail := inferred RECTANGLE

def FillPoly : Layout where
  name := "FillPoly"
  opcode := some 69
  head := coded []
  encodingSz := 12
  encoding :=
    [.plain "drawable" 0 .DRAWABLE,.plain "gc" 4 .ResourceId,
      .named "shape" 8 (.integer .CARD8) FillPoly.shape_names,
      .named "coordinate-mode" 9 (.integer .CARD8) Reader.coordinateModeNames]
  compared := true
  tail := inferred POINT

def PolyFillRectangle : Layout where
  name := "PolyFillRectangle"
  opcode := some 70
  head := coded []
  encodingSz := 8
  encoding := [.plain "drawable" 0 .DRAWABLE,.plain "gc" 4 .ResourceId]
  compared := true
  tail := inferredFromEncoding RECTANGLE

def PolyFillArc : Layout where
  name := "PolyFillArc"
  opcode := some 71
  head := coded []
  encodingSz := 8
  encoding := [.plain "drawable" 0 .DRAWABLE,.plain "gc" 4 .ResourceId]
  compared := true
  tail := inferredFromEncoding ARC

def PutImage : Layout where
  name := "PutImage"
  opcode := some 72
  head := coded [.named "format" 1 (.integer .CARD8) image_format]
  encodingSz := 20
  encoding :=
    [.plain "drawable" 0 .DRAWABLE,.plain "gc" 4 .ResourceId,.plain "width" 8 (.integer .CARD16),
      .plain "height" 10 (.integer .CARD16),.plain "dst-x" 12 (.integer .INT16),
      .plain "dst-y" 14 (.integer .INT16),.plain "left-pad" 16 (.integer .CARD8),
      .plain "depth" 17 (.integer .CARD8)]
  compared := true
  tail := skipped true (by decide)

def GetImage : Layout := .plain "GetImage" 73
  [.named "format" 1 (.integer .CARD8) (image_format.upFrom 1 (by decide))] 16
  [.plain "drawable" 0 .DRAWABLE,.plain "x" 4 (.integer .INT16),.plain "y" 6 (.integer .INT16),
    .plain "width" 8 (.integer .CARD16),.plain "height" 10 (.integer .CARD16),
    .flags "plane-mask" 12 (.integer .CARD32) .none]

def PolyText8 : Layout where
  name := "PolyText8"
  opcode := some 74
  head := coded []
  encodingSz := 12
  encoding :=
    [.plain "drawable" 0 .DRAWABLE,.plain "gc" 4 .ResourceId,.plain "x" 8 (.integer .INT16),
      .plain "y" 10 (.integer .INT16)]
  compared := true
  tail := textItems8

def PolyText16 : Layout where
  name := "PolyText16"
  opcode := some 75
  head := coded []
  encodingSz := 12
  encoding :=
    [.plain "drawable" 0 .DRAWABLE,.plain "gc" 4 .ResourceId,.plain "x" 8 (.integer .INT16),
      .plain "y" 10 (.integer .INT16)]
  compared := true
  tail := textItems16

def ImageText8 : Layout where
  name := "ImageText8"
  opcode := some 76
  head := coded [.hidden "(string length)" 1 (.integer .CARD8)]
  encodingSz := 12
  encoding :=
    [.plain "drawable" 0 .DRAWABLE,.plain "gc" 4 .ResourceId,.plain "x" 8 (.integer .INT16),
      .plain "y" 10 (.integer .INT16)]
  compared := false
  tail := text "string" ⟨false,1,1⟩ (by decide) (by decide)

def ImageText16 : Layout where
  name := "ImageText16"
  opcode := some 77
  head := coded [.hidden "(string len (CHAR2B))" 1 (.integer .CARD8)]
  encodingSz := 12
  encoding :=
    [.plain "drawable" 0 .DRAWABLE,.plain "gc" 4 .ResourceId,.plain "x" 8 (.integer .INT16),
      .plain "y" 10 (.integer .INT16)]
  compared := false
  tail := counted CHAR2B ⟨false,1,1⟩ .exact (by decide) (by decide)

def CreateColormap : Layout := .plain "CreateColormap" 78
  [.named "alloc" 1 (.integer .CARD8) CreateColormap.alloc_names] 12
  [.plain "mid" 0 .ResourceId,.plain "window" 4 .ResourceId,.plain "visual" 8 .ResourceId]

def CopyColormapAndFree : Layout := .plain "CopyColormapAndFree" 80 [] 8
  [.plain "mid" 0 .ResourceId,.plain "src-cmap" 4 .ResourceId]

def AllocColor : Layout := .plain "AllocColor" 84 [] 12
  [.plain "cmap" 0 .ResourceId,.plain "red" 4 (.integer .CARD16),
    .plain "green" 6 (.integer .CARD16),.plain "blue" 8 (.integer .CARD16)]

def AllocNamedColor : Layout where
  name := "AllocNamedColor"
  opcode := some 85
  head := coded []
  encodingSz := 8
  encoding := [.plain "cmap" 0 .ResourceId,.hidden "(name length)" 4 (.integer .CARD16)]
  compared := false
  tail := text "name" ⟨true,4,2⟩ (by decide) (by decide)

def AllocColorCells : Layout := .plain "AllocColorCells" 86 [.plain "contiguous" 1 .BOOL] 8
  [.plain "cmap" 0 .ResourceId,.plain "colors" 4 (.integer .CARD16),
    .plain "planes" 6 (.integer .CARD16)]

def AllocColorPlanes : Layout := .plain "AllocColorPlanes" 87 [.plain "contiguous" 1 .BOOL] 12
  [.plain "cmap" 0 .ResourceId,.plain "colors" 4 (.integer .CARD16),
    .plain "reds" 6 (.integer .CARD16),.plain "greens" 8 (.integer .CARD16),
    .plain "blues" 10 (.integer .CARD16)]

def FreeColors : Layout where
  name := "FreeColors"
  opcode := some 88
  head := coded []
  encodingSz := 8
  encoding := [.plain "cmap" 0 .ResourceId,.flags "plane-mask" 4 (.integer .CARD32) .none]
  compared := true
  tail := inferred CARD32

def StoreColors : Layout where
  name := "StoreColors"
  opcode := some 89
  head := coded []
  encodingSz := 4
  encoding := [.plain "cmap" 0 .ResourceId]
  compared := true
  tail := inferred COLORITEM

def StoreNamedColor : Layout where
  name := "StoreNamedColor"
  opcode := some 90
  head := coded [.flags "(do rgb mask)" 1 (.integer .CARD8) do_rgb_mask]
  encodingSz := 12
  encoding :=
    [.plain "cmap" 0 .ResourceId,.plain "pixel" 4 (.integer .CARD32),
      .hidden "(name length)" 8 (.integer .CARD16)]
  compared := false
  tail := text "name" ⟨true,8,2⟩ (by decide) (by decide)

def QueryColors : Layout where
  name := "QueryColors"
  opcode := some 91
  head := coded []
  encodingSz := 4
  encoding := [.plain "cmap" 0 .ResourceId]
  compared := true
  tail := inferred CARD32

def LookupColor : Layout where
  name := "LookupColor"
  opcode := some 92
  head := coded []
  encodingSz := 8
  encoding := [.plain "cmap" 0 .ResourceId,.hidden "(name length)" 4 (.integer .CARD16)]
  compared := false
  tail := text "name" ⟨true,4,2⟩ (by decide) (by decide)

def CreateCursor : Layout := .plain "CreateCursor" 93 [] 28
  [.plain "cid" 0 .ResourceId,.plain "source" 4 .ResourceId,.named "mask" 8 .ResourceId zero_none,
    .plain "fore-red" 12 (.integer .CARD16),.plain "fore-green" 14 (.integer .CARD16),
    .plain "fore-blue" 16 (.integer .CARD16),.plain "back-red" 18 (.integer .CARD16),
    .plain "back-green" 20 (.integer .CARD16),.plain "back-blue" 22 (.integer .CARD16),
    .plain "x" 24 (.integer .CARD16),.plain "y" 26 (.integer .CARD16)]

def CreateGlyphCursor : Layout := .plain "CreateGlyphCursor" 94 [] 28
  [.plain "cid" 0 .ResourceId,.plain "source-font" 4 .ResourceId,
    .named "mask-font" 8 .ResourceId zero_none,.plain "source-char" 12 (.integer .CARD16),
    .plain "mask-char" 14 (.integer .CARD16),.plain "fore-red" 16 (.integer .CARD16),
    .plain "fore-green" 18 (.integer .CARD16),.plain "fore-blue" 20 (.integer .CARD16),
    .plain "back-red" 22 (.integer .CARD16),.plain "back-green" 24 (.integer .CARD16),
    .plain "back-blue" 26 (.integer .CARD16)]

def FreeCursor : Layout := .plain "FreeCursor" 95 [] 4 [.plain "cursor" 0 .ResourceId]

def RecolorCursor : Layout := .plain "RecolorCursor" 96 [] 16
  [.plain "cursor" 0 .ResourceId,.plain "fore-red" 4 (.integer .CARD16),
    .plain "fore-green" 6 (.integer .CARD16),.plain "fore-blue" 8 (.integer .CARD16),
    .plain "back-red" 10 (.integer .CARD16),.plain "back-green" 12 (.integer .CARD16),
    .plain "back-blue" 14 (.integer .CARD16)]

def QueryBestSize : Layout := .plain "QueryBestSize" 97
  [.named "class" 1 (.integer .CARD8) QueryBestSize.class_names] 8
  [.plain "drawable" 0 .DRAWABLE,.plain "width" 4 (.integer .CARD16),
    .plain "height" 6 (.integer .CARD16)]

def ChangeKeyboardMapping : Layout where
  name := "ChangeKeyboardMapping"
  opcode := some 100
  head := coded [.plain "keycode-count" 1 (.integer .CARD8)]
  encodingSz := 4
  encoding := [.plain "first-keycode" 0 .KEYCODE,.plain "keysyms-per-keycode" 1 (.integer .CARD8)]
  compared := true
  tail := expected KEYSYM (.field ⟨false,1,1⟩) (.field ⟨true,1,1⟩) (by decide) (by decide) (by decide)

def GetKeyboardMapping : Layout := .plain "GetKeyboardMapping" 101 [] 4
  [.plain "first-keycode" 0 .KEYCODE,.plain "count" 1 (.integer .CARD8)]

def ChangeKeyboardControl : Layout where
  name := "ChangeKeyboardControl"
  opcode := some 102
  head := coded []
  encodingSz := 4
  encoding := [⟨⟨"value-mask",0,.integer .CARD32,.none⟩,true,true⟩]
  compared := false
  tail := values keyboardControlMembers ⟨true,0,4⟩ (by decide) keyboardControlMembers_usable

def Bell : Layout := .plain "Bell" 104 [.plain "percent" 1 (.integer .INT8)] 0 []

def ChangePointerControl : Layout := .plain "ChangePointerControl" 105 [] 8
  [.plain "acceleration-numerator" 0 (.integer .INT16),
    .plain "acceleration-denominator" 2 (.integer .INT16),.plain "threshold" 4 (.integer .INT16),
    .plain "do-acceleration" 6 .BOOL,.plain "do-threshold" 7 .BOOL]

def SetScreenSaver : Layout := .plain "SetScreenSaver" 107 [] 8
  [.plain "timeout" 0 (.integer .INT16),.plain "interval" 2 (.integer .INT16),
    .named "prefer-blanking" 4 (.integer .CARD8) no_yes,
    .named "allow-exposures" 5 (.integer .CARD8) no_yes]

def ChangeHosts : Layout where
  name := "ChangeHosts"
  opcode := some 109
  head := coded [.named "mode" 1 (.integer .CARD8) ChangeHosts.mode_names]
  encodingSz := 4
  encoding :=
    [.named "family" 0 (.integer .CARD8) (host_family.upTo 2 (by decide)),
      .hidden "(address length)" 2 (.integer .CARD16)]
  compared := true
  tail := counted CARD8 ⟨true,2,2⟩ .inferred (by decide) (by decide)

def SetAccessControl : Layout := .plain "SetAccessControl" 111
  [.named "mode" 1 (.integer .CARD8) SetAccessControl.mode_names] 0 []

def SetCloseDownMode : Layout := .plain "SetCloseDownMode" 112
  [.named "mode" 1 (.integer .CARD8) SetCloseDownMode.mode_names] 0 []

def KillClient : Layout := .plain "KillClient" 113 [] 4
  [.named "resource" 0 (.integer .CARD32) KillClient.resource_names]

def RotateProperties : Layout where
  name := "RotateProperties"
  opcode := some 114
  head := coded []
  encodingSz := 8
  encoding :=
    [.plain "window" 0 .ResourceId,.hidden "(ATOMs in properties)" 4 (.integer .CARD16),
      .plain "delta" 6 (.integer .INT16)]
  compared := true
  tail := counted ATOM ⟨true,4,2⟩ .inferred (by decide) (by decide)

def ForceScreenSaver : Layout := .plain "ForceScreenSaver" 115
  [.named "mode" 1 (.integer .CARD8) ForceScreenSaver.mode_names] 0 []

def SetPointerMapping : Layout where
  name := "SetPointerMapping"
  opcode := some 116
  head := coded [.hidden "(map length)" 1 (.integer .CARD8)]
  encodingSz := 0
  encoding := []
  compared := true
  tail := counted CARD8 ⟨false,1,1⟩ .inferred (by decide) (by decide)

def SetModifierMapping : Layout where
  name := "SetModifierMapping"
  opcode := some 118
  head := coded [.plain "keycodes-per-modifier" 1 (.integer .CARD8)]
  encodingSz := 0
  encoding := []
  compared := true
  tail := expected KEYCODE (.constant 8) (.field ⟨false,1,1⟩) trivial (by decide) (by decide)

def NoOperation : Layout where
  name := "NoOperation"
  opcode := some 127
  head := coded []
  encodingSz := 0
  encoding := []
  compared := true
  tail := skipped false (by decide)

/-- The members of PolyArc, whose list does not begin where it is framed. -/
def PolyArc : Layout := .plain "PolyArc" 68 [] 8 [.plain "drawable" 0 .DRAWABLE,.plain "gc" 4 .ResourceId]

end Requests

/-- The functions of the table: those with a layout, and those that check an opcode and call
another. -/
inductive RequestType
  | own (layout : Layout)
  | derived (name : String) (opcode : UInt8) (layout : Layout)
  | polyPoint (name : String) (opcode : UInt8)
  | changeProperty
  | polyArc

def RequestType.opcode : RequestType → UInt8
  | .own layout => layout.opcode.getD 0
  | .derived _ opcode _ | .polyPoint _ opcode => opcode
  | .changeProperty => 18
  | .polyArc => 68

namespace Requests

/-- The requests without the two that have effects of their own. -/
def requests : List RequestType :=
  [.own CreateWindow,.own ChangeWindowAttributes,
    .derived "GetWindowAttributes" 3 SimpleWindowRequest,
    .derived "DestroyWindow" 4 SimpleWindowRequest,
    .derived "DestroySubwindows" 5 SimpleWindowRequest,.own ChangeSaveSet,.own ReparentWindow,
    .derived "MapWindow" 8 SimpleWindowRequest,.derived "MapSubwindows" 9 SimpleWindowRequest,
    .derived "UnmapWindow" 10 SimpleWindowRequest,.derived "UnmapSubwindows" 11 SimpleWindowRequest,
    .own ConfigureWindow,.own CirculateWindow,.own GetGeometry,
    .derived "QueryTree" 15 SimpleWindowRequest,.own GetAtomName,.changeProperty,
    .own DeleteProperty,.own GetProperty,.derived "ListProperties" 21 SimpleWindowRequest,
    .own SetSelectionOwner,.own GetSelectionOwner,.own ConvertSelection,.own SendEvent,
    .own GrabPointer,.own UngrabPointer,.own GrabButton,.own UngrabButton,
    .own ChangeActivePointerGrab,.own GrabKeyboard,.own UngrabKeyboard,.own GrabKey,.own UngrabKey,
    .own AllowEvents,.derived "GrabServer" 36 SimpleRequest,
    .derived "UngrabServer" 37 SimpleRequest,.derived "QueryPointer" 38 SimpleWindowRequest,
    .own GetMotionEvents,.own TranslateCoordinates,.own WarpPointer,.own SetInputFocus,
    .derived "GetInputFocus" 43 SimpleRequest,.derived "QueryKeymap" 44 SimpleRequest,.own OpenFont,
    .own CloseFont,.own QueryFont,.own QueryTextExtents,.derived "ListFonts" 49 ListFontsRequest,
    .derived "ListFontsWithInfo" 50 ListFontsRequest,.own SetFontPath,
    .derived "GetFontPath" 52 SimpleRequest,.own CreatePixmap,.own FreePixmap,.own CreateGC,
    .own ChangeGC,.own CopyGC,.own SetDashes,.own SetClipRectangles,.own FreeGC,.own ClearArea,
    .own CopyArea,.own CopyPlane,.polyPoint "PolyPoint" 64,.polyPoint "PolyLine" 65,
    .own PolySegment,.own PolyRectangle,.polyArc,.own FillPoly,.own PolyFillRectangle,
    .own PolyFillArc,.own PutImage,.own GetImage,.own PolyText8,.own PolyText16,.own ImageText8,
    .own ImageText16,.own CreateColormap,.derived "FreeColormap" 79 SimpleCmapRequest,
    .own CopyColormapAndFree,.derived "InstallColormap" 81 SimpleCmapRequest,
    .derived "UninstallColormap" 82 SimpleCmapRequest,
    .derived "ListInstalledColormaps" 83 SimpleWindowRequest,.own AllocColor,.own AllocNamedColor,
    .own AllocColorCells,.own AllocColorPlanes,.own FreeColors,.own StoreColors,
    .own StoreNamedColor,.own QueryColors,.own LookupColor,.own CreateCursor,.own CreateGlyphCursor,
    .own FreeCursor,.own RecolorCursor,.own QueryBestSize,
    .derived "ListExtensions" 99 SimpleRequest,.own ChangeKeyboardMapping,.own GetKeyboardMapping,
    .own ChangeKeyboardControl,.derived "GetKeyboardControl" 103 SimpleRequest,.own Bell,
    .own ChangePointerControl,.derived "GetPointerControl" 106 SimpleRequest,.own SetScreenSaver,
    .derived "GetScreenSaver" 108 SimpleRequest,.own ChangeHosts,
    .derived "ListHosts" 110 SimpleRequest,.own SetAccessControl,.own SetCloseDownMode,
    .own KillClient,.own RotateProperties,.own ForceScreenSaver,.own SetPointerMapping,
    .derived "GetPointerMapping" 117 SimpleRequest,.own SetModifierMapping,
    .derived "GetModifierMapping" 119 SimpleRequest,.own NoOperation]

end Requests

/-- The parse function of an opcode. -/
def requestType (code : UInt8) : Option RequestType :=
  Requests.requests.find? fun type => type.opcode == code

namespace RequestType
open Formatting ListParsing CountedLists

def encodingSz : RequestType → Nat
  | .own layout | .derived _ _ layout => layout.encodingSz
  | .polyPoint _ _ | .polyArc => 8
  | .changeProperty => 20

end RequestType

open CountedLists in
/-- `_parseRequest` of a request that is derived from another. -/
def parseDerived (name : String) (opcode : UInt8) (parseBase : List UInt8 → Nat → Checked Outputs)
    (data : List UInt8) (sz : Nat) : Checked Outputs := do
  assert ("sz >= sizeof( " ++ name ++ "::Prefix )") (2 ≤ sz)
  checkOpcode (some opcode) data
  parseBase data sz

end Encodings

namespace CountedLists.Reader
open Formatting ListParsing Encodings

variable (reader : Reader)

/-- `_parseRequest< PolyArc >`: the size is taken off the units. -/
def parsePolyArc (data : List UInt8) (sz : Nat) : Checked Outputs := do
  assert "sz >= PolyArc::BASE_ENCODING_SZ" (12 ≤ sz)
  let fe ← reader.fixedEncoding 8 data sz
  checkOpcode Requests.PolyArc.opcode data
  let tl_aligned_units ← reader.tl_aligned_units data fe.big_request
  let arcs_sz := sub64 tl_aligned_units (if fe.big_request then 16 else 12)
  let arcs ← parseLISTofUint16 (Requests.ARC.parse reader) (data.drop fe.bytes_parsed) arcs_sz
    (arcs_sz / 12)
  let bytes_parsed := (fe.bytes_parsed + Alignment.pad arcs.bytes_parsed) % 2^32
  assert "tl_aligned_units == Alignment::units( request.bytes_parsed )"
    (tl_aligned_units = Alignment.units bytes_parsed)
  let text ← reader.formatMembers data (Requests.PolyArc.members fe.big_request)
  return ⟨[arcs.members],text,bytes_parsed⟩

/-- `_parseRequest< BigReqEnable >`. -/
def parseBigReqEnable (data : List UInt8) (sz : Nat) : Checked Outputs := do
  assert "sz >= sizeof( BigReqEnable::Prefix )" (2 ≤ sz)
  let minor_opcode ← byteAt data 1
  assert "minor_opcode == ext::big_requests::requests::opcodes::BIGREQENABLE" (minor_opcode = 0)
  reader.parseLayout Requests.ExtensionRequest data sz

def parseRequestType : RequestType → List UInt8 → Nat → Checked Outputs
  | .own layout => reader.parseLayout layout
  | .derived name opcode layout => parseDerived name opcode (reader.parseLayout layout)
  | .polyPoint name opcode => parseDerived name opcode reader.parsePolyPoint
  | .changeProperty => reader.parseChangeProperty
  | .polyArc => reader.parsePolyArc

/-- The function of an entry of the table. -/
def parseRequestCode (code : UInt8) (data : List UInt8) (sz : Nat) : Checked Outputs :=
  match requestType code with
  | none => .error (.undefined "traits.request_parse_func")
  | some type => reader.parseRequestType type data sz

end CountedLists.Reader

namespace Encodings
open Formatting ListParsing CountedLists

namespace RequestType

/-- A message that has room for the suffix that its counts tell, with the lengths of the lists
of that. -/
def Formed (type : RequestType) (reader : Reader) (big_request : Bool) (message : List UInt8)
    (counts : List Nat) : Prop :=
  match type with
  | .own layout | .derived _ _ layout => layout.tail.Formed reader big_request message counts
  | .polyPoint _ _ => ∃ count < 2^16,counts = [count] ∧
      message.length = start big_request + 8 + 4 * count
  | .changeProperty => reader.value message (start big_request + 12) 1 ∈ [0,8,16,32] ∧
      ∃ length,length = reader.value message (start big_request + 16) 4 *
          (reader.value message (start big_request + 12) 1 / 8) ∧
        message.length = start big_request + 20 + padded length ∧
          if reader.value message (start big_request + 8) 4 = STRING then counts = []
          else counts = [length] ∧ length < 2^16
  | .polyArc => ∃ count < 2^16,counts = [count] ∧
      message.length = start big_request + 8 + 12 * count

/-- What the host has to see in a message for its request to be parsed. -/
def Accepts (type : RequestType) (reader : Reader) (big_request : Bool) (message : List UInt8) : Prop :=
  match type with
  | .own layout | .derived _ _ layout =>
    (∀ member ∈ layout.members big_request,member.Accepts reader.littleEndian message) ∧
      layout.tail.Accepts reader big_request message
  | .polyPoint _ _ => ∀ offset ∈ [start big_request,start big_request + 4],
      Clear reader.littleEndian message offset
  | .changeProperty => ∀ offset ∈ [start big_request,start big_request + 4,start big_request + 8],
      Clear reader.littleEndian message offset
  | .polyArc => False

/-- The layouts fit, and a shared one has no opcode of its own. -/
def usable : RequestType → Bool
  | .own layout => layout.usable && layout.opcode.isSome
  | .derived _ _ layout => layout.usable && layout.opcode.isNone
  | _ => true

end RequestType
end Encodings
end Xtracepp
