import Xtracepp.Formatting

/-! Enum names shared by several members of the encodings, and ranges that leave out some.
-/
namespace Xtracepp

namespace Formatting

namespace EnumNameRange

/-- `{ names, _EnumNameRange::Bound::MAX, max }` -/
def upTo (range : EnumNameRange) (max : Nat) (inside : max < range.names.length) : EnumNameRange :=
  ⟨range.names,0,max,.inr ⟨Nat.zero_le _,inside⟩⟩

/-- `{ names, _EnumNameRange::Bound::MIN, min }` -/
def upFrom (range : EnumNameRange) (min : Nat) (inside : min < range.names.length) : EnumNameRange :=
  ⟨range.names,min,range.names.length - 1,.inr (by omega)⟩

end EnumNameRange

/-! `protocol::enum_names`. -/

def host_family : EnumNameRange :=
  .all "Internet" ["DECnet","Chaos","","","ServerInterpreted","InternetV6"]
def window_class : EnumNameRange := .all "CopyFromParent" ["InputOutput","InputOnly"]
def change_mode : EnumNameRange := .all "Insert" ["Delete"]
def window_value_mask : EnumNameRange :=
  .all "x" ["y","width","height","border-width","sibling","stack-mode"]
def grab_status : EnumNameRange :=
  .all "Success" ["AlreadyGrabbed","InvalidTime","NotViewable","Frozen"]
def input_mode : EnumNameRange := .all "Synchronous" ["Asynchronous"]
def input_focus : EnumNameRange := .all "None" ["PointerRoot","Parent"]
def gc_value_mask : EnumNameRange :=
  .all "function" ["plane-mask","foreground","background","line-width","line-style","cap-style",
    "join-style","fill-style","fill-rule","tile","stipple","tile-stipple-x-origin",
    "tile-stipple-y-origin","font","subwindow-mode","graphics-exposures","clip-x-origin",
    "clip-y-origin","clip-mask","dash-offset","dashes","arc-mode"]
def gc_value_function : EnumNameRange :=
  .all "Clear" ["And","AndReverse","Copy","AndInverted","NoOp","Xor","Or","Nor","Equiv","Invert",
    "OrReverse","CopyInverted","OrInverted","Nand","Set"]
def gc_value_line_style : EnumNameRange := .all "Solid" ["OnOffDash","DoubleDash"]
def gc_value_cap_style : EnumNameRange := .all "NotLast" ["Butt","Round","Projecting"]
def gc_value_join_style : EnumNameRange := .all "Miter" ["Round","Bevel"]
def gc_value_fill_style : EnumNameRange := .all "Solid" ["Tiled","Stippled","OpaqueStippled"]
def gc_value_fill_rule : EnumNameRange := .all "EvenOdd" ["Winding"]
def gc_value_subwindow_mode : EnumNameRange := .all "ClipByChildren" ["IncludeInferiors"]
def gc_value_arc_mode : EnumNameRange := .all "Chord" ["PieSlice"]
def image_format : EnumNameRange := .all "Bitmap" ["XYPixmap","ZPixmap"]
def do_rgb_mask : EnumNameRange := .all "do-red" ["do-green","do-blue"]
def off_on : EnumNameRange := .all "Off" ["On","Default"]
def no_yes : EnumNameRange := .all "No" ["Yes","Default"]
def mapping_status : EnumNameRange := .all "Success" ["Busy","Failed"]
def focus_mode : EnumNameRange := .all "Normal" ["Grab","Ungrab","WhileGrabbed"]
def focus_same_screen_mask : EnumNameRange := .all "focus" ["same-screen"]
def focus_detail : EnumNameRange :=
  .all "Ancestor" ["Virtual","Inferior","Nonlinear","NonlinearVirtual","Pointer","PointerRoot",
    "None"]
def circulate_place : EnumNameRange := .all "Top" ["Bottom"]

end Formatting
end Xtracepp
