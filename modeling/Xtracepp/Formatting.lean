import Xtracepp.ListParsing

/-! The text of single values: `_ordered`, `_EnumNameRange` and the overloads of
`_formatVariable` for integers and the protocol types that wrap one. A value is given by
the integer that the host loads from its bytes.
-/
namespace Xtracepp
open Library.Outcome

namespace Formatting

/-- The bytes of an integer, least significant first. -/
def encode : Nat → Nat → List UInt8
  | 0,_ => []
  | size + 1,value => UInt8.ofNat value :: encode size (value / 256)

/-- `__builtin_bswap16`, `__builtin_bswap32` and `__builtin_bswap64`, by size. -/
def bswap (size value : Nat) : Nat := leastFirst (encode size value).reverse

def ordered (size value : Nat) (byteswap : Bool) : Nat :=
  if byteswap then bswap size value else value

section bytes

variable {size value other : Nat}

theorem encode_length : (encode size value).length = size := by
  induction size generalizing value with
  | zero => rfl
  | succ size ih => rw [encode,List.length_cons,ih]

theorem leastFirst_encode (small : value < 256 ^ size) : leastFirst (encode size value) = value := by
  induction size generalizing value with
  | zero =>
    rw [Nat.pow_zero] at small
    simp only [encode,leastFirst]
    omega
  | succ size ih =>
    have rest : value / 256 < 256 ^ size := Nat.div_lt_of_lt_mul (by rwa [Nat.pow_succ'] at small)
    rw [encode,leastFirst,ih rest,UInt8.toNat_ofNat']
    omega

theorem encode_leastFirst (bytes : List UInt8) : encode bytes.length (leastFirst bytes) = bytes := by
  induction bytes with
  | nil => rfl
  | cons byte bytes ih =>
    have small : byte.toNat < 256 := byte.toNat_lt
    have first : UInt8.ofNat (byte.toNat + 256 * leastFirst bytes) = byte := by
      apply UInt8.toNat.inj
      rw [UInt8.toNat_ofNat']
      omega
    have rest : (byte.toNat + 256 * leastFirst bytes) / 256 = leastFirst bytes := by omega
    rw [List.length_cons,leastFirst,encode,first,rest,ih]

theorem bswap_lt : bswap size value < 256 ^ size := by
  have bound := leastFirst_lt (encode size value).reverse
  rwa [List.length_reverse,encode_length] at bound

theorem bswap_bswap (small : value < 256 ^ size) : bswap size (bswap size value) = value := by
  have back := encode_leastFirst (encode size value).reverse
  rw [List.length_reverse,encode_length] at back
  rw [bswap,bswap,back,List.reverse_reverse,leastFirst_encode small]

theorem bswap_one (small : value < 256 ^ 1) : bswap 1 value = value :=
  @leastFirst_encode 1 value small

end bytes

/-- The integral types of the protocol. -/
inductive IntT
  | INT8 | INT16 | INT32 | CARD8 | CARD16 | CARD32
  deriving DecidableEq, Repr

def IntT.size : IntT → Nat
  | .INT8 | .CARD8 => 1
  | .INT16 | .CARD16 => 2
  | .INT32 | .CARD32 => 4

def IntT.signed : IntT → Bool
  | .INT8 | .INT16 | .INT32 => true
  | .CARD8 | .CARD16 | .CARD32 => false

/-- The value of the bits in two's complement if signed. -/
def IntT.val (type : IntT) (bits : Nat) : Int :=
  if type.signed && decide (256 ^ type.size ≤ 2 * bits) then (bits : Int) - 256 ^ type.size else bits

/-- `_EnumNameRange`, with what its constructors assert. -/
structure EnumNameRange where
  names : List String
  min : Nat
  max : Nat
  valid : names = [] ∨ min ≤ max ∧ max < names.length

namespace EnumNameRange

/-- `{}` -/
def none : EnumNameRange := ⟨[],2^32 - 1,2^32 - 1,.inl rfl⟩

/-- The range of all the names. -/
def all (name : String) (names : List String) : EnumNameRange :=
  ⟨name :: names,0,names.length,.inr ⟨Nat.zero_le _,Nat.lt_succ_self _⟩⟩

def empty (range : EnumNameRange) : Bool := range.names.isEmpty

/-- `in`. -/
def has (range : EnumNameRange) (val : Int) : Bool :=
  decide (0 ≤ val) && !range.empty && decide (range.min ≤ val.toNat) && decide (val.toNat ≤ range.max)

/-- `at`. -/
def name (range : EnumNameRange) (val : Int) : String :=
  if range.has val then range.names.getD val.toNat "" else ""

end EnumNameRange

/-- The settings, the interned atoms and the library functions that the text depends on:
`fmt` for a quoted string, and `localtime` with the format of a date. -/
structure Context where
  verbose : Bool
  systemtimeformat : Bool
  ref_TIMESTAMP : Nat
  ref_unix_time : Int
  interned_atoms : Nat → Option String
  quoted : String → String
  localtime : Int → String

def hexDigits : Nat → Nat → List Char
  | 0,_ => []
  | count + 1,value => hexDigits count (value / 16) ++ [Nat.digitChar (value % 16)]

/-- `{:#0{}x}` with the width from `_fmtHexWidth`. -/
def hexString (size value : Nat) : String := "0x" ++ String.ofList (hexDigits (2 * size) value)

/-- `{}({})` -/
def bracketed (outer inner : String) : String := outer ++ "(" ++ inner ++ ")"

/-- One round of the loop over the flags. -/
def appendFlag (range : EnumNameRange) (val : Nat) (flags : String) (i : Nat) : Checked String :=
  if i < 32 then return if val.testBit i then
    flags ++ (if flags = "" then "" else ",") ++ range.name i else flags
  else .error (.undefined "1 << i")

def flagString (range : EnumNameRange) (val : Nat) : Checked String :=
  if range.empty then return ""
  else (List.range' range.min (range.max + 1 - range.min)).foldlM (appendFlag range val) ""

/-- The text of a bitmask. -/
def maskText (context : Context) (hex flags : String) : String :=
  if flags = "" then hex else if context.verbose then bracketed hex flags else flags

/-- The text of a value with a name, or of another one. -/
def valueText (context : Context) (hex name : String) (val : Int) : String :=
  if name ≠ "" then if context.verbose then bracketed hex name else name
  else if context.verbose then bracketed hex (toString val) else toString val

/-- The text of the ordered bits, next to the hexadecimal text. -/
def integerText (context : Context) (type : IntT) (hex : String) (bits : Nat) (range : EnumNameRange)
    (bitmask : Bool) : Checked String :=
  if bitmask then do
    assert "std::is_unsigned_v< IntT >" (type.signed = false)
    let flags ← flagString range bits
    return maskText context hex flags
  else return valueText context hex (range.name (type.val bits)) (type.val bits)

/-- `_formatVariable` of an `IntT`. -/
def formatInteger (context : Context) (type : IntT) (encodedVal : Nat) (byteswap : Bool)
    (range : EnumNameRange) (bitmask : Bool) : Checked String :=
  integerText context type (hexString type.size encodedVal) (ordered type.size encodedVal byteswap)
    range bitmask

/-! The overloads for protocol types. -/

/-- `protocol::enum_names`. -/
def zero_none : EnumNameRange := .all "None" []
def GetProperty.type_names : EnumNameRange := .all "AnyPropertyType" []
def time : EnumNameRange := .all "CurrentTime" []
def key : EnumNameRange := .all "AnyKey" []
def button : EnumNameRange := .all "AnyButton" []

def BITGRAVITY.enum_names : EnumNameRange := .all "Forget" ["NorthWest","North","NorthEast","West",
  "Center","East","SouthWest","South","SouthEast","Static"]
def WINGRAVITY.enum_names : EnumNameRange := .all "Unmap" ["NorthWest","North","NorthEast","West",
  "Center","East","SouthWest","South","SouthEast","Static"]
def BOOL.enum_names : EnumNameRange := .all "False" ["True"]

def SETofEVENTBase.flag_names : EnumNameRange := .all "KeyPress" ["KeyRelease","ButtonPress",
  "ButtonRelease","EnterWindow","LeaveWindow","PointerMotion","PointerMotionHint","Button1Motion",
  "Button2Motion","Button3Motion","Button4Motion","Button5Motion","ButtonMotion","KeymapState",
  "Exposure","VisibilityChange","StructureNotify","ResizeRedirect","SubstructureNotify",
  "SubstructureRedirect","FocusChange","PropertyChange","ColormapChange","OwnerGrabButton"]
def SETofKEYBUTMASK.flag_names : EnumNameRange := .all "Shift" ["Lock","Control","Mod1","Mod2",
  "Mod3","Mod4","Mod5","Button1","Button2","Button3","Button4","Button5"]

/-- An overload that checks bits of the encoded value first. -/
def formatZeroBits (context : Context) (expression : String) (type : IntT) (zeroBits : Nat)
    (data : Nat) (byteswap : Bool) (range : EnumNameRange) (bitmask : Bool) : Checked String := do
  assert expression (data &&& zeroBits = 0)
  formatInteger context type data byteswap range bitmask

/-- For WINDOW, PIXMAP, CURSOR, FONT, GCONTEXT, COLORMAP and VISUALID. -/
def formatResourceId (context : Context) (data : Nat) (byteswap : Bool) (range : EnumNameRange) :
    Checked String :=
  formatZeroBits context "( var.data & ResourceIdT::ZERO_BITS ) == 0" .CARD32 0xE0000000
    data byteswap range false

def formatDRAWABLE (context : Context) (data : Nat) (byteswap : Bool) (range : EnumNameRange) :
    Checked String :=
  formatZeroBits context "( drawable.window.data & protocol::WINDOW::ZERO_BITS ) == 0" .CARD32
    0xE0000000 data byteswap range false

def formatFONTABLE (context : Context) (data : Nat) (byteswap : Bool) (range : EnumNameRange) :
    Checked String :=
  formatZeroBits context "( fontable.font.data & protocol::FONT::ZERO_BITS ) == 0" .CARD32
    0xE0000000 data byteswap range false

def formatSETofEVENT (context : Context) (data : Nat) (byteswap : Bool) : Checked String :=
  formatZeroBits context "( setofevent.data & protocol::SETofEVENT::ZERO_BITS ) == 0" .CARD32
    0xFE000000 data byteswap SETofEVENTBase.flag_names true

def formatSETofPOINTEREVENT (context : Context) (data : Nat) (byteswap : Bool) : Checked String :=
  formatZeroBits context
    "( setofpointerevent.data & protocol::SETofPOINTEREVENT::ZERO_BITS ) == 0" .CARD16
    0xFFFF8003 data byteswap SETofEVENTBase.flag_names true

def formatSETofDEVICEEVENT (context : Context) (data : Nat) (byteswap : Bool) : Checked String :=
  formatZeroBits context
    "( setofdeviceevent.data & protocol::SETofDEVICEEVENT::ZERO_BITS ) == 0" .CARD16
    0xFFFFC0B0 data byteswap SETofEVENTBase.flag_names true

def formatSETofKEYBUTMASK (context : Context) (data : Nat) (byteswap : Bool) : Checked String :=
  formatZeroBits context "( setofkeybutmask.data & protocol::SETofKEYBUTMASK::ZERO_BITS ) == 0"
    .CARD16 0xE000 data byteswap SETofKEYBUTMASK.flag_names true

/-- `SETofKEYMASK::ANYMODIFIER`. -/
def ANYMODIFIER : Nat := 0x8000

def anymodifier_flag_name : String := "AnyModifier"

/-- The sentinel is looked for in the encoded value. -/
def formatSETofKEYMASK (context : Context) (data : Nat) (byteswap : Bool) : Checked String :=
  if data = ANYMODIFIER then
    if context.verbose then do
      let hex ← formatInteger context .CARD16 data byteswap .none true
      return bracketed hex anymodifier_flag_name
    else return anymodifier_flag_name
  else formatZeroBits context "( setofkeymask.data & protocol::SETofKEYMASK::ZERO_BITS ) == 0"
    .CARD16 0xFF00 data byteswap SETofKEYBUTMASK.flag_names true

/-- The text for an atom number in the table. -/
def atomName (context : Context) (data : Nat) : String :=
  match context.interned_atoms data with
  | some name => context.quoted name
  | none => "unrecognized atom"

/-- Both the range and the table are asked for the encoded value. -/
def formatATOM (context : Context) (data : Nat) (byteswap : Bool) (range : EnumNameRange) :
    Checked String := do
  assert "( atom.data & protocol::ATOM::ZERO_BITS ) == 0" (data &&& 0xE0000000 = 0)
  assert "name_range.names == zero_none || name_range.names == GetProperty::type_names"
    (range.empty = true ∨ range.names = zero_none.names ∨ range.names = GetProperty.type_names.names)
  if range.has data then formatInteger context .CARD32 data byteswap range false
  else do
    let number ← formatInteger context .CARD32 data byteswap .none false
    return bracketed number (atomName context data)

/-- The wall time of a TIMESTAMP. -/
def time_ (context : Context) (data : Nat) : Int :=
  ((data : Int) - context.ref_TIMESTAMP).tdiv 1000 + context.ref_unix_time

def formatTIMESTAMP (context : Context) (data : Nat) (byteswap : Bool) (range : EnumNameRange) :
    Checked String := do
  assert "name_range.names == protocol::enum_names::time"
    (range.empty = true ∨ range.names = time.names)
  let hex ← formatInteger context .CARD32 data byteswap .none true
  return if range.has data then bracketed hex (range.name data)
    else if context.systemtimeformat then bracketed hex (context.localtime (time_ context data))
    else hex

/-- An overload that takes no name range but its own. -/
def formatBITGRAVITY (context : Context) (data : Nat) (byteswap : Bool) : Checked String :=
  formatInteger context .CARD8 data byteswap BITGRAVITY.enum_names false

def formatWINGRAVITY (context : Context) (data : Nat) (byteswap : Bool) : Checked String :=
  formatInteger context .CARD8 data byteswap WINGRAVITY.enum_names false

def formatBOOL (context : Context) (data : Nat) (byteswap : Bool) : Checked String :=
  formatInteger context .CARD8 data byteswap BOOL.enum_names false

def formatKEYSYM (context : Context) (data : Nat) (byteswap : Bool) : Checked String :=
  formatInteger context .CARD32 data byteswap .none true

def formatKEYCODE (context : Context) (data : Nat) (byteswap : Bool) (range : EnumNameRange) :
    Checked String := do
  assert "name_range.names == protocol::enum_names::key" (range.empty = true ∨ range.names = key.names)
  formatInteger context .CARD8 data byteswap range false

def formatBUTTON (context : Context) (data : Nat) (byteswap : Bool) (range : EnumNameRange) :
    Checked String := do
  assert "name_range.names == protocol::enum_names::button"
    (range.empty = true ∨ range.names = button.names)
  formatInteger context .CARD8 data byteswap range false

/-- The types that an integer is formatted as. -/
inductive Scalar
  | integer (type : IntT)
  | ResourceId | DRAWABLE | FONTABLE | ATOM | TIMESTAMP | BITGRAVITY | WINGRAVITY | BOOL
  | SETofEVENT | SETofPOINTEREVENT | SETofDEVICEEVENT | KEYSYM | KEYCODE | BUTTON
  | SETofKEYBUTMASK | SETofKEYMASK
  deriving DecidableEq, Repr

def Scalar.size : Scalar → Nat
  | .integer type => type.size
  | .BITGRAVITY | .WINGRAVITY | .BOOL | .KEYCODE | .BUTTON => 1
  | .SETofPOINTEREVENT | .SETofDEVICEEVENT | .SETofKEYBUTMASK | .SETofKEYMASK => 2
  | .ResourceId | .DRAWABLE | .FONTABLE | .ATOM | .TIMESTAMP | .SETofEVENT | .KEYSYM => 4

/-- `_formatVariable` of a value of some type. -/
def formatVariable (context : Context) (scalar : Scalar) (data : Nat) (byteswap : Bool)
    (range : EnumNameRange) (bitmask : Bool) : Checked String :=
  match scalar with
  | .integer type => formatInteger context type data byteswap range bitmask
  | .ResourceId => formatResourceId context data byteswap range
  | .DRAWABLE => formatDRAWABLE context data byteswap range
  | .FONTABLE => formatFONTABLE context data byteswap range
  | .ATOM => formatATOM context data byteswap range
  | .TIMESTAMP => formatTIMESTAMP context data byteswap range
  | .BITGRAVITY => formatBITGRAVITY context data byteswap
  | .WINGRAVITY => formatWINGRAVITY context data byteswap
  | .BOOL => formatBOOL context data byteswap
  | .SETofEVENT => formatSETofEVENT context data byteswap
  | .SETofPOINTEREVENT => formatSETofPOINTEREVENT context data byteswap
  | .SETofDEVICEEVENT => formatSETofDEVICEEVENT context data byteswap
  | .KEYSYM => formatKEYSYM context data byteswap
  | .KEYCODE => formatKEYCODE context data byteswap range
  | .BUTTON => formatBUTTON context data byteswap range
  | .SETofKEYBUTMASK => formatSETofKEYBUTMASK context data byteswap
  | .SETofKEYMASK => formatSETofKEYMASK context data byteswap

end Formatting
end Xtracepp
