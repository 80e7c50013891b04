import Xtracepp.Replies
import Xtracepp.RequestTable

/-! The core replies: the layouts of their encodings, the table of their parse functions, and which
replies are parsed to their end.
-/
namespace Xtracepp
open Library.Outcome Library.Framing

namespace Encodings

/-- A reply without a suffix. -/
def ReplyLayout.plain (name : String) (size : Nat) (second members : List Member) : ReplyLayout where
  name := name
  size := size
  lists := []
  members := replied second members
  tail := replyNothing

namespace Replies
open Formatting ListParsing CountedLists
open Requests (CARD32 ATOM KEYCODE KEYSYM)

/-! Types of list members. -/

theorem cardinal_positive : 0 < (Scalar.integer .CARD32).size := by decide

theorem struct_positive : 0 < 8 := by decide

def WINDOW : MemberType := .integer .ResourceId false (by decide) (by decide)

/-- Masks are shown in hex. -/
def CARD32.flags : MemberType := .integer (.integer .CARD32) true (by decide) cardinal_positive

def TIMECOORD : MemberType :=
  .struct 8 [.plain "time" 0 .TIMESTAMP,.plain "x" 4 (.integer .INT16),.plain "y" 6 (.integer .INT16)]
    (by decide) struct_positive

def RGB : MemberType :=
  .struct 8 [.plain "red" 0 (.integer .CARD16),.plain "green" 2 (.integer .CARD16),
    .plain "blue" 4 (.integer .CARD16)] (by decide) struct_positive

def FONTPROP : MemberType :=
  .struct 8 [.plain "name" 0 .ATOM,.plain "value" 4 (.integer .CARD32)] (by decide) struct_positive

def CHARINFO.members : List Member :=
  [.plain "left-side-bearing" 0 (.integer .INT16),.plain "right-side-bearing" 2 (.integer .INT16),
    .plain "character-width" 4 (.integer .INT16),.plain "ascent" 6 (.integer .INT16),
    .plain "descent" 8 (.integer .INT16),.plain "attributes" 10 (.integer .CARD16)]

/-! Enum names of single replies. -/

theorem focus_inside : 1 < input_focus.names.length := by decide

theorem switch_inside : 1 < off_on.names.length := by decide

def GetWindowAttributes.map_state_names : EnumNameRange := .all "Unmapped" ["Unviewable","Viewable"]
def ListHosts.mode_names : EnumNameRange := .all "Disabled" ["Enabled"]

def GetWindowAttributes : ReplyLayout := .plain "GetWindowAttributes" 44
  [.named "backing-store" 1 (.integer .CARD8) ValueList.window_attribute_backing_store]
  [.plain "visual" 8 .ResourceId,
    .named "class" 12 (.integer .CARD16) (window_class.upFrom 1 (by decide)),
    .plain "bit-gravity" 14 .BITGRAVITY,.plain "win-gravity" 15 .WINGRAVITY,
    .plain "backing-planes" 16 (.integer .CARD32),.plain "backing-pixel" 20 (.integer .CARD32),
    .plain "save-under" 24 .BOOL,.plain "map-is-installed" 25 .BOOL,
    .named "map-state" 26 (.integer .CARD8) GetWindowAttributes.map_state_names,
    .plain "override-redirect" 27 .BOOL,.plain "all-event-masks" 32 .SETofEVENT,
    .plain "your-event-mask" 36 .SETofEVENT,.plain "do-not-propagate-mask" 40 .SETofDEVICEEVENT]

def GetGeometry : ReplyLayout := .plain "GetGeometry" 32 [.plain "depth" 1 (.integer .CARD8)]
  [.plain "root" 8 .ResourceId,.plain "x" 12 (.integer .INT16),.plain "y" 14 (.integer .INT16),
    .plain "width" 16 (.integer .CARD16),.plain "height" 18 (.integer .CARD16),
    .plain "border-width" 20 (.integer .CARD16)]

def QueryTree : ReplyLayout where
  name := "QueryTree"
  size := 32
  lists := []
  members := replied []
    [.plain "root" 8 .ResourceId,.named "parent" 12 .ResourceId zero_none,
      .hidden "(WINDOWs in children)" 16 (.integer .CARD16)]
  tail := replyList WINDOW (.field 16 2) false (by decide) (.inr (ReplyCount.quarters_width rfl))

def GetAtomName : ReplyLayout where
  name := "GetAtomName"
  size := 32
  lists := []
  members := replied [] [.hidden "(name length)" 8 (.integer .CARD16)]
  tail := replyText "name" (.field 8 2) (by decide)

def ListProperties : ReplyLayout where
  name := "ListProperties"
  size := 32
  lists := []
  members := replied [] [.hidden "(ATOMs in atoms)" 8 (.integer .CARD16)]
  tail := unorderedList ATOM 8 2 (by decide) rfl (by decide) parseMembers_size

def GetSelectionOwner : ReplyLayout := .plain "GetSelectionOwner" 32 []
  [.named "owner" 8 .ResourceId zero_none]

def GrabPointer : ReplyLayout := .plain "GrabPointer" 32
  [.named "status" 1 (.integer .CARD8) grab_status]
  []

def GrabKeyboard : ReplyLayout := .plain "GrabKeyboard" 32
  [.named "status" 1 (.integer .CARD8) grab_status]
  []

def QueryPointer : ReplyLayout := .plain "QueryPointer" 32 [.plain "same-screen" 1 .BOOL]
  [.plain "root" 8 .ResourceId,.named "child" 12 .ResourceId zero_none,
    .plain "root-x" 16 (.integer .INT16),.plain "root-y" 18 (.integer .INT16),
    .plain "win-x" 20 (.integer .INT16),.plain "win-y" 22 (.integer .INT16),
    .plain "mask" 24 .SETofKEYBUTMASK]

def GetMotionEvents : ReplyLayout where
  name := "GetMotionEvents"
  size := 32
  lists := []
  members := replied [] [.hidden "(TIMECOORDs in events)" 8 (.integer .CARD32)]
  tail := unorderedList TIMECOORD 8 4 (by decide) rfl (by decide) parseMembers_size

def TranslateCoordinates : ReplyLayout := .plain "TranslateCoordinates" 32
  [.plain "same-screen" 1 .BOOL]
  [.named "child" 8 .ResourceId zero_none,.plain "dst-x" 12 (.integer .INT16),
    .plain "dst-y" 14 (.integer .INT16)]

def GetInputFocus : ReplyLayout := .plain "GetInputFocus" 32
  [.named "revert-to" 1 (.integer .CARD8) input_focus]
  [.named "focus" 8 .ResourceId (input_focus.upTo 1 focus_inside)]

def QueryKeymap : ReplyLayout where
  name := "QueryKeymap"
  size := 40
  lists := [⟨8,32⟩]
  members := replied [] []
  tail := replyNothing

def QueryTextExtents : ReplyLayout := .plain "QueryTextExtents" 32
  [.named "draw-direction" 1 (.integer .CARD8) Reader.drawDirectionNames]
  [.plain "font-ascent" 8 (.integer .INT16),.plain "font-descent" 10 (.integer .INT16),
    .plain "overall-ascent" 12 (.integer .INT16),.plain "overall-descent" 14 (.integer .INT16),
    .plain "overall-width" 16 (.integer .INT32),.plain "overall-left" 20 (.integer .INT32),
    .plain "overall-right" 24 (.integer .INT32)]

def ListFonts : ReplyLayout where
  name := "ListFonts"
  size := 32
  lists := []
  members := replied [] [.hidden "(STRs in names)" 8 (.integer .CARD16)]
  tail := replyItems STR.type (.field 8 2) true (by decide) (.inl rfl)

def GetFontPath : ReplyLayout where
  name := "GetFontPath"
  size := 32
  lists := []
  members := replied [] [.hidden "(STRs in path)" 8 (.integer .CARD16)]
  tail := replyItems STR.type (.field 8 2) true (by decide) (.inl rfl)

def ListInstalledColormaps : ReplyLayout where
  name := "ListInstalledColormaps"
  size := 32
  lists := []
  members := replied [] [.hidden "(COLORMAPs in cmaps)" 8 (.integer .CARD16)]
  tail := replyList WINDOW (.field 8 2) false (by decide) (.inr (ReplyCount.quarters_width rfl))

def AllocColor : ReplyLayout := .plain "AllocColor" 32 []
  [.plain "red" 8 (.integer .CARD16),.plain "green" 10 (.integer .CARD16),
    .plain "blue" 12 (.integer .CARD16),.plain "pixel" 16 (.integer .CARD32)]

def AllocNamedColor : ReplyLayout := .plain "AllocNamedColor" 32 []
  [.plain "pixel" 8 (.integer .CARD32),.plain "exact-red" 12 (.integer .CARD16),
    .plain "exact-green" 14 (.integer .CARD16),.plain "exact-blue" 16 (.integer .CARD16),
    .plain "visual-red" 18 (.integer .CARD16),.plain "visual-green" 20 (.integer .CARD16),
    .plain "visual-blue" 22 (.integer .CARD16)]

def AllocColorCells : ReplyLayout where
  name := "AllocColorCells"
  size := 32
  lists := []
  members := replied []
    [.hidden "(CARD32 in pixels)" 8 (.integer .CARD16),
      .hidden "(CARD32 in masks)" 10 (.integer .CARD16)]
  tail := replyLists CARD32 CARD32.flags (.field 8 2) (.field 10 2) (by decide) (by decide)

def AllocColorPlanes : ReplyLayout where
  name := "AllocColorPlanes"
  size := 32
  lists := []
  members := replied []
    [.hidden "(CARD32 in pixels)" 8 (.integer .CARD16),
      .flags "red-mask" 12 (.integer .CARD32) .none,.flags "green-mask" 16 (.integer .CARD32) .none,
      .flags "blue-mask" 20 (.integer .CARD32) .none]
  tail := replyList CARD32 (.field 8 2) false (by decide) (.inr (ReplyCount.quarters_width rfl))

def QueryColors : ReplyLayout where
  name := "QueryColors"
  size := 32
  lists := []
  members := replied [] [.hidden "(RGBs in colors)" 8 (.integer .CARD16)]
  tail := replyList RGB (.field 8 2) false (by decide) (.inr (ReplyCount.quarters_width rfl))

def LookupColor : ReplyLayout := .plain "LookupColor" 32 []
  [.plain "exact-red" 8 (.integer .CARD16),.plain "exact-green" 10 (.integer .CARD16),
    .plain "exact-blue" 12 (.integer .CARD16),.plain "visual-red" 14 (.integer .CARD16),
    .plain "visual-green" 16 (.integer .CARD16),.plain "visual-blue" 18 (.integer .CARD16)]

def QueryBestSize : ReplyLayout := .plain "QueryBestSize" 32 []
  [.plain "width" 8 (.integer .CARD16),.plain "height" 10 (.integer .CARD16)]

def ListExtensions : ReplyLayout where
  name := "ListExtensions"
  size := 32
  lists := []
  members := replied [.hidden "(STRs in names)" 1 (.integer .CARD8)] []
  tail := replyItems STR.type (.field 1 1) true (by decide) (.inl rfl)

def GetKeyboardMapping : ReplyLayout where
  name := "GetKeyboardMapping"
  size := 32
  lists := []
  members := replied [.hidden "keysyms-per-keycode" 1 (.integer .CARD8)] []
  tail := replyList KEYSYM .units false trivial (.inr (ReplyCount.quarters_width rfl))

def GetKeyboardControl : ReplyLayout where
  name := "GetKeyboardControl"
  size := 52
  lists := [⟨20,32⟩]
  members := replied [.named "global-auto-repeat" 1 (.integer .CARD8) (off_on.upTo 1 switch_inside)]
    [.flags "led-mask" 8 (.integer .CARD32) .none,.plain "key-click-percent" 12 (.integer .CARD8),
      .plain "bell-percent" 13 (.integer .CARD8),.plain "bell-pitch" 14 (.integer .CARD16),
      .plain "bell-duration" 16 (.integer .CARD16)]
  tail := replyNothing

def GetPointerControl : ReplyLayout := .plain "GetPointerControl" 32 []
  [.plain "acceleration-numerator" 8 (.integer .CARD16),
    .plain "acceleration-denominator" 10 (.integer .CARD16),
    .plain "threshold" 12 (.integer .CARD16)]

def GetScreenSaver : ReplyLayout := .plain "GetScreenSaver" 32 []
  [.plain "timeout" 8 (.integer .CARD16),.plain "interval" 10 (.integer .CARD16),
    .named "prefer-blanking" 12 (.integer .CARD8) (no_yes.upTo 1 (by decide)),
    .named "allow-exposures" 13 (.integer .CARD8) (no_yes.upTo 1 (by decide))]

def ListHosts : ReplyLayout where
  name := "ListHosts"
  size := 32
  lists := []
  members := replied [.named "mode" 1 (.integer .CARD8) ListHosts.mode_names]
    [.hidden "(HOSTs in hosts)" 8 (.integer .CARD16)]
  tail := replyItems HOST.type (.field 8 2) false (by decide) (.inr HOST.encode_quarter)

def SetPointerMapping : ReplyLayout := .plain "SetPointerMapping" 32
  [.named "status" 1 (.integer .CARD8) (mapping_status.upTo 1 (by decide))]
  []

def SetModifierMapping : ReplyLayout := .plain "SetModifierMapping" 32
  [.named "status" 1 (.integer .CARD8) mapping_status]
  []

def GetModifierMapping : ReplyLayout where
  name := "GetModifierMapping"
  size := 32
  lists := []
  members := replied [.plain "keycodes-per-modifier" 1 (.integer .CARD8)] []
  tail := replyList KEYCODE (.keycodes 1) false (by decide) (.inr ReplyCount.quarters_keycodes)

/-- The last reply of a series has a size like the others, and no font. -/
def ListFontsWithInfo.last : ReplyLayout :=
  .plain "ListFontsWithInfo" 60 [.plain "last-reply" 1 (.integer .CARD8)] []

def ListFontsWithInfo : ReplyLayout where
  name := "ListFontsWithInfo"
  size := 60
  lists := []
  members := replied [.hidden "(name length)" 1 (.integer .CARD8)]
    (CHARINFO.members.map (Member.after 8) ++ CHARINFO.members.map (Member.after 24) ++
      [.plain "min-char-or-byte2" 40 (.integer .CARD16),.plain "max-char-or-byte2" 42 (.integer .CARD16),
        .plain "default-char" 44 (.integer .CARD16),
        .hidden "(FONTPROPs in properties)" 46 (.integer .CARD16),
        .named "draw-direction" 48 (.integer .CARD8) Reader.drawDirectionNames,
        .plain "min-byte1" 49 (.integer .CARD8),.plain "max-byte1" 50 (.integer .CARD8),
        .plain "all-chars-exist" 51 .BOOL,.plain "font-ascent" 52 (.integer .INT16),
        .plain "font-descent" 54 (.integer .INT16),.plain "replies-hint" 56 (.integer .CARD32)])
  tail := replyNamed FONTPROP (.field 46 2) (.field 1 1) (by decide) (by decide)

/-- The members of GetPointerMapping, whose extra units are compared as the host loads them. -/
def GetPointerMapping : ReplyLayout where
  name := "GetPointerMapping"
  size := 32
  lists := []
  members := replied [.hidden "(map length)" 1 (.integer .CARD8)] []
  tail := replyList CARD8 (.field 1 1) true (by decide) (.inl rfl)

/-- A reply to a request that no table knows: what follows the header is passed over. -/
def UnknownRequest : ReplyLayout where
  name := "_UnknownRequest"
  size := 32
  lists := []
  members := replied [] []
  tail := replyRest

end Replies

/-- The functions of the table: those with a layout, and those with a body of their own. -/
inductive ReplyType
  | own (layout : ReplyLayout)
  | getProperty
  | queryFont
  | listFontsWithInfo
  | getImage
  | getPointerMapping

namespace Replies

/-- The replies without the two that have effects of their own, by the opcodes of their requests. -/
def replies : List (UInt8 × ReplyType) :=
  [(3,.own GetWindowAttributes),(14,.own GetGeometry),(15,.own QueryTree),(17,.own GetAtomName),
    (20,.getProperty),(21,.own ListProperties),(23,.own GetSelectionOwner),(26,.own GrabPointer),
    (31,.own GrabKeyboard),(38,.own QueryPointer),(39,.own GetMotionEvents),
    (40,.own TranslateCoordinates),(43,.own GetInputFocus),(44,.own QueryKeymap),(47,.queryFont),
    (48,.own QueryTextExtents),(49,.own ListFonts),(50,.listFontsWithInfo),(52,.own GetFontPath),
    (73,.getImage),(83,.own ListInstalledColormaps),(84,.own AllocColor),(85,.own AllocNamedColor),
    (86,.own AllocColorCells),(87,.own AllocColorPlanes),(91,.own QueryColors),
    (92,.own LookupColor),(97,.own QueryBestSize),(99,.own ListExtensions),
    (101,.own GetKeyboardMapping),(103,.own GetKeyboardControl),(106,.own GetPointerControl),
    (108,.own GetScreenSaver),(110,.own ListHosts),(116,.own SetPointerMapping),
    (117,.getPointerMapping),(118,.own SetModifierMapping),(119,.own GetModifierMapping)]

end Replies

/-- The parse function of the reply to an opcode. -/
def replyType (code : UInt8) : Option ReplyType :=
  (Replies.replies.find? fun entry => entry.1 == code).map Prod.snd

end Encodings

namespace CountedLists.Reader
open Formatting ListParsing Encodings

variable (reader : Reader)

/-- `_parseReply< ListFontsWithInfo >`. -/
def parseListFontsWithInfo (data : List UInt8) (sz : Nat) : Checked Outputs := do
  let last_reply ← reader.ordered data 1 1
  if last_reply = 0 then reader.parseReplyLayout Replies.ListFontsWithInfo.last data sz
  else reader.parseReplyLayout Replies.ListFontsWithInfo data sz

/-- `_parseReply< GetPointerMapping >`: the extra units are not brought into order. -/
def parseGetPointerMapping (data : List UInt8) (sz : Nat) : Checked Outputs := do
  let _ ← reader.parseReplyHeader data sz
  let map ← parseReplyList CARD8 (.field 1 1) true 32 reader data sz
  let bytes_parsed := (32 + map.size) % 2^32
  let extra_aligned_units ← readBytes data 4 4
  checkReply (loaded reader.littleEndian extra_aligned_units) bytes_parsed
  let text ← reader.formatMembers data Replies.GetPointerMapping.members
  return ⟨map.lists,text,bytes_parsed⟩

def parseReplyType : ReplyType → List UInt8 → Nat → Checked Outputs
  | .own layout => reader.parseReplyLayout layout
  | .getProperty => reader.parseGetProperty
  | .queryFont => reader.parseQueryFont
  | .listFontsWithInfo => reader.parseListFontsWithInfo
  | .getImage => reader.parseGetImage
  | .getPointerMapping => reader.parseGetPointerMapping

/-- The function of an entry of the table. -/
def parseReplyCode (code : UInt8) (data : List UInt8) (sz : Nat) : Checked Outputs :=
  match replyType code with
  | none => .error (.undefined "traits.reply_parse_func")
  | some type => reader.parseReplyType type data sz

end CountedLists.Reader

namespace Encodings
open Formatting ListParsing CountedLists

/-- A reply with a layout that has room for exactly its suffix. -/
def ReplyLayout.Formed (layout : ReplyLayout) (reader : Reader) (message : List UInt8)
    (counts : List Nat) : Prop :=
  layout.size ≤ message.length ∧ ∃ lengths,counts = layout.lists.map InnerList.count ++ lengths ∧
    layout.tail.Formed reader message lengths

def ReplyLayout.Accepts (layout : ReplyLayout) (reader : Reader) (message : List UInt8) : Prop :=
  (∀ member ∈ layout.members,member.Accepts reader.littleEndian message) ∧
    layout.tail.Accepts reader message

/-- What ListFontsWithInfo is in a message. -/
def Replies.fontInfo (reader : Reader) (message : List UInt8) : ReplyLayout :=
  if reader.value message 1 1 = 0 then Replies.ListFontsWithInfo.last else Replies.ListFontsWithInfo

namespace ReplyType

/-- A message that has room for the suffix that its counts tell, with the lengths of the lists
of that. -/
def Formed (type : ReplyType) (reader : Reader) (message : List UInt8) (counts : List Nat) : Prop :=
  match type with
  | .own layout => layout.Formed reader message counts
  | .listFontsWithInfo => (Replies.fontInfo reader message).Formed reader message counts
  | .getPointerMapping => Replies.GetPointerMapping.Formed reader message counts
  | .getProperty => reader.value message 1 1 ∈ [0,8,16,32] ∧
      ∃ length,length = reader.value message 16 4 * (reader.value message 1 1 / 8) ∧
        message.length = 32 + padded length ∧
          if reader.value message 8 4 = STRING then counts = [] else counts = [length] ∧ length < 2^16
  | .getImage => ∃ count < 2^16,counts = [count] ∧ message.length = 32 + count
  | .queryFont => ∃ properties char_infos,counts = [properties,char_infos] ∧
      properties = reader.value message 46 2 ∧ char_infos = reader.value message 56 4 ∧
        char_infos < 2^16 ∧ message.length = 60 + 8 * properties + 12 * char_infos

/-- What the host has to see in a message for its reply to be parsed. -/
def Accepts (type : ReplyType) (reader : Reader) (message : List UInt8) : Prop :=
  match type with
  | .own layout => layout.Accepts reader message
  | .listFontsWithInfo => (Replies.fontInfo reader message).Accepts reader message
  | .getPointerMapping => Replies.GetPointerMapping.Accepts reader message ∧
      loaded reader.littleEndian (slice message 4 4) = (message.length - 32) / 4
  | .getProperty | .getImage => Clear reader.littleEndian message 8
  | .queryFont => ∀ i < reader.value message 46 2,Clear reader.littleEndian message (60 + 8 * i)

def usable : ReplyType → Bool
  | .own layout => layout.usable
  | _ => true

end ReplyType

theorem replies_usable : ∀ entry ∈ Replies.replies,entry.2.usable = true := by decide +kernel

/-- The table has an entry for every request that is answered but the two with effects. -/
theorem replyType_table (code : UInt8) : (replyType code).isSome =
    (Opcodes.answered.contains code && code != Opcodes.internAtom && code != Opcodes.queryExtension) := by
  have all : ∀ code : Fin 256,(replyType (UInt8.ofNat code)).isSome =
      (Opcodes.answered.contains (UInt8.ofNat code) && UInt8.ofNat code != Opcodes.internAtom &&
        UInt8.ofNat code != Opcodes.queryExtension) := by decide +kernel
  have here := all ⟨code.toNat,code.toNat_lt⟩
  simp only [UInt8.ofNat_toNat] at here
  exact here

theorem replyType_listed {code : UInt8} {type : ReplyType} (found : replyType code = some type) :
    (code,type) ∈ Replies.replies := by
  obtain ⟨⟨major,other⟩,listed,same⟩ := Option.map_eq_some_iff.mp found
  have equal := @List.find?_some _ (fun entry : UInt8 × ReplyType => entry.1 == code) _ _ listed
  obtain rfl : major = code := beq_iff_eq.mp equal
  obtain rfl : other = type := same
  exact List.mem_of_find?_eq_some listed

section parsed

variable {reader : Reader} {message more : List UInt8} {counts : List Nat}

theorem parseReplyLayout_formed {layout : ReplyLayout} (usable : layout.usable = true)
    (reply : Reply reader message) (formed : layout.Formed reader message counts) :
    Complete (reader.parseReplyLayout layout (message ++ more) message.length) counts message.length ↔
      layout.Accepts reader message := by
  obtain ⟨long,lengths,shown,formed⟩ := formed
  rw [shown]
  exact parseReplyLayout_complete usable reply long formed

theorem fontInfo_usable (reader : Reader) (message : List UInt8) :
    (Replies.fontInfo reader message).usable = true := by
  have last : Replies.ListFontsWithInfo.last.usable = true := by decide +kernel
  have font : Replies.ListFontsWithInfo.usable = true := by decide +kernel
  rw [Replies.fontInfo]
  split
  · exact last
  · exact font

theorem parseListFontsWithInfo_steps (reply : Reply reader message) :
    reader.parseListFontsWithInfo (message ++ more) message.length =
      reader.parseReplyLayout (Replies.fontInfo reader message) (message ++ more) message.length := by
  have framed := reply.framed
  rw [Reader.parseListFontsWithInfo,ordered_inside (by omega),ok_bind,Replies.fontInfo]
  split <;> rfl

theorem pointerMapping_members (long : 32 ≤ message.length) :
    ∃ text,reader.formatMembers (message ++ more) Replies.GetPointerMapping.members = .ok text := by
  have fits : Fits Replies.GetPointerMapping.members 32 = true := by decide
  refine (formatMembers_iff (Fits.mono fits long)).mpr fun member listed => ?_
  exact unchecked_accepted (by revert member; decide)

theorem pointerMapping_parsed (reply : Reply reader message)
    (formed : Replies.GetPointerMapping.Formed reader message counts) :
    Complete (reader.parseGetPointerMapping (message ++ more) message.length) counts message.length ↔
      ReplyType.Accepts .getPointerMapping reader message := by
  have framed := reply.framed
  obtain ⟨_,lengths,shown,formed⟩ := formed
  have none : Replies.GetPointerMapping.lists.map InnerList.count = [] := rfl
  rw [none,List.nil_append] at shown
  obtain ⟨text,printed⟩ := @pointerMapping_members reader message more (by omega)
  obtain ⟨accepted,whole⟩ := @replyList_exact 32 CARD8 (.field 1 1) true (by decide) (.inl rfl) reader
    message lengths more reply formed
  rw [shown,Reader.parseGetPointerMapping,reply.header,ok_bind]
  constructor
  · rintro ⟨outputs,done,_⟩
    obtain ⟨map,found,done⟩ := bind_success done
    obtain ⟨_,size,_⟩ := whole map found
    dsimp only at done
    rw [size,Nat.mod_eq_of_lt reply.small,readBytes_inside (by omega),ok_bind] at done
    obtain ⟨same,_⟩ := demand_bind_success done
    refine ⟨⟨fun member listed => ?_,accepted.mp ⟨map,found⟩⟩,same.trans reply.checked.symm⟩
    exact unchecked_accepted (by revert member; decide)
  · rintro ⟨⟨_,good⟩,same⟩
    obtain ⟨map,found⟩ := accepted.mpr good
    obtain ⟨counted,size,_⟩ := whole map found
    refine ⟨⟨map.lists,text,message.length⟩,?_,counted,rfl⟩
    rw [found,ok_bind]
    dsimp only
    rw [size,Nat.mod_eq_of_lt reply.small,readBytes_inside (by omega),ok_bind,Reader.checkReply,assert,
      demand_true (same.trans reply.checked),ok_bind,printed]
    rfl

theorem getProperty_parsed (reply : Reply reader message)
    (formed : ReplyType.Formed .getProperty reader message counts) :
    Complete (reader.parseGetProperty (message ++ more) message.length) counts message.length ↔
      ReplyType.Accepts .getProperty reader message := by
  obtain ⟨format,length,counted,whole,listed⟩ := formed
  by_cases type : reader.value message 8 4 = STRING
  · rw [if_pos type] at listed
    rw [listed,getPropertyText_complete reply format type counted whole,List.forall_mem_singleton]
    rfl
  · rw [if_neg type] at listed
    rw [listed.1,getProperty_complete reply format type counted whole,List.forall_mem_singleton]
    exact and_iff_right listed.2

theorem queryFont_parsed (reply : Reply reader message)
    (formed : ReplyType.Formed .queryFont reader message counts) :
    Complete (reader.parseQueryFont (message ++ more) message.length) counts message.length ↔
      ReplyType.Accepts .queryFont reader message := by
  obtain ⟨properties,char_infos,shown,propertied,counted,few,whole⟩ := formed
  rw [shown,queryFont_complete reply propertied counted whole,List.forall_mem_map]
  simp only [List.mem_range]
  rw [propertied]
  exact and_iff_right few

end parsed

theorem parseReplyType_complete {reader : Reader} {message : List UInt8} {code : UInt8}
    {type : ReplyType} {counts : List Nat} (more : List UInt8) (found : replyType code = some type)
    (reply : Reply reader message) (formed : type.Formed reader message counts) :
    Complete (reader.parseReplyType type (message ++ more) message.length) counts message.length ↔
      type.Accepts reader message := by
  have usable := replies_usable (code,type) (replyType_listed found)
  cases type with
  | own layout => exact parseReplyLayout_formed usable reply formed
  | getProperty => exact getProperty_parsed reply formed
  | queryFont => exact queryFont_parsed reply formed
  | listFontsWithInfo =>
    dsimp only [Reader.parseReplyType]
    rw [parseListFontsWithInfo_steps reply]
    exact parseReplyLayout_formed (fontInfo_usable reader message) reply formed
  | getImage =>
    obtain ⟨count,few,shown,whole⟩ := formed
    rw [shown]
    refine (getImage_complete reply whole).trans ?_
    rw [List.forall_mem_singleton]
    exact and_iff_right few
  | getPointerMapping => exact pointerMapping_parsed reply formed

/-- A font with one property, from a server in the other byte order. -/
def fontInfoReply : List UInt8 :=
  [1,5,0,1,0,0,0,11] ++ List.replicate 38 0 ++ [0,1] ++ List.replicate 12 0 ++ [0,0,0,20,0,0,0,7] ++
    [102,105,120,101,100,0,0,0]

end Encodings
end Xtracepp
