import Xtracepp.ItemLists

/-! The parse functions of requests: what they check around the suffixes, and that they parse a
request as it is framed to its end, with every list whole.
-/
namespace Xtracepp
open Library.Outcome Library.Framing

namespace Encodings
open Formatting ListParsing CountedLists

/-- A request with a parse function of its own: the opcode it asserts, the members before and
behind the length, and whether a length field of four bytes is compared with what was parsed. -/
structure Layout where
  name : String
  opcode : Option UInt8
  head : List Member
  encodingSz : Nat
  encoding : List Member
  compared : Bool
  tail : Tail encodingSz

/-- The members of `fe.length` or `fe.big_length`. -/
def lengthMembers (big_request : Bool) : List Member :=
  if big_request then [.hidden "(extended length flag)" 2 (.integer .CARD16),
    .hidden "(total aligned units)" 4 (.integer .CARD32)]
  else [.hidden "(total aligned units)" 2 (.integer .CARD16)]

def Layout.members (layout : Layout) (big_request : Bool) : List Member :=
  layout.head ++ lengthMembers big_request ++
    layout.encoding.map (Member.after (start big_request))

def Layout.usable (layout : Layout) : Bool :=
  Fits layout.head 2 && Fits layout.encoding layout.encodingSz

def checkOpcode (opcode : Option UInt8) (data : List UInt8) : Checked Unit :=
  match opcode with
  | none => return ()
  | some opcode => do
    let found ← byteAt data 0
    assert "_ordered( fe.prefix->opcode, byteswap ) == opcodes" (found = opcode)

end Encodings

namespace CountedLists.Reader
open Formatting ListParsing Encodings

variable (reader : Reader)

/-- A string that follows the encoding. -/
def viewText (data : List UInt8) (view : String × Nat) : Checked (String × String) := do
  let bytes ← readBytes data 0 view.2
  return (view.1,reader.context.quoted (characters bytes))

/-- `_parseRequest` with the layout of a request. -/
def parseLayout (layout : Layout) (data : List UInt8) (sz : Nat) : Checked Outputs := do
  assert ("sz >= " ++ layout.name ++ "::BASE_ENCODING_SZ") (4 + layout.encodingSz ≤ sz)
  let fe ← reader.fixedEncoding layout.encodingSz data sz
  checkOpcode layout.opcode data
  let suffix ← layout.tail.parse reader fe.big_request data sz
  let bytes_parsed := (fe.bytes_parsed + suffix.size) % 2^32
  let tl_aligned_units ← reader.tl_aligned_units data fe.big_request
  -- where it is not compared, the conditional expression takes the field itself
  assert "tl_aligned_units == Alignment::units( request.bytes_parsed )"
    (if fe.big_request && !layout.compared then tl_aligned_units ≠ 0
      else tl_aligned_units = Alignment.units bytes_parsed)
  let text ← reader.formatMembers data (layout.members fe.big_request)
  let views ← suffix.views.mapM (reader.viewText (data.drop fe.bytes_parsed))
  return ⟨suffix.lists,text ++ views,bytes_parsed⟩

end CountedLists.Reader

namespace Encodings
open Formatting ListParsing CountedLists

section layouts

variable {reader : Reader} {message more : List UInt8} {big_request : Bool} {counts : List Nat}
  {layout : Layout}

theorem members_fit (usable : layout.usable = true)
    (long : start big_request + layout.encodingSz ≤ message.length) :
    Fits (layout.members big_request) message.length = true := by
  rw [Layout.usable,Bool.and_eq_true] at usable
  have begins : 4 ≤ start big_request := by
    unfold start
    split <;> omega
  have lengths : Fits (lengthMembers big_request) (start big_request) = true := by
    cases big_request <;> decide
  have heads := Fits.append (Fits.mono usable.1 (by omega : 2 ≤ message.length))
    (Fits.mono lengths (by omega))
  exact Fits.append heads (Fits.mono (Fits.after (start big_request) usable.2) long)

theorem checkOpcode_done {opcode : Option UInt8} (found : ∀ code ∈ opcode,message.getD 0 0 = code)
    (long : 0 < message.length) : checkOpcode opcode (message ++ more) = .ok () := by
  cases opcode with
  | none => rfl
  | some code =>
    rw [checkOpcode,byteAt_inside long,ok_bind,assert,demand_true (found code rfl)]

theorem views_done {views : List (String × Nat)} {front : Nat}
    (inside : ∀ view ∈ views,front + view.2 ≤ message.length) :
    ∃ text,views.mapM (reader.viewText ((message ++ more).drop front)) = .ok text := by
  have each : ∀ view ∈ views,(∃ text,reader.viewText ((message ++ more).drop front) view = .ok text) ↔
      True := fun view listed => iff_of_true ?_ trivial
  · exact (mapM_iff each).mpr fun _ _ => trivial
  have enough := inside view listed
  have behind := @behind_length message more front (by omega)
  rw [Reader.viewText,readBytes,if_pos (by omega)]
  exact ⟨_,rfl⟩

/-- A framed request that has room for exactly its suffix is parsed to its end, with every list
whole, if and only if its members and its suffix are accepted. -/
theorem parseLayout_complete (usable : layout.usable = true)
    (request : Request reader message layout.encodingSz big_request)
    (opcode : ∀ code ∈ layout.opcode,message.getD 0 0 = code)
    (formed : layout.tail.Formed reader big_request message counts) :
    Complete (reader.parseLayout layout (message ++ more) message.length) counts message.length ↔
      (∀ member ∈ layout.members big_request,member.Accepts reader.littleEndian message) ∧
        layout.tail.Accepts reader big_request message := by
  have long := request.long
  have small := request.small
  have framed := request.framed
  have base : 4 + layout.encodingSz ≤ message.length := by
    unfold start at long
    split at long <;> omega
  have shown := @formatMembers_iff reader message more _ (members_fit usable long)
  have parsed := layout.tail.correct.parsed more request formed
  rw [← shown,← parsed,Reader.parseLayout,assert,demand_true base,ok_bind,request.fixedEncoding,ok_bind,
    checkOpcode_done opcode (by omega),ok_bind]
  dsimp only
  constructor
  · rintro ⟨outputs,done,_⟩
    obtain ⟨suffix,found,done⟩ := bind_success done
    obtain ⟨units,_,done⟩ := bind_success done
    obtain ⟨_,done⟩ := demand_bind_success done
    obtain ⟨text,printed,_⟩ := bind_success done
    exact ⟨⟨text,printed⟩,suffix,found⟩
  · rintro ⟨⟨text,printed⟩,suffix,found⟩
    obtain ⟨lists,whole,views⟩ := layout.tail.correct.whole more request formed found
    have total : (start big_request + layout.encodingSz + suffix.size) % 2^32 = message.length := by
      rw [whole,Nat.mod_eq_of_lt small]
    obtain ⟨viewed,printed_views⟩ := @views_done reader message more suffix.views
      (start big_request + layout.encodingSz) views
    have check : if big_request && !layout.compared then message.length / 4 ≠ 0
        else message.length / 4 = Alignment.units message.length := by
      split
      · unfold start at long
        split at long <;> omega
      · exact (units_quarter small (by omega)).symm
    refine ⟨⟨suffix.lists,text ++ viewed,message.length⟩,?_,lists,rfl⟩
    rw [found,ok_bind,request.units,ok_bind,total]
    rw [assert,demand_true check,ok_bind,printed,ok_bind,printed_views]
    rfl

end layouts

end Encodings
end Xtracepp
