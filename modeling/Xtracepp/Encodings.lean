import Xtracepp.CountedLists
import Xtracepp.FormattingOrder
import Xtracepp.EnumNames

/-! The members of fixed encodings with all that their text depends on, and when they are
formatted without a failed assertion.
-/
namespace Xtracepp
open Library.Outcome Library.Framing

namespace Encodings
open Formatting ListParsing CountedLists

/-- A member of an encoding: the arguments of its `_formatVariable`, and whether it is
printed only if verbose. -/
structure Member extends Field where
  bitmask : Bool
  verbose : Bool

namespace Member

def plain (name : String) (offset : Nat) (scalar : Scalar) : Member :=
  ⟨⟨name,offset,scalar,.none⟩,false,false⟩

def named (name : String) (offset : Nat) (scalar : Scalar) (range : EnumNameRange) : Member :=
  ⟨⟨name,offset,scalar,range⟩,false,false⟩

def flags (name : String) (offset : Nat) (scalar : Scalar) (range : EnumNameRange) : Member :=
  ⟨⟨name,offset,scalar,range⟩,true,false⟩

/-- A member that is printed only if verbose. -/
def hidden (name : String) (offset : Nat) (scalar : Scalar) : Member :=
  ⟨⟨name,offset,scalar,.none⟩,false,true⟩

def after (start : Nat) (member : Member) : Member :=
  { member with offset := start + member.offset }

def finish (member : Member) : Nat := member.offset + member.scalar.size

/-- The overload takes the range, and a bitmask is one of an unsigned type with names for its
bits at most. -/
def admitted (member : Member) : Bool :=
  match member.scalar with
  | .ATOM => member.range.empty || member.range.names == zero_none.names ||
      member.range.names == GetProperty.type_names.names
  | .TIMESTAMP => member.range.empty || member.range.names == time.names
  | .KEYCODE => member.range.empty || member.range.names == key.names
  | .BUTTON => member.range.empty || member.range.names == button.names
  | .integer type => !member.bitmask ||
      (!type.signed && (member.range.empty || decide (member.range.max < 32)))
  | _ => true

/-- Values of the type have no bits that are asserted to be clear. -/
def unchecked (member : Member) : Bool :=
  match member.scalar with
  | .ResourceId | .DRAWABLE | .FONTABLE | .ATOM | .SETofEVENT | .SETofPOINTEREVENT
  | .SETofDEVICEEVENT | .SETofKEYBUTMASK | .SETofKEYMASK => false
  | _ => true

/-- What is formatted only if verbose is not checked. -/
def usable (member : Member) : Bool := member.admitted && (!member.verbose || member.unchecked)

/-- Its bytes, as the host loads them, pass the checks of zero bits. -/
def Accepts (littleEndian : Bool) (message : List UInt8) (member : Member) : Prop :=
  member.scalar.Legal (loaded littleEndian (slice message member.offset member.scalar.size))

end Member

/-- The members of an encoding that are there to be formatted. -/
def Fits (members : List Member) (size : Nat) : Bool :=
  members.all fun member => member.usable && decide (member.finish ≤ size)

end Encodings

namespace CountedLists.Reader
open Formatting ListParsing Encodings

variable (reader : Reader)

/-- What is printed, in order. -/
def shown (members : List Member) : List Member :=
  members.filter fun member => reader.context.verbose || !member.verbose

def formatMember (data : List UInt8) (member : Member) : Checked (String × String) := do
  let encoded ← readBytes data member.offset member.scalar.size
  let text ← formatVariable reader.context member.scalar (loaded reader.littleEndian encoded)
    reader.byteswap member.range member.bitmask
  return (member.name,text)

def formatMembers (data : List UInt8) (members : List Member) : Checked CountedLists.Text :=
  (reader.shown members).mapM (reader.formatMember data)

end CountedLists.Reader

namespace Encodings
open Formatting ListParsing CountedLists

section members

variable {reader : Reader} {message more : List UInt8} {member : Member} {members : List Member}
  {size : Nat}

theorem usable_parts (usable : member.usable = true) :
    member.admitted = true ∧ (member.verbose = true → member.unchecked = true) := by
  rw [Member.usable,Bool.and_eq_true] at usable
  refine ⟨usable.1,fun hidden => ?_⟩
  have either := usable.2
  rwa [hidden,Bool.not_true,Bool.false_or] at either

theorem unchecked_accepted {littleEndian : Bool} (unchecked : member.unchecked = true) :
    member.Accepts littleEndian message := by
  obtain ⟨⟨name,offset,scalar,range⟩,bitmask,verbose⟩ := member
  cases scalar <;> trivial

theorem admitted_admits (usable : member.admitted = true) : member.scalar.Admits member.range := by
  obtain ⟨⟨name,offset,scalar,range⟩,bitmask,verbose⟩ := member
  cases scalar with
  | ATOM =>
    simp only [Member.admitted,Bool.or_eq_true,beq_iff_eq,or_assoc] at usable
    exact usable
  | TIMESTAMP =>
    simp only [Member.admitted,Bool.or_eq_true,beq_iff_eq] at usable
    exact usable
  | KEYCODE =>
    simp only [Member.admitted,Bool.or_eq_true,beq_iff_eq] at usable
    exact usable
  | BUTTON =>
    simp only [Member.admitted,Bool.or_eq_true,beq_iff_eq] at usable
    exact usable
  | _ => trivial

theorem flagString_nameless {range : EnumNameRange} (empty : range.empty = true) (value : Nat) :
    flagString range value = .ok "" := by
  rw [flagString,if_pos empty]
  rfl

/-- An integer is formatted whatever its value. -/
theorem formatInteger_any {context : Context} {type : IntT} {value : Nat} {range : EnumNameRange}
    {bitmask : Bool} (byteswap : Bool)
    (fits : bitmask = true → type.signed = false ∧ (range.empty = true ∨ range.max < 32)) :
    ∃ text, formatInteger context type value byteswap range bitmask = .ok text := by
  cases bitmask with
  | false => exact ⟨_,rfl⟩
  | true =>
    obtain ⟨unsigned,nameless | few⟩ := fits rfl
    · rw [formatInteger,integerText,if_pos rfl,assert,demand_true unsigned,ok_bind,
        flagString_nameless nameless]
      exact ⟨_,rfl⟩
    · exact formatInteger_ok (fun _ => ⟨unsigned,few⟩) byteswap

theorem formatVariable_legal {context : Context} {scalar : Scalar} {data : Nat} {byteswap : Bool}
    {range : EnumNameRange} {bitmask : Bool} {text : String}
    (formatted : formatVariable context scalar data byteswap range bitmask = .ok text) :
    scalar.Legal data := by
  cases scalar with
  | ResourceId => exact (demand_bind_success formatted).1
  | DRAWABLE => exact (demand_bind_success formatted).1
  | FONTABLE => exact (demand_bind_success formatted).1
  | ATOM => exact (demand_bind_success formatted).1
  | SETofEVENT => exact (demand_bind_success formatted).1
  | SETofPOINTEREVENT => exact (demand_bind_success formatted).1
  | SETofDEVICEEVENT => exact (demand_bind_success formatted).1
  | SETofKEYBUTMASK => exact (demand_bind_success formatted).1
  | SETofKEYMASK =>
    by_cases sentinel : data = ANYMODIFIER
    · exact .inl sentinel
    · rw [formatVariable,formatSETofKEYMASK,if_neg sentinel] at formatted
      exact .inr (demand_bind_success formatted).1
  | _ => trivial

theorem formatMember_iff (usable : member.usable = true) (inside : member.finish ≤ message.length) :
    (∃ text, reader.formatMember (message ++ more) member = .ok text) ↔
      member.Accepts reader.littleEndian message := by
  rw [Reader.formatMember,readBytes_inside inside,ok_bind]
  constructor
  · rintro ⟨text,done⟩
    obtain ⟨inner,formatted,_⟩ := bind_success done
    exact formatVariable_legal formatted
  · intro accepted
    have formatted : ∃ text, formatVariable reader.context member.scalar
        (loaded reader.littleEndian (slice message member.offset member.scalar.size))
        reader.byteswap member.range member.bitmask = .ok text := by
      by_cases integral : ∃ type, member.scalar = .integer type
      · obtain ⟨type,same⟩ := integral
        rw [same]
        refine formatInteger_any reader.byteswap fun marked => ?_
        have admitted := (usable_parts usable).1
        rw [Member.admitted,same] at admitted
        simpa [marked] using admitted
      · exact formatVariable_ok accepted (admitted_admits (usable_parts usable).1)
          (fun type same => integral ⟨type,same⟩) reader.byteswap
    obtain ⟨text,formatted⟩ := formatted
    rw [formatted]
    exact ⟨_,rfl⟩

/-- A computation succeeds if what it goes on from does, when the rest cannot fail. -/
theorem wrapped_iff {α β : Type} (first : Checked α) (wrap : α → β) :
    (∃ result,(do return wrap (← first) : Checked β) = .ok result) ↔ ∃ value,first = .ok value := by
  constructor
  · rintro ⟨result,done⟩
    obtain ⟨value,found,_⟩ := bind_success done
    exact ⟨value,found⟩
  · rintro ⟨value,found⟩
    rw [found]
    exact ⟨_,rfl⟩

theorem mapM_iff {α β : Type} {step : α → Checked β} {good : α → Prop} {items : List α}
    (each : ∀ item ∈ items,(∃ result, step item = .ok result) ↔ good item) :
    (∃ results, items.mapM step = .ok results) ↔ ∀ item ∈ items,good item := by
  induction items with
  | nil => exact iff_of_true ⟨[],rfl⟩ (by simp)
  | cons item items ih =>
    have rest := ih fun other member => each other (by simp [member])
    rw [List.forall_mem_cons,← each item (by simp),← rest,List.mapM_cons]
    constructor
    · rintro ⟨results,done⟩
      obtain ⟨head,first,done⟩ := bind_success done
      obtain ⟨tail,others,_⟩ := bind_success done
      exact ⟨⟨head,first⟩,tail,others⟩
    · rintro ⟨⟨head,first⟩,tail,others⟩
      rw [first,ok_bind,others]
      exact ⟨_,rfl⟩

/-- The members are formatted if and only if the host sees their zero bits clear. -/
theorem formatMembers_iff (fits : Fits members message.length = true) :
    (∃ text, reader.formatMembers (message ++ more) members = .ok text) ↔
      ∀ member ∈ members,member.Accepts reader.littleEndian message := by
  have each : ∀ member ∈ members,member.usable = true ∧ member.finish ≤ message.length := by
    intro member listed
    have both := List.all_eq_true.mp fits member listed
    rwa [Bool.and_eq_true,decide_eq_true_eq] at both
  have printed := @mapM_iff _ _ (reader.formatMember (message ++ more))
    (fun member => member.Accepts reader.littleEndian message) (reader.shown members)
    fun member printed => by
      have listed : member ∈ members := (List.mem_filter.mp printed).1
      exact formatMember_iff (each member listed).1 (each member listed).2
  refine printed.trans ⟨fun accepted member listed => ?_,fun accepted member printed => ?_⟩
  · by_cases visible : (reader.context.verbose || !member.verbose) = true
    · exact accepted member (List.mem_filter.mpr ⟨listed,visible⟩)
    · have hidden : member.verbose = true := by
        cases same : member.verbose with
        | false => simp [same] at visible
        | true => rfl
      exact unchecked_accepted ((usable_parts (each member listed).1).2 hidden)
  · exact accepted member (List.mem_filter.mp printed).1

theorem Fits.mono {larger : Nat} (fits : Fits members size = true) (le : size ≤ larger) :
    Fits members larger = true := by
  rw [Fits,List.all_eq_true] at fits ⊢
  intro member listed
  have both := fits member listed
  rw [Bool.and_eq_true,decide_eq_true_eq] at both ⊢
  exact ⟨both.1,both.2.trans le⟩

theorem Fits.append {first second : List Member} (before : Fits first size = true)
    (behind : Fits second size = true) : Fits (first ++ second) size = true := by
  rw [Fits,List.all_append]
  exact (Bool.and_eq_true _ _).mpr ⟨before,behind⟩

theorem Fits.after (start : Nat) (fits : Fits members size = true) :
    Fits (members.map (Member.after start)) (start + size) = true := by
  rw [Fits,List.all_map,List.all_eq_true]
  rw [Fits,List.all_eq_true] at fits
  intro member listed
  have both := fits member listed
  rw [Bool.and_eq_true,decide_eq_true_eq] at both
  have later : (member.after start).finish ≤ start + size := by
    have inside := both.2
    unfold Member.finish at inside ⊢
    simp only [Member.after]
    omega
  exact (Bool.and_eq_true _ _).mpr ⟨both.1,decide_eq_true later⟩

end members

/-- A type of list members that all have one size: how one is parsed, and which bytes of it
are accepted. -/
structure MemberType where
  width : Nat
  positive : 0 < width
  parse : Reader → ListMember CountedLists.Text
  good : Reader → List UInt8 → Prop
  fixed : ∀ reader, Fixed (parse reader) width (good reader)

section types

variable {expression : String} {size : Nat} {members : List Member}

/-- `_parseListMember` of integers and of structs without suffixes. -/
def parseMembers (expression : String) (size : Nat) (members : List Member) (reader : Reader) :
    ListMember CountedLists.Text := fun data sz => do
  assert expression (size ≤ sz)
  let memb ← readBytes data 0 size
  return (← reader.formatMembers memb members,size)

theorem readBytes_take {data : List UInt8} (long : size ≤ data.length) :
    readBytes data 0 size = .ok (data.take size) := by
  rw [readBytes,if_pos (by omega),slice_front]

theorem formatMembers_take {reader : Reader} {data : List UInt8} (fits : Fits members size = true)
    (long : size ≤ data.length) :
    (∃ text, reader.formatMembers (data.take size) members = .ok text) ↔
      ∀ member ∈ members,member.Accepts reader.littleEndian (data.take size) := by
  have length : (data.take size).length = size := List.length_take_of_le long
  have shown := @formatMembers_iff reader (data.take size) [] members (by rw [length]; exact fits)
  rwa [List.append_nil] at shown

theorem parseMembers_fixed (fits : Fits members size = true) (reader : Reader) :
    Fixed (parseMembers expression size members reader) size fun bytes =>
      ∀ member ∈ members,member.Accepts reader.littleEndian bytes := by
  refine ⟨fun data sz long room accepted => ?_,fun data sz shown count long parsed => ?_⟩
  · obtain ⟨text,done⟩ := (formatMembers_take fits long).mpr accepted
    refine ⟨text,?_⟩
    rw [parseMembers,assert,demand_true room,ok_bind,readBytes_take long,ok_bind,done]
    rfl
  · obtain ⟨_,parsed⟩ := demand_bind_success parsed
    rw [readBytes_take long,ok_bind] at parsed
    obtain ⟨text,done,parsed⟩ := bind_success parsed
    cases parsed
    exact ⟨rfl,(formatMembers_take fits long).mp ⟨_,done⟩⟩

theorem parseMembers_size {reader : Reader} {data : List UInt8} {sz count : Nat} {shown : CountedLists.Text}
    (parsed : parseMembers expression size members reader data sz = .ok (shown,count)) :
    count = size := by
  obtain ⟨_,parsed⟩ := demand_bind_success parsed
  obtain ⟨memb,_,parsed⟩ := bind_success parsed
  obtain ⟨text,_,parsed⟩ := bind_success parsed
  cases parsed
  rfl

def MemberType.integer (scalar : Scalar) (bitmask : Bool) (fits : Fits [⟨⟨"",0,scalar,.none⟩,bitmask,false⟩]
    scalar.size = true) (positive : 0 < scalar.size) : MemberType where
  width := scalar.size
  positive := positive
  parse := parseMembers "sz >= sizeof( ProtocolT )" scalar.size [⟨⟨"",0,scalar,.none⟩,bitmask,false⟩]
  good := fun reader bytes => ∀ member ∈ [(⟨⟨"",0,scalar,.none⟩,bitmask,false⟩ : Member)],
    member.Accepts reader.littleEndian bytes
  fixed := parseMembers_fixed fits

def MemberType.struct (size : Nat) (members : List Member) (fits : Fits members size = true)
    (positive : 0 < size) : MemberType where
  width := size
  positive := positive
  parse := parseMembers "sz >= sizeof( ProtocolStructT )" size members
  good := fun reader bytes => ∀ member ∈ members,
    member.Accepts reader.littleEndian bytes
  fixed := parseMembers_fixed fits

end types

end Encodings
end Xtracepp
