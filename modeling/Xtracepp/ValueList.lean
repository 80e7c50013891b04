import Xtracepp.FormattingOrder

/-! `_parseLISTofVALUE`: the lists of VALUEs of the window requests, whose members are of
types of one, two and four bytes, each in four bytes of its own.
-/
namespace Xtracepp
open Library.Outcome Library.Framing

namespace ValueList
open Formatting

/-- A type, name and traits with one index. -/
structure ValueMember where
  scalar : Scalar
  name : String
  name_range : EnumNameRange
  bitmask : Bool

def plain (scalar : Scalar) (name : String) : ValueMember := ⟨scalar,name,.none,false⟩

def flags (scalar : Scalar) (name : String) : ValueMember := ⟨scalar,name,.none,true⟩

def named (scalar : Scalar) (name : String) (range : EnumNameRange) : ValueMember :=
  ⟨scalar,name,range,false⟩

def zero_copy_from_parent : EnumNameRange := .all "CopyFromParent" []
def window_attribute_background_pixmap : EnumNameRange := .all "None" ["ParentRelative"]
def window_attribute_backing_store : EnumNameRange := .all "NotUseful" ["WhenMapped","Always"]
def window_value_stack_mode : EnumNameRange :=
  .all "Above" ["Below","TopIf","BottomIf","Opposite"]

/-- `value_types`, `value_names` and the traits of CreateWindow and ChangeWindowAttributes. -/
def windowMembers : List ValueMember :=
  [named .ResourceId "background-pixmap" window_attribute_background_pixmap,
    plain (.integer .CARD32) "background-pixel",
    named .ResourceId "border-pixmap" zero_copy_from_parent,
    plain (.integer .CARD32) "border-pixel",
    plain .BITGRAVITY "bit-gravity",
    plain .WINGRAVITY "win-gravity",
    named (.integer .CARD8) "backing-store" window_attribute_backing_store,
    plain (.integer .CARD32) "backing-planes",
    plain (.integer .CARD32) "backing-pixel",
    plain .BOOL "override-redirect",
    plain .BOOL "save-under",
    flags .SETofEVENT "event-mask",
    flags .SETofDEVICEEVENT "do-not-propagate-mask",
    named .ResourceId "colormap" zero_copy_from_parent,
    named .ResourceId "cursor" zero_none]

def configureMembers : List ValueMember :=
  [plain (.integer .INT16) "x",
    plain (.integer .INT16) "y",
    plain (.integer .CARD16) "width",
    plain (.integer .CARD16) "height",
    plain (.integer .CARD16) "border-width",
    plain .ResourceId "sibling",
    named (.integer .CARD8) "stack-mode" window_value_stack_mode]

inductive WindowRequest
  | CreateWindow | ChangeWindowAttributes | ConfigureWindow
  deriving DecidableEq, Repr

def WindowRequest.members : WindowRequest → List ValueMember
  | .CreateWindow | .ChangeWindowAttributes => windowMembers
  | .ConfigureWindow => configureMembers

/-- `name=value`, with the ordered integer that the text is made from. -/
structure Entry where
  name : String
  val : Nat
  text : String
  deriving DecidableEq, Repr

/-- `_LISTofVALUEParsingOutputs`, without the white space. -/
structure ValueOutputs where
  entries : List Entry
  bytes_parsed : Nat
  value_ct : Nat
  deriving DecidableEq, Repr

def parseListMember (context : Context) (littleEndian byteswap : Bool) (member : ValueMember)
    (data : List UInt8) (sz : Nat) : Checked Entry := do
  assert "sz >= sizeof( ProtocolT )" (member.scalar.size ≤ sz)
  let encoded ← ListParsing.readBytes data 0 member.scalar.size
  let memb := loaded littleEndian encoded
  let text ← formatVariable context member.scalar memb byteswap member.name_range member.bitmask
  return ⟨member.name,Formatting.ordered member.scalar.size memb byteswap,text⟩

/-- All VALUEs are four bytes, whatever the member parsed. -/
def ValueOutputs.add (outputs : ValueOutputs) (entry : Entry) : ValueOutputs :=
  ⟨outputs.entries ++ [entry],(outputs.bytes_parsed + 4) % 2^32,(outputs.value_ct + 1) % 2^32⟩

def parseLISTofVALUE (context : Context) (littleEndian byteswap : Bool) (valueMask : Nat)
    (data : List UInt8) (sz : Nat) : List ValueMember → Nat → ValueOutputs → Checked ValueOutputs
  | [],_,outputs => do
    assert "outputs->bytes_parsed == outputs->value_ct * sizeof( protocol::VALUE )"
      (outputs.bytes_parsed = outputs.value_ct * 4)
    return outputs
  | member :: members,i,outputs =>
    if valueMask.testBit i then do
      assert "inputs.sz - outputs->bytes_parsed >= sizeof( protocol::VALUE )"
        (sub64 sz outputs.bytes_parsed ≥ 4)
      let entry ← parseListMember context littleEndian byteswap member
        (data.drop outputs.bytes_parsed) (sub64 sz outputs.bytes_parsed)
      parseLISTofVALUE context littleEndian byteswap valueMask data sz members (i + 1)
        (outputs.add entry)
    else parseLISTofVALUE context littleEndian byteswap valueMask data sz members (i + 1) outputs

/-- The members whose bit is set, with their index. -/
def chosen (valueMask : Nat) : List ValueMember → Nat → List (ValueMember × Nat)
  | [],_ => []
  | member :: members,i => if valueMask.testBit i then (member,i) :: chosen valueMask members (i + 1)
    else chosen valueMask members (i + 1)

/-- A VALUE in the byte order of the client. -/
def encodeVALUE (clientLittle : Bool) (value : UInt32) : List UInt8 :=
  if clientLittle then encode 4 value.toNat else (encode 4 value.toNat).reverse

/-- The list that the client sends for what it stored under each index. -/
def valueList (clientLittle : Bool) (stored : Nat → UInt32) (members : List (ValueMember × Nat)) :
    List UInt8 :=
  members.flatMap fun member => encodeVALUE clientLittle (stored member.2)

/-- What the first bytes of a VALUE hold. -/
def front (clientLittle : Bool) (size value : Nat) : Nat :=
  if clientLittle then value % 256 ^ size else value / 256 ^ (4 - size)

section bytes

variable {littleEndian byteswap clientLittle : Bool} {size value : Nat}

theorem encode_mod (size value : Nat) : encode size (value % 256 ^ size) = encode size value := by
  induction size generalizing value with
  | zero => rfl
  | succ size ih =>
    have first : UInt8.ofNat (value % 256 ^ (size + 1)) = UInt8.ofNat value := by
      apply UInt8.toNat.inj
      rw [UInt8.toNat_ofNat',UInt8.toNat_ofNat',Nat.pow_succ,
        Nat.mod_mod_of_dvd value (Nat.dvd_mul_left _ _)]
    have rest : value % 256 ^ (size + 1) / 256 = value / 256 % 256 ^ size := by
      rw [Nat.pow_succ',Nat.mod_mul_right_div_self]
    rw [encode,encode,first,rest,ih]

theorem encode_append (low high value : Nat) :
    encode (low + high) value = encode low value ++ encode high (value / 256 ^ low) := by
  induction low generalizing value with
  | zero => simp [encode]
  | succ low ih =>
    have shift : value / 256 ^ (low + 1) = value / 256 / 256 ^ low := by
      rw [Nat.pow_succ',Nat.div_div_eq_div_mul]
    rw [Nat.succ_add,encode,encode,ih,shift,List.cons_append]

theorem front_lt (narrow : size ≤ 4) (value : UInt32) :
    front clientLittle size value.toNat < 256 ^ size := by
  unfold front
  split
  · exact Nat.mod_lt _ (Nat.pow_pos (by decide))
  · have small : value.toNat < 256 ^ 4 := value.toNat_lt
    apply Nat.div_lt_of_lt_mul
    rwa [← Nat.pow_add,Nat.sub_add_cancel narrow]

theorem encodeVALUE_take (narrow : size ≤ 4) (value : UInt32) :
    (encodeVALUE clientLittle value).take size =
      if clientLittle then encode size (front clientLittle size value.toNat)
      else (encode size (front clientLittle size value.toNat)).reverse := by
  cases clientLittle with
  | true =>
    have parts := encode_append size (4 - size) value.toNat
    rw [Nat.add_sub_cancel' narrow] at parts
    rw [encodeVALUE,if_pos rfl,if_pos rfl,parts,List.take_left' encode_length,front,if_pos rfl,
      encode_mod]
  | false =>
    have parts := encode_append (4 - size) size value.toNat
    rw [Nat.sub_add_cancel narrow] at parts
    rw [encodeVALUE,if_neg (by decide),if_neg (by decide),parts,List.reverse_append,
      List.take_left' (by rw [List.length_reverse,encode_length]),front,if_neg (by decide)]

/-- The first bytes of a VALUE, as the host loads them. -/
theorem loaded_front (narrow : size ≤ 4) (value : UInt32) :
    loaded littleEndian ((encodeVALUE (littleEndian != byteswap) value).take size) =
      Formatting.ordered size (front (littleEndian != byteswap) size value.toNat) byteswap := by
  have small := @front_lt (littleEndian != byteswap) size narrow value
  rw [encodeVALUE_take narrow]
  generalize front (littleEndian != byteswap) size value.toNat = part at small
  cases littleEndian with
  | true =>
    cases byteswap with
    | true => rfl
    | false => exact leastFirst_encode small
  | false =>
    cases byteswap with
    | true => rfl
    | false =>
      change leastFirst (encode size part).reverse.reverse = part
      rw [List.reverse_reverse,leastFirst_encode small]

theorem encodeVALUE_length (value : UInt32) : (encodeVALUE clientLittle value).length = 4 := by
  unfold encodeVALUE
  split
  · exact encode_length
  · rw [List.length_reverse,encode_length]

end bytes

theorem size_le (scalar : Scalar) : scalar.size ≤ 4 := by
  cases scalar with
  | integer type => cases type <;> decide
  | _ => decide

section lists

variable {context : Context} {littleEndian byteswap : Bool} {valueMask : Nat} {stored : Nat → UInt32}

/-- What a member makes of the VALUE under an index. -/
def entryOf (context : Context) (littleEndian byteswap : Bool) (stored : Nat → UInt32)
    (member : ValueMember × Nat) : Checked Entry := do
  let part := front (littleEndian != byteswap) member.1.scalar.size (stored member.2).toNat
  let text ← formatVariable context member.1.scalar
    (Formatting.ordered member.1.scalar.size part byteswap) byteswap member.1.name_range member.1.bitmask
  return ⟨member.1.name,part,text⟩

theorem parseListMember_front (member : ValueMember × Nat) (more : List UInt8) {sz : Nat}
    (room : 4 ≤ sz) :
    parseListMember context littleEndian byteswap member.1
        (encodeVALUE (littleEndian != byteswap) (stored member.2) ++ more) sz =
      entryOf context littleEndian byteswap stored member := by
  have narrow := size_le member.1.scalar
  have small := @front_lt (littleEndian != byteswap) _ narrow (stored member.2)
  have inside : 0 + member.1.scalar.size ≤ (encodeVALUE (littleEndian != byteswap)
      (stored member.2)).length := by
    rw [encodeVALUE_length]
    omega
  have back : Formatting.ordered member.1.scalar.size (Formatting.ordered member.1.scalar.size
      (front (littleEndian != byteswap) member.1.scalar.size (stored member.2).toNat) byteswap)
        byteswap = front (littleEndian != byteswap) member.1.scalar.size (stored member.2).toNat := by
    cases byteswap with
    | true => exact bswap_bswap small
    | false => rfl
  rw [parseListMember,assert,demand_true (by omega),ok_bind,ListParsing.readBytes_inside inside,
    ok_bind,slice,List.drop_zero,loaded_front narrow,entryOf]
  simp only [back]

theorem valueList_length (members : List (ValueMember × Nat)) (clientLittle : Bool) :
    (valueList clientLittle stored members).length = 4 * members.length := by
  induction members with
  | nil => rfl
  | cons member members ih =>
    rw [valueList,List.flatMap_cons,List.length_append,encodeVALUE_length,← valueList,ih,
      List.length_cons]
    omega

/-- From an index on, with the bytes of the VALUEs that are left. -/
theorem parseLISTofVALUE_from (members : List ValueMember) (data : List UInt8) (i : Nat)
    (outputs : ValueOutputs)
    (rest : data.drop outputs.bytes_parsed =
      valueList (littleEndian != byteswap) stored (chosen valueMask members i))
    (inside : outputs.bytes_parsed ≤ data.length) (counted : outputs.bytes_parsed = outputs.value_ct * 4)
    (small : data.length < 2^32) :
    parseLISTofVALUE context littleEndian byteswap valueMask data data.length members i outputs =
      ((chosen valueMask members i).mapM (entryOf context littleEndian byteswap stored) >>= fun entries =>
        .ok ⟨outputs.entries ++ entries,outputs.bytes_parsed + 4 * entries.length,
          outputs.value_ct + entries.length⟩) := by
  induction members generalizing i outputs with
  | nil =>
    rw [parseLISTofVALUE,assert,demand_true counted,chosen,List.mapM_nil]
    simp
  | cons member members ih =>
    by_cases set : valueMask.testBit i = true
    · rw [chosen,if_pos set] at rest
      have listed := congrArg List.length rest
      rw [List.length_drop,valueList_length,List.length_cons] at listed
      have left : sub64 data.length outputs.bytes_parsed = data.length - outputs.bytes_parsed :=
        sub64_small inside (by omega)
      have split_ : data.drop outputs.bytes_parsed =
          encodeVALUE (littleEndian != byteswap) (stored (member,i).2) ++
            valueList (littleEndian != byteswap) stored (chosen valueMask members (i + 1)) := rest
      rw [parseLISTofVALUE,if_pos set,left,assert,demand_true (by omega),ok_bind,split_,
        parseListMember_front (member,i) _ (by omega),chosen,if_pos set,List.mapM_cons]
      cases read : entryOf context littleEndian byteswap stored (member,i) with
      | error fault => rfl
      | ok entry =>
        have next : outputs.add entry = ⟨outputs.entries ++ [entry],outputs.bytes_parsed + 4,
            outputs.value_ct + 1⟩ := by
          rw [ValueOutputs.add,Nat.mod_eq_of_lt (by omega),Nat.mod_eq_of_lt (by omega)]
        have behind : data.drop (outputs.bytes_parsed + 4) =
            valueList (littleEndian != byteswap) stored (chosen valueMask members (i + 1)) := by
          rw [← List.drop_drop,split_,List.drop_left' (encodeVALUE_length _)]
        rw [ok_bind,ok_bind,next,ih (i + 1) _ behind (by simp; omega) (by simp; omega)]
        cases (chosen valueMask members (i + 1)).mapM
            (entryOf context littleEndian byteswap stored) with
        | error fault => rfl
        | ok entries =>
          have bytes : outputs.bytes_parsed + 4 + 4 * entries.length =
              outputs.bytes_parsed + 4 * (entries.length + 1) := by omega
          have values : outputs.value_ct + 1 + entries.length =
              outputs.value_ct + (entries.length + 1) := by omega
          simp only [ok_bind,pure_ok,List.append_assoc,List.singleton_append,List.length_cons,bytes,
            values]
    · rw [chosen,if_neg set] at rest ⊢
      rw [parseLISTofVALUE,if_neg set]
      exact ih (i + 1) outputs rest inside counted

theorem mapM_pairs {α β : Type} {step : α → Checked β} {items : List α} {results : List β} :
    items.mapM step = .ok results ↔ List.Forall₂ (fun item result => step item = .ok result)
      items results := by
  induction items generalizing results with
  | nil =>
    rw [List.mapM_nil,List.forall₂_nil_left_iff]
    constructor
    · intro done
      exact (Except.ok.inj done).symm
    · rintro rfl
      rfl
  | cons item items ih =>
    rw [List.mapM_cons,List.forall₂_cons_left_iff]
    constructor
    · intro done
      obtain ⟨result,first,done⟩ := bind_success done
      obtain ⟨others,rest,done⟩ := bind_success done
      exact ⟨result,others,first,ih.mp rest,(Except.ok.inj done).symm⟩
    · rintro ⟨result,others,first,rest,rfl⟩
      rw [first,ok_bind,ih.mpr rest]
      rfl

/-- The types of the members: a check of the encoded value is all that may fail. -/
def Simple (member : ValueMember) : Prop :=
  match member.scalar with
  | .integer _ => member.bitmask = false
  | .ResourceId | .BITGRAVITY | .WINGRAVITY | .BOOL | .SETofEVENT | .SETofDEVICEEVENT => True
  | _ => False

theorem members_simple (request : WindowRequest) : ∀ member ∈ request.members, Simple member := by
  cases request <;> simp [WindowRequest.members,windowMembers,configureMembers,plain,flags,named,Simple]

theorem formatZeroBits_legal {type : IntT} {zeroBits data : Nat} {range : EnumNameRange}
    {bitmask : Bool} {expression text : String}
    (shown : formatZeroBits context expression type zeroBits data byteswap range bitmask = .ok text) :
    data &&& zeroBits = 0 := (demand_bind_success shown).1

theorem Simple.legal {member : ValueMember} (simple : Simple member) {data : Nat} :
    (∃ text, formatVariable context member.scalar data byteswap member.name_range member.bitmask =
      .ok text) ↔ member.scalar.Legal data := by
  obtain ⟨scalar,name,range,bitmask⟩ := member
  constructor
  · rintro ⟨text,shown⟩
    cases scalar with
    | ResourceId => exact formatZeroBits_legal shown
    | SETofEVENT => exact formatZeroBits_legal shown
    | SETofDEVICEEVENT => exact formatZeroBits_legal shown
    | integer type => trivial
    | BITGRAVITY => trivial
    | WINGRAVITY => trivial
    | BOOL => trivial
    | _ => exact simple.elim
  · intro legal
    cases scalar with
    | integer type =>
      obtain rfl : bitmask = false := simple
      exact ⟨_,rfl⟩
    | ResourceId => exact formatVariable_ok legal trivial (by simp) byteswap
    | SETofEVENT => exact formatVariable_ok legal trivial (by simp) byteswap
    | SETofDEVICEEVENT => exact formatVariable_ok legal trivial (by simp) byteswap
    | BITGRAVITY => exact formatVariable_ok legal trivial (by simp) byteswap
    | WINGRAVITY => exact formatVariable_ok legal trivial (by simp) byteswap
    | BOOL => exact formatVariable_ok legal trivial (by simp) byteswap
    | _ => exact simple.elim

/-- The entry shows the part of the VALUE that its type has room for. -/
structure Shows (context : Context) (byteswap : Bool) (stored : Nat → UInt32)
    (member : ValueMember × Nat) (entry : Entry) : Prop where
  name : entry.name = member.1.name
  val : entry.val = (stored member.2).toNat % 256 ^ member.1.scalar.size
  text : formatVariable context member.1.scalar
    (Formatting.ordered member.1.scalar.size entry.val byteswap) byteswap member.1.name_range
      member.1.bitmask = .ok entry.text

/-- The list is parsed to its end, with one entry for each bit set, in their order. -/
def Decoded (context : Context) (littleEndian byteswap : Bool) (request : WindowRequest)
    (valueMask : Nat) (stored : Nat → UInt32) : Prop :=
  let members := chosen valueMask request.members 0
  let data := valueList (littleEndian != byteswap) stored members
  ∃ outputs, parseLISTofVALUE context littleEndian byteswap valueMask data data.length
      request.members 0 ⟨[],0,0⟩ = .ok outputs ∧
    List.Forall₂ (Shows context byteswap stored) members outputs.entries ∧
    outputs.bytes_parsed = 4 * members.length ∧ data.length = 4 * members.length

/-- The value of the type is also what the first bytes hold. -/
def InFront (clientLittle : Bool) (size value : Nat) : Prop :=
  clientLittle = true ∨ size = 4 ∨ value / 256 ^ (4 - size) = value % 256 ^ size

theorem inFront_iff (clientLittle : Bool) {size : Nat} (value : UInt32) :
    front clientLittle size value.toNat = value.toNat % 256 ^ size ↔
      InFront clientLittle size value.toNat := by
  unfold front InFront
  by_cases least : clientLittle = true
  · simp [least]
  · rw [if_neg least]
    by_cases whole : size = 4
    · subst whole
      have small : value.toNat < 256 ^ 4 := value.toNat_lt
      rw [Nat.mod_eq_of_lt small]
      simp
    · simp [least,whole]

theorem entryOf_shows {member : ValueMember × Nat} {entry : Entry}
    (front_ : front (littleEndian != byteswap) member.1.scalar.size (stored member.2).toNat =
      (stored member.2).toNat % 256 ^ member.1.scalar.size) :
    entryOf context littleEndian byteswap stored member = .ok entry ↔
      Shows context byteswap stored member entry := by
  rw [entryOf,front_]
  constructor
  · intro read
    obtain ⟨text,shown,read⟩ := bind_success read
    obtain rfl := Except.ok.inj read
    exact ⟨rfl,rfl,shown⟩
  · rintro ⟨name,val,text⟩
    obtain ⟨_,_,_⟩ := entry
    subst name val
    simp only [text,ok_bind]
    rfl

theorem entryOf_front {member : ValueMember × Nat} {entry : Entry}
    (read : entryOf context littleEndian byteswap stored member = .ok entry) :
    entry.val = front (littleEndian != byteswap) member.1.scalar.size (stored member.2).toNat := by
  obtain ⟨text,_,read⟩ := bind_success read
  obtain rfl := Except.ok.inj read
  rfl

theorem both_of_mem {α β : Type} {left right : α → β → Prop} {items : List α} {results : List β}
    (first : List.Forall₂ left items results) (second : List.Forall₂ right items results) {item : α}
    (given : item ∈ items) : ∃ result, left item result ∧ right item result := by
  induction first with
  | nil => cases given
  | cons here _ ih =>
    cases second with
    | cons there rest =>
      rcases List.mem_cons.mp given with rfl | given
      · exact ⟨_,here,there⟩
      · exact ih rest given

theorem pairs_exist {α β : Type} {pair : α → β → Prop} {items : List α}
    (paired : ∀ item ∈ items,∃ result, pair item result) :
    ∃ results, List.Forall₂ pair items results := by
  induction items with
  | nil => exact ⟨[],.nil⟩
  | cons item items ih =>
    obtain ⟨result,first⟩ := paired item List.mem_cons_self
    obtain ⟨results,rest⟩ := ih fun other given => paired other (List.mem_cons_of_mem _ given)
    exact ⟨result :: results,.cons first rest⟩

theorem chosen_length (members : List ValueMember) (i : Nat) :
    (chosen valueMask members i).length ≤ members.length := by
  induction members generalizing i with
  | nil => exact Nat.le_refl 0
  | cons member members ih =>
    have rest := ih (i + 1)
    rw [chosen]
    split <;> simp only [List.length_cons] <;> omega

theorem chosen_mem {members : List ValueMember} {i : Nat} {member : ValueMember × Nat}
    (given : member ∈ chosen valueMask members i) : member.1 ∈ members := by
  induction members generalizing i with
  | nil => cases given
  | cons first members ih =>
    rw [chosen] at given
    split at given
    · rcases List.mem_cons.mp given with rfl | given
      · exact List.mem_cons_self
      · exact List.mem_cons_of_mem _ (ih given)
    · exact List.mem_cons_of_mem _ (ih given)

/-- Each VALUE is shown exactly when, for each bit set, the value of the type is in front in
its four bytes and the zero bits of its encoded form are clear. -/
theorem parseLISTofVALUE_decoded (context : Context) (littleEndian byteswap : Bool)
    (request : WindowRequest) (valueMask : Nat) (stored : Nat → UInt32) :
    Decoded context littleEndian byteswap request valueMask stored ↔
      ∀ member ∈ chosen valueMask request.members 0,
        InFront (littleEndian != byteswap) member.1.scalar.size (stored member.2).toNat ∧
        member.1.scalar.Legal (Formatting.ordered member.1.scalar.size
          ((stored member.2).toNat % 256 ^ member.1.scalar.size) byteswap) := by
  have few : (chosen valueMask request.members 0).length ≤ 15 :=
    Nat.le_trans (chosen_length request.members 0) (by cases request <;> decide)
  have length := @valueList_length stored (chosen valueMask request.members 0)
    (littleEndian != byteswap)
  have short : (valueList (littleEndian != byteswap) stored
      (chosen valueMask request.members 0)).length < 2^32 := by
    rw [length]
    omega
  have parsed := @parseLISTofVALUE_from context littleEndian byteswap valueMask stored
    request.members (valueList (littleEndian != byteswap) stored (chosen valueMask request.members 0))
    0 ⟨[],0,0⟩ rfl (Nat.zero_le _) rfl short
  constructor
  · rintro ⟨outputs,done,shown,_⟩ member given
    rw [parsed] at done
    obtain ⟨entries,read,done⟩ := bind_success done
    obtain rfl := Except.ok.inj done
    obtain ⟨entry,made,shows_⟩ := both_of_mem (mapM_pairs.mp read) shown given
    have kept := (entryOf_front made).symm.trans shows_.val
    refine ⟨(inFront_iff _ _).mp kept,?_⟩
    rw [← shows_.val]
    exact (members_simple request _ (chosen_mem given)).legal.mp ⟨_,shows_.text⟩
  · intro held
    have each : ∀ member ∈ chosen valueMask request.members 0,∃ entry,
        entryOf context littleEndian byteswap stored member = .ok entry ∧
          Shows context byteswap stored member entry := by
      intro member given
      obtain ⟨inFront,legal⟩ := held member given
      obtain ⟨text,shown⟩ := (members_simple request _ (chosen_mem given)).legal.mpr legal
      have shows_ : Shows context byteswap stored member ⟨member.1.name,_,text⟩ := ⟨rfl,rfl,shown⟩
      exact ⟨_,(entryOf_shows ((inFront_iff _ _).mpr inFront)).mpr shows_,shows_⟩
    obtain ⟨entries,paired⟩ := pairs_exist each
    have read := mapM_pairs.mpr (paired.imp fun _ _ both => both.1)
    refine ⟨⟨[] ++ entries,0 + 4 * entries.length,0 + entries.length⟩,?_,?_,?_,length⟩
    · rw [parsed,read]
      rfl
    · exact paired.imp fun _ _ both => both.2
    · rw [← paired.length_eq,Nat.zero_add]

end lists

/-- A client that starts with the most significant byte stores `True` for override-redirect,
and the first byte of the VALUE says `False`. -/
theorem parseLISTofVALUE_narrow :
    parseLISTofVALUE terse true true (2^9) [0,0,0,1] 4 windowMembers 0 ⟨[],0,0⟩ =
        .ok ⟨[⟨"override-redirect",0,"False"⟩],4,1⟩ ∧
      valueList (true != true) (fun _ => 1) (chosen (2^9) windowMembers 0) = [0,0,0,1] ∧
      ¬Decoded terse true true .CreateWindow (2^9) fun _ => 1 := by
  have one : chosen (2^9) windowMembers 0 = [(plain .BOOL "override-redirect",9)] := rfl
  have sent : valueList (true != true) (fun _ => 1) (chosen (2^9) windowMembers 0) = [0,0,0,1] := by
    decide
  have read : parseLISTofVALUE terse true true (2^9) [0,0,0,1] 4 windowMembers 0 ⟨[],0,0⟩ =
      .ok ⟨[⟨"override-redirect",0,"False"⟩],4,1⟩ := by decide
  refine ⟨read,sent,?_⟩
  rintro ⟨outputs,done,shown,_⟩
  simp only [WindowRequest.members,sent,List.length_cons,List.length_nil] at done
  obtain rfl : _ = outputs := Except.ok.inj (read.symm.trans done)
  rw [WindowRequest.members,one] at shown
  cases shown with
  | cons first _ => exact absurd first.val (by decide)

end ValueList
end Xtracepp
