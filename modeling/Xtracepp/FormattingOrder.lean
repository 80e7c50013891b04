import Xtracepp.Formatting

/-! When the text of a value does not depend on the byte order of its client, and when a
TIMESTAMP is shown as the time it was.
-/
namespace Xtracepp
open Library.Outcome

namespace Formatting

section hexadecimal

variable {count size value other : Nat}

theorem digitChar_inj (small : value < 16) (less : other < 16)
    (same : Nat.digitChar value = Nat.digitChar other) : value = other := by
  have all : ∀ left right : Fin 16,
      Nat.digitChar left = Nat.digitChar right → left = right := by decide
  exact congrArg Fin.val (all ⟨value,small⟩ ⟨other,less⟩ same)

theorem hexDigits_length : (hexDigits count value).length = count := by
  induction count generalizing value with
  | zero => rfl
  | succ count ih => rw [hexDigits,List.length_append,ih,List.length_singleton]

theorem hexDigits_inj (small : value < 16 ^ count) (less : other < 16 ^ count)
    (same : hexDigits count value = hexDigits count other) : value = other := by
  induction count generalizing value other with
  | zero =>
    rw [Nat.pow_zero] at small less
    omega
  | succ count ih =>
    rw [hexDigits,hexDigits] at same
    obtain ⟨front,last⟩ := List.append_inj same (by rw [hexDigits_length,hexDigits_length])
    have high := ih (Nat.div_lt_of_lt_mul (by rwa [Nat.pow_succ'] at small))
      (Nat.div_lt_of_lt_mul (by rwa [Nat.pow_succ'] at less)) front
    have low := digitChar_inj (Nat.mod_lt value (by decide)) (Nat.mod_lt other (by decide))
      (List.head_eq_of_cons_eq last)
    omega

/-- The width is that of the type, so nothing behind the digits can make up for them. -/
theorem hexString_inj (small : value < 256 ^ size) (less : other < 256 ^ size) {text rest : String}
    (same : hexString size value ++ text = hexString size other ++ rest) : value = other := by
  have width : 256 ^ size = 16 ^ (2 * size) := by rw [Nat.pow_mul]
  rw [width] at small less
  rw [hexString,hexString,String.append_assoc,String.append_assoc,String.append_right_inj] at same
  have chars := congrArg String.toList same
  rw [String.toList_append,String.toList_append,String.toList_ofList,String.toList_ofList] at chars
  exact hexDigits_inj small less
    (List.append_inj_left chars (by rw [hexDigits_length,hexDigits_length]))

theorem hexString_alone (small : value < 256 ^ size) (less : other < 256 ^ size)
    (same : hexString size value = hexString size other) : value = other :=
  hexString_inj small less (congrArg (· ++ "") same)

theorem bracketed_inj (small : value < 256 ^ size) (less : other < 256 ^ size) {text rest : String}
    (same : bracketed (hexString size value) text = bracketed (hexString size other) rest) :
    value = other := by
  rw [bracketed,bracketed] at same
  simp only [String.append_assoc] at same
  exact hexString_inj small less same

end hexadecimal

/-- The hexadecimal text is part of the text. -/
def ShowsHex (context : Context) (type : IntT) (bits : Nat) (range : EnumNameRange) (bitmask : Bool) :
    Prop :=
  if bitmask then type.signed = false ∧
    ∃ flags, flagString range bits = .ok flags ∧ (flags = "" ∨ context.verbose = true)
  else context.verbose = true

section integers

variable {context : Context} {type : IntT} {value other bits : Nat} {range : EnumNameRange}
  {bitmask : Bool}

theorem maskText_shows {flags : String} (small : value < 256 ^ type.size)
    (less : other < 256 ^ type.size) (visible : flags = "" ∨ context.verbose = true)
    (same : maskText context (hexString type.size value) flags =
      maskText context (hexString type.size other) flags) : value = other := by
  rw [maskText,maskText] at same
  by_cases unset : flags = ""
  · rw [if_pos unset,if_pos unset] at same
    exact hexString_alone small less same
  · have verbose := visible.resolve_left unset
    rw [if_neg unset,if_neg unset,if_pos verbose,if_pos verbose] at same
    exact bracketed_inj small less same

theorem valueText_shows {name : String} {val : Int} (small : value < 256 ^ type.size)
    (less : other < 256 ^ type.size) (verbose : context.verbose = true)
    (same : valueText context (hexString type.size value) name val =
      valueText context (hexString type.size other) name val) : value = other := by
  rw [valueText,valueText,if_pos verbose,if_pos verbose,if_pos verbose,if_pos verbose] at same
  by_cases named : name ≠ ""
  · rw [if_pos named,if_pos named] at same
    exact bracketed_inj small less same
  · rw [if_neg named,if_neg named] at same
    exact bracketed_inj small less same

theorem integerText_shows (small : value < 256 ^ type.size) (less : other < 256 ^ type.size)
    (visible : ShowsHex context type bits range bitmask)
    (same : integerText context type (hexString type.size value) bits range bitmask =
      integerText context type (hexString type.size other) bits range bitmask) : value = other := by
  cases bitmask with
  | true =>
    obtain ⟨unsigned,flags,set,visible⟩ := visible
    simp only [integerText,if_true,assert,demand_true unsigned,ok_bind,set] at same
    exact maskText_shows small less visible (Except.ok.inj same)
  | false => exact valueText_shows small less visible (Except.ok.inj same)

theorem integerText_hides (hex text : String) (hidden : ¬ShowsHex context type bits range bitmask) :
    integerText context type hex bits range bitmask =
      integerText context type text bits range bitmask := by
  cases bitmask with
  | true =>
    simp only [integerText,if_true]
    by_cases unsigned : type.signed = false
    · rw [assert,demand_true unsigned,ok_bind,ok_bind]
      cases set : flagString range bits with
      | error fault => rfl
      | ok flags =>
        have filled : flags ≠ "" := fun unset => hidden ⟨unsigned,flags,set,.inl unset⟩
        have terse : ¬context.verbose = true := fun verbose =>
          hidden ⟨unsigned,flags,set,.inr verbose⟩
        simp only [ok_bind,maskText,if_neg filled,if_neg terse]
    · rw [assert,demand_false unsigned]
      rfl
  | false =>
    have terse : ¬context.verbose = true := hidden
    simp only [integerText,valueText,if_neg terse,Bool.false_eq_true,if_false]

/-- The ordered bits are the same both ways, and the text beside them differs. -/
theorem formatInteger_same (small : value < 256 ^ type.size) :
    formatInteger context type value false range bitmask =
        formatInteger context type (bswap type.size value) true range bitmask ↔
      (ShowsHex context type value range bitmask → bswap type.size value = value) := by
  have back : ordered type.size (bswap type.size value) true = value := bswap_bswap small
  rw [formatInteger,formatInteger,back]
  constructor
  · intro same visible
    exact (integerText_shows small bswap_lt visible same).symm
  · intro palindrome
    by_cases visible : ShowsHex context type value range bitmask
    · rw [palindrome visible]
      rfl
    · exact integerText_hides _ _ visible

theorem foldlM_ok {σ ι : Type} {step : σ → ι → Checked σ} (items : List ι)
    (good : ∀ item ∈ items,∀ state,∃ next, step state item = .ok next) (state : σ) :
    ∃ last, items.foldlM step state = .ok last := by
  induction items generalizing state with
  | nil => exact ⟨state,rfl⟩
  | cons item items ih =>
    obtain ⟨next,stepped⟩ := good item (by simp) state
    obtain ⟨last,folded⟩ := ih (fun item member => good item (by simp [member])) next
    exact ⟨last,by rw [List.foldlM_cons,stepped,ok_bind,folded]⟩

theorem flagString_ok (few : range.max < 32) : ∃ flags, flagString range value = .ok flags := by
  unfold flagString
  split
  · exact ⟨"",rfl⟩
  · apply foldlM_ok
    intro i member flags
    have inside : i < 32 := by
      obtain ⟨_,upper⟩ := List.mem_range'_1.mp member
      omega
    rw [appendFlag,if_pos inside]
    exact ⟨_,rfl⟩

theorem formatInteger_ok (fits : bitmask = true → type.signed = false ∧ range.max < 32)
    (byteswap : Bool) : ∃ text, formatInteger context type value byteswap range bitmask = .ok text := by
  cases bitmask with
  | true =>
    obtain ⟨unsigned,few⟩ := fits rfl
    obtain ⟨flags,set⟩ : ∃ flags, flagString range (ordered type.size value byteswap) = .ok flags :=
      flagString_ok few
    rw [formatInteger,integerText,if_pos rfl,assert,demand_true unsigned,ok_bind,set]
    exact ⟨_,rfl⟩
  | false => exact ⟨_,rfl⟩

theorem formatZeroBits_same (expression : String) {zeroBits : Nat} (small : value < 256 ^ type.size)
    (legal : value &&& zeroBits = 0) (fits : bitmask = true → type.signed = false ∧ range.max < 32) :
    formatZeroBits context expression type zeroBits value false range bitmask =
        formatZeroBits context expression type zeroBits (bswap type.size value) true range bitmask ↔
      bswap type.size value &&& zeroBits = 0 ∧
        (ShowsHex context type value range bitmask → bswap type.size value = value) := by
  rw [formatZeroBits,formatZeroBits,assert,demand_true legal,ok_bind]
  by_cases swapped : bswap type.size value &&& zeroBits = 0
  · rw [assert,demand_true swapped,ok_bind,formatInteger_same small]
    simp only [swapped,true_and]
  · obtain ⟨text,shown⟩ := @formatInteger_ok context type value range bitmask fits false
    rw [assert,demand_false swapped,shown]
    simp [swapped]

end integers

section types

variable {context : Context} {value : Nat} {range : EnumNameRange}

/-- Without names for its flags a bitmask is shown as digits alone. -/
theorem formatInteger_hex {type : IntT} (unsigned : type.signed = false) (byteswap : Bool) :
    formatInteger context type value byteswap .none true = .ok (hexString type.size value) := by
  rw [formatInteger,integerText,if_pos rfl,assert,demand_true unsigned]
  rfl

theorem formatKEYSYM_same (small : value < 256 ^ 4) :
    formatKEYSYM context value false = formatKEYSYM context (bswap 4 value) true ↔
      bswap 4 value = value := by
  rw [formatKEYSYM,formatKEYSYM,formatInteger_hex rfl,formatInteger_hex rfl]
  constructor
  · intro same
    exact (hexString_alone small bswap_lt (Except.ok.inj same)).symm
  · intro palindrome
    rw [palindrome]

/-- What `_formatVariable` of a TIMESTAMP puts behind the digits. -/
def timeSuffix (context : Context) (data : Nat) (range : EnumNameRange) : String :=
  if range.has data then "(" ++ range.name data ++ ")"
  else if context.systemtimeformat then "(" ++ context.localtime (time_ context data) ++ ")"
  else ""

theorem formatTIMESTAMP_text (admitted : range.empty = true ∨ range.names = time.names)
    (byteswap : Bool) : formatTIMESTAMP context value byteswap range =
      .ok (hexString 4 value ++ timeSuffix context value range) := by
  rw [formatTIMESTAMP,assert,demand_true admitted,ok_bind,formatInteger_hex rfl,ok_bind,pure_ok,
    timeSuffix]
  split
  · simp only [bracketed,String.append_assoc]
    rfl
  · split
    · simp only [bracketed,String.append_assoc]
      rfl
    · simp only [String.append_empty]
      rfl

theorem formatTIMESTAMP_same (small : value < 256 ^ 4)
    (admitted : range.empty = true ∨ range.names = time.names) :
    formatTIMESTAMP context value false range = formatTIMESTAMP context (bswap 4 value) true range ↔
      bswap 4 value = value := by
  rw [formatTIMESTAMP_text admitted,formatTIMESTAMP_text admitted]
  constructor
  · intro same
    exact (hexString_inj small bswap_lt (Except.ok.inj same)).symm
  · intro palindrome
    rw [palindrome]

theorem bswap_zero : bswap 4 0 = 0 := by decide

theorem bswap_nonzero (small : value < 256 ^ 4) (nonzero : value ≠ 0) : bswap 4 value ≠ 0 := by
  intro swapped
  have back := bswap_bswap small
  rw [swapped,bswap_zero] at back
  exact nonzero back.symm

/-- A range with one name has no other value than 0. -/
theorem has_zero (single : range.names.length ≤ 1) (nonzero : value ≠ 0) : range.has value = false := by
  rcases range.valid with empty | ⟨_,few⟩
  · simp [EnumNameRange.has,EnumNameRange.empty,empty]
  · have beyond : ¬value ≤ range.max := by omega
    simp [EnumNameRange.has,beyond]

abbrev AtomRange (range : EnumNameRange) : Prop :=
  range.empty = true ∨ range.names = zero_none.names ∨ range.names = GetProperty.type_names.names

theorem AtomRange.single (admitted : AtomRange range) : range.names.length ≤ 1 := by
  rcases admitted with empty | none | type
  · rw [List.isEmpty_iff.mp empty]
    decide
  · rw [none]
    decide
  · rw [type]
    decide

theorem formatATOM_text (admitted : AtomRange range) (legal : value &&& 0xE0000000 = 0)
    (nonzero : value ≠ 0) (byteswap : Bool) : ∃ number,
      formatInteger context .CARD32 value byteswap .none false = .ok number ∧
      formatATOM context value byteswap range = .ok (bracketed number (atomName context value)) := by
  obtain ⟨number,shown⟩ := @formatInteger_ok context .CARD32 value .none false (by decide) byteswap
  refine ⟨number,shown,?_⟩
  rw [formatATOM,assert,demand_true legal,ok_bind,assert,demand_true admitted,ok_bind,
    has_zero admitted.single nonzero,if_neg (by decide),shown]
  rfl

theorem bracketed_right (outer inner other : String)
    (same : bracketed outer inner = bracketed outer other) : inner = other := by
  rw [bracketed,bracketed,String.append_left_inj,String.append_right_inj] at same
  exact same

theorem formatInteger_verbose (verbose : context.verbose = true) (byteswap : Bool) :
    ∃ rest, formatInteger context .CARD32 value byteswap .none false =
      .ok (hexString 4 value ++ rest) := by
  rw [formatInteger,integerText,if_neg (by decide),valueText]
  simp only [if_pos verbose,bracketed,String.append_assoc]
  split <;> exact ⟨_,rfl⟩

theorem formatATOM_palindrome (palindrome : bswap 4 value = value) :
    formatATOM context value false range = formatATOM context value true range := by
  have same : ∀ names, formatInteger context .CARD32 value false names false =
      formatInteger context .CARD32 value true names false := by
    intro names
    have bits : ordered IntT.CARD32.size value true = ordered IntT.CARD32.size value false := palindrome
    rw [formatInteger,formatInteger,bits]
  rw [formatATOM,formatATOM,same,same]

theorem formatATOM_same (small : value < 256 ^ 4) (legal : value &&& 0xE0000000 = 0)
    (admitted : AtomRange range) :
    formatATOM context value false range = formatATOM context (bswap 4 value) true range ↔
      bswap 4 value &&& 0xE0000000 = 0 ∧ (context.verbose = true → bswap 4 value = value) ∧
        atomName context (bswap 4 value) = atomName context value := by
  by_cases palindrome : bswap 4 value = value
  · rw [palindrome]
    exact iff_of_true (formatATOM_palindrome palindrome) ⟨legal,fun _ => rfl,rfl⟩
  · have nonzero : value ≠ 0 := by
      rintro rfl
      exact palindrome bswap_zero
    obtain ⟨number,numbered,text⟩ :=
      @formatATOM_text context value range admitted legal nonzero false
    rw [text]
    by_cases swapped : bswap 4 value &&& 0xE0000000 = 0
    · obtain ⟨other,othered,shown⟩ :=
        @formatATOM_text context (bswap 4 value) range admitted swapped
          (bswap_nonzero small nonzero) true
      rw [shown]
      by_cases verbose : context.verbose = true
      · obtain ⟨rest,first⟩ := @formatInteger_verbose context value verbose false
        obtain ⟨more,second⟩ := @formatInteger_verbose context (bswap 4 value) verbose true
        rw [numbered] at first
        rw [othered] at second
        obtain rfl := Except.ok.inj first
        obtain rfl := Except.ok.inj second
        refine iff_of_false (fun same => ?_) fun agree => palindrome (agree.2.1 verbose)
        have same := Except.ok.inj same
        simp only [bracketed,String.append_assoc] at same
        exact palindrome (hexString_inj small bswap_lt same).symm
      · have alike := (@formatInteger_same context .CARD32 value .none false small).mpr
          fun visible => absurd visible verbose
        rw [numbered] at alike
        obtain rfl : number = other := Except.ok.inj (alike.trans othered)
        constructor
        · intro same
          exact ⟨swapped,fun given => absurd given verbose,
            (bracketed_right _ _ _ (Except.ok.inj same)).symm⟩
        · rintro ⟨_,_,named⟩
          rw [named]
    · rw [formatATOM,assert,demand_false swapped]
      simp [swapped]

theorem low_byte (small : value < 256 ^ 2) (legal : value &&& 0xFF00 = 0) : value < 256 := by
  have high : (value &&& 0xFF00) / 2 ^ 8 = value / 2 ^ 8 &&& 2 ^ 8 - 1 := Nat.and_div_two_pow
  rw [legal,Nat.and_two_pow_sub_one_eq_mod] at high
  omega

theorem bswap_low (low : value < 256) : bswap 2 value = 256 * value := by
  simp only [bswap,encode,List.reverse_cons,List.reverse_nil,List.nil_append,List.cons_append,
    leastFirst,UInt8.toNat_ofNat']
  omega

/-- The text of a mask that is not the sentinel. -/
theorem formatSETofKEYMASK_flags {byteswap : Bool} {flags : String} (other : value ≠ ANYMODIFIER)
    (legal : value &&& 0xFF00 = 0)
    (set : flagString SETofKEYBUTMASK.flag_names (ordered 2 value byteswap) = .ok flags) :
    formatSETofKEYMASK context value byteswap =
      .ok (maskText context (hexString 2 value) flags) := by
  rw [formatSETofKEYMASK,if_neg other,formatZeroBits,assert,demand_true legal,ok_bind,formatInteger,
    integerText,if_pos rfl,assert,demand_true (by rfl),ok_bind]
  change (flagString _ (ordered 2 value byteswap) >>= _) = _
  rw [set]
  rfl

theorem formatSETofKEYMASK_sentinel (byteswap : Bool) :
    formatSETofKEYMASK context ANYMODIFIER byteswap = .ok (if context.verbose = true then
      bracketed (hexString 2 ANYMODIFIER) anymodifier_flag_name else anymodifier_flag_name) := by
  rw [formatSETofKEYMASK,if_pos rfl,formatInteger_hex rfl]
  split <;> rfl

/-- `0x80` and the sentinel are each other's bytes the other way round. -/
theorem sentinel_differs {flags : String} (other : flags ≠ anymodifier_flag_name) :
    maskText context (hexString 2 0x80) flags ≠ if context.verbose = true then
      bracketed (hexString 2 ANYMODIFIER) anymodifier_flag_name else anymodifier_flag_name := by
  intro same
  by_cases verbose : context.verbose = true
  · rw [if_pos verbose,maskText,if_pos verbose] at same
    simp only [bracketed,String.append_assoc] at same
    have small : 0x80 < 256 ^ 2 := by decide
    have less : ANYMODIFIER < 256 ^ 2 := by decide
    have different : (0x80 : Nat) = ANYMODIFIER := by
      split at same
      · rw [← @String.append_empty (hexString 2 0x80)] at same
        exact hexString_inj small less same
      · exact hexString_inj small less same
    exact absurd different (by decide)
  · rw [if_neg verbose,maskText,if_neg verbose] at same
    split at same
    · exact absurd same (by decide)
    · exact other same

theorem formatSETofKEYMASK_same (small : value < 256 ^ 2)
    (legal : value = ANYMODIFIER ∨ value &&& 0xFF00 = 0) :
    formatSETofKEYMASK context value false = formatSETofKEYMASK context (bswap 2 value) true ↔
      bswap 2 value = value := by
  have keyed : flagString SETofKEYBUTMASK.flag_names (ordered 2 0x80 false) = .ok "Mod5" := by decide
  have nothing : flagString SETofKEYBUTMASK.flag_names (ordered 2 0x80 true) = .ok "" := by decide
  rcases legal with rfl | legal
  · refine iff_of_false (fun same => ?_) (by decide)
    rw [formatSETofKEYMASK_sentinel,show bswap 2 ANYMODIFIER = 0x80 by decide,
      formatSETofKEYMASK_flags (by decide) (by decide) nothing] at same
    exact sentinel_differs (by decide) (Except.ok.inj same).symm
  · have low := low_byte small legal
    have apart : value ≠ ANYMODIFIER := by
      unfold ANYMODIFIER
      omega
    obtain ⟨flags,set⟩ : ∃ flags, flagString SETofKEYBUTMASK.flag_names value = .ok flags :=
      flagString_ok (by decide)
    rcases Nat.eq_zero_or_pos value with rfl | positive
    · exact iff_of_true rfl (by decide)
    · refine iff_of_false (fun same => ?_) (by rw [bswap_low low]; omega)
      by_cases half : value = 0x80
      · subst half
        rw [formatSETofKEYMASK_flags (by decide) (by decide) keyed,show bswap 2 0x80 = ANYMODIFIER by decide,
          formatSETofKEYMASK_sentinel] at same
        exact sentinel_differs (by decide) (Except.ok.inj same)
      · have swapped : ¬bswap 2 value &&& 0xFF00 = 0 := by
          intro cleared
          have below := low_byte bswap_lt cleared
          rw [bswap_low low] at below
          omega
        have other : bswap 2 value ≠ ANYMODIFIER := by
          rw [bswap_low low]
          unfold ANYMODIFIER
          omega
        have failed : formatSETofKEYMASK context (bswap 2 value) true = .error (.assertion
            "( setofkeymask.data & protocol::SETofKEYMASK::ZERO_BITS ) == 0") := by
          rw [formatSETofKEYMASK,if_neg other,formatZeroBits,assert,demand_false swapped]
          rfl
        obtain ⟨text,shown⟩ : ∃ text, formatSETofKEYMASK context value false = .ok text :=
          ⟨_,formatSETofKEYMASK_flags apart legal set⟩
        rw [shown,failed] at same
        cases same

end types

/-- The values that a client may send, as they are in its byte order. -/
def Scalar.Legal : Scalar → Nat → Prop
  | .ResourceId,value | .DRAWABLE,value | .FONTABLE,value | .ATOM,value => value &&& 0xE0000000 = 0
  | .SETofEVENT,value => value &&& 0xFE000000 = 0
  | .SETofPOINTEREVENT,value => value &&& 0xFFFF8003 = 0
  | .SETofDEVICEEVENT,value => value &&& 0xFFFFC0B0 = 0
  | .SETofKEYBUTMASK,value => value &&& 0xE000 = 0
  | .SETofKEYMASK,value => value = ANYMODIFIER ∨ value &&& 0xFF00 = 0
  | _,_ => True

/-- The name ranges that the overload is made for. -/
def Scalar.Admits : Scalar → EnumNameRange → Prop
  | .ATOM,range => AtomRange range
  | .TIMESTAMP,range => range.empty = true ∨ range.names = time.names
  | .KEYCODE,range => range.empty = true ∨ range.names = key.names
  | .BUTTON,range => range.empty = true ∨ range.names = button.names
  | _,_ => True

/-- The encoded value agrees with the ordered one wherever the overload looks at it. -/
def Scalar.Agrees (context : Context) (range : EnumNameRange) (bitmask : Bool) : Scalar → Nat → Prop
  | .integer type,value => ShowsHex context type value range bitmask → bswap type.size value = value
  | .ResourceId,value | .DRAWABLE,value | .FONTABLE,value => bswap 4 value &&& 0xE0000000 = 0 ∧
      (ShowsHex context .CARD32 value range false → bswap 4 value = value)
  | .ATOM,value => bswap 4 value &&& 0xE0000000 = 0 ∧
      (context.verbose = true → bswap 4 value = value) ∧
      atomName context (bswap 4 value) = atomName context value
  | .TIMESTAMP,value | .KEYSYM,value => bswap 4 value = value
  | .SETofEVENT,value => bswap 4 value &&& 0xFE000000 = 0 ∧
      (ShowsHex context .CARD32 value SETofEVENTBase.flag_names true → bswap 4 value = value)
  | .SETofPOINTEREVENT,value => bswap 2 value &&& 0xFFFF8003 = 0 ∧
      (ShowsHex context .CARD16 value SETofEVENTBase.flag_names true → bswap 2 value = value)
  | .SETofDEVICEEVENT,value => bswap 2 value &&& 0xFFFFC0B0 = 0 ∧
      (ShowsHex context .CARD16 value SETofEVENTBase.flag_names true → bswap 2 value = value)
  | .SETofKEYBUTMASK,value => bswap 2 value &&& 0xE000 = 0 ∧
      (ShowsHex context .CARD16 value SETofKEYBUTMASK.flag_names true → bswap 2 value = value)
  | .SETofKEYMASK,value => bswap 2 value = value
  | .BITGRAVITY,_ | .WINGRAVITY,_ | .BOOL,_ | .KEYCODE,_ | .BUTTON,_ => True

section scalars

variable {context : Context} {scalar : Scalar} {value : Nat} {range : EnumNameRange} {bitmask : Bool}

theorem formatInteger_byte (small : value < 256 ^ 1) :
    formatInteger context .CARD8 value false range bitmask =
      formatInteger context .CARD8 (bswap 1 value) true range bitmask :=
  (@formatInteger_same context .CARD8 value range bitmask small).mpr fun _ => bswap_one small

theorem formatVariable_same (small : value < 256 ^ scalar.size) (legal : scalar.Legal value)
    (admitted : scalar.Admits range) :
    formatVariable context scalar value false range bitmask =
        formatVariable context scalar (bswap scalar.size value) true range bitmask ↔
      scalar.Agrees context range bitmask value := by
  cases scalar with
  | integer type => exact formatInteger_same small
  | ResourceId => exact formatZeroBits_same _ small legal (by simp)
  | DRAWABLE => exact formatZeroBits_same _ small legal (by simp)
  | FONTABLE => exact formatZeroBits_same _ small legal (by simp)
  | ATOM => exact formatATOM_same small legal admitted
  | TIMESTAMP => exact formatTIMESTAMP_same small admitted
  | BITGRAVITY =>
    refine iff_of_true ?_ trivial
    rw [formatVariable,formatVariable,formatBITGRAVITY,formatBITGRAVITY]
    exact formatInteger_byte small
  | WINGRAVITY =>
    refine iff_of_true ?_ trivial
    rw [formatVariable,formatVariable,formatWINGRAVITY,formatWINGRAVITY]
    exact formatInteger_byte small
  | BOOL =>
    refine iff_of_true ?_ trivial
    rw [formatVariable,formatVariable,formatBOOL,formatBOOL]
    exact formatInteger_byte small
  | SETofEVENT => exact formatZeroBits_same _ small legal (by decide)
  | SETofPOINTEREVENT => exact formatZeroBits_same _ small legal (by decide)
  | SETofDEVICEEVENT => exact formatZeroBits_same _ small legal (by decide)
  | KEYSYM => exact formatKEYSYM_same small
  | KEYCODE =>
    refine iff_of_true ?_ trivial
    simp only [formatVariable,formatKEYCODE,Scalar.size]
    rw [formatInteger_byte small]
  | BUTTON =>
    refine iff_of_true ?_ trivial
    simp only [formatVariable,formatBUTTON,Scalar.size]
    rw [formatInteger_byte small]
  | SETofKEYBUTMASK => exact formatZeroBits_same _ small legal (by decide)
  | SETofKEYMASK => exact formatSETofKEYMASK_same small legal

theorem formatZeroBits_ok {type : IntT} {zeroBits : Nat} (expression : String)
    (legal : value &&& zeroBits = 0) (fits : bitmask = true → type.signed = false ∧ range.max < 32)
    (byteswap : Bool) :
    ∃ text, formatZeroBits context expression type zeroBits value byteswap range bitmask = .ok text := by
  obtain ⟨text,shown⟩ := @formatInteger_ok context type value range bitmask fits byteswap
  exact ⟨text,by rw [formatZeroBits,assert,demand_true legal,ok_bind,shown]⟩

/-- No assertion fails when the zero bits of the encoded value are clear. -/
theorem formatVariable_ok (legal : scalar.Legal value) (admitted : scalar.Admits range)
    (wrapped : ∀ type, scalar ≠ .integer type) (byteswap : Bool) :
    ∃ text, formatVariable context scalar value byteswap range bitmask = .ok text := by
  cases scalar with
  | integer type => exact absurd rfl (wrapped type)
  | ResourceId => exact formatZeroBits_ok _ legal (by simp) byteswap
  | DRAWABLE => exact formatZeroBits_ok _ legal (by simp) byteswap
  | FONTABLE => exact formatZeroBits_ok _ legal (by simp) byteswap
  | ATOM =>
    have named : AtomRange range := admitted
    have cleared : value &&& 0xE0000000 = 0 := legal
    rw [formatVariable,formatATOM,assert,demand_true cleared,ok_bind,assert,demand_true named,ok_bind]
    split <;> exact ⟨_,rfl⟩
  | TIMESTAMP => exact ⟨_,formatTIMESTAMP_text admitted byteswap⟩
  | BITGRAVITY => exact ⟨_,rfl⟩
  | WINGRAVITY => exact ⟨_,rfl⟩
  | BOOL => exact ⟨_,rfl⟩
  | SETofEVENT => exact formatZeroBits_ok _ legal (by decide) byteswap
  | SETofPOINTEREVENT => exact formatZeroBits_ok _ legal (by decide) byteswap
  | SETofDEVICEEVENT => exact formatZeroBits_ok _ legal (by decide) byteswap
  | KEYSYM => exact ⟨_,formatInteger_hex rfl byteswap⟩
  | KEYCODE =>
    have named : range.empty = true ∨ range.names = key.names := admitted
    rw [formatVariable,formatKEYCODE,assert,demand_true named]
    exact ⟨_,rfl⟩
  | BUTTON =>
    have named : range.empty = true ∨ range.names = button.names := admitted
    rw [formatVariable,formatBUTTON,assert,demand_true named]
    exact ⟨_,rfl⟩
  | SETofKEYBUTMASK => exact formatZeroBits_ok _ legal (by decide) byteswap
  | SETofKEYMASK =>
    by_cases sentinel : value = ANYMODIFIER
    · subst sentinel
      exact ⟨_,formatSETofKEYMASK_sentinel byteswap⟩
    · rw [formatVariable,formatSETofKEYMASK,if_neg sentinel]
      exact formatZeroBits_ok _ (legal.resolve_left sentinel) (by decide) byteswap

/-- The text is that of the same value from a client of the other byte order, and for a
protocol type no assertion fails there either. -/
def OrderFree (context : Context) (scalar : Scalar) (value : Nat) (range : EnumNameRange)
    (bitmask : Bool) : Prop :=
  formatVariable context scalar value false range bitmask =
      formatVariable context scalar (bswap scalar.size value) true range bitmask ∧
    ((∀ type, scalar ≠ .integer type) → ∀ fault,
      formatVariable context scalar (bswap scalar.size value) true range bitmask ≠ .error fault)

/-- Formatting does not depend on the byte order exactly where the encoded value, which the
digits, the tables, the sentinel and the zero bits are taken from, agrees with the ordered one. -/
theorem formatVariable_order (small : value < 256 ^ scalar.size) (legal : scalar.Legal value)
    (admitted : scalar.Admits range) : OrderFree context scalar value range bitmask ↔
      scalar.Agrees context range bitmask value := by
  have same := @formatVariable_same context scalar value range bitmask small legal admitted
  constructor
  · intro free
    exact same.mp free.1
  · intro agrees
    refine ⟨same.mpr agrees,fun wrapped fault failed => ?_⟩
    obtain ⟨text,shown⟩ := @formatVariable_ok context scalar value range bitmask legal admitted
      wrapped false
    rw [← same.mpr agrees,shown] at failed
    cases failed

end scalars

/-- A terse context with one atom. -/
def terse : Context where
  verbose := false
  systemtimeformat := false
  ref_TIMESTAMP := 0
  ref_unix_time := 0
  interned_atoms := fun atom => if atom = 1 then some "PRIMARY" else none
  quoted := fun text => "\"" ++ text ++ "\""
  localtime := fun _ => ""

/-- An integer that is shown by its value alone. -/
theorem formatVariable_order_terse :
    OrderFree terse (.integer .CARD16) 0x0102 .none false ↔
      (Scalar.integer .CARD16).Agrees terse .none false 0x0102 :=
  formatVariable_order (by decide) trivial trivial

/-- Atom 1 is looked for under another number, `AnyModifier` is taken for a button, and the
ID of a window is taken for one with zero bits set. -/
theorem formatVariable_swapped :
    formatVariable terse .ATOM 1 false .none false = .ok "1(\"PRIMARY\")" ∧
    formatVariable terse .ATOM (bswap 4 1) true .none false = .ok "1(unrecognized atom)" ∧
    ¬OrderFree terse .ATOM 1 .none false ∧
    formatVariable terse .SETofKEYMASK ANYMODIFIER false .none false = .ok "AnyModifier" ∧
    formatVariable terse .SETofKEYMASK (bswap 2 ANYMODIFIER) true .none false = .ok "0x0080" ∧
    ¬OrderFree terse .ResourceId 0xE0 .none false := by
  refine ⟨by decide,by decide,?_,by decide,by decide,?_⟩
  · intro free
    exact absurd free.1 (by decide)
  · intro free
    exact absurd free.1 (by decide)

/-! Server times are counts of milliseconds that do not wrap; a field holds one modulo
`2^32`, and so does `ref_TIMESTAMP`. -/

/-- The field of a client that writes the server time, as the host loads it. -/
def timeField (time : Nat) (byteswap : Bool) : Nat := Formatting.ordered 4 (time % 2^32) byteswap

/-- The server time that a field stands for within the period of the reference. -/
def instant (reference field : Nat) : Int := (reference / 2^32 * 2^32 + field : Nat)

/-- As many whole seconds away from the reference. -/
def SameSecond (reference : Nat) (left right : Int) : Prop :=
  (left - reference).tdiv 1000 = (right - reference).tdiv 1000

/-- The server time is in the period of the reference, and for the other byte order the four
bytes of its field read the same both ways. -/
def TimeKept (reference time : Nat) (byteswap : Bool) : Prop :=
  time / 2^32 = reference / 2^32 ∧ (byteswap = true → bswap 4 (time % 2^32) = time % 2^32)

section timestamps

variable {context : Context} {reference time : Nat} {byteswap : Bool}

theorem time_instant (fetched : context.ref_TIMESTAMP = reference % 2^32) (field : Nat) :
    time_ context field = (instant reference field - reference).tdiv 1000 + context.ref_unix_time := by
  have apart : (field : Int) - (reference % 2^32 : Nat) = instant reference field - reference := by
    unfold instant
    omega
  rw [time_,fetched,apart]

theorem tdiv_seconds (span : Int) :
    span.tdiv 1000 = if 0 ≤ span then span / 1000 else -(-span / 1000) := by
  split
  · exact Int.tdiv_eq_ediv_of_nonneg ‹_›
  · rw [← Int.neg_neg span,Int.neg_tdiv,Int.tdiv_eq_ediv_of_nonneg (by omega),Int.neg_neg]

theorem second_near {left right : Int} (same : SameSecond reference left right) :
    (left - right).natAbs < 2000 := by
  rw [SameSecond,tdiv_seconds,tdiv_seconds] at same
  split at same <;> split at same <;> omega

theorem bswap_bytes (value : Nat) : bswap 4 value = value / 16777216 % 256 + 256 * (value / 65536 % 256) +
    65536 * (value / 256 % 256) + 16777216 * (value % 256) := by
  simp only [bswap,encode,List.reverse_cons,List.reverse_nil,List.nil_append,List.cons_append,leastFirst,
    UInt8.toNat_ofNat',Nat.div_div_eq_div_mul,Nat.reduceMul,Nat.reducePow]
  omega

/-- Four bytes that do not read the same both ways are off by more than two seconds. -/
theorem bswap_far {low : Nat} {periods : Int} (small : low < 2^32)
    (near : (2^32 * periods + bswap 4 low - low).natAbs < 2000) : periods = 0 ∧ bswap 4 low = low := by
  rw [bswap_bytes] at near ⊢
  obtain ⟨a,ha⟩ : ∃ a, a = low / 16777216 % 256 := ⟨_,rfl⟩
  obtain ⟨b,hb⟩ : ∃ b, b = low / 65536 % 256 := ⟨_,rfl⟩
  obtain ⟨c,hc⟩ : ∃ c, c = low / 256 % 256 := ⟨_,rfl⟩
  obtain ⟨d,hd⟩ : ∃ d, d = low % 256 := ⟨_,rfl⟩
  have whole : low = 16777216 * a + 65536 * b + 256 * c + d := by omega
  have first : a < 256 := by omega
  have second : b < 256 := by omega
  have third : c < 256 := by omega
  have last : d < 256 := by omega
  rw [← ha,← hb,← hc,← hd] at near ⊢
  clear ha hb hc hd
  subst whole
  have none : periods = 0 := by omega
  subst none
  have outer : a = d := by omega
  subst outer
  have inner : b = c := by omega
  subst inner
  exact ⟨rfl,by omega⟩

theorem timeField_kept : SameSecond reference (instant reference (timeField time byteswap)) time ↔
    TimeKept reference time byteswap := by
  have low : time % 2^32 < 2^32 := Nat.mod_lt _ (by decide)
  constructor
  · intro same
    have near := second_near same
    unfold instant timeField Formatting.ordered at near
    cases byteswap with
    | true =>
      rw [if_pos rfl] at near
      have far := @bswap_far (time % 2^32) (reference / 2^32 - time / 2^32) low (by omega)
      exact ⟨by omega,fun _ => far.2⟩
    | false =>
      rw [if_neg Bool.false_ne_true] at near
      exact ⟨by omega,fun swapped => absurd swapped Bool.false_ne_true⟩
  · rintro ⟨period,bytes⟩
    have field : timeField time byteswap = time % 2^32 := by
      unfold timeField Formatting.ordered
      split
      · exact bytes ‹_›
      · rfl
    have back : instant reference (time % 2^32) = time := by
      unfold instant
      omega
    rw [field,back,SameSecond]

theorem time_kept (fetched : context.ref_TIMESTAMP = reference % 2^32) :
    time_ context (timeField time byteswap) =
        context.ref_unix_time + ((time : Int) - reference).tdiv 1000 ↔
      TimeKept reference time byteswap := by
  rw [← timeField_kept,time_instant fetched,SameSecond]
  omega

/-- Where the range has no name for a field, its text is the wall time. -/
theorem formatTIMESTAMP_wall {field : Nat} {range : EnumNameRange}
    (shown : context.systemtimeformat = true) (unnamed : range.has field = false)
    (admitted : range.empty = true ∨ range.names = Formatting.time.names) :
    formatTIMESTAMP context field byteswap range =
      .ok (bracketed (hexString 4 field) (context.localtime (time_ context field))) := by
  rw [formatTIMESTAMP_text admitted,timeSuffix,if_neg (by simp [unnamed]),if_pos shown,bracketed]
  simp only [String.append_assoc]

/-- What is shown is the wall time, which is that of the reference and the seconds since then, and
so in the order of the server times, exactly where the field keeps the server time. -/
theorem time_wall (fetched : context.ref_TIMESTAMP = reference % 2^32) :
    (∀ range : EnumNameRange,context.systemtimeformat = true →
      range.has (timeField time byteswap) = false →
      (range.empty = true ∨ range.names = Formatting.time.names) →
        formatTIMESTAMP context (timeField time byteswap) byteswap range =
          .ok (bracketed (hexString 4 (timeField time byteswap))
            (context.localtime (time_ context (timeField time byteswap))))) ∧
    (time_ context (timeField time byteswap) =
        context.ref_unix_time + ((time : Int) - reference).tdiv 1000 ↔
      TimeKept reference time byteswap) ∧
    ∀ later, time ≤ later → TimeKept reference time byteswap → TimeKept reference later byteswap →
      time_ context (timeField time byteswap) ≤ time_ context (timeField later byteswap) := by
  refine ⟨fun range shown unnamed admitted => formatTIMESTAMP_wall shown unnamed admitted,
    time_kept fetched,fun later after kept still => ?_⟩
  rw [(time_kept fetched).mpr kept,(time_kept fetched).mpr still]
  have grows : ((time : Int) - reference).tdiv 1000 ≤ ((later : Int) - reference).tdiv 1000 :=
    Int.tdiv_le_tdiv (by decide) (by omega)
  omega

end timestamps

/-- The reference was taken one second before the counter wrapped. -/
def wrapping : Context := { terse with systemtimeformat := true, ref_TIMESTAMP := 2^32 - 1000 }

/-- A second after the reference, and the other byte order with four equal bytes. -/
theorem time_wall_before :
    formatTIMESTAMP wrapping (timeField (2^32 - 1) true) true .none =
      .ok (bracketed (hexString 4 (timeField (2^32 - 1) true))
        (wrapping.localtime (time_ wrapping (timeField (2^32 - 1) true)))) ∧
    time_ wrapping (timeField (2^32 - 1) true) =
      wrapping.ref_unix_time + ((2^32 - 1 : Nat) - (2^32 - 1000 : Nat) : Int).tdiv 1000 := by
  have wall := @time_wall wrapping (2^32 - 1000) (2^32 - 1) true (by decide)
  exact ⟨wall.1 .none rfl (by decide) (.inl rfl),wall.2.1.mpr ⟨by decide,fun _ => by decide⟩⟩

/-- Two seconds later on the server are seven weeks earlier on the wall. -/
theorem time_wall_wrapped :
    ((2^32 + 1000 : Nat) - (2^32 - 1000 : Nat) : Int).natAbs ≤ 2^31 ∧
    time_ wrapping (timeField (2^32 + 1000) false) = -4294965 ∧
    ((2^32 + 1000 : Nat) - (2^32 - 1000 : Nat) : Int).tdiv 1000 = 2 ∧
    ¬time_ wrapping (timeField (2^32 + 1000) false) =
      wrapping.ref_unix_time + ((2^32 + 1000 : Nat) - (2^32 - 1000 : Nat) : Int).tdiv 1000 := by
  decide

end Formatting
end Xtracepp
