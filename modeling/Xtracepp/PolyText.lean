import Xtracepp.ListParsing

/-! The items of PolyText8 and PolyText16: members of a list without a count.
-/
namespace Xtracepp
open Library.Outcome Library.Framing

/-- `ntohl` of an integer as loaded from raw bytes. -/
def ntohl (littleEndian : Bool) (encoded : List UInt8) : Nat :=
  ordered littleEndian littleEndian encoded

theorem ntohl_mostFirst (littleEndian : Bool) {value : Nat} (small : value < 2^32) :
    ntohl littleEndian (mostFirst value) = value := by
  cases littleEndian <;> exact leastFirst_reverse_mostFirst small

namespace PolyText
open ListParsing

def FONT_SHIFT : UInt8 := 255

/-- What is formatted of an item. -/
inductive Shown (χ : Type)
  | font (font : Nat)
  | text (delta : Int8) (string : List χ)
  deriving DecidableEq, Repr

structure CHAR2B where
  byte1 : UInt8
  byte2 : UInt8
  deriving DecidableEq, Repr

/-- `_parseListMember< CHAR2B >`, printed as the host loads it in either byte order. -/
def parseCHAR2B (littleEndian : Bool) : ListMember Nat := fun data sz => do
  assert "sz >= sizeof( ProtocolStructT )" (2 ≤ sz)
  let memb ← readBytes data 0 2
  return (loaded littleEndian memb,2)

variable {χ ω : Type}

/-- What `_parseListMember< TEXTITEM8 >` and `_parseListMember< TEXTITEM16 >` have in common;
`parseString` reads the string of a text element, given its length. -/
def parseTEXTITEM (expression : String) (parseString : Nat → ListMember (List χ))
    (littleEndian byteswap : Bool) : ListMember (Shown χ) := fun data sz => do
  assert expression (2 ≤ sz)
  -- the union is copied whole, whichever of its members the item is
  let item ← readBytes data 0 5
  if item.getD 0 0 = FONT_SHIFT then
    let font ← formatResourceId byteswap (ntohl littleEndian (slice item 1 4))
    return (.font font,5)
  else
    let string ← parseString (item.getD 0 0).toNat (data.drop 2) (sub64 sz 2)
    return (.text (item.getD 1 0).toInt8 string.1,(2 + string.2) % 2^32)

/-- `std::string_view` of STRING8. -/
def parseSTRING8 (string_len : Nat) : ListMember (List UInt8) := fun data _ => do
  return (← readBytes data 0 string_len,string_len)

/-- `_parseLISTof< CHAR2B >`. -/
def parseSTRING16 (littleEndian : Bool) (string_2B_len : Nat) : ListMember (List Nat) :=
  fun data sz => do
    let string ← parseLISTofCounted (parseCHAR2B littleEndian) data sz string_2B_len ⟨[],0⟩
    return (string.members,string.bytes_parsed)

def CHAR2B.bytes (char : CHAR2B) : List UInt8 := [char.byte1,char.byte2]

/-- The number that is printed, whichever the byte order of the client. -/
def CHAR2B.shown (littleEndian : Bool) (char : CHAR2B) : Nat := loaded littleEndian char.bytes

/-- `_parseListMember< TEXTITEM8 >`. -/
def parseTEXTITEM8 (littleEndian byteswap : Bool) : ListMember (Shown UInt8) :=
  parseTEXTITEM "sz >= sizeof( PolyText8::TEXTITEM8::TEXTELT8 )" parseSTRING8 littleEndian byteswap

/-- `_parseListMember< TEXTITEM16 >`. -/
def parseTEXTITEM16 (littleEndian byteswap : Bool) : ListMember (Shown Nat) :=
  parseTEXTITEM "sz >= sizeof( PolyText16::TEXTITEM16::TEXTELT16 )" (parseSTRING16 littleEndian)
    littleEndian byteswap

/-- An item as a client means it. -/
inductive TextItem (χ : Type)
  | font (id : UInt32)
  | text (delta : Int8) (string : List χ) (length : 1 ≤ string.length ∧ string.length ≤ 254)

def TextItem.encode (bytes : χ → List UInt8) : TextItem χ → List UInt8
  | .font id => FONT_SHIFT :: mostFirst id.toNat
  | .text delta string _ =>
    UInt8.ofNat string.length :: delta.toUInt8 :: string.flatMap bytes

/-- An item as it should be formatted, with each character as `char` prints it. -/
def TextItem.shown (char : χ → ω) : TextItem χ → Shown ω
  | .font id => .font id.toNat
  | .text delta string _ => .text delta (string.map char)

/-- A font is a resource ID that the reversal of its bytes, if there is one, leaves as it is. -/
def TextItem.Sound (byteswap : Bool) : TextItem χ → Prop
  | .font id => id.toNat &&& ZERO_BITS = 0 ∧ (byteswap = true → bswap32 id.toNat = id.toNat)
  | .text _ _ _ => True

/-- The encoding with its pad bytes. -/
def padded (encoding : List UInt8) : List UInt8 :=
  encoding ++ List.replicate ((4 - encoding.length % 4) % 4) 0

/-- What a parse function makes of an encoded item, with more bytes behind it. -/
structure Reads {ι : Type} (parseListMember : ListMember σ) (encode : ι → List UInt8)
    (shown : ι → σ) (sound : ι → Prop) : Prop where
  long : ∀ item, 3 ≤ (encode item).length
  short : ∀ item more, (encode item ++ more).length < 5 → ∀ sz member,
    parseListMember (encode item ++ more) sz ≠ .ok member
  whole : ∀ item more, sound item → 5 ≤ (encode item ++ more).length →
    (encode item ++ more).length < 2^64 →
      parseListMember (encode item ++ more) (encode item ++ more).length =
        .ok (shown item,(encode item).length)
  wrong : ∀ item more, ¬sound item → ∀ sz member,
    parseListMember (encode item ++ more) sz = .ok member → member.1 ≠ shown item

section loop

variable {ι : Type} {parseListMember : ListMember σ} {encode : ι → List UInt8} {shown : ι → σ}
  {sound : ι → Prop} {data : List UInt8} {sz fuel : Nat} {outputs result : ParsingOutputs σ}

theorem parseLISTof_members
    (done : parseLISTof parseListMember data sz fuel outputs = some (.ok result)) :
    outputs.members <+: result.members := by
  induction fuel generalizing outputs with
  | zero => cases done
  | succ fuel ih =>
    unfold parseLISTof at done
    split at done
    · split at done
      · cases done
      · exact (List.prefix_append _ _).trans (ih done)
    · cases done
      exact List.prefix_rfl

theorem parseLISTof_small (small : outputs.bytes_parsed < 2^32)
    (done : parseLISTof parseListMember data sz fuel outputs = some (.ok result)) :
    result.bytes_parsed < 2^32 := by
  induction fuel generalizing outputs with
  | zero => cases done
  | succ fuel ih =>
    unfold parseLISTof at done
    split at done
    · split at done
      · cases done
      · exact ih (Nat.mod_lt _ (by decide)) done
    · cases done
      exact small

theorem pad_length (list : List UInt8) (small : list.length < 2^32) :
    Alignment.pad list.length = (padded list).length := by
  rw [Alignment.pad_small (by omega)]
  simp [padded]

/-- An item that is sound, with five bytes left, is read whole, and the loop goes on behind it. -/
theorem parseLISTof_sound (reads : Reads parseListMember encode shown sound) {item : ι}
    {more : List UInt8} (here : Alignment.pad outputs.bytes_parsed < sz)
    (dropped : data.drop outputs.bytes_parsed = encode item ++ more)
    (left : sub64 sz outputs.bytes_parsed = (encode item ++ more).length)
    (good : sound item) (room : 5 ≤ (encode item ++ more).length)
    (limit : (encode item ++ more).length < 2^64) (fuel : Nat) :
    parseLISTof parseListMember data sz (fuel + 1) outputs =
      parseLISTof parseListMember data sz fuel
        (outputs.add (shown item,(encode item).length)) := by
  have parsed := reads.whole item more good room limit
  rw [parseLISTof,if_pos here,dropped,left,parsed]

/-- An item that is not sound is read as another. -/
theorem parseLISTof_wrong (reads : Reads parseListMember encode shown sound) {item : ι}
    {more : List UInt8} {rest : List σ} (here : Alignment.pad outputs.bytes_parsed < sz)
    (dropped : data.drop outputs.bytes_parsed = encode item ++ more) (wrong : ¬sound item)
    (done : parseLISTof parseListMember data sz fuel outputs = some (.ok result)) :
    result.members ≠ outputs.members ++ shown item :: rest := by
  intro members
  cases fuel with
  | zero => cases done
  | succ fuel =>
    rw [parseLISTof,if_pos here,dropped] at done
    split at done
    · cases done
    · rename_i member parsed
      obtain ⟨tail,same⟩ := parseLISTof_members done
      rw [members] at same
      simp only [ParsingOutputs.add,List.append_assoc,List.append_cancel_left_eq,
        List.singleton_append,List.cons.injEq] at same
      exact reads.wrong item more wrong _ member parsed same.1

/-- An item with fewer than five bytes left is not read at all. -/
theorem parseLISTof_short (reads : Reads parseListMember encode shown sound) {item : ι}
    {more : List UInt8} (dropped : data.drop outputs.bytes_parsed = encode item ++ more)
    (short : (encode item ++ more).length < 5)
    (done : parseLISTof parseListMember data sz fuel outputs = some (.ok result)) :
    result = outputs := by
  cases fuel with
  | zero => cases done
  | succ fuel =>
    rw [parseLISTof] at done
    split at done
    · rw [dropped] at done
      split at done
      · cases done
      · rename_i member parsed
        exact absurd parsed (reads.short item more short _ member)
    · cases done
      rfl

/-- What is left of an encoding from one of its items on. -/
theorem padded_from (front : List UInt8) (item : ι) (items : List ι) :
    ∃ more,padded (front ++ encoding encode (item :: items)) = front ++ (encode item ++ more) := by
  obtain ⟨zeros,same⟩ : ∃ zeros,padded (front ++ encoding encode (item :: items)) =
      front ++ encoding encode (item :: items) ++ zeros := ⟨_,rfl⟩
  refine ⟨encoding encode items ++ zeros,?_⟩
  rw [same]
  simp [encoding]

/-- The loop from an item on: it ends with the items that are left if each of them is sound
and has five bytes left from its start on, and only then. -/
theorem parseLISTof_from (reads : Reads parseListMember encode shown sound) (front : List UInt8)
    (items : List ι) (small : (front ++ encoding encode items).length < 2^32)
    (read : outputs.bytes_parsed = front.length) :
    (∃ fuel result, parseLISTof parseListMember (padded (front ++ encoding encode items))
        (padded (front ++ encoding encode items)).length fuel outputs = some (.ok result) ∧
      result.members = outputs.members ++ items.map shown ∧
        result.bytes_parsed = (front ++ encoding encode items).length) ↔
    (∀ item ∈ items,sound item) ∧ ∀ span ∈ spans front.length (items.map encode),
      span.1 + 5 ≤ (padded (front ++ encoding encode items)).length := by
  induction items generalizing front outputs with
  | nil =>
    have whole : front ++ encoding encode [] = front := by simp [encoding]
    rw [whole] at small ⊢
    have full : ¬Alignment.pad outputs.bytes_parsed < (padded front).length := by
      rw [read,pad_length front small]
      exact Nat.lt_irrefl _
    refine ⟨fun _ => ⟨by simp,by simp [spans]⟩,fun _ => ⟨1,outputs,?_,by simp,read⟩⟩
    rw [parseLISTof,if_neg full]
  | cons item items ih =>
    have whole : front ++ encoding encode (item :: items) =
        (front ++ encode item) ++ encoding encode items := by simp [encoding]
    obtain ⟨more,split⟩ := padded_from front item items
    have length := congrArg List.length split
    rw [List.length_append] at length
    have bound : (padded (front ++ encoding encode (item :: items))).length < 2^32 + 4 := by
      rw [padded,List.length_append,List.length_replicate]
      omega
    have before : front.length < 2^32 := by
      rw [List.length_append] at small
      omega
    have dropped : (padded (front ++ encoding encode (item :: items))).drop outputs.bytes_parsed =
        encode item ++ more := by
      rw [split,read,List.drop_left]
    have left : sub64 (padded (front ++ encoding encode (item :: items))).length
        outputs.bytes_parsed = (encode item ++ more).length := by
      rw [read,sub64_small (by omega) (by omega)]
      omega
    simp only [List.map_cons,spans,List.forall_mem_cons]
    by_cases room : front.length + 5 ≤ (padded (front ++ encoding encode (item :: items))).length
    · have here : Alignment.pad outputs.bytes_parsed <
          (padded (front ++ encoding encode (item :: items))).length := by
        rw [read,Alignment.pad_small (by omega)]
        omega
      by_cases good : sound item
      · have step := parseLISTof_sound reads here dropped left good (by omega) (by omega)
        have next : (outputs.add (shown item,(encode item).length)).bytes_parsed =
            (front ++ encode item).length := by
          rw [whole,List.length_append] at small
          simp only [ParsingOutputs.add,read,List.length_append] at small ⊢
          omega
        have rest := ih (front ++ encode item) (by rwa [whole] at small) next
        have start : (front ++ encode item).length = front.length + (encode item).length :=
          List.length_append
        rw [← whole,start] at rest
        constructor
        · rintro ⟨fuel,result,done,members,count⟩
          cases fuel with
          | zero => cases done
          | succ fuel =>
            rw [step] at done
            obtain ⟨sounds,rooms⟩ := rest.mp ⟨fuel,result,done,by simp [members,ParsingOutputs.add],count⟩
            exact ⟨⟨good,sounds⟩,room,rooms⟩
        · rintro ⟨⟨_,sounds⟩,_,rooms⟩
          obtain ⟨fuel,result,done,members,count⟩ := rest.mpr ⟨sounds,rooms⟩
          refine ⟨fuel + 1,result,(step fuel).trans done,?_,count⟩
          simp [members,ParsingOutputs.add]
      · refine ⟨?_,fun conditions => absurd conditions.1.1 good⟩
        rintro ⟨fuel,result,done,members,_⟩
        exact absurd members (parseLISTof_wrong reads here dropped good done)
    · refine ⟨?_,fun conditions => absurd conditions.2.1 room⟩
      rintro ⟨fuel,result,done,members,_⟩
      rw [parseLISTof_short reads dropped (by omega) done] at members
      simp at members

end loop

section items

variable {data : List UInt8} {littleEndian byteswap : Bool}

theorem read_item (long : 5 ≤ data.length) : readBytes data 0 5 = .ok (data.take 5) := by
  simp [readBytes,long,slice]

theorem read_item_short (short : data.length < 5) :
    readBytes data 0 5 = .error (.undefined "read past the end of data") := by
  simp [readBytes,Nat.not_le.mpr short]

theorem flatMap_length_le {bytes : χ → List UInt8} (width : ∀ char, (bytes char).length ≤ 2)
    (string : List χ) : (string.flatMap bytes).length ≤ 2 * string.length := by
  induction string with
  | nil => simp
  | cons char rest ih =>
    have first := width char
    simp only [List.flatMap_cons,List.length_append,List.length_cons]
    omega

theorem encode_long (bytes : χ → List UInt8) (nonempty : ∀ char, 1 ≤ (bytes char).length)
    (item : TextItem χ) : 3 ≤ (item.encode bytes).length := by
  cases item with
  | font id => simp [TextItem.encode,mostFirst]
  | text delta string length =>
    cases string with
    | nil => simp at length
    | cons char rest =>
      have first := nonempty char
      simp only [TextItem.encode,List.length_cons,List.flatMap_cons,List.length_append]
      omega

/-- The first byte tells a text element from a font, and gives the length of its string. -/
theorem string_len {string : List χ} (length : 1 ≤ string.length ∧ string.length ≤ 254) :
    (UInt8.ofNat string.length).toNat = string.length ∧
      UInt8.ofNat string.length ≠ FONT_SHIFT := by
  have count : (UInt8.ofNat string.length).toNat = string.length := by
    rw [UInt8.toNat_ofNat']
    omega
  refine ⟨count,fun same => ?_⟩
  rw [same] at count
  have shift : FONT_SHIFT.toNat = 255 := rfl
  omega

theorem formatResourceId_sound {id : UInt32} (sound : (TextItem.font id : TextItem χ).Sound byteswap) :
    formatResourceId byteswap (ntohl littleEndian (mostFirst id.toNat)) = .ok id.toNat := by
  obtain ⟨resource,same⟩ := sound
  rw [ntohl_mostFirst littleEndian id.toNat_lt,formatResourceId,assert,demand_true resource]
  cases byteswap with
  | false => rfl
  | true => exact congrArg Except.ok (same rfl)

theorem formatResourceId_wrong {id : UInt32} {font : Nat}
    (wrong : ¬(TextItem.font id : TextItem χ).Sound byteswap)
    (formatted : formatResourceId byteswap (ntohl littleEndian (mostFirst id.toNat)) = .ok font) :
    font ≠ id.toNat := by
  rw [ntohl_mostFirst littleEndian id.toNat_lt] at formatted
  obtain ⟨resource,formatted⟩ := demand_bind_success formatted
  rintro rfl
  refine wrong ⟨resource,?_⟩
  rintro rfl
  exact Except.ok.inj formatted

/-- A font is parsed if it has its five bytes. -/
theorem parse_font {expression : String} {parseString : Nat → ListMember (List χ)} (id : UInt32)
    (more : List UInt8) {sz : Nat} (two : 2 ≤ sz) :
    parseTEXTITEM expression parseString littleEndian byteswap
        (FONT_SHIFT :: mostFirst id.toNat ++ more) sz =
      (formatResourceId byteswap (ntohl littleEndian (mostFirst id.toNat))).map
        fun font => (.font font,5) := by
  obtain ⟨first,second,third,fourth,same⟩ : ∃ first second third fourth,
      mostFirst id.toNat = [first,second,third,fourth] := ⟨_,_,_,_,rfl⟩
  rw [same,parseTEXTITEM,assert,demand_true two,read_item (by simp)]
  change (formatResourceId byteswap (ntohl littleEndian [first,second,third,fourth]) >>=
    fun font => .ok (Shown.font font,5)) = _
  cases formatResourceId byteswap (ntohl littleEndian [first,second,third,fourth]) <;> rfl

theorem parse_text {expression : String} {parseString : Nat → ListMember (List ω)}
    {bytes : χ → List UInt8} {more : List UInt8} {sz : Nat} (delta : Int8) {string : List χ}
    (length : 1 ≤ string.length ∧ string.length ≤ 254) (two : 2 ≤ sz)
    (long : 3 ≤ (string.flatMap bytes ++ more).length) :
    parseTEXTITEM expression parseString littleEndian byteswap
        (UInt8.ofNat string.length :: delta.toUInt8 :: (string.flatMap bytes ++ more)) sz =
      (parseString string.length (string.flatMap bytes ++ more) (sub64 sz 2)).map
        fun string => (.text delta string.1,(2 + string.2) % 2^32) := by
  obtain ⟨count,text⟩ := string_len length
  rw [parseTEXTITEM,assert,demand_true two,read_item (by simp only [List.length_cons]; omega)]
  change (if UInt8.ofNat string.length = FONT_SHIFT then _ else
    parseString (UInt8.ofNat string.length).toNat (string.flatMap bytes ++ more) (sub64 sz 2) >>=
      fun string => .ok (Shown.text delta.toUInt8.toInt8 string.1,(2 + string.2) % 2^32)) = _
  rw [if_neg text,count,Int8.toInt8_toUInt8]
  cases parseString string.length (string.flatMap bytes ++ more) (sub64 sz 2) <;> rfl

theorem parseTEXTITEM_reads {expression : String} {parseString : Nat → ListMember (List ω)}
    {bytes : χ → List UInt8} {char : χ → ω}
    (width : ∀ char, 1 ≤ (bytes char).length ∧ (bytes char).length ≤ 2)
    (parsed : ∀ (string : List χ) (more : List UInt8), (string.flatMap bytes ++ more).length < 2^64 → string.length ≤ 254 →
      parseString string.length (string.flatMap bytes ++ more) (string.flatMap bytes ++ more).length =
        .ok (string.map char,(string.flatMap bytes).length)) :
    Reads (parseTEXTITEM expression parseString littleEndian byteswap) (TextItem.encode bytes)
      (TextItem.shown char) (TextItem.Sound byteswap) := by
  refine ⟨encode_long _ fun char => (width char).1,?_,?_,?_⟩
  · intro item more short sz member done
    obtain ⟨_,done⟩ := demand_bind_success done
    rw [read_item_short short] at done
    cases done
  · intro item more sound long bound
    have two : 2 ≤ (item.encode bytes ++ more).length := by omega
    cases item with
    | font id =>
      rw [TextItem.encode] at two ⊢
      rw [parse_font id more two,formatResourceId_sound sound]
      rfl
    | text delta string length =>
      have narrow : (string.flatMap bytes).length ≤ 508 := by
        have small := flatMap_length_le (fun char => (width char).2) string
        omega
      rw [TextItem.encode,List.cons_append,List.cons_append] at two long bound ⊢
      simp only [List.length_cons] at two long bound ⊢
      have rest : sub64 ((string.flatMap bytes ++ more).length + 1 + 1) 2 =
          (string.flatMap bytes ++ more).length := by
        rw [sub64_small (by omega) (by omega)]
        omega
      rw [parse_text delta length two (by omega),rest,parsed string more (by omega) length.2]
      have count : (2 + (string.flatMap bytes).length) % 2^32 =
          (string.flatMap bytes).length + 1 + 1 := by omega
      rw [Except.map,TextItem.shown,count]
  · intro item more wrong sz member done
    cases item with
    | font id =>
      have two := (demand_bind_success done).1
      rw [TextItem.encode,parse_font id more two] at done
      cases formatted : formatResourceId byteswap (ntohl littleEndian (mostFirst id.toNat)) with
      | error fault => simp [formatted,Except.map] at done
      | ok font =>
        simp only [formatted,Except.map,Except.ok.injEq] at done
        rw [← done]
        simpa [TextItem.shown] using formatResourceId_wrong wrong formatted
    | text delta string length => exact absurd trivial wrong

theorem parseTEXTITEM8_reads : Reads (parseTEXTITEM8 littleEndian byteswap)
    (TextItem.encode fun char => [char]) (TextItem.shown id) (TextItem.Sound byteswap) := by
  refine parseTEXTITEM_reads (by simp) ?_
  intro string more _ _
  have characters : string.flatMap (fun char => [char]) = string := by simp
  rw [characters,parseSTRING8,readBytes_front,List.map_id]
  rfl

theorem parseCHAR2B_parses (littleEndian : Bool) :
    Parses (parseCHAR2B littleEndian) CHAR2B.bytes (CHAR2B.shown littleEndian) fun _ => True := by
  refine ⟨?_,fun _ _ _ _ wrong _ _ => absurd trivial wrong⟩
  intro char more sz _ (two : 2 ≤ sz) _
  rw [parseCHAR2B,assert,demand_true two]
  rfl

theorem parseTEXTITEM16_reads : Reads (parseTEXTITEM16 littleEndian byteswap)
    (TextItem.encode CHAR2B.bytes) (TextItem.shown (CHAR2B.shown littleEndian))
    (TextItem.Sound byteswap) := by
  refine parseTEXTITEM_reads (by simp [CHAR2B.bytes]) ?_
  intro string more bound length
  have whole : encoding CHAR2B.bytes string = string.flatMap CHAR2B.bytes := rfl
  have small : (string.flatMap CHAR2B.bytes).length ≤ 2 * string.length :=
    flatMap_length_le (by simp [CHAR2B.bytes]) string
  have parsed := parseLISTofCounted_done (parseCHAR2B_parses littleEndian) [] more string
    (fun _ _ => trivial) (rfl : (⟨[],0⟩ : ParsingOutputs Nat).bytes_parsed = 0)
    (by simp [whole]) bound (by rw [whole,List.nil_append]; omega)
  rw [whole,List.nil_append,List.nil_append] at parsed
  rw [parseSTRING16,parsed]
  simp

end items

/-- The items come out of the loop in order, with their total size, and nothing is read but
the padded encoding. -/
def Decoded {ι : Type} (parseListMember : ListMember σ) (encode : ι → List UInt8) (shown : ι → σ)
    (items : List ι) : Prop :=
  ∃ fuel result, parseLISTof parseListMember (padded (encoding encode items))
      (padded (encoding encode items)).length fuel ⟨[],0⟩ = some (.ok result) ∧
    result.members = items.map shown ∧ result.bytes_parsed = (encoding encode items).length

/-- The size fits `bytes_parsed`, the fonts are printed as they are, and the last item has
five bytes from its start to the end of the padding. -/
structure Decodable (bytes : χ → List UInt8) (byteswap : Bool) (items : List (TextItem χ)) : Prop where
  small : (encoding (TextItem.encode bytes) items).length < 2^32
  sound : ∀ item ∈ items,item.Sound byteswap
  room : ∀ last ∈ items.getLast?,(encoding (TextItem.encode bytes) items).length + 5 ≤
    (padded (encoding (TextItem.encode bytes) items)).length + (last.encode bytes).length

/-- Only the last item can be short of room. -/
theorem room_last {ι : Type} {encode : ι → List UInt8} {sz : Nat} (start : Nat)
    (long : ∀ item, 3 ≤ (encode item).length) (items : List ι)
    (inside : start + (encoding encode items).length ≤ sz) :
    (∀ span ∈ spans start (items.map encode),span.1 + 5 ≤ sz) ↔ ∀ last ∈ items.getLast?,
      start + (encoding encode items).length + 5 ≤ sz + (encode last).length := by
  induction items generalizing start with
  | nil => simp [spans]
  | cons item items ih =>
    have whole : (encoding encode (item :: items)).length =
        (encode item).length + (encoding encode items).length := by simp [encoding]
    rw [List.map_cons,spans,List.forall_mem_cons,ih _ (by omega)]
    cases items with
    | nil =>
      simp only [encoding,List.map_nil,List.flatten_nil,List.length_nil] at whole
      simp [encoding]
      omega
    | cons second rest =>
      have first := long item
      have next := long second
      have second : (encoding encode (second :: rest)).length =
          (encode second).length + (encoding encode rest).length := by simp [encoding]
      rw [List.getLast?_cons_cons,whole,and_iff_right (by omega),Nat.add_assoc start]

theorem decoded_iff {parseListMember : ListMember (Shown ω)} {bytes : χ → List UInt8}
    {char : χ → ω} {byteswap : Bool}
    (reads : Reads parseListMember (TextItem.encode bytes) (TextItem.shown char)
      (TextItem.Sound byteswap)) (items : List (TextItem χ)) :
    Decoded parseListMember (TextItem.encode bytes) (TextItem.shown char) items ↔
      Decodable bytes byteswap items := by
  have from_start (small : (encoding (TextItem.encode bytes) items).length < 2^32) :
      Decoded parseListMember (TextItem.encode bytes) (TextItem.shown char) items ↔
        (∀ item ∈ items,item.Sound byteswap) ∧ ∀ last ∈ items.getLast?,
          (encoding (TextItem.encode bytes) items).length + 5 ≤
            (padded (encoding (TextItem.encode bytes) items)).length +
              (last.encode bytes).length := by
    have loop := parseLISTof_from reads [] items small
      (rfl : (⟨[],0⟩ : ParsingOutputs (Shown ω)).bytes_parsed = 0)
    have rooms := room_last 0 reads.long items
      (by simp [padded] : 0 + _ ≤ (padded (encoding (TextItem.encode bytes) items)).length)
    simp only [Nat.zero_add] at rooms
    simp only [List.nil_append,List.length_nil] at loop
    rw [Decoded,loop,rooms]
  constructor
  · rintro ⟨fuel,result,done,members,count⟩
    have small := parseLISTof_small (by simp) done
    rw [count] at small
    obtain ⟨sound,room⟩ := (from_start small).mp ⟨fuel,result,done,members,count⟩
    exact ⟨small,sound,room⟩
  · rintro ⟨small,sound,room⟩
    exact (from_start small).mpr ⟨sound,room⟩

theorem items_decoded (littleEndian byteswap : Bool) (items8 : List (TextItem UInt8))
    (items16 : List (TextItem CHAR2B)) :
    (Decoded (parseTEXTITEM8 littleEndian byteswap) (TextItem.encode fun char => [char])
        (TextItem.shown id) items8 ↔ Decodable (fun char => [char]) byteswap items8) ∧
      (Decoded (parseTEXTITEM16 littleEndian byteswap) (TextItem.encode CHAR2B.bytes)
        (TextItem.shown (CHAR2B.shown littleEndian)) items16 ↔
          Decodable CHAR2B.bytes byteswap items16) :=
  ⟨decoded_iff parseTEXTITEM8_reads items8,decoded_iff parseTEXTITEM16_reads items16⟩

def parsedItems {ι : Type} (parseListMember : ListMember σ) (encode : ι → List UInt8)
    (items : List ι) : Option (Checked (ParsingOutputs σ)) :=
  parseLISTof parseListMember (padded (encoding encode items))
    (padded (encoding encode items)).length (items.length + 1) ⟨[],0⟩

/-- A last item in the final word is lost, the fifth byte of a short one is not there, and
a font of a client with the other byte order is reversed. -/
theorem items_not_decoded :
    parsedItems (parseTEXTITEM8 true false) (TextItem.encode fun char => [char])
        [.font 1,.text 0 [97] (by decide)] = some (.ok ⟨[.font 1],5⟩) ∧
    parsedItems (parseTEXTITEM8 true false) (TextItem.encode fun char => [char])
        [.text 0 [97] (by decide)] = some (.error (.undefined "read past the end of data")) ∧
    parsedItems (parseTEXTITEM16 true false) (TextItem.encode CHAR2B.bytes)
        [.text 0 [⟨0,97⟩] (by decide)] = some (.error (.undefined "read past the end of data")) ∧
    parsedItems (parseTEXTITEM8 true true) (TextItem.encode fun char => [char])
        [.font 1] = some (.ok ⟨[.font 0x01000000],5⟩) := by
  refine ⟨?_,?_,?_,?_⟩ <;> rfl

end PolyText
end Xtracepp
