import Xtracepp.RequestTable

/-! Which core requests are parsed: what a framed request must show for its function to come to
its end with every list whole, and the two requests whose functions never do.
-/
namespace Xtracepp
open Library.Outcome Library.Framing

namespace Encodings
open Formatting ListParsing CountedLists

theorem requests_usable : ∀ type ∈ Requests.requests,type.usable = true := by decide +kernel

/-- The table has an entry for every core opcode but the two with effects. -/
theorem requestType_table (code : UInt8) : (requestType code).map RequestType.opcode =
    if (1 ≤ code ∧ code ≤ 119 ∨ code = Opcodes.noOperation) ∧ code ≠ Opcodes.internAtom ∧
      code ≠ Opcodes.queryExtension then some code else none := by
  have all : ∀ code : Fin 256,(requestType (UInt8.ofNat code)).map RequestType.opcode =
      if (1 ≤ UInt8.ofNat code ∧ UInt8.ofNat code ≤ 119 ∨ UInt8.ofNat code = Opcodes.noOperation) ∧
        UInt8.ofNat code ≠ Opcodes.internAtom ∧ UInt8.ofNat code ≠ Opcodes.queryExtension then
          some (UInt8.ofNat code) else none := by decide +kernel
  have here := all ⟨code.toNat,code.toNat_lt⟩
  simp only [UInt8.ofNat_toNat] at here
  exact here

theorem requestType_listed {code : UInt8} {type : RequestType} (found : requestType code = some type) :
    type ∈ Requests.requests ∧ type.opcode = code := by
  have same := List.find?_some found
  exact ⟨List.mem_of_find?_eq_some found,beq_iff_eq.mp same⟩

section parsed

variable {reader : Reader} {message more : List UInt8} {big_request : Bool} {counts : List Nat}

theorem value_byte {offset : Nat} (inside : offset < message.length) :
    reader.value message offset 1 = (message.getD offset 0).toNat := by
  have one : slice message offset 1 = [message.getD offset 0] := by
    rw [slice,List.drop_eq_getElem_cons inside,List.getD_eq_getElem _ _ inside]
    rfl
  rw [Reader.value,one,ordered_one]

/-- A text is taken whole. -/
theorem changePropertyText_complete {text : Nat} (request : Request reader message 20 big_request)
    (opcode : reader.value message 0 1 = 18)
    (format : reader.value message (start big_request + 12) 1 ∈ [0,8,16,32])
    (type : reader.value message (start big_request + 8) 4 = STRING)
    (counted : text = reader.value message (start big_request + 16) 4 *
      (reader.value message (start big_request + 12) 1 / 8))
    (whole : message.length = start big_request + 20 + padded text) :
    Complete (reader.parseChangeProperty (message ++ more) message.length) [] message.length ↔
      ∀ offset ∈ [start big_request,start big_request + 4,start big_request + 8],
        Clear reader.littleEndian message offset := by
  have long := request.long
  have small := request.small
  have framed := request.framed
  have base : 24 ≤ message.length := by
    unfold start at long
    split at long <;> omega
  have fits : text ≤ padded text := by
    unfold padded
    omega
  have unwrapped : reader.value message (start big_request + 16) 4 *
      (reader.value message (start big_request + 12) 1 / 8) % 2^32 = text := by
    rw [← counted,Nat.mod_eq_of_lt (by omega)]
  have behind := @behind_length message more (start big_request + 20) long
  have shown := @formatFields_iff reader message more _
    (@changeProperty_usual reader message big_request long)
  rw [changeProperty_identifiers] at shown
  have data_ : reader.parseData (reader.value message (start big_request + 8) 4)
      ((message ++ more).drop (start big_request + 20)) text text = .ok ([],text) := by
    rw [Reader.parseData,if_pos type,readBytes,if_pos (by omega)]
    rfl
  have total : (start big_request + 20 + Alignment.pad text) % 2^32 = message.length := by
    rw [pad_padded (by omega),Nat.mod_eq_of_lt (by omega),whole]
  have check : if big_request then message.length / 4 ≠ 0
      else message.length / 4 = Alignment.units message.length := by
    split
    · omega
    · exact (units_quarter small (by omega)).symm
  rw [Reader.parseChangeProperty]
  simp (disch := omega) only [assert,demand_true base,request.fixedEncoding,ok_bind,ordered_inside,
    demand_true opcode,Nat.add_sub_cancel,demand_true (format_fine format),unwrapped,data_,
    request.units,total,demand_true check]
  rw [← shown]
  constructor
  · rintro ⟨outputs,done,_⟩
    obtain ⟨fields,printed,_⟩ := bind_success done
    exact ⟨fields,printed⟩
  · rintro ⟨fields,printed⟩
    exact ⟨⟨[],fields,message.length⟩,by rw [printed]; rfl,rfl,rfl⟩

/-- A property is parsed as a text or as a list of bytes. -/
theorem changeProperty_parsed (request : Request reader message 20 big_request)
    (opcode : message.getD 0 0 = 18)
    (formed : RequestType.Formed .changeProperty reader big_request message counts) :
    Complete (reader.parseChangeProperty (message ++ more) message.length) counts message.length ↔
      RequestType.Accepts .changeProperty reader big_request message := by
  have long := request.long
  obtain ⟨format,length,counted,whole,listed⟩ := formed
  have code : reader.value message 0 1 = 18 := by
    rw [value_byte (by omega),opcode]
    rfl
  by_cases type : reader.value message (start big_request + 8) 4 = STRING
  · rw [if_pos type] at listed
    rw [listed]
    exact changePropertyText_complete request code format type counted whole
  · rw [if_neg type] at listed
    rw [listed.1]
    exact (changeProperty_complete request code format type counted whole).trans
      (and_iff_right listed.2)

theorem parseDerived_steps {name : String} {opcode : UInt8}
    {parseBase : List UInt8 → Nat → Checked Outputs} (found : message.getD 0 0 = opcode)
    (long : 2 ≤ message.length) :
    parseDerived name opcode parseBase (message ++ more) message.length =
      parseBase (message ++ more) message.length := by
  have same : ∀ code ∈ some opcode,message.getD 0 0 = code := by
    rintro code ⟨⟩
    exact found
  rw [parseDerived,assert,demand_true long,ok_bind,checkOpcode_done same (by omega),ok_bind]

end parsed

/-! PolyArc takes the size of its list from the units, and PolyFillRectangle of a big request
counts one rectangle too many. -/

section never

variable {reader : Reader} {data : List UInt8} {sz : Nat} {outputs : Outputs}

theorem fixedEncoding_case {encodingSz : Nat} {fe : FixedEncoding}
    (done : reader.fixedEncoding encodingSz data sz = .ok fe) :
    fe.bytes_parsed = start fe.big_request + encodingSz ∧
      (reader.ordered data 2 2 = .ok 0 → fe.big_request = true) := by
  obtain ⟨_,done⟩ := demand_bind_success done
  obtain ⟨extended_length_flag,flag,done⟩ := bind_success done
  by_cases zero : extended_length_flag = 0
  · rw [if_pos zero] at done
    obtain ⟨_,done⟩ := demand_bind_success done
    cases done
    exact ⟨rfl,fun _ => rfl⟩
  · rw [if_neg zero] at done
    cases done
    refine ⟨rfl,fun same => ?_⟩
    rw [flag] at same
    cases same
    exact absurd rfl zero

theorem ordered_bound {offset size value : Nat} (done : reader.ordered data offset size = .ok value) :
    value < 256 ^ size := by
  obtain ⟨bytes,read,done⟩ := bind_success done
  cases done
  rw [readBytes] at read
  split at read
  · cases read
    have bound := ordered_lt reader.littleEndian reader.byteswap (slice data offset size)
    rwa [slice_length _ _ _ (by assumption)] at bound
  · cases read

theorem tl_aligned_units_bound {big_request : Bool} {units : Nat}
    (done : reader.tl_aligned_units data big_request = .ok units) : units < 2^32 := by
  cases big_request with
  | true => exact ordered_bound done
  | false =>
    have bound : units < 256 ^ 2 := ordered_bound done
    exact bound.trans (by decide)

/-- A list of whole units behind a header of whole units. -/
theorem units_behind {front size : Nat} (aligned : front % 4 = 0) (whole : size % 4 = 0)
    (small : front + size < 2^32) :
    Alignment.units ((front + Alignment.pad size) % 2^32) = (front + size) / 4 := by
  rw [pad_padded (by omega),padded_whole whole,Nat.mod_eq_of_lt small,units_quarter small (by omega)]

/-- Units of which a size in bytes was taken are always more than the list makes. -/
theorem units_short {units base : Nat} (known : base = 12 ∨ base = 16) (bound : units < 2^32) :
    units ≠ (base + sub64 units base / 12 % 2^16 * 12) / 4 := by
  by_cases enough : base ≤ units
  · have fewer := Nat.mod_le ((units - base) / 12) (2^16)
    rw [sub64_small enough (by omega)]
    omega
  · have wrapped : ∀ units < 16,∀ base ∈ [12,16],
        units ≠ (base + sub64 units base / 12 % 2^16 * 12) / 4 := by decide
    exact wrapped units (by omega) base (by simpa using known)

/-- No PolyArc request has as many units as its function goes on to parse. -/
theorem parsePolyArc_never : reader.parsePolyArc data sz ≠ .ok outputs := by
  intro done
  obtain ⟨_,done⟩ := demand_bind_success done
  obtain ⟨fe,framed,done⟩ := bind_success done
  obtain ⟨_,_,done⟩ := bind_success done
  obtain ⟨units,read,done⟩ := bind_success done
  obtain ⟨arcs,listed,done⟩ := bind_success done
  obtain ⟨same,_⟩ := demand_bind_success done
  have bound := tl_aligned_units_bound read
  have sized : arcs.bytes_parsed =
      sub64 units (if fe.big_request = true then 16 else 12) / 12 % 2^16 * 12 :=
    parseLISTofUint16_size (by decide) parseMembers_size listed
  have few : sub64 units (if fe.big_request then 16 else 12) / 12 % 2^16 < 2^16 :=
    Nat.mod_lt _ (by decide)
  have header : start fe.big_request ≤ 8 ∧ start fe.big_request % 4 = 0 := by
    cases fe.big_request <;> decide
  rw [(fixedEncoding_case framed).1,sized,units_behind (by omega) (by omega) (by omega)] at same
  have base : start fe.big_request + 8 = if fe.big_request = true then 16 else 12 := by
    cases fe.big_request <;> rfl
  rw [base] at same
  exact units_short (by split <;> simp) bound same

theorem inferredSize_case {base list_sz : Nat} {big_request : Bool}
    (done : inferredSize base reader big_request data = .ok list_sz) :
    ∃ units,reader.tl_aligned_units data big_request = .ok units ∧
      list_sz = sub64 (Alignment.size units) base := by
  obtain ⟨units,read,done⟩ := bind_success done
  exact ⟨units,read,(Except.ok.inj done).symm⟩

theorem rectangles_short {units : Nat} (bound : units < 2^32) :
    units ≠ (16 + sub64 (Alignment.size units) 8 / 8 % 2^16 * 8) / 4 := by
  rw [Alignment.size_small (by omega)]
  by_cases enough : 2 ≤ units
  · rw [sub64_small (by omega) (by omega)]
    omega
  · have wrapped : ∀ units < 2,units ≠ (16 + sub64 (units * 4) 8 / 8 % 2^16 * 8) / 4 := by decide
    exact wrapped units (by omega)

/-- The list of a big PolyFillRectangle is one member longer than the request has room for. -/
theorem parsePolyFillRectangle_small
    (done : reader.parseLayout Requests.PolyFillRectangle data sz = .ok outputs) :
    reader.ordered data 2 2 ≠ .ok 0 := by
  intro flag
  obtain ⟨_,done⟩ := demand_bind_success done
  obtain ⟨fe,framed,done⟩ := bind_success done
  obtain ⟨parsed,big⟩ := fixedEncoding_case framed
  obtain ⟨_,_,done⟩ := bind_success done
  obtain ⟨suffix,found,done⟩ := bind_success done
  obtain ⟨units,read,done⟩ := bind_success done
  obtain ⟨same,_⟩ := demand_bind_success done
  rw [big flag] at parsed found read same
  obtain ⟨list_sz,inferred,found⟩ := bind_success found
  obtain ⟨_,again,counted⟩ := inferredSize_case inferred
  obtain rfl := Except.ok.inj (read.symm.trans again)
  obtain ⟨list,listed,found⟩ := bind_success found
  cases found
  have bound := tl_aligned_units_bound read
  have sized : list.bytes_parsed = list_sz / 8 % 2^16 * 8 :=
    parseLISTofUint16_size (by decide) parseMembers_size listed
  have few : list_sz / 8 % 2^16 < 2^16 := Nat.mod_lt _ (by decide)
  have header : start true + Requests.PolyFillRectangle.encodingSz = 16 := rfl
  rw [parsed,header,sized,units_behind (by decide) (by omega) (by omega),counted] at same
  have compared : Requests.PolyFillRectangle.compared = true := rfl
  rw [compared,if_neg (by decide)] at same
  exact rectangles_short bound same

/-- No PolyArc request is parsed, and no PolyFillRectangle request with a long length. -/
theorem drawings_never_parsed (reader : Reader) (data : List UInt8) (sz : Nat) :
    (∀ outputs,reader.parseRequestCode 68 data sz ≠ .ok outputs) ∧
      (reader.ordered data 2 2 = .ok 0 →
        ∀ outputs,reader.parseRequestCode 70 data sz ≠ .ok outputs) :=
  ⟨fun _ => parsePolyArc_never,fun flag _ done => parsePolyFillRectangle_small done flag⟩

/-- A PolyFillRectangle of one rectangle, with a length for big requests. -/
def fillRectangle : List UInt8 := [70,0,0,0,6,0,0,0,1,0,64,0,2,0,64,0,0,0,0,0,9,0,9,0]

theorem drawings_never_parsed_big : ∀ outputs,plain.parseRequestCode 70 fillRectangle 24 ≠ .ok outputs :=
  (drawings_never_parsed plain fillRectangle 24).2 (by decide)

end never

theorem parseRequestType_complete {reader : Reader} {message : List UInt8} {code : UInt8}
    {type : RequestType} {big_request : Bool} {counts : List Nat} (more : List UInt8)
    (found : requestType code = some type)
    (request : Request reader message type.encodingSz big_request)
    (opcode : message.getD 0 0 = code) (formed : type.Formed reader big_request message counts) :
    Complete (reader.parseRequestType type (message ++ more) message.length) counts message.length ↔
      type.Accepts reader big_request message := by
  obtain ⟨listed,same⟩ := requestType_listed found
  have usable := requests_usable type listed
  have long := request.long
  have header : 2 ≤ message.length := by
    unfold start at long
    split at long <;> omega
  rw [← same] at opcode
  cases type with
  | own layout =>
    rw [RequestType.usable,Bool.and_eq_true] at usable
    refine parseLayout_complete usable.1 request (fun code known => ?_) formed
    rw [opcode,RequestType.opcode,Option.mem_def.mp known]
    rfl
  | derived name major layout =>
    rw [RequestType.usable,Bool.and_eq_true] at usable
    have none : layout.opcode = none := Option.isNone_iff_eq_none.mp usable.2
    have own : message.getD 0 0 = major := opcode
    dsimp only [Reader.parseRequestType]
    rw [parseDerived_steps own header]
    exact parseLayout_complete usable.1 request (fun code known => by simp [none] at known) formed
  | polyPoint name major =>
    obtain ⟨count,few,shown,whole⟩ := formed
    have own : message.getD 0 0 = major := opcode
    dsimp only [Reader.parseRequestType]
    rw [parseDerived_steps own header,shown]
    exact (polyPoint_complete request whole).trans (and_iff_right few)
  | changeProperty => exact changeProperty_parsed request opcode formed
  | polyArc =>
    refine iff_of_false ?_ not_false
    rintro ⟨outputs,done,_⟩
    exact parsePolyArc_never done

/-- ChangeGC of the function and the font, from a client in the other byte order. -/
def changeGC : List UInt8 := [56,0,0,5,0,32,0,7,0,0,64,1,3,0,0,0,0,32,0,9]

end Encodings
end Xtracepp
