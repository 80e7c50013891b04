import Xtracepp.Authentication
import Xtracepp.DisplayName
import Xtracepp.Library.Growing

/-! The authority file: its entries are read into a vector, the one of DISPLAY is copied for
PROXYDISPLAY, and all are written back.
-/
namespace Xtracepp
open Library Library.Outcome Library.Growing

namespace AuthorityFile
open Authentication Prequeue

def HOST_NAME_MAX : Nat := 64

def NAME_MAX : Nat := 255

def AUTH_DATA_SZ : Nat := 16

section memory

variable {size : Nat}

/-- An array after bytes are copied to its start. -/
def overlay (array : Vector UInt8 size) (bytes : List UInt8) : Vector UInt8 size :=
  Vector.ofFn fun index => bytes.getD index array[index]

/-- A text copied to the start of an array, with the null byte behind it. -/
def copyText (array : Vector UInt8 size) (text : List UInt8) : Vector UInt8 size :=
  (overlay array text).setIfInBounds text.length 0

def zeros (size : Nat) : Vector UInt8 size := Vector.replicate size 0

def cString (array : Vector UInt8 size) : List UInt8 := array.toList.takeWhile (· ≠ 0)

end memory

/-- `_XAuthInfo`. The network order copies are as the host loads them. -/
structure XAuthInfo where
  family : Nat
  family_nbo : Nat
  addr_len : Nat
  addr_len_nbo : Nat
  display_len : Nat
  display_len_nbo : Nat
  name_len : Nat
  name_len_nbo : Nat
  data_len : Nat
  data_len_nbo : Nat
  addr : Vector UInt8 HOST_NAME_MAX
  display : Vector UInt8 HOST_NAME_MAX
  name : Vector UInt8 NAME_MAX
  data : Vector UInt8 AUTH_DATA_SZ
  deriving DecidableEq

/-- A binary `std::ifstream` on an open file. It fails only at the end of the file, so that
`eof` is set whenever it is not good. -/
structure InputStream where
  left : List UInt8
  eof : Bool

/-- `read` into storage that is zero, and what is there after it. -/
def InputStream.read (stream : InputStream) (count : Nat) : List UInt8 × InputStream :=
  if stream.eof then (List.replicate count 0,stream)
  else if count ≤ stream.left.length then
    (stream.left.take count,{ stream with left := stream.left.drop count })
  else (stream.left ++ List.replicate (count - stream.left.length) 0,{ left := [],eof := true })

def InputStream.peek (stream : InputStream) : InputStream :=
  { stream with eof := stream.eof || stream.left.isEmpty }

section numbers

def isspace (byte : UInt8) : Bool := byte == 32 || (9 ≤ byte && byte ≤ 13)

def isdigit (byte : UInt8) : Bool := 48 ≤ byte && byte ≤ 57

/-- The value of the decimal digits that the text starts with. -/
def leadingNumber (text : List UInt8) : Nat :=
  (text.takeWhile isdigit).foldl (fun value byte => 10 * value + (byte.toNat - 48)) 0

/-- `std::strtol( text, nullptr, 10 )`. -/
def strtol (text : List UInt8) : Int :=
  let text := text.dropWhile isspace
  if text.head? = some 45 then -(min (leadingNumber text.tail) (2^63) : Nat)
  else if text.head? = some 43 then (min (leadingNumber text.tail) (2^63 - 1) : Nat)
  else (min (leadingNumber text) (2^63 - 1) : Nat)

def decimalDigits (value : Nat) : List UInt8 :=
  if value = 0 then [48] else (Nat.digits 10 value).reverse.map fun digit => UInt8.ofNat (48 + digit)

/-- `fmt::format( "{}", value )`. -/
def format (value : Int) : List UInt8 :=
  if value < 0 then 45 :: decimalDigits value.natAbs else decimalDigits value.natAbs

end numbers

section copying

variable (littleEndian : Bool) (growth : Growth)

def ntohs (value : Nat) : Nat := Formatting.ordered 2 value littleEndian

def htons (value : Nat) : Nat := Formatting.ordered 2 value littleEndian

/-- Two bytes, as the host loads them and in the order of the host. -/
def readShort (stream : InputStream) : Nat × Nat × InputStream :=
  let (bytes,stream) := stream.read 2
  (loaded littleEndian bytes,ntohs littleEndian (loaded littleEndian bytes),stream)

/-- A length and that many bytes, for a text that must leave room for a null byte. -/
def readText (size : Nat) (expression : String) (stream : InputStream) :
    Checked (Nat × Nat × Vector UInt8 size × InputStream) := do
  let (len_nbo,len,stream) := readShort littleEndian stream
  assert expression (len < size)
  let (text,stream) := stream.read len
  return (len_nbo,len,copyText (zeros size) text,stream)

def readEntry (stream : InputStream) : Checked (XAuthInfo × InputStream) := do
  let (family_nbo,family,stream) := readShort littleEndian stream
  let (addr_len_nbo,addr_len,addr,stream) ← readText littleEndian HOST_NAME_MAX
    "auth.addr_len < sizeof(auth.addr)" stream
  let (display_len_nbo,display_len,display,stream) ← readText littleEndian HOST_NAME_MAX
    "auth.display_len < sizeof(auth.display)" stream
  let (name_len_nbo,name_len,name,stream) ← readText littleEndian NAME_MAX
    "auth.name_len < sizeof(auth.name)" stream
  let (data_len_nbo,data_len,stream) := readShort littleEndian stream
  assert "auth.data_len == sizeof(auth.data)" (data_len = AUTH_DATA_SZ)
  let (data,stream) := stream.read data_len
  return ({ family,family_nbo,addr_len,addr_len_nbo,display_len,display_len_nbo,name_len,name_len_nbo,
            data_len,data_len_nbo,addr,display,name,data := overlay (zeros AUTH_DATA_SZ) data },stream)

def XAuthInfo.write (auth : XAuthInfo) : List UInt8 :=
  stored littleEndian 2 auth.family_nbo ++
  (stored littleEndian 2 auth.addr_len_nbo ++ auth.addr.toList.take auth.addr_len) ++
  (stored littleEndian 2 auth.display_len_nbo ++ auth.display.toList.take auth.display_len) ++
  (stored littleEndian 2 auth.name_len_nbo ++ auth.name.toList.take auth.name_len) ++
  (stored littleEndian 2 auth.data_len_nbo ++ auth.data.toList.take auth.data_len)

/-- What the loop that reads the entries still has to go through. -/
def InputStream.remaining (stream : InputStream) : Nat :=
  if stream.eof then 0 else stream.left.length + 1

theorem InputStream.read_remaining (stream : InputStream) (count : Nat) :
    (stream.read count).2.remaining ≤ stream.remaining := by
  unfold InputStream.read
  split
  · exact Nat.le_refl _
  · rename_i good
    split
    · simp only [InputStream.remaining,good,if_false,List.length_drop,Bool.false_eq_true]
      omega
    · simp [InputStream.remaining]

/-- Where there was something to read, reading a byte leaves less. -/
theorem InputStream.read_less {stream : InputStream} {count : Nat} (good : stream.eof = false)
    (some : 0 < count) : (stream.read count).2.remaining < stream.remaining := by
  simp only [InputStream.read,InputStream.remaining,good,if_false,Bool.false_eq_true]
  split
  · simp only [if_false,List.length_drop,Bool.false_eq_true]
    omega
  · simp

theorem InputStream.peek_remaining (stream : InputStream) : stream.peek.remaining ≤ stream.remaining := by
  cases ended : stream.eof with
  | true => simp [InputStream.remaining,InputStream.peek,ended]
  | false =>
    simp only [InputStream.remaining,InputStream.peek,ended,Bool.false_or,if_false,Bool.false_eq_true]
    split <;> omega

theorem readText_remaining {size : Nat} {expression : String} {stream after : InputStream}
    {len_nbo len : Nat} {array : Vector UInt8 size}
    (done : readText littleEndian size expression stream = .ok (len_nbo,len,array,after)) :
    after.remaining ≤ stream.remaining := by
  obtain ⟨_,done⟩ := demand_bind_success done
  cases done
  exact (InputStream.read_remaining _ _).trans (InputStream.read_remaining _ _)

theorem readEntry_less {stream after : InputStream} {auth : XAuthInfo} (good : stream.eof = false)
    (done : readEntry littleEndian stream = .ok (auth,after)) :
    after.peek.remaining < stream.remaining := by
  obtain ⟨⟨_,_,_,afterAddr⟩,addr,done⟩ := bind_success done
  obtain ⟨⟨_,_,_,afterDisplay⟩,display,done⟩ := bind_success done
  obtain ⟨⟨_,_,_,afterName⟩,name,done⟩ := bind_success done
  obtain ⟨_,done⟩ := demand_bind_success done
  cases done
  have first := InputStream.read_less good (by decide : 0 < 2)
  have second := readText_remaining littleEndian addr
  have third := readText_remaining littleEndian display
  have fourth := readText_remaining littleEndian name
  have fifth := InputStream.read_remaining afterName 2
  have last := InputStream.read_remaining (afterName.read 2).2
    (ntohs littleEndian (loaded littleEndian (afterName.read 2).1))
  refine (InputStream.peek_remaining _).trans_lt ?_
  exact ((((last.trans fifth).trans fourth).trans third).trans second).trans_lt first

def readEntries (stream : InputStream) (entries : GrowingVector XAuthInfo) :
    Checked (GrowingVector XAuthInfo) :=
  if _ended : stream.eof = true then return entries
  else
    match _done : readEntry littleEndian stream with
    | .error fault => .error fault
    | .ok (auth,after) => readEntries after.peek (entries.push growth auth)
termination_by stream.remaining
decreasing_by exact readEntry_less littleEndian (by simpa using _ended) _done

end copying

section editing

variable (littleEndian : Bool) (growth : Growth) (in_display out_display : DisplayInfo)

def XAuthInfo.number (auth : XAuthInfo) : Int := strtol (cString auth.display)

/-- A pointer to the entry of a display after one more entry. Entries are given by their
places. An entry of the display with another name is a fault. -/
def note (number : Int) (unsupported : Fault) (auth : XAuthInfo) (place : Nat) (noted : Option Nat) :
    Checked (Option Nat) := do
  if auth.number = number then
    demand unsupported (cString auth.name = AUTH_NAME)
    assert "auth.data_len == _AUTH_DATA_SZ" (auth.data_len = AUTH_DATA_SZ)
    return some place
  else return noted

/-- `in_display_auth` -/
def noteIn : XAuthInfo → Nat → Option Nat → Checked (Option Nat) :=
  note in_display.display (.assertion "auth.name == _AUTH_NAME")

/-- `out_display_auth` -/
def noteOut : XAuthInfo → Nat → Option Nat → Checked (Option Nat) := note out_display.display .exited

def findAuths : List XAuthInfo → Nat → Option Nat → Option Nat → Checked (Option Nat × Option Nat)
  | [],_,in_display_auth,out_display_auth => return (in_display_auth,out_display_auth)
  | auth :: rest,place,in_display_auth,out_display_auth => do
    let in_display_auth ← noteIn in_display auth place in_display_auth
    let out_display_auth ← noteOut out_display auth place out_display_auth
    if in_display_auth.isSome && out_display_auth.isSome then
      return (in_display_auth,out_display_auth)
    else findAuths rest (place + 1) in_display_auth out_display_auth

def deref (entries : List XAuthInfo) (pointer : String) (place : Nat) : Checked XAuthInfo :=
  match entries[place]? with
  | some auth => return auth
  | none => .error (.undefined pointer)

/-- `dup_auth` -/
def XAuthInfo.duplicate (auth : XAuthInfo) (display_str : List UInt8) : XAuthInfo :=
  { auth with
    display_len := display_str.length % 2^16
    display_len_nbo := htons littleEndian (display_str.length % 2^16)
    display := copyText auth.display display_str }

/-- The entries to write and `_auth_data`. A pointer is of no use when the vector has moved
its entries. -/
def editEntries (entries : GrowingVector XAuthInfo) : Checked (List XAuthInfo × Vector UInt8 AUTH_DATA_SZ) := do
  let (in_display_auth,out_display_auth) ← findAuths in_display out_display entries.items 0 none none
  match out_display_auth with
  | none => .error .exited
  | some out_place => do
    let out_auth ← deref entries.items "*out_display_auth" out_place
    let dup_auth := out_auth.duplicate littleEndian (format in_display.display)
    match in_display_auth with
    | some in_place => do
      let edited := entries.items.set in_place dup_auth
      return (edited,(← deref edited "out_display_auth->data" out_place).data)
    | none => do
      let edited := (entries.push growth dup_auth).items
      if entries.full then .error (.undefined "out_display_auth->data")
      else return (edited,(← deref edited "out_display_auth->data" out_place).data)

/-- What the function finds around it. Only files that can be read have contents. -/
structure Environment where
  XAUTHORITY : Option Text
  HOME : Option Text
  files : Text → Option (List UInt8)
  writable : Text → Bool

inductive Stopped
  | fault (fault : Fault)
  /-- `std::filesystem::copy` throws. -/
  | filesystem_error
  deriving DecidableEq, Repr

structure Copied where
  xauth_path : Text
  xauth_bup_path : Text
  files : Text → Option (List UInt8)
  auth_data : Vector UInt8 AUTH_DATA_SZ

def Environment.xauthPath (environment : Environment) : Checked Text :=
  match environment.XAUTHORITY with
  | some xauthority_value => return xauthority_value
  | none =>
    match environment.HOME with
    | some home_value => return home_value ++ ['/','.','X','a','u','t','h','o','r','i','t','y']
    | none => .error .exited

/-- The part up to the file operations: the path, what was read and what is to be written. -/
def prepareCopy (environment : Environment) : Checked (Text × List UInt8 × List UInt8 × Vector UInt8 AUTH_DATA_SZ) := do
  assert "!_in_display.name.empty() && !_out_display.name.empty()"
    (in_display.name ≠ [] ∧ out_display.name ≠ [])
  let xauth_path ← environment.xauthPath
  match environment.files xauth_path with
  | none => .error .exited
  | some contents => do
    let entries ← readEntries littleEndian growth { left := contents,eof := false } empty
    let (edited,auth_data) ← editEntries littleEndian growth in_display out_display entries
    return (xauth_path,contents,edited.flatMap (XAuthInfo.write littleEndian),auth_data)

def copyAuthentication (environment : Environment) : Except Stopped Copied :=
  match prepareCopy littleEndian growth in_display out_display environment with
  | .error fault => .error (.fault fault)
  | .ok (xauth_path,contents,written,auth_data) =>
    let xauth_bup_path := xauth_path ++ ['.','b','u','p']
    if environment.writable xauth_bup_path then
      if environment.writable xauth_path then
        return {
          xauth_path,xauth_bup_path,auth_data
          files := Function.update (Function.update environment.files xauth_bup_path (some contents))
            xauth_path (some written) }
      else .error (.fault .exited)
    else .error .filesystem_error

end editing

section format

/-- An entry as the format has it. -/
@[ext] structure Entry where
  family : Vector UInt8 2
  address : List UInt8
  display : List UInt8
  name : List UInt8
  data : Vector UInt8 AUTH_DATA_SZ
  address_short : address.length < HOST_NAME_MAX
  display_short : display.length < HOST_NAME_MAX
  name_short : name.length < NAME_MAX
  deriving DecidableEq

/-- The length of a text, most significant byte first, and the text. -/
def counted (text : List UInt8) : List UInt8 := (Formatting.encode 2 text.length).reverse ++ text

def Entry.encode (entry : Entry) : List UInt8 :=
  entry.family.toList ++ counted entry.address ++ counted entry.display ++ counted entry.name ++
    counted entry.data.toList

def encoding (entries : List Entry) : List UInt8 := entries.flatMap Entry.encode

/-- The entry in memory, as it was read. -/
def Entry.held (littleEndian : Bool) (entry : Entry) : XAuthInfo where
  family := ntohs littleEndian (loaded littleEndian entry.family.toList)
  family_nbo := loaded littleEndian entry.family.toList
  addr_len := entry.address.length
  addr_len_nbo := htons littleEndian entry.address.length
  display_len := entry.display.length
  display_len_nbo := htons littleEndian entry.display.length
  name_len := entry.name.length
  name_len_nbo := htons littleEndian entry.name.length
  data_len := AUTH_DATA_SZ
  data_len_nbo := htons littleEndian AUTH_DATA_SZ
  addr := copyText (zeros HOST_NAME_MAX) entry.address
  display := copyText (zeros HOST_NAME_MAX) entry.display
  name := copyText (zeros NAME_MAX) entry.name
  data := entry.data

end format

section texts

variable {size : Nat} {array : Vector UInt8 size} {text more : List UInt8}

theorem overlay_toList (array : Vector UInt8 size) (fits : text.length ≤ size) :
    (overlay array text).toList = text ++ array.toList.drop text.length := by
  apply List.ext_getElem
  · simp
    omega
  · intro index left right
    rw [Vector.length_toList] at left
    rw [Vector.getElem_toList]
    simp only [overlay,Vector.getElem_ofFn]
    by_cases inside : index < text.length
    · rw [List.getElem_append_left inside,List.getD_eq_getElem _ _ inside]
    · have beyond : text.length ≤ index := Nat.not_lt.mp inside
      have place : text.length + (index - text.length) = index := Nat.add_sub_cancel' beyond
      rw [List.getElem_append_right beyond,List.getD_eq_default _ _ beyond,List.getElem_drop,
        Vector.getElem_toList]
      simp only [place,Fin.getElem_fin]

/-- The text is where it was copied to, with a null byte behind it. -/
theorem copyText_toList (array : Vector UInt8 size) (fits : text.length < size) :
    ∃ behind,(copyText array text).toList = text ++ 0 :: behind := by
  have room : 0 < (array.toList.drop text.length).length := by simpa using fits
  obtain ⟨first,behind,split⟩ := List.exists_cons_of_length_pos room
  refine ⟨behind,?_⟩
  rw [copyText,Vector.toList_setIfInBounds,overlay_toList array (Nat.le_of_lt fits),split,
    List.set_append_right _ _ (Nat.le_refl _),Nat.sub_self,List.set_cons_zero]

theorem copyText_take (array : Vector UInt8 size) (fits : text.length < size) :
    (copyText array text).toList.take text.length = text := by
  obtain ⟨behind,split⟩ := copyText_toList array fits
  rw [split,List.take_left]

theorem takeWhile_null (text behind : List UInt8) :
    (text ++ 0 :: behind).takeWhile (· ≠ 0) = text.takeWhile (· ≠ 0) := by
  induction text with
  | nil => simp
  | cons byte text ih =>
    by_cases null : byte = 0
    · simp [null]
    · simp only [List.cons_append,List.takeWhile_cons,ne_eq,null,not_false_eq_true,decide_true,if_true]
      exact congrArg _ ih

theorem copyText_cString (array : Vector UInt8 size) (fits : text.length < size) :
    cString (copyText array text) = text.takeWhile (· ≠ 0) := by
  obtain ⟨behind,split⟩ := copyText_toList array fits
  rw [cString,split,takeWhile_null]

end texts

section reading

variable (littleEndian : Bool) {size count value : Nat} {bytes text more : List UInt8}
  {entry : Entry} {entries : List Entry}

theorem stored_loaded (bytes : List UInt8) :
    stored littleEndian bytes.length (loaded littleEndian bytes) = bytes := by
  cases littleEndian with
  | false =>
    have back := Formatting.encode_leastFirst bytes.reverse
    rw [List.length_reverse] at back
    simp only [stored,loaded,if_false,Bool.false_eq_true,back,List.reverse_reverse]
  | true =>
    simp only [stored,loaded,if_true]
    exact Formatting.encode_leastFirst bytes

/-- A number in network order is loaded as `htons` gives it. -/
theorem loaded_network (small : value < 256 ^ 2) :
    loaded littleEndian (Formatting.encode 2 value).reverse = htons littleEndian value := by
  cases littleEndian with
  | false =>
    simp only [loaded,htons,Formatting.ordered,if_false,Bool.false_eq_true,List.reverse_reverse]
    exact Formatting.leastFirst_encode small
  | true => rfl

theorem ntohs_htons (small : value < 256 ^ 2) : ntohs littleEndian (htons littleEndian value) = value := by
  cases littleEndian with
  | false => rfl
  | true => exact Formatting.bswap_bswap small

theorem stored_htons (small : value < 256 ^ 2) :
    stored littleEndian 2 (htons littleEndian value) = (Formatting.encode 2 value).reverse := by
  have back := stored_loaded littleEndian (Formatting.encode 2 value).reverse
  rwa [List.length_reverse,Formatting.encode_length,loaded_network littleEndian small] at back

theorem read_front (length : bytes.length = count) :
    InputStream.read { left := bytes ++ more,eof := false } count =
      (bytes,{ left := more,eof := false }) := by
  subst length
  have inside : bytes.length ≤ (bytes ++ more).length := by
    rw [List.length_append]
    exact Nat.le_add_right _ _
  simp only [InputStream.read,if_false,Bool.false_eq_true,inside,if_true,List.take_left,List.drop_left]

theorem readShort_front (length : bytes.length = 2) :
    readShort littleEndian { left := bytes ++ more,eof := false } =
      (loaded littleEndian bytes,ntohs littleEndian (loaded littleEndian bytes),
        { left := more,eof := false }) := by
  rw [readShort,read_front length]

/-- Reading a length in network order. -/
theorem readShort_network (small : value < 256 ^ 2) :
    readShort littleEndian { left := (Formatting.encode 2 value).reverse ++ more,eof := false } =
      (htons littleEndian value,value,{ left := more,eof := false }) := by
  have length : (Formatting.encode 2 value).reverse.length = 2 := by
    rw [List.length_reverse,Formatting.encode_length]
  rw [readShort_front littleEndian length,loaded_network littleEndian small,ntohs_htons littleEndian small]

theorem readText_counted {expression : String} (short : text.length < size) (narrow : size ≤ 256 ^ 2) :
    readText littleEndian size expression { left := counted text ++ more,eof := false } =
      .ok (htons littleEndian text.length,text.length,copyText (zeros size) text,
        { left := more,eof := false }) := by
  have small := short.trans_le narrow
  rw [readText,counted,List.append_assoc,readShort_network littleEndian small]
  dsimp only
  rw [assert,demand_true short,ok_bind,read_front rfl]
  rfl

theorem overlay_data (data : Vector UInt8 AUTH_DATA_SZ) :
    overlay (zeros AUTH_DATA_SZ) data.toList = data := by
  apply Vector.toList_inj.mp
  rw [overlay_toList _ (Nat.le_of_eq (Vector.length_toList)),Vector.length_toList,
    List.drop_eq_nil_of_le (Nat.le_of_eq (Vector.length_toList)),List.append_nil]

theorem readEntry_encode (entry : Entry) (more : List UInt8) :
    readEntry littleEndian { left := entry.encode ++ more,eof := false } =
      .ok (entry.held littleEndian,{ left := more,eof := false }) := by
  have hosts : HOST_NAME_MAX ≤ 256 ^ 2 := by decide
  have names : NAME_MAX ≤ 256 ^ 2 := by decide
  have wide : AUTH_DATA_SZ < 256 ^ 2 := by decide
  have length : entry.data.toList.length = AUTH_DATA_SZ := Vector.length_toList
  simp only [readEntry,Entry.encode,List.append_assoc]
  rw [readShort_front littleEndian Vector.length_toList]
  dsimp only
  rw [readText_counted littleEndian entry.address_short hosts,ok_bind]
  dsimp only
  rw [readText_counted littleEndian entry.display_short hosts,ok_bind]
  dsimp only
  rw [readText_counted littleEndian entry.name_short names,ok_bind]
  dsimp only
  rw [counted,length,List.append_assoc,readShort_network littleEndian wide]
  dsimp only
  rw [assert,demand_true rfl,ok_bind,read_front length]
  dsimp only
  rw [overlay_data,pure_ok]
  rfl

theorem encode_nonempty (entry : Entry) : entry.encode ≠ [] := by
  intro nothing
  have length := congrArg List.length nothing
  rw [Entry.encode] at length
  simp at length

/-- The loop reads one entry and goes on, with the end of the file seen if nothing is left. -/
theorem readEntries_step (growth : Growth) (entry : Entry) (more : List UInt8)
    (vector : GrowingVector XAuthInfo) :
    readEntries littleEndian growth { left := entry.encode ++ more,eof := false } vector =
      readEntries littleEndian growth { left := more,eof := more.isEmpty }
        (vector.push growth (entry.held littleEndian)) := by
  have one := readEntry_encode littleEndian entry more
  rw [readEntries]
  split
  · rename_i ended
    cases ended
  · split
    · rename_i fault failed
      rw [one] at failed
      cases failed
    · rename_i auth after done
      rw [one] at done
      cases done
      rfl

theorem readEntries_ended (growth : Growth) (left : List UInt8) (vector : GrowingVector XAuthInfo) :
    readEntries littleEndian growth { left,eof := true } vector = .ok vector := by
  rw [readEntries]
  exact dif_pos rfl

theorem readEntries_encoding (growth : Growth) (entries : List Entry) (nonempty : entries ≠ [])
    (vector : GrowingVector XAuthInfo) :
    readEntries littleEndian growth { left := encoding entries,eof := false } vector =
      .ok ((entries.map (Entry.held littleEndian)).foldl (GrowingVector.push growth) vector) := by
  induction entries generalizing vector with
  | nil => exact absurd rfl nonempty
  | cons entry entries ih =>
    have split : encoding (entry :: entries) = entry.encode ++ encoding entries := rfl
    rw [split,readEntries_step,List.map_cons,List.foldl_cons]
    cases entries with
    | nil => exact readEntries_ended littleEndian growth _ _
    | cons next entries =>
      have unread : (encoding (next :: entries)).isEmpty = false := by
        rw [List.isEmpty_eq_false_iff]
        intro nothing
        exact encode_nonempty next (List.append_eq_nil_iff.mp nothing).1
      rw [unread]
      exact ih (List.cons_ne_nil _ _) _

/-- The loop takes an empty file for one with an entry, which has no data. -/
theorem readEntries_nothing (growth : Growth) (vector : GrowingVector XAuthInfo) :
    ∃ fault,readEntries littleEndian growth { left := [],eof := false } vector = .error fault := by
  have wrong : readEntry littleEndian { left := [],eof := false } =
      .error (.assertion "auth.data_len == sizeof(auth.data)") := by
    cases littleEndian <;> rfl
  rw [readEntries]
  split
  · rename_i ended
    cases ended
  · split
    · rename_i fault failed
      exact ⟨fault,rfl⟩
    · rename_i auth after done
      rw [wrong] at done
      cases done

theorem write_held (entry : Entry) :
    (entry.held littleEndian).write littleEndian = entry.encode := by
  have hosts : HOST_NAME_MAX ≤ 256 ^ 2 := by decide
  have names : NAME_MAX ≤ 256 ^ 2 := by decide
  have wide : AUTH_DATA_SZ < 256 ^ 2 := by decide
  have family := stored_loaded littleEndian entry.family.toList
  have length : entry.data.toList.length = AUTH_DATA_SZ := Vector.length_toList
  have data : entry.data.toList.take AUTH_DATA_SZ = entry.data.toList :=
    List.take_of_length_le (Nat.le_of_eq length)
  rw [Vector.length_toList] at family
  simp only [XAuthInfo.write,Entry.held,Entry.encode,counted,
    copyText_take _ entry.address_short,copyText_take _ entry.display_short,
    copyText_take _ entry.name_short,family,length,data,
    stored_htons littleEndian (entry.address_short.trans_le hosts),
    stored_htons littleEndian (entry.display_short.trans_le hosts),
    stored_htons littleEndian (entry.name_short.trans_le names),stored_htons littleEndian wide]

end reading

section injective

variable (littleEndian : Bool)

theorem held_injective {entry other : Entry} (same : entry.held littleEndian = other.held littleEndian) :
    entry = other := by
  have family : stored littleEndian 2 (entry.held littleEndian).family_nbo =
      stored littleEndian 2 (other.held littleEndian).family_nbo := by rw [same]
  have address : (entry.held littleEndian).addr.toList.take (entry.held littleEndian).addr_len =
      (other.held littleEndian).addr.toList.take (other.held littleEndian).addr_len := by rw [same]
  have display : (entry.held littleEndian).display.toList.take (entry.held littleEndian).display_len =
      (other.held littleEndian).display.toList.take (other.held littleEndian).display_len := by rw [same]
  have name : (entry.held littleEndian).name.toList.take (entry.held littleEndian).name_len =
      (other.held littleEndian).name.toList.take (other.held littleEndian).name_len := by rw [same]
  have data : (entry.held littleEndian).data = (other.held littleEndian).data := by rw [same]
  have left := stored_loaded littleEndian entry.family.toList
  have right := stored_loaded littleEndian other.family.toList
  rw [Vector.length_toList] at left right
  simp only [Entry.held,left,right,copyText_take _ entry.address_short,copyText_take _ other.address_short,
    copyText_take _ entry.display_short,copyText_take _ other.display_short,
    copyText_take _ entry.name_short,copyText_take _ other.name_short] at family address display name data
  cases entry
  cases other
  cases Vector.toList_inj.mp family
  cases address
  cases display
  cases name
  cases data
  rfl

theorem encode_append_injective {entry other : Entry} {more rest : List UInt8}
    (same : entry.encode ++ more = other.encode ++ rest) : entry = other ∧ more = rest := by
  have left := readEntry_encode true entry more
  have right := readEntry_encode true other rest
  rw [same,right] at left
  obtain ⟨held,stream⟩ := Prod.mk.inj (Except.ok.inj left)
  exact ⟨(held_injective true held).symm,(InputStream.mk.inj stream).1.symm⟩

theorem encoding_injective {entries others : List Entry} (same : encoding entries = encoding others) :
    entries = others := by
  induction entries generalizing others with
  | nil =>
    cases others with
    | nil => rfl
    | cons other others => exact absurd (List.append_eq_nil_iff.mp same.symm).1 (encode_nonempty other)
  | cons entry entries ih =>
    cases others with
    | nil => exact absurd (List.append_eq_nil_iff.mp same).1 (encode_nonempty entry)
    | cons other others =>
      obtain ⟨first,rest⟩ := encode_append_injective same
      rw [first,ih rest]

end injective

section decimal

variable {value : Int} {digits : List Nat}

theorem digit_byte {digit : Nat} (small : digit < 10) :
    isdigit (UInt8.ofNat (48 + digit)) = true ∧ (UInt8.ofNat (48 + digit)).toNat - 48 = digit := by
  have width : (UInt8.ofNat (48 + digit)).toNat = 48 + digit := by
    rw [UInt8.toNat_ofNat']
    omega
  refine ⟨?_,by omega⟩
  rw [isdigit,Bool.and_eq_true,decide_eq_true_iff,decide_eq_true_iff,UInt8.le_iff_toNat_le,
    UInt8.le_iff_toNat_le,width]
  constructor
  · change 48 ≤ 48 + digit
    omega
  · change 48 + digit ≤ 57
    omega

theorem foldl_digits (small : ∀ digit ∈ digits,digit < 10) :
    (digits.reverse.map fun digit => UInt8.ofNat (48 + digit)).foldl
      (fun value byte => 10 * value + (byte.toNat - 48)) 0 = Nat.ofDigits 10 digits := by
  induction digits with
  | nil => rfl
  | cons digit digits ih =>
    obtain ⟨here,rest⟩ := List.forall_mem_cons.mp small
    rw [List.reverse_cons,List.map_append,List.foldl_append,ih rest]
    simp only [List.map_cons,List.map_nil,List.foldl_cons,List.foldl_nil,(digit_byte here).2,
      Nat.ofDigits_cons]
    omega

theorem decimalDigits_isdigit (number : Nat) : ∀ byte ∈ decimalDigits number,isdigit byte = true := by
  intro byte inside
  rw [decimalDigits] at inside
  split at inside
  · rw [List.mem_singleton.mp inside]
    rfl
  · obtain ⟨digit,written,rfl⟩ := List.mem_map.mp inside
    exact (digit_byte (Nat.digits_lt_base (by decide) (List.mem_reverse.mp written))).1

theorem leadingNumber_decimalDigits (number : Nat) : leadingNumber (decimalDigits number) = number := by
  rw [leadingNumber,List.takeWhile_eq_self_iff.mpr (decimalDigits_isdigit number)]
  rw [decimalDigits]
  split
  · rename_i zero
    rw [zero]
    rfl
  · rw [foldl_digits fun digit written => Nat.digits_lt_base (by decide) written,Nat.ofDigits_digits]

theorem decimalDigits_nonempty (number : Nat) : decimalDigits number ≠ [] := by
  rw [decimalDigits]
  split
  · exact List.cons_ne_nil _ _
  · rename_i nonzero
    simpa [Nat.digits_eq_nil_iff_eq_zero] using nonzero

theorem isdigit_other {byte : UInt8} (digit : isdigit byte = true) :
    isspace byte = false ∧ byte ≠ 45 ∧ byte ≠ 43 ∧ byte ≠ 0 := by
  rw [isdigit,Bool.and_eq_true,decide_eq_true_iff,decide_eq_true_iff,UInt8.le_iff_toNat_le,
    UInt8.le_iff_toNat_le] at digit
  obtain ⟨low,high⟩ := digit
  change 48 ≤ byte.toNat at low
  refine ⟨?_,?_,?_,?_⟩
  · have above : ¬byte ≤ 13 := by
      rw [UInt8.le_iff_toNat_le]
      change ¬byte.toNat ≤ 13
      omega
    have other : byte ≠ 32 := by
      intro same
      subst same
      exact absurd low (by decide)
    simp [isspace,above,other]
  · intro same
    subst same
    exact absurd low (by decide)
  · intro same
    subst same
    exact absurd low (by decide)
  · intro same
    subst same
    exact absurd low (by decide)

/-- `strtol` reads back what `fmt::format` writes. -/
theorem strtol_format (known : 0 ≤ value) (small : value ≤ DisplayInfo.INT_MAX) :
    strtol ((format value).takeWhile (· ≠ 0)) = value := by
  have nonnegative : ¬value < 0 := Int.not_lt.mpr known
  have digits := decimalDigits_isdigit value.natAbs
  have whole : (decimalDigits value.natAbs).takeWhile (· ≠ 0) = decimalDigits value.natAbs := by
    apply List.takeWhile_eq_self_iff.mpr
    intro byte inside
    exact decide_eq_true (isdigit_other (digits byte inside)).2.2.2
  obtain ⟨first,rest,split⟩ := List.exists_cons_of_ne_nil (decimalDigits_nonempty value.natAbs)
  have shown := isdigit_other (digits first (by simp [split]))
  have unspaced : (decimalDigits value.natAbs).dropWhile isspace = decimalDigits value.natAbs := by
    rw [split,List.dropWhile_cons,shown.1]
    rfl
  have bound : min value.natAbs (2^63 - 1) = value.natAbs := by
    change value ≤ 2147483647 at small
    omega
  rw [format,if_neg nonnegative,whole,strtol]
  simp only [unspaced,leadingNumber_decimalDigits]
  rw [if_neg,if_neg,bound]
  · omega
  · rw [split]
    simpa using shown.2.2.1
  · rw [split]
    simpa using shown.2.1

theorem format_short (known : 0 ≤ value) (small : value ≤ DisplayInfo.INT_MAX) :
    (format value).length < HOST_NAME_MAX := by
  have nonnegative : ¬value < 0 := Int.not_lt.mpr known
  rw [format,if_neg nonnegative,decimalDigits]
  split
  · decide
  · rw [List.length_map,List.length_reverse]
    have width : (Nat.digits 10 value.natAbs).length ≤ 10 := by
      rw [Nat.digits_length_le_iff (by decide)]
      change value ≤ 2147483647 at small
      omega
    exact width.trans_lt (by decide)

end decimal

end AuthorityFile
end Xtracepp
