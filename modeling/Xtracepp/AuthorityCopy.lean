import Xtracepp.AuthorityFile
import Xtracepp.Library.Searching

/-! When rewriting the authority file keeps it: what the search for the two entries finds,
what is written, and where that is the copied entry and nothing else.
-/
namespace Xtracepp
open Library Library.Outcome Library.Growing Library.Searching

namespace AuthorityFile
open Authentication

/-- What `strtol` makes of the display string. -/
def Entry.ReadAs (number : Int) (entry : Entry) : Prop :=
  strtol (entry.display.takeWhile (· ≠ 0)) = number

/-- Whether the name is `_AUTH_NAME`, up to a null byte. -/
def Entry.Cookie (entry : Entry) : Prop := entry.name.takeWhile (· ≠ 0) = AUTH_NAME

/-- An entry with all that another has, for a display of its own. -/
structure Entry.Copies (copy entry : Entry) (number : Int) : Prop where
  display : copy.display = format number
  family : copy.family = entry.family
  address : copy.address = entry.address
  name : copy.name = entry.name
  data : copy.data = entry.data

/-- An entry of a display, with the family and the address of another one. -/
structure Entry.Beside (entry other : Entry) (number : Int) : Prop where
  display : entry.display = format number
  family : entry.family = other.family
  address : entry.address = other.address

section search

variable {littleEndian : Bool} {in_display out_display : DisplayInfo} {number : Int} {fault : Fault}
  {entry : Entry} {seen rest : List Entry} {noted first second : Option Nat}

theorem held_number (entry : Entry) :
    (entry.held littleEndian).number = strtol (entry.display.takeWhile (· ≠ 0)) := by
  rw [XAuthInfo.number,Entry.held,copyText_cString _ entry.display_short]

theorem held_name (entry : Entry) :
    cString (entry.held littleEndian).name = entry.name.takeWhile (· ≠ 0) :=
  copyText_cString _ entry.name_short

theorem note_found (place : Nat) (like : entry.ReadAs number) (cookie : entry.Cookie) :
    note number fault (entry.held littleEndian) place noted = .ok (some place) := by
  rw [Entry.Cookie,← @held_name littleEndian entry] at cookie
  rw [Entry.ReadAs,← @held_number littleEndian entry] at like
  rw [note,if_pos like,demand_true cookie,ok_bind,assert]
  rfl

theorem note_skip (place : Nat) (unlike : ¬entry.ReadAs number) :
    note number fault (entry.held littleEndian) place noted = .ok noted := by
  rw [Entry.ReadAs,← @held_number littleEndian entry] at unlike
  rw [note,if_neg unlike,pure_ok]

theorem note_done (known : LastPlace (Entry.ReadAs number) seen noted)
    (cookie : entry.ReadAs number → entry.Cookie) :
    ∃ place,note number fault (entry.held littleEndian) seen.length noted = .ok place ∧
      LastPlace (Entry.ReadAs number) (seen ++ [entry]) place := by
  by_cases like : entry.ReadAs number
  · exact ⟨some seen.length,note_found seen.length like (cookie like),LastPlace.note seen like⟩
  · exact ⟨noted,note_skip seen.length like,known.skip like⟩

theorem note_cookie {place : Nat} {result : Option Nat}
    (done : note number fault (entry.held littleEndian) place noted = .ok result)
    (like : entry.ReadAs number) : entry.Cookie := by
  rw [Entry.ReadAs,← @held_number littleEndian entry] at like
  rw [note,if_pos like] at done
  have named := (demand_bind_success done).1
  rwa [held_name] at named

/-- The entries of the two displays that were looked at have the supported name. -/
def Supported (in_display out_display : DisplayInfo) (scanned : List Entry) : Prop :=
  ∀ entry ∈ scanned,entry.ReadAs in_display.display ∨ entry.ReadAs out_display.display → entry.Cookie

theorem Supported.step (supported : Supported in_display out_display seen)
    (cookieIn : entry.ReadAs in_display.display → entry.Cookie)
    (cookieOut : entry.ReadAs out_display.display → entry.Cookie) :
    Supported in_display out_display (seen ++ [entry]) := by
  intro one inside like
  rcases List.mem_append.mp inside with earlier | here
  · exact supported one earlier like
  · rw [List.mem_singleton.mp here] at like ⊢
    exact like.elim cookieIn cookieOut

theorem findAuths_step (places : Option Nat × Option Nat)
    (notedIn : noteIn in_display (entry.held littleEndian) seen.length first = .ok places.1)
    (notedOut : noteOut out_display (entry.held littleEndian) seen.length second = .ok places.2) :
    findAuths in_display out_display ((entry :: rest).map (Entry.held littleEndian)) seen.length
        first second =
      if places.1.isSome && places.2.isSome then .ok places
      else findAuths in_display out_display (rest.map (Entry.held littleEndian)) (seen ++ [entry]).length
        places.1 places.2 := by
  rw [List.map_cons,findAuths,notedIn,ok_bind,notedOut,ok_bind,List.length_append,List.length_singleton,
    pure_ok]

theorem findAuths_searched (rest seen : List Entry) (first second : Option Nat)
    (knownIn : LastPlace (Entry.ReadAs in_display.display) seen first)
    (knownOut : LastPlace (Entry.ReadAs out_display.display) seen second)
    (partly : ¬Both (Entry.ReadAs in_display.display) (Entry.ReadAs out_display.display) seen)
    (supported : Supported in_display out_display seen) :
    ∃ scanned left,
      Searched (Entry.ReadAs in_display.display) (Entry.ReadAs out_display.display) (seen ++ rest)
        scanned left ∧
      seen <+: scanned ∧
      (Supported in_display out_display scanned → ∃ places : Option Nat × Option Nat,
        LastPlace (Entry.ReadAs in_display.display) scanned places.1 ∧
        LastPlace (Entry.ReadAs out_display.display) scanned places.2 ∧
        findAuths in_display out_display (rest.map (Entry.held littleEndian)) seen.length first second =
          .ok places) ∧
      ∀ places,findAuths in_display out_display (rest.map (Entry.held littleEndian)) seen.length
        first second = .ok places → Supported in_display out_display scanned := by
  induction rest generalizing seen first second with
  | nil =>
    rw [List.append_nil]
    refine ⟨seen,[],⟨(List.append_nil seen).symm,.inl rfl,?_⟩,List.prefix_refl seen,?_,?_⟩
    · intro before last same both
      apply partly
      rw [same]
      exact both.append [last]
    · intro _
      exact ⟨(first,second),knownIn,knownOut,rfl⟩
    · intro _ _
      exact supported
  | cons entry rest ih =>
    have shifted : seen ++ entry :: rest = (seen ++ [entry]) ++ rest := by
      rw [List.append_assoc,List.singleton_append]
    have cookies : ∀ {scanned},seen ++ [entry] <+: scanned → Supported in_display out_display scanned →
        (entry.ReadAs in_display.display → entry.Cookie) ∧
          (entry.ReadAs out_display.display → entry.Cookie) := by
      intro scanned start all
      have inside : entry ∈ scanned := start.subset (List.mem_append_right _ List.mem_cons_self)
      exact ⟨fun like => all entry inside (.inl like),fun like => all entry inside (.inr like)⟩
    have noted : ∀ places,findAuths in_display out_display ((entry :: rest).map (Entry.held littleEndian))
        seen.length first second = .ok places → Supported in_display out_display (seen ++ [entry]) := by
      intro places done
      obtain ⟨placeIn,notedIn,done⟩ := bind_success done
      obtain ⟨placeOut,notedOut,_⟩ := bind_success done
      exact supported.step (note_cookie notedIn) (note_cookie notedOut)
    by_cases both : Both (Entry.ReadAs in_display.display) (Entry.ReadAs out_display.display)
        (seen ++ [entry])
    · refine ⟨seen ++ [entry],rest,⟨shifted,.inr both,?_⟩,List.prefix_append _ _,?_,noted⟩
      · intro before last same
        rwa [← (List.append_inj' same rfl).1]
      · intro all
        obtain ⟨cookieIn,cookieOut⟩ := cookies (List.prefix_refl _) all
        obtain ⟨placeIn,notedIn,afterIn⟩ := note_done knownIn cookieIn
        obtain ⟨placeOut,notedOut,afterOut⟩ := note_done knownOut cookieOut
        refine ⟨(placeIn,placeOut),afterIn,afterOut,?_⟩
        rw [findAuths_step (placeIn,placeOut) notedIn notedOut,if_pos]
        rw [Bool.and_eq_true]
        exact ⟨afterIn.isSome.mpr both.1,afterOut.isSome.mpr both.2⟩
    · by_cases next : Supported in_display out_display (seen ++ [entry])
      · obtain ⟨cookieIn,cookieOut⟩ := cookies (List.prefix_refl _) next
        obtain ⟨placeIn,notedIn,afterIn⟩ := note_done knownIn cookieIn
        obtain ⟨placeOut,notedOut,afterOut⟩ := note_done knownOut cookieOut
        have open' : ¬(placeIn.isSome && placeOut.isSome) = true := by
          rw [Bool.and_eq_true]
          intro found
          exact both ⟨afterIn.isSome.mp found.1,afterOut.isSome.mp found.2⟩
        rw [findAuths_step (placeIn,placeOut) notedIn notedOut,if_neg open',shifted]
        obtain ⟨scanned,left,searched,reaches,found,checked⟩ :=
          ih (seen ++ [entry]) placeIn placeOut afterIn afterOut both next
        exact ⟨scanned,left,searched,(List.prefix_append _ _).trans reaches,found,checked⟩
      · obtain ⟨scanned,left,searched,reaches⟩ := searched_from rest (seen ++ [entry]) both
        rw [← shifted] at searched
        refine ⟨scanned,left,searched,(List.prefix_append _ _).trans reaches,?_,?_⟩
        · intro all
          obtain ⟨cookieIn,cookieOut⟩ := cookies reaches all
          exact absurd (supported.step cookieIn cookieOut) next
        · intro places done
          exact absurd (noted places done) next

end search

section edit

variable {littleEndian : Bool} {growth : Growth} {in_display out_display : DisplayInfo} {number : Int}
  {copy chosen old : Entry} {entries before after scanned rest : List Entry}

theorem duplicate_write (copied : copy.Copies chosen number) :
    ((chosen.held littleEndian).duplicate littleEndian (format number)).write littleEndian =
      copy.encode := by
  have short := copy.display_short
  rw [copied.display] at short
  have hosts : HOST_NAME_MAX ≤ 256 ^ 2 := by decide
  have names : NAME_MAX ≤ 256 ^ 2 := by decide
  have wide : AUTH_DATA_SZ < 256 ^ 2 := by decide
  have width : (format number).length % 2^16 = (format number).length :=
    Nat.mod_eq_of_lt (short.trans_le hosts)
  have family := stored_loaded littleEndian chosen.family.toList
  have length : chosen.data.toList.length = AUTH_DATA_SZ := Vector.length_toList
  have data : chosen.data.toList.take AUTH_DATA_SZ = chosen.data.toList :=
    List.take_of_length_le (Nat.le_of_eq length)
  rw [Vector.length_toList] at family
  simp only [XAuthInfo.write,XAuthInfo.duplicate,Entry.held,Entry.encode,counted,width,copied.display,
    copied.family,copied.address,copied.name,copied.data,copyText_take _ short,
    copyText_take _ chosen.address_short,copyText_take _ chosen.name_short,family,length,data,
    stored_htons littleEndian (short.trans_le hosts),
    stored_htons littleEndian (chosen.address_short.trans_le hosts),
    stored_htons littleEndian (chosen.name_short.trans_le names),stored_htons littleEndian wide]

theorem write_entries (entries : List Entry) :
    (entries.map (Entry.held littleEndian)).flatMap (XAuthInfo.write littleEndian) = encoding entries := by
  rw [List.flatMap_map,encoding]
  congr 1
  funext entry
  exact write_held littleEndian entry

theorem encoding_append (entries others : List Entry) :
    encoding (entries ++ others) = encoding entries ++ encoding others := List.flatMap_append

theorem write_replaced (copied : copy.Copies chosen number) :
    ((((before ++ old :: after).map (Entry.held littleEndian)).set before.length
        ((chosen.held littleEndian).duplicate littleEndian (format number))).flatMap
          (XAuthInfo.write littleEndian)) = encoding (before ++ copy :: after) := by
  have length : before.length = (before.map (Entry.held littleEndian)).length := by
    rw [List.length_map]
  rw [List.map_append,List.map_cons,length,List.set_append_right _ _ (Nat.le_refl _),Nat.sub_self,
    List.set_cons_zero,List.flatMap_append,List.flatMap_cons,write_entries,write_entries,
    duplicate_write copied,encoding_append]
  rfl

theorem write_appended (copied : copy.Copies chosen number) :
    (entries.map (Entry.held littleEndian) ++
        [(chosen.held littleEndian).duplicate littleEndian (format number)]).flatMap
          (XAuthInfo.write littleEndian) = encoding (entries ++ [copy]) := by
  rw [List.flatMap_append,List.flatMap_singleton,write_entries,duplicate_write copied,encoding_append,
    encoding,encoding,List.flatMap_singleton]

theorem deref_held {pointer : String} {items : List XAuthInfo} {place : Nat} {auth : XAuthInfo}
    (there : items[place]? = some auth) : deref items pointer place = .ok auth := by
  rw [deref,there]
  rfl

theorem data_kept {items : List XAuthInfo} {place other : Nat} {auth : XAuthInfo} {text : List UInt8}
    (there : items[place]? = some auth) :
    ∃ kept,(items.set other (auth.duplicate littleEndian text))[place]? = some kept ∧
      kept.data = auth.data := by
  by_cases same : other = place
  · subst same
    obtain ⟨inside,_⟩ := List.getElem?_eq_some_iff.mp there
    exact ⟨_,List.getElem?_set_self inside,rfl⟩
  · exact ⟨auth,(List.getElem?_set_ne same).trans there,rfl⟩

theorem Last.place {wanted : Entry → Prop} (last : Last wanted scanned before chosen after)
    (rest : List Entry) :
    ((scanned ++ rest).map (Entry.held littleEndian))[before.length]? =
      some (chosen.held littleEndian) := by
  rw [last.whole,List.append_assoc,List.getElem?_map,List.getElem?_append_right (Nat.le_refl _),
    Nat.sub_self]
  rfl

variable {vector : GrowingVector XAuthInfo} {preceding following : List Entry}
  {edited : List XAuthInfo × Vector UInt8 AUTH_DATA_SZ}

theorem editEntries_replaced {place : Nat} (items : vector.items = entries.map (Entry.held littleEndian))
    (whole : entries = scanned ++ rest)
    (last : Last (Entry.ReadAs out_display.display) scanned preceding chosen following)
    (found : findAuths in_display out_display (entries.map (Entry.held littleEndian)) 0 none none =
      .ok (some place,some preceding.length)) :
    editEntries littleEndian growth in_display out_display vector =
      .ok ((entries.map (Entry.held littleEndian)).set place
        ((chosen.held littleEndian).duplicate littleEndian (format in_display.display)),chosen.data) := by
  have there := @Last.place littleEndian _ _ _ _ _ last rest
  rw [← whole] at there
  obtain ⟨kept,after,data⟩ :=
    @data_kept littleEndian _ _ place _ (format in_display.display) there
  rw [editEntries,items,found,ok_bind]
  dsimp only
  rw [deref_held there,ok_bind]
  rw [deref_held after,ok_bind,pure_ok,data]
  rfl

theorem editEntries_appended (items : vector.items = entries.map (Entry.held littleEndian))
    (whole : entries = scanned ++ rest)
    (last : Last (Entry.ReadAs out_display.display) scanned preceding chosen following)
    (found : findAuths in_display out_display (entries.map (Entry.held littleEndian)) 0 none none =
      .ok (none,some preceding.length)) :
    editEntries littleEndian growth in_display out_display vector =
      if vector.full then .error (.undefined "out_display_auth->data")
      else .ok (entries.map (Entry.held littleEndian) ++
        [(chosen.held littleEndian).duplicate littleEndian (format in_display.display)],chosen.data) := by
  have there := @Last.place littleEndian _ _ _ _ _ last rest
  rw [← whole] at there
  have inside := (List.getElem?_eq_some_iff.mp there).1
  have after : (entries.map (Entry.held littleEndian) ++
      [(chosen.held littleEndian).duplicate littleEndian (format in_display.display)])[preceding.length]? =
        some (chosen.held littleEndian) := by
    rw [List.getElem?_append_left inside,there]
  rw [editEntries,items,found,ok_bind]
  dsimp only
  rw [deref_held there,ok_bind]
  rw [push_items,items]
  split
  · rfl
  · rw [deref_held after,ok_bind,pure_ok]
    rfl

theorem editEntries_missing (items : vector.items = entries.map (Entry.held littleEndian))
    {place : Option Nat}
    (found : findAuths in_display out_display (entries.map (Entry.held littleEndian)) 0 none none =
      .ok (place,none)) :
    editEntries littleEndian growth in_display out_display vector = .error .exited := by
  rw [editEntries,items,found,ok_bind]

theorem findAuths_all (littleEndian : Bool) (in_display out_display : DisplayInfo)
    (entries : List Entry) :
    ∃ scanned left,
      Searched (Entry.ReadAs in_display.display) (Entry.ReadAs out_display.display) entries scanned left ∧
      (Supported in_display out_display scanned → ∃ places : Option Nat × Option Nat,
        LastPlace (Entry.ReadAs in_display.display) scanned places.1 ∧
        LastPlace (Entry.ReadAs out_display.display) scanned places.2 ∧
        findAuths in_display out_display (entries.map (Entry.held littleEndian)) 0 none none =
          .ok places) ∧
      ∀ places,findAuths in_display out_display (entries.map (Entry.held littleEndian)) 0 none none =
        .ok places → Supported in_display out_display scanned := by
  have nothing : ∀ kind : Entry → Prop,∀ entry ∈ ([] : List Entry),¬kind entry :=
    fun _ _ inside => absurd inside List.not_mem_nil
  obtain ⟨scanned,left,searched,_,found,checked⟩ := @findAuths_searched littleEndian in_display out_display
    entries [] none none (.nowhere (nothing _)) (.nowhere (nothing _))
    (fun both => both.1.elim fun entry inside => nothing _ entry inside.1 inside.2)
    (fun entry inside => absurd inside List.not_mem_nil)
  exact ⟨scanned,left,searched,found,checked⟩

end edit

section copies

/-- What the code chooses to copy: the last entry of DISPLAY in the part that is looked at. -/
def Chosen (in_display out_display : DisplayInfo) (entries : List Entry) (chosen : Entry) : Prop :=
  ∃ scanned rest preceding following,
    Searched (Entry.ReadAs in_display.display) (Entry.ReadAs out_display.display) entries scanned rest ∧
      Last (Entry.ReadAs out_display.display) scanned preceding chosen following

/-- The entries are written back but for one of PROXYDISPLAY, with the family and the address
of the entry of DISPLAY, which has its name and data now. -/
def Preserved (in_display out_display : DisplayInfo) (entries : List Entry) (written : List UInt8)
    (auth_data : Vector UInt8 AUTH_DATA_SZ) : Prop :=
  ∃ chosen copy,Chosen in_display out_display entries chosen ∧
    chosen.display = format out_display.display ∧ auth_data = chosen.data ∧
    copy.Copies chosen in_display.display ∧
    ((∃ before old after,entries = before ++ old :: after ∧ old.Beside chosen in_display.display ∧
        written = encoding (before ++ copy :: after)) ∨
      (∀ entry ∈ entries,¬entry.Beside chosen in_display.display) ∧
        written = encoding (entries ++ [copy]))

/-- The part of the file that is looked at is up to the first place where `strtol` has read
both display numbers, or all of it. Its entries of either display are supported, and the last one of
DISPLAY is really one. The last one of PROXYDISPLAY is really one, beside that of DISPLAY, or
there is none and the vector has room for one more entry. -/
structure Rewritable (growth : Growth) (in_display out_display : DisplayInfo) (entries : List Entry)
    (scanned rest preceding : List Entry) (chosen : Entry) (following : List Entry) : Prop where
  searched : Searched (Entry.ReadAs in_display.display) (Entry.ReadAs out_display.display) entries
    scanned rest
  supported : Supported in_display out_display scanned
  last : Last (Entry.ReadAs out_display.display) scanned preceding chosen following
  exact : chosen.display = format out_display.display
  proxy : (∃ before old after,Last (Entry.ReadAs in_display.display) scanned before old after ∧
      old.Beside chosen in_display.display) ∨
    (∀ entry ∈ scanned,¬entry.ReadAs in_display.display) ∧
      ∀ steps,entries.length ≠ growth.next^[steps] 0

variable {littleEndian : Bool} {growth : Growth} {in_display out_display : DisplayInfo}
  {environment : Environment} {xauth_path : Text} {entries scanned rest preceding following : List Entry}
  {chosen : Entry} {written : List UInt8} {auth_data : Vector UInt8 AUTH_DATA_SZ}

/-- A display as the constructor leaves it. -/
structure Displayed (info : DisplayInfo) : Prop where
  named : info.name ≠ []
  known : 0 ≤ info.display
  small : info.display ≤ DisplayInfo.INT_MAX

/-- The authority file can be found, read, backed up and written. -/
structure Environment.Holds (environment : Environment) (xauth_path : Text) (contents : List UInt8) :
    Prop where
  placed : environment.xauthPath = .ok xauth_path
  there : environment.files xauth_path = some contents
  backed : environment.writable (xauth_path ++ ['.','b','u','p']) = true
  opened : environment.writable xauth_path = true

theorem prepareCopy_done (named : in_display.name ≠ [] ∧ out_display.name ≠ [])
    (holds : environment.Holds xauth_path (encoding entries)) (nonempty : entries ≠ []) :
    prepareCopy littleEndian growth in_display out_display environment = (do
      let (edited,auth_data) ← editEntries littleEndian growth in_display out_display
        (collect growth (entries.map (Entry.held littleEndian)))
      return (xauth_path,encoding entries,edited.flatMap (XAuthInfo.write littleEndian),auth_data)) := by
  have reading := readEntries_encoding littleEndian growth entries nonempty empty
  rw [prepareCopy,assert,demand_true named,ok_bind,holds.placed,ok_bind,holds.there]
  dsimp only
  rw [reading,ok_bind]
  rfl

theorem copyAuthentication_done (named : in_display.name ≠ [] ∧ out_display.name ≠ [])
    (holds : environment.Holds xauth_path (encoding entries)) (nonempty : entries ≠ []) :
    (∃ copied,copyAuthentication littleEndian growth in_display out_display environment = .ok copied ∧
        copied.files xauth_path = some written ∧ copied.auth_data = auth_data) ↔
      ∃ edited,editEntries littleEndian growth in_display out_display
          (collect growth (entries.map (Entry.held littleEndian))) = .ok (edited,auth_data) ∧
        edited.flatMap (XAuthInfo.write littleEndian) = written := by
  rw [copyAuthentication,prepareCopy_done named holds nonempty]
  cases editEntries littleEndian growth in_display out_display
      (collect growth (entries.map (Entry.held littleEndian))) with
  | error fault => simp
  | ok result =>
    obtain ⟨edited,data⟩ := result
    simp only [ok_bind,pure_ok,holds.backed,holds.opened,if_true,Except.ok.injEq,Prod.mk.injEq]
    constructor
    · intro done
      obtain ⟨copied,same,text,bytes⟩ := done
      subst same
      simp only [Function.update_self,Option.some.injEq] at text
      exact ⟨edited,⟨rfl,bytes⟩,text⟩
    · intro done
      obtain ⟨other,⟨same,bytes⟩,text⟩ := done
      subst same
      subst bytes
      subst text
      exact ⟨_,rfl,by simp only [Function.update_self],rfl⟩

theorem copyAuthentication_empty (holds : environment.Holds xauth_path []) {copied : Copied} :
    copyAuthentication littleEndian growth in_display out_display environment ≠ .ok copied := by
  intro done
  obtain ⟨fault,failed⟩ := readEntries_nothing littleEndian growth empty
  have stopped : ∀ prepared,prepareCopy littleEndian growth in_display out_display environment ≠
      .ok prepared := by
    intro prepared ready
    obtain ⟨_,ready⟩ := demand_bind_success ready
    rw [holds.placed,ok_bind,holds.there] at ready
    dsimp only at ready
    rw [failed] at ready
    cases ready
  rw [copyAuthentication] at done
  split at done
  · cases done
  · rename_i ready
    exact stopped _ ready

theorem searched_whole {wanted other : Entry → Prop} (searched : Searched wanted other entries scanned rest)
    (absent : ∀ entry ∈ scanned,¬wanted entry) : entries = scanned := by
  have all : rest = [] := by
    apply searched.enough.resolve_right
    intro both
    obtain ⟨entry,inside,like⟩ := both.1
    exact absent entry inside like
  rw [searched.whole,all,List.append_nil]

variable {copy other old : Entry} {number : Int} {before after : List Entry}

theorem Entry.Copies.unique (one : copy.Copies chosen number) (two : other.Copies chosen number) :
    copy = other := by
  ext
  · rw [one.family,two.family]
  · rw [one.address,two.address]
  · rw [one.display,two.display]
  · rw [one.name,two.name]
  · rw [one.data,two.data]

theorem Entry.Copies.beside (copied : copy.Copies chosen number) : copy.Beside chosen number :=
  ⟨copied.display,copied.family,copied.address⟩

theorem Displayed.duplicated (displayed : Displayed in_display) (chosen : Entry) :
    ∃ copy : Entry,copy.Copies chosen in_display.display :=
  ⟨{ chosen with
      display := format in_display.display
      display_short := format_short displayed.known displayed.small },rfl,rfl,rfl,rfl,rfl⟩

theorem getElem?_elsewhere {place : Nat} (elsewhere : place ≠ before.length) :
    (before ++ old :: after)[place]? = (before ++ copy :: after)[place]? := by
  rcases Nat.lt_or_gt_of_ne elsewhere with earlier | later
  · rw [List.getElem?_append_left earlier,List.getElem?_append_left earlier]
  · obtain ⟨further,same⟩ := Nat.exists_eq_add_of_lt later
    rw [List.getElem?_append_right (Nat.le_of_lt later),List.getElem?_append_right (Nat.le_of_lt later)]
    have place : place - before.length = further + 1 := by omega
    rw [place,List.getElem?_cons_succ,List.getElem?_cons_succ]

theorem getElem?_here : (before ++ old :: after)[before.length]? = some old := by
  rw [List.getElem?_append_right (Nat.le_refl _),Nat.sub_self,List.getElem?_cons_zero]

/-- If the file is as with the copy at another place, then the entry that was replaced was the
copy. -/
theorem replaced_beside {before' after' : List Entry} {old' : Entry}
    (here : entries = before ++ old :: after) (there : entries = before' ++ old' :: after')
    (copied : copy.Copies chosen number) (beside : old'.Beside chosen number)
    (same : before ++ copy :: after = before' ++ copy :: after') : old.Beside chosen number := by
  have was : entries[before.length]? = some old := by rw [here,getElem?_here]
  by_cases place : before.length = before'.length
  · have is : entries[before.length]? = some old' := by rw [place,there,getElem?_here]
    rw [was] at is
    rwa [Option.some.inj is]
  · have is : entries[before.length]? = some copy := by
      rw [there,getElem?_elsewhere place,← same,getElem?_here]
    rw [was] at is
    rw [Option.some.inj is]
    exact copied.beside

theorem Displayed.readAs (displayed : Displayed in_display) (beside : old.Beside chosen in_display.display) :
    old.ReadAs in_display.display := by
  rw [Entry.ReadAs,beside.display]
  exact strtol_format displayed.known displayed.small

theorem Chosen.unique (one : Chosen in_display out_display entries other)
    (searched : Searched (Entry.ReadAs in_display.display) (Entry.ReadAs out_display.display) entries
      scanned rest)
    (last : Last (Entry.ReadAs out_display.display) scanned preceding chosen following) :
    other = chosen := by
  obtain ⟨scanned',rest',preceding',following',searched',last'⟩ := one
  obtain ⟨same,_⟩ := searched.unique searched'
  subst same
  exact (last'.unique last).2

theorem rewritable_of_preserved (named : in_display.name ≠ [] ∧ out_display.name ≠ [])
    (holds : environment.Holds xauth_path (encoding entries)) (nonempty : entries ≠ []) {copied : Copied}
    (done : copyAuthentication littleEndian growth in_display out_display environment = .ok copied)
    (text : copied.files xauth_path = some written)
    (preserved : Preserved in_display out_display entries written copied.auth_data) :
    ∃ scanned rest preceding chosen following,
      Rewritable growth in_display out_display entries scanned rest preceding chosen following := by
  have items := @collect_items _ growth (entries.map (Entry.held littleEndian))
  obtain ⟨scanned,rest,searched,found,checked⟩ := findAuths_all littleEndian in_display out_display entries
  obtain ⟨edited,edits,writes⟩ :=
    (copyAuthentication_done named holds nonempty).mp ⟨copied,done,text,rfl⟩
  have supported : Supported in_display out_display scanned := by
    obtain ⟨places,search,_⟩ := bind_success edits
    rw [items] at search
    exact checked places search
  obtain ⟨⟨placeIn,placeOut⟩,atIn,atOut,search⟩ := found supported
  dsimp only at atIn atOut
  cases atOut with
  | nowhere absent =>
    rw [editEntries_missing items search] at edits
    cases edits
  | @there preceding chosen following last =>
    obtain ⟨chosen',copy,choice,exact',_,copied',change⟩ := preserved
    cases choice.unique searched last
    refine ⟨scanned,rest,preceding,chosen,following,searched,supported,last,exact',?_⟩
    cases atIn with
    | nowhere absent =>
      refine .inr ⟨absent,?_⟩
      intro steps grown
      rw [editEntries_appended items searched.whole last search,if_pos] at edits
      · cases edits
      · rw [collect_full,List.length_map]
        exact ⟨steps,grown⟩
    | @there before old after replaced =>
      refine .inl ⟨before,old,after,replaced,?_⟩
      rw [editEntries_replaced items searched.whole last search] at edits
      rw [← (Prod.mk.inj (Except.ok.inj edits)).1] at writes
      have whole : entries = before ++ old :: (after ++ rest) := by
        rw [searched.whole,replaced.whole,List.append_assoc,List.cons_append]
      rw [whole,write_replaced copied'] at writes
      rcases change with ⟨before',old',after',whole',beside,written'⟩ | ⟨_,written'⟩
      · have same := encoding_injective (writes.trans written')
        exact replaced_beside whole whole' copied' beside same
      · have same := congrArg List.length (encoding_injective (writes.trans written'))
        rw [whole] at same
        simp at same

theorem edit_of_rewritable (knownIn : Displayed in_display)
    (rewritable : Rewritable growth in_display out_display entries scanned rest preceding chosen
      following) :
    ∃ edited,editEntries littleEndian growth in_display out_display
        (collect growth (entries.map (Entry.held littleEndian))) = .ok (edited,chosen.data) ∧
      Preserved in_display out_display entries (edited.flatMap (XAuthInfo.write littleEndian))
        chosen.data := by
  have items := @collect_items _ growth (entries.map (Entry.held littleEndian))
  obtain ⟨scanned',rest',searched,found,_⟩ := findAuths_all littleEndian in_display out_display entries
  obtain ⟨same,_⟩ := rewritable.searched.unique searched
  subst same
  obtain ⟨⟨placeIn,placeOut⟩,atIn,atOut,search⟩ := found rewritable.supported
  dsimp only at atIn atOut
  obtain ⟨copy,copied⟩ := knownIn.duplicated chosen
  have choice : Chosen in_display out_display entries chosen := ⟨_,_,_,_,searched,rewritable.last⟩
  have pointed : placeOut = some preceding.length := by
    cases atOut with
    | nowhere absent => exact absurd rewritable.last.here (absent _ rewritable.last.mem)
    | there last => rw [(last.unique rewritable.last).1]
  subst pointed
  rcases rewritable.proxy with ⟨before,old,after,replaced,beside⟩ | ⟨absent,room⟩
  · have place : placeIn = some before.length := by
      cases atIn with
      | nowhere absent => exact absurd replaced.here (absent _ replaced.mem)
      | there last => rw [(last.unique replaced).1]
    subst place
    have whole : entries = before ++ old :: (after ++ rest') := by
      rw [searched.whole,replaced.whole,List.append_assoc,List.cons_append]
    refine ⟨_,editEntries_replaced items searched.whole rewritable.last search,
      chosen,copy,choice,rewritable.exact,rfl,copied,.inl ⟨before,old,after ++ rest',whole,beside,?_⟩⟩
    rw [whole,write_replaced copied]
  · have place : placeIn = none := by
      cases atIn with
      | nowhere absent => rfl
      | there last => exact absurd last.here (absent _ last.mem)
    subst place
    refine ⟨entries.map (Entry.held littleEndian) ++
      [(chosen.held littleEndian).duplicate littleEndian (format in_display.display)],?_,
      chosen,copy,choice,rewritable.exact,rfl,copied,.inr ⟨?_,write_appended copied⟩⟩
    · rw [editEntries_appended items searched.whole rewritable.last search,if_neg]
      rw [collect_full,List.length_map]
      intro grown
      obtain ⟨steps,grown⟩ := grown
      exact room steps grown
    · intro entry inside beside
      rw [searched_whole searched absent] at inside
      exact absent entry inside (knownIn.readAs beside)

/-- The authority file is rewritten to what it was but for the copied entry exactly when the
entries that were found by number are those of the displays, and no pointer to one of them is used
after the vector has moved them. -/
theorem copyAuthentication_preserves (littleEndian : Bool) (growth : Growth)
    {in_display out_display : DisplayInfo} {environment : Environment} {xauth_path : Text}
    {entries : List Entry} (knownIn : Displayed in_display) (knownOut : Displayed out_display)
    (holds : environment.Holds xauth_path (encoding entries)) :
    (∃ copied written,
        copyAuthentication littleEndian growth in_display out_display environment = .ok copied ∧
        copied.files xauth_path = some written ∧
        Preserved in_display out_display entries written copied.auth_data) ↔
      ∃ scanned rest preceding chosen following,
        Rewritable growth in_display out_display entries scanned rest preceding chosen following := by
  have named := And.intro knownIn.named knownOut.named
  constructor
  · intro done
    obtain ⟨copied,written,done,text,preserved⟩ := done
    have nonempty : entries ≠ [] := by
      intro nothing
      subst nothing
      exact absurd done (copyAuthentication_empty holds)
    exact rewritable_of_preserved named holds nonempty done text preserved
  · intro done
    obtain ⟨scanned,rest,preceding,chosen,following,rewritable⟩ := done
    have nonempty : entries ≠ [] := by
      rw [rewritable.searched.whole]
      exact List.append_ne_nil_of_left_ne_nil (List.ne_nil_of_mem rewritable.last.mem) rest
    obtain ⟨edited,edits,preserved⟩ := @edit_of_rewritable littleEndian _ _ _ _ _ _ _ _ _ knownIn rewritable
    obtain ⟨copied,done,text,bytes⟩ :=
      (copyAuthentication_done named holds nonempty).mpr ⟨edited,edits,rfl⟩
    refine ⟨copied,_,done,text,?_⟩
    rwa [bytes]

/-- The growth of the vectors of the usual library: one, and then twice as much each time. -/
def doubling : Growth where
  next := fun capacity => capacity + max capacity 1
  more := by
    intro capacity
    omega

/-- An entry of a display of one digit on a host of one letter. -/
def localEntry (digit : UInt8) (byte : UInt8) : Entry where
  family := #v[1,0]
  address := [104]
  display := [digit]
  name := AUTH_NAME
  data := Vector.replicate AUTH_DATA_SZ byte
  address_short := by decide
  display_short := by
    rw [List.length_singleton]
    decide
  name_short := by decide

def numbered (digit : Char) (number : Nat) : DisplayInfo := { name := [':',digit],display := number }

/-- An authority file in the root directory. -/
def oneFile (entries : List Entry) : Environment where
  XAUTHORITY := some ['/','a']
  HOME := none
  files := fun path => if path = ['/','a'] then some (encoding entries) else none
  writable := fun _ => true

theorem oneFile_holds (entries : List Entry) : (oneFile entries).Holds ['/','a'] (encoding entries) :=
  ⟨rfl,by simp [oneFile],rfl,rfl⟩

theorem localEntry_cookie (digit byte : UInt8) : (localEntry digit byte).Cookie := by
  change AUTH_NAME.takeWhile (· ≠ 0) = AUTH_NAME
  decide

/-- An entry of PROXYDISPLAY in front of that of DISPLAY is replaced. -/
theorem copyAuthentication_preserves_two :
    ∃ copied written,
      copyAuthentication true doubling (numbered '9' 9) (numbered '0' 0)
        (oneFile [localEntry 57 7,localEntry 48 5]) = .ok copied ∧
      copied.files ['/','a'] = some written ∧
      Preserved (numbered '9' 9) (numbered '0' 0) [localEntry 57 7,localEntry 48 5] written
        copied.auth_data := by
  refine (copyAuthentication_preserves true doubling ⟨?_,?_,?_⟩ ⟨?_,?_,?_⟩ (oneFile_holds _)).mpr
    ⟨[localEntry 57 7,localEntry 48 5],[],[localEntry 57 7],localEntry 48 5,[],⟨rfl,.inl rfl,?_⟩,?_,
      ⟨rfl,rfl,?_⟩,rfl,.inl ⟨[],localEntry 57 7,[localEntry 48 5],⟨rfl,rfl,?_⟩,rfl,rfl,rfl⟩⟩
  · decide
  · decide
  · decide
  · decide
  · decide
  · decide
  · intro before last same both
    obtain ⟨start,_⟩ :=
      @List.append_inj' _ [localEntry 57 7] [localEntry 48 5] before [last] same rfl
    obtain ⟨entry,inside,like⟩ := both.2
    rw [← start,List.mem_singleton] at inside
    subst inside
    exact absurd like (by unfold Entry.ReadAs; decide)
  · intro entry inside _
    rcases List.mem_cons.mp inside with rfl | inside
    · exact localEntry_cookie 57 7
    · rw [List.mem_singleton.mp inside]
      exact localEntry_cookie 48 5
  · intro later inside
    exact absurd inside List.not_mem_nil
  · intro later inside
    rw [List.mem_singleton.mp inside]
    unfold Entry.ReadAs
    decide

/-- A file with nothing but the entry of DISPLAY: the vector is full, and the cookie is taken
from where the entries were before. -/
theorem copyAuthentication_moved :
    Displayed (numbered '9' 9) ∧ Displayed (numbered '0' 0) ∧
      (oneFile [localEntry 48 5]).Holds ['/','a'] (encoding [localEntry 48 5]) ∧
      Chosen (numbered '9' 9) (numbered '0' 0) [localEntry 48 5] (localEntry 48 5) ∧
      (localEntry 48 5).display = format 0 ∧
      copyAuthentication true doubling (numbered '9' 9) (numbered '0' 0) (oneFile [localEntry 48 5]) =
        .error (.fault (.undefined "out_display_auth->data")) ∧
      ¬∃ copied written,
        copyAuthentication true doubling (numbered '9' 9) (numbered '0' 0) (oneFile [localEntry 48 5]) =
          .ok copied ∧
        copied.files ['/','a'] = some written ∧
        Preserved (numbered '9' 9) (numbered '0' 0) [localEntry 48 5] written copied.auth_data := by
  have unlike : ¬(localEntry 48 5).ReadAs 9 := by
    unfold Entry.ReadAs
    decide
  have like : (localEntry 48 5).ReadAs 0 := by
    unfold Entry.ReadAs
    decide
  have last : Last (Entry.ReadAs 0) [localEntry 48 5] [] (localEntry 48 5) [] :=
    ⟨rfl,like,fun _ inside => absurd inside List.not_mem_nil⟩
  have found : findAuths (numbered '9' 9) (numbered '0' 0)
      ([localEntry 48 5].map (Entry.held true)) 0 none none = .ok (none,some 0) := by
    have skipped := @note_skip true 9 (.assertion "auth.name == _AUTH_NAME") _ none 0 unlike
    have noted := @note_found true 0 .exited _ none 0 like (localEntry_cookie 48 5)
    exact @findAuths_step true (numbered '9' 9) (numbered '0' 0) (localEntry 48 5) [] [] none none
      (none,some 0) skipped noted
  have edits := @editEntries_appended true doubling (numbered '9' 9) (numbered '0' 0) (localEntry 48 5)
    [localEntry 48 5] [localEntry 48 5] [] _ [] [] (@collect_items _ doubling _)
    (List.append_nil _).symm last found
  have full : (collect doubling ([localEntry 48 5].map (Entry.held true))).full = true := by
    rw [collect_full]
    exact ⟨1,rfl⟩
  rw [if_pos full] at edits
  have stopped : copyAuthentication true doubling (numbered '9' 9) (numbered '0' 0)
      (oneFile [localEntry 48 5]) = .error (.fault (.undefined "out_display_auth->data")) := by
    have prepared := @prepareCopy_done true doubling (numbered '9' 9) (numbered '0' 0) _ _ _
      ⟨List.cons_ne_nil _ _,List.cons_ne_nil _ _⟩ (oneFile_holds _) (List.cons_ne_nil (localEntry 48 5) [])
    rw [edits,error_bind] at prepared
    rw [copyAuthentication,prepared]
  refine ⟨⟨by decide,by decide,by decide⟩,⟨by decide,by decide,by decide⟩,oneFile_holds _,?_,rfl,stopped,?_⟩
  · refine ⟨[localEntry 48 5],[],[],[],⟨rfl,.inl rfl,?_⟩,last⟩
    intro before last same both
    obtain ⟨start,_⟩ := @List.append_inj' _ [] [localEntry 48 5] before [last] same rfl
    obtain ⟨entry,inside,_⟩ := both.1
    rw [← start] at inside
    exact absurd inside List.not_mem_nil
  · intro kept
    obtain ⟨copied,_,done,_⟩ := kept
    rw [stopped] at done
    cases done

end copies

end AuthorityFile
end Xtracepp
