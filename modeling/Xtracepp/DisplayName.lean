import Xtracepp.Library.Pattern
import Xtracepp.Words

/-! Parsing a display name: two patterns are tried in order, the first one together with a
look into the file system, and the fields that they fill are completed for a socket.
-/
namespace Xtracepp
open Library Library.Outcome Library.Pattern

abbrev Text := List Char

inductive AddressFamily
  | unset
  | AF_UNIX
  | AF_INET
  | AF_INET6
  deriving DecidableEq, Repr

/-- The union of the address types, with the bytes of those of the internet. -/
inductive SocketAddress
  | unset
  | unix (sun_path : Text)
  | inet (inaddr : List UInt8)
  | inet6 (in6addr : List UInt8)
  deriving DecidableEq, Repr

structure DisplayInfo where
  unix_pattern : Bool := false
  name : Text
  protocol : Text := []
  hostname : Text := []
  socket_path : Text := []
  display : Int := -1
  screen : Int := -1
  ai_family : AddressFamily := .unset
  ai_socktype : Int := -1
  ai_protocol : Int := -1
  ai_addrlen : Nat := 0
  ai_addr : SocketAddress := .unset
  deriving DecidableEq, Repr

namespace DisplayInfo

def UNSET : Int := -1

def UNIX : Text := ['u','n','i','x']

def TCP : Text := ['t','c','p']

def LOCAL : Text := ['l','o','c','a','l']

def INET : Text := ['i','n','e','t']

def INET6 : Text := ['i','n','e','t','6']

def UNIX_PATH_MAX : Nat := 108

def SOCK_STREAM : Int := 1

def SOCKET_DEFAULT_PROTOCOL : Int := 0

def UNIX_SOCKET_PATH_PREFIX : Text :=
  ['/','t','m','p','/','.','X','1','1','-','u','n','i','x','/','X']

/-- `[0-9]` -/
def digit (char : Char) : Bool := '0' ≤ char && char ≤ '9'

/-- `[a-zA-Z6]` -/
def protocolChar (char : Char) : Bool :=
  ('a' ≤ char && char ≤ 'z') || ('A' ≤ char && char ≤ 'Z') || char == '6'

/-- `\s` in the classic locale. -/
def space (char : Char) : Bool :=
  char == ' ' || char == '\t' || char == '\n' || char == '\x0b' || char == '\x0c' || char == '\r'

/-- `.` -/
def withinLine (char : Char) : Bool := char != '\n' && char != '\r'

/-- `(?:\.([0-9]+))?$` -/
def screenPattern (index : Nat) : Pattern Char :=
  .seq (.maybe (.seq (.text ['.']) (.group index (.plus digit)))) .finish

/-- `^(?:(unix):)?(.+?)(?:\.([0-9]+))?$` -/
def UNIX_REGEX : Pattern Char :=
  .seq (.maybe (.seq (.group 1 (.text UNIX)) (.text [':'])))
    (.seq (.group 2 (.plusLazy withinLine)) (screenPattern 3))

/-- `:([0-9]+)(?:\.([0-9]+))?$` -/
def displayPattern : Pattern Char :=
  .seq (.text [':']) (.seq (.group 3 (.plus digit)) (screenPattern 4))

/-- `(?:([a-zA-Z6]+)/)?([^\s]+?)` -/
def hostPattern : Pattern Char :=
  .seq (.maybe (.seq (.group 1 (.plus protocolChar)) (.text ['/'])))
    (.group 2 (.plusLazy fun char => !space char))

/-- `^(?:(?:([a-zA-Z6]+)/)?([^\s]+?))?(?=:([0-9]+)(?:\.([0-9]+))?$)` -/
def DEFAULT_REGEX : Pattern Char := .seq (.maybe hostPattern) (.ahead displayPattern)

/-- The value of decimal digits. -/
def decimal (text : Text) : Nat :=
  text.foldl (fun value char => 10 * value + (char.toNat - '0'.toNat)) 0

def INT_MAX : Nat := 2^31 - 1

/-- `std::stoi`, of digits. -/
def stoi (text : Text) : Checked Int :=
  if decimal text ≤ INT_MAX then return decimal text else .error (.outOfRange "stoi")

def S_IFSOCK : Nat := 0xC000

/-- The match of the first pattern, if `stat` finds a file at the path and the mode has a bit
of a socket. `stat` gives the mode, or none when it fails. -/
def socketMatch (stat : Text → Option Nat) (name : Text) : Option (Groups Char) :=
  match UNIX_REGEX.search name with
  | none => none
  | some groups =>
    match stat (groups 2) with
    | none => none
    | some st_mode => if st_mode &&& S_IFSOCK ≠ 0 then some groups else none

def parseScreen (screen_str : Text) : Checked Int :=
  if screen_str ≠ [] then stoi screen_str else return UNSET

/-- The tokens of the name, and the groups of the pattern that matched. -/
def parseTokens (stat : Text → Option Nat) (name : Text) : Checked (DisplayInfo × Groups Char) :=
  match socketMatch stat name with
  | some groups => do
    let screen ← parseScreen (groups 3)
    return ({ name, unix_pattern := true, protocol := UNIX, socket_path := groups 2, screen },groups)
  | none =>
    match DEFAULT_REGEX.search name with
    | some groups => do
      let written := (groups 1).map Char.toLower
      let hostname := groups 2
      let protocol := if written = [] then if hostname = [] then LOCAL else TCP else written
      assert "!match[ _DISPLAY_GROUP_I ].str().empty()" (groups 3 ≠ [])
      let display ← stoi (groups 3)
      let screen ← parseScreen (groups 4)
      return ({ name, protocol, hostname, display, screen },groups)
    | none => .error .exited

def familyOf (protocol : Text) : Option AddressFamily :=
  if protocol = INET6 ∨ protocol = TCP then some .AF_INET6
  else if protocol = INET then some .AF_INET
  else if protocol = UNIX ∨ protocol = LOCAL then some .AF_UNIX
  else none

/-- `socket_path`, from the text of the display number where the name does not give one. -/
def socketPath (info : DisplayInfo) (display : Text) : Checked Text :=
  if info.socket_path = [] then do
    assert "!_unix_pattern" (info.unix_pattern = false)
    let socket_path := UNIX_SOCKET_PATH_PREFIX ++ display
    assert "socket_path.size() < _UNIX_PATH_MAX" (socket_path.length < UNIX_PATH_MAX)
    return socket_path
  else return info.socket_path

/-- The part for `AF_UNIX`, up to its `return`. -/
def nameSocket (info : DisplayInfo) (display : Text) : Checked DisplayInfo := do
  let socket_path ← socketPath info display
  if socket_path.length + 1 ≤ UNIX_PATH_MAX then
    return { info with
      ai_socktype := SOCK_STREAM, ai_protocol := SOCKET_DEFAULT_PROTOCOL, ai_addrlen := 110,
      socket_path, ai_addr := .unix socket_path }
  else .error (.undefined "write past the end of sun_path")

/-- The constructor up to the use of `getaddrinfo`. -/
def parse (stat : Text → Option Nat) (display_name : Text) : Checked DisplayInfo := do
  let (info,groups) ← parseTokens stat display_name
  match familyOf info.protocol with
  | none => .error .exited
  | some ai_family => do
    assert "display != _UNSET" (info.display ≠ UNSET)
    let info := { info with ai_family, screen := if info.screen = UNSET then 0 else info.screen }
    if ai_family = .AF_UNIX then nameSocket info (groups 3) else return info

/-- Digits of a number. -/
def Decimal (text : Text) : Prop := text ≠ [] ∧ ∀ char ∈ text,digit char = true

/-- The screen number with the dot before it. -/
def suffix : Option Text → Text
  | none => []
  | some screen => '.' :: screen

def captureScreen (index : Nat) (groups : Groups Char) : Option Text → Groups Char
  | none => groups
  | some screen => capture groups index screen

section patterns

variable {groups result : Groups Char} {next : Continuation Char} {index : Nat} {rest display : Text}
  {screen : Option Text}

theorem finish_nil (next : Continuation Char) : Pattern.finish.run [] groups next = next [] groups := by
  rw [run,if_pos rfl]

theorem finish_cons (given : rest ≠ []) : Pattern.finish.run rest groups next = none := by
  rw [run,if_neg given]

theorem screen_matched (digits : ∀ text ∈ screen,Decimal text) :
    (screenPattern index).run (suffix screen) groups next =
      next [] (captureScreen index groups screen) := by
  cases screen with
  | none =>
    rw [screenPattern,run,run,run,run_text_none (by simp [suffix]),Option.none_or]
    exact finish_nil next
  | some text =>
    obtain ⟨given,every⟩ := digits text rfl
    have taken : (Pattern.group index (.plus digit)).run (text ++ []) groups
        (fun rest groups => Pattern.finish.run rest groups next) = next [] (capture groups index text) := by
      rw [run,run_plus given every]
      · rw [finish_nil,List.append_nil,List.length_nil,Nat.sub_zero,List.take_length]
      · intro other _ short
        exact finish_cons short
    rw [screenPattern,run,run,run,suffix,run_item,finish_cons (List.cons_ne_nil _ _),Option.or_none,
      captureScreen]
    rwa [List.append_nil] at taken

theorem screen_sound (found : (screenPattern index).run rest groups next = some result) :
    ∃ screen : Option Text,(∀ text ∈ screen,Decimal text) ∧ rest = suffix screen := by
  rw [screenPattern,run,run] at found
  rcases Option.or_eq_some_iff.mp found with dotted | ⟨_,plain⟩
  · rw [run,run] at dotted
    split at dotted
    · rename_i here
      obtain ⟨after,rfl⟩ := List.isPrefixOf_iff_prefix.mp here
      rw [List.drop_left,run,run] at dotted
      obtain ⟨last,member,ended⟩ := List.exists_of_findSome?_eq_some dotted
      obtain ⟨used,given,every,rfl⟩ := mem_starts.mp (List.mem_reverse.mp member)
      rw [run] at ended
      split at ended
      · rename_i empty
        refine ⟨some used,?_,by rw [empty,List.append_nil]; rfl⟩
        rintro text ⟨⟩
        exact ⟨given,every⟩
      · cases ended
    · cases dotted
  · rw [run] at plain
    split at plain
    · rename_i empty
      exact ⟨none,by simp,empty⟩
    · cases plain

/-- What follows the address: the display number with its colon, and the screen number. -/
def ending (display : Text) (screen : Option Text) : Text := ':' :: (display ++ suffix screen)

/-- The numbers of a name. -/
structure Numbers (display : Text) (screen : Option Text) : Prop where
  display : Decimal display
  screen : ∀ text ∈ screen,Decimal text

theorem digits_split {used : Text} {other : Option Text} (every : ∀ char ∈ display,digit char = true)
    (every' : ∀ char ∈ used,digit char = true)
    (same : display ++ suffix screen = used ++ suffix other) :
    display = used ∧ suffix screen = suffix other := by
  -- a colon ends the digits where no screen number does
  have ended (screen : Option Text) : ∃ char after,suffix screen ++ [':'] = char :: after ∧
      digit char = false := by
    cases screen with
    | none => exact ⟨':',[],rfl,by decide⟩
    | some text => exact ⟨'.',text ++ [':'],rfl,by decide⟩
  obtain ⟨char,after,shape,refused⟩ := ended screen
  obtain ⟨char',after',shape',refused'⟩ := ended other
  have longer := congrArg (· ++ [':']) same
  simp only [List.append_assoc,shape,shape'] at longer
  obtain ⟨front,_⟩ := split_first every every' refused refused' longer
  subst front
  exact ⟨rfl,List.append_cancel_left same⟩

theorem display_matched (numbers : Numbers display screen) :
    displayPattern.run (ending display screen) groups next =
      next [] (captureScreen 4 (capture groups 3 display) screen) := by
  obtain ⟨given,every⟩ := numbers.display
  rw [displayPattern,run,ending,run_item,run,run,run_plus given every]
  · rw [List.length_append,Nat.add_sub_cancel,List.take_left,screen_matched numbers.screen]
  · intro other member different
    obtain ⟨used,_,every',same⟩ := mem_starts.mp member
    cases found : (screenPattern 4).run other (capture groups 3
        ((display ++ suffix screen).take ((display ++ suffix screen).length - other.length))) next with
    | none => rfl
    | some result =>
      obtain ⟨last,_,rfl⟩ := screen_sound found
      exact absurd (digits_split every every' same).2.symm different

theorem display_sound (found : displayPattern.run rest groups next = some result) :
    ∃ display screen,Numbers display screen ∧ rest = ending display screen := by
  rw [displayPattern,run,run] at found
  split at found
  · rename_i here
    obtain ⟨after,rfl⟩ := List.isPrefixOf_iff_prefix.mp here
    rw [List.drop_left,run,run] at found
    obtain ⟨last,member,ended⟩ := List.exists_of_findSome?_eq_some found
    obtain ⟨used,given,every,rfl⟩ := mem_starts.mp (List.mem_reverse.mp member)
    obtain ⟨screen,digits,rfl⟩ := screen_sound ended
    exact ⟨used,screen,⟨⟨given,every⟩,digits⟩,rfl⟩
  · cases found

theorem Decimal.no_colon {text : Text} (decimal : Decimal text) : ':' ∉ text := fun inside =>
  absurd (decimal.2 ':' inside) (by decide)

theorem Numbers.no_colon (numbers : Numbers display screen) : ':' ∉ display ++ suffix screen := by
  intro inside
  rcases List.mem_append.mp inside with first | second
  · exact numbers.display.no_colon first
  · cases screen with
    | none => cases second
    | some text =>
      rcases List.mem_cons.mp second with dot | later
      · exact absurd dot (by decide)
      · exact (numbers.screen text rfl).no_colon later

theorem ending_unique {before before' display' : Text} {screen' : Option Text}
    (numbers : Numbers display screen) (numbers' : Numbers display' screen')
    (same : before ++ ending display screen = before' ++ ending display' screen') :
    before = before' ∧ ending display screen = ending display' screen' := by
  obtain ⟨front,back⟩ := split_last numbers.no_colon numbers'.no_colon same
  exact ⟨front,congrArg (':' :: ·) back⟩

theorem ahead_matched (numbers : Numbers display screen) :
    (Pattern.ahead displayPattern).run (ending display screen) groups next =
      next (ending display screen) (captureScreen 4 (capture groups 3 display) screen) := by
  rw [run,display_matched numbers,Option.bind_some]

/-- Nowhere else in the name does the look ahead succeed. -/
theorem ahead_none {before used : Text} (numbers : Numbers display screen)
    (same : before ++ ending display screen = used ++ rest) (other : rest ≠ ending display screen) :
    (Pattern.ahead displayPattern).run rest groups next = none := by
  rw [run,Option.bind_eq_none_iff]
  intro result found
  obtain ⟨display',screen',numbers',rfl⟩ := display_sound found
  exact absurd (ending_unique numbers numbers' same).2.symm other

/-- The address of a name without a space, and with at least one character. -/
def Host (host : Text) : Prop := host ≠ [] ∧ ∀ char ∈ host,space char = false

/-- The look ahead behind the address. -/
abbrev behind (next : Continuation Char) : Continuation Char := fun rest groups =>
  (Pattern.ahead displayPattern).run rest groups next

section address

variable {before host : Text}

theorem host_matched (numbers : Numbers display screen) (given : Host host) :
    (Pattern.group 2 (.plusLazy fun char => !space char)).run (host ++ ending display screen) groups
        (behind next) =
      next (ending display screen)
        (captureScreen 4 (capture (capture groups 2 host) 3 display) screen) := by
  obtain ⟨nonempty,every⟩ := given
  rw [run,run_plusLazy nonempty fun char inside => by rw [every char inside]; rfl]
  · rw [List.length_append,Nat.add_sub_cancel,List.take_left]
    exact ahead_matched numbers
  · intro other member different
    obtain ⟨used,_,_,same⟩ := mem_starts.mp member
    exact ahead_none numbers same different

theorem host_refused (numbers : Numbers display screen) (refused : ¬Host host) :
    (Pattern.group 2 (.plusLazy fun char => !space char)).run (host ++ ending display screen) groups
      (behind next) = none := by
  rw [run,run,List.findSome?_eq_none_iff]
  intro other member
  obtain ⟨taken,nonempty,every,same⟩ := mem_starts.mp member
  refine ahead_none numbers same fun here => refused ?_
  subst here
  obtain rfl := List.append_cancel_right same
  refine ⟨nonempty,fun char inside => ?_⟩
  simpa using every char inside

theorem protocol_matched {protocol : Text} (nonempty : protocol ≠ [])
    (every : ∀ char ∈ protocol,protocolChar char = true) (host : Text) (k : Continuation Char) :
    (Pattern.seq (.group 1 (.plus protocolChar)) (.text ['/'])).run
        (protocol ++ '/' :: (host ++ ending display screen)) groups k =
      k (host ++ ending display screen) (capture groups 1 protocol) := by
  rw [run,run,run_plus nonempty every]
  · rw [List.length_append,Nat.add_sub_cancel,List.take_left,run_item]
  · intro other member different
    obtain ⟨used,_,every',same⟩ := mem_starts.mp member
    refine run_text_none fun slash => different ?_
    obtain ⟨after,rfl⟩ := slash
    exact (split_first every every' (by decide) (by decide) same).2.symm

theorem protocol_refused
    (absent : ¬∃ protocol host,protocol ≠ [] ∧ (∀ char ∈ protocol,protocolChar char = true) ∧
      before = protocol ++ '/' :: host) (k : Continuation Char) :
    (Pattern.seq (.group 1 (.plus protocolChar)) (.text ['/'])).run (before ++ ending display screen)
      groups k = none := by
  rw [run,run,run,List.findSome?_eq_none_iff]
  intro other member
  obtain ⟨used,nonempty,every,same⟩ := mem_starts.mp (List.mem_reverse.mp member)
  refine run_text_none fun slash => absent ?_
  obtain ⟨after,rfl⟩ := slash
  rw [List.singleton_append] at same
  rcases List.append_eq_append_iff.mp same with ⟨more,rfl,rest⟩ | ⟨more,rfl,rest⟩
  · -- the colon of the display number would be a letter of the token, or its slash
    cases more with
    | nil => cases rest
    | cons first more =>
      obtain rfl : ':' = first := (List.cons.inj rest).1
      exact absurd (every ':' (by simp)) (by decide)
  · cases more with
    | nil => cases rest
    | cons first more =>
      obtain rfl : '/' = first := (List.cons.inj rest).1
      exact ⟨used,more,nonempty,every,rfl⟩

/-- Nothing is captured at first. -/
def nothing : Groups Char := fun _ => []

theorem default_run (name : Text) : DEFAULT_REGEX.search name =
    (((Pattern.seq (.group 1 (.plus protocolChar)) (.text ['/'])).run name nothing
        fun rest groups => (Pattern.group 2 (.plusLazy fun char => !space char)).run rest groups
          (behind fun _ groups => some groups)).or
      ((Pattern.group 2 (.plusLazy fun char => !space char)).run name nothing
        (behind fun _ groups => some groups))).or
      (behind (fun _ groups => some groups) name nothing) := rfl

theorem search_ending (numbers : Numbers display screen) :
    DEFAULT_REGEX.search (ending display screen) =
      some (captureScreen 4 (capture nothing 3 display) screen) := by
  have absent : ¬∃ protocol host,protocol ≠ [] ∧ (∀ char ∈ protocol,protocolChar char = true) ∧
      [] = protocol ++ '/' :: host := by
    rintro ⟨protocol,host,_,_,same⟩
    simp at same
  have first := @protocol_refused nothing display screen [] absent
  have second := @host_refused nothing (fun _ groups => some groups) display screen [] numbers
    fun given => given.1 rfl
  rw [List.nil_append] at first second
  rw [default_run,first,second,Option.none_or,Option.none_or,behind,ahead_matched numbers]

theorem search_protocol (numbers : Numbers display screen) {protocol : Text} (nonempty : protocol ≠ [])
    (every : ∀ char ∈ protocol,protocolChar char = true) (given : Host host) :
    DEFAULT_REGEX.search (protocol ++ '/' :: (host ++ ending display screen)) =
      some (captureScreen 4 (capture (capture (capture nothing 1 protocol) 2 host) 3 display) screen) := by
  rw [default_run,protocol_matched nonempty every,host_matched numbers given,Option.some_or,Option.some_or]

theorem search_host (numbers : Numbers display screen) (given : Host host)
    (plain : ∀ protocol rest,protocol ≠ [] → (∀ char ∈ protocol,protocolChar char = true) →
      host = protocol ++ '/' :: rest → rest = []) :
    DEFAULT_REGEX.search (host ++ ending display screen) =
      some (captureScreen 4 (capture (capture nothing 2 host) 3 display) screen) := by
  have first : ((Pattern.seq (.group 1 (.plus protocolChar)) (.text ['/'])).run
      (host ++ ending display screen) nothing fun rest groups =>
        (Pattern.group 2 (.plusLazy fun char => !space char)).run rest groups
          (behind fun _ groups => some groups)) = none := by
    by_cases token : ∃ protocol rest,protocol ≠ [] ∧ (∀ char ∈ protocol,protocolChar char = true) ∧
        host = protocol ++ '/' :: rest
    · obtain ⟨protocol,rest,nonempty,every,shape⟩ := token
      obtain rfl := plain protocol rest nonempty every shape
      rw [shape,List.append_assoc,List.cons_append,protocol_matched nonempty every]
      exact host_refused numbers fun given => given.1 rfl
    · exact protocol_refused token _
  rw [default_run,first,host_matched numbers given,Option.none_or,Option.some_or]

theorem search_refused (numbers : Numbers display screen) {char : Char} (inside : char ∈ before)
    (blank : space char = true) : DEFAULT_REGEX.search (before ++ ending display screen) = none := by
  have spaced {host : Text} (here : char ∈ host) : ¬Host host := fun given => by
    have clean := given.2 char here
    rw [blank] at clean
    cases clean
  have first : ((Pattern.seq (.group 1 (.plus protocolChar)) (.text ['/'])).run
      (before ++ ending display screen) nothing fun rest groups =>
        (Pattern.group 2 (.plusLazy fun char => !space char)).run rest groups
          (behind fun _ groups => some groups)) = none := by
    by_cases token : ∃ protocol rest,protocol ≠ [] ∧ (∀ char ∈ protocol,protocolChar char = true) ∧
        before = protocol ++ '/' :: rest
    · obtain ⟨protocol,rest,nonempty,every,rfl⟩ := token
      rw [List.append_assoc,List.cons_append,protocol_matched nonempty every]
      refine host_refused numbers (spaced ?_)
      rcases List.mem_append.mp inside with letter | later
      · -- a letter is no space
        have known := every char letter
        simp only [space,Bool.or_eq_true,beq_iff_eq] at blank
        rcases blank with ((((rfl | rfl) | rfl) | rfl) | rfl) | rfl <;> exact absurd known (by decide)
      · rcases List.mem_cons.mp later with rfl | rest
        · exact absurd blank (by decide)
        · exact rest
    · exact protocol_refused token _
  have nonempty : before ≠ [] := List.ne_nil_of_mem inside
  rw [default_run,first,host_refused numbers (spaced inside),Option.none_or,Option.none_or,behind]
  refine @ahead_none nothing _ (before ++ ending display screen) display screen before [] numbers rfl ?_
  intro same
  exact nonempty (List.append_left_eq_self.mp same)

theorem search_sound {name : Text} (found : DEFAULT_REGEX.search name = some result) :
    ∃ before display screen,Numbers display screen ∧ name = before ++ ending display screen := by
  obtain ⟨rest,groups,⟨before,rfl⟩,given⟩ := run_some (.maybe hostPattern) found
  obtain ⟨others,looked,_⟩ := Option.bind_eq_some_iff.mp given
  obtain ⟨display,screen,numbers,rfl⟩ := display_sound looked
  exact ⟨before,display,screen,numbers,rfl⟩

end address

/-- A name without its screen number, and without the prefix that stands for a socket. -/
def unprefixed (text : Text) : Text :=
  if (UNIX ++ [':']).isPrefixOf text then text.drop (UNIX ++ [':']).length else text

theorem numbered_suffix {before after : Text} (inside : after <:+ before ++ ':' :: display)
    (absent : ':' ∉ after) : after <:+ display := by
  obtain ⟨front,same⟩ := inside
  rcases List.append_eq_append_iff.mp same with ⟨more,_,rfl⟩ | ⟨more,_,short⟩
  · exact absurd (List.mem_append_right _ List.mem_cons_self) absent
  · rcases List.suffix_cons_iff.mp ⟨more,short.symm⟩ with rfl | shorter
    · exact absurd List.mem_cons_self absent
    · exact shorter

theorem path_matched (numbers : Numbers display screen) {before body : Text} (nonempty : body ≠ [])
    (inside : body <:+ before ++ ':' :: display) (line : ∀ char ∈ body,withinLine char = true) :
    ((Pattern.group 2 (.plusLazy withinLine)).run (body ++ suffix screen) groups
        fun rest groups => (screenPattern 3).run rest groups fun _ groups => some groups) =
      some (captureScreen 3 (capture groups 2 body) screen) := by
  rw [run,run]
  refine findSome?_starts ?_ body nonempty line ?_
  · rw [List.length_append,Nat.add_sub_cancel,List.take_left,screen_matched numbers.screen]
  · intro after given short
    refine Option.eq_none_iff_forall_ne_some.mpr fun result found => ?_
    obtain ⟨other,digits,same⟩ := screen_sound found
    cases other with
    | none => exact given (List.append_eq_nil_iff.mp same).1
    | some text =>
      cases after with
      | nil => exact given rfl
      | cons first after =>
        obtain ⟨rfl,rfl⟩ := List.cons.inj same
        have absent : ':' ∉ '.' :: after := by
          intro colon
          rcases List.mem_cons.mp colon with dot | later
          · exact absurd dot (by decide)
          · exact (digits _ rfl).no_colon (List.mem_append_left _ later)
        -- a screen number before this one would begin within the display number
        have within := numbered_suffix (short.trans inside) absent
        have dot := numbers.display.2 '.' (within.subset List.mem_cons_self)
        exact absurd dot (by decide)

theorem unix_run (name : Text) : UNIX_REGEX.search name =
    ((Pattern.seq (.group 1 (.text UNIX)) (.text [':'])).run name nothing
      fun rest groups => (Pattern.group 2 (.plusLazy withinLine)).run rest groups
        fun rest groups => (screenPattern 3).run rest groups fun _ groups => some groups).or
      ((Pattern.group 2 (.plusLazy withinLine)).run name nothing
        fun rest groups => (screenPattern 3).run rest groups fun _ groups => some groups) := rfl

theorem captureScreen_other {index other : Nat} (different : other ≠ index) :
    captureScreen index groups screen other = groups other := by
  cases screen with
  | none => rfl
  | some text => exact if_neg different

theorem unix_stripped {body : Text} (k : Continuation Char) :
    (Pattern.seq (.group 1 (.text UNIX)) (.text [':'])).run (UNIX ++ ':' :: body) groups k =
      k body (capture groups 1 UNIX) := by
  rw [run,run,run_text,List.length_append,Nat.add_sub_cancel,List.take_left,run_item]

theorem unix_other {name : Text} (other : ¬(UNIX ++ [':']) <+: name) (k : Continuation Char) :
    (Pattern.seq (.group 1 (.text UNIX)) (.text [':'])).run name groups k = none := by
  rw [run,run]
  by_cases word : UNIX <+: name
  · obtain ⟨rest,rfl⟩ := word
    rw [run_text,run_text_none]
    rintro ⟨after,rfl⟩
    exact other ⟨after,by rw [List.append_assoc]⟩
  · exact run_text_none word

theorem unix_matched (numbers : Numbers display screen) {before : Text}
    (line : ∀ char ∈ before,withinLine char = true) :
    ∃ groups,UNIX_REGEX.search (before ++ ending display screen) = some groups ∧
      groups 2 = unprefixed (before ++ ':' :: display) := by
  have shape : before ++ ending display screen = (before ++ ':' :: display) ++ suffix screen := by
    rw [ending,List.append_assoc,List.cons_append]
  have every : ∀ char ∈ before ++ ':' :: display,withinLine char = true := by
    intro char inside
    rcases List.mem_append.mp inside with first | later
    · exact line char first
    · rcases List.mem_cons.mp later with rfl | number
      · decide
      · have known := numbers.display.2 char number
        rw [withinLine,Bool.and_eq_true,bne_iff_ne,bne_iff_ne]
        constructor <;> rintro rfl <;> exact absurd known (by decide)
  -- the colon of the prefix is not the last one
  have further (after : Text) (same : UNIX ++ [':'] = before ++ ':' :: (display ++ after)) :
      ':' ∈ after := by
    by_contra absent
    have clean : ':' ∉ display ++ after := by
      rw [List.mem_append]
      exact not_or.mpr ⟨numbers.display.no_colon,absent⟩
    obtain ⟨_,empty⟩ := split_last List.not_mem_nil clean same
    exact numbers.display.1 (List.append_eq_nil_iff.mp empty.symm).1
  rw [shape,unix_run,unprefixed]
  by_cases prefixed : (UNIX ++ [':']) <+: before ++ ':' :: display
  · rw [if_pos (List.isPrefixOf_iff_prefix.mpr prefixed)]
    obtain ⟨body,whole⟩ := prefixed
    have inside : body <:+ before ++ ':' :: display := ⟨_,whole⟩
    have nonempty : body ≠ [] := by
      rintro rfl
      rw [List.append_nil] at whole
      exact absurd (further [] (by rw [List.append_nil]; exact whole)) List.not_mem_nil
    have rest := @path_matched (capture nothing 1 UNIX) display screen numbers before body nonempty inside
      fun char here => every char (inside.subset here)
    rw [← whole,List.drop_left,List.append_assoc,List.append_assoc,List.singleton_append,unix_stripped,rest]
    exact ⟨_,rfl,captureScreen_other (by decide)⟩
  · rw [if_neg (by rwa [List.isPrefixOf_iff_prefix])]
    have other : ¬(UNIX ++ [':']) <+: before ++ ':' :: display ++ suffix screen := by
      rintro ⟨rest,same⟩
      rcases List.append_eq_append_iff.mp same with ⟨more,short,_⟩ | ⟨more,long,within⟩
      · exact prefixed ⟨more,short.symm⟩
      · rw [List.append_assoc,List.cons_append] at long
        have colon := List.mem_append_left rest (further more long)
        rw [← within] at colon
        exact numbers.no_colon (List.mem_append_right _ colon)
    have nonempty : before ++ ':' :: display ≠ [] := by simp
    have whole := @path_matched nothing display screen numbers before _ nonempty List.suffix_rfl every
    rw [unix_other other,Option.none_or,whole]
    exact ⟨_,rfl,captureScreen_other (by decide)⟩

end patterns

/-- The address in a name: `[[protocol/]host]`. -/
inductive Address
  | absent
  | host (protocol : Option Text) (node : Text)

namespace Address

def text : Address → Text
  | .absent => []
  | .host none node => node
  | .host (some protocol) node => protocol ++ '/' :: node

/-- The protocol that is meant. -/
def protocol : Address → Text
  | .absent => LOCAL
  | .host none _ => TCP
  | .host (some protocol) _ => protocol.map Char.toLower

def hostname : Address → Text
  | .absent => []
  | .host _ node => node

def family (address : Address) : AddressFamily :=
  if address.protocol = UNIX ∨ address.protocol = LOCAL then .AF_UNIX
  else if address.protocol = INET then .AF_INET else .AF_INET6

def Documented : Address → Prop
  | .absent => True
  | .host protocol node =>
    node ≠ [] ∧ ∀ token ∈ protocol,token.map Char.toLower ∈ [TCP,INET,INET6,UNIX,LOCAL]

/-- A host without a protocol that does not look as if it had one. -/
def Unambiguous : Address → Prop
  | .host none node => ∀ token rest,token ≠ [] → (∀ char ∈ token,protocolChar char = true) →
      node = token ++ '/' :: rest → rest = []
  | _ => True

end Address

/-- The two documented forms of a display name. -/
inductive Written
  | socket (prefixed : Bool) (path : Text) (screen : Option Text)
  | server (address : Address) (display : Text) (screen : Option Text)

def screenValue : Option Text → Int
  | none => 0
  | some screen => decimal screen

/-- Digits of a number that fits an `int`. -/
def Number (text : Text) : Prop := Decimal text ∧ decimal text ≤ INT_MAX

def S_IFMT : Nat := 0xF000

namespace Written

def text : Written → Text
  | socket prefixed path screen => (if prefixed then UNIX ++ [':'] else []) ++ path ++ suffix screen
  | server address display screen => address.text ++ ending display screen

def Documented (stat : Text → Option Nat) : Written → Prop
  | socket _ path screen =>
    path ≠ [] ∧ (∃ st_mode,stat path = some st_mode ∧ st_mode &&& S_IFMT = S_IFSOCK) ∧
      ∀ digits ∈ screen,Number digits
  | server address display screen =>
    address.Documented ∧ Number display ∧ ∀ digits ∈ screen,Number digits

/-- The fields are those of the name. -/
def Split (info : DisplayInfo) : Written → Prop
  | socket _ path screen =>
    info.screen = screenValue screen ∧ info.protocol = UNIX ∧ info.hostname = [] ∧
      info.ai_family = .AF_UNIX ∧ info.socket_path = path
  | server address display screen =>
    info.screen = screenValue screen ∧ info.display = decimal display ∧
      info.protocol = address.protocol ∧ info.hostname = address.hostname ∧
        info.ai_family = address.family ∧
          (address.family = .AF_UNIX → info.socket_path = UNIX_SOCKET_PATH_PREFIX ++ display)

/-- What the code asks of a name: it is of the second form, its host has no space and does not
begin as with a protocol, the path of the socket fits, and no file of a type that shares a bit
with a socket is found in the place of a path. -/
def Plain (stat : Text → Option Nat) : Written → Prop
  | socket _ _ _ => False
  | server address display _ =>
    (∀ char ∈ address.text,space char = false) ∧ address.Unambiguous ∧
      (address.family = .AF_UNIX →
        UNIX_SOCKET_PATH_PREFIX.length + display.length < UNIX_PATH_MAX) ∧
        ∀ st_mode,stat (unprefixed (address.text ++ ':' :: display)) = some st_mode →
          st_mode &&& S_IFSOCK = 0

end Written

section parsing

variable {stat : Text → Option Nat} {name display : Text} {screen : Option Text}
  {groups : Groups Char}

theorem stoi_fits {text : Text} (fits : decimal text ≤ INT_MAX) : stoi text = .ok (decimal text) := by
  rw [stoi,if_pos fits,pure_ok]

/-- The screen as it is parsed. -/
def screenNumber : Option Text → Int
  | none => UNSET
  | some digits => decimal digits

theorem parseScreen_fits (fits : ∀ digits ∈ screen,Number digits) :
    parseScreen (screen.getD []) = .ok (screenNumber screen) := by
  cases screen with
  | none => rfl
  | some digits =>
    obtain ⟨⟨given,_⟩,small⟩ := fits digits rfl
    rw [Option.getD_some,parseScreen,if_pos given,stoi_fits small,screenNumber]

theorem screenNumber_set (screen : Option Text) :
    (if screenNumber screen = UNSET then 0 else screenNumber screen) = screenValue screen := by
  cases screen with
  | none => rfl
  | some digits =>
    have known : (decimal digits : Int) ≠ UNSET := by
      unfold UNSET
      omega
    exact if_neg known

/-- A name taken for a socket leaves the number of the display unset. -/
theorem parse_socket (matched : socketMatch stat name = some groups) :
    ∃ fault,parse stat name = .error fault := by
  rw [parse,parseTokens,matched]
  dsimp only
  cases parsed : parseScreen (groups 3) with
  | error fault => exact ⟨fault,rfl⟩
  | ok screen => exact ⟨.assertion "display != _UNSET",rfl⟩

/-- What the second pattern yields. -/
def described (name protocol hostname display : Text) (screen : Option Text) (family : AddressFamily) :
    DisplayInfo :=
  { name, protocol, hostname, display := decimal display, screen := screenValue screen
    ai_family := family }

def tokenOf (groups : Groups Char) : Text :=
  if (groups 1).map Char.toLower = [] then if groups 2 = [] then LOCAL else TCP
  else (groups 1).map Char.toLower

theorem parse_server (other : socketMatch stat name = none)
    (matched : DEFAULT_REGEX.search name = some groups) (number : Number display)
    (numbers : ∀ digits ∈ screen,Number digits) (third : groups 3 = display)
    (fourth : groups 4 = screen.getD []) :
    parse stat name =
      match familyOf (tokenOf groups) with
      | none => .error .exited
      | some family =>
        if family = .AF_UNIX
        then nameSocket (described name (tokenOf groups) (groups 2) display screen family) display
        else .ok (described name (tokenOf groups) (groups 2) display screen family) := by
  obtain ⟨⟨given,_⟩,small⟩ := number
  have nonempty : groups 3 ≠ [] := by
    rw [third]
    exact given
  have counted : stoi (groups 3) = .ok (decimal display) := by
    rw [third,stoi_fits small]
  have screened := parseScreen_fits numbers
  rw [← fourth] at screened
  rw [parse,parseTokens,other]
  dsimp only
  rw [matched]
  dsimp only
  rw [assert,demand_true nonempty,ok_bind,counted,ok_bind,screened,ok_bind,pure_ok,ok_bind]
  dsimp only
  change (match familyOf (tokenOf groups) with | none => _ | some ai_family => _) = _
  cases familyOf (tokenOf groups) with
  | none => rfl
  | some family =>
    have set : (decimal display : Int) ≠ UNSET := by
      unfold UNSET
      omega
    dsimp only
    rw [assert,demand_true set,ok_bind,screenNumber_set,third]
    rfl

theorem protocolChar_lower {char : Char} (lower : protocolChar char.toLower = true) :
    protocolChar char = true := by
  by_cases upper : 'A' ≤ char ∧ char ≤ 'Z'
  · rw [protocolChar,Bool.or_eq_true,Bool.or_eq_true]
    exact .inl (.inr (by simp [upper]))
  · have same : char.toLower = char := by
      rw [Char.toLower,dif_neg]
      exact upper
    rwa [same] at lower

theorem token_letters {token : Text}
    (known : token.map Char.toLower ∈ [TCP,INET,INET6,UNIX,LOCAL]) :
    token ≠ [] ∧ ∀ char ∈ token,protocolChar char = true := by
  have words : ∀ word ∈ [TCP,INET,INET6,UNIX,LOCAL],
      word ≠ [] ∧ ∀ char ∈ word,protocolChar char = true := by
    simp only [List.forall_mem_cons,TCP,INET,INET6,UNIX,LOCAL]
    simp [protocolChar]
  obtain ⟨nonempty,every⟩ := words _ known
  refine ⟨fun empty => nonempty (by rw [empty,List.map_nil]),fun char inside => ?_⟩
  exact protocolChar_lower (every _ (List.mem_map_of_mem inside))

theorem familyOf_protocol {address : Address} (documented : address.Documented) :
    familyOf address.protocol = some address.family := by
  cases address with
  | absent => rfl
  | host protocol node =>
    cases protocol with
    | none => rfl
    | some token =>
      have known := documented.2 token rfl
      simp only [List.mem_cons,List.not_mem_nil,or_false] at known
      unfold Address.family familyOf
      rw [Address.protocol]
      rcases known with same | same | same | same | same <;> rw [same] <;> rfl

theorem captureScreen_here {index : Nat} (fresh : groups index = []) :
    captureScreen index groups screen index = screen.getD [] := by
  cases screen with
  | none => exact fresh
  | some digits => exact if_pos rfl

theorem server_matched {address : Address} (documented : address.Documented)
    (plain : ∀ char ∈ address.text,space char = false) (unambiguous : address.Unambiguous)
    (numbers : Numbers display screen) :
    ∃ groups,DEFAULT_REGEX.search (address.text ++ ending display screen) = some groups ∧
      groups 3 = display ∧ groups 4 = screen.getD [] ∧ tokenOf groups = address.protocol ∧
        groups 2 = address.hostname := by
  cases address with
  | absent =>
    exact ⟨_,search_ending numbers,captureScreen_other (by decide),captureScreen_here rfl,by
      rw [tokenOf,captureScreen_other (by decide),captureScreen_other (by decide)]; rfl,
      captureScreen_other (by decide)⟩
  | host protocol node =>
    cases protocol with
    | none =>
      have host : Host node := ⟨documented.1,plain⟩
      refine ⟨_,search_host numbers host unambiguous,captureScreen_other (by decide),
        captureScreen_here rfl,?_,captureScreen_other (by decide)⟩
      rw [tokenOf,captureScreen_other (by decide),captureScreen_other (by decide)]
      exact if_neg documented.1
    | some token =>
      obtain ⟨nonempty,every⟩ := token_letters (documented.2 token rfl)
      have host : Host node :=
        ⟨documented.1,fun char inside => plain char (by simp [Address.text,inside])⟩
      have matched := search_protocol numbers nonempty every host
      rw [← List.cons_append,← List.append_assoc] at matched
      refine ⟨_,matched,captureScreen_other (by decide),captureScreen_here rfl,?_,
        captureScreen_other (by decide)⟩
      rw [tokenOf,captureScreen_other (by decide),captureScreen_other (by decide)]
      exact if_neg fun empty => nonempty (List.map_eq_nil_iff.mp empty)

theorem socketPath_described (protocol hostname : Text) (family : AddressFamily) :
    socketPath (described name protocol hostname display screen family) display =
      if UNIX_SOCKET_PATH_PREFIX.length + display.length < UNIX_PATH_MAX
      then .ok (UNIX_SOCKET_PATH_PREFIX ++ display)
      else .error (.assertion "socket_path.size() < _UNIX_PATH_MAX") := by
  have fresh : (described name protocol hostname display screen family).socket_path = [] := rfl
  have unmarked : (described name protocol hostname display screen family).unix_pattern = false := rfl
  rw [socketPath,if_pos fresh,assert,demand_true unmarked,ok_bind]
  dsimp only
  rw [assert]
  by_cases short : (UNIX_SOCKET_PATH_PREFIX ++ display).length < UNIX_PATH_MAX
  · rw [demand_true short,ok_bind,if_pos (by rwa [← List.length_append]),pure_ok]
  · rw [demand_false short,error_bind,if_neg (by rwa [← List.length_append])]

theorem described_fits {protocol hostname : Text} {family : AddressFamily}
    (fits : UNIX_SOCKET_PATH_PREFIX.length + display.length < UNIX_PATH_MAX) :
    nameSocket (described name protocol hostname display screen family) display =
      .ok { described name protocol hostname display screen family with
        ai_socktype := SOCK_STREAM, ai_protocol := SOCKET_DEFAULT_PROTOCOL, ai_addrlen := 110
        socket_path := UNIX_SOCKET_PATH_PREFIX ++ display
        ai_addr := .unix (UNIX_SOCKET_PATH_PREFIX ++ display) } := by
  have short : (UNIX_SOCKET_PATH_PREFIX ++ display).length + 1 ≤ UNIX_PATH_MAX := by
    rw [List.length_append]
    exact fits
  rw [nameSocket,socketPath_described,if_pos fits,ok_bind,if_pos short,pure_ok]

theorem described_long {protocol hostname : Text} {family : AddressFamily}
    (long : ¬UNIX_SOCKET_PATH_PREFIX.length + display.length < UNIX_PATH_MAX) :
    ∃ fault,nameSocket (described name protocol hostname display screen family) display = .error fault := by
  rw [nameSocket,socketPath_described,if_neg long,error_bind]
  exact ⟨_,rfl⟩

theorem search_hostname (found : DEFAULT_REGEX.search name = some groups) (absent : groups 2 = []) :
    groups 1 = [] := by
  obtain ⟨before,display,screen,numbers,rfl⟩ := search_sound found
  by_cases spaced : ∃ char ∈ before,space char = true
  · obtain ⟨char,inside,blank⟩ := spaced
    rw [search_refused numbers inside blank] at found
    cases found
  · push Not at spaced
    have clean : ∀ char ∈ before,space char = false := fun char inside =>
      Bool.eq_false_iff.mpr (spaced char inside)
    by_cases empty : before = []
    · rw [empty,List.nil_append,search_ending numbers] at found
      obtain rfl := Option.some.inj found
      exact captureScreen_other (by decide)
    · by_cases token : ∃ protocol rest,protocol ≠ [] ∧ (∀ char ∈ protocol,protocolChar char = true) ∧
          before = protocol ++ '/' :: rest ∧ rest ≠ []
      · obtain ⟨protocol,rest,nonempty,every,rfl,given⟩ := token
        have host : Host rest := ⟨given,fun char inside => clean char (by simp [inside])⟩
        rw [List.append_assoc,List.cons_append,search_protocol numbers nonempty every host] at found
        obtain rfl := Option.some.inj found
        rw [captureScreen_other (by decide)] at absent
        exact absurd absent given
      · push Not at token
        rw [search_host numbers ⟨empty,clean⟩ token] at found
        obtain rfl := Option.some.inj found
        rw [captureScreen_other (by decide)] at absent
        exact absurd absent empty

theorem parse_kept {info : DisplayInfo} (other : socketMatch stat name = none)
    (found : DEFAULT_REGEX.search name = some groups) (done : parse stat name = .ok info) :
    info.protocol = tokenOf groups ∧ info.hostname = groups 2 := by
  rw [parse] at done
  obtain ⟨⟨tokens,captured⟩,parsed,rest⟩ := bind_success done
  have kept : info.protocol = tokens.protocol ∧ info.hostname = tokens.hostname := by
    dsimp only at rest
    cases known : familyOf tokens.protocol with
    | none =>
      rw [known] at rest
      cases rest
    | some family =>
      rw [known] at rest
      obtain ⟨_,completed⟩ := demand_bind_success rest
      split at completed
      · obtain ⟨path,_,written⟩ := bind_success completed
        split at written
        · cases written
          exact ⟨rfl,rfl⟩
        · cases written
      · cases completed
        exact ⟨rfl,rfl⟩
  rw [parseTokens,other] at parsed
  dsimp only at parsed
  rw [found] at parsed
  obtain ⟨given,counted⟩ := demand_bind_success parsed
  obtain ⟨number,_,counted⟩ := bind_success counted
  obtain ⟨screen,_,counted⟩ := bind_success counted
  cases counted
  exact kept

theorem parse_unmatched (other : socketMatch stat name = none)
    (missing : DEFAULT_REGEX.search name = none) : parse stat name = .error .exited := by
  rw [parse,parseTokens,other]
  dsimp only
  rw [missing]
  rfl

theorem parse_done {info : DisplayInfo} (done : parse stat name = .ok info) :
    socketMatch stat name = none ∧ ∃ groups,DEFAULT_REGEX.search name = some groups := by
  have other : socketMatch stat name = none := by
    refine Option.eq_none_iff_forall_ne_some.mpr fun groups matched => ?_
    obtain ⟨fault,failed⟩ := parse_socket matched
    rw [failed] at done
    cases done
  refine ⟨other,Option.ne_none_iff_exists'.mp fun missing => ?_⟩
  rw [parse_unmatched other missing] at done
  cases done

/-- A name of the first form never gets through: where its path is found, the number of the
display is missing, and elsewhere the second pattern leaves a host or another protocol. -/
theorem socket_refused {info : DisplayInfo} (done : parse stat name = .ok info)
    (protocol : info.protocol = UNIX) (hostname : info.hostname = []) : False := by
  obtain ⟨other,groups,found⟩ := parse_done done
  obtain ⟨token,node⟩ := parse_kept other found done
  have absent : groups 2 = [] := node.symm.trans hostname
  have same := token.symm.trans protocol
  rw [tokenOf,search_hostname found absent,List.map_nil,if_pos rfl,if_pos absent] at same
  exact absurd same (by decide)

theorem socketMatch_none {before : Text} (numbers : Numbers display screen)
    (plain : ∀ char ∈ before,space char = false) :
    socketMatch stat (before ++ ending display screen) = none ↔
      ∀ st_mode,stat (unprefixed (before ++ ':' :: display)) = some st_mode →
        st_mode &&& S_IFSOCK = 0 := by
  have line : ∀ char ∈ before,withinLine char = true := by
    intro char inside
    have clean := plain char inside
    rw [withinLine,Bool.and_eq_true,bne_iff_ne,bne_iff_ne]
    constructor <;> rintro rfl <;> exact absurd clean (by decide)
  obtain ⟨groups,matched,path⟩ := unix_matched numbers line
  rw [socketMatch,matched]
  dsimp only
  rw [path]
  cases stat (unprefixed (before ++ ':' :: display)) with
  | none => simp
  | some st_mode => simp

/-- The parsing phase splits a documented name exactly when it is plain. -/
theorem parse_splits (stat : Text → Option Nat) (written : Written)
    (documented : written.Documented stat) :
    (∃ info,parse stat written.text = .ok info ∧ written.Split info) ↔ written.Plain stat := by
  cases written with
  | socket prefixed path screen =>
    constructor
    · rintro ⟨info,done,_,protocol,hostname,_⟩
      exact socket_refused done protocol hostname
    · exact False.elim
  | server address display screen =>
    obtain ⟨known,number,numbers⟩ := documented
    have digits : Numbers display screen := ⟨number.1,fun text inside => (numbers text inside).1⟩
    constructor
    · rintro ⟨info,done,_,_,_,hostname,_⟩
      change parse stat (address.text ++ ending display screen) = .ok info at done
      obtain ⟨other,groups,found⟩ := parse_done done
      have clean : ∀ char ∈ address.text,space char = false := by
        intro char inside
        refine Bool.eq_false_iff.mpr fun blank => ?_
        rw [search_refused digits inside blank] at found
        cases found
      have unambiguous : address.Unambiguous := by
        cases address with
        | absent => trivial
        | host protocol node =>
          cases protocol with
          | some token => trivial
          | none =>
            intro token rest nonempty every shape
            by_contra given
            have host : Host rest := ⟨given,fun char inside => clean char (by
              change char ∈ node
              simp [shape,inside])⟩
            have captured := search_protocol digits nonempty every host
            rw [← List.cons_append,← List.append_assoc,← shape] at captured
            have node_eq := (parse_kept other captured done).2
            rw [captureScreen_other (by decide)] at node_eq
            have same : node = rest := hostname.symm.trans node_eq
            have longer := congrArg List.length shape
            rw [same,List.length_append,List.length_cons] at longer
            omega
      refine ⟨clean,unambiguous,fun family => ?_,(socketMatch_none digits clean).mp other⟩
      by_contra long
      obtain ⟨captured,matched,third,fourth,token,node⟩ := server_matched known clean unambiguous digits
      obtain ⟨fault,failed⟩ := @described_long (address.text ++ ending display screen) display screen
        (tokenOf captured) (captured 2) .AF_UNIX long
      rw [parse_server other matched number numbers third fourth,token,familyOf_protocol known,
        family] at done
      dsimp only at done
      rw [if_pos rfl,← token,failed] at done
      cases done
    · rintro ⟨clean,unambiguous,fits,unfound⟩
      have other := (socketMatch_none digits clean).mpr unfound
      obtain ⟨groups,matched,third,fourth,token,node⟩ := server_matched known clean unambiguous digits
      have parsed := parse_server other matched number numbers third fourth
      rw [token,familyOf_protocol known,node] at parsed
      dsimp only at parsed
      by_cases family : address.family = .AF_UNIX
      · rw [if_pos family,described_fits (fits family)] at parsed
        exact ⟨_,parsed,rfl,rfl,rfl,rfl,rfl,fun _ => rfl⟩
      · rw [if_neg family] at parsed
        exact ⟨_,parsed,rfl,rfl,rfl,rfl,rfl,fun same => absurd same family⟩

end parsing

/-- A display of the local host. -/
theorem parse_splits_tcp :
    (Written.server (.host (some ['T','C','P']) ['h','o','s','t']) ['1'] (some ['0'])).Documented
        (fun _ => none) ∧
      ∃ info,parse (fun _ => none)
          (Written.server (.host (some ['T','C','P']) ['h','o','s','t']) ['1'] (some ['0'])).text =
            .ok info ∧
        (Written.server (.host (some ['T','C','P']) ['h','o','s','t']) ['1'] (some ['0'])).Split info := by
  have number {char : Char} (known : digit char = true) (small : decimal [char] ≤ INT_MAX) :
      Number [char] := ⟨⟨List.cons_ne_nil _ _,fun other inside => by
        rwa [List.mem_singleton.mp inside]⟩,small⟩
  have documented : (Written.server (.host (some ['T','C','P']) ['h','o','s','t']) ['1']
      (some ['0'])).Documented fun _ => none := by
    refine ⟨⟨List.cons_ne_nil _ _,?_⟩,number (by decide) (by decide),?_⟩
    · rintro token ⟨⟩
      decide
    · rintro digits ⟨⟩
      exact number (by decide) (by decide)
  refine ⟨documented,(parse_splits _ _ documented).mpr
    ⟨by simp [Address.text,space],trivial,?_,?_⟩⟩
  · intro family
    exact absurd family (by decide)
  · rintro st_mode ⟨⟩

/-- A socket that is there, under its path. -/
theorem parse_socket_refused :
    ¬∀ (stat : Text → Option Nat) (written : Written),written.Documented stat →
      ∃ info,parse stat written.text = .ok info ∧ written.Split info := by
  intro splits
  obtain ⟨info,done,_,protocol,hostname,_⟩ := splits (fun _ => some S_IFSOCK)
    (.socket false ['/','s'] none) ⟨List.cons_ne_nil _ _,⟨_,rfl,by decide⟩,by rintro digits ⟨⟩⟩
  exact socket_refused done protocol hostname

end DisplayInfo
end Xtracepp
