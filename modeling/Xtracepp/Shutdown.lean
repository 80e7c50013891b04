import Xtracepp.Library.Runs

/-! The setting up and the clean-up of a run, with the files it touches. The constructor,
`run()` and the destructor make one list of actions; any of them may end the process
where the source exits or throws, and a terminating signal may come between any two.
-/
namespace Xtracepp
open Library Library.Runs

namespace Shutdown

abbrev Path := List Char

inductive File
  | regular (contents : List UInt8)
  | socket
  deriving DecidableEq, Repr

inductive Signal
  | SIGINT
  | SIGTERM
  | SIGABRT
  | SIGSEGV
  deriving DecidableEq, Repr

/-- `SIG_DFL`, the `handleTerminatingSignal` that cleans up, and the one of the same name
that only shows the cursor again. -/
inductive Disposition
  | SIG_DFL
  | handleTerminatingSignal
  | showCursor
  deriving DecidableEq, Repr

/-- `DisplayInfo::Direction`. -/
inductive Side
  | IN
  | OUT
  deriving DecidableEq, Repr

/-- `_UNIX_SOCKET_PATH_PREFIX`. -/
def unixSocketPathPrefix : Path := "/tmp/.X11-unix/X".toList

/-- What `DisplayInfo` makes of a display name: whether `ai_family` is `AF_UNIX`, and the
characters of the display number, which `_DEFAULT_REGEX` takes from `[0-9]+`. -/
structure DisplayInfo where
  unix : Bool
  number : List Char
  digits : ∀ char ∈ number,char.isDigit = true

/-- `unaddr.sun_path`. -/
def DisplayInfo.sunPath (info : DisplayInfo) : Path := unixSocketPathPrefix ++ info.number

/-- The options and environment of a run, and the files there are before it. -/
structure Config where
  outOption : Option (List Char)
  inOption : Option (List Char)
  DISPLAY : Option (List Char)
  PROXYDISPLAY : Option (List Char)
  /-- The constructor of `DisplayInfo`, with the regular expressions and `getaddrinfo`. -/
  displayInfo : Side → List Char → DisplayInfo
  copyauth : Bool
  systemtimeformat : Bool
  prefetchatoms : Bool
  subcmd_argc : Nat
  xauthPath : Path
  /-- The entries that `_copyAuthentication` writes back. -/
  entries : List UInt8
  files : Path → Option File

namespace Config

variable (config : Config)

/-- The display names that `_parseDisplayNames` chooses; there may be none for OUT. -/
def displayname : Side → Option (List Char)
  | .OUT => config.outOption.or config.DISPLAY
  | .IN => some ((config.inOption.or config.PROXYDISPLAY).getD ":9".toList)

def display (side : Side) : DisplayInfo :=
  config.displayInfo side ((config.displayname side).getD [])

def sunPath (side : Side) : Path := (config.display side).sunPath

def unix (side : Side) : Bool := (config.display side).unix

def xauthBupPath : Path := config.xauthPath ++ ".bup".toList

end Config

inductive Action
  | parseDisplayName (side : Side)
  | storeSunPath (side : Side)
  | sigaction (sig : Signal) (disposition : Disposition)
  | storeXauthPath
  | storeXauthBupPath
  | readAuth
  | copyBackup
  | openAuth
  | writeAuth
  | fetchCurrentServerTime
  | connectToServer
  | authenticateServerConnection
  | fetchAtoms
  | socket
  | setsockopt
  | removeStale
  | bind
  | listen
  | sigactionSIGCHLD
  | fork
  | processClientQueue
  | closeListener
  | remove (side : Side)
  | restoreAuth
  deriving DecidableEq, Repr

/-- The list, if the condition holds. -/
def given (condition : Bool) (list : List Action) : List Action := if condition then list else []

def parseDisplayNames (outUnix inUnix : Bool) : List Action :=
  .parseDisplayName .OUT :: given outUnix [.storeSunPath .OUT] ++
  .parseDisplayName .IN :: given inUnix [.storeSunPath .IN] ++
  given (outUnix || inUnix)
    [.sigaction .SIGINT .handleTerminatingSignal,.sigaction .SIGTERM .handleTerminatingSignal,
      .sigaction .SIGABRT .handleTerminatingSignal,.sigaction .SIGSEGV .handleTerminatingSignal]

def copyAuthentication : List Action :=
  [.storeXauthPath,.storeXauthBupPath,.readAuth,.copyBackup,.openAuth,.writeAuth]

def fetchInternedAtoms : List Action :=
  [.connectToServer,.authenticateServerConnection,
    .sigaction .SIGABRT .showCursor,.sigaction .SIGINT .showCursor,
    .sigaction .SIGSEGV .showCursor,.sigaction .SIGTERM .showCursor,
    .fetchAtoms,
    .sigaction .SIGABRT .SIG_DFL,.sigaction .SIGINT .SIG_DFL,
    .sigaction .SIGSEGV .SIG_DFL,.sigaction .SIGTERM .SIG_DFL]

def listenForClients (inUnix : Bool) : List Action :=
  [.socket,if inUnix then .removeStale else .setsockopt,.bind,.listen]

def destructor (outUnix inUnix copyauth : Bool) : List Action :=
  .closeListener :: given inUnix [.remove .IN] ++ given outUnix [.remove .OUT] ++
    given copyauth [.restoreAuth]

/-- The actions from the constructor to the destructor, by what decides between them. -/
def actions (outUnix inUnix copyauth systemtimeformat prefetchatoms subcmd : Bool) : List Action :=
  parseDisplayNames outUnix inUnix ++ given copyauth copyAuthentication ++
  given systemtimeformat [.fetchCurrentServerTime] ++ given prefetchatoms fetchInternedAtoms ++
  listenForClients inUnix ++ given subcmd [.sigactionSIGCHLD,.fork] ++ [.processClientQueue] ++
  destructor outUnix inUnix copyauth

def Config.actions (config : Config) : List Action :=
  Shutdown.actions (config.unix .OUT) (config.unix .IN) config.copyauth config.systemtimeformat
    config.prefetchatoms (config.subcmd_argc != 0)

namespace Action

/-- Where the source calls `::exit( EXIT_FAILURE )`. -/
def exits : Action → Bool
  | parseDisplayName _ | sigaction _ _ | storeXauthPath | readAuth | openAuth => true
  | connectToServer | authenticateServerConnection | fetchAtoms => true
  | socket | setsockopt | bind | listen | sigactionSIGCHLD | fork | processClientQueue => true
  | _ => false

/-- Where an assertion may fail or an exception leave `main`, or the destructor. -/
def aborts : Action → Bool
  | parseDisplayName _ | storeXauthPath | readAuth | copyBackup => true
  | fetchCurrentServerTime | authenticateServerConnection | fetchAtoms => true
  | removeStale | processClientQueue | remove _ | restoreAuth => true
  | _ => false

end Action

inductive Ending
  | exited
  | killed (sig : Signal) (disposition : Disposition)
  deriving DecidableEq, Repr

structure Process where
  rest : List Action
  ending : Option Ending
  files : Path → Option File
  sun_path : Side → Option Path
  xauth_path : Option Path
  xauth_bup_path : Option Path
  disposition : Signal → Disposition
  bound : List Path
  unlinked : List Path

inductive Label
  | done
  | exit
  /-- SIGABRT, raised by the next action, with the paths that cannot be removed. -/
  | abort (stuck : List Path)
  | signal (sig : Signal) (stuck : List Path)
  deriving DecidableEq, Repr

namespace Process

def initial (config : Config) : Process where
  rest := config.actions
  ending := none
  files := config.files
  sun_path := fun _ => none
  xauth_path := none
  xauth_bup_path := none
  disposition := fun _ => .SIG_DFL
  bound := []
  unlinked := []

def withFile (process : Process) (path : Path) (file : Option File) : Process :=
  { process with files := fun other => if other = path then file else process.files other }

/-- A path is removed if there is something, and it can be removed. -/
def unlink (process : Process) (stuck : List Path) (path : Path) : Process :=
  if process.files path = none ∨ path ∈ stuck then process
  else { process.withFile path none with unlinked := path :: process.unlinked }

def rename (process : Process) (source target : Path) : Process :=
  match process.files source with
  | none => process
  | some file => (process.withFile source none).withFile target (some file)

def unlinkStored (process : Process) (stuck : List Path) (side : Side) : Process :=
  match process.sun_path side with
  | none => process
  | some path => process.unlink stuck path

def renameStored (process : Process) : Process :=
  match process.xauth_path, process.xauth_bup_path with
  | some path, some bup => process.rename bup path
  | _, _ => process

def handleTerminatingSignal (process : Process) (stuck : List Path) : Process :=
  ((process.unlinkStored stuck .IN).unlinkStored stuck .OUT).renameStored

def deliver (process : Process) (sig : Signal) (stuck : List Path) : Process :=
  let ended := { process with ending := some (.killed sig (process.disposition sig)) }
  match process.disposition sig with
  | .handleTerminatingSignal => ended.handleTerminatingSignal stuck
  | .showCursor => ended
  | .SIG_DFL => ended

/-- An action that succeeds. -/
def perform (config : Config) (process : Process) : Action → Option Process
  | .parseDisplayName side =>
    if (config.displayname side).isSome then some process else none
  | .storeSunPath side => some { process with
      sun_path := fun other =>
        if other = side then some (config.sunPath side) else process.sun_path other }
  | .sigaction sig disposition => some { process with
      disposition := fun other => if other = sig then disposition else process.disposition other }
  | .storeXauthPath => some { process with xauth_path := some config.xauthPath }
  | .storeXauthBupPath => some { process with xauth_bup_path := some config.xauthBupPath }
  | .readAuth =>
    match process.files config.xauthPath with
    | some (.regular _) => some process
    | _ => none
  | .copyBackup =>
    match process.files config.xauthPath with
    | some file => some (process.withFile config.xauthBupPath (some file))
    | none => none
  | .openAuth => some (process.withFile config.xauthPath (some (.regular [])))
  | .writeAuth => some (process.withFile config.xauthPath (some (.regular config.entries)))
  | .removeStale => some (process.unlink [] (config.sunPath .IN))
  | .bind =>
    if config.unix .IN then
      some { process.withFile (config.sunPath .IN) (some .socket) with
        bound := config.sunPath .IN :: process.bound }
    else some process
  | .remove side => some (process.unlink [] (config.sunPath side))
  | .restoreAuth =>
    if (process.files config.xauthBupPath).isSome then
      some (process.rename config.xauthBupPath config.xauthPath)
    else none
  | _ => some process

def step (config : Config) (process : Process) (label : Label) : Option Process :=
  match process.ending, process.rest with
  | none, action :: rest =>
    match label with
    | .done => (process.perform config action).map fun after => { after with rest }
    | .exit => if action.exits then some { process with ending := some .exited } else none
    | .abort stuck => if action.aborts then some (process.deliver .SIGABRT stuck) else none
    | .signal sig stuck => some (process.deliver sig stuck)
  | _, _ => none

/-- The process has ended, or `main` has returned. -/
def Over (process : Process) : Prop := process.ending ≠ none ∨ process.rest = []

end Process

def Reached (config : Config) (allowed : Process → Label → Prop) : Process → Prop :=
  Runs.Reached (· = Process.initial config)
    (fun process label after => process.step config label = some after) allowed

namespace Action

/-- Whether an action changes a file. -/
def writes : Action → Bool
  | copyBackup | openAuth | writeAuth | removeStale | bind | remove _ | restoreAuth => true
  | _ => false

/-- The place of an action among all that a run may have. -/
def stage : Action → Nat
  | parseDisplayName .OUT => 0
  | storeSunPath .OUT => 1
  | parseDisplayName .IN => 2
  | storeSunPath .IN => 3
  | sigaction .SIGINT .handleTerminatingSignal => 4
  | sigaction .SIGTERM .handleTerminatingSignal => 5
  | sigaction .SIGABRT .handleTerminatingSignal => 6
  | sigaction .SIGSEGV .handleTerminatingSignal => 7
  | storeXauthPath => 8
  | storeXauthBupPath => 9
  | readAuth => 10
  | copyBackup => 11
  | openAuth => 12
  | writeAuth => 13
  | fetchCurrentServerTime => 14
  | connectToServer => 15
  | authenticateServerConnection => 16
  | sigaction .SIGABRT .showCursor => 17
  | sigaction .SIGINT .showCursor => 18
  | sigaction .SIGSEGV .showCursor => 19
  | sigaction .SIGTERM .showCursor => 20
  | fetchAtoms => 21
  | sigaction .SIGABRT .SIG_DFL => 22
  | sigaction .SIGINT .SIG_DFL => 23
  | sigaction .SIGSEGV .SIG_DFL => 24
  | sigaction .SIGTERM .SIG_DFL => 25
  | socket => 26
  | removeStale => 27
  | setsockopt => 27
  | bind => 28
  | listen => 29
  | sigactionSIGCHLD => 30
  | fork => 31
  | processClientQueue => 32
  | closeListener => 33
  | remove .IN => 34
  | remove .OUT => 35
  | restoreAuth => 36

end Action

theorem actions_in_stages (outUnix inUnix copyauth systemtimeformat prefetchatoms subcmd : Bool) :
    (actions outUnix inUnix copyauth systemtimeformat prefetchatoms subcmd).Pairwise
      fun before after => before.stage < after.stage := by
  have chained : ((actions outUnix inUnix copyauth systemtimeformat prefetchatoms subcmd).map
      Action.stage).IsChain (· < ·) := by
    revert outUnix inUnix copyauth systemtimeformat prefetchatoms subcmd
    decide +kernel
  exact List.pairwise_map.mp (List.isChain_iff_pairwise.mp chained)

variable {config : Config} {process after : Process} {action other : Action} {rest : List Action}
  {label : Label} {sig : Signal} {stuck : List Path} {path : Path} {side : Side}

/-- An action that has been passed comes before those that are left. -/
theorem passed (suffix : rest <:+ config.actions) (there : action ∈ config.actions)
    (gone : action ∉ rest) (left : other ∈ rest) : action.stage < other.stage := by
  obtain ⟨done,whole⟩ := suffix
  have order := actions_in_stages (config.unix .OUT) (config.unix .IN) config.copyauth
    config.systemtimeformat config.prefetchatoms (config.subcmd_argc != 0)
  change config.actions.Pairwise _ at order
  rw [← whole] at order there
  rcases List.mem_append.mp there with before | inside
  · exact (List.pairwise_append.mp order).2.2 action before other left
  · exact absurd inside gone

theorem next_first (suffix : action :: rest <:+ config.actions) (left : other ∈ rest) :
    action.stage < other.stage := by
  obtain ⟨done,whole⟩ := suffix
  have order := actions_in_stages (config.unix .OUT) (config.unix .IN) config.copyauth
    config.systemtimeformat config.prefetchatoms (config.subcmd_argc != 0)
  change config.actions.Pairwise _ at order
  rw [← whole] at order
  exact (List.pairwise_cons.mp (List.pairwise_append.mp order).2.1).1 other left

theorem copying_there (copies : config.copyauth = true) (member : action ∈ copyAuthentication) :
    action ∈ config.actions := by
  simp [Config.actions,actions,given,copies,member]

theorem restoring_there (copies : config.copyauth = true) : .restoreAuth ∈ config.actions := by
  simp [Config.actions,actions,given,copies,destructor]

theorem cursor_prefetches (there : .sigaction sig .showCursor ∈ config.actions) :
    config.prefetchatoms = true := by
  revert there
  cases fetch : config.prefetchatoms <;> simp [Config.actions,actions,given,fetch,parseDisplayNames,
    copyAuthentication,listenForClients,destructor]
  split <;> simp

theorem default_prefetches (there : .sigaction sig .SIG_DFL ∈ config.actions) :
    config.prefetchatoms = true := by
  revert there
  cases fetch : config.prefetchatoms <;> simp [Config.actions,actions,given,fetch,parseDisplayNames,
    copyAuthentication,listenForClients,destructor]
  split <;> simp

theorem restoring_copies (there : .restoreAuth ∈ config.actions) : config.copyauth = true := by
  revert there
  cases copies : config.copyauth <;> simp [Config.actions,actions,given,copies,parseDisplayNames,
    fetchInternedAtoms,listenForClients,destructor]
  split <;> simp

theorem handlers_there (unix : (config.unix .OUT || config.unix .IN) = true) (sig : Signal) :
    .sigaction sig .handleTerminatingSignal ∈ config.actions := by
  cases sig <;> simp only [Config.actions,actions,given,parseDisplayNames,unix] <;> simp

theorem Config.xauthBupPath_other (config : Config) : config.xauthBupPath ≠ config.xauthPath := by
  intro same
  have length := congrArg List.length same
  rw [Config.xauthBupPath,List.length_append] at length
  have four : ".bup".toList.length = 4 := by decide
  omega

/-- The backup ends in a letter, and the path of a socket in a digit or an X. -/
theorem Config.xauthBupPath_sunPath (config : Config) (side : Side) :
    config.xauthBupPath ≠ config.sunPath side := by
  intro same
  have letters : ".bup".toList = ['.','b','u','p'] := by decide
  have stem : unixSocketPathPrefix = "/tmp/.X11-unix/".toList ++ ['X'] := by decide
  have last := congrArg List.getLast? same
  rw [Config.xauthBupPath,Config.sunPath,DisplayInfo.sunPath,letters,stem,List.getLast?_append,
    List.getLast?_append] at last
  cases number : (config.display side).number.getLast? with
  | none => simp [number] at last
  | some char =>
    have digit := (config.display side).digits char (List.mem_of_getLast? number)
    simp only [number,Option.some_or] at last
    cases last
    revert digit
    decide

namespace Process

/-- Nothing differs but the files and what has been unlinked. -/
structure FilesOnly (process after : Process) : Prop where
  rest : after.rest = process.rest
  ending : after.ending = process.ending
  sun_path : after.sun_path = process.sun_path
  xauth_path : after.xauth_path = process.xauth_path
  xauth_bup_path : after.xauth_bup_path = process.xauth_bup_path
  disposition : after.disposition = process.disposition
  bound : after.bound = process.bound

theorem FilesOnly.refl (process : Process) : FilesOnly process process :=
  ⟨rfl,rfl,rfl,rfl,rfl,rfl,rfl⟩

theorem FilesOnly.trans {before : Process} (first : FilesOnly before process)
    (second : FilesOnly process after) : FilesOnly before after :=
  ⟨second.rest.trans first.rest,second.ending.trans first.ending,
    second.sun_path.trans first.sun_path,second.xauth_path.trans first.xauth_path,
    second.xauth_bup_path.trans first.xauth_bup_path,second.disposition.trans first.disposition,
    second.bound.trans first.bound⟩

theorem unlink_only (process : Process) (stuck : List Path) (path : Path) :
    FilesOnly process (process.unlink stuck path) := by
  unfold unlink
  split
  · exact .refl process
  · exact ⟨rfl,rfl,rfl,rfl,rfl,rfl,rfl⟩

theorem rename_only (process : Process) (source target : Path) :
    FilesOnly process (process.rename source target) := by
  unfold rename
  split
  · exact .refl process
  · exact ⟨rfl,rfl,rfl,rfl,rfl,rfl,rfl⟩

theorem unlink_files {other : Path} (different : other ≠ path) :
    (process.unlink stuck path).files other = process.files other := by
  unfold unlink
  split
  · rfl
  · simp [withFile,different]

theorem rename_files {source target other : Path} (first : other ≠ source) (second : other ≠ target) :
    (process.rename source target).files other = process.files other := by
  unfold rename
  split
  · rfl
  · simp [withFile,first,second]

theorem rename_target {source target : Path} {file : File}
    (there : process.files source = some file) :
    (process.rename source target).files target = some file := by
  simp [rename,there,withFile]

theorem unlinkStored_only (process : Process) (stuck : List Path) (side : Side) :
    FilesOnly process (process.unlinkStored stuck side) := by
  unfold unlinkStored
  split
  · exact .refl process
  · exact process.unlink_only stuck _

theorem unlinkStored_files {other : Path}
    (different : ∀ path, process.sun_path side = some path → other ≠ path) :
    (process.unlinkStored stuck side).files other = process.files other := by
  unfold unlinkStored
  split
  · rfl
  · rename_i path stored
    exact unlink_files (different path stored)

end Process

end Shutdown
end Xtracepp
