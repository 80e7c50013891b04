import Xtracepp.Library.Runs

/-! The proxy and the client it starts as a child process. The parent's steps are
those of `_startSubcommandClient` and of the loop of `_processClientQueue`; the end of
the child and the delivery of SIGCHLD may fall between any two of them.
-/
namespace Xtracepp
open Library Library.Runs

namespace Subcommand

inductive SiCode
  | CLD_EXITED
  | CLD_KILLED
  | CLD_DUMPED
  | CLD_TRAPPED
  | CLD_STOPPED
  | CLD_CONTINUED
  deriving DecidableEq, Repr

/-- The members of `siginfo_t` that the handler reads. -/
structure SigInfo where
  si_code : SiCode
  si_status : Int
  deriving DecidableEq, Repr

def SIGNAL_RETVAL_OFFSET : Int := 128

def EXIT_SUCCESS : Int := 0

def EXIT_FAILURE : Int := 1

/-- What SA_NOCLDSTOP leaves of the reasons for SIGCHLD. -/
def SigInfo.Terminated (info : SigInfo) : Prop :=
  info.si_code = .CLD_EXITED ∨ info.si_code = .CLD_KILLED ∨ info.si_code = .CLD_DUMPED

instance (info : SigInfo) : Decidable info.Terminated :=
  inferInstanceAs (Decidable (_ ∨ _ ∨ _))

/-- The exit status of a terminated child, a signal counted from `SIGNAL_RETVAL_OFFSET`. -/
def SigInfo.status (info : SigInfo) : Int :=
  if info.si_code = .CLD_EXITED then info.si_status else SIGNAL_RETVAL_OFFSET + info.si_status

inductive Child
  | unborn
  | alive
  | ended (info : SigInfo)
  deriving DecidableEq, Repr

/-- The next thing the parent does. -/
inductive Place
  | sigaction
  | fork
  | store
  | addListener
  | test
  | updatePollFlags
  | poll
  | processPolledSockets
  | result
  | returned (status : Int)
  | exited
  | aborted
  deriving DecidableEq, Repr

structure Settings where
  keeprunning : Bool
  subcmd_argc : Nat
  deriving DecidableEq, Repr

structure Run where
  place : Place
  child_running : Bool
  child_retval : Int
  child_used : Bool
  child : Child
  /-- SIGCHLD has been generated and not yet delivered. -/
  pending : Bool
  connections : Nat
  deriving DecidableEq, Repr

inductive PollResult
  | ready
  | interrupted
  | failed
  deriving DecidableEq, Repr

inductive Label
  | sigaction (ok : Bool)
  | fork (ok : Bool)
  | store
  | addListener
  | test
  | updatePollFlags
  | poll (result : PollResult)
  | processPolledSockets (closed : Nat) (opened : Bool)
  | result
  | terminate (info : SigInfo)
  | deliver
  deriving DecidableEq, Repr

namespace Run

/-- Where `run()` enters `_startSubcommandClient`. -/
def initial (settings : Settings) : Run where
  place := if settings.subcmd_argc = 0 then .addListener else .sigaction
  child_running := false
  child_retval := 0
  child_used := false
  child := .unborn
  pending := false
  connections := 0

def handleSIGCHLD (run : Run) (info : SigInfo) : Run :=
  if run.child_running = true then
    match info.si_code with
    | .CLD_EXITED => { run with child_running := false, child_retval := info.si_status }
    | .CLD_KILLED => { run with
        child_running := false, child_retval := SIGNAL_RETVAL_OFFSET + info.si_status }
    | .CLD_DUMPED => { run with
        child_running := false, child_retval := SIGNAL_RETVAL_OFFSET + info.si_status }
    | _ => { run with child_running := false }
  else { run with place := .aborted }

/-- The parent goes on to `next` from one place. -/
def leave (run : Run) (place : Place) (next : Run) : Option Run :=
  if run.place = place then some next else none

def step (settings : Settings) (run : Run) : Label → Option Run
  | .sigaction ok => run.leave .sigaction { run with place := if ok then .fork else .exited }
  | .fork ok => run.leave .fork
      (if ok then { run with place := .store, child := .alive } else { run with place := .exited })
  | .store => run.leave .store
      { run with place := .addListener, child_used := true, child_running := true }
  | .addListener => run.leave .addListener { run with place := .test }
  | .test => run.leave .test { run with
      place := if run.child_running || run.connections != 0 || settings.keeprunning
        then .updatePollFlags else .result }
  | .updatePollFlags => run.leave .updatePollFlags { run with place := .poll }
  | .poll .ready => run.leave .poll { run with place := .processPolledSockets }
  | .poll .interrupted => run.leave .poll { run with place := .test }
  | .poll .failed => run.leave .poll { run with place := .returned EXIT_FAILURE }
  | .processPolledSockets closed opened => run.leave .processPolledSockets { run with
      place := .test
      connections := run.connections - closed + if opened then 1 else 0 }
  | .result => run.leave .result { run with
      place := .returned
        (if run.child_used && !settings.keeprunning then run.child_retval else EXIT_SUCCESS) }
  | .terminate info =>
    if run.child = .alive ∧ info.Terminated then
      some { run with child := .ended info, pending := true }
    else none
  | .deliver =>
    match run.child with
    | .ended info =>
      if run.pending = true then
        -- a handler that returns interrupts the call to `poll`
        some ({ run with
          pending := false
          place := if run.place = Place.poll then .test else run.place }.handleSIGCHLD info)
      else none
    | _ => none

/-- The parent is inside `_processClientQueue`. -/
def Queued (run : Run) : Prop :=
  run.place = .addListener ∨ run.place = .test ∨ run.place = .updatePollFlags ∨
    run.place = .poll ∨ run.place = .processPolledSockets ∨ run.place = .result

/-- No connection is open and the loop does not go on for its own sake. -/
def Idle (settings : Settings) (run : Run) : Prop :=
  run.connections = 0 ∧ settings.keeprunning = false

@[simp] theorem leave_some {run after next : Run} {place : Place} :
    run.leave place next = some after ↔ run.place = place ∧ next = after := by
  simp [leave]

/-- What the handler leaves when its assertion holds. -/
theorem handleSIGCHLD_running {run : Run} {info : SigInfo} (running : run.child_running = true)
    (terminated : info.Terminated) :
    run.handleSIGCHLD info = { run with child_running := false, child_retval := info.status } := by
  rcases terminated with code | code | code <;> simp [handleSIGCHLD,running,code,SigInfo.status]

end Run

/-- SIGCHLD falls in neither window: not between `fork` and the store to `child_running`,
and, when nothing else keeps the loop going, not between its test and the call to `poll`.
Nor does `poll` fail for another reason than a signal. -/
def Timely (settings : Settings) (run : Run) (label : Label) : Prop :=
  (label = .deliver → run.place ≠ .store ∧ (run.Idle settings → run.place ≠ .updatePollFlags)) ∧
    label ≠ .poll .failed

instance (settings : Settings) (run : Run) : Decidable (run.Idle settings) :=
  inferInstanceAs (Decidable (_ ∧ _))

instance (settings : Settings) (run : Run) (label : Label) :
    Decidable (Timely settings run label) :=
  inferInstanceAs (Decidable (_ ∧ _))

def Reached (settings : Settings) (allowed : Run → Label → Prop) : Run → Prop :=
  Runs.Reached (· = Run.initial settings)
    (fun run label after => run.step settings label = some after) allowed

/-- The child has ended and its signal has been handled. -/
def Run.Told (run : Run) (info : SigInfo) : Prop :=
  run.child = .ended info ∧ run.pending = false

/-- The flag, the child and the signal agree, at each place as the place requires. -/
structure Agreed (settings : Settings) (run : Run) : Prop where
  early : run.place = .sigaction ∨ run.place = .fork → run.child = .unborn
  born : run.place = .store → run.child ≠ .unborn
  used : run.child_used = true ↔ run.child ≠ .unborn ∧ run.place ≠ .store
  unused : run.child_used = false → run.child_running = false
  terminated : ∀ info, run.child = .ended info → info.Terminated
  told : ∀ info, run.Told info →
    run.child_used = true ∧ run.child_running = false ∧ run.child_retval = info.status
  untold : run.child_used = true → run.child_running = false → ∃ info, run.Told info
  polling : run.Idle settings → run.place = .updatePollFlags ∨ run.place = .poll →
    run.child_running = true
  leaving : run.place = .result → run.Idle settings ∧ run.child_running = false
  returned : ∀ status, run.place = .returned status → run.child_running = false ∧
    status = if run.child_used then run.child_retval else EXIT_SUCCESS
  sound : run.place ≠ .aborted

variable {settings : Settings} {run after : Run} {label : Label} {info : SigInfo}

theorem Agreed.initial (settings : Settings) : Agreed settings (Run.initial settings) := by
  unfold Run.initial
  constructor <;> (try split) <;> simp [Run.Told]

/-- Inside the loop the parent moves without touching the flag or the child. -/
theorem Agreed.moved (agreed : Agreed settings run) (place : Place) (connections : Nat)
    (began : run.place ≠ .store)
    (onward : place ≠ .sigaction ∧ place ≠ .fork ∧ place ≠ .store ∧ place ≠ .aborted)
    (polling : connections = 0 → settings.keeprunning = false →
      place = .updatePollFlags ∨ place = .poll → run.child_running = true)
    (leaving : place = .result →
      (connections = 0 ∧ settings.keeprunning = false) ∧ run.child_running = false)
    (returned : ∀ status, place = .returned status → run.child_running = false ∧
      status = if run.child_used then run.child_retval else EXIT_SUCCESS) :
    Agreed settings { run with place, connections } := by
  obtain ⟨install,fork,store,sound⟩ := onward
  refine ⟨?_,?_,?_,agreed.unused,agreed.terminated,agreed.told,agreed.untold,?_,leaving,returned,
    sound⟩
  · rintro (early | early)
    · exact absurd early install
    · exact absurd early fork
  · intro stored
    exact absurd stored store
  · rw [agreed.used]
    simp [began,store]
  · intro idle
    exact polling idle.1 idle.2

theorem Agreed.terminate (agreed : Agreed settings run) (alive : run.child = .alive)
    (terminated : info.Terminated) :
    Agreed settings { run with child := .ended info, pending := true } := by
  refine ⟨?_,?_,?_,agreed.unused,?_,?_,?_,agreed.polling,agreed.leaving,agreed.returned,
    agreed.sound⟩
  · intro early
    simp [agreed.early early] at alive
  · simp
  · rw [agreed.used]
    simp [alive]
  · rintro other same
    cases same
    exact terminated
  · rintro other ⟨_,pending⟩
    cases pending
  · intro used stopped
    obtain ⟨other,ended,_⟩ := agreed.untold used stopped
    simp [alive] at ended

theorem Agreed.deliver (agreed : Agreed settings run) (ended : run.child = .ended info)
    (pending : run.pending = true) (stored : run.place ≠ .store)
    (tested : run.Idle settings → run.place ≠ .updatePollFlags) :
    Agreed settings ({ run with
      pending := false
      place := if run.place = Place.poll then .test else run.place }.handleSIGCHLD info) := by
  have used : run.child_used = true := agreed.used.mpr ⟨by simp [ended],stored⟩
  have running : run.child_running = true := by
    cases flag : run.child_running with
    | true => rfl
    | false =>
      obtain ⟨other,_,handled⟩ := agreed.untold used flag
      simp [pending] at handled
  rw [Run.handleSIGCHLD_running ?_ (agreed.terminated info ended)]
  rotate_left
  · exact running
  refine ⟨?_,?_,?_,?_,?_,?_,?_,?_,?_,?_,?_⟩
  · intro early
    refine agreed.early ?_
    rcases early with early | early <;> split at early <;> simp_all
  · simp [ended]
  · simp only [used,ended]
    split <;> simp [stored]
  · intro unused
    rfl
  · exact agreed.terminated
  · rintro other ⟨same,_⟩
    cases ended.symm.trans same
    exact ⟨used,rfl,rfl⟩
  · intro _ _
    exact ⟨info,ended,rfl⟩
  · rintro idle polled
    have moved := tested idle
    rcases polled with polled | polled <;> split at polled <;> simp_all
  · intro left
    split at left
    · cases left
    · have stopped := (agreed.leaving left).2
      simp [running] at stopped
  · intro status left
    split at left
    · cases left
    · have stopped := (agreed.returned status left).1
      simp [running] at stopped
  · have sound := agreed.sound
    simp only
    split <;> simp [sound]

theorem Agreed.step (agreed : Agreed settings run) (timely : Timely settings run label)
    (taken : run.step settings label = some after) : Agreed settings after := by
  cases label with
  | sigaction ok =>
    obtain ⟨here,rfl⟩ := Run.leave_some.mp taken
    have unborn := agreed.early (.inl here)
    have unused := agreed.used
    have told := agreed.told
    refine ⟨fun _ => unborn,?_,?_,agreed.unused,agreed.terminated,agreed.told,agreed.untold,?_,?_,
      ?_,?_⟩
    all_goals cases ok <;> simp_all
  | fork ok =>
    obtain ⟨here,rfl⟩ := Run.leave_some.mp taken
    have unborn := agreed.early (.inr here)
    have unused := agreed.unused
    have told := agreed.told
    have used := agreed.used
    cases ok with
    | false =>
      refine ⟨fun _ => unborn,?_,?_,agreed.unused,agreed.terminated,agreed.told,agreed.untold,?_,?_,
        ?_,?_⟩
      all_goals simp_all
    | true =>
      constructor
      all_goals simp_all [Run.Told]
  | store =>
    obtain ⟨here,rfl⟩ := Run.leave_some.mp taken
    have born := agreed.born here
    have terminated := agreed.terminated
    have used := agreed.used
    have told := agreed.told
    constructor
    all_goals simp_all [Run.Told]
  | addListener =>
    obtain ⟨here,rfl⟩ := Run.leave_some.mp taken
    exact agreed.moved .test run.connections (by simp [here]) (by simp) (by simp) (by simp) (by simp)
  | test =>
    obtain ⟨here,rfl⟩ := Run.leave_some.mp taken
    refine agreed.moved _ run.connections (by simp [here]) ?_ ?_ ?_ ?_
    · split <;> simp
    · intro none once
      split <;> simp_all
    · split <;> simp_all
    · intro status
      split <;> simp
  | updatePollFlags =>
    obtain ⟨here,rfl⟩ := Run.leave_some.mp taken
    exact agreed.moved .poll run.connections (by simp [here]) (by simp)
      (fun none once _ => agreed.polling ⟨none,once⟩ (.inl here)) (by simp) (by simp)
  | poll result =>
    cases result with
    | ready =>
      obtain ⟨here,rfl⟩ := Run.leave_some.mp taken
      exact agreed.moved .processPolledSockets run.connections (by simp [here]) (by simp) (by simp)
        (by simp) (by simp)
    | interrupted =>
      obtain ⟨here,rfl⟩ := Run.leave_some.mp taken
      exact agreed.moved .test run.connections (by simp [here]) (by simp) (by simp) (by simp)
        (by simp)
    | failed => exact absurd rfl timely.2
  | processPolledSockets closed opened =>
    obtain ⟨here,rfl⟩ := Run.leave_some.mp taken
    exact agreed.moved .test _ (by simp [here]) (by simp) (by simp) (by simp) (by simp)
  | result =>
    obtain ⟨here,rfl⟩ := Run.leave_some.mp taken
    obtain ⟨idle,stopped⟩ := agreed.leaving here
    exact agreed.moved _ run.connections (by simp [here]) (by simp) (by simp) (by simp)
      (by simp [stopped,idle.2])
  | terminate info =>
    rw [Run.step] at taken
    split at taken
    · rename_i given
      cases taken
      exact agreed.terminate given.1 given.2
    · cases taken
  | deliver =>
    obtain ⟨stored,tested⟩ := timely.1 rfl
    rw [Run.step] at taken
    split at taken
    · rename_i info ended
      split at taken
      · rename_i pending
        cases taken
        exact agreed.deliver ended pending stored tested
      · cases taken
    · cases taken

theorem reached_agreed (reached : Reached settings (Timely settings) run) : Agreed settings run := by
  refine Runs.Reached.invariant (Agreed settings) ?_ ?_ reached
  · rintro _ rfl
    exact Agreed.initial settings
  · intro before label after agreed timely taken
    exact agreed.step timely taken

/-- What has been told stays told. -/
theorem Run.Told.step (told : run.Told info) (agreed : Agreed settings run)
    (taken : run.step settings label = some after) : after.Told info := by
  obtain ⟨ended,handled⟩ := told
  cases label with
  | fork ok =>
    obtain ⟨here,_⟩ := Run.leave_some.mp taken
    simp [agreed.early (.inr here)] at ended
  | terminate other => simp [Run.step,ended] at taken
  | deliver => simp [Run.step,ended,handled] at taken
  | poll result =>
    cases result
    all_goals
      obtain ⟨_,rfl⟩ := Run.leave_some.mp taken
      exact ⟨ended,handled⟩
  | _ =>
    obtain ⟨_,rfl⟩ := Run.leave_some.mp taken
    exact ⟨ended,handled⟩

/-- The runs that go on from a state. -/
def Run.Onward (settings : Settings) (run : Run) : Run → Prop :=
  Runs.Reached (· = run) (fun run label after => run.step settings label = some after)
    (Timely settings)

theorem Run.Told.onward (told : run.Told info) (agreed : Agreed settings run)
    (onward : run.Onward settings after) : Agreed settings after ∧ after.Told info := by
  refine Runs.Reached.invariant (fun state => Agreed settings state ∧ state.Told info) ?_ ?_ onward
  · rintro _ rfl
    exact ⟨agreed,told⟩
  · rintro before label next ⟨agreed,told⟩ timely taken
    exact ⟨agreed.step timely taken,told.step agreed taken⟩

/-- Once told, with nothing else to wait for, the loop ends without another call to `poll`. -/
theorem Agreed.ends (agreed : Agreed settings run) (told : run.Told info)
    (idle : run.Idle settings) (queued : run.Queued) :
    ∃ labels : List Label, (∀ result, .poll result ∉ labels) ∧
      ∃ last, labels.foldlM (Run.step settings) run = some last ∧
        last.place = .returned info.status := by
  obtain ⟨used,stopped,value⟩ := agreed.told info told
  obtain ⟨none,once⟩ := idle
  rcases queued with here | here | here | here | here | here
  · exact ⟨[.addListener,.test,.result],by simp,_,
      by simp [Run.step,Run.leave,here,stopped,none,once]; rfl,by simp [used,value]⟩
  · exact ⟨[.test,.result],by simp,_,
      by simp [Run.step,Run.leave,here,stopped,none,once]; rfl,by simp [used,value]⟩
  · have running := agreed.polling ⟨none,once⟩ (.inl here)
    simp [stopped] at running
  · have running := agreed.polling ⟨none,once⟩ (.inr here)
    simp [stopped] at running
  · exact ⟨[.processPolledSockets 0 false,.test,.result],by simp,_,
      by simp [Run.step,Run.leave,here,stopped,none,once]; rfl,by simp [used,value]⟩
  · exact ⟨[.result],by simp,_,
      by simp [Run.step,Run.leave,here]; rfl,by simp [used,once,value]⟩

/-- The child's exit is not lost in a state. -/
structure ExitKept (settings : Settings) (run : Run) : Prop where
  asserted : run.place ≠ .aborted
  cleared : ∀ info, run.Told info → ∀ later, run.Onward settings later →
    later.child_running = false ∧ later.child_retval = info.status
  awake : run.Idle settings → run.place = .poll → ∀ info, ¬run.Told info
  ends : ∀ info, run.Told info → run.Idle settings → run.Queued →
    ∃ labels : List Label, (∀ result, .poll result ∉ labels) ∧
      ∃ last, labels.foldlM (Run.step settings) run = some last ∧
        last.place = .returned info.status
  value : run.child_used = true → settings.keeprunning = false →
    ∀ status, run.place = .returned status → ∃ info, run.Told info ∧ status = info.status

theorem child_exit_kept (settings : Settings) (run : Run)
    (reached : Reached settings (Timely settings) run) : ExitKept settings run := by
  have agreed := reached_agreed reached
  refine ⟨agreed.sound,?_,?_,?_,?_⟩
  · intro info told later onward
    obtain ⟨after,kept⟩ := told.onward agreed onward
    exact (after.told info kept).2
  · intro idle polled info told
    have running := agreed.polling idle (.inr polled)
    simp [(agreed.told info told).2.1] at running
  · intro info told idle queued
    exact agreed.ends told idle queued
  · intro used once status returned
    obtain ⟨stopped,value⟩ := agreed.returned status returned
    obtain ⟨info,told⟩ := agreed.untold used stopped
    refine ⟨info,told,?_⟩
    rw [value,if_pos used]
    exact (agreed.told info told).2.2

instance (run : Run) (info : SigInfo) : Decidable (run.Told info) :=
  inferInstanceAs (Decidable (_ ∧ _))

/-- Following labels from the start, and a check of the run they make. -/
theorem replayed (settings : Settings) (allowed : Run → Label → Prop)
    [∀ run label, Decidable (allowed run label)] (holds : Run → Prop) [DecidablePred holds]
    (labels : List Label)
    (checked : (replay (fun run label => (run.step settings label).elim (Except.error ()) Except.ok)
      allowed (Run.initial settings) labels).any (fun last => decide (holds last)) = true) :
    ∃ run, Reached settings allowed run ∧ holds run :=
  replay_possible holds labels _ rfl checked

theorem child_exit_kept_status : ∃ run, run.place = .returned 3 ∧ ExitKept ⟨false,1⟩ run := by
  obtain ⟨run,reached,place⟩ := replayed ⟨false,1⟩ (Timely ⟨false,1⟩)
    (fun run => run.place = .returned 3)
    [.sigaction true,.fork true,.store,.addListener,.test,.updatePollFlags,.poll .ready,
      .processPolledSockets 0 true,.test,.terminate ⟨.CLD_EXITED,3⟩,.updatePollFlags,.deliver,
      .test,.updatePollFlags,.poll .ready,.processPolledSockets 1 false,.test,.result] (by decide)
  exact ⟨run,place,child_exit_kept _ run reached⟩

/-- The child ends before the flag is set, or between the test of the loop and `poll`. -/
theorem child_exit_lost :
    (∃ run, Reached ⟨false,1⟩ (fun _ _ => True) run ∧ run.place = .aborted) ∧
      ∃ run, Reached ⟨false,1⟩ (fun _ _ => True) run ∧ run.place = .poll ∧
        run.Idle ⟨false,1⟩ ∧ run.Told ⟨.CLD_EXITED,0⟩ := by
  refine ⟨replayed ⟨false,1⟩ (fun _ _ => True) _
    [.sigaction true,.fork true,.terminate ⟨.CLD_EXITED,0⟩,.deliver] ?_,
    replayed ⟨false,1⟩ (fun _ _ => True) _
      [.sigaction true,.fork true,.store,.addListener,.test,.terminate ⟨.CLD_EXITED,0⟩,.deliver,
        .updatePollFlags] ?_⟩
  · decide
  · decide

end Subcommand
end Xtracepp
