import Xtracepp.Shutdown

/-! The authority file over a whole run: what a running process keeps ready, and which
ways out put the file back.
-/
namespace Xtracepp
open Library Library.Runs
namespace Shutdown

variable {config : Config} {process after : Process} {action other : Action} {rest : List Action}
  {label : Label} {sig : Signal} {stuck : List Path} {path : Path} {side : Side}

/-- What an action that succeeds does. -/
inductive Performed (config : Config) (process : Process) : Action → Process → Prop
  | quiet {action : Action} (silent : action.writes = false)
      (other : action ≠ .storeXauthPath ∧ action ≠ .storeXauthBupPath ∧
        ∀ sig disposition, action ≠ .sigaction sig disposition)
      (named : ∀ side, action = .parseDisplayName side → (config.displayname side).isSome = true)
      (read : action = .readAuth →
        ∃ contents, process.files config.xauthPath = some (.regular contents)) :
      Performed config process action process
  | sunPath (side : Side) : Performed config process (.storeSunPath side)
      { process with sun_path := fun other =>
          if other = side then some (config.sunPath side) else process.sun_path other }
  | disposition (sig : Signal) (disposition : Disposition) :
      Performed config process (.sigaction sig disposition)
        { process with disposition := fun other =>
            if other = sig then disposition else process.disposition other }
  | xauthPath : Performed config process .storeXauthPath
      { process with xauth_path := some config.xauthPath }
  | xauthBupPath : Performed config process .storeXauthBupPath
      { process with xauth_bup_path := some config.xauthBupPath }
  | backup (file : File) (there : process.files config.xauthPath = some file) :
      Performed config process .copyBackup (process.withFile config.xauthBupPath (some file))
  | rewrite {action : Action} (contents : List UInt8)
      (which : action = .openAuth ∨ action = .writeAuth) :
      Performed config process action (process.withFile config.xauthPath (some (.regular contents)))
  | remove {action : Action} (side : Side)
      (which : action = .removeStale ∧ side = .IN ∨ action = .remove side) :
      Performed config process action (process.unlink [] (config.sunPath side))
  | bind (unix : config.unix .IN = true) : Performed config process .bind
      { process.withFile (config.sunPath .IN) (some .socket) with
        bound := config.sunPath .IN :: process.bound }
  | bindPort (port : config.unix .IN = false) : Performed config process .bind process
  | restore (file : File) (there : process.files config.xauthBupPath = some file) :
      Performed config process .restoreAuth (process.rename config.xauthBupPath config.xauthPath)

theorem perform_case (done : process.perform config action = some after) :
    Performed config process action after := by
  cases action
  case parseDisplayName side =>
    simp only [Process.perform,Option.ite_none_right_eq_some] at done
    obtain ⟨named,same⟩ := done
    cases same
    exact .quiet rfl (by simp) (by simpa using named) (by simp)
  case readAuth =>
    rw [Process.perform] at done
    split at done
    · rename_i contents there
      cases done
      exact .quiet rfl (by simp) (by simp) (fun _ => ⟨contents,there⟩)
    · cases done
  case copyBackup =>
    rw [Process.perform] at done
    split at done
    · rename_i file there
      cases done
      exact .backup file there
    · cases done
  case bind =>
    rw [Process.perform] at done
    split at done
    · rename_i unix
      cases done
      exact .bind unix
    · rename_i port
      cases done
      exact .bindPort (by simpa using port)
  case restoreAuth =>
    rw [Process.perform] at done
    split at done
    · rename_i there
      obtain ⟨file,there⟩ := Option.isSome_iff_exists.mp there
      cases done
      exact .restore file there
    · cases done
  all_goals cases done
  case storeSunPath side => exact .sunPath side
  case sigaction sig disposition => exact .disposition sig disposition
  case storeXauthPath => exact .xauthPath
  case storeXauthBupPath => exact .xauthBupPath
  case openAuth => exact .rewrite _ (.inl rfl)
  case writeAuth => exact .rewrite _ (.inr rfl)
  case removeStale => exact .remove _ (.inl ⟨rfl,rfl⟩)
  case remove side => exact .remove side (.inr rfl)
  all_goals exact .quiet rfl (by simp) (by simp) (by simp)

/-- What a process is prepared for while it runs: to put the authority file back. -/
structure Prepared (config : Config) (process : Process) : Prop where
  place : process.rest <:+ config.actions
  untouched : .copyBackup ∈ process.rest → process.files = config.files
  stored : config.copyauth = true → .storeXauthPath ∉ process.rest →
    process.xauth_path = some config.xauthPath
  storedBup : config.copyauth = true → .storeXauthBupPath ∉ process.rest →
    process.xauth_bup_path = some config.xauthBupPath
  backed : config.copyauth = true → .copyBackup ∉ process.rest → .restoreAuth ∈ process.rest →
    ∃ file, config.files config.xauthPath = some file ∧
      process.files config.xauthBupPath = some file
  handled : (config.unix .OUT || config.unix .IN) = true →
    ∀ sig, .sigaction sig .handleTerminatingSignal ∉ process.rest →
      (config.prefetchatoms = true → .sigaction sig .showCursor ∈ process.rest) →
        process.disposition sig = .handleTerminatingSignal
  sun : ∀ side path, process.sun_path side = some path → path = config.sunPath side
  finished : config.copyauth = true → process.rest = [] →
    process.files config.xauthPath = config.files config.xauthPath

theorem Prepared.initial (config : Config) : Prepared config (Process.initial config) := by
  refine ⟨List.suffix_refl _,fun _ => rfl,?_,?_,?_,?_,?_,fun _ _ => rfl⟩
  · intro copies gone
    exact absurd (copying_there copies (by simp [copyAuthentication])) gone
  · intro copies gone
    exact absurd (copying_there copies (by simp [copyAuthentication])) gone
  · intro copies gone
    exact absurd (copying_there copies (by simp [copyAuthentication])) gone
  · intro unix sig gone
    exact absurd (handlers_there unix sig) gone
  · rintro side path ⟨⟩

theorem Action.stage_bound (action : Action) : action.stage ≤ 36 := by
  unfold Action.stage
  split <;> omega

/-- Restoring is what the process does last. -/
theorem restoring_left (copies : config.copyauth = true) (place : rest <:+ config.actions)
    (left : rest ≠ []) : .restoreAuth ∈ rest := by
  by_contra gone
  obtain ⟨action,more,rfl⟩ := List.exists_cons_of_ne_nil left
  have after := passed place (restoring_there copies) gone List.mem_cons_self
  have bound := action.stage_bound
  change 36 < action.stage at after
  omega

/-- What is still to be done comes after what is done now. -/
theorem Prepared.later (prepared : Prepared config process) (next : process.rest = action :: rest)
    {other : Action} (coming : other ∈ rest) : action.stage < other.stage := by
  have place := prepared.place
  rw [next] at place
  exact next_first place coming

theorem Prepared.untouched_after (prepared : Prepared config process) (next : process.rest = action :: rest)
    (performed : Performed config process action after) :
    .copyBackup ∈ rest → after.files = config.files := by
  intro coming
  have before := prepared.later next coming
  have same := prepared.untouched (by simp [next,coming])
  cases performed with
  | quiet => exact same
  | sunPath => exact same
  | disposition => exact same
  | xauthPath => exact same
  | xauthBupPath => exact same
  | bindPort => exact same
  | backup => simp [Action.stage] at before
  | rewrite contents which => rcases which with rfl | rfl <;> simp [Action.stage] at before
  | remove side which =>
    rcases which with ⟨rfl,_⟩ | rfl
    · simp [Action.stage] at before
    · cases side <;> simp [Action.stage] at before
  | bind => simp [Action.stage] at before
  | restore => simp [Action.stage] at before

theorem Prepared.stored_after (prepared : Prepared config process) (next : process.rest = action :: rest)
    (performed : Performed config process action after) :
    config.copyauth = true → .storeXauthPath ∉ rest → after.xauth_path = some config.xauthPath := by
  intro copies gone
  by_cases here : action = .storeXauthPath
  · subst here
    cases performed with
    | quiet _ other => exact absurd rfl other.1
    | xauthPath => rfl
    | rewrite contents which => simp at which
    | remove side which => simp at which
  · have same := prepared.stored copies (by simp [next,gone,Ne.symm here])
    cases performed with
    | remove side which => exact ((process.unlink_only _ _).xauth_path).trans same
    | restore => exact ((process.rename_only _ _).xauth_path).trans same
    | xauthPath => exact absurd rfl here
    | _ => exact same

theorem Prepared.storedBup_after (prepared : Prepared config process) (next : process.rest = action :: rest)
    (performed : Performed config process action after) :
    config.copyauth = true → .storeXauthBupPath ∉ rest →
      after.xauth_bup_path = some config.xauthBupPath := by
  intro copies gone
  by_cases here : action = .storeXauthBupPath
  · subst here
    cases performed with
    | quiet _ other => exact absurd rfl other.2.1
    | xauthBupPath => rfl
    | rewrite contents which => simp at which
    | remove side which => simp at which
  · have same := prepared.storedBup copies (by simp [next,gone,Ne.symm here])
    cases performed with
    | remove side which => exact ((process.unlink_only _ _).xauth_bup_path).trans same
    | restore => exact ((process.rename_only _ _).xauth_bup_path).trans same
    | xauthBupPath => exact absurd rfl here
    | _ => exact same

theorem Prepared.backed_after (prepared : Prepared config process) (next : process.rest = action :: rest)
    (performed : Performed config process action after) :
    config.copyauth = true → .copyBackup ∉ rest → .restoreAuth ∈ rest →
      ∃ file,config.files config.xauthPath = some file ∧ after.files config.xauthBupPath = some file := by
  intro copies gone left
  have before := prepared.later next left
  by_cases here : action = .copyBackup
  · subst here
    have same := prepared.untouched (by simp [next])
    cases performed with
    | quiet silent => cases silent
    | backup file there =>
      rw [same] at there
      exact ⟨file,there,by simp [Process.withFile]⟩
    | rewrite contents which => simp at which
    | remove side which => simp at which
  · obtain ⟨file,there,kept⟩ :=
      prepared.backed copies (by simp [next,gone,Ne.symm here]) (by simp [next,left])
    refine ⟨file,there,?_⟩
    have apart := config.xauthBupPath_other
    cases performed with
    | backup => exact absurd rfl here
    | rewrite contents which => simpa [Process.withFile,apart] using kept
    | remove side which => exact (Process.unlink_files (config.xauthBupPath_sunPath _)).trans kept
    | bind =>
      simpa [Process.withFile,config.xauthBupPath_sunPath .IN] using kept
    | restore => simp [Action.stage] at before
    | _ => exact kept

theorem Prepared.handled_after (prepared : Prepared config process) (next : process.rest = action :: rest)
    (performed : Performed config process action after) :
    (config.unix .OUT || config.unix .IN) = true →
      ∀ sig,.sigaction sig .handleTerminatingSignal ∉ rest →
        (config.prefetchatoms = true → .sigaction sig .showCursor ∈ rest) →
          after.disposition sig = .handleTerminatingSignal := by
  intro unix sig gone fetching
  by_cases here : ∃ disposition, action = .sigaction sig disposition
  · obtain ⟨disposition,rfl⟩ := here
    have place : .sigaction sig disposition ∈ config.actions := prepared.place.subset (by simp [next])
    cases disposition with
    | handleTerminatingSignal =>
      cases performed with
      | quiet _ other => exact absurd rfl (other.2.2 _ _)
      | disposition => simp
      | rewrite contents which => simp at which
      | remove side which => simp at which
    | showCursor =>
      have before := prepared.later next (fetching (cursor_prefetches place))
      omega
    | SIG_DFL =>
      have before := prepared.later next (fetching (default_prefetches place))
      cases sig <;> simp [Action.stage] at before
  · have same := prepared.handled unix sig (by
      simp only [next,List.mem_cons,not_or]
      exact ⟨fun same => here ⟨_,same.symm⟩,gone⟩) (fun fetch => by simp [next,fetching fetch])
    cases performed with
    | disposition other disposition =>
      have different : sig ≠ other := by
        rintro rfl
        exact here ⟨_,rfl⟩
      simpa [different] using same
    | remove side which => exact (congrFun (process.unlink_only _ _).disposition sig).trans same
    | restore => exact (congrFun (process.rename_only _ _).disposition sig).trans same
    | _ => exact same

theorem Prepared.sun_after (prepared : Prepared config process)
    (performed : Performed config process action after) :
    ∀ side path,after.sun_path side = some path → path = config.sunPath side := by
  intro side path stored
  cases performed with
  | sunPath other =>
    simp only at stored
    split at stored
    · rename_i same
      cases stored
      rw [same]
    · exact prepared.sun side path stored
  | remove other which =>
    rw [(process.unlink_only _ _).sun_path] at stored
    exact prepared.sun side path stored
  | restore =>
    rw [(process.rename_only _ _).sun_path] at stored
    exact prepared.sun side path stored
  | _ => exact prepared.sun side path stored

/-- The last step puts the authority file back. -/
theorem Prepared.finished_after (prepared : Prepared config process) (next : process.rest = [action])
    (performed : Performed config process action after) :
    config.copyauth = true → after.files config.xauthPath = config.files config.xauthPath := by
  intro copies
  have place := prepared.place
  rw [next] at place
  have last : action = .restoreAuth := by
    have left := restoring_left copies place (by simp)
    simpa [eq_comm] using left
  subst last
  obtain ⟨file,there,kept⟩ := prepared.backed copies (by simp [next]) (by simp [next])
  cases performed with
  | quiet silent => cases silent
  | rewrite contents which => simp at which
  | remove side which => simp at which
  | restore other found => exact (Process.rename_target kept).trans there.symm

theorem Prepared.perform (prepared : Prepared config process) (next : process.rest = action :: rest)
    (performed : Performed config process action after) : Prepared config { after with rest } := by
  have place := prepared.place
  rw [next] at place
  have untouched := prepared.untouched_after next performed
  have stored := prepared.stored_after next performed
  have storedBup := prepared.storedBup_after next performed
  have backed := prepared.backed_after next performed
  have handled := prepared.handled_after next performed
  have sun := prepared.sun_after performed
  refine ⟨(List.suffix_cons action rest).trans place,untouched,stored,storedBup,backed,handled,sun,?_⟩
  rintro copies rfl
  have finished := prepared.finished_after next performed
  exact finished copies

/-- The handler puts the authority file back when there is a backup it knows of. -/
theorem Prepared.handler (prepared : Prepared config process) {file : File}
    (path : process.xauth_path = some config.xauthPath)
    (bup : process.xauth_bup_path = some config.xauthBupPath)
    (kept : process.files config.xauthBupPath = some file) :
    (process.handleTerminatingSignal stuck).files config.xauthPath = some file := by
  have first := process.unlinkStored_only stuck .IN
  have second := (process.unlinkStored stuck .IN).unlinkStored_only stuck .OUT
  have both := first.trans second
  have there : ((process.unlinkStored stuck .IN).unlinkStored stuck .OUT).files
      config.xauthBupPath = some file := by
    rw [Process.unlinkStored_files,Process.unlinkStored_files,kept]
    · intro path stored
      rw [prepared.sun .IN path stored]
      exact config.xauthBupPath_sunPath .IN
    · intro path stored
      rw [first.sun_path] at stored
      rw [prepared.sun .OUT path stored]
      exact config.xauthBupPath_sunPath .OUT
  rw [Process.handleTerminatingSignal,Process.renameStored,both.xauth_path,both.xauth_bup_path,
    path,bup]
  exact Process.rename_target there

/-- `_copyAuthentication` has been executed. -/
def Copied (config : Config) (process : Process) : Prop :=
  config.copyauth = true ∧ .writeAuth ∉ process.rest

/-- The handler that cleans up is set for a signal: some display is a Unix socket, and
`_fetchInternedAtoms`, if it is called, has not yet set its own. -/
def Guarded (config : Config) (process : Process) (sig : Signal) : Prop :=
  (config.unix .OUT || config.unix .IN) = true ∧
    (config.prefetchatoms = true → .sigaction sig .showCursor ∈ process.rest)

/-- Once the file has been rewritten, the process does not exit, and is only ended by a
signal whose handler cleans up. -/
def Restoring (config : Config) (process : Process) (label : Label) : Prop :=
  Copied config process →
    match label with
    | .done => True
    | .exit => False
    | .abort _ => Guarded config process .SIGABRT
    | .signal sig _ => Guarded config process sig

/-- What is there once the file has been rewritten. -/
theorem Prepared.copied (prepared : Prepared config process) (copied : Copied config process)
    (left : process.rest ≠ []) : process.xauth_path = some config.xauthPath ∧
      process.xauth_bup_path = some config.xauthBupPath ∧
      (∃ file, config.files config.xauthPath = some file ∧
        process.files config.xauthBupPath = some file) ∧
      ∀ sig, Guarded config process sig → process.disposition sig = .handleTerminatingSignal := by
  obtain ⟨copies,written⟩ := copied
  have gone {action : Action} (early : action.stage < 13) : action ∉ process.rest := by
    intro there
    have before := passed prepared.place
      (copying_there copies (by simp [copyAuthentication] : Action.writeAuth ∈ copyAuthentication))
      written there
    change 13 < action.stage at before
    omega
  refine ⟨prepared.stored copies (gone (by decide)),prepared.storedBup copies (gone (by decide)),
    prepared.backed copies (gone (by decide)) (restoring_left copies prepared.place left),?_⟩
  rintro sig ⟨unix,fetching⟩
  exact prepared.handled unix sig (gone (by cases sig <;> decide)) fetching

theorem Prepared.deliver (prepared : Prepared config process) (copied : Copied config process)
    (left : process.rest ≠ []) (set : process.disposition sig = .handleTerminatingSignal) :
    (process.deliver sig stuck).files config.xauthPath = config.files config.xauthPath := by
  obtain ⟨path,bup,⟨file,there,kept⟩,_⟩ := prepared.copied copied left
  have ended : Prepared config
      { process with ending := some (.killed sig (process.disposition sig)) } :=
    ⟨prepared.place,prepared.untouched,prepared.stored,prepared.storedBup,prepared.backed,
      prepared.handled,prepared.sun,prepared.finished⟩
  rw [Process.deliver,set,there]
  rw [set] at ended
  exact ended.handler path bup kept

theorem handler_only (process : Process) (stuck : List Path) :
    Process.FilesOnly process (process.handleTerminatingSignal stuck) := by
  refine ((process.unlinkStored_only stuck .IN).trans
    ((process.unlinkStored stuck .IN).unlinkStored_only stuck .OUT)).trans ?_
  unfold Process.handleTerminatingSignal Process.renameStored
  split
  · exact Process.rename_only _ _ _
  · exact .refl _

theorem deliver_ending (process : Process) (sig : Signal) (stuck : List Path) :
    (process.deliver sig stuck).ending = some (.killed sig (process.disposition sig)) ∧
      (process.deliver sig stuck).rest = process.rest := by
  unfold Process.deliver
  cases set : process.disposition sig with
  | handleTerminatingSignal =>
    have only := handler_only { process with ending := some (.killed sig .handleTerminatingSignal) }
      stuck
    exact ⟨only.ending,only.rest⟩
  | showCursor => exact ⟨rfl,rfl⟩
  | SIG_DFL => exact ⟨rfl,rfl⟩

/-- What one step of a process that still runs does. -/
inductive Stepped (config : Config) (process : Process) : Label → Process → Prop
  | done {action : Action} {rest : List Action} {after : Process} (next : process.rest = action :: rest)
      (performed : Performed config process action after) :
      Stepped config process .done { after with rest }
  | exit {action : Action} {rest : List Action} (next : process.rest = action :: rest)
      (exits : action.exits = true) :
      Stepped config process .exit { process with ending := some .exited }
  | abort {action : Action} {rest : List Action} (next : process.rest = action :: rest)
      (stuck : List Path) (aborts : action.aborts = true) :
      Stepped config process (.abort stuck) (process.deliver .SIGABRT stuck)
  | signal (sig : Signal) (stuck : List Path) (next : process.rest ≠ []) :
      Stepped config process (.signal sig stuck) (process.deliver sig stuck)

theorem step_case (taken : process.step config label = some after) :
    process.ending = none ∧ Stepped config process label after := by
  unfold Process.step at taken
  split at taken
  · rename_i action rest running next
    refine ⟨running,?_⟩
    cases label with
    | done =>
      obtain ⟨middle,done,rfl⟩ := Option.map_eq_some_iff.mp taken
      exact .done next (perform_case done)
    | exit =>
      simp only [Option.ite_none_right_eq_some] at taken
      obtain ⟨exits,same⟩ := taken
      cases same
      exact .exit next exits
    | abort stuck =>
      simp only [Option.ite_none_right_eq_some] at taken
      obtain ⟨aborts,same⟩ := taken
      cases same
      exact .abort next stuck aborts
    | signal sig stuck =>
      cases taken
      exact .signal sig stuck (by simp [next])
  · cases taken

theorem Performed.running (performed : Performed config process action after) :
    after.ending = process.ending := by
  cases performed with
  | remove side which => exact (process.unlink_only _ _).ending
  | restore => exact (process.rename_only _ _).ending
  | _ => rfl

/-- A running process is prepared, and one that has ended has put the file back. -/
def Recoverable (config : Config) (process : Process) : Prop :=
  (process.ending = none → Prepared config process) ∧
    (process.ending ≠ none → Copied config process →
      process.files config.xauthPath = config.files config.xauthPath)

theorem Recoverable.step (recoverable : Recoverable config process)
    (restoring : Restoring config process label) (taken : process.step config label = some after) :
    Recoverable config after := by
  obtain ⟨running,stepped⟩ := step_case taken
  have prepared := recoverable.1 running
  cases stepped with
  | done next performed =>
    have still := performed.running.trans running
    exact ⟨fun _ => prepared.perform next performed,fun finished => absurd still finished⟩
  | exit next exits =>
    refine ⟨fun none => ?_,fun _ copied => ?_⟩
    · cases none
    · exact absurd (restoring copied) id
  | abort next stuck aborts =>
    obtain ⟨ended,rest⟩ := deliver_ending process .SIGABRT stuck
    refine ⟨fun none => ?_,fun _ copied => ?_⟩
    · simp [ended] at none
    · rw [Copied,rest] at copied
      obtain ⟨_,_,_,set⟩ := prepared.copied copied (by simp [next])
      exact prepared.deliver copied (by simp [next]) (set _ (restoring copied))
  | signal sig stuck next =>
    obtain ⟨ended,rest⟩ := deliver_ending process sig stuck
    refine ⟨fun none => ?_,fun _ copied => ?_⟩
    · simp [ended] at none
    · rw [Copied,rest] at copied
      obtain ⟨_,_,_,set⟩ := prepared.copied copied next
      exact prepared.deliver copied next (set _ (restoring copied))

theorem authority_restored (config : Config) (process : Process)
    (reached : Reached config (Restoring config) process) (copied : Copied config process)
    (finished : process.Over) : process.files config.xauthPath = config.files config.xauthPath := by
  have recoverable : Recoverable config process := by
    refine Runs.Reached.invariant (Recoverable config) ?_ ?_ reached
    · rintro _ rfl
      exact ⟨fun _ => Prepared.initial config,fun finished => absurd rfl finished⟩
    · intro before label next recoverable restoring taken
      exact recoverable.step restoring taken
  by_cases running : process.ending = none
  · rcases finished with ended | empty
    · exact absurd running ended
    · exact (recoverable.1 running).finished copied.1 empty
  · exact recoverable.2 running copied

instance (config : Config) (process : Process) : Decidable (Copied config process) :=
  inferInstanceAs (Decidable (_ ∧ _))

instance (config : Config) (process : Process) (sig : Signal) :
    Decidable (Guarded config process sig) :=
  inferInstanceAs (Decidable (_ ∧ (_ → _)))

instance (config : Config) (process : Process) (label : Label) :
    Decidable (Restoring config process label) :=
  match label with
  | .done => inferInstanceAs (Decidable (_ → True))
  | .exit => inferInstanceAs (Decidable (_ → False))
  | .abort _ => inferInstanceAs (Decidable (_ → Guarded _ _ _))
  | .signal _ _ => inferInstanceAs (Decidable (_ → Guarded _ _ _))

instance (process : Process) : Decidable process.Over :=
  inferInstanceAs (Decidable (_ ∨ _))

/-- Following labels from the start, and a check of the process they lead to. -/
theorem replayed (config : Config) (allowed : Process → Label → Prop)
    [∀ process label, Decidable (allowed process label)] (holds : Process → Prop)
    [DecidablePred holds] (labels : List Label)
    (checked : (replay (fun process label =>
        (process.step config label).elim (Except.error ()) Except.ok) allowed
      (Process.initial config) labels).any (fun last => decide (holds last)) = true) :
    ∃ process, Reached config allowed process ∧ holds process :=
  replay_possible holds labels _ rfl checked

/-- The displays :0 and :9, as Unix sockets or not, with an authority file that is copied. -/
def sample (unix prefetchatoms : Bool) : Config where
  outOption := none
  inOption := none
  DISPLAY := some [':','0']
  PROXYDISPLAY := none
  displayInfo side _ := match side with
    | .OUT => ⟨unix,['0'],List.forall_mem_singleton.mpr rfl⟩
    | .IN => ⟨unix,['9'],List.forall_mem_singleton.mpr rfl⟩
  copyauth := true
  systemtimeformat := false
  prefetchatoms
  subcmd_argc := 0
  xauthPath := ['a']
  entries := [2]
  files path := if path = ['a'] then some (.regular [1])
    else if path = unixSocketPathPrefix ++ ['0'] then some .socket else none

/-- As `sample`, with the server on a TCP display. -/
def remoteSample : Config :=
  { sample true false with
    displayInfo := fun side _ =>
      if side = .OUT then ⟨false,['0'],List.forall_mem_singleton.mpr rfl⟩
      else ⟨true,['9'],List.forall_mem_singleton.mpr rfl⟩ }

theorem authority_restored_interrupt : ∃ process : Process,
    process.ending = some (.killed .SIGINT .handleTerminatingSignal) ∧
      process.files ['a'] = some (.regular [1]) := by
  obtain ⟨process,reached,copied,ending⟩ := replayed (sample true false)
    (Restoring (sample true false))
    (fun process => Copied (sample true false) process ∧
      process.ending = some (.killed .SIGINT .handleTerminatingSignal))
    (List.replicate 18 .done ++ [.signal .SIGINT []]) (by decide +kernel)
  have finished : process.Over := .inl (by simp [ending])
  exact ⟨process,ending,authority_restored (sample true false) process reached copied finished⟩

/-- TCP displays and an interrupt, an exit where the listener is bound, an interrupt after
atoms have been fetched. -/
theorem authority_left_rewritten :
    (∃ process, Reached (sample false false) (fun _ _ => True) process ∧
      Copied (sample false false) process ∧
        process.ending = some (.killed .SIGINT .SIG_DFL) ∧ process.files ['a'] = some (.regular [2])) ∧
    (∃ process, Reached (sample true false) (fun _ _ => True) process ∧
      Copied (sample true false) process ∧
        process.ending = some .exited ∧ process.files ['a'] = some (.regular [2])) ∧
    ∃ process, Reached (sample true true) (fun _ _ => True) process ∧
      Copied (sample true true) process ∧
        process.ending = some (.killed .SIGTERM .SIG_DFL) ∧ process.files ['a'] = some (.regular [2]) := by
  refine ⟨replayed _ (fun _ _ => True) _ (List.replicate 12 .done ++ [.signal .SIGINT []]) ?_,
    replayed _ (fun _ _ => True) _ (List.replicate 16 .done ++ [.exit]) ?_,
    replayed _ (fun _ _ => True) _ (List.replicate 29 .done ++ [.signal .SIGTERM []]) ?_⟩
  all_goals decide +kernel

end Shutdown
end Xtracepp
