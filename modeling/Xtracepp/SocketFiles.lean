import Xtracepp.Restoration

/-! The socket files a run removes, against those it has bound, and the file of the
server that DISPLAY names.
-/
namespace Xtracepp
open Library Library.Runs
namespace Shutdown

variable {config : Config} {process after : Process} {action other : Action} {rest : List Action}
  {label : Label} {sig : Signal} {stuck : List Path} {path : Path} {side : Side}

/-- A handler that cleans up would find no socket of another's: nothing is at the path of
the server, and nothing at its own path before it has been bound. -/
def Mine (config : Config) (process : Process) : Prop :=
  (config.unix .OUT = true → process.files (config.sunPath .OUT) = none) ∧
    (.bind ∈ process.rest → process.files (config.sunPath .IN) = none)

/-- Nothing has been removed that the process has still to bind. -/
def Settled (process : Process) : Prop :=
  .removeStale ∉ process.rest → .bind ∈ process.rest → process.unlinked = []

/-- No removal in the destructor fails where SIGABRT has been reset. -/
def Caught (config : Config) (process : Process) : Prop :=
  (∃ side, process.rest.head? = some (.remove side)) → config.copyauth = true →
    config.prefetchatoms = false

/-- The clean-up meets only sockets that the process has bound: the displays differ, the
destructor finds no socket of the server, a handler none that is not its own, and
`_listenForClients` binds what it has removed. -/
def OwnOnly (config : Config) (process : Process) (label : Label) : Prop :=
  (config.unix .OUT = true → config.unix .IN = true →
    config.sunPath .IN ≠ config.sunPath .OUT) ∧
  match label with
  | .done => process.rest.head? = some (.remove .OUT) →
      process.files (config.sunPath .OUT) = none
  | .exit => Settled process
  | .abort _ => Settled process ∧ Caught config process ∧
      (process.disposition .SIGABRT = .handleTerminatingSignal → Mine config process)
  | .signal sig _ => Settled process ∧ (sig = .SIGABRT → Caught config process) ∧
      (process.disposition sig = .handleTerminatingSignal → Mine config process)

section membership

variable (outUnix inUnix copyauth systemtimeformat prefetchatoms subcmd : Bool)

private theorem removeStale_member : .removeStale ∈
    actions outUnix inUnix copyauth systemtimeformat prefetchatoms subcmd → inUnix = true := by
  revert outUnix inUnix copyauth systemtimeformat prefetchatoms subcmd
  decide +kernel

private theorem remove_member (side : Side) : .remove side ∈
    actions outUnix inUnix copyauth systemtimeformat prefetchatoms subcmd →
      (match side with | .IN => inUnix | .OUT => outUnix) = true := by
  cases side <;> revert outUnix inUnix copyauth systemtimeformat prefetchatoms subcmd <;>
    decide +kernel

private theorem storeSunPath_member (side : Side) : .storeSunPath side ∈
    actions outUnix inUnix copyauth systemtimeformat prefetchatoms subcmd →
      (match side with | .IN => inUnix | .OUT => outUnix) = true := by
  cases side <;> revert outUnix inUnix copyauth systemtimeformat prefetchatoms subcmd <;>
    decide +kernel

private theorem copying_member : ∀ action ∈ copyAuthentication,action ∈
    actions outUnix inUnix copyauth systemtimeformat prefetchatoms subcmd → copyauth = true := by
  revert outUnix inUnix copyauth systemtimeformat prefetchatoms subcmd
  decide +kernel

end membership

theorem copying_copies (member : action ∈ copyAuthentication) (there : action ∈ config.actions) :
    config.copyauth = true :=
  copying_member _ _ _ _ _ _ action member there

theorem removeStale_unix (there : .removeStale ∈ config.actions) : config.unix .IN = true :=
  removeStale_member _ _ _ _ _ _ there

theorem remove_unix (there : .remove side ∈ config.actions) : config.unix side = true := by
  have unix := remove_member _ _ _ _ _ _ side there
  cases side <;> exact unix

theorem storeSunPath_unix (there : .storeSunPath side ∈ config.actions) :
    config.unix side = true := by
  have unix := storeSunPath_member _ _ _ _ _ _ side there
  cases side <;> exact unix

theorem bind_there : .bind ∈ config.actions := by
  simp [Config.actions,actions,listenForClients]

/-- What the sockets of a running process are. -/
structure Sockets (config : Config) (process : Process) : Prop where
  prepared : Prepared config process
  stored : ∀ side, process.sun_path side ≠ none → config.unix side = true
  read : config.copyauth = true → .readAuth ∉ process.rest →
    ∃ contents, config.files config.xauthPath = some (.regular contents)
  own : ∀ path ∈ process.unlinked,path ∈ process.bound ∨ path = config.sunPath .IN ∧
    config.unix .IN = true ∧ .removeStale ∉ process.rest ∧ .bind ∈ process.rest
  bound : config.unix .IN = true → .bind ∉ process.rest → config.sunPath .IN ∈ process.bound
  server : config.unix .OUT = true → config.files (config.sunPath .OUT) = some .socket →
    process.files (config.sunPath .OUT) = some .socket

theorem Sockets.initial (config : Config) : Sockets config (Process.initial config) := by
  refine ⟨Prepared.initial config,?_,?_,?_,?_,fun _ there => there⟩
  · intro side stored
    exact absurd rfl stored
  · intro copies gone
    exact absurd (copying_there copies (by simp [copyAuthentication])) gone
  · rintro path ⟨⟩
  · intro _ gone
    exact absurd bind_there gone

theorem unlink_unlinked {target : Path} (member : path ∈ (process.unlink stuck target).unlinked) :
    path = target ∧ process.files target ≠ none ∨ path ∈ process.unlinked := by
  unfold Process.unlink at member
  split at member
  · exact .inr member
  · rename_i there
    rw [not_or] at there
    rcases List.mem_cons.mp member with same | old
    · exact .inl ⟨same,there.1⟩
    · exact .inr old

theorem rename_unlinked (source target : Path) :
    (process.rename source target).unlinked = process.unlinked := by
  unfold Process.rename
  split <;> rfl

/-- What is removed is the process's own, or is still to be bound. -/
theorem Sockets.own_perform (sockets : Sockets config process) (next : process.rest = action :: rest)
    (spared : process.rest.head? = some (.remove .OUT) →
      process.files (config.sunPath .OUT) = none)
    (performed : Performed config process action after) : ∀ path ∈ after.unlinked,
      path ∈ after.bound ∨ path = config.sunPath .IN ∧ config.unix .IN = true ∧
        .removeStale ∉ rest ∧ .bind ∈ rest := by
  have place := sockets.prepared.place
  rw [next] at place
  have here : action ∈ config.actions := place.subset List.mem_cons_self
  have later : ∀ {other}, other ∈ rest → action.stage < other.stage := next_first place
  have old (other : action ≠ .bind) : ∀ path ∈ process.unlinked,path ∈ process.bound ∨
      path = config.sunPath .IN ∧ config.unix .IN = true ∧ .removeStale ∉ rest ∧ .bind ∈ rest := by
    intro path member
    rcases sockets.own path member with own | ⟨same,unix,gone,coming⟩
    · exact .inl own
    · rw [next,List.mem_cons,not_or] at gone
      rw [next,List.mem_cons] at coming
      exact .inr ⟨same,unix,gone.2,coming.resolve_left (Ne.symm other)⟩
  cases performed with
  | quiet silent => exact old (by rintro rfl; cases silent)
  | rewrite contents which => exact old (by rcases which with rfl | rfl <;> simp)
  | bind unix =>
    intro path member
    rcases sockets.own path member with own | ⟨same,_⟩
    · exact .inl (List.mem_cons_of_mem _ own)
    · exact .inl (List.mem_cons.mpr (.inl same))
  | bindPort port =>
    intro path member
    rcases sockets.own path member with own | ⟨_,unix,_⟩
    · exact .inl own
    · simp [port] at unix
  | remove side which =>
    intro path member
    rw [(process.unlink_only _ _).bound]
    rcases unlink_unlinked member with ⟨rfl,there⟩ | member
    · rcases which with ⟨rfl,rfl⟩ | rfl
      · have coming : .bind ∈ Action.removeStale :: rest := by
          by_contra gone
          have before := passed place bind_there gone List.mem_cons_self
          simp [Action.stage] at before
        refine .inr ⟨rfl,removeStale_unix here,fun again => ?_,by simpa using coming⟩
        have before := later again
        omega
      · cases side with
        | IN =>
          refine .inl (sockets.bound (remove_unix here) fun coming => ?_)
          rw [next] at coming
          have before := later (by simpa using coming : Action.bind ∈ rest)
          simp [Action.stage] at before
        | OUT => exact absurd (spared (by simp [next])) there
    · exact old (by rcases which with ⟨rfl,_⟩ | rfl <;> simp) path member
  | restore =>
    intro path member
    rw [rename_unlinked] at member
    rw [(process.rename_only _ _).bound]
    exact old (by simp) path member
  | _ => exact old (by simp)

/-- Once the file is opened for writing it has been read. -/
theorem Sockets.regular (sockets : Sockets config process) (next : process.rest = action :: rest)
    (copies : config.copyauth = true) (after : 10 < action.stage) :
    ∃ contents, config.files config.xauthPath = some (.regular contents) := by
  refine sockets.read copies fun coming => ?_
  have place := sockets.prepared.place
  rw [next] at coming place
  rcases List.mem_cons.mp coming with rfl | left
  · simp [Action.stage] at after
  · have before := next_first place left
    change action.stage < 10 at before
    omega

theorem Sockets.here (sockets : Sockets config process) (next : process.rest = action :: rest) :
    action ∈ config.actions := by
  have place := sockets.prepared.place
  rw [next] at place
  exact place.subset List.mem_cons_self

theorem Sockets.stored_after (sockets : Sockets config process) (next : process.rest = action :: rest)
    (performed : Performed config process action after) :
    ∀ side,after.sun_path side ≠ none → config.unix side = true := by
  have here := sockets.here next
  intro side stored
  cases performed with
  | sunPath other =>
    by_cases same : side = other
    · subst same
      exact storeSunPath_unix here
    · exact sockets.stored side (by simpa [same] using stored)
  | remove other which =>
    rw [(process.unlink_only _ _).sun_path] at stored
    exact sockets.stored side stored
  | restore =>
    rw [(process.rename_only _ _).sun_path] at stored
    exact sockets.stored side stored
  | _ => exact sockets.stored side stored

theorem Sockets.read_after (sockets : Sockets config process) (next : process.rest = action :: rest)
    (performed : Performed config process action after) :
    config.copyauth = true → .readAuth ∉ rest →
      ∃ contents,config.files config.xauthPath = some (.regular contents) := by
  intro copies gone
  by_cases reading : action = .readAuth
  · subst reading
    have coming : .copyBackup ∈ process.rest := by
      by_contra passedBy
      have after := passed sockets.prepared.place
        (copying_there copies (by simp [copyAuthentication] : Action.copyBackup ∈ _)) passedBy
        (by simp [next] : Action.readAuth ∈ process.rest)
      simp [Action.stage] at after
    have same := sockets.prepared.untouched coming
    cases performed with
    | quiet _ _ _ read =>
      rw [← same]
      exact read rfl
    | rewrite contents which => simp at which
    | remove side which => simp at which
  · exact sockets.read copies (by simp [next,gone,Ne.symm reading])

theorem Sockets.bound_after (sockets : Sockets config process) (next : process.rest = action :: rest)
    (performed : Performed config process action after) :
    config.unix .IN = true → .bind ∉ rest → config.sunPath .IN ∈ after.bound := by
  intro unix gone
  cases performed with
  | bind => exact List.mem_cons_self
  | bindPort port => simp [unix] at port
  | remove side which =>
    rw [(process.unlink_only _ _).bound]
    refine sockets.bound unix ?_
    rcases which with ⟨rfl,_⟩ | rfl <;> simp [next,gone]
  | restore =>
    rw [(process.rename_only _ _).bound]
    exact sockets.bound unix (by simp [next,gone])
  | quiet silent =>
    refine sockets.bound unix ?_
    simp only [next,List.mem_cons,not_or]
    refine ⟨?_,gone⟩
    rintro rfl
    cases silent
  | rewrite contents which =>
    refine sockets.bound unix ?_
    rcases which with rfl | rfl <;> simp [next,gone]
  | _ => exact sockets.bound unix (by simp [next,gone])

/-- Where the server has a socket, nothing but its removal takes it away. -/
theorem Sockets.server_after (sockets : Sockets config process) (next : process.rest = action :: rest)
    (own : OwnOnly config process .done) (performed : Performed config process action after) :
    config.unix .OUT = true → config.files (config.sunPath .OUT) = some .socket →
      after.files (config.sunPath .OUT) = some .socket := by
  have here := sockets.here next
  obtain ⟨apart,spared⟩ := own
  intro unix there
  have kept := sockets.server unix there
  have away := config.xauthBupPath_sunPath .OUT
  cases performed with
  | backup => simpa [Process.withFile,away.symm] using kept
  | rewrite contents which =>
    have copies : config.copyauth = true := by
      rcases which with rfl | rfl
      · exact copying_copies (by simp [copyAuthentication]) here
      · exact copying_copies (by simp [copyAuthentication]) here
    obtain ⟨old,regular⟩ := sockets.regular next copies
      (by rcases which with rfl | rfl <;> simp [Action.stage])
    have different : config.sunPath .OUT ≠ config.xauthPath := by
      intro same
      rw [same,regular] at there
      cases there
    simpa [Process.withFile,different] using kept
  | remove side which =>
    rcases which with ⟨rfl,rfl⟩ | rfl
    · exact (Process.unlink_files (apart unix (removeStale_unix here)).symm).trans kept
    · cases side with
      | IN => exact (Process.unlink_files (apart unix (remove_unix here)).symm).trans kept
      | OUT =>
        have none := spared (by simp [next])
        simp [kept] at none
  | bind inUnix => simpa [Process.withFile,(apart unix inUnix).symm] using kept
  | restore =>
    have copies := restoring_copies here
    obtain ⟨old,regular⟩ := sockets.regular next copies (by simp [Action.stage])
    have different : config.sunPath .OUT ≠ config.xauthPath := by
      intro same
      rw [same,regular] at there
      cases there
    exact (Process.rename_files away.symm different).trans kept
  | _ => exact kept

theorem Sockets.perform (sockets : Sockets config process) (next : process.rest = action :: rest)
    (own : OwnOnly config process .done) (performed : Performed config process action after) :
    Sockets config { after with rest } := by
  have stored := sockets.stored_after next performed
  have read := sockets.read_after next performed
  have kept := sockets.own_perform next own.2 performed
  have bound := sockets.bound_after next performed
  have server := sockets.server_after next own performed
  exact ⟨sockets.prepared.perform next performed,stored,read,kept,bound,server⟩

theorem unlinkStored_unlinked (member : path ∈ (process.unlinkStored stuck side).unlinked) :
    process.sun_path side = some path ∧ process.files path ≠ none ∨ path ∈ process.unlinked := by
  unfold Process.unlinkStored at member
  split at member
  · exact .inr member
  · rename_i target stored
    rcases unlink_unlinked member with ⟨rfl,there⟩ | old
    · exact .inl ⟨stored,there⟩
    · exact .inr old

theorem unlinkStored_none (absent : process.files path = none) :
    (process.unlinkStored stuck side).files path = none := by
  unfold Process.unlinkStored Process.unlink
  split
  · exact absent
  · split
    · exact absent
    · simp only [Process.withFile]
      split
      · rfl
      · exact absent

theorem renameStored_unlinked (process : Process) :
    process.renameStored.unlinked = process.unlinked := by
  unfold Process.renameStored
  split
  · exact rename_unlinked _ _
  · rfl

/-- A handler that finds no socket of another's removes only what has been bound. -/
theorem Sockets.handler (sockets : Sockets config process) (mine : Mine config process) :
    ∀ path ∈ (process.handleTerminatingSignal stuck).unlinked,
      path ∈ process.bound ∨ path ∈ process.unlinked := by
  intro path member
  rw [Process.handleTerminatingSignal,renameStored_unlinked] at member
  rcases unlinkStored_unlinked member with ⟨stored,there⟩ | member
  · rw [(process.unlinkStored_only stuck .IN).sun_path] at stored
    have unix := sockets.stored .OUT (by simp [stored])
    rw [sockets.prepared.sun .OUT path stored] at there
    exact absurd (unlinkStored_none (mine.1 unix)) there
  · rcases unlinkStored_unlinked member with ⟨stored,there⟩ | old
    · have unix := sockets.stored .IN (by simp [stored])
      have same := sockets.prepared.sun .IN path stored
      rw [same] at there
      refine .inl ?_
      rw [same]
      exact sockets.bound unix fun coming => there (mine.2 coming)
    · exact .inr old

/-- Where a process ends that removes nothing. -/
theorem Sockets.settled (sockets : Sockets config process) (settled : Settled process) :
    ∀ path ∈ process.unlinked,path ∈ process.bound := by
  intro path member
  rcases sockets.own path member with own | ⟨_,_,gone,coming⟩
  · exact own
  · rw [settled gone coming] at member
    cases member

/-- What the end of a run leaves of the sockets, and of the authority file where the
clean-up has run or a removal in it has failed. -/
structure SocketsKept (config : Config) (process : Process) : Prop where
  own : ∀ path ∈ process.unlinked,path ∈ process.bound
  server : config.unix .OUT = true → config.files (config.sunPath .OUT) = some .socket →
    process.files (config.sunPath .OUT) = some .socket
  restored : Copied config process →
    (∃ sig, process.ending = some (.killed sig .handleTerminatingSignal)) ∨
      (∃ side disposition, process.rest.head? = some (.remove side) ∧
        process.ending = some (.killed .SIGABRT disposition)) ∨
      process.ending = none ∧ process.rest = [] →
    process.files config.xauthPath = config.files config.xauthPath

theorem Sockets.deliver (sockets : Sockets config process) (left : process.rest ≠ [])
    (settled : Settled process) (caught : sig = .SIGABRT → Caught config process)
    (mine : process.disposition sig = .handleTerminatingSignal → Mine config process) :
    SocketsKept config (process.deliver sig stuck) := by
  obtain ⟨ended,rest⟩ := deliver_ending process sig stuck
  by_cases set : process.disposition sig = .handleTerminatingSignal
  · have mine := mine set
    have start : Sockets config
        { process with ending := some (.killed sig .handleTerminatingSignal) } :=
      ⟨⟨sockets.prepared.place,sockets.prepared.untouched,sockets.prepared.stored,
          sockets.prepared.storedBup,sockets.prepared.backed,sockets.prepared.handled,
          sockets.prepared.sun,sockets.prepared.finished⟩,
        sockets.stored,sockets.read,sockets.own,sockets.bound,sockets.server⟩
    refine ⟨?_,?_,?_⟩
    · intro path member
      rw [Process.deliver,set] at member ⊢
      rw [(handler_only _ stuck).bound]
      rcases start.handler mine path member with own | old
      · exact own
      · exact sockets.settled settled path old
    · intro unix there
      have kept := sockets.server unix there
      simp [mine.1 unix] at kept
    · intro copied _
      rw [Copied,rest] at copied
      exact sockets.prepared.deliver copied left set
  · have quiet : process.deliver sig stuck =
        { process with ending := some (.killed sig (process.disposition sig)) } := by
      unfold Process.deliver
      cases disposed : process.disposition sig with
      | handleTerminatingSignal => exact absurd disposed set
      | showCursor => rfl
      | SIG_DFL => rfl
    rw [quiet]
    refine ⟨sockets.settled settled,sockets.server,?_⟩
    rintro copied (⟨other,ending⟩ | ⟨side,disposition,head,ending⟩ | ⟨none,_⟩)
    · simp only [Option.some.injEq,Ending.killed.injEq] at ending
      exact absurd ending.2 set
    · simp only [Option.some.injEq,Ending.killed.injEq] at ending
      obtain ⟨rfl,_⟩ := ending
      obtain ⟨action,rest,next⟩ := List.exists_cons_of_ne_nil left
      have head : process.rest.head? = some (.remove side) := head
      have there : .remove side ∈ config.actions :=
        sockets.prepared.place.subset (List.mem_of_mem_head? head)
      have unix : (config.unix .OUT || config.unix .IN) = true := by
        have unix := remove_unix there
        cases side <;> simp [unix]
      have unfetched := caught rfl ⟨side,head⟩ copied.1
      refine absurd ((sockets.prepared.copied copied left).2.2.2 .SIGABRT ⟨unix,?_⟩) set
      intro fetched
      rw [unfetched] at fetched
      cases fetched
    · cases none

theorem sockets_kept (config : Config) (process : Process)
    (reached : Reached config (OwnOnly config) process) (finished : process.Over) :
    SocketsKept config process := by
  have kept : (process.ending = none → Sockets config process) ∧
      (process.ending ≠ none → SocketsKept config process) := by
    refine Runs.Reached.invariant (fun process => (process.ending = none → Sockets config process) ∧
      (process.ending ≠ none → SocketsKept config process)) ?_ ?_ reached
    · rintro _ rfl
      exact ⟨fun _ => Sockets.initial config,fun finished => absurd rfl finished⟩
    · rintro before label next ⟨running,_⟩ own taken
      obtain ⟨alive,stepped⟩ := step_case taken
      have sockets := running alive
      cases stepped with
      | done head performed =>
        have still := performed.running.trans alive
        exact ⟨fun _ => sockets.perform head own performed,fun finished => absurd still finished⟩
      | exit head exits =>
        refine ⟨fun none => ?_,fun _ => ⟨sockets.settled own.2,sockets.server,?_⟩⟩
        · cases none
        · rintro _ (⟨sig,ending⟩ | ⟨side,disposition,_,ending⟩ | ⟨none,_⟩)
          · cases ending
          · cases ending
          · cases none
      | abort head stuck aborts =>
        obtain ⟨_,settled,caught,mine⟩ := own
        have ended := (deliver_ending before .SIGABRT stuck).1
        exact ⟨fun none => by simp [ended] at none,
          fun _ => sockets.deliver (by simp [head]) settled (fun _ => caught) mine⟩
      | signal sig stuck head =>
        obtain ⟨_,settled,caught,mine⟩ := own
        have ended := (deliver_ending before sig stuck).1
        exact ⟨fun none => by simp [ended] at none,
          fun _ => sockets.deliver head settled caught mine⟩
  by_cases running : process.ending = none
  · have sockets := kept.1 running
    rcases finished with ended | empty
    · exact absurd running ended
    · refine ⟨sockets.settled ?_,sockets.server,fun copied _ =>
        sockets.prepared.finished copied.1 empty⟩
      intro _ coming
      rw [empty] at coming
      cases coming
  · exact kept.2 running

instance (config : Config) (process : Process) : Decidable (Mine config process) :=
  inferInstanceAs (Decidable ((_ → _) ∧ (_ → _)))

instance (process : Process) : Decidable (Settled process) :=
  inferInstanceAs (Decidable (_ → _ → _))

instance (config : Config) (process : Process) : Decidable (Caught config process) :=
  have : Decidable (∃ side, process.rest.head? = some (.remove side)) :=
    decidable_of_iff (process.rest.head? = some (.remove .IN) ∨
      process.rest.head? = some (.remove .OUT)) (by
        constructor
        · rintro (first | second)
          · exact ⟨.IN,first⟩
          · exact ⟨.OUT,second⟩
        · rintro ⟨side,head⟩
          cases side
          · exact .inl head
          · exact .inr head)
  inferInstanceAs (Decidable (_ → _ → _))

instance (config : Config) (process : Process) (label : Label) :
    Decidable (OwnOnly config process label) :=
  match label with
  | .done => inferInstanceAs (Decidable (_ ∧ (_ → _)))
  | .exit => inferInstanceAs (Decidable (_ ∧ Settled process))
  | .abort _ => inferInstanceAs (Decidable (_ ∧ Settled process ∧ Caught config process ∧ (_ → _)))
  | .signal _ _ => inferInstanceAs (Decidable (_ ∧ Settled process ∧ (_ → _) ∧ (_ → _)))

theorem sockets_kept_interrupt :
    (∃ process : Process, process.ending = some (.killed .SIGINT .handleTerminatingSignal) ∧
      process.unlinked = [unixSocketPathPrefix ++ ['9']] ∧
      (∀ path ∈ process.unlinked,path ∈ process.bound) ∧
        process.files ['a'] = some (.regular [1])) ∧
    ∃ process : Process, process.ending = some .exited ∧
      process.files (unixSocketPathPrefix ++ ['0']) = some .socket := by
  obtain ⟨first,reached,copied,ending,unlinked⟩ := replayed remoteSample (OwnOnly remoteSample)
    (fun process => Copied remoteSample process ∧
      process.ending = some (.killed .SIGINT .handleTerminatingSignal) ∧
        process.unlinked = [unixSocketPathPrefix ++ ['9']])
    (List.replicate 17 .done ++ [.signal .SIGINT []]) (by decide +kernel)
  obtain ⟨second,arrived,exited⟩ := replayed (sample true false) (OwnOnly (sample true false))
    (fun process => process.ending = some .exited)
    (List.replicate 18 .done ++ [.exit]) (by decide +kernel)
  have kept := sockets_kept remoteSample first reached (.inl (by simp [ending]))
  have server := (sockets_kept (sample true false) second arrived (.inl (by simp [exited]))).server
  exact ⟨⟨first,ending,unlinked,kept.own,kept.restored copied (.inl ⟨_,ending⟩)⟩,
    second,exited,server rfl rfl⟩

/-- A return from `main` with Unix displays, an interrupt before the listener is bound,
a removal that fails after atoms have been fetched. -/
theorem server_socket_removed :
    (∃ process, Reached (sample true false) (fun _ _ => True) process ∧
      process.ending = none ∧ process.rest = [] ∧
        process.bound = [unixSocketPathPrefix ++ ['9']] ∧
        unixSocketPathPrefix ++ ['0'] ∈ process.unlinked ∧
        process.files (unixSocketPathPrefix ++ ['0']) = none) ∧
    (∃ process, Reached (sample true false) (fun _ _ => True) process ∧
      process.ending = some (.killed .SIGINT .handleTerminatingSignal) ∧ process.bound = [] ∧
        process.unlinked = [unixSocketPathPrefix ++ ['0']]) ∧
    ∃ process, Reached (sample true true) (fun _ _ => True) process ∧
      process.rest.head? = some (.remove .IN) ∧
        process.ending = some (.killed .SIGABRT .SIG_DFL) ∧
        process.files ['a'] = some (.regular [2]) := by
  refine ⟨replayed _ (fun _ _ => True) _ (List.replicate 23 .done) ?_,
    replayed _ (fun _ _ => True) _ (List.replicate 8 .done ++ [.signal .SIGINT []]) ?_,
    replayed _ (fun _ _ => True) _ (List.replicate 31 .done ++ [.abort []]) ?_⟩
  all_goals decide +kernel

end Shutdown
end Xtracepp
