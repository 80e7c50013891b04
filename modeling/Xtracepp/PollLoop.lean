import Xtracepp.Forwarding

/-! The loop of `_processClientQueue`: `_updatePollFlags`, `poll` and `_processPolledSockets`. One pass
takes each connection once, in any order, and closes connections only at its end. Every pass is a
run of the transition system.
-/
namespace Xtracepp
open Library Library.Outcome Library.Runs

/-- `revents` of one socket, and what `recv` or `send` gives on it. -/
structure Polled where
  readable : Bool
  writable : Bool
  failed : Bool
  recv : RecvResult
  send : SendResult

/-- A connection after its turn, or that it is to be closed. The parser belongs to all of them. -/
inductive Turn
  | kept (parser : X11ProtocolParser) (conn : Connection)
  | closed (parser : X11ProtocolParser)

/-- The branches for the socket of the sender of a direction. -/
def processSocket (settings : Settings) (direction : Direction) (fuel : Nat)
    (parser : X11ProtocolParser) (conn : Connection) (polled : Polled) : Checked (Option Turn) :=
  if polled.readable then do
    match ← readFrom direction conn polled.recv with
    | none => return some (.closed parser)
    | some conn => do
      match ← logMessages settings direction fuel parser conn with
      | none => return none
      | some outcome =>
        if outcome.parseError.isSome then return some (.closed outcome.parser)
        else return some (.kept outcome.parser outcome.conn)
  else if polled.writable && (conn.buffer direction.opposite).writeReady then do
    match ← writeTo settings direction.opposite conn polled.send with
    | none => return some (.closed parser)
    | some conn => return some (.kept parser conn)
  else if polled.failed then return some (.closed parser)
  else return some (.kept parser conn)

/-- The body of the loop over `_connections`. -/
def processConnection (settings : Settings) (fuel : Nat) (parser : X11ProtocolParser)
    (conn : Connection) (client server : Polled) : Checked (Option Turn) := do
  match ← processSocket settings .clientToServer fuel parser conn client with
  | some (.kept parser conn) => processSocket settings .serverToClient fuel parser conn server
  | other => return other

/-- What the socket that is listened on gives: a client with a server, a client for which
`_acceptClient` or `_connectToServer` failed, or nothing. -/
inductive Listener
  | opened
  | failed
  | quiet

/-- What a call of `poll` gives, and the order in which the connections are gone through. -/
structure Poll where
  order : List Nat
  client : Nat → Polled
  server : Nat → Polled
  listener : Listener

namespace Proxy

def withTurn (proxy : Proxy) (id : Nat) : Turn → Proxy
  | .kept parser conn => { proxy.withConnection id (some conn) with parser }
  | .closed parser => { proxy.withConnection id none with parser }

/-- `_updatePollFlags`, as far as it may stop. -/
def updatePollFlags (proxy : Proxy) (order : List Nat) : Checked Unit :=
  match order with
  | [] => return ()
  | id :: rest => do
    match proxy.connections id with
    | none => updatePollFlags proxy rest
    | some conn => do
      let _ ← Xtracepp.updatePollFlags conn
      updatePollFlags proxy rest

/-- The loop over `_connections`, with `conns_to_close`. -/
def processConnections (settings : Settings) (fuel : Nat) (poll : Poll) :
    List Nat → Proxy → Checked (Option (Proxy × List Nat))
  | [],proxy => return some (proxy,[])
  | id :: rest,proxy =>
    match proxy.connections id with
    | none => processConnections settings fuel poll rest proxy
    | some conn => do
      match ← processConnection settings fuel proxy.parser conn (poll.client id) (poll.server id) with
      | none => return none
      | some (.kept parser conn) =>
        processConnections settings fuel poll rest (proxy.withTurn id (.kept parser conn))
      | some (.closed parser) => do
        match ← processConnections settings fuel poll rest { proxy with parser } with
        | none => return none
        | some (proxy,closing) => return some (proxy,id :: closing)

def closeConnections (proxy : Proxy) (ids : List Nat) : Proxy :=
  ids.foldl (fun proxy id => proxy.withConnection id none) proxy

/-- `_openConnection`. The number of a connection that could not be opened is not used again. -/
def openConnection (proxy : Proxy) : Listener → Proxy
  | .opened =>
    let conn := Connection.initial proxy.accepted
    { proxy.withConnection conn.id ((proxy.connections conn.id).or (some conn)) with
      accepted := proxy.accepted + 1 }
  | .failed => { proxy with accepted := proxy.accepted + 1 }
  | .quiet => proxy

/-- One pass of the loop, its calls of `log…Messages` run for at most `fuel` rounds. -/
def pollPass (settings : Settings) (fuel : Nat) (proxy : Proxy) (poll : Poll) :
    Checked (Option Proxy) := do
  proxy.updatePollFlags poll.order
  match ← processConnections settings fuel poll poll.order proxy with
  | none => return none
  | some (proxy,closing) => return some ((proxy.closeConnections closing).openConnection poll.listener)

end Proxy

/-- Steps of the transition system, each of which the poll loop may take. -/
def Proxy.Leads (settings : Settings) : Proxy → Proxy → Prop :=
  Relation.ReflTransGen fun before after =>
    ∃ label : Label,label.Enabled before ∧ before.step settings label = .ok after

/-- `poll` reports what it was asked for, and `recv` and `send` do not exceed their counts. -/
structure Polled.Fits (conn : Connection) (flags : PollFlags) (direction : Direction)
    (polled : Polled) : Prop where
  input : polled.readable = true → flags.input direction = true ∧
    (SocketBuffer.arrived polled.recv).length ≤ (conn.buffer direction).bytesToRead
  output : polled.writable = true → flags.output direction.opposite = true ∧
    polled.send.count ≤ (conn.buffer direction.opposite).bytesParsed

/-- The same, by the buffers that the flags were taken from. -/
structure Polled.Due (conn : Connection) (direction : Direction) (polled : Polled) : Prop where
  input : polled.readable = true → (conn.buffer direction).readReady = true ∧
    (SocketBuffer.arrived polled.recv).length ≤ (conn.buffer direction).bytesToRead
  output : polled.writable = true → (conn.buffer direction.opposite).readReady = false ∧
    polled.send.count ≤ (conn.buffer direction.opposite).bytesParsed

/-- A call of `poll` on the sockets of all open connections. -/
structure Poll.Allowed (proxy : Proxy) (poll : Poll) : Prop where
  once : poll.order.Nodup
  all : ∀ id,id ∈ poll.order ↔ (proxy.connections id).isSome = true
  fits : ∀ id conn flags,proxy.connections id = some conn → updatePollFlags conn = .ok flags →
    (poll.client id).Fits conn flags .clientToServer ∧ (poll.server id).Fits conn flags .serverToClient

variable {settings : Settings} {direction : Direction} {fuel : Nat} {parser : X11ProtocolParser}
  {proxy after : Proxy} {id : Nat} {conn : Connection} {polled : Polled}

namespace Proxy

theorem withConnection_same (proxy : Proxy) (id : Nat) :
    proxy.withConnection id (proxy.connections id) = proxy := by
  unfold withConnection
  congr
  ext1 other
  split
  · rename_i here
    rw [here]
  · rfl

theorem withConnection_here (proxy : Proxy) (id : Nat) (conn : Option Connection) :
    (proxy.withConnection id conn).connections id = conn := if_pos rfl

theorem withTurn_again (proxy : Proxy) (id : Nat) (next : Option Connection)
    (parser : X11ProtocolParser) (loop : Option Loop) (turn : Turn) :
    { ({ proxy.withConnection id next with parser, loop } : Proxy).withTurn id turn with
      loop := none } = { proxy.withTurn id turn with loop := none } := by
  have again (conn : Option Connection) : (fun other => if other = id then conn else
      if other = id then next else proxy.connections other) =
        fun other => if other = id then conn else proxy.connections other := by
    ext1 other
    split <;> rfl
  cases turn with
  | kept last conn => simp only [withTurn,withConnection,again]
  | closed last => simp only [withTurn,withConnection,again]

theorem withTurn_idle (idle : proxy.loop = none) (id : Nat) (turn : Turn) :
    { proxy.withTurn id turn with loop := none } = proxy.withTurn id turn := by
  cases turn <;> simp only [withTurn,withConnection,idle]

theorem closeConnection_turn (idle : proxy.loop = none) (id : Nat) :
    proxy.closeConnection id = proxy.withTurn id (.closed proxy.parser) := by
  simp only [closeConnection,withTurn,withConnection,idle]

theorem withTurn_last (proxy : Proxy) (id : Nat) (first last : Turn) :
    (proxy.withTurn id first).withTurn id last = proxy.withTurn id last := by
  have again (next conn : Option Connection) : (fun other => if other = id then conn else
      if other = id then next else proxy.connections other) =
        fun other => if other = id then conn else proxy.connections other := by
    ext1 other
    split <;> rfl
  cases first <;> cases last <;> simp only [withTurn,withConnection,again]

theorem withTurn_other (proxy : Proxy) {id other : Nat} (different : other ≠ id) (turn : Turn) :
    (proxy.withTurn id turn).connections other = proxy.connections other := by
  cases turn <;> exact if_neg different

end Proxy

/-- How a call of `log…Messages` ends the turn of a connection. -/
def Outcome.turn (outcome : Outcome) : Turn :=
  if outcome.parseError.isSome then .closed outcome.parser else .kept outcome.parser outcome.conn

theorem messageLoop_leads {data total : Nat} {outcome : Outcome}
    (present : proxy.connections id = some conn) (parsed : proxy.parser = parser)
    (started : proxy.loop = some ⟨id,direction,data⟩)
    (ran : messageLoop settings direction fuel parser conn data total = .ok (some outcome)) :
    proxy.Leads settings { proxy.withTurn id outcome.turn with loop := none } := by
  induction fuel generalizing proxy parser conn data total with
  | zero => cases ran
  | succ fuel ih =>
    subst parsed
    obtain ⟨round,rounded,ran⟩ := bind_success ran
    have enabled : Label.round.Enabled proxy := by
      intro idle
      rw [started] at idle
      cases idle
    cases round with
    | finished next =>
      cases ran
      refine .single ⟨.round,enabled,?_⟩
      simp only [Proxy.step,started,present,rounded]
      rfl
    | refused text =>
      cases ran
      refine .single ⟨.round,enabled,?_⟩
      simp only [Proxy.step,started,present,rounded]
      rfl
    | handled handler logged =>
      have stepped : proxy.step settings .round = .ok { proxy.withConnection id (some logged.conn) with
          parser := logged.parser
          loop := some ⟨id,direction,data + logged.bytesParsed⟩ } := by
        simp only [Proxy.step,started,present,rounded]
        rfl
      refine .head ⟨.round,enabled,stepped⟩ ?_
      rw [← proxy.withTurn_again id (some logged.conn) logged.parser
        (some ⟨id,direction,data + logged.bytesParsed⟩)]
      exact ih (Proxy.withConnection_here _ _ _) rfl rfl ran

theorem processSocket_leads {turn : Turn} (idle : proxy.loop = none)
    (present : proxy.connections id = some conn) (due : polled.Due conn direction)
    (ran : processSocket settings direction fuel proxy.parser conn polled = .ok (some turn)) :
    proxy.Leads settings (proxy.withTurn id turn) := by
  unfold processSocket at ran
  split at ran
  · rename_i asked
    obtain ⟨ready,short⟩ := due.input asked
    have enabled : (Label.receive id direction polled.recv).Enabled proxy :=
      ⟨idle,conn,present,ready,short⟩
    obtain ⟨read,received,ran⟩ := bind_success ran
    cases read with
    | none =>
      cases ran
      refine .single ⟨_,enabled,?_⟩
      simp only [Proxy.step,present,received]
      exact congrArg Except.ok (Proxy.closeConnection_turn idle id)
    | some next =>
      obtain ⟨logged,ran_,ran⟩ := bind_success ran
      cases logged with
      | none => cases ran
      | some outcome =>
        have ended : turn = outcome.turn := by
          unfold Outcome.turn
          dsimp only at ran
          split at ran
          · rename_i refused
            cases ran
            rw [if_pos refused]
          · rename_i whole
            cases ran
            rw [if_neg whole]
        have stepped : proxy.step settings (.receive id direction polled.recv) =
            .ok { proxy.withConnection id (some next) with
              loop := some ⟨id,direction,(next.buffer direction).data⟩ } := by
          simp only [Proxy.step,present,received]
          rfl
        refine .head ⟨_,enabled,stepped⟩ ?_
        rw [ended,← Proxy.withTurn_idle idle,← proxy.withTurn_again id (some next) proxy.parser
          (some ⟨id,direction,(next.buffer direction).data⟩)]
        exact messageLoop_leads (Proxy.withConnection_here _ _ _) rfl rfl ran_
  · split at ran
    · rename_i asked
      obtain ⟨asked,ready⟩ := Bool.and_eq_true_iff.mp asked
      obtain ⟨whole,short⟩ := due.output asked
      have enabled : (Label.send id direction.opposite polled.send).Enabled proxy := by
        refine ⟨idle,conn,present,?_,short⟩
        rw [Connection.polledOutput,whole,ready]
        rfl
      obtain ⟨write,sent,ran⟩ := bind_success ran
      cases write with
      | none =>
        cases ran
        refine .single ⟨_,enabled,?_⟩
        simp only [Proxy.step,present,sent]
        exact congrArg Except.ok (Proxy.closeConnection_turn idle id)
      | some next =>
        cases ran
        refine .single ⟨_,enabled,?_⟩
        simp only [Proxy.step,present,sent]
        rfl
    · split at ran
      · cases ran
        refine .single ⟨.pollError id,⟨idle,by rw [present]; rfl⟩,?_⟩
        exact congrArg Except.ok (Proxy.closeConnection_turn idle id)
      · cases ran
        have same : proxy.withTurn id (.kept proxy.parser conn) = proxy := by
          rw [Proxy.withTurn,← present,Proxy.withConnection_same]
        rw [same]
        exact .refl

theorem messageLoop_other {data total : Nat} {outcome : Outcome}
    (ran : messageLoop settings direction fuel parser conn data total = .ok (some outcome))
    {other : Direction} (different : other ≠ direction) :
    outcome.conn.buffer other = conn.buffer other := by
  induction fuel generalizing parser conn data total with
  | zero => cases ran
  | succ fuel ih =>
    obtain ⟨round,rounded,ran⟩ := bind_success ran
    cases round with
    | finished next =>
      cases ran
      rcases finished_left rounded with same | ⟨messageSz,known,_⟩
      · rw [same]
      · exact known.other _ different
    | refused text =>
      cases ran
      rfl
    | handled handler logged =>
      obtain ⟨next,messageSz,inner,handling⟩ := handled_left rounded
      obtain ⟨buffer,_,left⟩ := handling.left
      rw [ih ran,left,Connection.withBuffer_other _ _ _ different,
        (handOver_effect handling.given).other _ different,handling.known.other _ different]

theorem Direction.opposite_ne (direction : Direction) : direction.opposite ≠ direction := by
  cases direction <;> intro same <;> cases same

/-- A socket that was read from leaves what is to be written to it alone, and the other way about. -/
theorem processSocket_other {left : X11ProtocolParser} {next : Connection}
    (ran : processSocket settings direction fuel parser conn polled = .ok (some (.kept left next))) :
    (polled.readable = true ∧ next.buffer direction.opposite = conn.buffer direction.opposite) ∨
      (polled.readable = false ∧ next.buffer direction = conn.buffer direction ∧
        (polled.writable = false → next = conn)) := by
  have different := direction.opposite_ne
  unfold processSocket at ran
  split at ran
  · rename_i asked
    obtain ⟨read,received,ran⟩ := bind_success ran
    cases read with
    | none => cases ran
    | some appended =>
      obtain ⟨buffer,rfl⟩ := readFrom_left received
      obtain ⟨logged,looped,ran⟩ := bind_success ran
      cases logged with
      | none => cases ran
      | some outcome =>
        dsimp only at ran
        split at ran
        · cases ran
        · cases ran
          exact .inl ⟨asked,(messageLoop_other looped different).trans
            (Connection.withBuffer_other _ _ _ different)⟩
  · rename_i idle
    refine .inr ⟨Bool.eq_false_iff.mpr idle,?_⟩
    split at ran
    · rename_i asked
      obtain ⟨write,sent,ran⟩ := bind_success ran
      cases write with
      | none => cases ran
      | some drained =>
        obtain ⟨buffer,rfl⟩ := writeTo_left sent
        cases ran
        refine ⟨Connection.withBuffer_other _ _ _ (Ne.symm different),?_⟩
        intro unasked
        rw [unasked] at asked
        cases asked
    · split at ran
      · cases ran
      · cases ran
        exact ⟨rfl,fun _ => rfl⟩

theorem Polled.Fits.due {flags : PollFlags} (fits : polled.Fits conn flags direction)
    (flagged : updatePollFlags conn = .ok flags) : polled.Due conn direction := by
  have flag := updatePollFlags_success flagged
  refine ⟨?_,?_⟩
  · intro readable
    obtain ⟨input,short⟩ := fits.input readable
    exact ⟨(flag direction).1.symm.trans input,short⟩
  · intro writable
    obtain ⟨output,short⟩ := fits.output writable
    exact ⟨by simpa using (flag direction.opposite).2.1.symm.trans output,short⟩

/-- The turn of the client's socket leaves the other socket as it was polled: each buffer is either
read into or written from. -/
theorem Polled.Due.second {left : X11ProtocolParser} {next : Connection} {client server : Polled}
    (asked : client.Due conn .clientToServer) (wanted : server.Due conn .serverToClient)
    (ran : processSocket settings .clientToServer fuel parser conn client =
      .ok (some (.kept left next))) : server.Due next .serverToClient := by
  refine ⟨?_,?_⟩
  · intro readable
    obtain ⟨ready,short⟩ := wanted.input readable
    have same : next.buffer .serverToClient = conn.buffer .serverToClient := by
      rcases processSocket_other ran with ⟨_,same⟩ | ⟨_,_,still⟩
      · exact same
      · rw [still]
        by_contra writable
        obtain ⟨full,_⟩ := asked.output (by simpa using writable)
        have full : (conn.buffer .serverToClient).readReady = false := full
        rw [ready] at full
        cases full
    rw [same]
    exact ⟨ready,short⟩
  · intro writable
    obtain ⟨full,short⟩ := wanted.output writable
    have same : next.buffer .clientToServer = conn.buffer .clientToServer := by
      rcases processSocket_other ran with ⟨readable,_⟩ | ⟨_,same,_⟩
      · obtain ⟨ready,_⟩ := asked.input readable
        have full : (conn.buffer .clientToServer).readReady = false := full
        rw [full] at ready
        cases ready
      · exact same
    change (next.buffer .clientToServer).readReady = false ∧
      server.send.count ≤ (next.buffer .clientToServer).bytesParsed
    rw [same]
    exact ⟨full,short⟩

theorem processConnection_leads {turn : Turn} {client server : Polled} (idle : proxy.loop = none)
    (present : proxy.connections id = some conn) (asked : client.Due conn .clientToServer)
    (wanted : server.Due conn .serverToClient)
    (ran : processConnection settings fuel proxy.parser conn client server = .ok (some turn)) :
    proxy.Leads settings (proxy.withTurn id turn) := by
  obtain ⟨first,went,ran⟩ := bind_success ran
  cases first with
  | none => cases ran
  | some first =>
    have led := processSocket_leads idle present asked went
    cases first with
    | closed left =>
      cases ran
      exact led
    | kept left next =>
      refine led.trans ?_
      rw [← proxy.withTurn_last id (.kept left next) turn]
      have still : (proxy.withTurn id (.kept left next)).loop = none := idle
      have here : (proxy.withTurn id (.kept left next)).connections id = some next :=
        Proxy.withConnection_here _ _ _
      exact processSocket_leads still here (asked.second wanted went) ran

namespace Proxy

theorem closeConnections_eq (proxy : Proxy) (ids : List Nat) : proxy.closeConnections ids =
    { proxy with connections := fun other => if other ∈ ids then none else proxy.connections other } := by
  induction ids generalizing proxy with
  | nil => simp [closeConnections]
  | cons id rest ih =>
    rw [closeConnections,List.foldl_cons]
    change (proxy.withConnection id none).closeConnections rest = _
    rw [ih]
    simp only [withConnection,Proxy.mk.injEq,true_and,and_true]
    ext1 other
    by_cases here : other = id
    · subst here
      simp
    · by_cases later : other ∈ rest
      · simp [later]
      · simp [later,here]

theorem updatePollFlags_each {order : List Nat} (flagged : proxy.updatePollFlags order = .ok ())
    {id : Nat} (member : id ∈ order) {conn : Connection} (present : proxy.connections id = some conn) :
    ∃ flags,Xtracepp.updatePollFlags conn = .ok flags := by
  induction order with
  | nil => cases member
  | cons head rest ih =>
    unfold updatePollFlags at flagged
    rcases List.mem_cons.mp member with here | later
    · subst here
      simp only [present] at flagged
      obtain ⟨flags,ok,_⟩ := bind_success flagged
      exact ⟨flags,ok⟩
    · apply ih ?_ later
      cases other : proxy.connections head with
      | none => simpa only [other] using flagged
      | some conn =>
        simp only [other] at flagged
        exact (bind_success flagged).choose_spec.2

/-- The connections that are still to have their turn are as they were polled. -/
def Ready (proxy : Proxy) (poll : Poll) (order : List Nat) : Prop :=
  ∀ id ∈ order,∀ conn,proxy.connections id = some conn →
    (poll.client id).Due conn .clientToServer ∧ (poll.server id).Due conn .serverToClient

/-- Connections that are to be closed are closed at once in the transition system; the turns of the
others do not tell the difference. -/
theorem processConnections_leads {poll : Poll} {order closing gone : List Nat} (once : order.Nodup)
    (apart : ∀ id ∈ order,id ∉ gone) (idle : proxy.loop = none) (ready : proxy.Ready poll order)
    (ran : processConnections settings fuel poll order proxy = .ok (some (after,closing))) :
    (proxy.closeConnections gone).Leads settings (after.closeConnections (gone ++ closing)) ∧
      after.loop = none := by
  induction order generalizing proxy gone closing with
  | nil =>
    cases ran
    rw [List.append_nil]
    exact ⟨.refl,idle⟩
  | cons id rest ih =>
    obtain ⟨alone,single⟩ := List.nodup_cons.mp once
    have outside := apart id (List.mem_cons_self ..)
    have later : ∀ other ∈ rest,other ≠ id ∧ other ∉ gone := by
      intro other member
      refine ⟨?_,apart other (List.mem_cons_of_mem _ member)⟩
      intro same
      exact alone (same ▸ member)
    have remains {next : Proxy}
        (same : ∀ other,other ≠ id → next.connections other = proxy.connections other) :
        next.Ready poll rest := by
      intro other member conn present
      rw [same other (later other member).1] at present
      exact ready other (List.mem_cons_of_mem _ member) conn present
    unfold processConnections at ran
    cases present : proxy.connections id with
    | none =>
      simp only [present] at ran
      exact ih single (fun other member => (later other member).2) idle (remains fun _ _ => rfl) ran
    | some conn =>
      simp only [present] at ran
      obtain ⟨turn,went,ran⟩ := bind_success ran
      obtain ⟨asked,wanted⟩ := ready id (List.mem_cons_self ..) conn present
      have open_ : (proxy.closeConnections gone).connections id = some conn := by
        rw [closeConnections_eq]
        exact (if_neg outside).trans present
      have still : (proxy.closeConnections gone).loop = none := by
        rw [closeConnections_eq]
        exact idle
      have parsed : (proxy.closeConnections gone).parser = proxy.parser := by
        rw [closeConnections_eq]
      cases turn with
      | none => cases ran
      | some turn =>
        rw [← parsed] at went
        have led := processConnection_leads still open_ asked wanted went
        cases turn with
        | kept left next =>
          have moved : (proxy.closeConnections gone).withTurn id (.kept left next) =
              (proxy.withTurn id (.kept left next)).closeConnections gone := by
            simp only [closeConnections_eq,withTurn,withConnection,Proxy.mk.injEq,true_and,and_true]
            ext1 other
            by_cases here : other = id
            · subst here
              simp [outside]
            · simp [here]
          rw [moved] at led
          have waiting : (proxy.withTurn id (.kept left next)).Ready poll rest :=
            remains fun other different => withTurn_other proxy different _
          have quiet : (proxy.withTurn id (.kept left next)).loop = none := idle
          have rest_ := ih single (fun other member => (later other member).2) quiet waiting ran
          exact ⟨led.trans rest_.1,rest_.2⟩
        | closed left =>
          obtain ⟨processed,continued,ran⟩ := bind_success ran
          cases processed with
          | none => cases ran
          | some processed =>
            obtain ⟨next,ids⟩ := processed
            cases ran
            have moved : (proxy.closeConnections gone).withTurn id (.closed left) =
                ({ proxy with parser := left } : Proxy).closeConnections (gone ++ [id]) := by
              simp only [closeConnections_eq,withTurn,withConnection,Proxy.mk.injEq,true_and,and_true]
              ext1 other
              by_cases here : other = id
              · subst here
                simp
              · simp [here]
            rw [moved] at led
            have fresh : ∀ other ∈ rest,other ∉ gone ++ [id] := by
              intro other member inside
              obtain ⟨different,away⟩ := later other member
              rcases List.mem_append.mp inside with old | new_
              · exact away old
              · exact different (List.mem_singleton.mp new_)
            have waiting : ({ proxy with parser := left } : Proxy).Ready poll rest :=
              remains fun _ _ => rfl
            have quiet : ({ proxy with parser := left } : Proxy).loop = none := idle
            have rest_ := ih single fresh quiet waiting continued
            rw [List.append_assoc,List.singleton_append] at rest_
            exact ⟨led.trans rest_.1,rest_.2⟩

theorem openConnection_leads (idle : proxy.loop = none) (listener : Listener) :
    proxy.Leads settings (proxy.openConnection listener) := by
  cases listener with
  | opened => exact .single ⟨.accept,idle,rfl⟩
  | quiet => exact .refl
  | failed =>
    have accepted : proxy.step settings .accept = .ok (proxy.openConnection .opened) := rfl
    cases present : proxy.connections (proxy.accepted % 2^32) with
    | some conn =>
      -- the number is still in use, so that the connection is not stored
      refine .single ⟨.accept,idle,accepted.trans (congrArg Except.ok ?_)⟩
      simp only [openConnection,Connection.initial,present,Option.some_or]
      rw [← present,withConnection_same]
    | none =>
      refine .tail (.single ⟨.accept,idle,accepted⟩)
        ⟨.pollError (proxy.accepted % 2^32),⟨idle,?_⟩,congrArg Except.ok ?_⟩
      · simp only [openConnection,Connection.initial,present,Option.none_or]
        rw [withConnection_here]
        rfl
      · simp only [openConnection,Connection.initial,present,Option.none_or,closeConnection,
          withConnection,idle]
        congr
        ext1 other
        by_cases here : other = proxy.accepted % 2^32
        · rw [here,if_pos rfl,present]
        · rw [if_neg here,if_neg here]

theorem allowed_ready {poll : Poll} (allowed : poll.Allowed proxy)
    (flagged : proxy.updatePollFlags poll.order = .ok ()) : proxy.Ready poll poll.order := by
  intro id member conn present
  obtain ⟨flags,ok⟩ := updatePollFlags_each flagged member present
  obtain ⟨asked,wanted⟩ := allowed.fits id conn flags present ok
  exact ⟨asked.due ok,wanted.due ok⟩

theorem pollPass_leads {poll : Poll} (idle : proxy.loop = none) (allowed : poll.Allowed proxy)
    (ran : proxy.pollPass settings fuel poll = .ok (some after)) :
    proxy.Leads settings after ∧ after.loop = none := by
  obtain ⟨_,flagged,ran⟩ := bind_success ran
  obtain ⟨processed,went,ran⟩ := bind_success ran
  cases processed with
  | none => cases ran
  | some processed =>
    obtain ⟨next,closing⟩ := processed
    cases ran
    have ready := allowed_ready allowed flagged
    have nothing : ∀ id ∈ poll.order,id ∉ ([] : List Nat) := fun _ _ => List.not_mem_nil
    obtain ⟨led,still⟩ := processConnections_leads allowed.once nothing idle ready went
    have closed : (next.closeConnections closing).loop = none := by
      rw [closeConnections_eq]
      exact still
    refine ⟨led.trans (openConnection_leads closed poll.listener),?_⟩
    cases poll.listener <;> exact closed

end Proxy

theorem World.follow {predefined : Nat → Option (List UInt8)} {world : World}
    (reached : World.Reached settings predefined Anyhow world)
    (led : world.proxy.Leads settings after) :
    ∃ next,World.Reached settings predefined Anyhow next ∧ next.proxy = after := by
  induction led with
  | refl => exact ⟨world,reached,rfl⟩
  | @tail middle last _ step ih =>
    obtain ⟨earlier,reached,same⟩ := ih
    obtain ⟨label,enabled,stepped⟩ := step
    rw [← same] at enabled stepped
    refine ⟨⟨last,earlier.record settings label⟩,.next label reached ⟨enabled,trivial⟩ ?_,rfl⟩
    rw [World.Step,World.step,stepped]
    rfl

/-- The states of the proxy between the passes of its poll loop. -/
def Proxy.Polls (settings : Settings) (predefined : Nat → Option (List UInt8)) (fuel : Nat) :
    Proxy → Prop :=
  Runs.Reached (· = Proxy.initial predefined)
    (fun proxy poll after => proxy.pollPass settings fuel poll = .ok (some after))
    fun proxy poll => poll.Allowed proxy

/-- The poll loop refines the transition system: what it comes to between two passes, a run of the
system comes to. -/
theorem pollLoop_reached {predefined : Nat → Option (List UInt8)}
    (polls : proxy.Polls settings predefined fuel) :
    ∃ world,World.Reached settings predefined World.Anyhow world ∧ world.proxy = proxy ∧
      proxy.loop = none := by
  induction polls with
  | start initial =>
    subst initial
    exact ⟨World.initial predefined,.start rfl,rfl,rfl⟩
  | next poll before allowed passed ih =>
    obtain ⟨world,reached,same,idle⟩ := ih
    obtain ⟨led,still⟩ := Proxy.pollPass_leads idle allowed passed
    rw [← same] at led
    obtain ⟨after,reached,same⟩ := World.follow reached led
    exact ⟨after,reached,same,still⟩

/-- A socket on which nothing happens, and one that can be read from. -/
def Polled.quiet : Polled := ⟨false,false,false,.received [],.sent 0⟩
def Polled.reading (bytes : List UInt8) : Polled := ⟨true,false,false,.received bytes,.sent 0⟩

/-- A first client, and what it sends first. -/
def Poll.opening : Poll := ⟨[],fun _ => .quiet,fun _ => .quiet,.opened⟩
def Poll.initiation : Poll := ⟨[0],fun _ => .reading World.bareInitiation,fun _ => .quiet,.quiet⟩

theorem Polls.opened (predefined : Nat → Option (List UInt8)) (fuel : Nat) :
    ((Proxy.initial predefined).openConnection .opened).Polls settings predefined fuel := by
  have allowed : Poll.opening.Allowed (Proxy.initial predefined) := by
    refine ⟨List.nodup_nil,?_,?_⟩
    · intro id
      exact ⟨fun member => absurd member List.not_mem_nil,fun found => by cases found⟩
    · intro id conn flags present
      cases present
  exact .next Poll.opening (.start rfl) allowed rfl

theorem Poll.initiation_allowed (predefined : Nat → Option (List UInt8)) :
    Poll.initiation.Allowed ((Proxy.initial predefined).openConnection .opened) := by
  have only (id : Nat) : ((Proxy.initial predefined).openConnection .opened).connections id =
      if id = 0 then some (Connection.initial 0) else none := rfl
  refine ⟨List.nodup_singleton 0,?_,?_⟩
  · intro id
    rw [only]
    by_cases first : id = 0
    · simp [first,initiation]
    · simp [first,initiation]
  · intro id conn flags present flagged
    rw [only] at present
    split at present
    · cases present
      cases flagged
      have room : (SocketBuffer.arrived (.received World.bareInitiation)).length ≤
          (SocketBuffer.initial 0).bytesToRead := by decide
      refine ⟨⟨fun _ => ⟨rfl,room⟩,?_⟩,⟨?_,?_⟩⟩
      · intro writable
        cases writable
      · intro readable
        cases readable
      · intro writable
        cases writable
    · cases present

/-- The client's Initiation is taken in by the second pass. -/
theorem pollLoop_reached_initiation : ∃ proxy world,
    proxy.Polls World.plainly (fun _ => none) 3 ∧
      (proxy.connections 0).any (fun conn => conn.clientBuffer.bytesParsed = 12) = true ∧
        World.Reached World.plainly (fun _ => none) World.Anyhow world ∧ world.proxy = proxy ∧
          proxy.loop = none := by
  have passed : ∃ after,((Proxy.initial fun _ => none).openConnection .opened).pollPass World.plainly 3
      Poll.initiation = .ok (some after) ∧
        (after.connections 0).any (fun conn => conn.clientBuffer.bytesParsed = 12) = true :=
    ⟨_,rfl,by decide +kernel⟩
  obtain ⟨after,passed,parsed⟩ := passed
  have polls : after.Polls World.plainly (fun _ => none) 3 :=
    .next Poll.initiation (Polls.opened _ _) (Poll.initiation_allowed _) passed
  obtain ⟨world,reached⟩ := pollLoop_reached polls
  exact ⟨after,world,polls,parsed,reached⟩

section endings

/-- Both buffers are sound, and the connection is being set up or open. -/
def Connection.Fit (conn : Connection) : Prop :=
  conn.Live ∧ ∀ direction,(conn.buffer direction).Sound

theorem runHandler_some {data sz : Nat} {handler : Handler} {logged : Logged}
    (ok : runHandler settings parser conn data sz (some handler) = .ok logged) : 0 < sz := by
  cases handler with
  | initiation =>
    have long := (demand_bind_success ok).1
    omega
  | initResponse =>
    obtain ⟨inner,done,_⟩ := bind_success ok
    have long := (demand_bind_success done).1
    omega
  | request =>
    have long := (demand_bind_success ok).1
    omega
  | error =>
    have long := (demand_bind_success ok).1
    omega
  | reply =>
    have long := (demand_bind_success ok).1
    omega
  | event =>
    have long := (demand_bind_success ok).1
    omega

theorem selectHandler_live {data : Nat} {handler : Option Handler} (live : conn.Live)
    (ok : selectHandler direction conn data = .ok handler) : ∃ known,handler = some known := by
  unfold selectHandler at ok
  rcases live with early | opened
  · cases direction <;> simp only [early] at ok <;> cases ok
    · exact ⟨_,rfl⟩
    · exact ⟨_,rfl⟩
  · cases direction with
    | clientToServer =>
      simp only [opened] at ok
      cases ok
      exact ⟨_,rfl⟩
    | serverToClient =>
      simp only [opened] at ok
      obtain ⟨first,_,ok⟩ := bind_success ok
      cases ok
      exact ⟨_,rfl⟩

theorem Handling.some {data messageSz : Nat} {handler : Option Handler} {logged inner : Logged}
    {next : Connection} (live : conn.Live)
    (handling : Handling settings direction parser conn data handler logged next messageSz inner) :
    0 < messageSz := by
  have again : next.Live := by
    unfold Connection.Live
    rw [handling.known.status]
    exact live
  have given := handling.given
  obtain ⟨_,given⟩ := demand_bind_success given
  obtain ⟨selected,chosen,given⟩ := bind_success given
  obtain ⟨ran,runs,given⟩ := bind_success given
  obtain ⟨known,rfl⟩ := selectHandler_live again chosen
  have positive := runHandler_some runs
  rw [handling.known.buffer] at positive
  exact positive

theorem Handling.fit {data messageSz : Nat} {handler : Option Handler} {logged inner : Logged}
    {next : Connection} (fit : conn.Fit) (placed : (conn.buffer direction).data ≤ data)
    (handling : Handling settings direction parser conn data handler logged next messageSz inner) :
    logged.conn.Fit ∧ (logged.conn.buffer direction).data ≤ data + logged.bytesParsed ∧
      (logged.conn.buffer direction).size - (logged.conn.buffer direction).bytesParsed <
        (conn.buffer direction).size - (conn.buffer direction).bytesParsed := by
  obtain ⟨live,sound⟩ := fit
  have positive := handling.some live
  have passed := handling.passed (sound direction) placed
  have effect := handOver_effect handling.given
  obtain ⟨buffer,_,left⟩ := handling.left
  have status : logged.conn.Live := by
    unfold Connection.Live
    rw [left,Connection.withBuffer_status,effect.status,handling.known.status]
    split
    · exact .inr rfl
    · exact live
  have front := passed.front
  have parsed := passed.parsed
  have inside := passed.inside
  have held : (logged.conn.buffer direction).size = (conn.buffer direction).size := by
    have length : (logged.conn.buffer direction).contents.length =
        (conn.buffer direction).contents.length := by
      rcases passed.contents with same | ⟨_,_,changed⟩
      · rw [same]
      · rw [changed,List.length_set]
    rw [passed.sound.contents_length,(sound direction).contents_length] at length
    rw [passed.sound.size_eq,(sound direction).size_eq,length]
  refine ⟨⟨status,?_⟩,?_,?_⟩
  · intro other
    by_cases same : other = direction
    · subst same
      exact passed.sound
    · rw [left,Connection.withBuffer_other _ _ _ same,effect.other _ same,handling.known.other _ same]
      exact sound other
  · rw [front,handling.size]
    omega
  · omega

/-- With more rounds than there are bytes to parse the loop comes to its end. -/
theorem messageLoop_ends {data total : Nat} {result : Option Outcome} (fit : conn.Fit)
    (placed : (conn.buffer direction).data ≤ data)
    (enough : (conn.buffer direction).size - (conn.buffer direction).bytesParsed < fuel)
    (ran : messageLoop settings direction fuel parser conn data total = .ok result) :
    ∃ outcome,result = some outcome ∧ outcome.conn.Fit := by
  induction fuel generalizing parser conn data total with
  | zero => omega
  | succ fuel ih =>
    obtain ⟨round,rounded,ran⟩ := bind_success ran
    cases round with
    | finished next =>
      cases ran
      refine ⟨_,rfl,?_⟩
      rcases finished_left rounded with same | ⟨messageSz,known,_⟩
      · rw [same]
        exact fit
      · refine ⟨?_,?_⟩
        · unfold Connection.Live
          rw [known.status]
          exact fit.1
        · intro other
          by_cases same : other = direction
          · subst same
            rw [known.buffer]
            apply (fit.2 other).resized
            rcases known.origin with ⟨_,still,_⟩ | ⟨_,short,_⟩
            · rw [still]
              exact (fit.2 other).pendingLt
            · omega
          · rw [known.other _ same]
            exact fit.2 other
    | refused text =>
      cases ran
      exact ⟨_,rfl,fit⟩
    | handled handler logged =>
      obtain ⟨next,messageSz,inner,handling⟩ := handled_left rounded
      obtain ⟨fit,placed,less⟩ := handling.fit fit placed
      exact ih fit placed (by omega) ran

theorem processSocket_ends {result : Option Turn} (fit : conn.Fit) (due : polled.Due conn direction)
    (enough : 2^63 ≤ fuel)
    (ran : processSocket settings direction fuel parser conn polled = .ok result) :
    ∃ turn,result = some turn ∧ ∀ left next,turn = .kept left next → next.Fit := by
  obtain ⟨live,sound⟩ := fit
  have stays {buffer : SocketBuffer} {side : Direction} (good : buffer.Sound) :
      (conn.withBuffer side buffer).Fit := by
    refine ⟨?_,?_⟩
    · unfold Connection.Live
      rw [Connection.withBuffer_status]
      exact live
    · intro other
      by_cases same : other = side
      · subst same
        rw [Connection.withBuffer_buffer]
        exact good
      · rw [Connection.withBuffer_other _ _ _ same]
        exact sound other
  unfold processSocket at ran
  split at ran
  · rename_i asked
    obtain ⟨_,short⟩ := due.input asked
    obtain ⟨read,received,ran⟩ := bind_success ran
    cases read with
    | none =>
      cases ran
      exact ⟨_,rfl,fun _ _ same => by cases same⟩
    | some next =>
      obtain ⟨grown,bytes,effect⟩ := readFrom_appended (sound direction) short received
      have good := SocketBuffer.appended_sound effect.sound bytes effect.room
      have fit : next.Fit := by
        rw [effect.left]
        exact stays good
      obtain ⟨logged,looped,ran⟩ := bind_success ran
      have limit := (fit.2 direction).read_lt
      have total := (fit.2 direction).size_eq
      obtain ⟨outcome,rfl,left⟩ := messageLoop_ends fit (Nat.le_refl _) (by omega) looped
      dsimp only at ran
      split at ran
      · cases ran
        exact ⟨_,rfl,fun _ _ same => by cases same⟩
      · cases ran
        refine ⟨_,rfl,?_⟩
        intro last next same
        cases same
        exact left
  · split at ran
    · rename_i asked
      obtain ⟨asked,_⟩ := Bool.and_eq_true_iff.mp asked
      obtain ⟨_,short⟩ := due.output asked
      obtain ⟨write,sent,ran⟩ := bind_success ran
      cases write with
      | none =>
        cases ran
        exact ⟨_,rfl,fun _ _ same => by cases same⟩
      | some next =>
        cases ran
        refine ⟨_,rfl,?_⟩
        intro last after same
        cases same
        obtain ⟨count,effect⟩ := writeTo_success (sound _) short sent
        have part := effect.short
        have bound := (sound direction.opposite).parsed_le
        rw [effect.left]
        apply stays
        split
        · exact SocketBuffer.cleared_sound (sound _)
        · exact SocketBuffer.advanced_sound (sound _) (by omega) (by omega)
    · split at ran
      · cases ran
        exact ⟨_,rfl,fun _ _ same => by cases same⟩
      · cases ran
        refine ⟨_,rfl,?_⟩
        intro last next same
        cases same
        exact ⟨live,sound⟩

theorem processConnection_ends {result : Option Turn} {client server : Polled} (fit : conn.Fit)
    (asked : client.Due conn .clientToServer) (wanted : server.Due conn .serverToClient)
    (enough : 2^63 ≤ fuel)
    (ran : processConnection settings fuel parser conn client server = .ok result) :
    ∃ turn,result = some turn := by
  obtain ⟨first,went,ran⟩ := bind_success ran
  obtain ⟨turn,rfl,kept⟩ := processSocket_ends fit asked enough went
  cases turn with
  | closed left =>
    cases ran
    exact ⟨_,rfl⟩
  | kept left next =>
    obtain ⟨turn,same,_⟩ := processSocket_ends (kept left next rfl) (asked.second wanted went) enough ran
    exact ⟨turn,same⟩

theorem Proxy.processConnections_ends {poll : Poll} {order : List Nat}
    {result : Option (Proxy × List Nat)} (once : order.Nodup)
    (fit : ∀ id ∈ order,∀ conn,proxy.connections id = some conn → conn.Fit)
    (ready : proxy.Ready poll order) (enough : 2^63 ≤ fuel)
    (ran : processConnections settings fuel poll order proxy = .ok result) :
    ∃ processed,result = some processed := by
  induction order generalizing proxy result with
  | nil =>
    cases ran
    exact ⟨_,rfl⟩
  | cons id rest ih =>
    obtain ⟨alone,single⟩ := List.nodup_cons.mp once
    have goes {next : Proxy} {result : Option (Proxy × List Nat)}
        (same : ∀ other ∈ rest,next.connections other = proxy.connections other)
        (ran : processConnections settings fuel poll rest next = .ok result) :
        ∃ processed,result = some processed := by
      apply ih single ?_ ?_ ran
      · intro other member conn present
        rw [same other member] at present
        exact fit other (List.mem_cons_of_mem _ member) conn present
      · intro other member conn present
        rw [same other member] at present
        exact ready other (List.mem_cons_of_mem _ member) conn present
    unfold processConnections at ran
    cases present : proxy.connections id with
    | none =>
      simp only [present] at ran
      exact goes (fun _ _ => rfl) ran
    | some conn =>
      simp only [present] at ran
      obtain ⟨turn,went,ran⟩ := bind_success ran
      obtain ⟨asked,wanted⟩ := ready id (List.mem_cons_self ..) conn present
      obtain ⟨turn,rfl⟩ := processConnection_ends (fit id (List.mem_cons_self ..) conn present) asked
        wanted enough went
      cases turn with
      | kept left next =>
        have same : ∀ other ∈ rest,
            (proxy.withTurn id (.kept left next)).connections other = proxy.connections other := by
          intro other member
          apply withTurn_other
          intro here
          rw [here] at member
          exact alone member
        exact goes same ran
      | closed left =>
        obtain ⟨processed,continued,ran⟩ := bind_success ran
        have same : ∀ other ∈ rest,({ proxy with parser := left } : Proxy).connections other =
            proxy.connections other := fun _ _ => rfl
        obtain ⟨⟨last,ids⟩,rfl⟩ := goes same continued
        cases ran
        exact ⟨_,rfl⟩

theorem reached_fit {predefined : Nat → Option (List UInt8)} {condition : World → Label → Prop}
    {world : World} (reached : World.Reached settings predefined condition world)
    (present : world.proxy.connections id = some conn) : conn.Fit := by
  have found := World.scene_some present
  refine ⟨?_,fun direction => ((World.reached_carried reached found).1 direction).placed.sound⟩
  apply World.scenes_invariant (fun scene => scene.conn.Live) ?_ ?_ reached found
  · intro world _ _
    exact .inl rfl
  · intro world label id scene after _ _ _ _ live step
    cases step with
    | own acting move => exact move.live live
    | elsewhere => exact live

/-- Whatever `poll`, `recv` and `send` give, the next pass comes to an end: the loops over buffered
messages never go on for ever. -/
theorem pollPass_ends {predefined : Nat → Option (List UInt8)}
    (polls : proxy.Polls settings predefined fuel) {poll : Poll} (allowed : poll.Allowed proxy)
    {rounds : Nat} (enough : 2^63 ≤ rounds) : proxy.pollPass settings rounds poll ≠ .ok none := by
  intro stuck
  obtain ⟨world,reached,same,_⟩ := pollLoop_reached polls
  subst same
  obtain ⟨_,flagged,ran⟩ := bind_success stuck
  obtain ⟨processed,went,ran⟩ := bind_success ran
  have fit : ∀ id ∈ poll.order,∀ conn,world.proxy.connections id = some conn → conn.Fit :=
    fun id _ conn present => reached_fit reached present
  obtain ⟨⟨next,closing⟩,rfl⟩ := Proxy.processConnections_ends allowed.once fit
    (Proxy.allowed_ready allowed flagged) enough went
  cases ran

/-- The second pass of that run, with as many rounds as it may need. -/
theorem pollPass_ends_initiation :
    ((Proxy.initial fun _ => none).openConnection .opened).Polls World.plainly (fun _ => none) 3 ∧
      Poll.initiation.Allowed ((Proxy.initial fun _ => none).openConnection .opened) ∧
        ((Proxy.initial fun _ => none).openConnection .opened).pollPass World.plainly (2^63)
          Poll.initiation ≠ .ok none :=
  ⟨Polls.opened _ _,Poll.initiation_allowed _,
    pollPass_ends (Polls.opened _ 3) (Poll.initiation_allowed _) (Nat.le_refl _)⟩

end endings

end Xtracepp
