import Xtracepp.ProxyX11Server
import Xtracepp.Library.SortedMap
import Xtracepp.Library.Runs

/-! The poll table of `ProxyX11Server`: the array that `poll` is given, the map from
descriptors to its indices, and the functions that add to both, rebuild both and look
sockets up in them. The kernel hands out any descriptor that is not in use.
-/
namespace Xtracepp
open Library Library.Outcome Library.SortedMap Library.Runs

def POLLIN : UInt16 := 0x01
def POLLPRI : UInt16 := 0x02
def POLLOUT : UInt16 := 0x04
def POLLERR : UInt16 := 0x08
def POLLNVAL : UInt16 := 0x20

/-- `::pollfd`. -/
structure PollFd where
  fd : Int
  events : UInt16
  revents : UInt16
  deriving DecidableEq, Repr

/-- `Connection::_FD_CLOSED`. -/
def fdClosed : Int := -1

/-- A connection with the descriptors of its two sockets. -/
structure Socketed where
  conn : Connection
  clientFd : Int
  serverFd : Int

def Socketed.fds (socketed : Socketed) : List Int := [socketed.clientFd,socketed.serverFd]

/-- The members of `ProxyX11Server` that polling uses, `Connection::_next_id` without
its wrap-around, and the descriptors of the sockets that are open. -/
structure PollServer where
  listenerFd : Int
  pfds : List PollFd
  pfdsIByFd : Entries Int Nat
  connections : List Socketed
  nextId : Nat
  openFds : List Int

/-- What `accept` or `socket` gives, by the descriptors in use: never one of them. -/
structure Grant where
  fd : List Int → Option Int
  fresh : ∀ used granted, fd used = some granted → granted ∉ used

/-- What `_processPolledSockets` finds to do with one socket. -/
inductive Branch
  | read
  | write
  | pollError
  | idle
  deriving DecidableEq, Repr

/-- What `read` and parsing, or `write`, make of a connection in one pass, unless it is
to be closed; its id is constant. -/
structure Act where
  result : Direction → Branch → Connection → Option Connection
  keeps : ∀ direction branch conn after, result direction branch conn = some after →
    after.id = conn.id

namespace PollServer

/-- The element access of a container that throws when there is none. -/
def element {α : Type} (call : String) : Option α → Checked α
  | some value => .ok value
  | none => .error (.outOfRange call)

def pfdsI (server : PollServer) (fd : Int) : Checked Nat :=
  element "_pfds_i_by_fd.at" (find server.pfdsIByFd fd)

/-- `_pfds.at( _pfds_i_by_fd.at( fd ) )`. -/
def pfd (server : PollServer) (fd : Int) : Checked PollFd := do
  let i ← server.pfdsI fd
  element "_pfds.at" server.pfds[i]?

def socketReadReady (server : PollServer) (fd : Int) : Checked Bool := do
  let pfd ← server.pfd fd
  return pfd.revents &&& POLLIN != 0

def socketWriteReady (server : PollServer) (fd : Int) : Checked Bool := do
  let pfd ← server.pfd fd
  return pfd.revents &&& POLLOUT != 0

def socketPollError (server : PollServer) (fd : Int) : Checked (Option String) := do
  let pfd ← server.pfd fd
  return if pfd.revents &&& POLLERR != 0 then some "error condition"
    else if pfd.revents &&& POLLNVAL != 0 then some "invalid fd (not open)"
    else if pfd.revents &&& POLLPRI != 0 then some "exceptional condition"
    else none

/-- An element at the end of the array, and its index in the map. -/
def withSocket (server : PollServer) (fd : Int) (events : UInt16) : PollServer :=
  { server with
    pfds := server.pfds ++ [⟨fd,events,0⟩]
    pfdsIByFd := emplace server.pfdsIByFd fd server.pfds.length }

def addSocketToPoll (server : PollServer) (fd : Int) (events : UInt16) : Checked PollServer := do
  assert "_pfds_i_by_fd.find( fd ) == _pfds_i_by_fd.end()" (find server.pfdsIByFd fd = none)
  return server.withSocket fd events

def setEvents (server : PollServer) (fd : Int) (events : UInt16) : Checked PollServer := do
  let i ← server.pfdsI fd
  let pfd ← element "_pfds.at" server.pfds[i]?
  return { server with pfds := server.pfds.set i { pfd with events } }

def polledEvents (input output : Bool) : UInt16 :=
  POLLPRI ||| (if input then POLLIN else 0) ||| (if output then POLLOUT else 0)

/-- The body of the loop of `_updatePollFlags`. -/
def updateFlags (server : PollServer) (socketed : Socketed) : Checked PollServer := do
  let _ ← server.pfd socketed.clientFd
  let _ ← server.pfd socketed.serverFd
  let flags ← Xtracepp.updatePollFlags socketed.conn
  let server ← server.setEvents socketed.clientFd (polledEvents flags.clientIn flags.clientOut)
  server.setEvents socketed.serverFd (polledEvents flags.serverIn flags.serverOut)

def updatePollFlags (server : PollServer) : Checked PollServer :=
  server.connections.foldlM updateFlags server

/-- What `poll` writes. -/
def polled (server : PollServer) (revents : Int → UInt16) : PollServer :=
  { server with pfds := server.pfds.map fun pfd => { pfd with revents := revents pfd.fd } }

def branch (server : PollServer) (fd : Int) (writeReady : Bool) : Checked Branch := do
  if ← server.socketReadReady fd then return .read
  else if (← server.socketWriteReady fd) && writeReady then return .write
  else
    match ← server.socketPollError fd with
    | some _ => return .pollError
    | none => return .idle

def takeBranch (act : Act) (direction : Direction) (conn : Connection) :
    Branch → Option Connection
  | .pollError => none
  | .idle => some conn
  | branch => act.result direction branch conn

/-- The body of the loop of `_processPolledSockets`. -/
def survey (server : PollServer) (act : Act) (socketed : Socketed) :
    Checked (Option Socketed) := do
  assert "conn.clientSideOpen()" (socketed.clientFd ≠ fdClosed)
  assert "conn.serverSideOpen()" (socketed.serverFd ≠ fdClosed)
  let client ← server.branch socketed.clientFd socketed.conn.serverBuffer.writeReady
  match takeBranch act .clientToServer socketed.conn client with
  | none => return none
  | some conn =>
    let branch ← server.branch socketed.serverFd conn.clientBuffer.writeReady
    return (takeBranch act .serverToClient conn branch).map fun conn => { socketed with conn }

/-- Both sockets of a connection taken out of the map and closed, and the connection erased. -/
def withoutConnection (server : PollServer) (id : Nat) (socketed : Socketed) : PollServer :=
  { server with
    pfdsIByFd := erase (erase server.pfdsIByFd socketed.clientFd) socketed.serverFd
    connections := server.connections.filter fun other => other.conn.id ≠ id
    openFds := server.openFds.filter fun fd => fd ∉ socketed.fds }

def closeConnection (server : PollServer) (id : Nat) : Checked PollServer := do
  let socketed ← element "_connections.at" (server.connections.find? fun other => other.conn.id = id)
  return server.withoutConnection id socketed

/-- Zip the array to the keys of the map; the indices are rewritten as they are read. -/
def zip (pfds : List PollFd) : Entries Int Nat → Nat → Checked (List PollFd × Entries Int Nat)
  | [], _ => return ([],[])
  | (fd,pfdsI) :: rest, i => do
    let pfd ← element "_pfds.at" pfds[pfdsI]?
    assert "pfd.fd == fd" (pfd.fd = fd)
    let (newPfds,entries) ← zip pfds rest (i + 1)
    return (pfd :: newPfds,(fd,i) :: entries)

def closeConnections (server : PollServer) (ids : List Nat) : Checked PollServer := do
  let server ← ids.foldlM closeConnection server
  let (pfds,pfdsIByFd) ← zip server.pfds server.pfdsIByFd 0
  assert "!_pfds_i_by_fd.empty()" (pfdsIByFd ≠ [])
  return { server with pfds, pfdsIByFd }

/-- `emplace` leaves a connection that has the id already. -/
def withConnection (server : PollServer) (socketed : Socketed) : PollServer :=
  { server with
    connections :=
      if server.connections.any fun other => other.conn.id = socketed.conn.id
      then server.connections else server.connections ++ [socketed]
    openFds := socketed.serverFd :: socketed.clientFd :: server.openFds }

/-- The end of `_openConnection`. -/
def addConnection (server : PollServer) (socketed : Socketed) : Checked PollServer := do
  let server ← (server.withConnection socketed).addSocketToPoll socketed.clientFd 0
  server.addSocketToPoll socketed.serverFd 0

/-- The default constructor of `Connection` takes the next id. -/
def numbered (server : PollServer) : PollServer := { server with nextId := server.nextId + 1 }

def openConnection (server : PollServer) (accepted connected : Grant) : Checked PollServer :=
  match accepted.fd server.openFds with
  | none => return server.numbered
  | some clientFd => do
    assert "conn.client_fd > _listener_fd" (clientFd > server.listenerFd)
    match connected.fd (clientFd :: server.openFds) with
    | none => return server.numbered
    | some serverFd => do
      assert "conn.server_fd > _listener_fd" (serverFd > server.listenerFd)
      server.numbered.addConnection ⟨Connection.initial server.nextId,clientFd,serverFd⟩

/-- The loop of `_processPolledSockets`, and `conns_to_close`. -/
def surveyAll (server : PollServer) (act : Act) : List Socketed → Checked (List Socketed × List Nat)
  | [] => return ([],[])
  | socketed :: rest => do
    let after ← server.survey act socketed
    let (connections,connsToClose) ← server.surveyAll act rest
    match after with
    | none => return (socketed :: connections,socketed.conn.id :: connsToClose)
    | some socketed => return (socketed :: connections,connsToClose)

/-- The first half of `_processPolledSockets`: what is done with the open connections. -/
def serveConnections (server : PollServer) (act : Act) : Checked PollServer := do
  let (connections,connsToClose) ← server.surveyAll act server.connections
  { server with connections }.closeConnections connsToClose

/-- The second half: what is done with the listener. -/
def serveListener (server : PollServer) (accepted connected : Grant) : Checked PollServer := do
  if ← server.socketReadReady server.listenerFd then server.openConnection accepted connected
  else
    let _ ← server.socketPollError server.listenerFd
    return server

def processPolledSockets (server : PollServer) (act : Act) (accepted connected : Grant) :
    Checked PollServer := do
  let server ← server.serveConnections act
  server.serveListener accepted connected

/-- `_processClientQueue` adds the listener to an empty table. -/
def initial (listenerFd : Nat) : PollServer where
  listenerFd
  pfds := [⟨listenerFd,POLLPRI ||| POLLIN,0⟩]
  pfdsIByFd := [(listenerFd,0)]
  connections := []
  nextId := 0
  openFds := [listenerFd]

inductive Label
  | updatePollFlags
  | poll (revents : Int → UInt16)
  | serveConnections (act : Act)
  | serveListener (accepted connected : Grant)
  | closeConnections (ids : List Nat)
  | openConnection (accepted connected : Grant)

def ids (server : PollServer) : List Nat := server.connections.map fun socketed => socketed.conn.id

/-- Connections are closed once each. -/
def Label.Enabled (server : PollServer) : Label → Prop
  | .closeConnections ids => ids.Nodup ∧ ∀ id ∈ ids,id ∈ server.ids
  | _ => True

def step (server : PollServer) : Label → Checked PollServer
  | .updatePollFlags => server.updatePollFlags
  | .poll revents => return server.polled revents
  | .serveConnections act => server.serveConnections act
  | .serveListener accepted connected => server.serveListener accepted connected
  | .closeConnections ids => server.closeConnections ids
  | .openConnection accepted connected => server.openConnection accepted connected

/-- No connection that is still open has the id that a connection to be opened is given. -/
def Unused (server : PollServer) (accepted connected : Grant) : Prop :=
  ∀ clientFd, accepted.fd server.openFds = some clientFd →
    connected.fd (clientFd :: server.openFds) ≠ none → server.nextId % 2^32 ∉ server.ids

def Numbered (server : PollServer) : Label → Prop
  | .serveListener accepted connected =>
    server.socketReadReady server.listenerFd = .ok true → server.Unused accepted connected
  | .openConnection accepted connected => server.Unused accepted connected
  | _ => True

def Reached (listenerFd : Nat) (condition : PollServer → Label → Prop) : PollServer → Prop :=
  Runs.Reached (· = initial listenerFd) (fun server label after => server.step label = .ok after)
    (fun server label => label.Enabled server ∧ condition server label)

/-- The array and the map, each entry at the place of its own socket. -/
structure Indexed (pfds : List PollFd) (entries : Entries Int Nat) : Prop where
  sorted : Sorted entries
  indices : (entries.map Prod.snd).Perm (List.range pfds.length)
  agree : ∀ entry ∈ entries,(pfds.map PollFd.fd)[entry.2]? = some entry.1

section table

variable {pfds : List PollFd} {entries : Entries Int Nat} {fd : Int}

theorem Indexed.found (indexed : Indexed pfds entries) (member : fd ∈ keys entries) :
    ∃ i pfd, find entries fd = some i ∧ pfds[i]? = some pfd ∧ pfd.fd = fd := by
  obtain ⟨⟨key,i⟩,inside,rfl⟩ := List.mem_map.mp member
  have agree := indexed.agree _ inside
  rw [List.getElem?_map,Option.map_eq_some_iff] at agree
  obtain ⟨pfd,there,same⟩ := agree
  exact ⟨i,pfd,(find_some indexed.sorted).mpr inside,there,same⟩

theorem Indexed.add (indexed : Indexed pfds entries) (absent : fd ∉ keys entries)
    (events : UInt16) : Indexed (pfds ++ [⟨fd,events,0⟩]) (emplace entries fd pfds.length) := by
  have perm : (emplace entries fd pfds.length).Perm ((fd,pfds.length) :: entries) :=
    emplace_perm absent
  refine ⟨emplace_sorted indexed.sorted,?_,?_⟩
  · refine (perm.map Prod.snd).trans ?_
    rw [List.length_append,List.length_singleton,List.range_succ,List.map_cons]
    exact (List.Perm.cons _ indexed.indices).trans (List.perm_append_singleton _ _).symm
  · intro entry member
    rw [List.map_append]
    rcases mem_emplace member with rfl | old
    · simp
    · have agree := indexed.agree entry old
      have inside := (List.getElem?_eq_some_iff.mp agree).1
      rw [List.getElem?_append_left inside]
      exact agree

/-- Zipping keeps the keys and, for each, the element it had. -/
theorem zip_success (agree : ∀ entry ∈ entries,(pfds.map PollFd.fd)[entry.2]? = some entry.1)
    (start : Nat) : ∃ newPfds, zip pfds entries start = .ok (newPfds,(keys entries).zipIdx start) ∧
      newPfds.map some = entries.map fun entry => pfds[entry.2]? := by
  induction entries generalizing start with
  | nil => exact ⟨[],rfl,rfl⟩
  | cons entry rest ih =>
    obtain ⟨fd,i⟩ := entry
    have here := agree (fd,i) List.mem_cons_self
    rw [List.getElem?_map,Option.map_eq_some_iff] at here
    obtain ⟨pfd,there,same⟩ := here
    obtain ⟨newPfds,zipped,picked⟩ :=
      ih (fun entry member => agree entry (List.mem_cons_of_mem _ member)) (start + 1)
    refine ⟨pfd :: newPfds,?_,?_⟩
    · rw [zip,there]
      simp only [element,ok_bind,assert,demand_true same,zipped,keys,List.map_cons,List.zipIdx_cons,
        pure_ok]
    · rw [List.map_cons,List.map_cons,picked,there]

theorem Indexed.zip (sorted : Sorted entries)
    (agree : ∀ entry ∈ entries,(pfds.map PollFd.fd)[entry.2]? = some entry.1) :
    ∃ newPfds, PollServer.zip pfds entries 0 = .ok (newPfds,(keys entries).zipIdx 0) ∧
      Indexed newPfds ((keys entries).zipIdx 0) ∧
      ∀ fd i, find entries fd = some i →
        ∃ j, find ((keys entries).zipIdx 0) fd = some j ∧ newPfds[j]? = pfds[i]? := by
  obtain ⟨newPfds,zipped,picked⟩ := zip_success agree 0
  have length : newPfds.length = entries.length := by
    simpa using congrArg List.length picked
  have place (j : Nat) : (newPfds[j]?).map some = (entries[j]?).map fun entry => pfds[entry.2]? := by
    have same := congrArg (fun items => items[j]?) picked
    simpa only [List.getElem?_map] using same
  have order : Sorted ((keys entries).zipIdx 0) := by
    simpa [Sorted,keys] using sorted
  refine ⟨newPfds,zipped,⟨order,?_,?_⟩,?_⟩
  · simp [keys,length,List.range_eq_range']
  · rintro ⟨fd,j⟩ member
    have key := List.mk_mem_zipIdx_iff_getElem?.mp member
    rw [keys,List.getElem?_map,Option.map_eq_some_iff] at key
    obtain ⟨entry,here,rfl⟩ := key
    have there := place j
    rw [here,Option.map_some] at there
    have own := agree entry (List.mem_of_getElem? here)
    rw [List.getElem?_map] at own ⊢
    cases new : newPfds[j]? with
    | none => simp [new] at there
    | some pfd =>
      rw [new,Option.map_some,Option.some_inj] at there
      rw [there]
      exact own
  · intro fd i found
    have member := (find_some sorted).mp found
    obtain ⟨j,here⟩ := List.mem_iff_getElem?.mp member
    refine ⟨j,(find_some order).mpr (List.mk_mem_zipIdx_iff_getElem?.mpr ?_),?_⟩
    · rw [keys,List.getElem?_map,here]
      rfl
    · have there := place j
      rw [here,Option.map_some] at there
      have own := agree _ member
      rw [List.getElem?_map,Option.map_eq_some_iff] at own
      obtain ⟨pfd,old,_⟩ := own
      rw [old] at there ⊢
      cases new : newPfds[j]? with
      | none => simp [new] at there
      | some other => simpa [new] using there

end table
/-- The sockets of the connections were all opened after the listener. -/
def Opened (server : PollServer) : Prop :=
  0 ≤ server.listenerFd ∧ ∀ fd ∈ server.connections.flatMap Socketed.fds,server.listenerFd < fd

/-- Every socket in use is polled, once. -/
structure Sound (server : PollServer) : Prop where
  opened : server.Opened
  indexed : Indexed server.pfds server.pfdsIByFd
  polls : (keys server.pfdsIByFd).Perm
    (server.listenerFd :: server.connections.flatMap Socketed.fds)
  used : ∀ fd ∈ keys server.pfdsIByFd,fd ∈ server.openFds
  numbered : server.ids.Nodup

variable {server after before : PollServer} {fd : Int} {id : Nat} {ids : List Nat}
  {call : String} {act : Act} {accepted connected : Grant} {label : Label}

@[simp] theorem element_ok {α : Type} {call : String} {found : Option α} {value : α} :
    element call found = .ok value ↔ found = some value := by
  cases found <;> simp [element]

theorem pfd_ok {pfd : PollFd} : server.pfd fd = .ok pfd ↔
    ∃ i, find server.pfdsIByFd fd = some i ∧ server.pfds[i]? = some pfd := by
  constructor
  · intro found
    obtain ⟨i,there,found⟩ := bind_success found
    exact ⟨i,element_ok.mp there,element_ok.mp found⟩
  · rintro ⟨i,there,found⟩
    rw [PollServer.pfd,pfdsI,there,element_ok.mpr rfl,ok_bind,found]
    rfl

theorem Sound.initial (listenerFd : Nat) : Sound (PollServer.initial listenerFd) := by
  refine ⟨?_,⟨?_,?_,?_⟩,?_,?_,?_⟩ <;> simp [PollServer.initial,Opened,Sorted,keys,ids]

/-- A change of flags or of the connections' buffers leaves the table sound. -/
theorem Sound.changed (sound : Sound server) (pfds : List PollFd) (connections : List Socketed)
    (sockets : pfds.map PollFd.fd = server.pfds.map PollFd.fd)
    (fds : connections.flatMap Socketed.fds = server.connections.flatMap Socketed.fds)
    (ids : connections.map (fun socketed => socketed.conn.id) = server.ids) :
    Sound { server with pfds, connections } := by
  have length : pfds.length = server.pfds.length := by
    simpa using congrArg List.length sockets
  refine ⟨?_,⟨sound.indexed.sorted,?_,?_⟩,?_,sound.used,?_⟩
  · simp only [Opened,fds]
    exact sound.opened
  · simp only [length]
    exact sound.indexed.indices
  · simp only [sockets]
    exact sound.indexed.agree
  · simp only [fds]
    exact sound.polls
  · simp only [PollServer.ids,ids]
    exact sound.numbered

theorem keys_erase (entries : Entries Int Nat) (fd : Int) :
    keys (erase entries fd) = (keys entries).filter fun key => key ≠ fd := by
  simp [keys,erase,List.filter_map,Function.comp_def]

theorem withoutConnection_keys (server : PollServer) (id : Nat) (socketed : Socketed) :
    keys (server.withoutConnection id socketed).pfdsIByFd =
      (keys server.pfdsIByFd).filter fun key => key ∉ socketed.fds := by
  rw [withoutConnection,keys_erase,keys_erase,List.filter_filter]
  refine List.filter_congr fun key _ => ?_
  simp [Socketed.fds,Bool.and_comm]

/-- What is in `gone` is what a filter by it takes away. -/
theorem filter_gone {gone rest all : List Int} (perm : all.Perm (gone ++ rest)) (once : all.Nodup) :
    (all.filter fun key => key ∉ gone).Perm rest := by
  have apart := perm.nodup_iff.mp once
  refine (perm.filter _).trans ?_
  have away : gone.filter (fun key => key ∉ gone) = [] := by simp
  have stay : rest.filter (fun key => key ∉ gone) = rest := by
    refine List.filter_eq_self.mpr fun key member => ?_
    have other := (List.nodup_append.mp apart).2.2
    simpa using fun inside => other key inside key member rfl
  rw [List.filter_append,away,stay]
  exact List.Perm.refl _

/-- The one connection with an id, and the others. -/
theorem split_off {connections : List Socketed} {socketed : Socketed}
    (once : (connections.map fun socketed => socketed.conn.id).Nodup)
    (member : socketed ∈ connections) : connections.Perm
      (socketed :: connections.filter fun other => other.conn.id ≠ socketed.conn.id) := by
  induction connections with
  | nil => cases member
  | cons first rest ih =>
    rw [List.map_cons,List.nodup_cons] at once
    obtain ⟨fresh,once⟩ := once
    rcases List.mem_cons.mp member with rfl | later
    · have others : rest.filter (fun other => other.conn.id ≠ socketed.conn.id) = rest := by
        refine List.filter_eq_self.mpr fun other inside => ?_
        simpa using fun same => fresh (List.mem_map.mpr ⟨other,inside,same⟩)
      rw [List.filter_cons_of_neg (by simp),others]
    · have different : first.conn.id ≠ socketed.conn.id := by
        intro same
        exact fresh (List.mem_map.mpr ⟨socketed,later,same.symm⟩)
      rw [List.filter_cons_of_pos (by simpa using different)]
      exact (List.Perm.cons _ (ih once later)).trans (List.Perm.swap _ _ _)

/-- What is left of a sound table after some connections have been taken out of the map
and before the array is zipped. -/
structure Rest (before server : PollServer) : Prop where
  opened : server.Opened
  pfds : server.pfds = before.pfds
  inside : ∀ entry ∈ server.pfdsIByFd,entry ∈ before.pfdsIByFd
  sorted : Sorted server.pfdsIByFd
  polls : (keys server.pfdsIByFd).Perm
    (server.listenerFd :: server.connections.flatMap Socketed.fds)
  used : ∀ fd ∈ keys server.pfdsIByFd,fd ∈ server.openFds
  numbered : server.ids.Nodup

theorem Sound.rest (sound : Sound server) : Rest server server :=
  ⟨sound.opened,rfl,fun _ member => member,sound.indexed.sorted,sound.polls,sound.used,sound.numbered⟩

theorem Rest.close (rest : Rest before server) (member : id ∈ server.ids) :
    ∃ after, server.closeConnection id = .ok after ∧ Rest before after ∧
      after.connections = server.connections.filter fun other => other.conn.id ≠ id := by
  obtain ⟨socketed,inside,same⟩ := List.mem_map.mp member
  have found : ∃ socketed,
      (server.connections.find? fun other => other.conn.id = id) = some socketed := by
    rw [← Option.isSome_iff_exists,List.find?_isSome]
    exact ⟨socketed,inside,by simpa using same⟩
  obtain ⟨socketed,found⟩ := found
  have inside := List.mem_of_find?_eq_some found
  have same : socketed.conn.id = id := by simpa using List.find?_some found
  have once := rest.sorted.nodup
  have split : server.connections.Perm
      (socketed :: server.connections.filter fun other => other.conn.id ≠ id) := by
    rw [← same]
    exact split_off rest.numbered inside
  have polls : (keys server.pfdsIByFd).Perm (socketed.fds ++ server.listenerFd ::
      (server.connections.filter fun other => other.conn.id ≠ id).flatMap Socketed.fds) := by
    refine rest.polls.trans ?_
    refine (List.Perm.cons _ (split.flatMap_right _)).trans ?_
    rw [List.flatMap_cons]
    exact List.perm_middle.symm
  refine ⟨server.withoutConnection id socketed,by rw [closeConnection,found]; rfl,⟨?_,rest.pfds,?_,?_,?_,?_,?_⟩,rfl⟩
  · refine ⟨rest.opened.1,fun fd member => rest.opened.2 fd ?_⟩
    obtain ⟨other,inside,own⟩ := List.mem_flatMap.mp member
    exact List.mem_flatMap.mpr ⟨other,List.mem_of_mem_filter inside,own⟩
  · intro entry member
    exact rest.inside entry (List.mem_of_mem_filter (List.mem_of_mem_filter member))
  · exact erase_sorted (erase_sorted rest.sorted)
  · rw [withoutConnection_keys]
    exact filter_gone polls once
  · intro fd member
    rw [withoutConnection_keys] at member
    obtain ⟨old,stays⟩ := List.mem_filter.mp member
    exact List.mem_filter.mpr ⟨rest.used fd old,stays⟩
  · exact List.Nodup.sublist (List.Sublist.map _ List.filter_sublist) rest.numbered

theorem Rest.closeAll (rest : Rest before server) (distinct : ids.Nodup)
    (members : ∀ id ∈ ids,id ∈ server.ids) :
    ∃ after, ids.foldlM closeConnection server = .ok after ∧ Rest before after ∧
      after.connections = server.connections.filter fun other => other.conn.id ∉ ids := by
  induction ids generalizing server with
  | nil => exact ⟨server,rfl,rest,by simp⟩
  | cons id others ih =>
    obtain ⟨fresh,distinct⟩ := List.nodup_cons.mp distinct
    obtain ⟨next,closed,left,kept⟩ := rest.close (members id List.mem_cons_self)
    have remain : ∀ other ∈ others,other ∈ next.ids := by
      intro other member
      have here := members other (List.mem_cons_of_mem _ member)
      obtain ⟨socketed,inside,rfl⟩ := List.mem_map.mp here
      refine List.mem_map.mpr ⟨socketed,?_,rfl⟩
      rw [kept]
      refine List.mem_filter.mpr ⟨inside,?_⟩
      simpa using fun same => fresh (by rw [← same]; exact member)
    obtain ⟨after,all,left,both⟩ := ih left distinct remain
    refine ⟨after,by rw [List.foldlM_cons,closed,ok_bind,all],left,?_⟩
    rw [both,kept,List.filter_filter]
    refine List.filter_congr fun other _ => ?_
    simp [Bool.and_comm]

/-- Closing leaves the array and the map sound, with the elements of the sockets that stay. -/
theorem Sound.closeConnections (sound : Sound server) (distinct : ids.Nodup)
    (members : ∀ id ∈ ids,id ∈ server.ids) :
    ∃ after, server.closeConnections ids = .ok after ∧ Sound after ∧
      after.connections = (server.connections.filter fun other => other.conn.id ∉ ids) ∧
      ∀ fd pfd, after.pfd fd = .ok pfd → server.pfd fd = .ok pfd := by
  obtain ⟨left,closed,rest,kept⟩ := sound.rest.closeAll distinct members
  have agree : ∀ entry ∈ left.pfdsIByFd,(left.pfds.map PollFd.fd)[entry.2]? = some entry.1 := by
    intro entry member
    rw [rest.pfds]
    exact sound.indexed.agree entry (rest.inside entry member)
  obtain ⟨newPfds,zipped,indexed,moved⟩ := Indexed.zip rest.sorted agree
  have same : keys ((keys left.pfdsIByFd).zipIdx 0) = keys left.pfdsIByFd := by simp [keys]
  have some : (keys left.pfdsIByFd).zipIdx 0 ≠ [] := by
    intro none
    have empty := rest.polls
    rw [← same,none] at empty
    exact List.cons_ne_nil _ _ (List.nil_perm.mp empty)
  refine ⟨{ left with pfds := newPfds, pfdsIByFd := (keys left.pfdsIByFd).zipIdx 0 },?_,
    ⟨rest.opened,indexed,?_,?_,rest.numbered⟩,kept,?_⟩
  · rw [PollServer.closeConnections,closed,ok_bind,zipped,ok_bind]
    simp only [assert,demand_true some,ok_bind,pure_ok]
  · rw [same]
    exact rest.polls
  · rw [same]
    exact rest.used
  · intro fd pfd found
    obtain ⟨j,there,element⟩ := pfd_ok.mp found
    have member : fd ∈ keys left.pfdsIByFd := by
      rw [← same,← find_isSome indexed.sorted,there]
      rfl
    obtain ⟨i,old⟩ := Option.isSome_iff_exists.mp ((find_isSome rest.sorted).mpr member)
    obtain ⟨k,again,kept⟩ := moved fd i old
    cases there.symm.trans again
    refine pfd_ok.mpr ⟨i,(find_some sound.indexed.sorted).mpr ?_,?_⟩
    · exact rest.inside _ ((find_some rest.sorted).mp old)
    · rw [← rest.pfds,← kept]
      exact element

/-- A socket that is polled is found in the array. -/
theorem Sound.pfd (sound : Sound server) (member : fd ∈ keys server.pfdsIByFd) :
    ∃ pfd, server.pfd fd = .ok pfd := by
  obtain ⟨i,pfd,there,found,_⟩ := sound.indexed.found member
  exact ⟨pfd,pfd_ok.mpr ⟨i,there,found⟩⟩

theorem Sound.listener (sound : Sound server) : server.listenerFd ∈ keys server.pfdsIByFd :=
  sound.polls.mem_iff.mpr List.mem_cons_self

theorem Sound.sockets (sound : Sound server) {socketed : Socketed}
    (member : socketed ∈ server.connections) :
    socketed.clientFd ∈ keys server.pfdsIByFd ∧ socketed.serverFd ∈ keys server.pfdsIByFd := by
  constructor
  all_goals
    refine sound.polls.mem_iff.mpr (List.mem_cons_of_mem _ ?_)
    exact List.mem_flatMap.mpr ⟨socketed,member,by simp [Socketed.fds]⟩

theorem Sound.open (sound : Sound server) {socketed : Socketed}
    (member : socketed ∈ server.connections) :
    socketed.clientFd ≠ fdClosed ∧ socketed.serverFd ≠ fdClosed := by
  obtain ⟨start,above⟩ := sound.opened
  have client := above socketed.clientFd
    (List.mem_flatMap.mpr ⟨socketed,member,by simp [Socketed.fds]⟩)
  have there := above socketed.serverFd
    (List.mem_flatMap.mpr ⟨socketed,member,by simp [Socketed.fds]⟩)
  unfold fdClosed
  omega

theorem Sound.socketReadReady (sound : Sound server) (member : fd ∈ keys server.pfdsIByFd) :
    ∃ ready, server.socketReadReady fd = .ok ready := by
  obtain ⟨pfd,found⟩ := sound.pfd member
  exact ⟨_,by rw [PollServer.socketReadReady,found]; rfl⟩

theorem Sound.socketWriteReady (sound : Sound server) (member : fd ∈ keys server.pfdsIByFd) :
    ∃ ready, server.socketWriteReady fd = .ok ready := by
  obtain ⟨pfd,found⟩ := sound.pfd member
  exact ⟨_,by rw [PollServer.socketWriteReady,found]; rfl⟩

theorem Sound.socketPollError (sound : Sound server) (member : fd ∈ keys server.pfdsIByFd) :
    ∃ error, server.socketPollError fd = .ok error := by
  obtain ⟨pfd,found⟩ := sound.pfd member
  exact ⟨_,by rw [PollServer.socketPollError,found]; rfl⟩

theorem Sound.branch (sound : Sound server) (member : fd ∈ keys server.pfdsIByFd)
    (writeReady : Bool) : ∃ branch, server.branch fd writeReady = .ok branch := by
  obtain ⟨readable,reads⟩ := sound.socketReadReady member
  obtain ⟨writable,writes⟩ := sound.socketWriteReady member
  obtain ⟨error,errors⟩ := sound.socketPollError member
  rw [PollServer.branch,reads,ok_bind]
  cases readable with
  | true => exact ⟨.read,rfl⟩
  | false =>
    rw [if_neg (by simp),writes,ok_bind]
    by_cases ready : (writable && writeReady) = true
    · exact ⟨.write,by rw [if_pos ready]; rfl⟩
    · rw [if_neg ready,errors,ok_bind]
      cases error with
      | none => exact ⟨.idle,rfl⟩
      | some reason => exact ⟨.pollError,rfl⟩

theorem Sound.setEvents (sound : Sound server) (member : fd ∈ keys server.pfdsIByFd)
    (events : UInt16) : ∃ pfds, server.setEvents fd events = .ok { server with pfds } ∧
      pfds.map PollFd.fd = server.pfds.map PollFd.fd := by
  obtain ⟨i,pfd,there,found,_⟩ := sound.indexed.found member
  refine ⟨server.pfds.set i { pfd with events },?_,?_⟩
  · rw [PollServer.setEvents,pfdsI,there,element_ok.mpr rfl,ok_bind,found]
    rfl
  · rw [List.map_set]
    refine List.ext_getElem? fun j => ?_
    rw [List.getElem?_set]
    split
    · rename_i same
      subst same
      obtain ⟨inside,here⟩ := List.getElem?_eq_some_iff.mp found
      simp [inside,here]
    · rfl

theorem takeBranch_id {direction : Direction} {conn kept : Connection} {branch : Branch}
    (taken : takeBranch act direction conn branch = some kept) : kept.id = conn.id := by
  cases branch with
  | pollError => cases taken
  | idle =>
    cases taken
    rfl
  | read => exact act.keeps _ _ _ _ taken
  | write => exact act.keeps _ _ _ _ taken

theorem Sound.survey (sound : Sound server) {socketed : Socketed}
    (member : socketed ∈ server.connections) (act : Act) :
    ∃ outcome, server.survey act socketed = .ok outcome ∧
      ∀ kept ∈ outcome, kept.fds = socketed.fds ∧ kept.conn.id = socketed.conn.id := by
  obtain ⟨client,there⟩ := sound.sockets member
  obtain ⟨first,looked⟩ := sound.branch client socketed.conn.serverBuffer.writeReady
  rw [PollServer.survey,assert,assert,demand_true (sound.open member).1,ok_bind,
    demand_true (sound.open member).2,ok_bind,looked,ok_bind]
  cases taken : takeBranch act .clientToServer socketed.conn first with
  | none => exact ⟨none,rfl,by simp⟩
  | some conn =>
    obtain ⟨second,again⟩ := sound.branch there conn.clientBuffer.writeReady
    refine ⟨_,by simp only [again,ok_bind,pure_ok]; rfl,?_⟩
    intro kept given
    obtain ⟨last,left,rfl⟩ := Option.map_eq_some_iff.mp given
    exact ⟨rfl,(takeBranch_id left).trans (takeBranch_id taken)⟩

theorem Sound.surveyAll (sound : Sound server) (act : Act) (connections : List Socketed)
    (members : ∀ socketed ∈ connections,socketed ∈ server.connections) :
    ∃ kept connsToClose, server.surveyAll act connections = .ok (kept,connsToClose) ∧
      kept.flatMap Socketed.fds = connections.flatMap Socketed.fds ∧
      kept.map (fun socketed => socketed.conn.id) =
        connections.map (fun socketed => socketed.conn.id) ∧
      connsToClose.Sublist (connections.map fun socketed => socketed.conn.id) := by
  induction connections with
  | nil => exact ⟨[],[],rfl,rfl,rfl,List.Sublist.refl _⟩
  | cons socketed rest ih =>
    obtain ⟨outcome,looked,keeps⟩ := sound.survey (members socketed List.mem_cons_self) act
    obtain ⟨kept,connsToClose,rest,fds,same,sub⟩ :=
      ih fun other member => members other (List.mem_cons_of_mem _ member)
    rw [PollServer.surveyAll,looked,ok_bind,rest,ok_bind]
    cases outcome with
    | none =>
      refine ⟨_,_,rfl,?_,?_,?_⟩
      · rw [List.flatMap_cons,List.flatMap_cons,fds]
      · rw [List.map_cons,List.map_cons,same]
      · rw [List.map_cons]
        exact sub.cons_cons _
    | some after =>
      obtain ⟨own,id⟩ := keeps after rfl
      refine ⟨_,_,rfl,?_,?_,?_⟩
      · rw [List.flatMap_cons,List.flatMap_cons,fds,own]
      · rw [List.map_cons,List.map_cons,same,id]
      · rw [List.map_cons]
        exact sub.cons _

theorem Sound.serveConnections (sound : Sound server) (act : Act) :
    ∃ after, server.serveConnections act = .ok after ∧ Sound after := by
  obtain ⟨connections,connsToClose,surveyed,fds,same,sub⟩ :=
    sound.surveyAll act server.connections fun _ member => member
  have changed := sound.changed server.pfds connections rfl fds same
  have distinct : connsToClose.Nodup := sound.numbered.sublist sub
  obtain ⟨after,closed,left,_⟩ := changed.closeConnections distinct fun id member => by
    simp only [PollServer.ids,same]
    exact sub.subset member
  refine ⟨after,?_,left⟩
  rw [PollServer.serveConnections,surveyed,ok_bind]
  exact closed

/-- Setting flags stops only at the assertion about the buffers. -/
theorem Sound.updateFlags (sound : Sound server) {socketed : Socketed}
    (client : socketed.clientFd ∈ keys server.pfdsIByFd)
    (there : socketed.serverFd ∈ keys server.pfdsIByFd) :
    (∃ pfds, server.updateFlags socketed = .ok { server with pfds } ∧
      pfds.map PollFd.fd = server.pfds.map PollFd.fd) ∨
    ∃ reason, Xtracepp.updatePollFlags socketed.conn = .error reason ∧
      server.updateFlags socketed = .error reason := by
  obtain ⟨first,found⟩ := sound.pfd client
  obtain ⟨second,also⟩ := sound.pfd there
  cases flags : Xtracepp.updatePollFlags socketed.conn with
  | error reason =>
    refine .inr ⟨reason,rfl,?_⟩
    rw [PollServer.updateFlags,found,ok_bind,also,ok_bind,flags,error_bind]
  | ok polled =>
    obtain ⟨once,set,same⟩ := sound.setEvents client (polledEvents polled.clientIn polled.clientOut)
    have changed := sound.changed once server.connections same rfl rfl
    obtain ⟨twice,again,both⟩ :=
      changed.setEvents there (polledEvents polled.serverIn polled.serverOut)
    refine .inl ⟨twice,?_,both.trans same⟩
    rw [PollServer.updateFlags,found,ok_bind,also,ok_bind,flags,ok_bind,set,ok_bind]
    exact again

theorem updatePollFlags_in_range (conn : Connection) :
    Xtracepp.updatePollFlags conn ≠ .error (.outOfRange call) := by
  intro failed
  unfold Xtracepp.updatePollFlags at failed
  cases read : conn.clientBuffer.readReady <;> cases write : conn.clientBuffer.writeReady <;>
    cases reads : conn.serverBuffer.readReady <;> cases writes : conn.serverBuffer.writeReady <;>
      simp [read,write,reads,writes,assert,demand] at failed

theorem Sound.updateAll (sound : Sound server) (connections : List Socketed)
    (members : ∀ socketed ∈ connections,socketed ∈ server.connections) :
    (∃ after, connections.foldlM PollServer.updateFlags server = .ok after ∧ Sound after) ∨
    ∃ reason, connections.foldlM PollServer.updateFlags server = .error reason ∧
      ∀ call, reason ≠ .outOfRange call := by
  induction connections generalizing server with
  | nil => exact .inl ⟨server,rfl,sound⟩
  | cons socketed rest ih =>
    obtain ⟨client,there⟩ := sound.sockets (members socketed List.mem_cons_self)
    rw [List.foldlM_cons]
    rcases sound.updateFlags client there with ⟨pfds,updated,same⟩ | ⟨reason,flags,failed⟩
    · have changed := sound.changed pfds server.connections same rfl rfl
      rw [updated,ok_bind]
      exact ih changed fun other member => members other (List.mem_cons_of_mem _ member)
    · refine .inr ⟨reason,by rw [failed]; rfl,?_⟩
      rintro call rfl
      exact updatePollFlags_in_range _ flags

theorem Sound.updatePollFlags (sound : Sound server) :
    (∃ after, server.updatePollFlags = .ok after ∧ Sound after) ∨
    ∃ reason, server.updatePollFlags = .error reason ∧ ∀ call, reason ≠ .outOfRange call :=
  sound.updateAll server.connections fun _ member => member

theorem addSocketToPoll_absent (sorted : Sorted server.pfdsIByFd)
    (absent : fd ∉ keys server.pfdsIByFd) (events : UInt16) :
    server.addSocketToPoll fd events = .ok (server.withSocket fd events) := by
  rw [addSocketToPoll,assert,demand_true ?_,ok_bind,pure_ok]
  rwa [← Option.not_isSome_iff_eq_none,find_isSome sorted]

theorem withConnection_fresh {socketed : Socketed} (unused : socketed.conn.id ∉ server.ids) :
    (server.withConnection socketed).connections = server.connections ++ [socketed] := by
  rw [withConnection]
  refine if_neg fun taken => ?_
  obtain ⟨other,inside,same⟩ := List.any_eq_true.mp taken
  exact unused (List.mem_map.mpr ⟨other,inside,by simpa using same⟩)

/-- Both sockets of a new connection are added. -/
theorem Sound.addConnection (sound : Sound server) {socketed : Socketed}
    (client : socketed.clientFd ∉ server.openFds)
    (there : socketed.serverFd ∉ socketed.clientFd :: server.openFds)
    (above : ∀ fd ∈ socketed.fds,server.listenerFd < fd) (unused : socketed.conn.id ∉ server.ids) :
    ∃ after, server.addConnection socketed = .ok after ∧ Sound after := by
  rw [List.mem_cons,not_or] at there
  obtain ⟨different,there⟩ := there
  let begun := (server.withConnection socketed).withSocket socketed.clientFd 0
  have clientKey : socketed.clientFd ∉ keys server.pfdsIByFd := fun key => client (sound.used _ key)
  have once : Indexed begun.pfds begun.pfdsIByFd := sound.indexed.add clientKey 0
  have firstKeys : (keys begun.pfdsIByFd).Perm (socketed.clientFd :: keys server.pfdsIByFd) :=
    emplace_keys clientKey
  have serverKey : socketed.serverFd ∉ keys begun.pfdsIByFd := by
    intro key
    rcases List.mem_cons.mp (firstKeys.mem_iff.mp key) with same | old
    · exact different same
    · exact there (sound.used _ old)
  have bothKeys : (keys (begun.withSocket socketed.serverFd 0).pfdsIByFd).Perm
      (socketed.serverFd :: socketed.clientFd :: keys server.pfdsIByFd) :=
    (emplace_keys serverKey).trans (List.Perm.cons _ firstKeys)
  have joined : begun.connections = server.connections ++ [socketed] := withConnection_fresh unused
  refine ⟨begun.withSocket socketed.serverFd 0,?_,?_,once.add serverKey 0,?_,?_,?_⟩
  · rw [PollServer.addConnection,
      addSocketToPoll_absent (by exact sound.indexed.sorted) (by exact clientKey),ok_bind]
    exact addSocketToPoll_absent once.sorted serverKey 0
  · refine ⟨sound.opened.1,fun fd member => ?_⟩
    have member : fd ∈ begun.connections.flatMap Socketed.fds := member
    rw [joined,List.flatMap_append,List.mem_append] at member
    rcases member with old | new
    · exact sound.opened.2 fd old
    · exact above fd (by simpa using new)
  · refine bothKeys.trans ?_
    change List.Perm _ (server.listenerFd :: begun.connections.flatMap Socketed.fds)
    rw [joined,List.flatMap_append,List.flatMap_singleton]
    have order : (socketed.serverFd :: socketed.clientFd :: keys server.pfdsIByFd).Perm
        (socketed.fds ++ server.listenerFd :: server.connections.flatMap Socketed.fds) :=
      (List.Perm.swap _ _ _).trans ((sound.polls.cons _).cons _)
    exact order.trans List.perm_append_comm
  · intro fd member
    change fd ∈ socketed.serverFd :: socketed.clientFd :: server.openFds
    have inside := bothKeys.mem_iff.mp member
    simp only [List.mem_cons] at inside ⊢
    rcases inside with here | here | old
    · exact .inl here
    · exact .inr (.inl here)
    · exact .inr (.inr (sound.used fd old))
  · change (begun.connections.map fun socketed => socketed.conn.id).Nodup
    rw [joined,List.map_append,List.nodup_append]
    refine ⟨sound.numbered,by simp,?_⟩
    intro id old other new
    rw [List.map_singleton,List.mem_singleton] at new
    subst new
    rintro rfl
    exact unused old

theorem addSocketToPoll_in_range {events : UInt16} :
    server.addSocketToPoll fd events ≠ .error (.outOfRange call) := by
  intro failed
  rcases bind_failure failed with failed | ⟨_,_,failed⟩
  · have wrong := (demand_failure.mp failed).2
    cases wrong
  · cases failed

/-- `_openConnection` looks nothing up. -/
theorem openConnection_in_range :
    server.openConnection accepted connected ≠ .error (.outOfRange call) := by
  intro failed
  unfold PollServer.openConnection at failed
  split at failed
  · cases failed
  · rcases bind_failure failed with failed | ⟨_,_,failed⟩
    · have wrong := (demand_failure.mp failed).2
      cases wrong
    · split at failed
      · cases failed
      · rcases bind_failure failed with failed | ⟨_,_,failed⟩
        · have wrong := (demand_failure.mp failed).2
          cases wrong
        · rcases bind_failure failed with failed | ⟨_,_,failed⟩
          · exact addSocketToPoll_in_range failed
          · exact addSocketToPoll_in_range failed

theorem Sound.openConnection (sound : Sound server) (unused : server.Unused accepted connected)
    (opened : server.openConnection accepted connected = .ok after) : Sound after := by
  have plain : Sound server.numbered :=
    ⟨sound.opened,sound.indexed,sound.polls,sound.used,sound.numbered⟩
  unfold PollServer.openConnection at opened
  cases client : accepted.fd server.openFds with
  | none =>
    rw [client] at opened
    cases opened
    exact plain
  | some clientFd =>
    rw [client] at opened
    obtain ⟨above,opened⟩ := demand_bind_success opened
    cases there : connected.fd (clientFd :: server.openFds) with
    | none =>
      rw [there] at opened
      cases opened
      exact plain
    | some serverFd =>
      rw [there] at opened
      obtain ⟨also,opened⟩ := demand_bind_success opened
      have fresh := unused clientFd client (by simp [there])
      have joined : ∃ last, server.numbered.addConnection
          ⟨Connection.initial server.nextId,clientFd,serverFd⟩ = .ok last ∧ Sound last := by
        refine plain.addConnection ?_ ?_ ?_ fresh
        · exact accepted.fresh _ _ client
        · exact connected.fresh _ _ there
        · simpa [Socketed.fds] using ⟨above,also⟩
      obtain ⟨last,added,left⟩ := joined
      cases added.symm.trans opened
      exact left

theorem Sound.serveListener (sound : Sound server)
    (unused : server.socketReadReady server.listenerFd = .ok true →
      server.Unused accepted connected)
    (served : server.serveListener accepted connected = .ok after) : Sound after := by
  obtain ⟨ready,reads,served⟩ := bind_success served
  cases ready with
  | true => exact sound.openConnection (unused reads) served
  | false =>
    obtain ⟨error,_,served⟩ := bind_success served
    cases served
    exact sound

theorem Sound.serveListener_in_range (sound : Sound server) :
    server.serveListener accepted connected ≠ .error (.outOfRange call) := by
  intro failed
  obtain ⟨ready,reads⟩ := sound.socketReadReady sound.listener
  obtain ⟨error,errors⟩ := sound.socketPollError sound.listener
  rw [PollServer.serveListener,reads,ok_bind] at failed
  cases ready with
  | true => exact openConnection_in_range failed
  | false =>
    rw [if_neg (by simp),errors,ok_bind] at failed
    cases failed

theorem Sound.step (sound : Sound server) (enabled : label.Enabled server)
    (numbered : Numbered server label) (taken : server.step label = .ok after) : Sound after := by
  cases label with
  | updatePollFlags =>
    rcases sound.updatePollFlags with ⟨next,updated,left⟩ | ⟨reason,failed,_⟩
    · cases updated.symm.trans taken
      exact left
    · cases failed.symm.trans taken
  | poll revents =>
    cases taken
    refine sound.changed _ server.connections ?_ rfl rfl
    rw [List.map_map]
    rfl
  | serveConnections act =>
    obtain ⟨next,served,left⟩ := sound.serveConnections act
    cases served.symm.trans taken
    exact left
  | serveListener accepted connected => exact sound.serveListener numbered taken
  | closeConnections ids =>
    obtain ⟨next,closed,left,_⟩ := sound.closeConnections enabled.1 enabled.2
    cases closed.symm.trans taken
    exact left
  | openConnection accepted connected => exact sound.openConnection numbered taken

theorem reached_sound {listenerFd : Nat} (reached : Reached listenerFd Numbered server) :
    Sound server := by
  refine Runs.Reached.invariant Sound ?_ ?_ reached
  · rintro _ rfl
    exact Sound.initial listenerFd
  · rintro before label next sound ⟨enabled,numbered⟩ taken
    exact sound.step enabled numbered taken

/-- Each descriptor in use has its one place in the table, and no lookup of one fails. -/
structure TableKept (server : PollServer) : Prop where
  keys : ∀ fd, (∃ i, find server.pfdsIByFd fd = some i) ↔ fd = server.listenerFd ∨
    ∃ socketed ∈ server.connections,fd = socketed.clientFd ∨ fd = socketed.serverFd
  index : ∀ fd i, find server.pfdsIByFd fd = some i → ∃ pfd, server.pfds[i]? = some pfd ∧ pfd.fd = fd
  onto : ∀ i < server.pfds.length,∃! fd, find server.pfdsIByFd fd = some i
  flags : ∀ call, server.updatePollFlags ≠ .error (.outOfRange call)
  errors : ∀ fd i, find server.pfdsIByFd fd = some i → ∃ error, server.socketPollError fd = .ok error
  processed : ∀ act accepted connected call,
    server.processPolledSockets act accepted connected ≠ .error (.outOfRange call)
  closed : ∀ ids : List Nat, ids.Nodup → (∀ id ∈ ids,id ∈ server.ids) →
    ∃ after, server.closeConnections ids = .ok after ∧
      after.connections = (server.connections.filter fun other => other.conn.id ∉ ids) ∧
      ∀ fd pfd, after.pfd fd = .ok pfd → server.pfd fd = .ok pfd

theorem poll_table_kept (listenerFd : Nat) (server : PollServer)
    (reached : Reached listenerFd Numbered server) : TableKept server := by
  have sound := reached_sound reached
  refine ⟨?_,?_,?_,?_,?_,?_,?_⟩
  · intro fd
    rw [← Option.isSome_iff_exists,find_isSome sound.indexed.sorted,sound.polls.mem_iff]
    simp [Socketed.fds]
  · intro fd i found
    have agree := sound.indexed.agree _ ((find_some sound.indexed.sorted).mp found)
    rwa [List.getElem?_map,Option.map_eq_some_iff] at agree
  · intro i bound
    obtain ⟨⟨fd,_⟩,member,rfl⟩ :=
      List.mem_map.mp (sound.indexed.indices.mem_iff.mpr (List.mem_range.mpr bound))
    refine ⟨fd,(find_some sound.indexed.sorted).mpr member,?_⟩
    intro other found
    have first := sound.indexed.agree _ member
    have second := sound.indexed.agree _ ((find_some sound.indexed.sorted).mp found)
    exact Option.some_inj.mp (second.symm.trans first)
  · intro call failed
    rcases sound.updatePollFlags with ⟨after,updated,_⟩ | ⟨reason,stopped,other⟩
    · cases updated.symm.trans failed
    · cases stopped.symm.trans failed
      exact other call rfl
  · intro fd i found
    refine sound.socketPollError ?_
    rw [← find_isSome sound.indexed.sorted,found]
    rfl
  · intro act accepted connected call failed
    obtain ⟨after,served,left⟩ := sound.serveConnections act
    rw [processPolledSockets,served,ok_bind] at failed
    exact left.serveListener_in_range failed
  · intro ids distinct members
    obtain ⟨after,closed,_,kept,survivors⟩ := sound.closeConnections distinct members
    exact ⟨after,closed,kept,survivors⟩

/-- A descriptor, as long as it is not in use. -/
def Grant.only (fd : Int) : Grant where
  fd used := if fd ∈ used then none else some fd
  fresh := by
    intro used granted given
    split at given
    · cases given
    · cases given
      assumption

/-- No descriptor. -/
def Grant.refused : Grant where
  fd _ := none
  fresh := by
    intro _ _ given
    cases given

/-- Two connections, the first closed, and a third that is given its descriptors. -/
theorem poll_table_kept_reused : ∃ server, TableKept server ∧ server.ids = [1,2] ∧
    server.pfdsIByFd = [(3,0),(4,4),(5,3),(6,1),(7,2)] := by
  have first : Reached 3 Numbered _ :=
    .next (.openConnection (Grant.only 4) (Grant.only 5)) (.start rfl)
      ⟨trivial,fun _ _ _ => by decide⟩ rfl
  have second : Reached 3 Numbered _ :=
    .next (.openConnection (Grant.only 6) (Grant.only 7)) first
      ⟨trivial,fun _ _ _ => by decide⟩ rfl
  have third : Reached 3 Numbered _ :=
    .next (.closeConnections [0]) second ⟨⟨by decide,by decide⟩,trivial⟩ rfl
  have fourth : Reached 3 Numbered _ :=
    .next (.openConnection (Grant.only 5) (Grant.only 4)) third
      ⟨trivial,fun _ _ _ => by decide⟩ rfl
  exact ⟨_,poll_table_kept 3 _ fourth,by decide,by decide⟩

/-- Accepting may fail any number of times, and takes an id each time. -/
theorem reached_refused {listenerFd : Nat} (reached : Reached listenerFd (fun _ _ => True) server)
    (count : Nat) :
    Reached listenerFd (fun _ _ => True) { server with nextId := server.nextId + count } := by
  induction count with
  | zero => exact reached
  | succ count ih =>
    exact .next (.openConnection Grant.refused Grant.refused) ih ⟨trivial,trivial⟩ rfl

/-- After 2^32 ids the first one is given again, and its connection may still be open. -/
theorem poll_table_orphan : ∃ server, Reached 3 (fun _ _ => True) server ∧
    ¬((∃ i, find server.pfdsIByFd 6 = some i) ↔ 6 = server.listenerFd ∨
      ∃ socketed ∈ server.connections,6 = socketed.clientFd ∨ 6 = socketed.serverFd) := by
  have first : Reached 3 (fun _ _ => True) _ :=
    .next (.openConnection (Grant.only 4) (Grant.only 5)) (.start rfl) ⟨trivial,trivial⟩ rfl
  have many := reached_refused first (2^32 - 1)
  have last : Reached 3 (fun _ _ => True) _ :=
    .next (.openConnection (Grant.only 6) (Grant.only 7)) many ⟨trivial,trivial⟩ rfl
  refine ⟨_,last,?_⟩
  rintro ⟨owned,_⟩
  rcases owned ⟨3,by decide⟩ with listener | ⟨socketed,member,same⟩
  · revert listener
    decide
  · have only : socketed = ⟨Connection.initial 0,4,5⟩ := by
      refine List.mem_singleton.mp ?_
      exact member
    subst only
    revert same
    decide

end PollServer
end Xtracepp
