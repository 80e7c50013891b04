import Xtracepp.RoundFacts
import Xtracepp.System

/-! What a step of the proxy can be: one case for each way a label's step can end,
with all that was read and all that changed.
-/
namespace Xtracepp
open Library.Outcome Library.Window

namespace Proxy

inductive StepCase (settings : Settings) (proxy : Proxy) : Label → Proxy → Prop
  | accept (idle : proxy.loop = none) :
      StepCase settings proxy .accept
        { proxy.withConnection (proxy.accepted % 2^32)
            ((proxy.connections (proxy.accepted % 2^32)).or
              (some (Connection.initial proxy.accepted))) with
          accepted := proxy.accepted + 1 }
  | readClosed (id : Nat) (direction : Direction) (result : RecvResult) (conn : Connection)
      (idle : proxy.loop = none) (found : proxy.connections id = some conn)
      (polled : conn.polledInput direction = true)
      (ended : readFrom direction conn result = .ok none) :
      StepCase settings proxy (.receive id direction result) (proxy.closeConnection id)
  | received (id : Nat) (direction : Direction) (result : RecvResult) (conn next : Connection)
      (idle : proxy.loop = none) (found : proxy.connections id = some conn)
      (polled : conn.polledInput direction = true)
      (fits : (SocketBuffer.arrived result).length ≤ (conn.buffer direction).bytesToRead)
      (read : readFrom direction conn result = .ok (some next)) :
      StepCase settings proxy (.receive id direction result)
        { proxy.withConnection id (some next) with
          loop := some ⟨id,direction,(next.buffer direction).data⟩ }
  | lost (loop : Loop) (running : proxy.loop = some loop)
      (absent : proxy.connections loop.id = none) :
      StepCase settings proxy .round { proxy with loop := none }
  | finished (loop : Loop) (conn next : Connection) (running : proxy.loop = some loop)
      (found : proxy.connections loop.id = some conn)
      (round : messageRound settings loop.direction proxy.parser conn loop.data =
        .ok (.finished next)) :
      StepCase settings proxy .round
        { proxy.withConnection loop.id (some next) with loop := none }
  | refused (loop : Loop) (conn : Connection) (text : String) (running : proxy.loop = some loop)
      (found : proxy.connections loop.id = some conn)
      (round : messageRound settings loop.direction proxy.parser conn loop.data =
        .ok (.refused text)) :
      StepCase settings proxy .round (proxy.closeConnection loop.id)
  | handled (loop : Loop) (conn : Connection) (handler : Option Handler) (logged : Logged)
      (running : proxy.loop = some loop) (found : proxy.connections loop.id = some conn)
      (round : messageRound settings loop.direction proxy.parser conn loop.data =
        .ok (.handled handler logged)) :
      StepCase settings proxy .round
        { proxy.withConnection loop.id (some logged.conn) with
          parser := logged.parser
          loop := some { loop with data := loop.data + logged.bytesParsed } }
  | sendClosed (id : Nat) (direction : Direction) (result : SendResult) (conn : Connection)
      (idle : proxy.loop = none) (found : proxy.connections id = some conn)
      (polled : conn.polledOutput direction = true)
      (ended : writeTo settings direction conn result = .ok none) :
      StepCase settings proxy (.send id direction result) (proxy.closeConnection id)
  | sent (id : Nat) (direction : Direction) (result : SendResult) (conn next : Connection)
      (idle : proxy.loop = none) (found : proxy.connections id = some conn)
      (polled : conn.polledOutput direction = true)
      (fits : result.count ≤ (conn.buffer direction).bytesParsed)
      (written : writeTo settings direction conn result = .ok (some next)) :
      StepCase settings proxy (.send id direction result) (proxy.withConnection id (some next))
  | pollError (id : Nat) (idle : proxy.loop = none) :
      StepCase settings proxy (.pollError id) (proxy.closeConnection id)

theorem step_case {settings : Settings} {proxy after : Proxy} {label : Label}
    (enabled : label.Enabled proxy) (ok : proxy.step settings label = .ok after) :
    StepCase settings proxy label after := by
  cases label with
  | accept =>
    cases ok
    exact .accept enabled
  | receive id direction result =>
    obtain ⟨idle,conn,found,polled,fits⟩ := enabled
    rw [Option.mem_def] at found
    simp only [step,found] at ok
    obtain ⟨next,read,ok⟩ := bind_success ok
    cases next with
    | none =>
      cases ok
      exact .readClosed id direction result conn idle found polled read
    | some next =>
      cases ok
      exact .received id direction result conn next idle found polled fits read
  | round =>
    cases running : proxy.loop with
    | none => exact absurd running enabled
    | some loop =>
      simp only [step,running] at ok
      cases found : proxy.connections loop.id with
      | none =>
        simp only [found,pure_ok,Except.ok.injEq] at ok
        subst ok
        exact .lost loop running found
      | some conn =>
        simp only [found] at ok
        obtain ⟨round,taken,ok⟩ := bind_success ok
        cases round with
        | finished next =>
          cases ok
          exact .finished loop conn next running found taken
        | refused text =>
          cases ok
          exact .refused loop conn text running found taken
        | handled handler logged =>
          cases ok
          exact .handled loop conn handler logged running found taken
  | send id direction result =>
    obtain ⟨idle,conn,found,polled,fits⟩ := enabled
    rw [Option.mem_def] at found
    simp only [step,found] at ok
    obtain ⟨next,written,ok⟩ := bind_success ok
    cases next with
    | none =>
      cases ok
      exact .sendClosed id direction result conn idle found polled written
    | some next =>
      cases ok
      exact .sent id direction result conn next idle found polled fits written
  | pollError id =>
    cases ok
    exact .pollError id enabled.1

end Proxy

theorem World.step_success {settings : Settings} {world after : World} {label : Label}
    (taken : World.Step settings world label after) :
    world.proxy.step settings label = .ok after.proxy ∧
      after.history = world.record settings label := by
  obtain ⟨proxy,stepped,rest⟩ := bind_success taken
  cases rest
  exact ⟨stepped,rfl⟩

section polling

variable {conn : Connection} {direction : Direction}

theorem updatePollFlags_success {flags : PollFlags} (ok : updatePollFlags conn = .ok flags) :
    ∀ direction, flags.input direction = (conn.buffer direction).readReady ∧
      flags.output direction = !(conn.buffer direction).readReady ∧
        ((conn.buffer direction).readReady = false →
          (conn.buffer direction).writeReady = true) := by
  unfold updatePollFlags at ok
  cases client : conn.clientBuffer.readReady <;> cases server : conn.serverBuffer.readReady <;>
    simp only [client,server,Bool.false_eq_true,if_false,if_true,pure_ok,ok_bind] at ok
  · obtain ⟨clientReady,ok⟩ := demand_bind_success ok
    obtain ⟨serverReady,ok⟩ := demand_bind_success ok
    cases ok
    intro direction
    cases direction <;> simp [PollFlags.input,PollFlags.output,Connection.buffer, *]
  · obtain ⟨clientReady,ok⟩ := demand_bind_success ok
    cases ok
    intro direction
    cases direction <;> simp [PollFlags.input,PollFlags.output,Connection.buffer, *]
  · obtain ⟨serverReady,ok⟩ := demand_bind_success ok
    cases ok
    intro direction
    cases direction <;> simp [PollFlags.input,PollFlags.output,Connection.buffer, *]
  · cases ok
    intro direction
    cases direction <;> simp [PollFlags.input,PollFlags.output,Connection.buffer, *]

theorem polledOutput_ready (polled : conn.polledOutput direction = true) :
    (conn.buffer direction).readReady = false := by
  unfold Connection.polledOutput at polled
  rw [Bool.and_eq_true,Bool.not_eq_true'] at polled
  exact polled.1

end polling

section sockets

variable {settings : Settings} {conn : Connection} {direction : Direction}

theorem readFrom_left {next : Connection} {result : RecvResult}
    (ok : readFrom direction conn result = .ok (some next)) :
    ∃ buffer, next = conn.withBuffer direction buffer := by
  obtain ⟨⟨buffer,bytesRead,readError⟩,_,ok⟩ := bind_success ok
  dsimp only at ok
  split at ok
  · cases ok
  · obtain ⟨_,ok⟩ := demand_bind_success ok
    cases ok
    exact ⟨buffer,rfl⟩

theorem writeTo_left {next : Connection} {result : SendResult}
    (ok : writeTo settings direction conn result = .ok (some next)) :
    ∃ buffer, next = conn.withBuffer direction buffer := by
  obtain ⟨⟨buffer,bytesWritten,writeError⟩,_,ok⟩ := bind_success ok
  dsimp only at ok
  split at ok
  · cases ok
  · obtain ⟨_,ok⟩ := demand_bind_success ok
    cases ok
    exact ⟨buffer,rfl⟩

/-- Growing and storing keep the vector's owner; without growth nothing moves and only
the bytes read are new. -/
theorem readFrom_storage {next : Connection} {result : RecvResult}
    (ok : readFrom direction conn result = .ok (some next)) :
    (next.buffer direction).buffer.owner = (conn.buffer direction).buffer.owner ∧
      ((conn.buffer direction).bytesToRead ≤ (conn.buffer direction).capacity →
        (next.buffer direction).buffer =
          { (conn.buffer direction).buffer with
            cells := overlay (conn.buffer direction).buffer.cells (conn.buffer direction).bytesRead
              (SocketBuffer.arrived result) }) := by
  obtain ⟨⟨buffer,bytesRead,readError⟩,read,ok⟩ := bind_success ok
  obtain ⟨grown,reserved,read⟩ := bind_success read
  have kept : grown.buffer.owner = (conn.buffer direction).buffer.owner ∧
      ((conn.buffer direction).bytesToRead ≤ (conn.buffer direction).capacity →
        grown = conn.buffer direction) := by
    unfold SocketBuffer.reserve at reserved
    split at reserved
    · rename_i wanting
      obtain ⟨storage,resized,reserved⟩ := bind_success reserved
      obtain ⟨_,reserved⟩ := demand_bind_success reserved
      cases reserved
      unfold Storage.resize at resized
      split at resized
      · cases resized
        exact ⟨rfl,fun enough => by omega⟩
      · cases resized
    · cases reserved
      exact ⟨rfl,fun _ => rfl⟩
  cases result with
  | failed reason =>
    cases read
    simp at ok
  | received bytes =>
    obtain ⟨storage,stored,read⟩ := bind_success read
    obtain ⟨_,rfl⟩ := Storage.store_success stored
    cases read
    dsimp only at ok
    split at ok
    · cases ok
    · obtain ⟨_,ok⟩ := demand_bind_success ok
      cases ok
      rw [Connection.withBuffer_buffer]
      refine ⟨kept.1,fun enough => ?_⟩
      rw [kept.2 enough]
      rfl

/-- What a read that does not close the connection did to the buffer. -/
structure ReadEffect (direction : Direction) (conn next : Connection) (result : RecvResult)
    (grown : SocketBuffer) (bytes : List UInt8) : Prop where
  growth : SocketBuffer.Grown (conn.buffer direction) grown (conn.buffer direction).bytesToRead
  unmoved : (conn.buffer direction).bytesToRead ≤ (conn.buffer direction).capacity →
    grown = conn.buffer direction
  result : result = .received bytes
  some : bytes ≠ []
  short : bytes.length ≤ (conn.buffer direction).bytesToRead
  room : grown.bytesRead + bytes.length ≤ grown.buffer.size
  sound : grown.Sound
  left : next = conn.withBuffer direction (grown.appended bytes)

theorem readFrom_success {next : Connection} {result : RecvResult}
    (sound : (conn.buffer direction).Sound)
    (bound : (conn.buffer direction).bytesRead + (conn.buffer direction).bytesToRead ≤
      2^64 - SocketBuffer.blockSz)
    (fits : (SocketBuffer.arrived result).length ≤ (conn.buffer direction).bytesToRead)
    (ok : readFrom direction conn result = .ok (some next)) :
    ∃ grown bytes, ReadEffect direction conn next result grown bytes := by
  obtain ⟨⟨buffer,bytesRead,readError⟩,read,ok⟩ := bind_success ok
  rcases SocketBuffer.reserve_spec sound "capacity() >= bytes_to_read" _ bound with
    refused | ⟨grown,reserved,growth,unmoved⟩
  · simp [SocketBuffer.readSocket,SocketBuffer.read,refused] at read
  · simp only [SocketBuffer.readSocket,SocketBuffer.read,reserved,ok_bind] at read
    cases result with
    | failed reason =>
      cases read
      simp at ok
    | received bytes =>
      have grownSound := growth.sound sound
      have room : grown.bytesRead + bytes.length ≤ grown.buffer.size := by
        rw [growth.read]
        exact Nat.le_trans (Nat.add_le_add_left fits _) growth.room
      obtain ⟨stored,counted⟩ := SocketBuffer.store_appended grownSound bytes room
      simp only [stored,counted,ok_bind,pure_ok,Except.ok.injEq,Prod.mk.injEq] at read
      obtain ⟨rfl,rfl,rfl⟩ := read
      by_cases none : bytes = []
      · simp [none] at ok
      · have nonempty : bytes.length ≠ 0 := fun zero => none (List.length_eq_zero_iff.mp zero)
        simp only [Option.isSome_none,Bool.false_eq_true,nonempty,or_self,if_false] at ok
        obtain ⟨_,ok⟩ := demand_bind_success ok
        cases ok
        exact ⟨grown,bytes,⟨growth,unmoved,rfl,none,fits,room,grownSound,rfl⟩⟩

/-- A read that closes the connection found the end of the stream or failed. -/
theorem readFrom_closed {result : RecvResult}
    (ok : readFrom direction conn result = .ok none) : SocketBuffer.arrived result = [] := by
  obtain ⟨⟨buffer,bytesRead,readError⟩,read,ok⟩ := bind_success ok
  cases result with
  | failed reason => rfl
  | received bytes =>
    obtain ⟨grown,_,read⟩ := bind_success read
    obtain ⟨storage,_,read⟩ := bind_success read
    cases read
    by_cases none : bytes = []
    · exact none
    · have nonempty : bytes.length ≠ 0 := fun zero => none (List.length_eq_zero_iff.mp zero)
      simp only [Option.isSome_none,Bool.false_eq_true,nonempty,or_self,if_false] at ok
      obtain ⟨_,ok⟩ := demand_bind_success ok
      cases ok

/-- What a write that does not close the connection did to the buffer. -/
structure WriteEffect (direction : Direction) (conn next : Connection) (result : SendResult)
    (count : Nat) : Prop where
  result : result = .sent count
  some : 0 < count
  short : count ≤ (conn.buffer direction).bytesParsed
  left : next = conn.withBuffer direction
    (if count = (conn.buffer direction).size then (conn.buffer direction).cleared
     else (conn.buffer direction).advanced count ((conn.buffer direction).bytesParsed - count))

theorem writeTo_success {next : Connection} {result : SendResult}
    (sound : (conn.buffer direction).Sound)
    (fits : result.count ≤ (conn.buffer direction).bytesParsed)
    (ok : writeTo settings direction conn result = .ok (some next)) :
    ∃ count, WriteEffect direction conn next result count := by
  obtain ⟨⟨buffer,bytesWritten,writeError⟩,written,ok⟩ := bind_success ok
  obtain ⟨_,written⟩ := demand_bind_success written
  cases result with
  | failed reason =>
    cases written
    simp at ok
  | sent count =>
    have bound := sound.parsed_le
    have bounded := sound.read_lt
    have ordered := sound.writtenLe
    have total := sound.size_eq
    obtain ⟨_,written⟩ := demand_bind_success written
    have advance : add64 (conn.buffer direction).bytesWritten count =
        (conn.buffer direction).bytesWritten + count := by
      change count ≤ _ at fits
      exact add64_small (by omega)
    have rest : sub64 (conn.buffer direction).bytesParsed count =
        (conn.buffer direction).bytesParsed - count := by
      change count ≤ _ at fits
      exact sub64_small fits (by omega)
    have drained := SocketBuffer.clearIfDrained_spec sound count
      ((conn.buffer direction).bytesParsed - count) (by change count ≤ _ at fits; omega)
    unfold SocketBuffer.advanced at drained
    simp only [advance,rest,drained,ok_bind,pure_ok,Except.ok.injEq,Prod.mk.injEq] at written
    obtain ⟨rfl,rfl,rfl⟩ := written
    simp only [Option.isSome_none,Bool.false_eq_true,if_false] at ok
    obtain ⟨some,ok⟩ := demand_bind_success ok
    cases ok
    exact ⟨count,⟨rfl,some,fits,rfl⟩⟩

/-- Writing does not touch the storage. -/
theorem writeTo_storage {next : Connection} {result : SendResult}
    (ok : writeTo settings direction conn result = .ok (some next)) :
    (next.buffer direction).buffer = (conn.buffer direction).buffer := by
  obtain ⟨⟨buffer,bytesWritten,writeError⟩,written,ok⟩ := bind_success ok
  obtain ⟨_,written⟩ := demand_bind_success written
  have kept : buffer.buffer = (conn.buffer direction).buffer := by
    cases result with
    | failed reason =>
      cases written
      rfl
    | sent count =>
      obtain ⟨_,written⟩ := demand_bind_success written
      obtain ⟨drained,cleared,written⟩ := bind_success written
      cases written
      unfold SocketBuffer.clearIfDrained at cleared
      split at cleared
      · obtain ⟨_,cleared⟩ := demand_bind_success cleared
        cases cleared
        rfl
      · cases cleared
        rfl
  dsimp only at ok
  split at ok
  · cases ok
  · obtain ⟨_,ok⟩ := demand_bind_success ok
    cases ok
    rw [Connection.withBuffer_buffer]
    exact kept

end sockets

end Xtracepp
