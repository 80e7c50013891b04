import Xtracepp.DisplayName

/-! The choice of an address for a display that is reached through the internet, among what
`getaddrinfo` gives.
-/
namespace Xtracepp
open Library.Outcome

namespace DisplayInfo

inductive Direction
  | IN
  | OUT
  deriving DecidableEq, Repr

/-- `addrinfo`, with the bytes that `ai_addr` points to. -/
structure AddrInfo where
  ai_family : AddressFamily
  ai_socktype : Int
  ai_protocol : Int
  ai_addrlen : Nat
  ai_addr : List UInt8
  deriving DecidableEq, Repr

def X_TCP_PORT : Int := 6000

/-- `sizeof( inaddr )` -/
def inaddrSz : Nat := 16

/-- `sizeof( in6addr )` -/
def in6addrSz : Nat := 28

/-- `htons( port )` into `sin_port` or `sin6_port`, which are in the same place. -/
def setPort (addr : List UInt8) (port : Int) : List UInt8 :=
  (addr.set 2 (UInt8.ofNat ((port / 256 % 256).toNat))).set 3 (UInt8.ofNat ((port % 256).toNat))

/-- A result as it is when `bind` or `connect` is tried. -/
def prepared (direction : Direction) (display : Int) (result : AddrInfo) : AddrInfo :=
  if direction = .OUT then
    { result with ai_addr := setPort result.ai_addr (X_TCP_PORT + display) }
  else result

/-- `viable_result`, where `succeeds` tells which of the attempts do. -/
def findViable (direction : Direction) (display : Int) (succeeds : Nat → Bool) :
    Nat → List AddrInfo → Option AddrInfo
  | _,[] => none
  | i,result :: rest =>
    if succeeds i then some (prepared direction display result)
    else findViable direction display succeeds (i + 1) rest

/-- A copy of a whole address type from the bytes of a result. -/
def copyAddress (addr : List UInt8) (size : Nat) : Checked (List UInt8) :=
  if size ≤ addr.length then return addr.take size
  else .error (.undefined "read past the end of ai_addr")

/-- What is done with the results. -/
def selectResult (info : DisplayInfo) (direction : Direction) (succeeds : Nat → Bool)
    (results : List AddrInfo) : Checked DisplayInfo := do
  match results,findViable direction info.display succeeds 0 results with
  | first :: _,some viable_result =>
    let info := { info with
      ai_family := first.ai_family, ai_socktype := first.ai_socktype
      ai_protocol := first.ai_protocol, ai_addrlen := first.ai_addrlen }
    if info.ai_family = .AF_INET then
      let inaddr ← copyAddress viable_result.ai_addr inaddrSz
      assert "ai_addrlen == sizeof( inaddr )" (info.ai_addrlen = inaddrSz)
      return { info with ai_addr := .inet inaddr }
    else
      let in6addr ← copyAddress viable_result.ai_addr in6addrSz
      assert "viable_result->ai_addrlen == sizeof( in6addr )" (viable_result.ai_addrlen = in6addrSz)
      return { info with ai_addr := .inet6 in6addr }
  | _,_ => .error .exited

/-- The part for the internet. `getaddrinfo` is given the node and whether the address is to be
bound, and fails or gives a list. -/
def selectAddress (getaddrinfo : Option Text → Bool → Option (List AddrInfo)) (direction : Direction)
    (succeeds : Nat → Bool) (info : DisplayInfo) : Checked DisplayInfo := do
  assert "ai_family == AF_INET || ai_family == AF_INET6"
    (info.ai_family = .AF_INET ∨ info.ai_family = .AF_INET6)
  let node := if direction = .IN then none else some info.hostname
  match getaddrinfo node (direction = .IN) with
  | none => .error .exited
  | some results => selectResult info direction succeeds results

/-- The constructor. -/
def construct (stat : Text → Option Nat) (getaddrinfo : Option Text → Bool → Option (List AddrInfo))
    (succeeds : Nat → Bool) (display_name : Text) (direction : Direction) : Checked DisplayInfo := do
  let info ← parse stat display_name
  if info.ai_family = .AF_UNIX then return info
  else selectAddress getaddrinfo direction succeeds info

theorem parse_numbered {stat : Text → Option Nat} {name : Text} {info : DisplayInfo}
    (done : parse stat name = .ok info) : 0 ≤ info.display ∧ familyOf info.protocol = some info.ai_family := by
  obtain ⟨other,groups,found⟩ := parse_done done
  rw [parse] at done
  obtain ⟨⟨tokens,captured⟩,parsed,rest⟩ := bind_success done
  rw [parseTokens,other] at parsed
  dsimp only at parsed
  rw [found] at parsed
  obtain ⟨_,counted⟩ := demand_bind_success parsed
  obtain ⟨number,stoid,counted⟩ := bind_success counted
  obtain ⟨screen,_,counted⟩ := bind_success counted
  cases counted
  have natural : 0 ≤ number := by
    rw [stoi] at stoid
    split at stoid
    · cases stoid
      exact Int.natCast_nonneg _
    · cases stoid
  dsimp only at rest
  split at rest
  · cases rest
  · rename_i family known
    obtain ⟨_,completed⟩ := demand_bind_success rest
    split at completed
    · obtain ⟨path,_,written⟩ := bind_success completed
      split at written
      · cases written
        exact ⟨natural,known⟩
      · cases written
    · cases completed
      exact ⟨natural,known⟩

theorem familyOf_internet {protocol : Text} {family : AddressFamily}
    (known : familyOf protocol = some family) (other : family ≠ .AF_UNIX) :
    family = .AF_INET ∨ family = .AF_INET6 := by
  unfold familyOf at known
  split at known
  · exact .inr (Option.some.inj known).symm
  · split at known
    · exact .inl (Option.some.inj known).symm
    · split at known
      · exact absurd (Option.some.inj known).symm other
      · cases known

/-- The port in an address. -/
def portOf (addr : List UInt8) : Nat := 256 * (addr.getD 2 0).toNat + (addr.getD 3 0).toNat

section ports

variable {addr : List UInt8} {port : Int}

theorem setPort_length : (setPort addr port).length = addr.length := by
  rw [setPort,List.length_set,List.length_set]

theorem setPort_around : (setPort addr port).take 2 = addr.take 2 ∧ (setPort addr port).drop 4 = addr.drop 4 := by
  constructor
  · rw [setPort,List.take_set_of_le (by decide),List.take_set_of_le (by decide)]
  · rw [setPort,List.drop_set_of_lt (by decide),List.drop_set_of_lt (by decide)]

theorem portOf_setPort (long : 4 ≤ addr.length) (natural : 0 ≤ port) (small : port ≤ 65535) :
    (portOf (setPort addr port) : Int) = port := by
  have high : (setPort addr port).getD 2 0 = UInt8.ofNat ((port / 256 % 256).toNat) := by
    rw [List.getD_eq_getElem _ _ (by rw [setPort_length]; omega)]
    simp [setPort]
  have low : (setPort addr port).getD 3 0 = UInt8.ofNat ((port % 256).toNat) := by
    rw [List.getD_eq_getElem _ _ (by rw [setPort_length]; omega)]
    simp [setPort]
  rw [portOf,high,low,UInt8.toNat_ofNat',UInt8.toNat_ofNat']
  omega

end ports

/-- A result as `getaddrinfo` gives it for a socket of the internet. -/
structure Usual (result : AddrInfo) : Prop where
  length : result.ai_addr.length = result.ai_addrlen
  family : result.ai_family = .AF_INET ∧ result.ai_addrlen = inaddrSz ∨
    result.ai_family = .AF_INET6 ∧ result.ai_addrlen = in6addrSz

/-- The first result whose attempt succeeds. -/
structure FirstViable (succeeds : Nat → Bool) (results : List AddrInfo) (i : Nat) (result : AddrInfo) :
    Prop where
  here : results[i]? = some result
  viable : succeeds i = true
  earlier : ∀ j < i,succeeds j = false

/-- The families that a protocol asks for. `tcp`, which stands for no protocol too, is IPv6 with
IPv4 support and takes either. -/
def asksFor (protocol : Text) (family : AddressFamily) : Bool :=
  protocol == TCP || familyOf protocol == some family

/-- All fields are those of one result, of a family that the protocol asks for and with the port. -/
structure Selected (token : Text) (port : Int) (result : AddrInfo) (info : DisplayInfo) :
    Prop where
  family : info.ai_family = result.ai_family
  socktype : info.ai_socktype = result.ai_socktype
  protocol : info.ai_protocol = result.ai_protocol
  addrlen : info.ai_addrlen = result.ai_addrlen
  asked : asksFor token result.ai_family = true
  address : ∃ bytes,info.ai_addr = (if result.ai_family = .AF_INET then .inet bytes else .inet6 bytes) ∧
    bytes.take 2 = result.ai_addr.take 2 ∧ bytes.drop 4 = result.ai_addr.drop 4 ∧
      (portOf bytes : Int) = port

/-- The first result agrees with the viable one, which is of a family that the protocol asks for
and which has the port already if it is not set. -/
structure Agreeing (direction : Direction) (token : Text) (port : Int)
    (first result : AddrInfo) : Prop where
  family : first.ai_family = result.ai_family
  socktype : first.ai_socktype = result.ai_socktype
  protocol : first.ai_protocol = result.ai_protocol
  asked : asksFor token result.ai_family = true
  port : direction = .OUT ∨ (portOf result.ai_addr : Int) = port

section selection

variable {direction : Direction} {display : Int} {succeeds : Nat → Bool}

theorem findViable_some (results : List AddrInfo) :
    ∀ {start : Nat} {viable : AddrInfo},findViable direction display succeeds start results = some viable ↔
      ∃ i result,FirstViable (fun j => succeeds (start + j)) results i result ∧
        viable = prepared direction display result := by
  induction results with
  | nil =>
    intro start viable
    constructor
    · intro found
      cases found
    · rintro ⟨i,result,first,_⟩
      have here := first.here
      cases here
  | cons result results ih =>
    intro start viable
    rw [findViable]
    by_cases good : succeeds start = true
    · rw [if_pos good]
      constructor
      · intro found
        refine ⟨0,result,⟨rfl,good,fun j early => absurd early (Nat.not_lt_zero j)⟩,?_⟩
        exact (Option.some.inj found).symm
      · rintro ⟨i,other,first,rfl⟩
        cases i with
        | zero =>
          obtain rfl : result = other := Option.some.inj first.here
          rfl
        | succ i =>
          have refused := first.earlier 0 (Nat.zero_lt_succ i)
          rw [Nat.add_zero,good] at refused
          cases refused
    · rw [if_neg good,ih]
      have shift (j : Nat) : start + 1 + j = start + (j + 1) := by omega
      constructor
      · rintro ⟨i,other,first,rfl⟩
        refine ⟨i + 1,other,⟨first.here,?_,fun j early => ?_⟩,rfl⟩
        · rw [← shift]
          exact first.viable
        · cases j with
          | zero => exact Bool.eq_false_iff.mpr good
          | succ j =>
            rw [← shift]
            exact first.earlier j (by omega)
      · rintro ⟨i,other,first,rfl⟩
        cases i with
        | zero => exact absurd first.viable good
        | succ i =>
          refine ⟨i,other,⟨first.here,?_,fun j early => ?_⟩,rfl⟩
          · rw [shift]
            exact first.viable
          · rw [shift]
            exact first.earlier (j + 1) (by omega)

theorem FirstViable.unique {results : List AddrInfo} {i j : Nat} {result other : AddrInfo}
    (first : FirstViable succeeds results i result) (second : FirstViable succeeds results j other) :
    result = other := by
  have same : i = j := by
    rcases Nat.lt_trichotomy i j with less | same | more
    · have refused := second.earlier i less
      rw [first.viable] at refused
      cases refused
    · exact same
    · have refused := first.earlier j more
      rw [second.viable] at refused
      cases refused
  subst same
  exact Option.some.inj (first.here.symm.trans second.here)

theorem selectResult_done {info : DisplayInfo} {first result : AddrInfo} {others : List AddrInfo}
    (found : findViable direction info.display succeeds 0 (first :: others) =
      some (prepared direction info.display result))
    (usual : Usual result) (same : first.ai_family = result.ai_family) (usualFirst : Usual first) :
    selectResult info direction succeeds (first :: others) =
      .ok { info with
        ai_family := first.ai_family, ai_socktype := first.ai_socktype
        ai_protocol := first.ai_protocol, ai_addrlen := first.ai_addrlen
        ai_addr := if result.ai_family = .AF_INET
          then .inet (prepared direction info.display result).ai_addr
          else .inet6 (prepared direction info.display result).ai_addr } := by
  have length : (prepared direction info.display result).ai_addr.length = result.ai_addrlen := by
    rw [prepared]
    split
    · exact setPort_length.trans usual.length
    · exact usual.length
  have whole : copyAddress (prepared direction info.display result).ai_addr result.ai_addrlen =
      .ok (prepared direction info.display result).ai_addr := by
    rw [copyAddress,if_pos (Nat.le_of_eq length.symm),List.take_of_length_le (Nat.le_of_eq length),pure_ok]
  unfold selectResult
  rw [found]
  dsimp only
  rcases usual.family with ⟨inet,size⟩ | ⟨inet6,size⟩
  · have firstSize : first.ai_addrlen = inaddrSz := by
      rcases usualFirst.family with ⟨_,given⟩ | ⟨other,_⟩
      · exact given
      · rw [same,inet] at other
        cases other
    rw [if_pos (same.trans inet),if_pos inet,← size,whole,ok_bind,size,assert,demand_true firstSize,
      ok_bind,pure_ok]
  · have other : result.ai_family ≠ .AF_INET := by
      rw [inet6]
      decide
    have kept : (prepared direction info.display result).ai_addrlen = in6addrSz := by
      rw [prepared]
      split <;> exact size
    rw [if_neg (by rw [same]; exact other),if_neg other,← size,whole,ok_bind,size,assert,
      demand_true kept,ok_bind,pure_ok]

theorem selectResult_first {info final : DisplayInfo} {results : List AddrInfo}
    (done : selectResult info direction succeeds results = .ok final) :
    ∃ first others,results = first :: others ∧ final.ai_family = first.ai_family ∧
      final.ai_socktype = first.ai_socktype ∧ final.ai_protocol = first.ai_protocol ∧
        ∃ viable,findViable direction info.display succeeds 0 results = some viable := by
  unfold selectResult at done
  split at done
  · rename_i first others viable found
    refine ⟨first,others,rfl,?_⟩
    dsimp only at done
    split at done
    · obtain ⟨inaddr,_,checked⟩ := bind_success done
      obtain ⟨_,given⟩ := demand_bind_success checked
      cases given
      exact ⟨rfl,rfl,rfl,viable,found⟩
    · obtain ⟨in6addr,_,checked⟩ := bind_success done
      obtain ⟨_,given⟩ := demand_bind_success checked
      cases given
      exact ⟨rfl,rfl,rfl,viable,found⟩
  · cases done

end selection

/-- The choice is consistent exactly when the first result agrees with the first viable one,
which is of a family that is asked for and has the port. -/
theorem construct_selects {stat : Text → Option Nat}
    {getaddrinfo : Option Text → Bool → Option (List AddrInfo)} {display_name : Text}
    {direction : Direction} {info : DisplayInfo} {results : List AddrInfo}
    (parsed : parse stat display_name = .ok info) (internet : info.ai_family ≠ .AF_UNIX)
    (small : 6000 + info.display ≤ 65535)
    (given : getaddrinfo (if direction = .IN then none else some info.hostname) (direction = .IN) =
      some results)
    (usual : ∀ result ∈ results,Usual result) (nonempty : results ≠ []) (succeeds : Nat → Bool) :
    (∃ final i result,construct stat getaddrinfo succeeds display_name direction = .ok final ∧
      FirstViable succeeds results i result ∧
        Selected info.protocol (6000 + info.display) result final) ↔
      ∃ i result,FirstViable succeeds results i result ∧
        Agreeing direction info.protocol (6000 + info.display) (results.head nonempty) result := by
  obtain ⟨natural,known⟩ := parse_numbered parsed
  have family := familyOf_internet known internet
  have shape : construct stat getaddrinfo succeeds display_name direction =
      selectResult info direction succeeds results := by
    rw [construct,parsed,ok_bind,if_neg internet,selectAddress,assert,demand_true family,ok_bind]
    dsimp only
    rw [given]
  rw [shape]
  obtain ⟨first,others,rfl⟩ := List.exists_cons_of_ne_nil nonempty
  rw [List.head_cons]
  have shift : (fun j => succeeds (0 + j)) = succeeds := by
    funext j
    rw [Nat.zero_add]
  constructor
  · rintro ⟨final,i,result,done,viable,selected⟩
    obtain ⟨first',others',same,familyEq,socktypeEq,protocolEq,_⟩ := selectResult_first done
    obtain ⟨rfl,rfl⟩ := List.cons.inj same
    have agrees : first.ai_family = result.ai_family := familyEq.symm.trans selected.family
    have member := List.mem_of_getElem? viable.here
    have found := (@findViable_some direction info.display succeeds (first :: others) 0 _).mpr
      ⟨i,result,by rw [shift]; exact viable,rfl⟩
    rw [selectResult_done found (usual result member) agrees (usual first List.mem_cons_self)] at done
    refine ⟨i,result,viable,agrees,socktypeEq.symm.trans selected.socktype,
      protocolEq.symm.trans selected.protocol,selected.asked,?_⟩
    cases direction with
    | OUT => exact .inl rfl
    | IN =>
      obtain ⟨bytes,address,_,_,port⟩ := selected.address
      obtain rfl := Except.ok.inj done
      right
      have same : bytes = result.ai_addr := by
        dsimp only at address
        split at address
        · exact (SocketAddress.inet.inj address).symm
        · exact (SocketAddress.inet6.inj address).symm
      rwa [same] at port
  · rintro ⟨i,result,viable,agreeing⟩
    have member := List.mem_of_getElem? viable.here
    have found := (@findViable_some direction info.display succeeds (first :: others) 0 _).mpr
      ⟨i,result,by rw [shift]; exact viable,rfl⟩
    have usualResult := usual result member
    have usualFirst := usual first List.mem_cons_self
    have done := selectResult_done found usualResult agreeing.family usualFirst
    have long : 4 ≤ result.ai_addr.length := by
      rw [usualResult.length]
      rcases usualResult.family with ⟨_,size⟩ | ⟨_,size⟩ <;> rw [size] <;> decide
    have addrlen : first.ai_addrlen = result.ai_addrlen := by
      rcases usualFirst.family with ⟨one,size⟩ | ⟨one,size⟩ <;>
        rcases usualResult.family with ⟨two,size'⟩ | ⟨two,size'⟩
      · rw [size,size']
      · rw [agreeing.family,two] at one
        cases one
      · rw [agreeing.family,two] at one
        cases one
      · rw [size,size']
    refine ⟨_,i,result,done,viable,agreeing.family,agreeing.socktype,agreeing.protocol,addrlen,
      agreeing.asked,(prepared direction info.display result).ai_addr,rfl,?_⟩
    rw [prepared]
    split
    · exact ⟨setPort_around.1,setPort_around.2,portOf_setPort long (by unfold X_TCP_PORT; omega) small⟩
    · rename_i inward
      rcases agreeing.port with out | port
      · exact absurd out inward
      · exact ⟨rfl,rfl,port⟩

/-- A display that is asked for in the older family. -/
def inetName : Text := ['i','n','e','t','/','h',':','1']

def inetInfo : DisplayInfo :=
  { name := inetName, protocol := INET, hostname := ['h'], display := 1, screen := 0
    ai_family := .AF_INET }

/-- A display of which no protocol is told. -/
def plainName : Text := ['h',':','1']

def plainInfo : DisplayInfo :=
  { name := plainName, protocol := TCP, hostname := ['h'], display := 1, screen := 0
    ai_family := .AF_INET6 }

def inetResult : AddrInfo := ⟨.AF_INET,SOCK_STREAM,6,16,[2,0,0,0,10,0,0,1,0,0,0,0,0,0,0,0]⟩

def otherInetResult : AddrInfo := ⟨.AF_INET,SOCK_STREAM,6,16,[2,0,0,0,10,0,0,2,0,0,0,0,0,0,0,0]⟩

def inet6Result : AddrInfo :=
  ⟨.AF_INET6,SOCK_STREAM,6,28,[10,0,0,0,0,0,0,0,32,1,0,0,0,0,0,0,0,0,0,0,0,0,0,1,0,0,0,0]⟩

theorem inetResult_usual : Usual inetResult := ⟨rfl,.inl ⟨rfl,rfl⟩⟩

theorem inet6Result_usual : Usual inet6Result := ⟨rfl,.inr ⟨rfl,rfl⟩⟩

/-- Without a protocol an address of the older family is taken too, the second of two here. -/
theorem construct_selects_second :
    ∃ final i result,construct (fun _ => none) (fun _ _ => some [inetResult,otherInetResult]) (· == 1)
        plainName .OUT = .ok final ∧
      FirstViable (· == 1) [inetResult,otherInetResult] i result ∧
        Selected plainInfo.protocol (6000 + plainInfo.display) result final := by
  have usual : ∀ result ∈ [inetResult,otherInetResult],Usual result :=
    List.forall_mem_cons.mpr ⟨inetResult_usual,List.forall_mem_singleton.mpr ⟨rfl,.inl ⟨rfl,rfl⟩⟩⟩
  refine (@construct_selects (fun _ => none) (fun _ _ => some [inetResult,otherInetResult]) plainName .OUT
    plainInfo [inetResult,otherInetResult] rfl (by decide) (by decide) rfl usual (List.cons_ne_nil _ _)
      (· == 1)).mpr ⟨1,otherInetResult,⟨rfl,rfl,fun j early => ?_⟩,rfl,rfl,rfl,rfl,.inl rfl⟩
  obtain rfl : j = 0 := by omega
  rfl

/-- The second of two results is viable, and its address is read as one of the first's family. -/
theorem construct_mixed :
    parse (fun _ => none) inetName = .ok inetInfo ∧
      (∀ result ∈ [inet6Result,inetResult],Usual result) ∧
        FirstViable (· == 1) [inet6Result,inetResult] 1 inetResult ∧
          ¬∃ final i result,construct (fun _ => none) (fun _ _ => some [inet6Result,inetResult]) (· == 1)
              inetName .OUT = .ok final ∧
            FirstViable (· == 1) [inet6Result,inetResult] i result ∧
              Selected inetInfo.protocol (6000 + inetInfo.display) result final := by
  refine ⟨rfl,List.forall_mem_cons.mpr ⟨inet6Result_usual,List.forall_mem_singleton.mpr inetResult_usual⟩,
    ⟨rfl,rfl,fun j early => ?_⟩,?_⟩
  · obtain rfl : j = 0 := by omega
    rfl
  · rintro ⟨final,i,result,done,_⟩
    have failed : construct (fun _ => none) (fun _ _ => some [inet6Result,inetResult]) (· == 1) inetName
        .OUT = .error (.undefined "read past the end of ai_addr") := by rfl
    rw [failed] at done
    cases done

end DisplayInfo
end Xtracepp
