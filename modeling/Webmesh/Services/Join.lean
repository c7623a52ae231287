import Webmesh.Store
import Webmesh.Net.Netip

/-!
# The join service

`Server.Join` admits a node: after the leader check it resolves the mesh's ULA prefix once,
validates the request, creates or updates the node's record, acquires an IPv4 lease when
asked, lists the other peers, adds the node to the consensus group, and answers with the
node's overlay addresses and the peer list.

The state `Join` acts on is the server's cached ULA prefix and the three store maps. The
collaborators' answers during one call (leadership, the error each remote call returns, what
`util.Random64` draws) are a `JoinEnv`; their effects on success are those of `Webmesh.Store`.
A call returns its reply, the state after it (a failure keeps every write made before it,
as the code does not roll back), and the collaborator calls it issued, in order. Each phase
of the code is a definition of its own; `join` chains them in the code's order.

An error reply is a gRPC status, whose message is built as the code builds it: the text
given to `status.Errorf` followed by the wrapped error's. It can also be a runtime panic.
The update of an existing record compares its endpoints with the request's by go-cmp's
`cmp.Equal`, and `netip.Addr` has unexported fields and no `Equal` method, so go-cmp panics
as soon as it compares two addresses (`cmpEqual`): when both lists are non-empty the handler
panics before `peers.Update`, and the call ends there with nothing written.
-/

namespace Webmesh.Services

/-- `codes.Code`, the ones `Join` returns. -/
inductive Code where
  | failedPrecondition
  | invalidArgument
  | internal
  deriving DecidableEq, Repr

/-- A gRPC status: its code and its message. -/
structure Status where
  code : Code
  message : String
  deriving DecidableEq, Repr

/-- `status.Errorf(code, msg + ": %v", err)`: the message, then the error's text. -/
def errorf (code : Code) (msg err : String) : Status := ⟨code, msg ++ ": " ++ err⟩

@[simp] theorem errorf_code (code : Code) (msg err : String) : (errorf code msg err).code = code := rfl

/-- How a `Join` call fails: it answers a status, or the handler panics. -/
inductive JoinError where
  | status (s : Status)
  | panic
  deriving DecidableEq, Repr

attribute [coe] JoinError.status

instance : Coe Status JoinError := ⟨JoinError.status⟩

/-- `v1.JoinRequest`; the ports are the message's `int32` fields. -/
structure JoinRequest where
  id : String
  publicKey : String
  primaryEndpoint : String
  endpoints : List String
  grpcPort : BitVec 32
  raftPort : BitVec 32
  wireguardPort : BitVec 32
  assignIpv4 : Bool
  preferRaftIpv6 : Bool
  asVoter : Bool
  deriving DecidableEq, Repr

/-- `v1.WireguardPeer`. -/
structure WireguardPeer where
  id : String
  publicKey : String
  primaryEndpoint : String
  endpoints : List String
  addressIpv4 : String
  addressIpv6 : String
  deriving DecidableEq, Repr

/-- `v1.JoinResponse`. -/
structure JoinResponse where
  networkIpv6 : String
  addressIpv4 : String
  peers : List WireguardPeer
  deriving DecidableEq, Repr

variable {Addr Prefix Key : Type}

/-- `peers.Node`, the record stored under `/registry/nodes/<id>`. Ports are Go `int`s. -/
structure Node (Addr Prefix Key : Type) where
  id : String
  publicKey : Key
  primaryEndpoint : Addr
  endpoints : List Addr
  grpcPort : Int
  raftPort : Int
  wireguardPort : Int
  networkIPv6 : Prefix
  deriving DecidableEq, Repr

/-- The fields of `Server` that `Join` reads and never writes: the network library, and
the IPAM allocator's choice of a fresh lease. -/
structure Server (Addr Prefix Key : Type) where
  net : Netip Addr Prefix Key
  allocate : Registry Prefix → Prefix

/-- What `Join` changes: the server's cached ULA prefix and the three store maps. -/
structure JoinState (Addr Prefix Key : Type) where
  ulaPrefix : Prefix
  peers : Registry (Node Addr Prefix Key)
  leases : Registry Prefix
  servers : Registry Member

/-- What the collaborators answer during one `Join` call. An error is its text, and a call
that returns only an error answers `none` when it succeeds. -/
structure JoinEnv (Prefix : Type) where
  isLeader : Bool
  /-- `meshstate.GetULAPrefix`, asked while no valid prefix is cached; `none` is an error. -/
  getULAPrefix : Option Prefix
  getULAPrefixError : String
  /-- The error of `peers.Get` when it is not `ErrNodeNotFound`. -/
  getPeerError : Option String
  /-- What `util.Random64` returns; `none` is an error. -/
  random64 : Option Prefix
  random64Error : String
  /-- The error of `peers.Create` or `peers.Update`. -/
  writePeerError : Option String
  acquireError : Option String
  listPeersError : Option String
  /-- The error of `AddVoter` or `AddNonVoter`. -/
  addError : Option String

/-- A collaborator call `Join` issues. -/
inductive JoinCall (Addr Prefix Key : Type) where
  | getULAPrefix
  | getPeer (id : String)
  | updatePeer (node : Node Addr Prefix Key)
  | createPeer (node : Node Addr Prefix Key)
  | acquire (id : String)
  | listPeers (id : String)
  | addVoter (id address : String)
  | addNonVoter (id address : String)
  | refreshWireguardPeers
  deriving DecidableEq, Repr

/-- The outcome of one `Join` call. -/
structure JoinResult (Addr Prefix Key : Type) where
  reply : Except JoinError JoinResponse
  state : JoinState Addr Prefix Key
  calls : List (JoinCall Addr Prefix Key)

/-! ## Validation -/

/-- What validation extracts from a request. -/
structure Parsed (Addr Key : Type) where
  publicKey : Key
  primaryEndpoint : Addr
  endpoints : List Addr
  deriving DecidableEq, Repr

section Phases

variable (net : Netip Addr Prefix Key)

/-- The loop over `req.GetEndpoints()`: the first entry that does not parse is the error. -/
def parseEndpoints : List String → Except Status (List Addr)
  | [] => .ok []
  | s :: rest =>
    match net.parseAddr s with
    | none => .error (errorf .invalidArgument "invalid endpoint" (net.parseAddrError s))
    | some a => (parseEndpoints rest).map (a :: ·)

/-- The input checks of `Join`, in the code's order. -/
def validate (req : JoinRequest) : Except Status (Parsed Addr Key) :=
  if req.id = "" then .error ⟨.invalidArgument, "node id required"⟩ else
  match net.parseKey req.publicKey with
  | none => .error (errorf .invalidArgument "invalid public key" (net.parseKeyError req.publicKey))
  | some publicKey =>
    let primaryEndpoint : Except Status Addr :=
      if req.primaryEndpoint ≠ "" then
        match net.parseAddr req.primaryEndpoint with
        | some a => .ok a
        | none => .error (errorf .invalidArgument "invalid primary endpoint"
            (net.parseAddrError req.primaryEndpoint))
      else .ok net.zeroAddr
    match primaryEndpoint with
    | .error e => .error e
    | .ok primaryEndpoint =>
      (parseEndpoints net req.endpoints).map (⟨publicKey, primaryEndpoint, ·⟩)

/-! ## The node record -/

/-- The code's pattern `if old != new { old = new }` for a field compared directly. -/
def setIfChanged {α : Type} [DecidableEq α] (old new : α) : α :=
  if old ≠ new then new else old

/-- The same pattern for a field compared by its printed form. -/
def setIfPrintedChanged {α : Type} (print : α → String) (old new : α) : α :=
  if print old ≠ print new then new else old

/-- go-cmp's `cmp.Equal` on two `[]netip.Addr`, `none` for its panic. Two lists of which one
is empty are compared without looking at an element, and are equal when both are. Otherwise
go-cmp compares elements, and the first `netip.Addr` it compares panics: the type has
unexported fields and no `Equal` method. -/
def cmpEqual (xs ys : List Addr) : Option Bool :=
  if xs.isEmpty || ys.isEmpty then some (xs.isEmpty && ys.isEmpty) else none

/-- The existing record updated field by field from the request, given what `cmp.Equal`
answered for the endpoints. The primary endpoint is only overwritten by a valid one, so an
absent endpoint keeps the old. -/
def updatedPeer (peer : Node Addr Prefix Key) (req : JoinRequest) (v : Parsed Addr Key)
    (endpointsEqual : Bool) : Node Addr Prefix Key :=
  { peer with
    publicKey := setIfPrintedChanged net.keyString peer.publicKey v.publicKey
    grpcPort := setIfChanged peer.grpcPort req.grpcPort.toInt
    raftPort := setIfChanged peer.raftPort req.raftPort.toInt
    wireguardPort := setIfChanged peer.wireguardPort req.wireguardPort.toInt
    primaryEndpoint :=
      if net.addrIsValid v.primaryEndpoint ∧
          net.addrString v.primaryEndpoint ≠ net.addrString peer.primaryEndpoint then
        v.primaryEndpoint
      else peer.primaryEndpoint
    endpoints := if !endpointsEqual then v.endpoints else peer.endpoints }

/-- The `peers.CreateOptions` of a new node, with the drawn overlay IPv6 prefix. -/
def newPeer (req : JoinRequest) (v : Parsed Addr Key) (networkIPv6 : Prefix) :
    Node Addr Prefix Key where
  id := req.id
  publicKey := v.publicKey
  primaryEndpoint := v.primaryEndpoint
  endpoints := v.endpoints
  grpcPort := req.grpcPort.toInt
  raftPort := req.raftPort.toInt
  wireguardPort := req.wireguardPort.toInt
  networkIPv6 := networkIPv6

/-- A remote call's result `x`, or `status.Errorf(codes.Internal, msg + ": %v", err)` when it
returned the error `err`. -/
def orInternal {α : Type} (err : Option String) (msg : String) (x : α) : Except Status α :=
  match err with
  | none => .ok x
  | some err => .error (errorf .internal msg err)

@[simp] theorem orInternal_eq_ok {α : Type} {err : Option String} {msg : String} {x y : α} :
    orInternal err msg x = .ok y ↔ err = none ∧ x = y := by
  cases err <;> simp [orInternal]

@[simp] theorem orInternal_eq_error {α : Type} {err : Option String} {msg : String} {x : α}
    {e : Status} : orInternal err msg x = .error e ↔ ∃ s, err = some s ∧ errorf .internal msg s = e := by
  cases err <;> simp [orInternal]

/-- The upsert: the existing record updated, or a new one created with `util.Random64`'s
draw. Returns the record written or the error, and the write issued. Comparing the endpoints
of an existing record panics when both lists are non-empty (`cmpEqual`), before the write. -/
def upsertPeer (env : JoinEnv Prefix) (old : Option (Node Addr Prefix Key)) (req : JoinRequest)
    (v : Parsed Addr Key) : Except JoinError (Node Addr Prefix Key) × List (JoinCall Addr Prefix Key) :=
  match old with
  | some peer =>
    match cmpEqual peer.endpoints v.endpoints with
    | none => (.error .panic, [])
    | some endpointsEqual =>
      let peer := updatedPeer net peer req v endpointsEqual
      ((orInternal env.writePeerError "failed to update peer" peer).mapError JoinError.status,
        [.updatePeer peer])
  | none =>
    match env.random64 with
    | none => (.error (errorf .internal "failed to generate IPv6 address" env.random64Error), [])
    | some networkIPv6 =>
      let peer := newPeer req v networkIPv6
      ((orInternal env.writePeerError "failed to create peer" peer).mapError JoinError.status,
        [.createPeer peer])

end Phases

/-! ## Lease, peers and membership -/

section Phases

variable (net : Netip Addr Prefix Key)

/-- The IPv4 lease: `Acquire(id)` when the request asks for one, else the zero prefix. -/
def assignIPv4 (allocate : Registry Prefix → Prefix) (env : JoinEnv Prefix)
    (leases : Registry Prefix) (req : JoinRequest) :
    Except Status (Prefix × Registry Prefix) × List (JoinCall Addr Prefix Key) :=
  if req.assignIpv4 then
    (orInternal env.acquireError "failed to assign IPv4" (acquire allocate leases req.id),
      [.acquire req.id])
  else (.ok (net.zeroPrefix, leases), [])

/-- Modelled from the spec: `peers.ListPeers(id)` is every record but `id`'s, each with the
IPv4 lease of its node (the zero prefix if none). -/
def listPeers (peers : Registry (Node Addr Prefix Key)) (leases : Registry Prefix) (id : String) :
    List (Node Addr Prefix Key × Prefix) :=
  (peers.erase id).entries.map fun e => (e.2, (leases.lookup e.1).getD net.zeroPrefix)

/-- The transport address handed to raft: the lease's address when the node took one and
did not prefer IPv6, else its overlay IPv6 address, with the raft port. -/
def raftAddress (req : JoinRequest) (lease : Prefix) (peer : Node Addr Prefix Key) : String :=
  if req.assignIpv4 ∧ ¬req.preferRaftIpv6 then
    joinHostPort (net.addrString (net.prefixAddr lease)) (itoa peer.raftPort)
  else joinHostPort (net.addrString (net.prefixAddr peer.networkIPv6)) (itoa peer.raftPort)

end Phases

/-- `AddVoter` or `AddNonVoter` with the node's transport address. -/
def addToCluster (env : JoinEnv Prefix) (servers : Registry Member) (req : JoinRequest)
    (address : String) : Except Status (Registry Member) × List (JoinCall Addr Prefix Key) :=
  if req.asVoter then
    (orInternal env.addError "failed to add candidate" (addVoter servers req.id address),
      [.addVoter req.id address])
  else
    (orInternal env.addError "failed to add non-voter" (addNonvoter servers req.id address),
      [.addNonVoter req.id address])

/-! ## The response -/

section Response

variable (net : Netip Addr Prefix Key)

/-- One entry of `resp.Peers`: endpoints carry the node's WireGuard port as a `uint16`. -/
def wireguardPeer (p : Node Addr Prefix Key × Prefix) : WireguardPeer where
  id := p.1.id
  publicKey := net.keyString p.1.publicKey
  primaryEndpoint := if net.addrIsValid p.1.primaryEndpoint then
      net.addrPortString p.1.primaryEndpoint (goUint16 p.1.wireguardPort) else ""
  endpoints := p.1.endpoints.map (net.addrPortString · (goUint16 p.1.wireguardPort))
  addressIpv4 := if net.prefixIsValid p.2 then net.prefixString p.2 else ""
  addressIpv6 := if net.prefixIsValid p.1.networkIPv6 then net.prefixString p.1.networkIPv6 else ""

/-- The response of a successful `Join`. -/
def joinResponse (req : JoinRequest) (peer : Node Addr Prefix Key) (lease : Prefix)
    (peers : List (Node Addr Prefix Key × Prefix)) : JoinResponse where
  networkIpv6 := net.prefixString peer.networkIPv6
  addressIpv4 := if req.assignIpv4 then net.prefixString lease else ""
  peers := peers.map (wireguardPeer net)

end Response

/-! ## `Join` -/

/-- The part of `Join` after the record is written: lease, peer list, membership, reply. -/
def joinAfterUpsert (srv : Server Addr Prefix Key) (env : JoinEnv Prefix)
    (st : JoinState Addr Prefix Key) (req : JoinRequest) (peer : Node Addr Prefix Key)
    (calls : List (JoinCall Addr Prefix Key)) : JoinResult Addr Prefix Key :=
  match assignIPv4 srv.net srv.allocate env st.leases req with
  | (.error e, c) => ⟨.error e, st, calls ++ c⟩
  | (.ok (lease, leases), c) =>
    let st := { st with leases }
    let calls := calls ++ c ++ [.listPeers req.id]
    match env.listPeersError with
    | some err => ⟨.error (errorf .internal "failed to list peers" err), st, calls⟩
    | none =>
      let peers := listPeers srv.net st.peers st.leases req.id
      match addToCluster env st.servers req (raftAddress srv.net req lease peer) with
      | (.error e, c) => ⟨.error e, st, calls ++ c⟩
      | (.ok servers, c) =>
        ⟨.ok (joinResponse srv.net req peer lease peers), { st with servers },
          calls ++ c ++ [.refreshWireguardPeers]⟩

/-- `Join` once the ULA prefix is known: validation, the record, and the rest. -/
def joinResolved (srv : Server Addr Prefix Key) (env : JoinEnv Prefix)
    (st : JoinState Addr Prefix Key) (req : JoinRequest) (calls : List (JoinCall Addr Prefix Key)) :
    JoinResult Addr Prefix Key :=
  match validate srv.net req with
  | .error e => ⟨.error e, st, calls⟩
  | .ok v =>
    let calls := calls ++ [.getPeer req.id]
    match env.getPeerError with
    | some err => ⟨.error (errorf .internal "failed to get peer" err), st, calls⟩
    | none =>
      match upsertPeer srv.net env (st.peers.lookup req.id) req v with
      | (.error e, c) => ⟨.error e, st, calls ++ c⟩
      | (.ok peer, c) =>
        joinAfterUpsert srv env { st with peers := st.peers.insert req.id peer } req peer (calls ++ c)

/-- `Server.Join`. -/
def join (srv : Server Addr Prefix Key) (env : JoinEnv Prefix) (st : JoinState Addr Prefix Key)
    (req : JoinRequest) : JoinResult Addr Prefix Key :=
  if !env.isLeader then ⟨.error (Status.mk .failedPrecondition "not leader"), st, []⟩ else
  let fetch := !srv.net.prefixIsValid st.ulaPrefix
  let calls : List (JoinCall Addr Prefix Key) := if fetch then [.getULAPrefix] else []
  match if fetch then env.getULAPrefix else some st.ulaPrefix with
  | none => ⟨.error (errorf .internal "failed to get ULA prefix" env.getULAPrefixError),
      { st with ulaPrefix := srv.net.zeroPrefix }, calls⟩
  | some ulaPrefix => joinResolved srv env { st with ulaPrefix } req calls

/-- The state after a sequence of `Join` calls, each with its collaborators' answers. -/
def runJoins (srv : Server Addr Prefix Key) :
    JoinState Addr Prefix Key → List (JoinRequest × JoinEnv Prefix) → JoinState Addr Prefix Key
  | st, [] => st
  | st, (req, env) :: rest => runJoins srv (join srv env st req).state rest

end Webmesh.Services
