import Webmesh.Services.Join

/-!
# What one `Join` call does

One lemma per phase of `join`, then `join_stages`: whatever the collaborators answer, a
call leaves the three store maps at one of four stages: untouched, the record written, the
record and the lease written, or everything written and the request admitted. What a call
writes is derived from this lemma; how it fails is read from `join_cases` and the phase
lemmas, and neither unfolds `join` again.
-/

namespace Webmesh.Services

variable {Addr Prefix Key : Type}

/-- The transport address an `AddVoter` or `AddNonVoter` call passes. -/
def JoinCall.addedAddress : JoinCall Addr Prefix Key → Option String
  | .addVoter _ address => some address
  | .addNonVoter _ address => some address
  | _ => none

/-! ## Validation -/

section Validation

variable (net : Netip Addr Prefix Key)

/-- What a request that passes validation carries. -/
theorem validate_eq_ok {req : JoinRequest} {v : Parsed Addr Key}
    (h : validate net req = .ok v) :
    req.id ≠ "" ∧ net.parseKey req.publicKey = some v.publicKey ∧
      (req.primaryEndpoint ≠ "" → net.parseAddr req.primaryEndpoint = some v.primaryEndpoint) ∧
      (req.primaryEndpoint = "" → v.primaryEndpoint = net.zeroAddr) ∧
      parseEndpoints net req.endpoints = .ok v.endpoints := by
  unfold validate at h
  by_cases hid : req.id = ""
  · simp [hid] at h
  cases hk : net.parseKey req.publicKey with
  | none => simp [hid, hk] at h
  | some key =>
    by_cases hpe : req.primaryEndpoint = ""
    · cases he : parseEndpoints net req.endpoints <;> simp_all [Except.map]
      subst h; simp
    · cases hp : net.parseAddr req.primaryEndpoint <;>
        cases he : parseEndpoints net req.endpoints <;> simp_all [Except.map]
      subst h; simp

/-- The endpoints loop keeps one address per entry. -/
theorem length_parseEndpoints : ∀ {eps : List String} {as : List Addr},
    parseEndpoints net eps = .ok as → as.length = eps.length
  | [], _, h => by cases h; rfl
  | s :: rest, as, h => by
    cases hs : net.parseAddr s with
    | none => simp [parseEndpoints, hs] at h
    | some a =>
      cases hr : parseEndpoints net rest with
      | error e => simp [parseEndpoints, hs, hr, Except.map] at h
      | ok as' =>
        simp only [parseEndpoints, hs, hr, Except.map, Except.ok.injEq] at h
        rw [← h, List.length_cons, length_parseEndpoints hr, List.length_cons]

end Validation

/-! ## The record -/

section Record

variable (net : Netip Addr Prefix Key)

/-- The record `Join` writes for `req`, given the one stored before and the draw. -/
def joinedRecord (old : Option (Node Addr Prefix Key)) (req : JoinRequest) (v : Parsed Addr Key)
    (d : Prefix) : Node Addr Prefix Key :=
  match old with
  | some peer => updatedPeer net peer req v (peer.endpoints.isEmpty && v.endpoints.isEmpty)
  | none => newPeer req v d

@[simp] theorem setIfChanged_eq {α : Type} [DecidableEq α] (old new : α) :
    setIfChanged old new = new := by
  by_cases h : old = new <;> simp [setIfChanged, h]

theorem setIfPrintedChanged_eq {α : Type} {print : α → String}
    (hp : Function.Injective print) (old new : α) : setIfPrintedChanged print old new = new := by
  by_cases h : print old = print new
  · simp [setIfPrintedChanged, h, hp h]
  · simp [setIfPrintedChanged, h]

/-- go-cmp panics exactly on two non-empty lists. -/
theorem cmpEqual_eq_none {xs ys : List Addr} : cmpEqual xs ys = none ↔ xs ≠ [] ∧ ys ≠ [] := by
  cases xs <;> cases ys <;> simp [cmpEqual]

/-- When go-cmp answers, its answer is whether the lists are equal. -/
theorem cmpEqual_eq_some {xs ys : List Addr} {b : Bool} (h : cmpEqual xs ys = some b) :
    b = (xs.isEmpty && ys.isEmpty) ∧ (b = true ↔ xs = ys) := by
  cases xs <;> cases ys <;> simp_all [cmpEqual, eq_comm]

/-- Whatever `cmp.Equal` answers, the updated record carries the request's endpoints: when it
answers `true` both lists are empty. -/
theorem updatedPeer_endpoints (peer : Node Addr Prefix Key) (req : JoinRequest) (v : Parsed Addr Key)
    (b : Bool) (hb : b = true → peer.endpoints = v.endpoints) :
    (updatedPeer net peer req v b).endpoints = v.endpoints := by
  cases b
  · rfl
  · exact hb rfl

/-- The record keeps the request's key, ports and endpoints whatever it held before. -/
theorem joinedRecord_fields (old : Option (Node Addr Prefix Key)) (req : JoinRequest)
    (v : Parsed Addr Key) (d : Prefix) :
    let n := joinedRecord net old req v d
    n.id = ((old.map (·.id)).getD req.id) ∧ n.publicKey = v.publicKey ∧
      n.grpcPort = req.grpcPort.toInt ∧ n.raftPort = req.raftPort.toInt ∧
      n.wireguardPort = req.wireguardPort.toInt ∧ n.endpoints = v.endpoints ∧
      n.networkIPv6 = (old.map (·.networkIPv6)).getD d := by
  cases old with
  | none => simp [joinedRecord, newPeer]
  | some peer =>
    refine ⟨rfl, setIfPrintedChanged_eq net.keyString_injective _ _, setIfChanged_eq _ _,
      setIfChanged_eq _ _, setIfChanged_eq _ _, updatedPeer_endpoints net peer req v _ fun h => ?_, rfl⟩
    simp only [Bool.and_eq_true, List.isEmpty_iff] at h
    rw [h.1, h.2]

/-- The primary endpoint is the request's when it is valid, and the old one otherwise. -/
theorem joinedRecord_primaryEndpoint (old : Option (Node Addr Prefix Key)) (req : JoinRequest)
    (v : Parsed Addr Key) (d : Prefix) :
    (joinedRecord net old req v d).primaryEndpoint = if net.addrIsValid v.primaryEndpoint then
      v.primaryEndpoint else (old.map (·.primaryEndpoint)).getD v.primaryEndpoint := by
  cases old with
  | none => by_cases h : net.addrIsValid v.primaryEndpoint <;> simp [joinedRecord, newPeer, h]
  | some peer =>
    by_cases h : net.addrIsValid v.primaryEndpoint
    · by_cases hs : net.addrString v.primaryEndpoint = net.addrString peer.primaryEndpoint
      · simp [joinedRecord, updatedPeer, h, hs, net.addrString_injective hs]
      · simp [joinedRecord, updatedPeer, h, hs]
    · simp [joinedRecord, updatedPeer, h]

/-- Writing the record again changes nothing, whatever `cmp.Equal` answers. -/
theorem updatedPeer_joinedRecord (old : Option (Node Addr Prefix Key)) (req : JoinRequest)
    (v : Parsed Addr Key) (d : Prefix) (b : Bool) :
    updatedPeer net (joinedRecord net old req v d) req v b = joinedRecord net old req v d := by
  have hf := joinedRecord_fields net old req v d
  have hp := joinedRecord_primaryEndpoint net old req v d
  set n := joinedRecord net old req v d
  obtain ⟨-, hk, hg, hr, hw, he, -⟩ := hf
  have hpe : (if net.addrIsValid v.primaryEndpoint = true ∧
      net.addrString v.primaryEndpoint ≠ net.addrString n.primaryEndpoint then
        v.primaryEndpoint else n.primaryEndpoint) = n.primaryEndpoint := by
    split_ifs with h
    · simp_all
    · rfl
  have hend : (if !b then v.endpoints else n.endpoints) = n.endpoints := by
    cases b <;> simp [he]
  simp only [updatedPeer, hpe, hend, setIfChanged_eq, setIfPrintedChanged_eq net.keyString_injective,
    ← hk, ← hg, ← hr, ← hw]

/-- The upsert writes `joinedRecord`, with the draw where it needs one. -/
theorem upsertPeer_eq_ok {env : JoinEnv Prefix} {old : Option (Node Addr Prefix Key)}
    {req : JoinRequest} {v : Parsed Addr Key} {peer : Node Addr Prefix Key}
    {c : List (JoinCall Addr Prefix Key)} (h : upsertPeer net env old req v = (.ok peer, c)) :
    ∃ d, (old = none → env.random64 = some d) ∧ peer = joinedRecord net old req v d := by
  unfold upsertPeer at h
  split at h
  · refine ⟨net.zeroPrefix, by simp, ?_⟩
    split at h
    · cases h
    · rename_i hb
      have := (cmpEqual_eq_some hb).1
      cases hw : env.writePeerError <;> simp_all [joinedRecord, orInternal, Except.mapError]
  · split at h
    · simp at h
    · cases hw : env.writePeerError <;> simp_all [joinedRecord, orInternal, Except.mapError]

/-- The upsert of an existing record panics when both it and the request carry endpoints,
before any write. -/
theorem upsertPeer_of_endpoints (env : JoinEnv Prefix) {n : Node Addr Prefix Key}
    (req : JoinRequest) {v : Parsed Addr Key} (hn : n.endpoints ≠ []) (hv : v.endpoints ≠ []) :
    upsertPeer net env (some n) req v = (.error .panic, []) := by
  simp only [upsertPeer, cmpEqual_eq_none.mpr ⟨hn, hv⟩]

/-- The upsert adds no member. -/
theorem addedAddresses_upsertPeer {env : JoinEnv Prefix} {old : Option (Node Addr Prefix Key)}
    {req : JoinRequest} {v : Parsed Addr Key} {x : Except JoinError (Node Addr Prefix Key)}
    {c : List (JoinCall Addr Prefix Key)} (h : upsertPeer net env old req v = (x, c)) :
    c.filterMap JoinCall.addedAddress = [] := by
  rw [show c = _ from (congrArg Prod.snd h).symm]
  unfold upsertPeer
  split <;> split <;> rfl

end Record

/-! ## Lease and membership -/

section Later

variable (srv : Server Addr Prefix Key)

/-- The lease and the leases after a successful lease phase. -/
def leaseOf (leases : Registry Prefix) (req : JoinRequest) : Prefix × Registry Prefix :=
  if req.assignIpv4 then acquire srv.allocate leases req.id else (srv.net.zeroPrefix, leases)

/-- The membership after a successful `AddVoter` or `AddNonVoter`. -/
def addMember (servers : Registry Member) (req : JoinRequest) (address : String) :
    Registry Member :=
  if req.asVoter then addVoter servers req.id address else addNonvoter servers req.id address

theorem assignIPv4_eq_ok {env : JoinEnv Prefix} {leases : Registry Prefix} {req : JoinRequest}
    {x : Prefix × Registry Prefix} {c : List (JoinCall Addr Prefix Key)}
    (h : assignIPv4 srv.net srv.allocate env leases req = (.ok x, c)) : x = leaseOf srv leases req := by
  unfold assignIPv4 at h
  split_ifs at h <;> simp_all [leaseOf]

theorem addToCluster_eq_ok {env : JoinEnv Prefix} {servers : Registry Member} {req : JoinRequest}
    {address : String} {s : Registry Member} {c : List (JoinCall Addr Prefix Key)}
    (h : addToCluster env servers req address = (.ok s, c)) : s = addMember servers req address := by
  unfold addToCluster at h
  split_ifs at h <;> simp_all [addMember]

theorem addedAddresses_assignIPv4 {env : JoinEnv Prefix} {leases : Registry Prefix}
    {req : JoinRequest} {x : Except Status (Prefix × Registry Prefix)}
    {c : List (JoinCall Addr Prefix Key)}
    (h : assignIPv4 srv.net srv.allocate env leases req = (x, c)) :
    c.filterMap JoinCall.addedAddress = [] := by
  rw [show c = _ from (congrArg Prod.snd h).symm]
  unfold assignIPv4
  split_ifs <;> rfl

/-- The membership phase passes its address once. -/
theorem addedAddresses_addToCluster {env : JoinEnv Prefix} {servers : Registry Member}
    {req : JoinRequest} {address : String} {x : Except Status (Registry Member)}
    {c : List (JoinCall Addr Prefix Key)} (h : addToCluster env servers req address = (x, c)) :
    c.filterMap JoinCall.addedAddress = [address] := by
  rw [show c = _ from (congrArg Prod.snd h).symm]
  unfold addToCluster
  split_ifs <;> rfl

end Later

/-! ## The stages of a call -/

/-- The store maps of a state. -/
def JoinState.maps (st : JoinState Addr Prefix Key) :
    Registry (Node Addr Prefix Key) × Registry Prefix × Registry Member :=
  (st.peers, st.leases, st.servers)

variable (srv : Server Addr Prefix Key)

/-- The phases after the record: the leases may change, then the membership and the reply. -/
theorem joinAfterUpsert_stages (env : JoinEnv Prefix) (st : JoinState Addr Prefix Key)
    (req : JoinRequest) (peer : Node Addr Prefix Key) (calls : List (JoinCall Addr Prefix Key))
    (hc : calls.filterMap JoinCall.addedAddress = []) :
    let res := joinAfterUpsert srv env st req peer calls
    let lease := leaseOf srv st.leases req
    (res.state.maps = st.maps ∧ res.reply.isOk = false) ∨
    (res.state.maps = (st.peers, lease.2, st.servers) ∧ res.reply.isOk = false) ∨
    (res.state.maps = (st.peers, lease.2, addMember st.servers req
        (raftAddress srv.net req lease.1 peer)) ∧
      res.reply = .ok (joinResponse srv.net req peer lease.1
        (listPeers srv.net st.peers lease.2 req.id)) ∧
      res.calls.filterMap JoinCall.addedAddress = [raftAddress srv.net req lease.1 peer]) := by
  unfold joinAfterUpsert
  rcases ha : assignIPv4 srv.net srv.allocate env st.leases req with ⟨_ | ⟨lease, leases⟩, c⟩
  · exact .inl ⟨rfl, rfl⟩
  obtain ⟨rfl, rfl⟩ := Prod.ext_iff.mp (assignIPv4_eq_ok srv ha)
  dsimp only
  cases env.listPeersError with
  | some _ => exact .inr (.inl ⟨rfl, rfl⟩)
  | none =>
    rcases hadd : (addToCluster env st.servers req (raftAddress srv.net req
      (leaseOf srv st.leases req).1 peer) : Except Status (Registry Member) ×
        List (JoinCall Addr Prefix Key)) with ⟨_ | s, c'⟩
    · exact .inr (.inl ⟨rfl, rfl⟩)
    · refine .inr (.inr ⟨by rw [addToCluster_eq_ok hadd]; rfl, rfl, ?_⟩)
      simp [hc, addedAddresses_assignIPv4 srv ha, addedAddresses_addToCluster hadd,
        JoinCall.addedAddress]

/-- The stages of `Join` once the ULA prefix is known. -/
theorem joinResolved_stages (env : JoinEnv Prefix) (st : JoinState Addr Prefix Key)
    (req : JoinRequest) (calls : List (JoinCall Addr Prefix Key))
    (hc : calls.filterMap JoinCall.addedAddress = []) :
    let res := joinResolved srv env st req calls
    (res.state.maps = st.maps ∧ res.reply.isOk = false) ∨
    ∃ v d, validate srv.net req = .ok v ∧
      (st.peers.lookup req.id = none → env.random64 = some d) ∧
      let peer := joinedRecord srv.net (st.peers.lookup req.id) req v d
      let peers := st.peers.insert req.id peer
      let lease := leaseOf srv st.leases req
      ((res.state.maps = (peers, st.leases, st.servers) ∧ res.reply.isOk = false) ∨
      (res.state.maps = (peers, lease.2, st.servers) ∧ res.reply.isOk = false) ∨
      (res.state.maps = (peers, lease.2, addMember st.servers req
          (raftAddress srv.net req lease.1 peer)) ∧
        res.reply = .ok (joinResponse srv.net req peer lease.1
          (listPeers srv.net peers lease.2 req.id)) ∧
        res.calls.filterMap JoinCall.addedAddress = [raftAddress srv.net req lease.1 peer])) := by
  unfold joinResolved
  rcases hv : validate srv.net req with e | v
  · exact .inl ⟨rfl, rfl⟩
  dsimp only
  cases env.getPeerError with
  | some _ => exact .inl ⟨rfl, rfl⟩
  | none =>
    rcases hu : upsertPeer srv.net env (st.peers.lookup req.id) req v with ⟨_ | peer, c⟩
    · exact .inl ⟨rfl, rfl⟩
    obtain ⟨d, hd, rfl⟩ := upsertPeer_eq_ok srv.net hu
    exact .inr ⟨v, d, rfl, hd, joinAfterUpsert_stages srv env _ req _ _ (by
      simp only [List.filterMap_append, hc, addedAddresses_upsertPeer srv.net hu]; rfl)⟩

/-- `Join` before validation: the leader check, then the ULA prefix, fetched and cached when
none valid is cached; past both, the call is `joinResolved` from the state with the prefix,
having issued at most `GetULAPrefix`. -/
theorem join_cases (env : JoinEnv Prefix) (st : JoinState Addr Prefix Key) (req : JoinRequest) :
    (env.isLeader = false ∧
      join srv env st req = ⟨.error (Status.mk .failedPrecondition "not leader"), st, []⟩) ∨
    (env.isLeader = true ∧ srv.net.prefixIsValid st.ulaPrefix = false ∧ env.getULAPrefix = none ∧
      join srv env st req = ⟨.error (errorf .internal "failed to get ULA prefix" env.getULAPrefixError),
        { st with ulaPrefix := srv.net.zeroPrefix }, [.getULAPrefix]⟩) ∨
    ∃ u, ∃ calls ⊆ [.getULAPrefix], env.isLeader = true ∧
      (srv.net.prefixIsValid st.ulaPrefix = true → u = st.ulaPrefix ∧ calls = []) ∧
      join srv env st req = joinResolved srv env { st with ulaPrefix := u } req calls := by
  unfold join
  cases hl : env.isLeader with
  | false => exact .inl ⟨rfl, rfl⟩
  | true =>
    cases hv : srv.net.prefixIsValid st.ulaPrefix with
    | true => exact .inr (.inr ⟨st.ulaPrefix, [], List.nil_subset _, rfl, fun _ => ⟨rfl, rfl⟩, rfl⟩)
    | false =>
      cases hu : env.getULAPrefix with
      | none => exact .inr (.inl ⟨rfl, rfl, rfl, by simp [hu]⟩)
      | some u => exact .inr (.inr ⟨u, [.getULAPrefix], List.Subset.refl _, rfl, nofun, by simp [hu]⟩)

/-- **The four stages of a `Join` call.** The store maps are untouched, or the request is
valid and the record `joinedRecord` (with the call's draw) is written, then possibly the
lease, then possibly the membership; only the last stage replies `ok`, with the response
built from the record, the lease and the other peers. -/
theorem join_stages (env : JoinEnv Prefix) (st : JoinState Addr Prefix Key) (req : JoinRequest) :
    let res := join srv env st req
    (res.state.maps = st.maps ∧ res.reply.isOk = false) ∨
    ∃ v d, validate srv.net req = .ok v ∧
      (st.peers.lookup req.id = none → env.random64 = some d) ∧
      let peer := joinedRecord srv.net (st.peers.lookup req.id) req v d
      let peers := st.peers.insert req.id peer
      let lease := leaseOf srv st.leases req
      ((res.state.maps = (peers, st.leases, st.servers) ∧ res.reply.isOk = false) ∨
      (res.state.maps = (peers, lease.2, st.servers) ∧ res.reply.isOk = false) ∨
      (res.state.maps = (peers, lease.2, addMember st.servers req
          (raftAddress srv.net req lease.1 peer)) ∧
        res.reply = .ok (joinResponse srv.net req peer lease.1
          (listPeers srv.net peers lease.2 req.id)) ∧
        res.calls.filterMap JoinCall.addedAddress = [raftAddress srv.net req lease.1 peer])) := by
  rcases join_cases srv env st req with ⟨-, hj⟩ | ⟨-, -, -, hj⟩ | ⟨u, calls, hc, -, -, hj⟩ <;>
    rw [hj]
  · exact .inl ⟨rfl, rfl⟩
  · exact .inl ⟨rfl, rfl⟩
  · exact joinResolved_stages srv env _ req calls (List.filterMap_eq_nil_iff.mpr fun c hc' => by
      rw [List.mem_singleton.mp (hc hc')]; rfl)

end Webmesh.Services
