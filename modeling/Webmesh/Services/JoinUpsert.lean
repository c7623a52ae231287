import Webmesh.Services.JoinSpec

/-!
# The record a `Join` leaves

After a successful `Join` the node's record carries what the request says: its key, its
ports, its endpoints, its primary endpoint when it sends one. Its overlay IPv6 prefix is
the one drawn when the record was created, and no later `Join`, successful or not, changes
it. Records of other nodes are untouched.

The draw for a new node is not compared with the prefixes other records hold, so the
registry keeps its overlay prefixes distinct only as long as the draws avoid them: exactly
so for one successful call, and for whole runs of calls whose draws are fresh
(`runJoins_ipv6Distinct`).
-/

namespace Webmesh.Services

variable {Addr Prefix Key : Type} (srv : Server Addr Prefix Key)

/-- A successful call went through every stage: its state, reply and membership address,
from the stage lemma. -/
theorem join_eq_ok {env : JoinEnv Prefix} {st : JoinState Addr Prefix Key} {req : JoinRequest}
    {r : JoinResponse} (hok : (join srv env st req).reply = .ok r) :
    ∃ v d, validate srv.net req = .ok v ∧
      (st.peers.lookup req.id = none → env.random64 = some d) ∧
      let peer := joinedRecord srv.net (st.peers.lookup req.id) req v d
      let peers := st.peers.insert req.id peer
      let lease := leaseOf srv st.leases req
      (join srv env st req).state.maps = (peers, lease.2, addMember st.servers req
          (raftAddress srv.net req lease.1 peer)) ∧
        r = joinResponse srv.net req peer lease.1 (listPeers srv.net peers lease.2 req.id) ∧
        (join srv env st req).calls.filterMap JoinCall.addedAddress =
          [raftAddress srv.net req lease.1 peer] := by
  rcases join_stages srv env st req with
    ⟨-, h⟩ | ⟨v, d, hv, hd, ⟨-, h⟩ | ⟨-, h⟩ | ⟨hm, hr, ha⟩⟩
  any_goals simp [hok, Except.isOk, Except.toBool] at h
  rw [hok] at hr
  exact ⟨v, d, hv, hd, hm, Except.ok.inj hr, ha⟩

/-- A call writes at most one record, its node's, and writes `joinedRecord` there, with the
call's draw for a new node. -/
theorem join_peers (env : JoinEnv Prefix) (st : JoinState Addr Prefix Key) (req : JoinRequest) :
    (join srv env st req).state.peers = st.peers ∨ ∃ v d,
      (st.peers.lookup req.id = none → env.random64 = some d) ∧
      (join srv env st req).state.peers =
        st.peers.insert req.id (joinedRecord srv.net (st.peers.lookup req.id) req v d) := by
  rcases join_stages srv env st req with
    ⟨hm, -⟩ | ⟨v, d, -, hd, ⟨h, -⟩ | ⟨h, -⟩ | ⟨h, -⟩⟩
  · exact .inl (congrArg Prod.fst hm)
  all_goals exact .inr ⟨v, d, hd, congrArg Prod.fst h⟩

theorem lookup_join_ne (env : JoinEnv Prefix) (st : JoinState Addr Prefix Key) (req : JoinRequest)
    {k : String} (hk : k ≠ req.id) :
    (join srv env st req).state.peers.lookup k = st.peers.lookup k := by
  rcases join_peers srv env st req with h | ⟨v, d, -, h⟩ <;> simp [h, AList.lookup_insert_ne hk]

/-- A call keeps every existing record, with its overlay prefix. -/
theorem join_keeps_networkIPv6 (env : JoinEnv Prefix) (st : JoinState Addr Prefix Key)
    (req : JoinRequest) {k : String} {n : Node Addr Prefix Key} (hn : st.peers.lookup k = some n) :
    ∃ n', (join srv env st req).state.peers.lookup k = some n' ∧ n'.networkIPv6 = n.networkIPv6 := by
  by_cases hk : k = req.id
  · subst hk
    rcases join_peers srv env st req with h | ⟨v, d, -, h⟩
    · exact ⟨n, by rw [h, hn], rfl⟩
    · refine ⟨_, by rw [h, AList.lookup_insert], ?_⟩
      simpa [hn] using (joinedRecord_fields srv.net (some n) req v d).2.2.2.2.2.2
  · exact ⟨n, by rw [lookup_join_ne srv env st req hk, hn], rfl⟩

/-- No sequence of `Join` calls changes an existing record's overlay prefix. -/
theorem runJoins_keeps_networkIPv6 (later : List (JoinRequest × JoinEnv Prefix)) :
    ∀ (st : JoinState Addr Prefix Key) {k : String} {n : Node Addr Prefix Key},
      st.peers.lookup k = some n →
      ∃ n', (runJoins srv st later).peers.lookup k = some n' ∧ n'.networkIPv6 = n.networkIPv6 := by
  induction later with
  | nil => exact fun _ _ n hn => ⟨n, hn, rfl⟩
  | cons x later ih =>
    intro st k n hn
    obtain ⟨n₁, h₁, e₁⟩ := join_keeps_networkIPv6 srv x.2 st x.1 hn
    obtain ⟨n₂, h₂, e₂⟩ := ih _ h₁
    exact ⟨n₂, h₂, e₂.trans e₁⟩

/-- **A successful `Join` stores the request.** The node's record then has the parsed key,
the request's ports and parsed endpoints in order, the parsed primary endpoint when one is
sent and the old one otherwise (unset for a new node), and the overlay prefix of the old
record or, for a new node, the draw; other records are untouched, and no later sequence of
`Join` calls changes the overlay prefix of any record. -/
theorem join_record_reflects_request (env : JoinEnv Prefix) (st : JoinState Addr Prefix Key)
    (req : JoinRequest) (r : JoinResponse) (hok : (join srv env st req).reply = .ok r) :
    (∃ n, (join srv env st req).state.peers.lookup req.id = some n ∧
      srv.net.parseKey req.publicKey = some n.publicKey ∧
      n.grpcPort = req.grpcPort.toInt ∧ n.raftPort = req.raftPort.toInt ∧
      n.wireguardPort = req.wireguardPort.toInt ∧
      parseEndpoints srv.net req.endpoints = .ok n.endpoints ∧
      (req.primaryEndpoint ≠ "" → srv.net.parseAddr req.primaryEndpoint = some n.primaryEndpoint) ∧
      (req.primaryEndpoint = "" → n.primaryEndpoint =
        ((st.peers.lookup req.id).map (·.primaryEndpoint)).getD srv.net.zeroAddr) ∧
      (∀ o, st.peers.lookup req.id = some o → n.networkIPv6 = o.networkIPv6) ∧
      (st.peers.lookup req.id = none → env.random64 = some n.networkIPv6)) ∧
    (∀ k, k ≠ req.id → (join srv env st req).state.peers.lookup k = st.peers.lookup k) ∧
    (∀ (later : List (JoinRequest × JoinEnv Prefix)) k n,
      (join srv env st req).state.peers.lookup k = some n →
      ∃ n', (runJoins srv (join srv env st req).state later).peers.lookup k = some n' ∧
        n'.networkIPv6 = n.networkIPv6) := by
  refine ⟨?_, fun k hk => lookup_join_ne srv env st req hk,
    fun later _ _ hn => runJoins_keeps_networkIPv6 srv later _ hn⟩
  obtain ⟨v, d, hv, hd, hm, -⟩ := join_eq_ok srv hok
  obtain ⟨-, hkey, hpe, hpe', hends⟩ := validate_eq_ok srv.net hv
  obtain ⟨-, hk, hg, hr, hw, he, h6⟩ := joinedRecord_fields srv.net (st.peers.lookup req.id) req v d
  have hp := joinedRecord_primaryEndpoint srv.net (st.peers.lookup req.id) req v d
  simp only [JoinState.maps, Prod.mk.injEq] at hm
  refine ⟨_, by rw [hm.1, AList.lookup_insert], by rw [hk, hkey], hg, hr, hw, by rw [he, hends],
    fun hne => ?_, fun hemp => ?_, fun o ho => by rw [h6, ho]; rfl,
    fun hn => by simpa [h6, hn] using hd hn⟩
  · have hval := srv.net.parseAddr_isValid _ _ (hpe hne)
    rw [hpe hne, hp, if_pos hval]
  · rw [hp, hpe' hemp, srv.net.zeroAddr_isValid]
    cases st.peers.lookup req.id <;> simp

/-! ## Concrete runs -/

/-- The textual library, with an allocator that numbers leases. -/
def textServer : Server String (String × Nat) String where
  net := Netip.text
  allocate leases := ("10.0.0." ++ toString (leases.entries.length + 1), 32)

/-- Collaborators that answer every call successfully, `util.Random64` drawing `d`. -/
def allOk (d : String × Nat) : JoinEnv (String × Nat) where
  isLeader := true
  getULAPrefix := some ("fd00:1", 48)
  getULAPrefixError := ""
  getPeerError := none
  random64 := some d
  random64Error := ""
  writePeerError := none
  acquireError := none
  listPeersError := none
  addError := none

/-- A server with the ULA prefix `fd00:1/48` cached, the registry `peers` and no leases or
members. -/
def textState (peers : Registry (Node String (String × Nat) String)) :
    JoinState String (String × Nat) String :=
  ⟨("fd00:1", 48), peers, ∅, ∅⟩

/-- A voter's request without endpoints or IPv4. -/
def joinReq (id : String) : JoinRequest :=
  ⟨id, "key-" ++ id, "", [], 8443, 9443, 51820, false, false, true⟩

/-- The first `Join` of `b` stores its WireGuard port. -/
theorem join_record_reflects_request_first_join :
    (join textServer (allOk ("fd00:1:0:b::", 64)) (textState ∅) (joinReq "b")).reply =
      .ok ⟨"fd00:1:0:b::/64", "", []⟩ ∧
    ∃ n, (join textServer (allOk ("fd00:1:0:b::", 64)) (textState ∅) (joinReq "b")).state.peers.lookup
      "b" = some n ∧ n.wireguardPort = 51820 :=
  have hok : (join textServer (allOk ("fd00:1:0:b::", 64)) (textState ∅) (joinReq "b")).reply =
      .ok ⟨"fd00:1:0:b::/64", "", []⟩ := rfl
  by obtain ⟨⟨n, hn, -, -, -, hw, -⟩, -⟩ := join_record_reflects_request textServer _ _ _ _ hok
     exact ⟨hok, n, hn, hw⟩

/-! ## Overlay prefixes -/

/-- No two records of the registry share an overlay IPv6 prefix. -/
def IPv6Distinct (peers : Registry (Node Addr Prefix Key)) : Prop :=
  ∀ k₁ k₂ n₁ n₂, peers.lookup k₁ = some n₁ → peers.lookup k₂ = some n₂ →
    n₁.networkIPv6 = n₂.networkIPv6 → k₁ = k₂

/-- Writing one record keeps the prefixes distinct exactly when no other record holds its
prefix. -/
theorem ipv6Distinct_insert_iff {peers : Registry (Node Addr Prefix Key)} {id : String}
    {n : Node Addr Prefix Key} (hd : IPv6Distinct peers) :
    IPv6Distinct (peers.insert id n) ↔
      ∀ k m, k ≠ id → peers.lookup k = some m → m.networkIPv6 ≠ n.networkIPv6 := by
  constructor
  · intro h k m hk hm he
    exact hk (h k id m n (by rw [AList.lookup_insert_ne hk, hm]) (AList.lookup_insert _) he)
  · intro h k₁ k₂ n₁ n₂ h₁ h₂ he
    by_cases e₁ : k₁ = id <;> by_cases e₂ : k₂ = id
    · rw [e₁, e₂]
    · subst e₁
      rw [AList.lookup_insert] at h₁
      rw [AList.lookup_insert_ne e₂] at h₂
      cases h₁
      exact absurd he.symm (h k₂ n₂ e₂ h₂)
    · subst e₂
      rw [AList.lookup_insert] at h₂
      rw [AList.lookup_insert_ne e₁] at h₁
      cases h₂
      exact absurd he (h k₁ n₁ e₁ h₁)
    · rw [AList.lookup_insert_ne e₁] at h₁
      rw [AList.lookup_insert_ne e₂] at h₂
      exact hd k₁ k₂ n₁ n₂ h₁ h₂ he

/-- From distinct prefixes, the record `Join` writes keeps them distinct exactly when it
updates an existing record or its draw is held by no record. -/
theorem ipv6Distinct_insert_joinedRecord_iff (net : Netip Addr Prefix Key)
    {peers : Registry (Node Addr Prefix Key)} {req : JoinRequest} {v : Parsed Addr Key}
    {d : Prefix} {draw : Option Prefix} (hd : IPv6Distinct peers)
    (hdraw : peers.lookup req.id = none → draw = some d) :
    IPv6Distinct (peers.insert req.id (joinedRecord net (peers.lookup req.id) req v d)) ↔
      req.id ∈ peers ∨ ∀ k n, peers.lookup k = some n → draw ≠ some n.networkIPv6 := by
  have h6 := (joinedRecord_fields net (peers.lookup req.id) req v d).2.2.2.2.2.2
  rw [ipv6Distinct_insert_iff hd]
  cases ho : peers.lookup req.id with
  | some o =>
    simp only [ho, Option.map_some', Option.getD_some] at h6
    refine iff_of_true (fun k m hk hm he => hk (hd k req.id m o hm ho (he.trans h6))) ?_
    exact .inl (AList.lookup_isSome.mp (by simp [ho]))
  | none =>
    simp only [ho, Option.map_none', Option.getD_none] at h6
    have hnot : req.id ∉ peers := AList.lookup_eq_none.mp ho
    rw [h6, hdraw ho]
    constructor
    · intro h
      refine .inr fun k n hn he => h k n ?_ hn (Option.some.inj he).symm
      rintro rfl
      exact hnot (AList.lookup_isSome.mp (by simp [hn]))
    · rintro (h | h)
      · exact absurd h hnot
      · exact fun k n _ hn he => h k n hn (by rw [he])

/-- A call of any outcome keeps the prefixes distinct when it updates an existing record or
draws a prefix no record holds. -/
theorem join_ipv6Distinct (env : JoinEnv Prefix) (st : JoinState Addr Prefix Key)
    (req : JoinRequest) (hd : IPv6Distinct st.peers)
    (hfresh : req.id ∈ st.peers ∨
      ∀ k n, st.peers.lookup k = some n → env.random64 ≠ some n.networkIPv6) :
    IPv6Distinct (join srv env st req).state.peers := by
  rcases join_peers srv env st req with h | ⟨v, d, hdraw, h⟩
  · rwa [h]
  · rw [h]
    exact (ipv6Distinct_insert_joinedRecord_iff srv.net hd hdraw).2 hfresh

/-- Every `Join` of the run updates an existing record or draws a prefix that no record holds
when it is made. -/
def FreshDraws : JoinState Addr Prefix Key → List (JoinRequest × JoinEnv Prefix) → Prop
  | _, [] => True
  | st, (req, env) :: rest =>
    (req.id ∈ st.peers ∨ ∀ k n, st.peers.lookup k = some n → env.random64 ≠ some n.networkIPv6) ∧
      FreshDraws (join srv env st req).state rest

/-- Runs of `Join` calls, successful or not, keep the overlay prefixes distinct as long as
every draw is fresh. -/
theorem runJoins_ipv6Distinct : ∀ (xs : List (JoinRequest × JoinEnv Prefix))
    (st : JoinState Addr Prefix Key), IPv6Distinct st.peers → FreshDraws srv st xs →
      IPv6Distinct (runJoins srv st xs).peers
  | [], _, hd, _ => hd
  | (req, env) :: rest, st, hd, ⟨hfresh, hrest⟩ =>
    runJoins_ipv6Distinct rest _ (join_ipv6Distinct srv env st req hd hfresh) hrest

/-- `a` holds the overlay prefix `fd00:1:0:a::/64`. -/
def nodeA : Node String (String × Nat) String :=
  ⟨"a", "key-a", "", [], 8443, 9443, 51820, ("fd00:1:0:a::", 64)⟩

end Webmesh.Services
