import Webmesh.Services.JoinUpsert

/-!
# Rejected requests

`Join` answers `FailedPrecondition` when the node is not the leader, `InvalidArgument` when
an input check fails, and `Internal` for every failure after those (`join_eq_error`). The
leader check comes first and the input checks come before the first store call, so a request
rejected with one of the first two codes has cost at most the `GetULAPrefix` lookup. No
record is written, no lease acquired, no member added and no refresh triggered: only the
cached ULA prefix may have changed. The one failure that is not a status, go-cmp's panic,
happens only at the upsert of a record that, like the request, carries endpoints, and it
writes nothing either (`join_eq_panic`).

`validate` rejects exactly the requests with an empty id, a key that does not parse, a
primary endpoint that is sent and does not parse, or an endpoint that does not parse,
wherever it stands in the list (`validate_isOk_iff`); a bad endpoint is reported with the
first entry that fails (`parseEndpoints_eq_error`).
-/

namespace Webmesh.Services

variable {Addr Prefix Key : Type}

/-! ## The input checks -/

section Validation

variable (net : Netip Addr Prefix Key)

/-- The endpoints loop goes through exactly when every entry parses, and otherwise fails with
`invalid endpoint`. -/
theorem parseEndpoints_isOk_iff (eps : List String) :
    (parseEndpoints net eps).isOk = true ↔ ∀ s ∈ eps, (net.parseAddr s).isSome = true := by
  induction eps with
  | nil => simp [parseEndpoints, Except.isOk, Except.toBool]
  | cons s rest ih =>
    cases h : net.parseAddr s with
    | none => simp [parseEndpoints, h, Except.isOk, Except.toBool]
    | some a =>
      simp only [parseEndpoints, List.forall_mem_cons, h, Option.isSome_some, true_and, ← ih]
      cases parseEndpoints net rest <;> rfl

/-- The endpoints loop fails at the first entry that does not parse, and names it:
`invalid endpoint` followed by `ParseAddr`'s error for that entry. -/
theorem parseEndpoints_eq_error : ∀ {eps : List String} {e : Status},
    parseEndpoints net eps = .error e → ∃ pre s post, eps = pre ++ s :: post ∧
      (∀ t ∈ pre, (net.parseAddr t).isSome = true) ∧ net.parseAddr s = none ∧
      e = errorf .invalidArgument "invalid endpoint" (net.parseAddrError s)
  | [], _, h => by cases h
  | s :: rest, e, h => by
    cases hs : net.parseAddr s with
    | none =>
      simp only [parseEndpoints, hs, Except.error.injEq] at h
      exact ⟨[], s, rest, rfl, nofun, hs, h.symm⟩
    | some a =>
      cases hr : parseEndpoints net rest with
      | ok _ => simp [parseEndpoints, hs, hr, Except.map] at h
      | error e' =>
        simp only [parseEndpoints, hs, hr, Except.map, Except.error.injEq] at h
        obtain ⟨pre, s', post, rfl, hpre, hs', rfl⟩ := parseEndpoints_eq_error hr
        refine ⟨s :: pre, s', post, rfl, ?_, hs', h.symm⟩
        simpa [hs] using hpre

/-- Every failed input check answers `InvalidArgument`. -/
theorem validate_eq_error {req : JoinRequest} {e : Status} (h : validate net req = .error e) :
    e.code = .invalidArgument := by
  have hends : ∀ {e'}, parseEndpoints net req.endpoints = .error e' → e'.code = .invalidArgument :=
    fun he' => by
      obtain ⟨-, -, -, -, -, -, rfl⟩ := parseEndpoints_eq_error net he'
      rfl
  unfold validate at h
  by_cases hid : req.id = ""
  · simp only [hid, if_true, Except.error.injEq] at h
    rw [← h]
  cases hk : net.parseKey req.publicKey with
  | none =>
    simp only [hid, hk, if_false, Except.error.injEq] at h
    rw [← h, errorf_code]
  | some key =>
    by_cases hpe : req.primaryEndpoint = ""
    · cases hr : parseEndpoints net req.endpoints <;> simp [hid, hk, hpe, hr, Except.map] at h
      subst h
      exact hends hr
    · cases hp : net.parseAddr req.primaryEndpoint
      · simp [hid, hk, hpe, hp] at h
        rw [← h, errorf_code]
      · cases hr : parseEndpoints net req.endpoints <;> simp [hid, hk, hpe, hp, hr, Except.map] at h
        subst h
        exact hends hr

/-- **The input checks.** A request passes them exactly when its id is not empty, its key
parses, its primary endpoint parses when it is sent, and every endpoint parses. -/
theorem validate_isOk_iff (req : JoinRequest) :
    (validate net req).isOk = true ↔ req.id ≠ "" ∧ (net.parseKey req.publicKey).isSome = true ∧
      (req.primaryEndpoint ≠ "" → (net.parseAddr req.primaryEndpoint).isSome = true) ∧
      ∀ s ∈ req.endpoints, (net.parseAddr s).isSome = true := by
  rw [← parseEndpoints_isOk_iff]
  unfold validate
  by_cases hid : req.id = ""
  · simp [hid, Except.isOk, Except.toBool]
  cases hk : net.parseKey req.publicKey with
  | none => simp [hid, hk, Except.isOk, Except.toBool]
  | some key =>
    by_cases hpe : req.primaryEndpoint = ""
    · cases parseEndpoints net req.endpoints <;> simp [hid, hk, hpe, Except.map, Except.isOk, Except.toBool]
    · cases hp : net.parseAddr req.primaryEndpoint <;> cases parseEndpoints net req.endpoints <;>
        simp [hid, hk, hpe, hp, Except.map, Except.isOk, Except.toBool]

end Validation

/-! ## Every later failure is `Internal` -/

section Later

variable (net : Netip Addr Prefix Key)

theorem upsertPeer_eq_error {env : JoinEnv Prefix} {old : Option (Node Addr Prefix Key)}
    {req : JoinRequest} {v : Parsed Addr Key} {e : Status} {c : List (JoinCall Addr Prefix Key)}
    (h : upsertPeer net env old req v = (.error e, c)) : e.code = .internal := by
  unfold upsertPeer at h
  split at h
  · split at h
    · simp at h
    · cases hw : env.writePeerError <;> simp_all [orInternal, Except.mapError]
      rw [← h.1, errorf_code]
  · split at h
    · simp only [Prod.mk.injEq, Except.error.injEq, JoinError.status.injEq] at h
      rw [← h.1, errorf_code]
    · cases hw : env.writePeerError <;> simp_all [orInternal, Except.mapError]
      rw [← h.1, errorf_code]

/-- The upsert panics only on an existing record, when it and the request carry endpoints. -/
theorem upsertPeer_eq_panic {env : JoinEnv Prefix} {old : Option (Node Addr Prefix Key)}
    {req : JoinRequest} {v : Parsed Addr Key} {c : List (JoinCall Addr Prefix Key)}
    (h : upsertPeer net env old req v = (.error .panic, c)) :
    ∃ n, old = some n ∧ n.endpoints ≠ [] ∧ v.endpoints ≠ [] := by
  unfold upsertPeer at h
  split at h
  · rename_i n
    split at h
    · exact ⟨n, rfl, cmpEqual_eq_none.mp ‹_›⟩
    · cases hw : env.writePeerError <;> simp_all [orInternal, Except.mapError]
  · split at h
    · simp at h
    · cases hw : env.writePeerError <;> simp_all [orInternal, Except.mapError]

theorem assignIPv4_eq_error {allocate : Registry Prefix → Prefix} {env : JoinEnv Prefix}
    {leases : Registry Prefix} {req : JoinRequest} {e : Status}
    {c : List (JoinCall Addr Prefix Key)}
    (h : assignIPv4 net allocate env leases req = (.error e, c)) : e.code = .internal := by
  unfold assignIPv4 at h
  split_ifs at h
  · obtain ⟨s, -, rfl⟩ := orInternal_eq_error.mp (Prod.mk.inj h).1
    rfl
  · cases h

theorem addToCluster_eq_error {env : JoinEnv Prefix} {servers : Registry Member}
    {req : JoinRequest} {address : String} {e : Status} {c : List (JoinCall Addr Prefix Key)}
    (h : addToCluster env servers req address = (.error e, c)) : e.code = .internal := by
  unfold addToCluster at h
  split_ifs at h <;> obtain ⟨s, -, rfl⟩ := orInternal_eq_error.mp (Prod.mk.inj h).1 <;> rfl

end Later

section Stages

variable (srv : Server Addr Prefix Key)

/-- After the record is written a call fails only with an `Internal` status. -/
theorem joinAfterUpsert_eq_error {env : JoinEnv Prefix} {st : JoinState Addr Prefix Key}
    {req : JoinRequest} {peer : Node Addr Prefix Key} {calls : List (JoinCall Addr Prefix Key)}
    {e : JoinError} (h : (joinAfterUpsert srv env st req peer calls).reply = .error e) :
    ∃ s : Status, e = s ∧ s.code = .internal := by
  unfold joinAfterUpsert at h
  rcases ha : assignIPv4 srv.net srv.allocate env st.leases req with ⟨s | ⟨lease, leases⟩, c⟩
  · simp only [ha, Except.error.injEq] at h
    exact ⟨s, h.symm, assignIPv4_eq_error srv.net ha⟩
  simp only [ha] at h
  cases hl : env.listPeersError with
  | some err =>
    simp only [hl, Except.error.injEq] at h
    exact ⟨_, h.symm, rfl⟩
  | none =>
    simp only [hl] at h
    rcases hadd : (addToCluster env st.servers req (raftAddress srv.net req lease peer) :
      Except Status (Registry Member) × List (JoinCall Addr Prefix Key)) with ⟨s | s', c'⟩
    · simp only [hadd, Except.error.injEq] at h
      exact ⟨s, h.symm, addToCluster_eq_error hadd⟩
    · simp [hadd] at h

/-- A call that passes validation can only fail with `Internal` or panic; one that does not
returns the check's error and leaves everything as it was. -/
theorem joinResolved_eq_error {env : JoinEnv Prefix} {st : JoinState Addr Prefix Key}
    {req : JoinRequest} {calls : List (JoinCall Addr Prefix Key)} {e : Status}
    (h : (joinResolved srv env st req calls).reply = .error e) :
    e.code = .internal ∨
      (validate srv.net req = .error e ∧ joinResolved srv env st req calls = ⟨.error e, st, calls⟩) := by
  unfold joinResolved at h ⊢
  rcases hv : validate srv.net req with e' | v
  · simp only [hv, Except.error.injEq, JoinError.status.injEq] at h ⊢
    exact .inr ⟨h, h ▸ rfl⟩
  simp only [hv] at h
  cases hg : env.getPeerError with
  | some err =>
    simp only [hg, Except.error.injEq, JoinError.status.injEq] at h
    exact .inl (h ▸ rfl)
  | none =>
    simp only [hg] at h
    rcases hu : upsertPeer srv.net env (st.peers.lookup req.id) req v with ⟨e' | peer, c⟩
    · simp only [hu, Except.error.injEq] at h
      subst h
      exact .inl (upsertPeer_eq_error srv.net hu)
    · simp only [hu] at h
      obtain ⟨s, hs, hc⟩ := joinAfterUpsert_eq_error srv h
      exact .inl (JoinError.status.inj hs ▸ hc)

/-- A call that gets past the input checks panics only at the upsert of an existing record,
when it and the request carry endpoints, and then writes nothing. -/
theorem joinResolved_eq_panic {env : JoinEnv Prefix} {st : JoinState Addr Prefix Key}
    {req : JoinRequest} {calls : List (JoinCall Addr Prefix Key)}
    (h : (joinResolved srv env st req calls).reply = .error .panic) :
    (joinResolved srv env st req calls).state = st ∧ ∃ n v, st.peers.lookup req.id = some n ∧
      validate srv.net req = .ok v ∧ n.endpoints ≠ [] ∧ v.endpoints ≠ [] := by
  unfold joinResolved at h ⊢
  rcases hv : validate srv.net req with e' | v
  · simp [hv] at h
  simp only [hv] at h ⊢
  cases hg : env.getPeerError with
  | some err => simp [hg] at h
  | none =>
    simp only [hg] at h ⊢
    rcases hu : upsertPeer srv.net env (st.peers.lookup req.id) req v with ⟨e' | peer, c⟩
    · simp only [hu, Except.error.injEq] at h
      subst h
      obtain ⟨n, hn, hne, hve⟩ := upsertPeer_eq_panic srv.net hu
      exact ⟨rfl, n, v, hn, rfl, hne, hve⟩
    · simp only [hu] at h
      obtain ⟨s, hs, -⟩ := joinAfterUpsert_eq_error srv h
      cases hs

/-- **How a `Join` call can fail.** Not leader: `FailedPrecondition`, with nothing done. An
input check: its `InvalidArgument`, after at most the `GetULAPrefix` lookup, with only the
cached ULA prefix changed. Anything else: `Internal`. -/
theorem join_eq_error {env : JoinEnv Prefix} {st : JoinState Addr Prefix Key} {req : JoinRequest}
    {e : Status} (h : (join srv env st req).reply = .error e) :
    (env.isLeader = false ∧ e = ⟨.failedPrecondition, "not leader"⟩ ∧
      join srv env st req = ⟨.error e, st, []⟩) ∨
    e.code = .internal ∨
    (validate srv.net req = .error e ∧ ∃ u, ∃ calls ⊆ [.getULAPrefix],
      join srv env st req = ⟨.error e, { st with ulaPrefix := u }, calls⟩) := by
  rcases join_cases srv env st req with ⟨hl, hj⟩ | ⟨-, -, -, hj⟩ | ⟨u, calls, hc, -, -, hj⟩ <;>
    rw [hj] at h ⊢
  · simp only [Except.error.injEq, JoinError.status.injEq] at h
    subst h
    exact .inl ⟨hl, rfl, rfl⟩
  · simp only [Except.error.injEq, JoinError.status.injEq] at h
    exact .inr (.inl (h ▸ rfl))
  · rcases joinResolved_eq_error srv h with hi | ⟨hv, hr⟩
    · exact .inr (.inl hi)
    · exact .inr (.inr ⟨hv, u, calls, hc, hr⟩)

/-- **A `Join` call panics only at the upsert**: on an existing record that, like the valid
request, carries endpoints. It writes nothing. -/
theorem join_eq_panic {env : JoinEnv Prefix} {st : JoinState Addr Prefix Key} {req : JoinRequest}
    (h : (join srv env st req).reply = .error .panic) :
    (join srv env st req).state.maps = st.maps ∧ ∃ n v, st.peers.lookup req.id = some n ∧
      validate srv.net req = .ok v ∧ n.endpoints ≠ [] ∧ v.endpoints ≠ [] := by
  rcases join_cases srv env st req with ⟨-, hj⟩ | ⟨-, -, -, hj⟩ | ⟨u, calls, -, -, -, hj⟩ <;>
    rw [hj] at h ⊢
  · simp at h
  · simp at h
  · obtain ⟨hs, hrest⟩ := joinResolved_eq_panic srv h
    exact ⟨by rw [hs]; rfl, hrest⟩

end Stages

/-! ## Rejections -/

variable (srv : Server Addr Prefix Key)

/-- **A rejected request leaves the store as it was.** A call answered `FailedPrecondition`
was made to a node that is not the leader, and one answered `InvalidArgument` failed an input
check. Either way the only collaborator call it issued is, at most, `GetULAPrefix`: no record
was created or updated, no lease acquired, no member added and no refresh triggered, and the
registry, the leases and the membership are those before the call. -/
theorem join_rejection_keeps_store (env : JoinEnv Prefix) (st : JoinState Addr Prefix Key)
    (req : JoinRequest) (e : Status) (h : (join srv env st req).reply = .error e)
    (hc : e.code = .failedPrecondition ∨ e.code = .invalidArgument) :
    (join srv env st req).state.peers = st.peers ∧ (join srv env st req).state.leases = st.leases ∧
    (join srv env st req).state.servers = st.servers ∧
    (∀ c ∈ (join srv env st req).calls, c = .getULAPrefix) ∧
    (e.code = .failedPrecondition → env.isLeader = false) ∧
    (e.code = .invalidArgument → (validate srv.net req).isOk = false) := by
  rcases join_eq_error srv h with ⟨hl, rfl, hj⟩ | hi | ⟨hv, u, calls, hcalls, hj⟩
  · rw [hj]
    exact ⟨rfl, rfl, rfl, by simp, fun _ => hl, nofun⟩
  · rcases hc with hc | hc <;> rw [hc] at hi <;> cases hi
  · rw [hj]
    refine ⟨rfl, rfl, rfl, fun c hc => by simpa using hcalls hc, fun hf => ?_, fun _ => by rw [hv]; rfl⟩
    rw [validate_eq_error srv.net hv] at hf
    cases hf

/-- `c` sends three endpoints, the third empty: the call is rejected with `InvalidArgument`,
and `a`'s registry is left as it was. -/
def badEndpointReq : JoinRequest := { joinReq "c" with endpoints := ["192.0.2.1", "192.0.2.2", ""] }

theorem join_rejection_keeps_store_third_endpoint :
    (join textServer (allOk ("fd00:1:0:c::", 64)) (textState ((∅ : Registry _).insert "a" nodeA))
      badEndpointReq).reply =
        .error (Status.mk .invalidArgument "invalid endpoint: ParseAddr(\"\"): unable to parse IP") ∧
    (join textServer (allOk ("fd00:1:0:c::", 64)) (textState ((∅ : Registry _).insert "a" nodeA))
      badEndpointReq).state.peers = (∅ : Registry _).insert "a" nodeA ∧
    (validate textServer.net badEndpointReq).isOk = false :=
  have h := join_rejection_keeps_store textServer (allOk ("fd00:1:0:c::", 64))
    (textState ((∅ : Registry _).insert "a" nodeA)) badEndpointReq _ rfl (.inr rfl)
  ⟨rfl, h.1, h.2.2.2.2.2 rfl⟩

end Webmesh.Services
