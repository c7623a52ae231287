import Webmesh.Services.JoinUpsert

/-!
# Retrying a `Join`

`Join` is not atomic: it writes the node's record, then takes its IPv4 lease, then adds it to
the consensus group, and a failure at any of these steps keeps what was done before it. A
client that sends the same request again still ends where a single successful `Join` from
the first state would have: the upsert writes back the record it finds (the request's fields
are already there), `Acquire` hands out the lease the id already holds, and adding the same
member with the same address again changes nothing.

`joinOutcome` is what a successful `Join` leaves: the store maps, the response, and the
addresses it passes to `AddVoter` or `AddNonVoter`. `RetryStage S req draws` names the states
that attempts of `req` from `S` reach: the maps untouched, or the record written with one of
`draws`, and then perhaps the lease and the membership. One attempt from a stage stays among
the stages (`join_retryStage`, `retryStage_trans`), and a successful one from a stage has the
outcome of `Join` from `S` (`join_outcome_of_retryStage`).

That final success need not come. Updating an existing record compares its endpoints with the
request's by go-cmp, which panics when both lists are non-empty: once an attempt of a request
carrying endpoints has written the record, every later attempt panics or is refused before
the upsert, and writes nothing (`runJoins_of_stored_endpoints`). Sending such a request twice
is enough (`join_retry_panics`).
-/

namespace Webmesh.Services

variable {Addr Prefix Key : Type} (srv : Server Addr Prefix Key)

/-- What a successful `Join` of `req` from `st` leaves, for the validated request `v` and the
draw `d`: the store maps, the response, and the addresses passed to the membership call. -/
def joinOutcome (st : JoinState Addr Prefix Key) (req : JoinRequest) (v : Parsed Addr Key)
    (d : Prefix) :
    (Registry (Node Addr Prefix Key) × Registry Prefix × Registry Member) × JoinResponse ×
      List String :=
  let peer := joinedRecord srv.net (st.peers.lookup req.id) req v d
  let peers := st.peers.insert req.id peer
  let lease := leaseOf srv st.leases req
  let address := raftAddress srv.net req lease.1 peer
  ((peers, lease.2, addMember st.servers req address),
    joinResponse srv.net req peer lease.1 (listPeers srv.net peers lease.2 req.id), [address])

/-- A successful `Join` has the outcome of its validated request and its draw. -/
theorem join_outcome {env : JoinEnv Prefix} {st : JoinState Addr Prefix Key} {req : JoinRequest}
    {r : JoinResponse} (hok : (join srv env st req).reply = .ok r) :
    ∃ v d, validate srv.net req = .ok v ∧
      (st.peers.lookup req.id = none → env.random64 = some d) ∧
      (join srv env st req).state.maps = (joinOutcome srv st req v d).1 ∧
      r = (joinOutcome srv st req v d).2.1 ∧
      (join srv env st req).calls.filterMap JoinCall.addedAddress =
        (joinOutcome srv st req v d).2.2 :=
  join_eq_ok srv hok

/-! ## The steps that can be repeated -/

/-- `Acquire` is idempotent per id, so taking the lease again changes nothing. -/
theorem leaseOf_leaseOf (leases : Registry Prefix) (req : JoinRequest) :
    leaseOf srv (leaseOf srv leases req).2 req = leaseOf srv leases req := by
  by_cases h : req.assignIpv4 <;> simp [leaseOf, h, acquire_acquire]

/-- Adding the same member with the same address again changes nothing. -/
theorem addMember_addMember (servers : Registry Member) (req : JoinRequest) (address : String) :
    addMember (addMember servers req address) req address = addMember servers req address := by
  by_cases h : req.asVoter <;> simp [addMember, h, addVoter_idem, addNonvoter_idem]

/-- The upsert of an unchanged request writes back the record it finds. -/
theorem joinedRecord_some_joinedRecord (net : Netip Addr Prefix Key)
    (old : Option (Node Addr Prefix Key)) (req : JoinRequest) (v : Parsed Addr Key) (d d' : Prefix) :
    joinedRecord net (some (joinedRecord net old req v d)) req v d' = joinedRecord net old req v d :=
  updatedPeer_joinedRecord net old req v d _

/-- The outcome reads only the store maps. -/
theorem joinOutcome_congr {S T : JoinState Addr Prefix Key} (h : T.maps = S.maps) :
    joinOutcome srv T = joinOutcome srv S := by
  simp only [JoinState.maps, Prod.mk.injEq] at h
  funext req v d
  simp only [joinOutcome, h]

/-- The draw matters only to a new node. -/
theorem joinOutcome_draw {S : JoinState Addr Prefix Key} {req : JoinRequest} (v : Parsed Addr Key)
    {d d' : Prefix} (h : S.peers.lookup req.id = none → d = d') :
    joinOutcome srv S req v d = joinOutcome srv S req v d' := by
  cases hl : S.peers.lookup req.id with
  | none => rw [h hl]
  | some o => simp only [joinOutcome, hl, joinedRecord]

/-- From any state between `S` and the outcome of `Join` from `S`, with the record already
written, `Join` has that same outcome. -/
theorem joinOutcome_of_stage {S T : JoinState Addr Prefix Key} {req : JoinRequest}
    {v : Parsed Addr Key} {d : Prefix} (d' : Prefix)
    (hp : T.peers = (joinOutcome srv S req v d).1.1)
    (hl : T.leases = S.leases ∨ T.leases = (joinOutcome srv S req v d).1.2.1)
    (hs : T.servers = S.servers ∨ T.servers = (joinOutcome srv S req v d).1.2.2) :
    joinOutcome srv T req v d' = joinOutcome srv S req v d := by
  have hlease : leaseOf srv T.leases req = leaseOf srv S.leases req := by
    rcases hl with h | h <;> rw [h]
    exact leaseOf_leaseOf srv _ _
  rcases hs with hs | hs <;>
    simp only [joinOutcome, hp, AList.lookup_insert, joinedRecord_some_joinedRecord, hlease, hs,
      AList.insert_insert, addMember_addMember]

/-! ## Runs of attempts -/

/-- Where attempts of `req` from `S` leave a state `T`: its store maps untouched, or the
record of `Join` from `S` written, with the validated request and a draw among `draws`, and
its lease and membership each either untouched or written. -/
def RetryStage (S : JoinState Addr Prefix Key) (req : JoinRequest) (draws : List (Option Prefix))
    (T : JoinState Addr Prefix Key) : Prop :=
  T.maps = S.maps ∨ ∃ v d, validate srv.net req = .ok v ∧
    (S.peers.lookup req.id = none → some d ∈ draws) ∧
    T.peers = (joinOutcome srv S req v d).1.1 ∧
    (T.leases = S.leases ∨ T.leases = (joinOutcome srv S req v d).1.2.1) ∧
    (T.servers = S.servers ∨ T.servers = (joinOutcome srv S req v d).1.2.2)

/-- One attempt, successful or not, leaves a stage of itself. -/
theorem join_retryStage (env : JoinEnv Prefix) (T : JoinState Addr Prefix Key)
    (req : JoinRequest) : RetryStage srv T req [env.random64] (join srv env T req).state := by
  rcases join_stages srv env T req with
    ⟨hm, -⟩ | ⟨v, d, hv, hd, ⟨hm, -⟩ | ⟨hm, -⟩ | ⟨hm, -⟩⟩
  · exact .inl hm
  all_goals
    simp only [JoinState.maps, Prod.mk.injEq] at hm
    have hdraw : T.peers.lookup req.id = none → some d ∈ [env.random64] := fun h =>
      List.mem_singleton.mpr (hd h).symm
  · exact .inr ⟨v, d, hv, hdraw, hm.1, .inl hm.2.1, .inl hm.2.2⟩
  · exact .inr ⟨v, d, hv, hdraw, hm.1, .inr hm.2.1, .inl hm.2.2⟩
  · exact .inr ⟨v, d, hv, hdraw, hm.1, .inr hm.2.1, .inr hm.2.2⟩

/-- A stage of a stage of `S` is a stage of `S`. -/
theorem retryStage_trans {S T U : JoinState Addr Prefix Key} {req : JoinRequest}
    {ds es : List (Option Prefix)} (hT : RetryStage srv S req ds T)
    (hU : RetryStage srv T req es U) : RetryStage srv S req (ds ++ es) U := by
  rcases hT with hT | ⟨v, d, hv, hd, hp, hl, hs⟩
  · rcases hU with hU | ⟨v, d, hv, hd, hpU, hlU, hsU⟩
    · exact .inl (hU.trans hT)
    · have hc := joinOutcome_congr srv hT
      simp only [JoinState.maps, Prod.mk.injEq] at hT
      rw [hc] at hpU
      rw [hc, hT.2.1] at hlU
      rw [hc, hT.2.2] at hsU
      exact .inr ⟨v, d, hv, fun h => List.mem_append_right _ (hd (hT.1 ▸ h)), hpU, hlU, hsU⟩
  · have hdraw : S.peers.lookup req.id = none → some d ∈ ds ++ es := fun h =>
      List.mem_append_left _ (hd h)
    rcases hU with hU | ⟨v', d', hv', -, hpU, hlU, hsU⟩
    · simp only [JoinState.maps, Prod.mk.injEq] at hU
      exact .inr ⟨v, d, hv, hdraw, hU.1.trans hp, hU.2.1 ▸ hl, hU.2.2 ▸ hs⟩
    · obtain rfl : v = v' := Except.ok.inj (hv.symm.trans hv')
      rw [joinOutcome_of_stage srv d' hp hl hs] at hpU hlU hsU
      refine .inr ⟨v, d, hv, hdraw, hpU, ?_, ?_⟩
      · exact hlU.elim (fun h => h ▸ hl) .inr
      · exact hsU.elim (fun h => h ▸ hs) .inr

/-- Every run of attempts of `req` from a stage of `S` ends at a stage of `S`, with one draw
more per attempt. -/
theorem runJoins_retryStage (S : JoinState Addr Prefix Key) (req : JoinRequest) :
    ∀ (attempts : List (JoinEnv Prefix)) (ds : List (Option Prefix)) (T : JoinState Addr Prefix Key),
      RetryStage srv S req ds T →
      RetryStage srv S req (ds ++ attempts.map (·.random64))
        (runJoins srv T (attempts.map (req, ·)))
  | [], ds, T, hT => by simpa using hT
  | env :: rest, ds, T, hT => by
    have h := runJoins_retryStage S req rest _ _
      (retryStage_trans srv hT (join_retryStage srv env T req))
    simpa [runJoins] using h

/-- A successful attempt from a stage of `S` has the outcome of `Join` from `S`, with a draw
that some attempt made. -/
theorem join_outcome_of_retryStage {S T : JoinState Addr Prefix Key} {req : JoinRequest}
    {ds : List (Option Prefix)} {env : JoinEnv Prefix} {r : JoinResponse}
    (hT : RetryStage srv S req ds T) (hok : (join srv env T req).reply = .ok r) :
    ∃ v d, validate srv.net req = .ok v ∧
      (S.peers.lookup req.id = none → some d ∈ ds ++ [env.random64]) ∧
      (join srv env T req).state.maps = (joinOutcome srv S req v d).1 ∧
      r = (joinOutcome srv S req v d).2.1 ∧
      (join srv env T req).calls.filterMap JoinCall.addedAddress =
        (joinOutcome srv S req v d).2.2 := by
  obtain ⟨v', d', hv', hd', he⟩ := join_outcome srv hok
  rcases hT with hT | ⟨v, d, hv, hd, hp, hl, hs⟩
  · rw [joinOutcome_congr srv hT] at he
    simp only [JoinState.maps, Prod.mk.injEq] at hT
    exact ⟨v', d', hv', fun h => List.mem_append_right _
      (List.mem_singleton.mpr (hd' (hT.1 ▸ h)).symm), he⟩
  · obtain rfl : v' = v := Except.ok.inj (hv'.symm.trans hv)
    rw [joinOutcome_of_stage srv d' hp hl hs] at he
    exact ⟨v', d, hv, fun h => List.mem_append_left _ (hd h), he⟩

/-- **Retried `Join` calls converge when they succeed.** Take any attempts of one request
from a state `S`, each succeeding or failing at any step, and then a successful one. Its store
maps (record, lease, membership) and response are those of any single successful `Join` from
`S` that draws what one of the attempts drew, and joining once more with success changes none
of them and passes the same address to `AddVoter` or `AddNonVoter`. For a request carrying
endpoints the successful attempt never comes once the record is written
(`runJoins_of_stored_endpoints`). -/
theorem join_retries_converge (S : JoinState Addr Prefix Key) (req : JoinRequest)
    (attempts : List (JoinEnv Prefix)) (env : JoinEnv Prefix) (r : JoinResponse)
    (hok : (join srv env (runJoins srv S (attempts.map (req, ·))) req).reply = .ok r) :
    (∃ d, (S.peers.lookup req.id = none → some d ∈ (attempts ++ [env]).map (·.random64)) ∧
      ∀ env' r', (join srv env' S req).reply = .ok r' →
        (S.peers.lookup req.id = none → env'.random64 = some d) →
        (join srv env' S req).state.maps =
          (join srv env (runJoins srv S (attempts.map (req, ·))) req).state.maps ∧ r' = r) ∧
    (∀ env₂ r₂, (join srv env₂ (join srv env (runJoins srv S (attempts.map (req, ·))) req).state
        req).reply = .ok r₂ →
      (join srv env₂ (join srv env (runJoins srv S (attempts.map (req, ·))) req).state
          req).state.maps =
        (join srv env (runJoins srv S (attempts.map (req, ·))) req).state.maps ∧ r₂ = r ∧
      (join srv env₂ (join srv env (runJoins srv S (attempts.map (req, ·))) req).state
          req).calls.filterMap JoinCall.addedAddress =
        (join srv env (runJoins srv S (attempts.map (req, ·))) req).calls.filterMap
          JoinCall.addedAddress) := by
  have hT := runJoins_retryStage srv S req attempts [] S (.inl rfl)
  obtain ⟨v, d, hv, hd, he⟩ := join_outcome_of_retryStage srv hT hok
  refine ⟨⟨d, by simpa using hd, fun env' r' hok' hd' => ?_⟩, fun env₂ r₂ hok₂ => ?_⟩
  · obtain ⟨v', d', hv', hd'', he'⟩ := join_outcome srv hok'
    obtain rfl : v' = v := Except.ok.inj (hv'.symm.trans hv)
    have hdraw : joinOutcome srv S req v' d' = joinOutcome srv S req v' d :=
      joinOutcome_draw srv v' fun h => Option.some.inj ((hd'' h).symm.trans (hd' h))
    rw [hdraw] at he'
    exact ⟨he'.1.trans he.1.symm, he'.2.1.trans he.2.1.symm⟩
  · obtain ⟨v₂, d₂, hv₂, -, he₂⟩ := join_outcome srv hok₂
    obtain rfl : v₂ = v := Except.ok.inj (hv₂.symm.trans hv)
    have hm := he.1
    simp only [JoinState.maps, Prod.ext_iff] at hm
    rw [joinOutcome_of_stage srv d₂ hm.1 (.inr hm.2.1) (.inr hm.2.2)] at he₂
    exact ⟨he₂.1.trans he.1.symm, he₂.2.1.trans he.2.1.symm, he₂.2.2.trans he.2.2.symm⟩

/-! ## Retries carrying endpoints -/

/-- A call that passes validation with endpoints, for a node whose record holds endpoints,
panics at the upsert unless `peers.Get` fails; either way it writes nothing. -/
theorem joinResolved_of_stored_endpoints (env : JoinEnv Prefix) (st : JoinState Addr Prefix Key)
    (req : JoinRequest) (calls : List (JoinCall Addr Prefix Key)) {n : Node Addr Prefix Key}
    (hn : st.peers.lookup req.id = some n) (hne : n.endpoints ≠ []) (hreq : req.endpoints ≠ []) :
    ∃ e calls', joinResolved srv env st req calls = ⟨.error e, st, calls'⟩ ∧
      ((validate srv.net req).isOk = true → env.getPeerError = none → e = .panic) := by
  unfold joinResolved
  rcases hv : validate srv.net req with e | v
  · exact ⟨e, calls, rfl, nofun⟩
  cases env.getPeerError with
  | some err => exact ⟨_, _, rfl, fun _ h => by cases h⟩
  | none =>
    have hv' : v.endpoints ≠ [] := fun h => hreq <| List.eq_nil_of_length_eq_zero <| by
      rw [← length_parseEndpoints srv.net (validate_eq_ok srv.net hv).2.2.2.2, h, List.length_nil]
    simp only [hn, upsertPeer_of_endpoints srv.net env req hne hv']
    exact ⟨_, _, rfl, fun _ _ => rfl⟩

/-- **A `Join` carrying endpoints, for a node whose record holds endpoints, writes nothing
and does not succeed.** It panics whenever it gets as far as the upsert: on the leader, with
the ULA prefix cached or fetched, a valid request and `peers.Get` answering. -/
theorem join_of_stored_endpoints (env : JoinEnv Prefix) (st : JoinState Addr Prefix Key)
    (req : JoinRequest) {n : Node Addr Prefix Key} (hn : st.peers.lookup req.id = some n)
    (hne : n.endpoints ≠ []) (hreq : req.endpoints ≠ []) :
    (join srv env st req).state.maps = st.maps ∧ (join srv env st req).reply.isOk = false ∧
      (env.isLeader = true → (srv.net.prefixIsValid st.ulaPrefix = true ∨ env.getULAPrefix.isSome) →
        (validate srv.net req).isOk = true → env.getPeerError = none →
        (join srv env st req).reply = .error .panic) := by
  rcases join_cases srv env st req with ⟨hl, hj⟩ | ⟨-, hv, hu, hj⟩ | ⟨u, calls, -, -, -, hj⟩ <;>
    rw [hj]
  · exact ⟨rfl, rfl, fun h => absurd (hl.symm.trans h) Bool.false_ne_true⟩
  · exact ⟨rfl, rfl, fun _ h => by simp [hv, hu] at h⟩
  · obtain ⟨e, calls', h, hp⟩ :=
      joinResolved_of_stored_endpoints srv env { st with ulaPrefix := u } req calls hn hne hreq
    rw [h]
    exact ⟨rfl, rfl, fun _ _ hv hg => by rw [hp hv hg]⟩

/-- **No retry of a request carrying endpoints succeeds once its record holds endpoints.**
Along any run of attempts, whatever the collaborators answer, the store maps stay as they
are, and no further attempt succeeds. -/
theorem runJoins_of_stored_endpoints (req : JoinRequest) (hreq : req.endpoints ≠ []) :
    ∀ (attempts : List (JoinEnv Prefix)) (st : JoinState Addr Prefix Key) {n : Node Addr Prefix Key},
      st.peers.lookup req.id = some n → n.endpoints ≠ [] →
      (runJoins srv st (attempts.map (req, ·))).maps = st.maps ∧
        ∀ env, (join srv env (runJoins srv st (attempts.map (req, ·))) req).reply.isOk = false
  | [], st, _, hn, hne => ⟨rfl, fun env => (join_of_stored_endpoints srv env st req hn hne hreq).2.1⟩
  | env :: rest, st, n, hn, hne => by
    have hm := (join_of_stored_endpoints srv env st req hn hne hreq).1
    have hn' : (join srv env st req).state.peers.lookup req.id = some n := by
      rw [show (join srv env st req).state.peers = st.peers from congrArg Prod.fst hm, hn]
    obtain ⟨hrun, hrest⟩ := runJoins_of_stored_endpoints req hreq rest _ hn' hne
    exact ⟨hrun.trans hm, hrest⟩

end Webmesh.Services
