import Mathlib.Algebra.Group.Int
import Webmesh.Mesh.Observer

/-!
# Heartbeat purge

What the heartbeat purge is for, stated over the log of a run: a peer is removed from the
consensus group only once it has failed `HeartbeatPurgeThreshold` heartbeats in a row on
the leader, and then it is. "In a row" is counted since the peer's last resumed heartbeat,
or since the last purge that removed it, whichever came later (`failuresSince`).

The bridge to the code is `failedHeartBeats_run`: in every run the callback's counter is
exactly that count, modulo `2^64`. Its signed value is never above the count, and is the
count while that stays below `2^63` (`toInt_ofNat_succ_le`, `toInt_ofNat_succ`); so a
purge never comes early, and comes on time as long as no peer fails `2^63` heartbeats in a
row. Everything else follows from these and from the one-step lemmas of the observer.
-/

namespace Webmesh.Mesh

variable {Node : Type}

/-! ## Counting failures in a log -/

/-- The `FailedHeartbeat(p)` observations of `log`, read newest first, before the first one
that `reset` marks. -/
def failuresBefore (reset : Handled Node → Bool) (p : String) : List (Handled Node) → Nat
  | [] => 0
  | h :: log => if reset h then 0 else
      (if h.1 = .failedHeartbeat p then 1 else 0) + failuresBefore reset p log

/-- The number of `FailedHeartbeat(p)` observations handled since the last one that `reset`
marks, or since the start if there is none. -/
def failuresSince (reset : Handled Node → Bool) (p : String) (log : List (Handled Node)) : Nat :=
  failuresBefore reset p log.reverse

theorem failuresSince_append_singleton (reset : Handled Node → Bool) (p : String)
    (log : List (Handled Node)) (h : Handled Node) :
    failuresSince reset p (log ++ [h]) = if reset h then 0 else
      (if h.1 = .failedHeartbeat p then 1 else 0) + failuresSince reset p log := by
  simp [failuresSince, failuresBefore]

/-- Fewer resets leave more failures to count. -/
theorem failuresBefore_le {r₁ r₂ : Handled Node → Bool} (hr : ∀ h, r₁ h → r₂ h)
    (p : String) :
    ∀ log, failuresBefore r₂ p log ≤ failuresBefore r₁ p log
  | [] => le_rfl
  | h :: log => by
    have ih := failuresBefore_le hr p log
    by_cases h₂ : r₂ h
    · simp [failuresBefore, h₂]
    · have h₁ : r₁ h = false := by simpa using mt (hr h) h₂
      have h₂' : r₂ h = false := by simpa using h₂
      simp only [failuresBefore, h₁, h₂', Bool.false_eq_true, if_false]
      omega

variable [DecidableEq Node]

/-- A `ResumedHeartbeat(p)`. -/
def resumes (p : String) (h : Handled Node) : Bool :=
  h.1 = .resumedHeartbeat p

/-- A `ResumedHeartbeat(p)`, or a handling whose `RemoveServer(p)` succeeded. -/
def resetsCount (p : String) (h : Handled Node) : Bool :=
  h.1 = .resumedHeartbeat p ∨ Call.removeServer p true ∈ h.2

/-! ## The counter is the count -/

theorem ofNat_add_one (n : Nat) : BitVec.ofNat 64 n + 1 = BitVec.ofNat 64 (n + 1) :=
  BitVec.ofNat_add_ofNat n 1

/-- The signed value of a counter that holds `n` once one more failure is added: never above
`n + 1`. -/
theorem toInt_ofNat_succ_le (n : Nat) : (BitVec.ofNat 64 n + 1).toInt ≤ n + 1 := by
  rw [ofNat_add_one, BitVec.toInt_ofNat, Int.bmod_def]
  split_ifs <;> omega

/-- The same value is `n + 1` itself as long as that is below `2^63`. -/
theorem toInt_ofNat_succ {n : Nat} (h : n + 1 < 2 ^ 63) : (BitVec.ofNat 64 n + 1).toInt = n + 1 := by
  rw [ofNat_add_one, BitVec.toInt_ofNat, Int.bmod_def]
  split_ifs <;> omega

variable {cfg : ObserverConfig}

/-- **The counter is the abstract count.** With the feature on, after every run the
callback's `failedHeartBeats[p]` is the number of `FailedHeartbeat(p)` handled since the
later of the last `ResumedHeartbeat(p)` and the last successful `RemoveServer(p)`, as a
64-bit value. -/
theorem failedHeartBeats_run (hT : 0 < cfg.heartbeatPurgeThreshold) (peers : Registry Node)
    (xs : List (Observation × ObserverEnv)) (p : String) :
    (run cfg (.init peers) xs).1.failedHeartBeats p =
      BitVec.ofNat 64 (failuresSince (resetsCount p) p (run cfg (.init peers) xs).2) := by
  revert p
  refine run_induction cfg (fun acc => ∀ p, acc.1.failedHeartBeats p =
    BitVec.ofNat 64 (failuresSince (resetsCount p) p acc.2)) (fun _ => rfl) ?_ xs
  rintro ⟨s, log⟩ ⟨o, env⟩ ih p
  have hp : s.failedHeartBeats p = BitVec.ofNat 64 (failuresSince (resetsCount p) p log) := ih p
  simp only [observe, failuresSince_append_singleton, failedHeartBeats_newObserver cfg env s hT,
    hp, resetsCount, decide_eq_true_eq]
  split_ifs
  · rfl
  · rw [Nat.add_comm, ofNat_add_one]
  · rw [Nat.zero_add]; exact BitVec.add_zero _

/-! ## The purge discipline -/

/-- **Heartbeat purge.** Take any run of the callback from its start, then one more
observation `o` handled with the collaborators answering `env`:
(i) it issues `RemoveServer(p)` or `peers.Delete(p)` only for a `FailedHeartbeat(p)`, with
the feature on and this node leading, and `peers.Delete(p)` only right after a successful
`RemoveServer(p)`;
(ii) it issues `RemoveServer(p)` only once `T` failures of `p` have been handled since its
last resumed heartbeat;
(iii) a `FailedHeartbeat(p)` on the leader issues `RemoveServer(p)` as soon as `T` failures,
this one included, have been handled since the later of the last resumed heartbeat and the
last successful removal of `p`, as long as that count fits the `int` counter (below `2^63`);
(iv) any other observation leaves `p`'s counter alone. -/
theorem heartbeat_purge_discipline (cfg : ObserverConfig) (peers : Registry Node)
    (pre : List (Observation × ObserverEnv)) (o : Observation) (env : ObserverEnv)
    (p : String) :
    let before := run cfg (.init peers) pre
    let after := newObserver cfg env before.1 o
    ((∃ b, Call.removeServer p b ∈ after.2 ∨ Call.deletePeer p b ∈ after.2) →
      o = .failedHeartbeat p ∧ 0 < cfg.heartbeatPurgeThreshold ∧ env.isLeader = true) ∧
    (∀ b, Call.deletePeer p b ∈ after.2 → after.2 = [.removeServer p true, .deletePeer p b]) ∧
    (∀ b, Call.removeServer p b ∈ after.2 →
      cfg.heartbeatPurgeThreshold ≤ failuresSince (resumes p) p (before.2 ++ [(o, after.2)])) ∧
    (o = .failedHeartbeat p → env.isLeader = true → 0 < cfg.heartbeatPurgeThreshold →
      failuresSince (resetsCount p) p before.2 + 1 < 2 ^ 63 →
      cfg.heartbeatPurgeThreshold ≤ failuresSince (resetsCount p) p before.2 + 1 →
      ∃ b, Call.removeServer p b ∈ after.2) ∧
    (o ≠ .failedHeartbeat p → o ≠ .resumedHeartbeat p →
      after.1.failedHeartBeats p = before.1.failedHeartBeats p) := by
  intro before after
  refine ⟨fun h => ?_, fun b h => ?_, fun b h => ?_, ?_,
    failedHeartBeats_newObserver_of_ne cfg env before.1⟩
  · obtain ⟨ho, hT, -, hl, -⟩ := newObserver_purge_calls cfg env before.1 h
    exact ⟨ho, hT, hl⟩
  · obtain ⟨-, -, -, -, hc⟩ := newObserver_purge_calls cfg env before.1 ⟨b, .inr h⟩
    rw [hc] at h ⊢
    split_ifs at h ⊢ <;> simp_all
  · obtain ⟨rfl, hT, hle, -, -⟩ := newObserver_purge_calls cfg env before.1 ⟨b, .inl h⟩
    have hcount : (before.1.failedHeartBeats p + 1).toInt ≤
        failuresSince (resetsCount p) p before.2 + 1 := by
      rw [failedHeartBeats_run hT peers pre p]
      exact toInt_ofNat_succ_le _
    have hr : ∀ h : Handled Node, resumes p h → resetsCount p h := fun h hr => by
      simp_all [resumes, resetsCount]
    have hmono := failuresBefore_le hr p before.2.reverse
    simp only [failuresSince_append_singleton, resumes, decide_eq_true_eq, reduceCtorEq,
      if_false, if_true]
    simp only [failuresSince] at hcount ⊢
    omega
  · rintro rfl hl hT hfit hle
    rw [← toInt_ofNat_succ hfit, ← failedHeartBeats_run hT peers pre p] at hle
    rcases newObserver_failedHeartbeat cfg env (run cfg (.init peers) pre).1 p with
      ⟨h0, -⟩ | ⟨-, hn, -⟩ | ⟨-, -, -, -, hr⟩ | ⟨-, -, -, -, hr⟩
    · omega
    · exact absurd ⟨by omega, hl⟩ hn
    · exact ⟨false, by simp [after, before, hr]⟩
    · exact ⟨true, by simp [after, before, hr]⟩

/-! ## A failed registry delete -/

/-- Threshold `2`, plugins without watchers. -/
def purgeConfig : ObserverConfig := ⟨2, false, "a", false⟩

/-- Three failed heartbeats of `b` on the leader; at the second the purge's `RemoveServer`
succeeds and its `peers.Delete` fails. -/
def deleteFailsTrace : List (Observation × ObserverEnv) :=
  [(.failedHeartbeat "b", ⟨true, true, true⟩), (.failedHeartbeat "b", ⟨true, true, false⟩),
    (.failedHeartbeat "b", ⟨true, true, true⟩)]

/-- The run of `deleteFailsTrace` from a registry holding `b`. -/
def deleteFailsRun : ObserverState String × List (Handled String) :=
  run purgeConfig (.init ((∅ : Registry String).insert "b" "node b")) deleteFailsTrace

/-- After the failed `peers.Delete`, `b` is out of the consensus group but its record stays;
the callback cleared its counter all the same, so the next failed heartbeat is one below
the threshold and retries nothing. -/
theorem purge_clears_counter_after_failed_delete :
    deleteFailsRun.2.map (·.2) = [[], [.removeServer "b" true, .deletePeer "b" false], []] ∧
      deleteFailsRun.1.peers.lookup "b" = some "node b" ∧
      deleteFailsRun.1.failedHeartBeats "b" = 1 := by
  decide

end Webmesh.Mesh
