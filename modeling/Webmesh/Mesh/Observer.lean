import Webmesh.Store

/-!
# The mesh store's observer callback

`meshStore.newObserver` returns the callback raft calls with every observation. The
callback closes over one map, `failedHeartBeats`, and reaches the registry through
`peers.Get` and `peers.Delete`. Here it is a function of that state, of the observation and
of what its collaborators answer during this call (whether this node leads, whether
`RemoveServer` and `peers.Delete` succeed); it returns the new state and the calls it
issued, in order. Logging is left out: no branch reads what it logs.

The map's values are Go `int`s, 64 bits wide: the counter is a `BitVec 64`, incremented with
wrap-around and compared with the threshold (an `int` too, any `Int` here) through its signed
value.

A run hands observations to the callback one after another and keeps, for each, the calls
its handling issued. Every property of the observer in this development is a property of
such runs, proved from the one-step lemmas at the end of this file.
-/

namespace Webmesh.Mesh

/-- The `raft.Observation` payloads the callback's type switch distinguishes. -/
inductive Observation where
  | failedHeartbeat (peerID : String)
  | resumedHeartbeat (peerID : String)
  | peer (id : String) (suffrage : Suffrage) (removed : Bool)
  | leader (leaderID : String)
  /-- A payload no case of the switch matches (vote requests, …). -/
  | other
  deriving DecidableEq, Repr

/-- `v1.WatchEvent`, the kinds the callback emits. -/
inductive WatchEvent where
  | nodeJoin
  | nodeLeave
  | leaderChange
  deriving DecidableEq, Repr

/-- `v1.ClusterStatus`. -/
inductive ClusterStatus where
  | unknown
  | voter
  | nonVoter
  | leader
  deriving DecidableEq, Repr

/-- `v1.Event` with a node payload: the record and the status `node.Proto` is given. -/
structure Event (Node : Type) where
  type : WatchEvent
  node : Node
  status : ClusterStatus
  deriving DecidableEq, Repr

/-- A call the callback makes to a collaborator, with its outcome where a branch reads it. -/
inductive Call (Node : Type) where
  | removeServer (id : String) (ok : Bool)
  | deletePeer (id : String) (ok : Bool)
  | refreshPeers
  | emit (event : Event Node)
  deriving DecidableEq, Repr

/-- The fields of `meshStore` the callback reads. -/
structure ObserverConfig where
  heartbeatPurgeThreshold : Int
  testStore : Bool
  nodeID : String
  /-- `s.plugins.HasWatchers()`. -/
  hasWatchers : Bool

/-- What the collaborators answer while one observation is handled. -/
structure ObserverEnv where
  isLeader : Bool
  removeServerOk : Bool
  deletePeerOk : Bool

/-- The callback's captured map, and the registry it reads and deletes from. A missing key
of a Go map reads as `0`, so the map is a function and `delete` sets `0`. -/
structure ObserverState (Node : Type) where
  failedHeartBeats : String → BitVec 64
  peers : Registry Node

/-- The state right after `newObserver`: `make(map[raft.ServerID]int)`. -/
def ObserverState.init {Node : Type} (peers : Registry Node) : ObserverState Node :=
  ⟨fun _ => 0, peers⟩

variable {Node : Type}

/-- The event a `PeerObservation` announces for the record `node`. -/
def peerEvent (node : Node) (suffrage : Suffrage) (removed : Bool) : Event Node where
  type := if removed then .nodeLeave else .nodeJoin
  node := node
  status := if removed then .unknown else if suffrage = .nonvoter then .nonVoter else .voter

/-- The emission that follows a successful `peers.Get`; a failed lookup emits nothing. -/
def emitFound (found : Option Node) (event : Node → Event Node) : List (Call Node) :=
  match found with
  | some node => [.emit (event node)]
  | none => []

/-- The callback returned by `meshStore.newObserver`, handling one observation. -/
def newObserver (cfg : ObserverConfig) (env : ObserverEnv) (s : ObserverState Node) :
    Observation → ObserverState Node × List (Call Node)
  | .failedHeartbeat p =>
    if cfg.heartbeatPurgeThreshold ≤ 0 then (s, []) else
    let count := s.failedHeartBeats p + 1
    let counted := Function.update s.failedHeartBeats p count
    if cfg.heartbeatPurgeThreshold ≤ count.toInt ∧ env.isLeader then
      if env.removeServerOk then
        (⟨Function.update counted p 0, if env.deletePeerOk then s.peers.erase p else s.peers⟩,
          [.removeServer p true, .deletePeer p env.deletePeerOk])
      else (⟨counted, s.peers⟩, [.removeServer p false])
    else (⟨counted, s.peers⟩, [])
  | .resumedHeartbeat p =>
    if 0 < cfg.heartbeatPurgeThreshold then
      (⟨Function.update s.failedHeartBeats p 0, s.peers⟩, [])
    else (s, [])
  | .peer id suffrage removed =>
    if cfg.testStore then (s, []) else
    if id = cfg.nodeID then (s, []) else
    (s, .refreshPeers ::
      if cfg.hasWatchers then emitFound (s.peers.lookup id) (peerEvent · suffrage removed)
      else [])
  | .leader id =>
    (s, if cfg.hasWatchers then emitFound (s.peers.lookup id) (⟨.leaderChange, ·, .leader⟩)
      else [])
  | .other => (s, [])

/-! ## Runs -/

/-- One handled observation: what came in, and the calls its handling issued. -/
abbrev Handled (Node : Type) := Observation × List (Call Node)

/-- Hand one observation to the callback, appending it and its calls to the log. -/
def observe (cfg : ObserverConfig) (acc : ObserverState Node × List (Handled Node))
    (x : Observation × ObserverEnv) : ObserverState Node × List (Handled Node) :=
  let r := newObserver cfg x.2 acc.1 x.1
  (r.1, acc.2 ++ [(x.1, r.2)])

/-- The state and the log after the callback has handled `xs`, in order, from `s`. -/
def run (cfg : ObserverConfig) (s : ObserverState Node) (xs : List (Observation × ObserverEnv)) :
    ObserverState Node × List (Handled Node) :=
  xs.foldl (observe cfg) (s, [])

theorem run_append (cfg : ObserverConfig) (s : ObserverState Node)
    (xs ys : List (Observation × ObserverEnv)) :
    run cfg s (xs ++ ys) = ys.foldl (observe cfg) (run cfg s xs) :=
  List.foldl_append _ _ _ _

theorem run_append_singleton (cfg : ObserverConfig) (s : ObserverState Node)
    (xs : List (Observation × ObserverEnv)) (x : Observation × ObserverEnv) :
    run cfg s (xs ++ [x]) = observe cfg (run cfg s xs) x := by
  simp [run_append]

/-- A property of the state and the log that handling one observation keeps holds after
any further observations. -/
theorem foldl_observe_induction (cfg : ObserverConfig)
    (P : ObserverState Node × List (Handled Node) → Prop)
    (hstep : ∀ acc x, P acc → P (observe cfg acc x)) :
    ∀ (ys : List (Observation × ObserverEnv)) {acc}, P acc → P (ys.foldl (observe cfg) acc)
  | [], _, h => h
  | y :: ys, _, h => foldl_observe_induction cfg P hstep ys (hstep _ y h)

/-- A property that the start has and that handling one observation keeps holds after
every run. -/
theorem run_induction (cfg : ObserverConfig) (P : ObserverState Node × List (Handled Node) → Prop)
    {s : ObserverState Node} (h0 : P (s, [])) (hstep : ∀ acc x, P acc → P (observe cfg acc x))
    (xs : List (Observation × ObserverEnv)) : P (run cfg s xs) :=
  foldl_observe_induction cfg P hstep xs h0

/-! ## One step -/

section Step

variable (cfg : ObserverConfig) (env : ObserverEnv) (s : ObserverState Node)

/-- The outcomes of a `FailedHeartbeat(p)`, one per branch of the callback: with the feature
off nothing happens; otherwise the failure is counted, and once the count reaches the
threshold on the leader `RemoveServer(p)` is called. Its success resets the count and is
followed by `peers.Delete(p)`, whose success erases the record. -/
theorem newObserver_failedHeartbeat (p : String) :
    (cfg.heartbeatPurgeThreshold ≤ 0 ∧ newObserver cfg env s (.failedHeartbeat p) = (s, [])) ∨
    (0 < cfg.heartbeatPurgeThreshold ∧
      ¬(cfg.heartbeatPurgeThreshold ≤ (s.failedHeartBeats p + 1).toInt ∧ env.isLeader = true) ∧
      newObserver cfg env s (.failedHeartbeat p) =
        (⟨Function.update s.failedHeartBeats p (s.failedHeartBeats p + 1), s.peers⟩, [])) ∨
    (0 < cfg.heartbeatPurgeThreshold ∧ cfg.heartbeatPurgeThreshold ≤ (s.failedHeartBeats p + 1).toInt ∧
      env.isLeader = true ∧ env.removeServerOk = false ∧
      newObserver cfg env s (.failedHeartbeat p) =
        (⟨Function.update s.failedHeartBeats p (s.failedHeartBeats p + 1), s.peers⟩,
          [.removeServer p false])) ∨
    (0 < cfg.heartbeatPurgeThreshold ∧ cfg.heartbeatPurgeThreshold ≤ (s.failedHeartBeats p + 1).toInt ∧
      env.isLeader = true ∧ env.removeServerOk = true ∧
      newObserver cfg env s (.failedHeartbeat p) =
        (⟨Function.update s.failedHeartBeats p 0,
          if env.deletePeerOk then s.peers.erase p else s.peers⟩,
          [.removeServer p true, .deletePeer p env.deletePeerOk])) := by
  by_cases h0 : cfg.heartbeatPurgeThreshold ≤ 0
  · exact .inl ⟨h0, if_pos h0⟩
  by_cases h1 : cfg.heartbeatPurgeThreshold ≤ (s.failedHeartBeats p + 1).toInt ∧ env.isLeader = true
  · cases hr : env.removeServerOk
    · refine .inr (.inr (.inl ⟨by omega, h1.1, h1.2, rfl, ?_⟩))
      simp only [newObserver, if_neg h0, if_pos h1, hr, Bool.false_eq_true, if_false]
    · refine .inr (.inr (.inr ⟨by omega, h1.1, h1.2, rfl, ?_⟩))
      simp only [newObserver, if_neg h0, if_pos h1, hr, if_true, Function.update_idem]
  · exact .inr (.inl ⟨by omega, h1, by simp only [newObserver, if_neg h0, if_neg h1]⟩)

/-- Only a heartbeat purge changes the registry, and only by removing the peer. -/
theorem peers_newObserver (o : Observation) :
    (newObserver cfg env s o).1.peers = s.peers ∨
      ∃ p, o = .failedHeartbeat p ∧ (newObserver cfg env s o).1.peers = s.peers.erase p := by
  cases o with
  | failedHeartbeat p =>
    rcases newObserver_failedHeartbeat cfg env s p with
      ⟨-, h⟩ | ⟨-, -, h⟩ | ⟨-, -, -, -, h⟩ | ⟨-, -, -, -, h⟩ <;> rw [h]
    · exact .inl rfl
    · exact .inl rfl
    · exact .inl rfl
    · cases env.deletePeerOk
      · exact .inl rfl
      · exact .inr ⟨p, rfl, rfl⟩
  | resumedHeartbeat p => exact .inl (by simp only [newObserver]; split <;> rfl)
  | peer id _ _ => exact .inl (by simp only [newObserver]; split <;> (try split) <;> rfl)
  | leader _ | other => exact .inl rfl

/-- Every `RemoveServer` or `peers.Delete` the callback issues is about the peer of the
`FailedHeartbeat` it handles, with the feature on and this node leading; a `peers.Delete`
only follows a `RemoveServer` of the same peer that succeeded. -/
theorem newObserver_purge_calls {o : Observation} {p : String}
    (h : ∃ b, Call.removeServer p b ∈ (newObserver cfg env s o).2 ∨
      Call.deletePeer p b ∈ (newObserver cfg env s o).2) :
    o = .failedHeartbeat p ∧ 0 < cfg.heartbeatPurgeThreshold ∧
      cfg.heartbeatPurgeThreshold ≤ (s.failedHeartBeats p + 1).toInt ∧ env.isLeader = true ∧
      (newObserver cfg env s o).2 = if env.removeServerOk then
        [.removeServer p true, .deletePeer p env.deletePeerOk] else [.removeServer p false] := by
  cases o with
  | failedHeartbeat q =>
    rcases newObserver_failedHeartbeat cfg env s q with
      ⟨-, hr⟩ | ⟨-, -, hr⟩ | ⟨hT, hle, hl, hb, hr⟩ | ⟨hT, hle, hl, hb, hr⟩ <;>
      rw [hr] at h ⊢ <;> simp at h
    · subst h
      exact ⟨rfl, hT, by omega, hl, by rw [hb]; rfl⟩
    · obtain rfl : p = q := by rcases h with ⟨h, -⟩ | h | ⟨h, -⟩ <;> exact h
      exact ⟨rfl, hT, by omega, hl, by rw [hb]; rfl⟩
  | resumedHeartbeat q => simp only [newObserver] at h; split at h <;> simp at h
  | peer _ _ _ | leader _ =>
    simp only [newObserver, emitFound] at h
    split_ifs at h <;> (try split at h) <;> simp at h
  | other => simp [newObserver] at h

/-- Observations about other peers, and those about no peer, leave `failedHeartBeats[p]`
alone. -/
theorem failedHeartBeats_newObserver_of_ne {o : Observation} {p : String}
    (h₁ : o ≠ .failedHeartbeat p) (h₂ : o ≠ .resumedHeartbeat p) :
    (newObserver cfg env s o).1.failedHeartBeats p = s.failedHeartBeats p := by
  cases o with
  | failedHeartbeat q =>
    have hq : p ≠ q := fun h => h₁ (by rw [h])
    rcases newObserver_failedHeartbeat cfg env s q with
      ⟨-, hr⟩ | ⟨-, -, hr⟩ | ⟨-, -, -, -, hr⟩ | ⟨-, -, -, -, hr⟩ <;> rw [hr]
    all_goals exact Function.update_noteq hq _ _
  | resumedHeartbeat q =>
    have hq : p ≠ q := fun h => h₂ (by rw [h])
    simp only [newObserver]
    split
    · exact Function.update_noteq hq _ _
    · rfl
  | peer id suffrage removed => simp only [newObserver]; split <;> (try split) <;> rfl
  | leader id => rfl
  | other => rfl

/-- With the feature on, one observation sets `failedHeartBeats[p]` to `0` when it resumes
`p` or its handling removed `p`, and otherwise adds one exactly for a `FailedHeartbeat(p)`. -/
theorem failedHeartBeats_newObserver [DecidableEq Node] (hT : 0 < cfg.heartbeatPurgeThreshold)
    (o : Observation) (p : String) : (newObserver cfg env s o).1.failedHeartBeats p =
      if o = .resumedHeartbeat p ∨ Call.removeServer p true ∈ (newObserver cfg env s o).2 then 0
      else s.failedHeartBeats p + if o = .failedHeartbeat p then 1 else 0 := by
  by_cases ho : o = .failedHeartbeat p ∨ o = .resumedHeartbeat p
  · rcases ho with rfl | rfl
    · rcases newObserver_failedHeartbeat cfg env s p with
        ⟨h0, -⟩ | ⟨-, -, hr⟩ | ⟨-, -, -, -, hr⟩ | ⟨-, -, -, -, hr⟩
      · omega
      all_goals simp [hr]
    · simp [newObserver, hT]
  · push_neg at ho
    have hcall : Call.removeServer p true ∉ (newObserver cfg env s o).2 := fun h =>
      ho.1 (newObserver_purge_calls cfg env s ⟨true, .inl h⟩).1
    simp [ho.1, ho.2, hcall, failedHeartBeats_newObserver_of_ne cfg env s ho.1 ho.2]

end Step

end Webmesh.Mesh
