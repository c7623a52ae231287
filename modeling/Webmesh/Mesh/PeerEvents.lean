import Webmesh.Mesh.Observer

/-!
# Node events

A `PeerObservation` makes the callback refresh the WireGuard peers and, when plugins watch,
look the node up with `peers.Get` and emit `NODE_JOIN` or `NODE_LEAVE` with the record. The
lookup reads the registry as it is when the observation is handled. The heartbeat purge
deletes the record right after `RemoveServer` succeeds, and raft's removal observation for
that peer reaches the callback only afterwards; the observer never writes a record back, so
that removal finds nothing and no `NODE_LEAVE` goes out.
-/

namespace Webmesh.Mesh

variable {Node : Type} {cfg : ObserverConfig}

/-- A `PeerObservation` about another node, handled with watchers present, emits exactly the
event built from the record the registry holds at that moment, and nothing when it holds
none. -/
theorem newObserver_peer (env : ObserverEnv) (s : ObserverState Node) {p : String}
    (suffrage : Suffrage) (removed : Bool) (hs : cfg.testStore = false) (hp : p ≠ cfg.nodeID)
    (hw : cfg.hasWatchers = true) :
    newObserver cfg env s (.peer p suffrage removed) =
      (s, .refreshPeers :: emitFound (s.peers.lookup p) (peerEvent · suffrage removed)) := by
  simp [newObserver, hs, hp, hw]

/-- The observer never adds a record: a node missing from the registry stays missing for
the rest of the run. -/
theorem lookup_foldl_observe_eq_none {k : String} (ys : List (Observation × ObserverEnv))
    {acc : ObserverState Node × List (Handled Node)} (h : acc.1.peers.lookup k = none) :
    (ys.foldl (observe cfg) acc).1.peers.lookup k = none := by
  refine foldl_observe_induction cfg (fun acc => acc.1.peers.lookup k = none) ?_ ys h
  rintro ⟨s, log⟩ ⟨o, env⟩ ih
  rcases peers_newObserver cfg env s o with h | ⟨p, -, h⟩ <;> simp only [observe, h]
  · exact ih
  · by_cases hk : k = p
    · subst hk; exact AList.lookup_erase _ _
    · rw [AList.lookup_erase_ne hk]; exact ih

/-- **A purged node's removal announces nothing.** In any run, once the heartbeat purge's
`peers.Delete(p)` has succeeded, every later `PeerObservation` of `p` finds no record and
emits no event, whatever observations came in between. Before that, with watchers present,
a removal emits `NODE_LEAVE` exactly with the record the registry still holds. -/
theorem removal_after_purge_emits_nothing (peers : Registry Node)
    (pre mid : List (Observation × ObserverEnv)) (p : String) (env env' : ObserverEnv)
    (suffrage : Suffrage) :
    (Call.deletePeer p true ∈
        (newObserver cfg env (run cfg (.init peers) pre).1 (.failedHeartbeat p)).2 →
      ∀ e, Call.emit e ∉ (newObserver cfg env'
        (run cfg (.init peers) (pre ++ (.failedHeartbeat p, env) :: mid)).1
        (.peer p suffrage true)).2) ∧
    (cfg.testStore = false → p ≠ cfg.nodeID → cfg.hasWatchers = true → ∀ n,
      Call.emit ⟨.nodeLeave, n, .unknown⟩ ∈ (newObserver cfg env'
        (run cfg (.init peers) pre).1 (.peer p suffrage true)).2 ↔
      (run cfg (.init peers) pre).1.peers.lookup p = some n) := by
  constructor
  · intro hdel e
    have hgone : (run cfg (.init peers) (pre ++ [(.failedHeartbeat p, env)])).1.peers.lookup p =
        none := by
      rw [run_append_singleton]
      rcases newObserver_failedHeartbeat cfg env (run cfg (.init peers) pre).1 p with
        ⟨-, hr⟩ | ⟨-, -, hr⟩ | ⟨-, -, -, -, hr⟩ | ⟨-, -, -, -, hr⟩ <;>
        rw [hr] at hdel <;> simp at hdel
      simp only [observe, hr, hdel, if_true, AList.lookup_erase]
    have hnone : (mid.foldl (observe cfg) (run cfg (.init peers)
        (pre ++ [(.failedHeartbeat p, env)]))).1.peers.lookup p = none :=
      lookup_foldl_observe_eq_none mid hgone
    rw [← run_append, List.append_assoc, List.singleton_append] at hnone
    simp only [newObserver, hnone, emitFound]
    split_ifs <;> simp
  · intro hs hp hw n
    rw [newObserver_peer env' _ suffrage true hs hp hw]
    cases (run cfg (.init peers) pre).1.peers.lookup p <;> simp [emitFound, peerEvent, eq_comm]

/-! ## The purge followed by its removal observation -/

/-- Threshold `1`, plugins with watchers, this node `a`. -/
def watchedConfig : ObserverConfig := ⟨1, false, "a", true⟩

/-- On the leader, `b` misses a heartbeat and is purged; then raft reports its removal. -/
def purgeThenRemovalTrace : List (Observation × ObserverEnv) :=
  [(.failedHeartbeat "b", ⟨true, true, true⟩), (.peer "b" .voter true, ⟨true, true, true⟩)]

/-- The removal of `b` from the consensus group is handled with watchers present, and the
only call it makes is the peer refresh: no `NODE_LEAVE` is emitted. -/
theorem purge_then_removal_emits_no_leave :
    (run watchedConfig (.init ((∅ : Registry String).insert "b" "node b"))
      purgeThenRemovalTrace).2 =
      [(.failedHeartbeat "b", [.removeServer "b" true, .deletePeer "b" true]),
        (.peer "b" .voter true, [.refreshPeers])] := by
  decide

end Webmesh.Mesh
