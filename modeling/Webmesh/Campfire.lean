import Webmesh.Go.Text
import Webmesh.Datachannels.Proxy
import Webmesh.Datachannels.Setup

/-!
# Campfire

`campfire.New` makes `errc`, with room for one error, and `closec`, but it never makes
`readyc`. The `CampFire` it returns holds a `nil` `readyc`, and `Ready()` returns that `nil`
channel. After a successful `Detach`, the data channel's `OnOpen` closes `errc` and then
`readyc`. Closing a `nil` channel panics, so `Ready()` is never closed, and a receive from it
waits for ever. After a failed `Detach`, `OnOpen` sends the error on `errc`, and that is the
one error `Errors()` delivers.

Unlike the proxies, `New` closes the peer connection on every error return after creating it.
-/

namespace Webmesh.Campfire

open Go Datachannels

/-- What campfire's callbacks share. -/
structure CampFireState where
  errc : Chan String
  readyc : Chan Unit
  closec : Chan Unit
  /-- `cf.ReadWriteCloser` is set. -/
  readWriteCloser : Bool
  /-- `cf.PeerConnection.Close()` was called. -/
  connClosed : Bool
  deriving DecidableEq, Repr

/-- The `CampFire` a successful `New` returns: `errc` with room for one error, `closec`
unbuffered, and `readyc` never made. -/
def CampFireState.init : CampFireState := ⟨.make 1, .nil, .make 0, false, false⟩

/-- Campfire's callbacks. `OnICEConnectionStateChange` closes the peer connection on
`Disconnected`, `OnICECandidate` only logs, and the data channel's `OnOpen` detaches the
channel. No `OnClose` is registered. -/
def campfireStep (s : CampFireState) : Delivery → Except Fault CampFireState
  | .iceConnectionStateChange state _ =>
    .ok (if state = .disconnected then { s with connClosed := true } else s)
  | .dataChannelOpen (some e) => (s.errc.send e).map fun errc => { s with errc }
  | .dataChannelOpen none =>
    s.errc.close.bind fun errc =>
      s.readyc.close.map fun readyc => { s with readWriteCloser := true, errc, readyc }
  | .iceCandidate .. | .iceCandidateNil | .dataChannelClose | .candidateRead => .ok s

/-- `Ready()`. -/
def CampFireState.ready (s : CampFireState) : Chan Unit := s.readyc

/-- `Errors()`. -/
def CampFireState.errors (s : CampFireState) : Chan String := s.errc

section Callbacks

variable {s s' : CampFireState}

/-- No callback that goes through makes `readyc`. -/
theorem campfireStep_readyc {d : Delivery} (hs : s.readyc = .nil) (h : campfireStep s d = .ok s') :
    s'.readyc = .nil := by
  cases d with
  | iceConnectionStateChange state p =>
    cases h
    split_ifs <;> exact hs
  | dataChannelOpen e =>
    cases e with
    | some e =>
      cases hc : s.errc.send e <;>
        simp only [campfireStep, hc, Except.map, Except.ok.injEq, reduceCtorEq] at h
      subst h
      exact hs
    | none =>
      rw [campfireStep] at h
      cases hc : s.errc.close <;> rw [hc] at h
      · cases h
      · simp [hs, Chan.close, Except.bind, Except.map] at h
  | iceCandidate _ _ _ | iceCandidateNil | dataChannelClose | candidateRead => cases h; exact hs

/-- Before `OnOpen`, `errc` is as made and `readyc` is `nil`. -/
def Quiet (s : CampFireState) : Prop := s.errc = .make 1 ∧ s.readyc = .nil

/-- A delivery other than `OnOpen` goes through and keeps the state quiet. -/
theorem campfireStep_quiet {d : Delivery} (hd : ∀ e, d ≠ .dataChannelOpen e) (hs : Quiet s) :
    ∃ s', campfireStep s d = .ok s' ∧ Quiet s' := by
  cases d with
  | iceConnectionStateChange state p =>
    refine ⟨_, rfl, ?_⟩
    split_ifs <;> exact hs
  | dataChannelOpen e => exact absurd rfl (hd e)
  | iceCandidate _ _ _ | iceCandidateNil | dataChannelClose | candidateRead => exact ⟨s, rfl, hs⟩

/-- From a quiet state, `OnOpen` after a successful `Detach` closes the `nil` `readyc`, and
after a failed one buffers the error. -/
theorem campfireStep_open (hs : Quiet s) (e : String) :
    campfireStep s (.dataChannelOpen none) = .error .closeOfNil ∧
    campfireStep s (.dataChannelOpen (some e)) = .ok { s with errc := .made 1 [e] false } := by
  obtain ⟨herrc, hready⟩ := hs
  constructor
  · simp [campfireStep, herrc, hready, Chan.make, Chan.close, Except.bind, Except.map]
  · simp [campfireStep, herrc, Chan.make, Chan.send, Except.map]

/-- Every run of deliveries other than `OnOpen` goes through and stays quiet. -/
theorem campfireRun_quiet :
    ∀ (pre : List Delivery), (∀ d ∈ pre, ∀ e, d ≠ .dataChannelOpen e) →
    ∀ s, Quiet s → ∃ s', runCallbacks campfireStep s pre = .ok s' ∧ Quiet s'
  | [], _, s, hs => ⟨s, rfl, hs⟩
  | d :: pre, hpre, s, hs => by
    obtain ⟨t, ht, hq⟩ := campfireStep_quiet (hpre d (List.mem_cons_self _ _)) hs
    obtain ⟨u, hu, hq'⟩ := campfireRun_quiet pre
      (fun d hd => hpre d (List.mem_cons_of_mem _ hd)) t hq
    exact ⟨u, by rw [runCallbacks_cons, ht]; exact hu, hq'⟩

end Callbacks

/-- **`OnOpen` after a successful `Detach` closes a `nil` channel.** Whatever ICE deliveries
come first: a successful `Detach` makes `OnOpen` panic on `close(cf.readyc)`, and in every
run `Ready()` is the `nil` channel, on which a receive waits for ever. A failed `Detach`
delivers its error as the one value of `Errors()`. -/
theorem campfire_open_closes_nil (pre : List Delivery)
    (hpre : ∀ d ∈ pre, ∀ e, d ≠ .dataChannelOpen e) (err : String) :
    runCallbacks campfireStep .init (pre ++ [.dataChannelOpen none]) = .error .closeOfNil ∧
    (∀ ds s, runCallbacks campfireStep .init ds = .ok s → s.ready = .nil) ∧
    ∃ s, runCallbacks campfireStep .init (pre ++ [.dataChannelOpen (some err)]) = .ok s ∧
      s.errors = .made 1 [err] false := by
  obtain ⟨s, hs, herrc, hready⟩ := campfireRun_quiet pre hpre .init ⟨rfl, rfl⟩
  refine ⟨?_, fun ds s h => runCallbacks_induction campfireStep (fun s => s.readyc = .nil) ds
    (fun _ _ _ _ => campfireStep_readyc) _ s rfl h, ?_⟩
  · rw [runCallbacks_append, hs]
    show (campfireStep s _).bind _ = _
    rw [(campfireStep_open ⟨herrc, hready⟩ err).1]
    rfl
  · refine ⟨{ s with errc := .made 1 [err] false }, ?_, rfl⟩
    rw [runCallbacks_append, hs]
    show (campfireStep s _).bind _ = _
    rw [(campfireStep_open ⟨herrc, hready⟩ err).2]
    rfl

/-- Two ICE deliveries, then `OnOpen`: the successful `Detach` panics, the failed one delivers
its error. -/
theorem campfire_open_closes_nil_after_checking :
    runCallbacks campfireStep .init [.iceConnectionStateChange .checking true,
      .iceCandidate "c" false none, .dataChannelOpen none] = .error .closeOfNil ∧
    ∃ s, runCallbacks campfireStep .init [.iceConnectionStateChange .checking true,
      .iceCandidate "c" false none, .dataChannelOpen (some "detach failed")] = .ok s ∧
      s.errors = .made 1 ["detach failed"] false :=
  have h := campfire_open_closes_nil [.iceConnectionStateChange .checking true,
    .iceCandidate "c" false none] (by simp) "detach failed"
  ⟨h.1, h.2.2⟩

/-! ## `New` -/

/-- The ICE server URL `New` gives the peer connection for the TURN server `FindCampFire`
found: that server, with `stun:` put in front unless it is there already. -/
def iceServerURL (turnServer : String) : String :=
  if hasPrefix turnServer "stun:" then turnServer else "stun:" ++ turnServer

/-- The URL always has the `stun:` scheme, so a `turn:` server is asked as `stun:turn:…`; and
the URL is left as it is by a second pass. -/
theorem hasPrefix_iceServerURL (turnServer : String) :
    hasPrefix (iceServerURL turnServer) "stun:" = true ∧
      iceServerURL (iceServerURL turnServer) = iceServerURL turnServer := by
  have h : hasPrefix (iceServerURL turnServer) "stun:" = true := by
    unfold iceServerURL
    split_ifs with h
    · exact h
    · exact List.isPrefixOf_iff_prefix.2 (List.prefix_append _ _)
  exact ⟨h, if_pos h⟩

/-- The fallible calls of `New`, in order. -/
def newCalls : List SetupCall :=
  [⟨[], wrap "find camp fire", []⟩,
    ⟨[.peerConnection], wrap "new peer connection", []⟩,
    ⟨[], wrap "create data channel", [.peerConnection]⟩,
    ⟨[], wrap "create offer", [.peerConnection]⟩,
    ⟨[], wrap "set local description", [.peerConnection]⟩,
    ⟨[], wrap "unmarshal local description", [.peerConnection]⟩,
    ⟨[], wrap "marshal session description", [.peerConnection]⟩,
    ⟨[], wrap "set remote description", [.peerConnection]⟩]

/-- `New`, its call number `failAt` failing with `cause`. -/
def new (failAt : Nat) (cause : String) : Except String Unit × List Handle :=
  runConstructor newCalls failAt cause []

/-- `New` defers `cf.PeerConnection.Close()` on every error return after creating the peer
connection, which the proxy constructors never do. -/
theorem new_closes_peerConnection (cause : String) {i : Nat} (hi : i < newCalls.length)
    (hopen : ∃ c ∈ newCalls.take i, .peerConnection ∈ c.opens) :
    (new i cause).1.isOk = false ∧ .peerConnection ∉ (new i cause).2 := by
  have hcloses : ∀ i (hi : i < newCalls.length),
      (∃ c ∈ newCalls.take i, .peerConnection ∈ c.opens) →
        .peerConnection ∈ newCalls[i].closes := by
    decide
  refine ⟨runConstructor_isOk hi cause [], fun h => ?_⟩
  exact ((mem_runConstructor_error hi cause [] _).1 h).2 (hcloses i hi hopen)

end Webmesh.Campfire
