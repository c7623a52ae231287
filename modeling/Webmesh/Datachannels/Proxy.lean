import Webmesh.Go.Runtime

/-!
# The WireGuard proxies' callbacks

`NewWireGuardProxyServer` and `NewWireGuardProxyClient` register four callbacks with the
WebRTC engine: `OnICECandidate`, `OnICEConnectionStateChange`, and the data channel's
`OnOpen` and `OnClose`. The callbacks share channels: `readyc`, `closec`, and the server's
`candidatec` or the client's `errs`. The server's callbacks also share the mutex `mu`. Each
delivery runs one callback to completion, as one step of the proxy's state.

Three orders that the engine may produce break these callbacks:
* A candidate that arrives once `readyc` is closed makes the server's `OnICECandidate`
  return from its `select` while still holding `mu`. Every later `OnICECandidate` or
  `OnICEConnectionStateChange` then blocks on `mu`.
* A second `Connected` closes `readyc` again, on either side.
* The `case <-pc.closec:` of the server's `select` has an empty body, so control falls
  through to the send. A candidate that arrives after `OnOpen` closed `candidatec` and
  `OnClose` closed `closec` is then sent on the closed `candidatec`.

The client also starts a goroutine that receives the peer's candidates and reports each failed
`AddICECandidate` on `errs`, and goes on. Once the constructor has returned, nothing receives
from `errs`: the goroutine blocks for good at the failure that finds its ten places taken, and
no later candidate is received (`receiveCandidates_blocks`).
-/

namespace Webmesh.Datachannels

open Go

/-- `webrtc.ICEConnectionState`. -/
inductive ICEConnectionState where
  | new | checking | connected | completed | disconnected | failed | closed
  deriving DecidableEq, Repr

/-- One delivery to the callbacks, with what the run time and the collaborators answer
during it. -/
inductive Delivery where
  /-- `OnICECandidate` with a candidate. `closecFirst` is the case a `select` takes when
  `readyc` and `closec` are both ready; `sendError` is the error of the client's `neg.Send`. -/
  | iceCandidate (candidate : String) (closecFirst : Bool) (sendError : Option String)
  /-- `OnICECandidate(nil)`, the end of gathering. -/
  | iceCandidateNil
  /-- `OnICEConnectionStateChange`; `pairOk` is whether `GetSelectedCandidatePair` succeeds. -/
  | iceConnectionStateChange (state : ICEConnectionState) (pairOk : Bool)
  /-- The data channel's `OnOpen`; `detachError` is the error of `Detach`, if any. -/
  | dataChannelOpen (detachError : Option String)
  /-- The data channel's `OnClose`. -/
  | dataChannelClose
  /-- The server's caller receives from `Candidates()`. -/
  | candidateRead
  deriving DecidableEq, Repr

/-! ## The server -/

/-- What the server's callbacks share. -/
structure ServerState where
  candidatec : Chan String
  closec : Chan Unit
  readyc : Chan Unit
  /-- `mu` is held. -/
  mu : Bool
  deriving DecidableEq, Repr

/-- Right after `NewWireGuardProxyServer` returns: `candidatec` has room for 10 candidates,
`closec` and `readyc` are unbuffered, and `mu` is free. -/
def ServerState.init : ServerState := ⟨.make 10, .make 0, .make 0, false⟩

/-- The server's `select` takes `case <-readyc:`, whose body returns. -/
def takesReady (readyc closec : Chan Unit) (closecFirst : Bool) : Bool :=
  readyc.recvReady && !(closec.recvReady && closecFirst)

/-- The server's callbacks. `OnICECandidate` and `OnICEConnectionStateChange` take `mu`
first; the first returns from its `select` on `readyc` without unlocking it. -/
def serverStep (s : ServerState) : Delivery → Except Fault ServerState
  | .iceCandidate c closecFirst _ =>
    (lock s.mu).bind fun _ =>
      if takesReady s.readyc s.closec closecFirst then .ok { s with mu := true }
      else (s.candidatec.send c).map fun candidatec => { s with candidatec }
  | .iceCandidateNil => .ok s
  | .iceConnectionStateChange state pairOk =>
    (lock s.mu).bind fun _ =>
      if state = .connected ∧ pairOk = true then
        s.readyc.close.map fun readyc => { s with readyc }
      else .ok s
  | .dataChannelOpen _ => s.candidatec.close.map fun candidatec => { s with candidatec }
  | .dataChannelClose => s.closec.close.map fun closec => { s with closec }
  | .candidateRead => .ok { s with candidatec := s.candidatec.recv.2 }

section Server

variable {s s' : ServerState} {d : Delivery}

/-- What a server callback does when it goes through: nothing; take `mu` and return holding
it; send a candidate; close `readyc`; close `candidatec`; close `closec`; or hand a candidate
to the caller. The callbacks that take `mu` need it free. -/
theorem serverStep_cases (h : serverStep s d = .ok s') :
    s' = s ∨
    (s.mu = false ∧ s' = { s with mu := true }) ∨
    (s.mu = false ∧ ∃ c, s.candidatec.send c = .ok s'.candidatec ∧
      s' = { s with candidatec := s'.candidatec }) ∨
    (s.mu = false ∧ s.readyc.close = .ok s'.readyc ∧ s' = { s with readyc := s'.readyc }) ∨
    (s.candidatec.close = .ok s'.candidatec ∧ s' = { s with candidatec := s'.candidatec }) ∨
    (s.closec.close = .ok s'.closec ∧ s' = { s with closec := s'.closec }) ∨
    s' = { s with candidatec := s.candidatec.recv.2 } := by
  cases d with
  | iceCandidate c closecFirst e =>
    simp only [serverStep, lock_bind] at h
    split_ifs at h with hm ht
    · cases h; exact .inr (.inl ⟨by simpa using hm, rfl⟩)
    · cases hc : s.candidatec.send c <;> simp only [hc, Except.map, Except.ok.injEq, reduceCtorEq] at h
      subst h; exact .inr (.inr (.inl ⟨by simpa using hm, c, hc, rfl⟩))
  | iceCandidateNil => cases h; exact .inl rfl
  | iceConnectionStateChange state pairOk =>
    simp only [serverStep, lock_bind] at h
    split_ifs at h with hm ht
    · cases hc : s.readyc.close <;> simp only [hc, Except.map, Except.ok.injEq, reduceCtorEq] at h
      subst h; exact .inr (.inr (.inr (.inl ⟨by simpa using hm, rfl, rfl⟩)))
    · cases h; exact .inl rfl
  | dataChannelOpen e =>
    cases hc : s.candidatec.close <;>
      simp only [serverStep, hc, Except.map, Except.ok.injEq, reduceCtorEq] at h
    subst h; exact .inr (.inr (.inr (.inr (.inl ⟨rfl, rfl⟩))))
  | dataChannelClose =>
    cases hc : s.closec.close <;>
      simp only [serverStep, hc, Except.map, Except.ok.injEq, reduceCtorEq] at h
    subst h; exact .inr (.inr (.inr (.inr (.inr (.inl ⟨rfl, rfl⟩)))))
  | candidateRead => cases h; exact .inr (.inr (.inr (.inr (.inr (.inr rfl)))))

/-- A held `mu` is never released: the callbacks that would release it block on it. -/
theorem serverStep_mu (hs : s.mu = true) (h : serverStep s d = .ok s') : s'.mu = true := by
  rcases serverStep_cases h with
    rfl | ⟨hm, -⟩ | ⟨hm, -⟩ | ⟨hm, -⟩ | ⟨-, h'⟩ | ⟨-, h'⟩ | h'
  · exact hs
  any_goals simp_all
  all_goals rw [h']; exact hs

/-- A closed `readyc` stays closed. -/
theorem serverStep_readyc (hs : s.readyc.isClosed = true) (h : serverStep s d = .ok s') :
    s'.readyc.isClosed = true := by
  rcases serverStep_cases h with
    rfl | ⟨-, h'⟩ | ⟨-, -, -, h'⟩ | ⟨-, hc, -⟩ | ⟨-, h'⟩ | ⟨-, h'⟩ | h'
  · exact hs
  · rw [h']; exact hs
  · rw [h']; exact hs
  · simp [(Chan.close_eq_ok hc).1] at hs
  all_goals rw [h']; exact hs

/-- A closed `candidatec` stays closed. -/
theorem serverStep_candidatec (hs : s.candidatec.isClosed = true) (h : serverStep s d = .ok s') :
    s'.candidatec.isClosed = true := by
  rcases serverStep_cases h with
    rfl | ⟨-, h'⟩ | ⟨-, c, hc, -⟩ | ⟨-, -, h'⟩ | ⟨hc, -⟩ | ⟨-, h'⟩ | h'
  · exact hs
  · rw [h']; exact hs
  · simp [(Chan.send_eq_ok hc).1] at hs
  · rw [h']; exact hs
  · simp [(Chan.close_eq_ok hc).1] at hs
  · rw [h']; exact hs
  · rw [h']; simpa using hs

/-- A closed `closec` stays closed. -/
theorem serverStep_closec (hs : s.closec.isClosed = true) (h : serverStep s d = .ok s') :
    s'.closec.isClosed = true := by
  rcases serverStep_cases h with
    rfl | ⟨-, h'⟩ | ⟨-, -, -, h'⟩ | ⟨-, -, h'⟩ | ⟨-, h'⟩ | ⟨hc, -⟩ | h'
  · exact hs
  any_goals rw [h']; exact hs
  simp [(Chan.close_eq_ok hc).1] at hs

/-- Once `readyc` is closed, a `Connected` whose candidate pair is found faults: it blocks on
`mu` or closes `readyc` again. -/
theorem serverStep_connected_of_readyc (hs : s.readyc.isClosed = true) :
    (serverStep s (.iceConnectionStateChange .connected true)).isOk = false := by
  cases hm : s.mu <;>
    simp [serverStep, hm, Chan.close_of_isClosed hs, Except.map, Except.isOk, Except.toBool]

/-- With `mu` held, the callbacks that take it block. -/
theorem serverStep_of_mu (hs : s.mu = true) :
    (∀ c closecFirst e, (serverStep s (.iceCandidate c closecFirst e)).isOk = false) ∧
    ∀ state pairOk, (serverStep s (.iceConnectionStateChange state pairOk)).isOk = false := by
  constructor <;> intros <;> simp [serverStep, hs, Except.isOk, Except.toBool]

/-- A successful `Connected` closes `readyc`. -/
theorem serverStep_connected (h : serverStep s (.iceConnectionStateChange .connected true) = .ok s') :
    s'.readyc.isClosed = true := by
  simp only [serverStep, lock_bind, and_self, if_true] at h
  split_ifs at h
  cases hc : s.readyc.close <;> simp only [hc, Except.map, Except.ok.injEq, reduceCtorEq] at h
  subst h
  exact (Chan.close_eq_ok hc).2

/-- A candidate handled once `readyc` is closed, with the `select` taking `readyc`, returns
holding `mu`. -/
theorem serverStep_candidate_of_readyc (hs : s.readyc.isClosed = true) {c : String}
    {e : Option String} (h : serverStep s (.iceCandidate c false e) = .ok s') : s'.mu = true := by
  simp only [serverStep, lock_bind, takesReady, Chan.recvReady_of_isClosed hs, Bool.and_false,
    Bool.not_false, Bool.and_true, if_true] at h
  split_ifs at h
  cases h
  rfl

/-- After `OnOpen` and `OnClose`, a candidate whose `select` takes `closec` falls through to the
send on the closed `candidatec`, unless it blocks on `mu` first. -/
theorem serverStep_candidate_of_closed (hs : s.candidatec.isClosed = true ∧ s.closec.isClosed = true)
    (c : String) (e : Option String) : (serverStep s (.iceCandidate c true e)).isOk = false := by
  cases hm : s.mu <;>
    simp [serverStep, hm, takesReady, Chan.recvReady_of_isClosed hs.2, Chan.send_of_isClosed hs.1,
      Except.map, Except.isOk, Except.toBool]

/-- `OnOpen` closes `candidatec`. -/
theorem serverStep_open {x : Option String} (h : serverStep s (.dataChannelOpen x) = .ok s') :
    s'.candidatec.isClosed = true := by
  cases hc : s.candidatec.close <;>
    simp only [serverStep, hc, Except.map, Except.ok.injEq, reduceCtorEq] at h
  subst h
  exact (Chan.close_eq_ok hc).2

/-- `OnClose` closes `closec`. -/
theorem serverStep_close (h : serverStep s .dataChannelClose = .ok s') : s'.closec.isClosed = true := by
  cases hc : s.closec.close <;>
    simp only [serverStep, hc, Except.map, Except.ok.injEq, reduceCtorEq] at h
  subst h
  exact (Chan.close_eq_ok hc).2

end Server

/-! ## Runs of the server -/

section ServerRuns

variable {s₀ s : ServerState}

/-- After a successful `Connected`, `readyc` is closed for the rest of the run. -/
theorem serverRun_readyc {pre mid : List Delivery}
    (h : runCallbacks serverStep s₀ (pre ++ [.iceConnectionStateChange .connected true] ++ mid) =
      .ok s) : s.readyc.isClosed = true := by
  obtain ⟨t, ht, hmid⟩ := runCallbacks_append_eq_ok serverStep h
  obtain ⟨u, -, hu⟩ := runCallbacks_append_singleton serverStep ht
  exact runCallbacks_induction serverStep _ mid (fun _ _ _ _ => serverStep_readyc) t s
    (serverStep_connected hu) hmid

/-- A candidate handled after a successful `Connected`, with the `select` taking `readyc`,
leaves `mu` held. -/
theorem serverRun_mu {pre mid : List Delivery} {c : String} {e : Option String}
    (h : runCallbacks serverStep s₀ (pre ++ [.iceConnectionStateChange .connected true] ++ mid ++
      [.iceCandidate c false e]) = .ok s) : s.mu = true := by
  obtain ⟨t, ht, hc⟩ := runCallbacks_append_singleton serverStep h
  exact serverStep_candidate_of_readyc (serverRun_readyc ht) hc

/-- After `OnOpen` and then `OnClose`, `candidatec` and `closec` are closed. -/
theorem serverRun_closed {pre mid : List Delivery} {x : Option String}
    (h : runCallbacks serverStep s₀ (pre ++ [.dataChannelOpen x] ++ mid ++ [.dataChannelClose]) =
      .ok s) : s.candidatec.isClosed = true ∧ s.closec.isClosed = true := by
  obtain ⟨t, ht, hclose⟩ := runCallbacks_append_singleton serverStep h
  obtain ⟨u, hu, hmid⟩ := runCallbacks_append_eq_ok serverStep ht
  obtain ⟨w, -, hopen⟩ := runCallbacks_append_singleton serverStep hu
  have hcand := runCallbacks_induction serverStep _ mid (fun _ _ _ _ => serverStep_candidatec) u t
    (serverStep_open hopen) hmid
  exact ⟨serverStep_candidatec hcand hclose, serverStep_close hclose⟩

end ServerRuns

/-! ## The client -/

/-- What the client's callbacks share. -/
structure ClientState where
  readyc : Chan Unit
  closec : Chan Unit
  errs : Chan String
  /-- The negotiation stream is open for sending. -/
  negOpen : Bool
  deriving DecidableEq, Repr

/-- When `NewWireGuardProxyClient` registers its callbacks: `readyc` and `closec`
unbuffered, `errs` with room for 10 errors, the negotiation stream open. -/
def ClientState.init : ClientState := ⟨.make 0, .make 0, .make 10, true⟩

/-- The client's callbacks. `closeNeg` closes the negotiation stream for sending; a failed
`neg.Send` defers it and sends its error on `errs`. -/
def clientStep (s : ClientState) : Delivery → Except Fault ClientState
  | .iceCandidate _ _ sendError =>
    if s.readyc.recvReady || s.closec.recvReady then .ok s
    else match sendError with
      | none => .ok s
      | some e => (s.errs.send ("failed to send ICE candidate: " ++ e)).map
          fun errs => { s with errs, negOpen := false }
  | .iceConnectionStateChange state _ =>
    if state = .connected then s.readyc.close.map fun readyc => { s with readyc, negOpen := false }
    else .ok s
  | .dataChannelClose => s.closec.close.map fun closec => { s with closec }
  | .iceCandidateNil | .dataChannelOpen _ | .candidateRead => .ok s

section Client

variable {s s' : ClientState} {d : Delivery}

/-- Only `Connected` touches `readyc`, and it closes it. -/
theorem clientStep_readyc_eq (h : clientStep s d = .ok s') :
    s'.readyc = s.readyc ∨ s.readyc.close = .ok s'.readyc := by
  cases d with
  | iceCandidate c cf e =>
    simp only [clientStep] at h
    split_ifs at h
    · cases h; exact .inl rfl
    · cases e with
      | none => cases h; exact .inl rfl
      | some e =>
        cases hc : s.errs.send ("failed to send ICE candidate: " ++ e) <;>
          simp only [hc, Except.map, Except.ok.injEq, reduceCtorEq] at h
        subst h; exact .inl rfl
  | iceConnectionStateChange state p =>
    simp only [clientStep] at h
    split_ifs at h
    · cases hc : s.readyc.close <;> simp only [hc, Except.map, Except.ok.injEq, reduceCtorEq] at h
      subst h; exact .inr rfl
    · cases h; exact .inl rfl
  | dataChannelClose =>
    cases hc : s.closec.close <;>
      simp only [clientStep, hc, Except.map, Except.ok.injEq, reduceCtorEq] at h
    subst h; exact .inl rfl
  | iceCandidateNil | dataChannelOpen _ | candidateRead => cases h; exact .inl rfl

/-- A closed `readyc` stays closed. -/
theorem clientStep_readyc (hs : s.readyc.isClosed = true) (h : clientStep s d = .ok s') :
    s'.readyc.isClosed = true := by
  rcases clientStep_readyc_eq h with h' | hc
  · rwa [h']
  · simp [(Chan.close_eq_ok hc).1] at hs

/-- `Connected` closes `readyc`. -/
theorem clientStep_connected {pairOk : Bool}
    (h : clientStep s (.iceConnectionStateChange .connected pairOk) = .ok s') :
    s'.readyc.isClosed = true := by
  cases hc : s.readyc.close <;>
    simp only [clientStep, if_true, hc, Except.map, Except.ok.injEq, reduceCtorEq] at h
  subst h
  exact (Chan.close_eq_ok hc).2

/-- Once `readyc` is closed, `Connected` closes it again. -/
theorem clientStep_connected_of_readyc (hs : s.readyc.isClosed = true) (pairOk : Bool) :
    (clientStep s (.iceConnectionStateChange .connected pairOk)).isOk = false := by
  simp [clientStep, Chan.close_of_isClosed hs, Except.map, Except.isOk, Except.toBool]

end Client

/-! ## Orders that break the callbacks -/

/-- **Reconnects and late candidates break the proxies' callbacks.** Whatever is delivered
before and in between: on the server, a candidate handled after a successful `Connected`,
with its `select` taking `readyc`, returns holding `mu`, and every later `OnICECandidate` or
`OnICEConnectionStateChange` then faults; a second successful `Connected` faults; and a
candidate after `OnOpen` and `OnClose` whose `select` takes `closec` faults. On the client, a
second `Connected` faults. -/
theorem proxy_callbacks_fault (pre mid post : List Delivery) (c c' : String)
    (e e' : Option String) (closecFirst pairOk p₁ p₂ : Bool) (state : ICEConnectionState)
    (x : Option String) :
    (∀ s, runCallbacks serverStep .init (pre ++ [.iceConnectionStateChange .connected true] ++
      mid ++ [.iceCandidate c false e]) = .ok s → s.mu = true) ∧
    (runCallbacks serverStep .init (pre ++ [.iceConnectionStateChange .connected true] ++ mid ++
      [.iceCandidate c false e] ++ post ++ [.iceCandidate c' closecFirst e'])).isOk = false ∧
    (runCallbacks serverStep .init (pre ++ [.iceConnectionStateChange .connected true] ++ mid ++
      [.iceCandidate c false e] ++ post ++ [.iceConnectionStateChange state pairOk])).isOk = false ∧
    (runCallbacks serverStep .init (pre ++ [.iceConnectionStateChange .connected true] ++ mid ++
      [.iceConnectionStateChange .connected true])).isOk = false ∧
    (runCallbacks serverStep .init (pre ++ [.dataChannelOpen x] ++ mid ++ [.dataChannelClose] ++
      post ++ [.iceCandidate c true e])).isOk = false ∧
    (runCallbacks clientStep .init (pre ++ [.iceConnectionStateChange .connected p₁] ++ mid ++
      [.iceConnectionStateChange .connected p₂])).isOk = false := by
  refine ⟨fun _ => serverRun_mu, ?_, ?_, ?_, ?_, ?_⟩
  · exact runCallbacks_stuck serverStep (fun s : ServerState => s.mu = true)
      (fun _ _ _ => serverStep_mu) (fun _ hs => (serverStep_of_mu hs).1 c' closecFirst e')
      (fun _ => serverRun_mu) post
  · exact runCallbacks_stuck serverStep (fun s : ServerState => s.mu = true)
      (fun _ _ _ => serverStep_mu) (fun _ hs => (serverStep_of_mu hs).2 state pairOk)
      (fun _ => serverRun_mu) post
  · refine runCallbacks_stuck serverStep _ (fun _ _ _ => serverStep_readyc)
      (fun _ hs => serverStep_connected_of_readyc hs)
      (fun s (h : runCallbacks serverStep .init
        (pre ++ [.iceConnectionStateChange .connected true]) = .ok s) => ?_) mid
    obtain ⟨t, -, ht⟩ := runCallbacks_append_singleton serverStep h
    exact serverStep_connected ht
  · exact runCallbacks_stuck serverStep
      (fun s : ServerState => s.candidatec.isClosed = true ∧ s.closec.isClosed = true)
      (fun _ _ _ hs h => ⟨serverStep_candidatec hs.1 h, serverStep_closec hs.2 h⟩)
      (fun _ hs => serverStep_candidate_of_closed hs c e) (fun _ => serverRun_closed) post
  · refine runCallbacks_stuck clientStep _ (fun _ _ _ => clientStep_readyc)
      (fun _ hs => clientStep_connected_of_readyc hs p₂)
      (fun s (h : runCallbacks clientStep .init
        (pre ++ [.iceConnectionStateChange .connected p₁]) = .ok s) => ?_) mid
    obtain ⟨t, -, ht⟩ := runCallbacks_append_singleton clientStep h
    exact clientStep_connected ht

example : runCallbacks serverStep .init [.iceConnectionStateChange .connected true,
    .iceCandidate "c" false none, .iceCandidate "d" false none] = .error .blocked := rfl

example : runCallbacks serverStep .init [.iceConnectionStateChange .connected true,
    .iceConnectionStateChange .disconnected true, .iceConnectionStateChange .connected true] =
      .error .closeOfClosed := rfl

/-- Without a found candidate pair `readyc` stays open, and a candidate after `OnOpen` is sent
on the closed `candidatec`. -/
example : runCallbacks serverStep .init [.iceConnectionStateChange .connected false,
    .dataChannelOpen none, .iceCandidate "c" false none] = .error .sendOnClosed := rfl

/-! ## The client's candidate goroutine -/

/-- What one `neg.Recv` of the client's candidate goroutine returns, with the error of
`AddICECandidate` for a candidate. -/
inductive Recv where
  | eof
  | error (err : String)
  | candidate (candidate : String) (addError : Option String)
  deriving DecidableEq, Repr

/-- A candidate that `AddICECandidate` refused. -/
def Recv.addFailed : Recv → Bool
  | .candidate _ (some _) => true
  | _ => false

/-- The client's candidate goroutine, on `errs` and what `neg.Recv` returns, while nothing
receives from `errs`: whether it has left its loop, and `errs` after. -/
def receiveCandidates (errs : Chan String) : List Recv → Except Fault (Bool × Chan String)
  | [] => .ok (false, errs)
  | .eof :: _ => .ok (true, errs)
  | .error e :: _ => (errs.send ("failed to receive ICE candidate: " ++ e)).map ((true, ·))
  | .candidate _ none :: rs => receiveCandidates errs rs
  | .candidate _ (some e) :: rs =>
    (errs.send ("failed to add ICE candidate: " ++ e)).bind (receiveCandidates · rs)

/-- **The candidate goroutine leaks once `errs` is full.** With nothing receiving from
`errs`, a run of candidates with more failed `AddICECandidate`s than `errs` has free places
blocks the goroutine for good, whatever `neg.Recv` would return after. For the client, whose
`errs` has ten places, that is the eleventh failure after the constructor returned at the
latest. -/
theorem receiveCandidates_blocks {cap : Nat} (cs : List Recv)
    (hcs : ∀ r ∈ cs, ∃ c e, r = .candidate c e) (rest : List Recv) :
    ∀ buf : List String, buf.length ≤ cap → cap - buf.length < (cs.filter Recv.addFailed).length →
      receiveCandidates (.made cap buf false) (cs ++ rest) = .error .blocked := by
  induction cs with
  | nil => intro buf _ hn; simp at hn
  | cons r cs ih =>
    obtain ⟨c, e, rfl⟩ := hcs r (List.mem_cons_self _ _)
    have ih := ih fun r hr => hcs r (List.mem_cons_of_mem _ hr)
    intro buf hb hn
    cases e with
    | none => exact ih buf hb (by simpa [Recv.addFailed] using hn)
    | some e =>
      simp only [List.filter_cons, Recv.addFailed, if_true, List.length_cons] at hn
      rw [List.cons_append, receiveCandidates]
      by_cases hfull : buf.length < cap
      · rw [show Chan.send _ (.made cap buf false) = .ok (.made cap (buf ++ _) false) from if_pos hfull]
        exact ih _ (by simp only [List.length_append, List.length_singleton]; omega)
          (by simp only [List.length_append, List.length_singleton]; omega)
      · rw [show Chan.send _ (.made cap buf false) = .error .blocked from if_neg hfull]
        rfl

/-- Eleven refused candidates after the constructor returned, none received from `errs`
before: the goroutine blocks. -/
theorem receiveCandidates_blocks_eleventh :
    (∀ r ∈ List.replicate 11 (Recv.candidate "c" (some "e")), ∃ c e, r = .candidate c e) ∧
      ([] : List String).length ≤ 10 ∧
      10 - ([] : List String).length < ((List.replicate 11 (Recv.candidate "c" (some "e"))).filter
        Recv.addFailed).length ∧
      receiveCandidates ClientState.init.errs (List.replicate 11 (Recv.candidate "c" (some "e")) ++ []) =
        .error .blocked :=
  have hcs : ∀ r ∈ List.replicate 11 (Recv.candidate "c" (some "e")), ∃ c e, r = .candidate c e :=
    fun _ hr => ⟨"c", some "e", List.eq_of_mem_replicate hr⟩
  ⟨hcs, by decide, by decide, receiveCandidates_blocks _ hcs [] [] (by decide) (by decide)⟩

end Webmesh.Datachannels
