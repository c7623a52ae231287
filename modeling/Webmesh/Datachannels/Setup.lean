import Mathlib.Tactic.Common

/-!
# What a failed proxy constructor leaves open

`NewWireGuardProxyServer`, `NewWireGuardProxyClient` and campfire's `New` are straight-line
code. Each fallible call is followed by `if err != nil { ...; return nil, fmt.Errorf(...) }`.
When such a constructor returns an error, the handles left open are those the calls before
the failing one opened, less those the failing call's error path closes, `defer`s included
(`mem_runConstructor_error`).

The proxy constructors close nothing on any error path after `NewPeerConnection`. The
client's error paths close at most the negotiation stream, and only some of them do. So the
peer connection, and the client's UDP socket once it is dialled, stay open on every error
return.
-/

namespace Webmesh.Datachannels

/-- What the constructors open. -/
inductive Handle where
  /-- The client's negotiation stream, from `cli.StartDataChannel`. -/
  | negotiation
  /-- The WebRTC peer connection. -/
  | peerConnection
  /-- The client's UDP socket to the local WireGuard port. -/
  | udpSocket
  deriving DecidableEq, Repr

/-- A fallible call of a constructor. -/
structure SetupCall where
  /-- What the call opens when it succeeds. -/
  opens : List Handle
  /-- The error the constructor returns when the call fails with the given cause. -/
  error : String → String
  /-- What the constructor closes on that error path before it returns. -/
  closes : List Handle

/-- `fmt.Errorf("<msg>: %w", err)`. -/
def wrap (msg cause : String) : String := msg ++ ": " ++ cause

/-- A run of a constructor whose call number `failAt` fails with `cause` (none fails when
there is no such call): its error or success, and the handles open when it returns. -/
def runConstructor :
    List SetupCall → Nat → String → List Handle → Except String Unit × List Handle
  | [], _, _, opened => (.ok (), opened)
  | call :: _, 0, cause, opened => (.error (call.error cause), opened.filter (· ∉ call.closes))
  | call :: rest, n + 1, cause, opened => runConstructor rest n cause (opened ++ call.opens)

/-- A failing call returns its error, with what the earlier calls opened and its error path
did not close. -/
theorem runConstructor_error : ∀ (calls : List SetupCall) (i : Nat) (hi : i < calls.length)
    (cause : String) (opened : List Handle),
    runConstructor calls i cause opened = (.error (calls[i].error cause),
      (opened ++ (calls.take i).flatMap (·.opens)).filter (· ∉ calls[i].closes))
  | call :: rest, 0, _, cause, opened => by simp [runConstructor]
  | call :: rest, i + 1, hi, cause, opened => by
    rw [runConstructor, runConstructor_error rest i (by simpa using hi)]
    simp

theorem mem_runConstructor_error {calls : List SetupCall} {i : Nat} (hi : i < calls.length)
    (cause : String) (opened : List Handle) (h : Handle) :
    h ∈ (runConstructor calls i cause opened).2 ↔
      (h ∈ opened ∨ ∃ c ∈ calls.take i, h ∈ c.opens) ∧ h ∉ calls[i].closes := by
  rw [runConstructor_error calls i hi]
  simp [or_and_right]

/-- A handle that an earlier call opened and that no error path closes is open at every error
return after it. -/
theorem mem_runConstructor_of_opened {calls : List SetupCall} {i : Nat} (hi : i < calls.length)
    {h : Handle} (hopen : ∃ c ∈ calls.take i, h ∈ c.opens)
    (hnever : ∀ c ∈ calls, h ∉ c.closes)
    (cause : String) (opened : List Handle) : h ∈ (runConstructor calls i cause opened).2 :=
  (mem_runConstructor_error hi cause opened h).2 ⟨.inr hopen, hnever _ (List.getElem_mem hi)⟩

/-- A failing call makes the constructor return an error. -/
theorem runConstructor_isOk {calls : List SetupCall} {i : Nat} (hi : i < calls.length)
    (cause : String) (opened : List Handle) : (runConstructor calls i cause opened).1.isOk = false := by
  rw [runConstructor_error calls i hi]
  rfl

/-! ## The proxy constructors -/

/-- The fallible calls of `NewWireGuardProxyServer`, in order. -/
def newWireGuardProxyServerCalls : List SetupCall :=
  [⟨[.peerConnection], wrap "new peer connection", []⟩,
    ⟨[], wrap "create data channel", []⟩,
    ⟨[], wrap "create offer", []⟩,
    ⟨[], wrap "set local description", []⟩,
    ⟨[], wrap "marshal offer", []⟩]

/-- `NewWireGuardProxyServer`, its call number `failAt` failing with `cause`. -/
def newWireGuardProxyServer (failAt : Nat) (cause : String) : Except String Unit × List Handle :=
  runConstructor newWireGuardProxyServerCalls failAt cause []

/-- The fallible calls of `NewWireGuardProxyClient`, in order, then the exits of its final
`select`: an error on `errs` from a failed candidate send, from a failed receive of the
candidate goroutine or from a failed `AddICECandidate`, and the 15-second timeout. The
callback whose send failed closes the negotiation stream only after it has sent the error, so
possibly after the return. -/
def newWireGuardProxyClientCalls : List SetupCall :=
  [⟨[.negotiation], wrap "failed to start data channel negotiation", []⟩,
    ⟨[], wrap "failed to send data channel negotiation request", [.negotiation]⟩,
    ⟨[], wrap "failed to receive offer", [.negotiation]⟩,
    ⟨[], wrap "failed to unmarshal SDP", [.negotiation]⟩,
    ⟨[.peerConnection], wrap "failed to create peer connection", [.negotiation]⟩,
    ⟨[], wrap "create data channel", []⟩,
    ⟨[.udpSocket], wrap "dial", []⟩,
    ⟨[], wrap "failed to set remote description", [.negotiation]⟩,
    ⟨[], wrap "failed to create answer", [.negotiation]⟩,
    ⟨[], wrap "failed to marshal answer", []⟩,
    ⟨[], wrap "failed to set local description", [.negotiation]⟩,
    ⟨[], wrap "failed to send answer", []⟩,
    ⟨[], wrap "failed to send ICE candidate", []⟩,
    ⟨[], wrap "failed to receive ICE candidate", []⟩,
    ⟨[], wrap "failed to add ICE candidate", []⟩,
    ⟨[], fun _ => "timed out waiting for data channel to open", []⟩]

/-- `NewWireGuardProxyClient`, its call or exit number `failAt` failing with `cause`. -/
def newWireGuardProxyClient (failAt : Nat) (cause : String) : Except String Unit × List Handle :=
  runConstructor newWireGuardProxyClientCalls failAt cause []

/-- **A failed proxy constructor leaks what it opened.** Every error return of
`NewWireGuardProxyServer` after `NewPeerConnection` leaves the peer connection open. Every error
return of `NewWireGuardProxyClient`, at a call or at the final `select`, leaves open the peer
connection once it was created and the UDP socket once it was dialled; the return at `DialUDP`
also leaves the negotiation stream open. -/
theorem proxy_setup_leaks_handles (cause : String) (i : Nat) :
    (i < newWireGuardProxyServerCalls.length →
      (∃ c ∈ newWireGuardProxyServerCalls.take i, .peerConnection ∈ c.opens) →
      (newWireGuardProxyServer i cause).1.isOk = false ∧
        .peerConnection ∈ (newWireGuardProxyServer i cause).2) ∧
    (i < newWireGuardProxyClientCalls.length → ∀ h, h = .peerConnection ∨ h = .udpSocket →
      (∃ c ∈ newWireGuardProxyClientCalls.take i, h ∈ c.opens) →
      (newWireGuardProxyClient i cause).1.isOk = false ∧ h ∈ (newWireGuardProxyClient i cause).2) ∧
    (newWireGuardProxyClient 6 cause).1 = .error (wrap "dial" cause) ∧
      .negotiation ∈ (newWireGuardProxyClient 6 cause).2 := by
  refine ⟨fun hi hopen => ⟨runConstructor_isOk hi cause [],
      mem_runConstructor_of_opened hi hopen (by decide) cause []⟩,
    fun hi h hh hopen => ⟨runConstructor_isOk hi cause [],
      mem_runConstructor_of_opened hi hopen ?_ cause []⟩, rfl, ?_⟩
  · rcases hh with rfl | rfl <;> decide
  · rw [newWireGuardProxyClient, mem_runConstructor_error (by decide)]
    exact ⟨.inr (by decide), by decide⟩

/-- The server fails at `CreateOffer`, the client at `SetLocalDescription`: the peer connection
stays open, and the client's UDP socket too. -/
theorem proxy_setup_leaks_handles_late_failure :
    .peerConnection ∈ (newWireGuardProxyServer 2 "offer failed").2 ∧
      .udpSocket ∈ (newWireGuardProxyClient 10 "description rejected").2 :=
  ⟨((proxy_setup_leaks_handles "offer failed" 2).1 (by decide) (by decide)).2,
    ((proxy_setup_leaks_handles "description rejected" 10).2.1 (by decide) .udpSocket (.inr rfl)
      (by decide)).2⟩

end Webmesh.Datachannels
