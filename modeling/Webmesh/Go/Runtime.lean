import Mathlib.Tactic.Common

/-!
# Channels, mutexes and callbacks

The WebRTC proxies and campfire talk to their callbacks through Go channels and a
`sync.Mutex`. A channel is `nil` until `make` creates it; a made channel has a buffer and a
closed flag. The run time panics on `close` of a `nil` or closed channel and on a send to a
closed channel, and a goroutine that sends to a full buffer or locks a held mutex waits until
another goroutine lets it go on.

A callback is one step from a state to a state or a `Fault`, and a run of callbacks is a
left fold of that step that stops at the first fault. Channels never reopen and a held mutex
is released only by the callback holding it, so the facts used later are persistence facts.
They hold for every step of every run (`runCallbacks_induction`), and once a state from which
some delivery faults is reached, every later such delivery faults (`runCallbacks_stuck`).
-/

namespace Webmesh.Go

/-- What the run time does instead of letting a goroutine go on. -/
inductive Fault where
  /-- `close` of a `nil` channel panics. -/
  | closeOfNil
  /-- `close` of a closed channel panics. -/
  | closeOfClosed
  /-- A send on a closed channel panics. -/
  | sendOnClosed
  /-- The goroutine waits on a send or a `Lock` that no goroutine will let through. -/
  | blocked
  deriving DecidableEq, Repr

/-- A channel: never made (`nil`), or made with a capacity, its buffered values and whether
it is closed. -/
inductive Chan (α : Type) where
  | nil
  | made (cap : Nat) (buf : List α) (closed : Bool)
  deriving DecidableEq, Repr

namespace Chan

variable {α : Type}

/-- `make(chan α, cap)`. -/
def make (cap : Nat) : Chan α := .made cap [] false

/-- `close(c)`. -/
def close : Chan α → Except Fault (Chan α)
  | .nil => .error .closeOfNil
  | .made cap buf closed => if closed then .error .closeOfClosed else .ok (.made cap buf true)

/-- `c <- x` when no receiver is waiting: a full buffer blocks. -/
def send (x : α) : Chan α → Except Fault (Chan α)
  | .nil => .error .blocked
  | .made cap buf closed =>
    if closed then .error .sendOnClosed
    else if buf.length < cap then .ok (.made cap (buf ++ [x]) false)
    else .error .blocked

/-- `<-c` can go on now: the channel holds a value or is closed. -/
def recvReady : Chan α → Bool
  | .nil => false
  | .made _ buf closed => closed || !buf.isEmpty

/-- `<-c` once it can go on: the oldest buffered value, or none from a closed, drained
channel. -/
def recv : Chan α → Option α × Chan α
  | .made cap (x :: buf) closed => (some x, .made cap buf closed)
  | c => (none, c)

/-- The channel has been closed. -/
def isClosed : Chan α → Bool
  | .nil => false
  | .made _ _ closed => closed

theorem recvReady_of_isClosed {c : Chan α} (h : c.isClosed = true) : c.recvReady = true := by
  cases c <;> simp_all [isClosed, recvReady]

/-- Closing a channel succeeds exactly on a made, open one, and closes it. -/
theorem close_eq_ok {c c' : Chan α} (h : c.close = .ok c') :
    c.isClosed = false ∧ c'.isClosed = true := by
  cases c with
  | nil => cases h
  | made cap buf closed =>
    cases closed
    · cases h
      exact ⟨rfl, rfl⟩
    · cases h

/-- A closed channel cannot be closed again. -/
theorem close_of_isClosed {c : Chan α} (h : c.isClosed = true) : c.close = .error .closeOfClosed := by
  cases c with
  | nil => cases h
  | made cap buf closed => simp_all [isClosed, close]

/-- A send that goes through leaves the channel open. -/
theorem send_eq_ok {x : α} {c c' : Chan α} (h : c.send x = .ok c') :
    c.isClosed = false ∧ c'.isClosed = false := by
  cases c with
  | nil => cases h
  | made cap buf closed =>
    cases closed
    · simp only [send, Bool.false_eq_true, if_false] at h
      split_ifs at h
      cases h
      exact ⟨rfl, rfl⟩
    · cases h

/-- A send on a closed channel panics. -/
theorem send_of_isClosed {x : α} {c : Chan α} (h : c.isClosed = true) :
    c.send x = .error .sendOnClosed := by
  cases c with
  | nil => cases h
  | made cap buf closed => simp_all [isClosed, send]

/-- Receiving keeps the closed flag. -/
@[simp] theorem isClosed_recv (c : Chan α) : c.recv.2.isClosed = c.isClosed := by
  rcases c with _ | ⟨cap, _ | ⟨x, buf⟩, closed⟩ <;> rfl

end Chan

/-- `mu.Lock()`: a held mutex blocks, and a free one is taken. -/
def lock (held : Bool) : Except Fault Bool :=
  if held then .error .blocked else .ok true

/-- What follows `Lock` runs only on a free mutex. -/
@[simp] theorem lock_bind {α : Type} (held : Bool) (f : Bool → Except Fault α) :
    (lock held).bind f = if held then .error .blocked else f true := by
  cases held <;> rfl

/-! ## Runs of callbacks -/

section Runs

variable {σ δ : Type} (step : σ → δ → Except Fault σ)

/-- The callbacks handling the deliveries `ds` one after another, from `s`. -/
def runCallbacks (s : σ) (ds : List δ) : Except Fault σ :=
  ds.foldlM step s

theorem runCallbacks_cons (s : σ) (d : δ) (ds : List δ) :
    runCallbacks step s (d :: ds) = (step s d).bind (runCallbacks step · ds) := rfl

theorem runCallbacks_append (s : σ) (xs ys : List δ) :
    runCallbacks step s (xs ++ ys) = (runCallbacks step s xs).bind (runCallbacks step · ys) := by
  simp only [runCallbacks, List.foldlM_append]
  rfl

/-- A run of `xs ++ ys` that goes through runs `xs`, then `ys`. -/
theorem runCallbacks_append_eq_ok {s₀ s : σ} {xs ys : List δ}
    (h : runCallbacks step s₀ (xs ++ ys) = .ok s) :
    ∃ t, runCallbacks step s₀ xs = .ok t ∧ runCallbacks step t ys = .ok s := by
  rw [runCallbacks_append] at h
  cases hp : runCallbacks step s₀ xs with
  | error f => rw [hp] at h; cases h
  | ok t => rw [hp] at h; exact ⟨t, rfl, h⟩

/-- A run that goes through ends with a step that goes through. -/
theorem runCallbacks_append_singleton {s₀ s : σ} {pre : List δ} {d : δ}
    (h : runCallbacks step s₀ (pre ++ [d]) = .ok s) :
    ∃ t, runCallbacks step s₀ pre = .ok t ∧ step t d = .ok s := by
  obtain ⟨t, ht, hd⟩ := runCallbacks_append_eq_ok step h
  refine ⟨t, ht, ?_⟩
  change (step t d).bind Except.ok = .ok s at hd
  cases hs : step t d <;> rw [hs] at hd
  · cases hd
  · exact hd

/-- What every step of a run keeps holds after the run, if it goes through. -/
theorem runCallbacks_induction (P : σ → Prop) :
    ∀ (ds : List δ), (∀ s d s', d ∈ ds → P s → step s d = .ok s' → P s') →
      ∀ (s s' : σ), P s → runCallbacks step s ds = .ok s' → P s'
  | [], _, s, s', hs, h => by cases h; exact hs
  | d :: ds, hstep, s, s', hs, h => by
    rw [runCallbacks_cons] at h
    cases hd : step s d with
    | error f => rw [hd] at h; cases h
    | ok t =>
      rw [hd] at h
      exact runCallbacks_induction P ds (fun s d s' hd => hstep s d s' (List.mem_cons_of_mem _ hd))
        t s' (hstep s d t (List.mem_cons_self _ _) hs hd) h

/-- **Once stuck, always stuck.** If every run after `pre` reaches states of a kind that the
steps keep, and a delivery `d` faults from every such state, then `d` faults whenever it
comes after `pre`. -/
theorem runCallbacks_stuck (P : σ → Prop) (hstep : ∀ s d s', P s → step s d = .ok s' → P s')
    {d : δ} (hd : ∀ s, P s → (step s d).isOk = false) {s₀ : σ} {pre : List δ}
    (hpre : ∀ s, runCallbacks step s₀ pre = .ok s → P s) (mid : List δ) :
    (runCallbacks step s₀ (pre ++ mid ++ [d])).isOk = false := by
  rw [List.append_assoc, runCallbacks_append]
  cases hp : runCallbacks step s₀ pre with
  | error f => rfl
  | ok s =>
    show (runCallbacks step s (mid ++ [d])).isOk = false
    rw [runCallbacks_append]
    cases hm : runCallbacks step s mid with
    | error f => rfl
    | ok t =>
      have ht := runCallbacks_induction step P mid (fun s d s' _ => hstep s d s') s t (hpre s hp) hm
      show (runCallbacks step t [d]).isOk = false
      rw [runCallbacks_cons]
      have := hd t ht
      cases h : step t d with
      | error f => rfl
      | ok u => rw [h] at this; cases this

end Runs

end Webmesh.Go
