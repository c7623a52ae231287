import Mathlib.Data.List.AList

/-!
# The replicated store, as the control plane sees it

Three maps live in the consensus-backed store and are touched by the observer and by
`Join`: the node registry (`/registry/nodes/<id>`), the IPAM leases (`/registry/ipam/<id>`)
and the consensus configuration (the voters and non-voters with their transport
addresses). The packages that own them (`meshdb/peers`, the IPAM allocator, the raft
store) are not among the source files, so each operation here follows the spec's contract
(§4.1, §4.2, §4.4): a successful write is durable, a failed one changes nothing.

Each map is an `AList` keyed by node id, so a map never holds two entries for one id.
-/

namespace Webmesh

/-- A map keyed by node id, as a store prefix holds it. -/
abbrev Registry (α : Type) := AList (fun _ : String => α)

/-! ## Consensus membership -/

/-- `raft.ServerSuffrage`. -/
inductive Suffrage where
  | voter
  | nonvoter
  | staging
  deriving DecidableEq, Repr

/-- One entry of the consensus configuration: `raft.Server` without its id. -/
structure Member where
  address : String
  suffrage : Suffrage
  deriving DecidableEq, Repr

/-- Modelled from the spec: `AddVoter(id, addr)` makes `id` a voter at `addr`. -/
def addVoter (servers : Registry Member) (id address : String) : Registry Member :=
  servers.insert id ⟨address, .voter⟩

/-- The entry `AddNonVoter(id, address)` leaves for `id`, given its current one: as in raft's
configuration change, a member that already has a vote keeps it and only its address
changes. -/
def nonvoterMember (current : Option Member) (address : String) : Member :=
  match current with
  | some m => if m.suffrage = .nonvoter then ⟨address, .nonvoter⟩ else { m with address }
  | none => ⟨address, .nonvoter⟩

/-- Modelled from the spec: `AddNonVoter(id, addr)`. -/
def addNonvoter (servers : Registry Member) (id address : String) : Registry Member :=
  servers.insert id (nonvoterMember (servers.lookup id) address)

theorem addVoter_idem (servers : Registry Member) (id address : String) :
    addVoter (addVoter servers id address) id address = addVoter servers id address := by
  simp [addVoter]

theorem nonvoterMember_idem (current : Option Member) (address : String) :
    nonvoterMember (some (nonvoterMember current address)) address =
      nonvoterMember current address := by
  rcases current with _ | ⟨a, s⟩
  · rfl
  · by_cases h : s = .nonvoter <;> simp [nonvoterMember, h]

theorem addNonvoter_idem (servers : Registry Member) (id address : String) :
    addNonvoter (addNonvoter servers id address) id address =
      addNonvoter servers id address := by
  simp [addNonvoter, nonvoterMember_idem]

/-! ## IPAM leases -/

section Ipam

variable {Prefix : Type}

/-- Modelled from the spec: IPAM `Acquire(id)` is idempotent per id; an id without a lease
gets the one `allocate` picks from the current leases (the spec's allocator avoids every
held or reserved address). -/
def acquire (allocate : Registry Prefix → Prefix) (leases : Registry Prefix) (id : String) :
    Prefix × Registry Prefix :=
  match leases.lookup id with
  | some lease => (lease, leases)
  | none => (allocate leases, leases.insert id (allocate leases))

variable (allocate : Registry Prefix → Prefix) {leases : Registry Prefix} {id : String}

theorem acquire_of_lookup_eq_some {lease : Prefix} (h : leases.lookup id = some lease) :
    acquire allocate leases id = (lease, leases) := by
  simp [acquire, h]

theorem acquire_of_lookup_eq_none (h : leases.lookup id = none) :
    acquire allocate leases id = (allocate leases, leases.insert id (allocate leases)) := by
  simp [acquire, h]

theorem lookup_acquire : (acquire allocate leases id).2.lookup id =
    some (acquire allocate leases id).1 := by
  cases h : leases.lookup id
  · simp [acquire_of_lookup_eq_none allocate h]
  · simp [acquire_of_lookup_eq_some allocate h, h]

/-- A second `Acquire` of the same id returns the same lease and changes nothing. -/
theorem acquire_acquire :
    acquire allocate (acquire allocate leases id).2 id = acquire allocate leases id :=
  acquire_of_lookup_eq_some allocate (lookup_acquire allocate)

end Ipam

end Webmesh
