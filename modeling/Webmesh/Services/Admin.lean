import Webmesh.Store

/-!
# Deleting network ACLs

The admin server's `DeleteNetworkACL` checks, in order, that this node leads, that the
request names an ACL, that the caller may delete it, and that it is not one of the system
ACLs the mesh keeps for itself; only then does it ask the networking store to delete it.

The ACLs live in the networking store, a map from name to ACL. Whether this node leads, what
the RBAC evaluator answers and whether the store's delete fails are the collaborators'
answers to one call (`DeleteEnv`); which names are system ACLs is fixed by the networking
package (not in the sources), so it is a parameter. A run is a sequence of calls. Every call
changes at most the entry it names, and none when it is refused (`deleteNetworkACL_cases`);
so no run of calls, whatever the callers ask and whatever the collaborators answer, deletes a
system ACL (`run_keeps_system_acls`).
-/

namespace Webmesh.Services.Admin

/-- `codes.Code`, the ones the admin server's `DeleteNetworkACL` returns. -/
inductive Code where
  | failedPrecondition
  | invalidArgument
  | permissionDenied
  | internal
  deriving DecidableEq, Repr

/-- A gRPC status: its code and its message. -/
structure Status where
  code : Code
  message : String
  deriving DecidableEq, Repr

/-- `v1.RuleResource`, the one this handler names. -/
inductive RuleResource where
  | networkACLs
  deriving DecidableEq, Repr

/-- `v1.RuleVerb`, the one this handler names. -/
inductive RuleVerb where
  | delete
  deriving DecidableEq, Repr

/-- One `rbac.Action` with the resource id `For` sets. -/
structure Action where
  resource : RuleResource
  verb : RuleVerb
  id : String
  deriving DecidableEq, Repr

/-- `deleteNetworkACLAction.For(name)`. -/
def deleteNetworkACLAction (name : String) : List Action := [⟨.networkACLs, .delete, name⟩]

/-- What the collaborators answer during one call: `Raft().IsLeader()`, the RBAC evaluator's
verdict on the actions it is given (its error is only logged), and the error of the
networking store's `DeleteNetworkACL`. -/
structure DeleteEnv where
  isLeader : Bool
  evaluate : List Action → Bool
  deleteError : Option String

variable {ACL : Type}

/-- `Server.DeleteNetworkACL` on the store `acls`: the reply and the store after the call.
`isSystem` is `networking.IsSystemNetworkACL`. A failed delete leaves the store as it was. -/
def deleteNetworkACL (isSystem : String → Bool) (env : DeleteEnv) (acls : Registry ACL) (name : String) :
    Except Status Unit × Registry ACL :=
  if !env.isLeader then (.error ⟨.failedPrecondition, "not the leader"⟩, acls) else
  if name = "" then (.error ⟨.invalidArgument, "acl name is required"⟩, acls) else
  if !env.evaluate (deleteNetworkACLAction name) then
    (.error ⟨.permissionDenied, "caller does not have permission to delete network acls"⟩, acls) else
  if isSystem name then (.error ⟨.invalidArgument, "cannot delete system network acls"⟩, acls) else
  match env.deleteError with
  | some err => (.error ⟨.internal, err⟩, acls)
  | none => (.ok (), acls.erase name)

/-- A run of calls, each with the collaborators' answers and the name it asks for. -/
def run (isSystem : String → Bool) (acls : Registry ACL) (calls : List (DeleteEnv × String)) : Registry ACL :=
  calls.foldl (fun acls c => (deleteNetworkACL isSystem c.1 acls c.2).2) acls

section Calls

variable (isSystem : String → Bool) (env : DeleteEnv) (acls : Registry ACL) (name : String)

/-- Everything one call can do: refuse, leaving the store as it was, or pass every check and
erase the name. -/
theorem deleteNetworkACL_cases :
    (∃ e, deleteNetworkACL isSystem env acls name = (.error e, acls) ∧
        ¬(env.isLeader = true ∧ name ≠ "" ∧ env.evaluate (deleteNetworkACLAction name) = true ∧
          isSystem name = false ∧ env.deleteError = none)) ∨
      (deleteNetworkACL isSystem env acls name = (.ok (), acls.erase name) ∧
        env.isLeader = true ∧ name ≠ "" ∧ env.evaluate (deleteNetworkACLAction name) = true ∧
          isSystem name = false ∧ env.deleteError = none) := by
  unfold deleteNetworkACL
  cases env.deleteError <;> split_ifs <;> simp_all

/-- The handler's test: a leader that allows everything, with `bootstrap-nodes` a system ACL. -/
example :
    let call := deleteNetworkACL (· = "bootstrap-nodes") ⟨true, fun _ => true, none⟩ (∅ : Registry Unit)
    (call "").1 = .error ⟨.invalidArgument, "acl name is required"⟩ ∧
      (call "bootstrap-nodes").1 = .error ⟨.invalidArgument, "cannot delete system network acls"⟩ ∧
      (call "foo").1 = .ok () :=
  ⟨rfl, rfl, rfl⟩

/-- A call never removes a system ACL. -/
theorem lookup_deleteNetworkACL_system {k : String} (hk : isSystem k = true) :
    (deleteNetworkACL isSystem env acls name).2.lookup k = acls.lookup k := by
  rcases deleteNetworkACL_cases isSystem env acls name with ⟨e, h, -⟩ | ⟨h, -, -, -, hs, -⟩
  · rw [h]
  · rw [h]
    exact AList.lookup_erase_ne fun hkn => by rw [hkn, hs] at hk; cases hk

end Calls

/-- **No run of `DeleteNetworkACL` calls deletes a system ACL**, whatever names the callers
ask for and whatever leadership, RBAC and the store answer. -/
theorem run_keeps_system_acls (isSystem : String → Bool) {k : String} (hk : isSystem k = true) :
    ∀ (calls : List (DeleteEnv × String)) (acls : Registry ACL), (run isSystem acls calls).lookup k = acls.lookup k
  | [], _ => rfl
  | c :: calls, acls => by
    rw [run, List.foldl_cons, ← run, run_keeps_system_acls isSystem hk calls,
      lookup_deleteNetworkACL_system isSystem c.1 acls c.2 hk]

/-- A caller allowed everything asks a leader to delete the bootstrap nodes' ACL. -/
theorem run_keeps_system_acls_bootstrap :
    (fun n => decide (n = "bootstrap-nodes")) "bootstrap-nodes" = true ∧
      (run (fun n => decide (n = "bootstrap-nodes")) ((∅ : Registry Unit).insert "bootstrap-nodes" ())
          [(⟨true, fun _ => true, none⟩, "bootstrap-nodes"), (⟨true, fun _ => true, none⟩, "foo")]).lookup
          "bootstrap-nodes" = ((∅ : Registry Unit).insert "bootstrap-nodes" ()).lookup "bootstrap-nodes" :=
  ⟨rfl, @run_keeps_system_acls Unit (fun n => decide (n = "bootstrap-nodes")) "bootstrap-nodes" rfl _ _⟩

end Webmesh.Services.Admin
