import Webmesh.Store
import Webmesh.Net.Prefix

/-!
# Queries of the mesh state

Package `state` answers three questions from the store: the network prefixes, and the gRPC
address of every node, public or private. The node lists come from `peers` (not in the
sources), so they are inputs here; the maps the queries build are `Registry`s keyed by node
id.

`ListPublicRPCAddresses` and `ListPeerPrivateRPCAddresses` run the same loop
(`rpcAddressStep`): skip some nodes, parse an address from the text the node stores, and
either insert it with the node's gRPC port or stop with `parse address for node %s`. They
differ in what they skip, in the text they parse, and in the node the error names: the
public query names the node whose address failed, the private one the node the caller
excluded (`listPeerPrivateRPCAddresses_error_names_caller`).

A private address is read by printing the node's prefix and cutting it at the slash. By the
round trips of `Net.RoundTrip` and `Net.Prefix` this gives back the prefix's address for every
valid prefix, so the query never fails on a node that has one
(`listPeerPrivateRPCAddresses_eq`).
-/

namespace Webmesh.State

open Net Go

/-- The fields of `peers.MeshNode` the queries read. -/
structure MeshNode where
  id : String
  primaryEndpoint : String
  grpcPort : Int
  privateIPv4 : Prefix
  privateIPv6 : Prefix
  deriving DecidableEq, Repr

/-- What the queries return instead of a map. -/
inductive StateError where
  /-- the error of the node listing, returned as it is -/
  | list (err : String)
  /-- `fmt.Errorf("parse address for node %s: %v", node, err)` -/
  | parseAddress (node : String) (err : ParseAddrError)
  deriving DecidableEq, Repr

/-! ## The loop of the address queries -/

/-- One node of the address loops: skipped, or its address parsed from `ipText` and stored
with its gRPC port as `uint16`; a parse error names `errNode`. -/
def rpcAddressStep (skip : MeshNode → Bool) (ipText errNode : MeshNode → String)
    (out : Registry AddrPort) (n : MeshNode) : Except StateError (Registry AddrPort) :=
  if skip n then .ok out else
  match parseAddr (ipText n) with
  | .error err => .error (.parseAddress (errNode n) err)
  | .ok addr => .ok (out.insert n.id ⟨addr, goUint16 n.grpcPort⟩)

/-- `ListPublicRPCAddresses`' loop body: a node without primary endpoint is skipped ("should
not happen"), and an error names the node. -/
def publicRPCAddress : Registry AddrPort → MeshNode → Except StateError (Registry AddrPort) :=
  rpcAddressStep (fun n => n.primaryEndpoint = "") (·.primaryEndpoint) (·.id)

/-- `ListPublicRPCAddresses`, given what `peers.ListPublicNodes` returned. Go returns a `nil`
map when there are no nodes. -/
def listPublicRPCAddresses (nodes : Except String (List MeshNode)) : Except StateError (Registry AddrPort) :=
  match nodes with
  | .error err => .error (.list err)
  | .ok [] => .ok ∅
  | .ok nodes => nodes.foldlM publicRPCAddress ∅

/-- The loop of `ListPeerPublicRPCAddresses` over the map's keys, in the order the run time
hands them out: the first key equal to `nodeID` is deleted and the loop stops. -/
def deleteFirst (nodeID : String) (nodes : Registry AddrPort) : List String → Registry AddrPort
  | [] => nodes
  | node :: rest => if node = nodeID then nodes.erase node else deleteFirst nodeID nodes rest

/-- `ListPeerPublicRPCAddresses`; `order` is the order in which `range` visits a map's keys. -/
def listPeerPublicRPCAddresses (order : Registry AddrPort → List String) (nodes : Except String (List MeshNode))
    (nodeID : String) : Except StateError (Registry AddrPort) :=
  (listPublicRPCAddresses nodes).map fun m => deleteFirst nodeID m (order m)

/-- `strings.Split(s, "/")[0]`, which never indexes out of range (`split_ne_nil`). -/
def beforeSlash (s : String) : String := (split s '/').head (split_ne_nil s '/')

/-- The text `ListPeerPrivateRPCAddresses` parses: the private IPv4 prefix if it is valid,
else the IPv6 one, cut at the slash. -/
def privateIP (n : MeshNode) : String :=
  if n.privateIPv4.isValid then beforeSlash n.privateIPv4.string else beforeSlash n.privateIPv6.string

/-- `ListPeerPrivateRPCAddresses`' loop body: the excluded node is skipped, and an error names
the excluded node. -/
def privateRPCAddress (nodeID : String) : Registry AddrPort → MeshNode → Except StateError (Registry AddrPort) :=
  rpcAddressStep (fun n => n.id = nodeID) privateIP (fun _ => nodeID)

/-- `ListPeerPrivateRPCAddresses`, given what `peers.List` returned. -/
def listPeerPrivateRPCAddresses (nodes : Except String (List MeshNode)) (nodeID : String) :
    Except StateError (Registry AddrPort) :=
  match nodes with
  | .error err => .error (.list err)
  | .ok nodes => nodes.foldlM (privateRPCAddress nodeID) ∅

/-! ## The network prefixes -/

/-- `MeshStatePrefix`, under which the mesh state keys live. -/
def meshStatePrefix : String := "/registry/meshstate"

/-- `IPv6PrefixKey`. -/
def ipv6PrefixKey : String := meshStatePrefix ++ "/ipv6prefix"

/-- `IPv4PrefixKey`. -/
def ipv4PrefixKey : String := meshStatePrefix ++ "/ipv4prefix"

/-- `MeshDomainKey`. -/
def meshDomainKey : String := meshStatePrefix ++ "/meshdomain"

/-- Why a prefix query failed: the store's `Get`, or `ParsePrefix` of the stored text. -/
inductive GetPrefixError where
  | get (err : String)
  | parse (err : ParsePrefixError)
  deriving DecidableEq, Repr

/-- The body of `GetIPv6Prefix` and `GetIPv4Prefix`: `Get` the key, then `ParsePrefix` the
value; `get` is the store's `Get`. -/
def getPrefix (get : String → Except String String) (key : String) : Except GetPrefixError Prefix :=
  match get key with
  | .error err => .error (.get err)
  | .ok value => (parsePrefix value).mapError .parse

/-- `GetIPv6Prefix`. -/
def getIPv6Prefix (get : String → Except String String) : Except GetPrefixError Prefix :=
  getPrefix get ipv6PrefixKey

/-- `GetIPv4Prefix`. -/
def getIPv4Prefix (get : String → Except String String) : Except GetPrefixError Prefix :=
  getPrefix get ipv4PrefixKey

/-- `GetMeshDomain`. -/
def getMeshDomain (get : String → Except String String) : Except String String :=
  get meshDomainKey

/-- A prefix query returns the prefix whose printed form the store holds under its key. -/
theorem getPrefix_string {get : String → Except String String} {key : String} {ip : Addr} {bits : Int}
    (hget : get key = .ok (prefixFrom ip bits).string) (hv : (prefixFrom ip bits).isValid = true) :
    getPrefix get key = .ok (prefixFrom ip bits) := by
  rw [getPrefix, hget]
  dsimp only
  rw [parsePrefix_string hv]
  rfl

theorem getPrefix_string_ipv4 :
    (fun _ => .ok (prefixFrom (.v4 0x0a000000#32) 8).string : String → Except String String) ipv4PrefixKey =
        .ok (prefixFrom (.v4 0x0a000000#32) 8).string ∧
      (prefixFrom (.v4 0x0a000000#32) 8).isValid = true ∧
      getPrefix (fun _ => .ok (prefixFrom (.v4 0x0a000000#32) 8).string) ipv4PrefixKey =
        .ok (prefixFrom (.v4 0x0a000000#32) 8) :=
  ⟨rfl, rfl, getPrefix_string rfl rfl⟩

/-! ## Runs of the loop -/

section Loop

variable (skip : MeshNode → Bool) (ipText errNode : MeshNode → String)

/-- What the loop stores when every address it reads parses: the node's address under its id,
for every node it does not skip. -/
def storeAll (addrOf : MeshNode → Addr) (out : Registry AddrPort) (nodes : List MeshNode) : Registry AddrPort :=
  nodes.foldl (fun out n => if skip n then out else out.insert n.id ⟨addrOf n, goUint16 n.grpcPort⟩) out

/-- A run of the loop in which every address it reads parses stores them all. -/
theorem foldlM_rpcAddressStep_ok (addrOf : MeshNode → Addr) :
    ∀ (nodes : List MeshNode) (out : Registry AddrPort),
      (∀ n ∈ nodes, skip n = false → parseAddr (ipText n) = .ok (addrOf n)) →
      nodes.foldlM (rpcAddressStep skip ipText errNode) out = .ok (storeAll skip addrOf out nodes)
  | [], _, _ => rfl
  | n :: nodes, out, h => by
    have ih := foldlM_rpcAddressStep_ok addrOf nodes
    rw [List.foldlM_cons, storeAll, List.foldl_cons, ← storeAll]
    cases hs : skip n
    · rw [rpcAddressStep, if_neg (by simp [hs]), h n (List.mem_cons_self n nodes) hs, if_neg (by simp [hs])]
      exact ih _ fun m hm => h m (List.mem_cons_of_mem n hm)
    · rw [rpcAddressStep, if_pos hs, if_pos rfl]
      exact ih _ fun m hm => h m (List.mem_cons_of_mem n hm)

/-- A run of the loop stops at the first address that does not parse, with an error naming
`errNode` of that node. -/
theorem foldlM_rpcAddressStep_error (pre : List MeshNode) {n : MeshNode} (post : List MeshNode)
    (out : Registry AddrPort) (hpre : ∀ m ∈ pre, skip m = false → (parseAddr (ipText m)).isOk = true)
    (hn : skip n = false) {err : ParseAddrError} (herr : parseAddr (ipText n) = .error err) :
    (pre ++ n :: post).foldlM (rpcAddressStep skip ipText errNode) out = .error (.parseAddress (errNode n) err) := by
  induction pre generalizing out with
  | nil => rw [List.nil_append, List.foldlM_cons, rpcAddressStep, if_neg (by simp [hn]), herr]; rfl
  | cons m pre ih =>
    rw [List.cons_append, List.foldlM_cons]
    have ih' := fun out => ih out fun m' hm' => hpre m' (List.mem_cons_of_mem m hm')
    cases hs : skip m
    · obtain ⟨a, ha⟩ : ∃ a, parseAddr (ipText m) = .ok a := by
        cases hp : parseAddr (ipText m) with
        | error e => have := hpre m (List.mem_cons_self m pre) hs; rw [hp] at this; cases this
        | ok a => exact ⟨a, rfl⟩
      rw [rpcAddressStep, if_neg (by simp [hs]), ha]
      exact ih' _
    · rw [rpcAddressStep, if_pos hs]
      exact ih' _

/-- One step of the loop leaves alone a key that no unskipped node has. -/
theorem lookup_rpcAddressStep {k : String} (hk : ∀ n, skip n = false → n.id ≠ k)
    {out out' : Registry AddrPort} {n : MeshNode} (h : rpcAddressStep skip ipText errNode out n = .ok out') :
    out'.lookup k = out.lookup k := by
  unfold rpcAddressStep at h
  cases hs : skip n
  · rw [if_neg (by simp [hs])] at h
    cases hp : parseAddr (ipText n) <;> rw [hp] at h <;> cases h
    exact AList.lookup_insert_ne (hk n hs).symm
  · rw [if_pos hs] at h
    cases h
    rfl

/-- Every run of the loop that goes through leaves alone a key that no unskipped node has. -/
theorem lookup_foldlM_rpcAddressStep {k : String} (hk : ∀ n, skip n = false → n.id ≠ k) :
    ∀ (nodes : List MeshNode) (out m : Registry AddrPort),
      nodes.foldlM (rpcAddressStep skip ipText errNode) out = .ok m → m.lookup k = out.lookup k
  | [], _, _, h => by cases h; rfl
  | n :: nodes, out, m, h => by
    rw [List.foldlM_cons] at h
    cases hn : rpcAddressStep skip ipText errNode out n with
    | error e => rw [hn] at h; cases h
    | ok out' =>
      rw [hn] at h
      rw [lookup_foldlM_rpcAddressStep hk nodes out' m h, lookup_rpcAddressStep skip ipText errNode hk hn]

theorem storeAll_cons (addrOf : MeshNode → Addr) (out : Registry AddrPort) (n : MeshNode) (nodes : List MeshNode) :
    storeAll skip addrOf out (n :: nodes) =
      storeAll skip addrOf (if skip n then out else out.insert n.id ⟨addrOf n, goUint16 n.grpcPort⟩) nodes := rfl

/-- The loop leaves alone the ids of the nodes it does not visit. -/
theorem lookup_storeAll_of_not_mem (addrOf : MeshNode → Addr) {k : String} :
    ∀ {nodes : List MeshNode} (out : Registry AddrPort), k ∉ nodes.map (·.id) →
      (storeAll skip addrOf out nodes).lookup k = out.lookup k
  | [], _, _ => rfl
  | n :: nodes, out, hk => by
    rw [List.map_cons, List.mem_cons, not_or] at hk
    rw [storeAll_cons, lookup_storeAll_of_not_mem addrOf _ hk.2]
    split_ifs
    · rfl
    · exact AList.lookup_insert_ne hk.1

/-- With distinct node ids, the loop's map holds each node it does not skip, under its id. -/
theorem lookup_storeAll (addrOf : MeshNode → Addr) {n : MeshNode} :
    ∀ {nodes : List MeshNode} (out : Registry AddrPort), (nodes.map (·.id)).Nodup → n ∈ nodes →
      (storeAll skip addrOf out nodes).lookup n.id =
        if skip n then out.lookup n.id else some ⟨addrOf n, goUint16 n.grpcPort⟩
  | [], _, _, hn => absurd hn (List.not_mem_nil n)
  | m :: nodes, out, hd, hn => by
    rw [List.map_cons, List.nodup_cons] at hd
    rw [storeAll_cons]
    rcases List.mem_cons.1 hn with rfl | hn
    · rw [lookup_storeAll_of_not_mem skip addrOf _ hd.1]
      split_ifs
      · rfl
      · exact AList.lookup_insert _
    · have hne : n.id ≠ m.id := fun h => hd.1 (h ▸ List.mem_map_of_mem _ hn)
      rw [lookup_storeAll addrOf _ hd.2 hn]
      split_ifs <;> first | rfl | exact AList.lookup_insert_ne hne

end Loop

/-! ## `ListPeerPublicRPCAddresses` -/

theorem erase_of_not_mem {m : Registry AddrPort} {k : String} (h : k ∉ m.keys) : m.erase k = m :=
  AList.ext (List.kerase_of_not_mem_keys h)

/-- Whatever order the keys are visited in, the loop deletes `nodeID` if the map has it. -/
theorem deleteFirst_eq_erase (nodeID : String) (m : Registry AddrPort) :
    ∀ {keys : List String}, (nodeID ∈ keys ↔ nodeID ∈ m.keys) → deleteFirst nodeID m keys = m.erase nodeID
  | [], h => (erase_of_not_mem fun hm => absurd (h.2 hm) (List.not_mem_nil _)).symm
  | key :: keys, h => by
    rw [deleteFirst]
    split_ifs with hk
    · rw [hk]
    · exact deleteFirst_eq_erase nodeID m ⟨fun hm => h.1 (List.mem_cons_of_mem key hm),
        fun hm => (List.mem_cons.1 (h.2 hm)).resolve_left (Ne.symm hk)⟩

/-- **`ListPeerPublicRPCAddresses` is the public map without the excluded node**, for every
order in which `range` may visit the map. -/
theorem listPeerPublicRPCAddresses_eq (order : Registry AddrPort → List String)
    (horder : ∀ m, (order m).Perm m.keys) (nodes : Except String (List MeshNode)) (nodeID : String) :
    listPeerPublicRPCAddresses order nodes nodeID = (listPublicRPCAddresses nodes).map (·.erase nodeID) := by
  unfold listPeerPublicRPCAddresses
  cases listPublicRPCAddresses nodes with
  | error e => rfl
  | ok m => exact congrArg Except.ok (deleteFirst_eq_erase nodeID m (horder m).mem_iff)

/-- A node advertising `10.0.0.1`, with gRPC port 8443. -/
def publicNode : MeshNode := ⟨"a", "10.0.0.1", 8443, ⟨.zero, 0⟩, ⟨.zero, 0⟩⟩

/-- `publicNode`; a node without primary endpoint, which the loop skips; an IPv6 node whose
gRPC port does not fit a `uint16`; and a second node `a`, which overwrites the first. -/
def publicNodes : List MeshNode :=
  [publicNode, ⟨"b", "", 8443, ⟨.zero, 0⟩, ⟨.zero, 0⟩⟩, ⟨"c", "fd00::1", 70000, ⟨.zero, 0⟩, ⟨.zero, 0⟩⟩,
    ⟨"a", "10.0.0.9", 9443, ⟨.zero, 0⟩, ⟨.zero, 0⟩⟩]

/-- `a` asks for its peers among `publicNodes`, with `range` visiting the keys last first. -/
theorem listPeerPublicRPCAddresses_eq_keys :
    (∀ m : Registry AddrPort, m.keys.reverse.Perm m.keys) ∧
      listPeerPublicRPCAddresses (·.keys.reverse) (.ok publicNodes) "a" =
        (listPublicRPCAddresses (.ok publicNodes)).map (·.erase "a") :=
  ⟨fun m => List.reverse_perm m.keys,
    listPeerPublicRPCAddresses_eq (·.keys.reverse) (fun m => List.reverse_perm m.keys) (.ok publicNodes) "a"⟩

/-- **Neither peer query returns the excluded node**: whenever `ListPeerPublicRPCAddresses`,
for every order in which `range` may visit the map, or `ListPeerPrivateRPCAddresses` returns a
map, `nodeID` has no entry in it, whatever the nodes. -/
theorem lookup_listPeerRPCAddresses_self (order : Registry AddrPort → List String)
    (horder : ∀ m, (order m).Perm m.keys) (nodes nodes' : Except String (List MeshNode)) (nodeID : String)
    (m m' : Registry AddrPort) :
    (listPeerPublicRPCAddresses order nodes nodeID = .ok m → m.lookup nodeID = none) ∧
      (listPeerPrivateRPCAddresses nodes' nodeID = .ok m' → m'.lookup nodeID = none) := by
  constructor
  · intro h
    unfold listPeerPublicRPCAddresses at h
    cases hl : listPublicRPCAddresses nodes with
    | error e => rw [hl] at h; cases h
    | ok m₀ =>
      rw [hl] at h
      cases h
      dsimp only
      rw [deleteFirst_eq_erase nodeID m₀ (horder m₀).mem_iff]
      exact AList.lookup_erase nodeID m₀
  · intro h
    cases nodes' with
    | error e => cases h
    | ok nodes' =>
      exact lookup_foldlM_rpcAddressStep _ _ _ (fun n hs => by simpa using hs) nodes' ∅ m' h

/-! ## `ListPublicRPCAddresses` -/

/-- **`ListPublicRPCAddresses` reads back the addresses the nodes advertise**: when every
primary endpoint that is set is the printed form of a valid address, the map holds that
address, with the node's gRPC port as `uint16`, for every node whose endpoint is set. -/
theorem listPublicRPCAddresses_eq (nodes : List MeshNode) (addrOf : MeshNode → Addr)
    (h : ∀ n ∈ nodes, n.primaryEndpoint ≠ "" → (addrOf n).isValid = true ∧ n.primaryEndpoint = (addrOf n).string) :
    listPublicRPCAddresses (.ok nodes) = .ok (storeAll (fun n => n.primaryEndpoint = "") addrOf ∅ nodes) := by
  cases nodes with
  | nil => rfl
  | cons n nodes =>
    refine foldlM_rpcAddressStep_ok _ _ _ addrOf _ _ fun m hm hs => ?_
    obtain ⟨hv, he⟩ := h m hm (by simpa using hs)
    rw [he]
    exact parseAddr_string _ hv

/-- The address a node advertises, as `ParseAddr` reads it. -/
def advertised (n : MeshNode) : Addr :=
  match parseAddr n.primaryEndpoint with
  | .ok a => a
  | .error _ => .zero

theorem listPublicRPCAddresses_eq_publicNode :
    (∀ n ∈ publicNodes, n.primaryEndpoint ≠ "" →
      (advertised n).isValid = true ∧ n.primaryEndpoint = (advertised n).string) ∧
    listPublicRPCAddresses (.ok publicNodes) =
      .ok (storeAll (fun n => n.primaryEndpoint = "") advertised ∅ publicNodes) :=
  have h : ∀ n ∈ publicNodes, n.primaryEndpoint ≠ "" →
      (advertised n).isValid = true ∧ n.primaryEndpoint = (advertised n).string := by decide
  ⟨h, listPublicRPCAddresses_eq publicNodes advertised h⟩

/-- A primary endpoint that does not parse stops `ListPublicRPCAddresses` with an error that
names its node. -/
theorem listPublicRPCAddresses_error (pre : List MeshNode) {n : MeshNode} (post : List MeshNode)
    (hpre : ∀ m ∈ pre, m.primaryEndpoint ≠ "" → (parseAddr m.primaryEndpoint).isOk = true)
    (hn : n.primaryEndpoint ≠ "") {err : ParseAddrError} (herr : parseAddr n.primaryEndpoint = .error err) :
    listPublicRPCAddresses (.ok (pre ++ n :: post)) = .error (.parseAddress n.id err) := by
  have hne : pre ++ n :: post ≠ [] := by simp
  unfold listPublicRPCAddresses
  split
  · rename_i h; cases h
  · rename_i h; exact absurd (Except.ok.inj h) hne
  · rename_i nodes' h
    cases Except.ok.inj h
    exact foldlM_rpcAddressStep_error _ _ _ pre post ∅ (fun m hm hs => hpre m hm (by simpa using hs))
      (by simpa using hn) herr

/-- Node `d` advertises a host name, after `a` and the skipped `b` and before `c`. -/
theorem listPublicRPCAddresses_error_hostname :
    (∀ m ∈ publicNodes.take 2, m.primaryEndpoint ≠ "" → (parseAddr m.primaryEndpoint).isOk = true) ∧
    "node-d" ≠ "" ∧ parseAddr "node-d" = .error ⟨"node-d", "unable to parse IP", ""⟩ ∧
    listPublicRPCAddresses (.ok (publicNodes.take 2 ++ ⟨"d", "node-d", 8443, ⟨.zero, 0⟩, ⟨.zero, 0⟩⟩ ::
        publicNodes.drop 2)) =
      .error (.parseAddress "d" ⟨"node-d", "unable to parse IP", ""⟩) :=
  have hpre : ∀ m ∈ publicNodes.take 2, m.primaryEndpoint ≠ "" → (parseAddr m.primaryEndpoint).isOk = true := by
    decide
  ⟨hpre, by decide, rfl, listPublicRPCAddresses_error (publicNodes.take 2) (publicNodes.drop 2) hpre (by decide) rfl⟩

/-! ## `ListPeerPrivateRPCAddresses` -/

/-- The address `ListPeerPrivateRPCAddresses` stores for a node: its private IPv4 address if
that prefix is valid, else its IPv6 one. -/
def privateAddr (n : MeshNode) : Addr := if n.privateIPv4.isValid then n.privateIPv4.addr else n.privateIPv6.addr

/-- Cutting a printed valid prefix at its slash leaves its address. -/
theorem beforeSlash_string {p : Prefix} (hgo : p.IsGo) (hv : p.isValid = true) : beforeSlash p.string = p.addr.string := by
  rw [← hgo] at hv ⊢
  have hslash := slash_not_mem_string p.addr.withoutZone (Addr.hasZone_withoutZone _)
  obtain ⟨rest, hsplit⟩ := splitOnP_eq_takeWhile (p := (· == '/')) (prefixFrom p.addr p.bits).string.toList
  rw [beforeSlash]
  simp only [split, List.splitOn, hsplit, List.map_cons, List.head_cons]
  rw [toList_prefixFrom_string hv, List.takeWhile_append_of_pos (fun c hc => by
    simpa using fun h : c = '/' => hslash (h ▸ hc))]
  rw [List.takeWhile_cons_of_neg (by simp), List.append_nil]
  rfl

/-- A valid prefix's address, printed and cut as `ListPeerPrivateRPCAddresses` does, parses
back to itself. -/
theorem parseAddr_beforeSlash {p : Prefix} (hgo : p.IsGo) (hv : p.isValid = true) :
    parseAddr (beforeSlash p.string) = .ok p.addr := by
  rw [beforeSlash_string hgo hv]
  rw [← hgo] at hv
  exact parseAddr_string _ ((isValid_prefixFrom _ _).1 hv).1

/-- An invalid prefix prints as `invalid Prefix`, which is no address. -/
theorem parseAddr_beforeSlash_invalid {p : Prefix} (hv : p.isValid = false) :
    parseAddr (beforeSlash p.string) = .error ⟨"invalid Prefix", "unable to parse IP", ""⟩ := by
  rw [Prefix.string, hv]
  rfl

theorem parseAddr_privateIP {n : MeshNode} (h4 : n.privateIPv4.IsGo) (h6 : n.privateIPv6.IsGo)
    (hv : n.privateIPv4.isValid = true ∨ n.privateIPv6.isValid = true) :
    parseAddr (privateIP n) = .ok (privateAddr n) := by
  unfold privateIP privateAddr
  cases hv4 : n.privateIPv4.isValid
  · rw [if_neg Bool.false_ne_true, if_neg Bool.false_ne_true]
    exact parseAddr_beforeSlash h6 (hv.resolve_left (by simp [hv4]))
  · rw [if_pos rfl, if_pos rfl]
    exact parseAddr_beforeSlash h4 hv4

/-- **`ListPeerPrivateRPCAddresses` never fails on nodes that have a private prefix**: the
map holds, for every node but the excluded one, its private IPv4 address if valid, else its
IPv6 address, with its gRPC port as `uint16`. -/
theorem listPeerPrivateRPCAddresses_eq (nodes : List MeshNode) (nodeID : String)
    (hgo : ∀ n ∈ nodes, n.privateIPv4.IsGo ∧ n.privateIPv6.IsGo)
    (hv : ∀ n ∈ nodes, n.id ≠ nodeID → n.privateIPv4.isValid = true ∨ n.privateIPv6.isValid = true) :
    listPeerPrivateRPCAddresses (.ok nodes) nodeID = .ok (storeAll (fun n => n.id = nodeID) privateAddr ∅ nodes) :=
  foldlM_rpcAddressStep_ok _ _ _ privateAddr nodes ∅ fun n hn hs =>
    parseAddr_privateIP (hgo n hn).1 (hgo n hn).2 (hv n hn (by simpa using hs))

/-- A node with the private IPv4 prefix `10.0.0.2/32` and no IPv6 prefix. -/
def privateNode : MeshNode := ⟨"b", "", 8443, prefixFrom (.v4 0x0a000002#32) 32, ⟨.zero, 0⟩⟩

/-- `privateNode`; the caller `a`, which has no private prefix and is skipped; a node `c` with
only an IPv6 prefix; and a second node `b`, with another IPv4 prefix, which overwrites the
first. -/
def privateNodes : List MeshNode :=
  [privateNode, ⟨"a", "", 8443, ⟨.zero, 0⟩, ⟨.zero, 0⟩⟩,
    ⟨"c", "", 9443, ⟨.zero, 0⟩, prefixFrom (.v6 0xfd000000000000000000000000000001#128 "") 128⟩,
    { privateNode with privateIPv4 := prefixFrom (.v4 0x0a000003#32) 32 }]

theorem listPeerPrivateRPCAddresses_eq_privateNode :
    (∀ n ∈ privateNodes, n.privateIPv4.IsGo ∧ n.privateIPv6.IsGo) ∧
    (∀ n ∈ privateNodes, n.id ≠ "a" → n.privateIPv4.isValid = true ∨ n.privateIPv6.isValid = true) ∧
    listPeerPrivateRPCAddresses (.ok privateNodes) "a" =
      .ok (storeAll (fun n => n.id = "a") privateAddr ∅ privateNodes) :=
  have hgo : ∀ n ∈ privateNodes, n.privateIPv4.IsGo ∧ n.privateIPv6.IsGo := by decide
  have hv : ∀ n ∈ privateNodes, n.id ≠ "a" → n.privateIPv4.isValid = true ∨ n.privateIPv6.isValid = true := by
    decide
  ⟨hgo, hv, listPeerPrivateRPCAddresses_eq privateNodes "a" hgo hv⟩

/-- **A node without any valid private prefix stops `ListPeerPrivateRPCAddresses` with an
error that names the excluded node**, the `nodeID` argument, rather than the node whose
address failed. -/
theorem listPeerPrivateRPCAddresses_error_names_caller (pre : List MeshNode) {n : MeshNode} (post : List MeshNode)
    (nodeID : String) (hgo : ∀ m ∈ pre, m.privateIPv4.IsGo ∧ m.privateIPv6.IsGo)
    (hpre : ∀ m ∈ pre, m.id ≠ nodeID → m.privateIPv4.isValid = true ∨ m.privateIPv6.isValid = true)
    (hn : n.id ≠ nodeID) (h4 : n.privateIPv4.isValid = false) (h6 : n.privateIPv6.isValid = false) :
    listPeerPrivateRPCAddresses (.ok (pre ++ n :: post)) nodeID =
      .error (.parseAddress nodeID ⟨"invalid Prefix", "unable to parse IP", ""⟩) := by
  refine foldlM_rpcAddressStep_error _ _ _ pre post ∅ (fun m hm hs => ?_) (by simpa using hn) ?_
  · rw [parseAddr_privateIP (hgo m hm).1 (hgo m hm).2 (hpre m hm (by simpa using hs))]
    rfl
  · rw [privateIP, if_neg (by simp [h4])]
    exact parseAddr_beforeSlash_invalid h6

/-- Node `d` has no private prefix; it comes after `b` and the caller `a`, and before `c`.
The error names `a`. -/
theorem listPeerPrivateRPCAddresses_error_names_caller_b :
    (∀ m ∈ privateNodes.take 2, m.privateIPv4.IsGo ∧ m.privateIPv6.IsGo) ∧
    (∀ m ∈ privateNodes.take 2, m.id ≠ "a" → m.privateIPv4.isValid = true ∨ m.privateIPv6.isValid = true) ∧
    "d" ≠ "a" ∧ (⟨.zero, 0⟩ : Prefix).isValid = false ∧
    listPeerPrivateRPCAddresses (.ok (privateNodes.take 2 ++ ⟨"d", "", 8443, ⟨.zero, 0⟩, ⟨.zero, 0⟩⟩ ::
        privateNodes.drop 2)) "a" =
      .error (.parseAddress "a" ⟨"invalid Prefix", "unable to parse IP", ""⟩) :=
  have hgo : ∀ m ∈ privateNodes.take 2, m.privateIPv4.IsGo ∧ m.privateIPv6.IsGo := by decide
  have hv : ∀ m ∈ privateNodes.take 2, m.id ≠ "a" →
      m.privateIPv4.isValid = true ∨ m.privateIPv6.isValid = true := by decide
  ⟨hgo, hv, by decide, rfl,
    listPeerPrivateRPCAddresses_error_names_caller (privateNodes.take 2) (privateNodes.drop 2) "a" hgo hv
      (by decide) rfl rfl⟩

/-- The node `privateNode`'s peers, asked for by `a`, and the public map of `publicNode`,
which is `a` itself. -/
theorem lookup_listPeerRPCAddresses_self_a :
    (∀ m : Registry AddrPort, m.keys.Perm m.keys) ∧
      listPeerPublicRPCAddresses (·.keys) (.ok [publicNode]) "a" = .ok ∅ ∧
      (∅ : Registry AddrPort).lookup "a" = none ∧
      listPeerPrivateRPCAddresses (.ok [privateNode, { privateNode with id := "a" }]) "a" =
        .ok ((∅ : Registry AddrPort).insert "b" ⟨.v4 0x0a000002#32, 8443⟩) ∧
      ((∅ : Registry AddrPort).insert "b" ⟨.v4 0x0a000002#32, 8443⟩).lookup "a" = none :=
  have h := lookup_listPeerRPCAddresses_self (·.keys) (fun _ => List.Perm.refl _) (.ok [publicNode])
    (.ok [privateNode, { privateNode with id := "a" }]) "a" ∅
    ((∅ : Registry AddrPort).insert "b" ⟨.v4 0x0a000002#32, 8443⟩)
  ⟨fun _ => List.Perm.refl _, rfl, h.1 rfl, rfl, h.2 rfl⟩

end Webmesh.State
