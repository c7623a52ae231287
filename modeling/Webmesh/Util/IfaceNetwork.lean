import Webmesh.Go.Text
import Webmesh.Net.Addr

/-!
# The prefix of an interface address

`ifaceNetwork` runs `ifconfig <iface>` and stops at the first line of its output that carries
the address: trimmed, the line starts with `inet` (or `inet6`), it has at least four fields,
and its second field is the address as `Addr.String` prints it. From that line it reads the
prefix length in the fourth field: for IPv6 a decimal number, for IPv4 a number in base 16.

`ifconfig` prints an IPv4 netmask as `0x` and eight hexadecimal digits, and
`strconv.ParseUint(field, 16, 32)` refuses the `0x`, so on such a line the function returns a
parse error. A netmask printed without it is read as a prefix length although it is the
mask's value: `ffffff00` gives the length `4294967040`, an invalid prefix, and no error. An
IPv6 line's `prefixlen k` gives `a/k`, which is valid only when `k` is at most the address's
bit length; a longer `k` is returned as an invalid prefix, without an error. A valid result
contains the address exactly when the address has no zone.
-/

namespace Webmesh.Util

open Go Net

/-- The errors of `ifaceNetwork`, each with the operands of its `fmt.Errorf`. -/
inductive IfaceError where
  /-- `ifconfig %s: %w: %s`: the interface, the command's error and its output. -/
  | ifconfig (iface err out : String)
  /-- `parse %s: %w`: the address field that `netip.ParseAddr` refused. -/
  | parseAddr (addr : String) (err : ParseAddrError)
  /-- `parse %s: %w`: the length field that `strconv` refused. -/
  | parseBits (field : String) (err : NumError)
  /-- `no %s address found for %s`. -/
  | notFound (forAddr : Addr) (iface : String)
  deriving DecidableEq, Repr

/-- What the line that carries the address gives: its address parsed, and its fourth field
(the code's `prefix`) read as the length, `Atoi` for IPv6 and `ParseUint` in base 16 for
IPv4. -/
def readPrefix (ipv6 : Bool) (addr field : String) : Except IfaceError Prefix :=
  match parseAddr addr with
  | .error e => .error (.parseAddr addr e)
  | .ok ip =>
    if ipv6 then
      match atoi field with
      | .error e => .error (.parseBits field e)
      | .ok bits => .ok (prefixFrom ip bits)
    else
      match parseUint field 16 32 with
      | .error e => .error (.parseBits field e)
      | .ok bits => .ok (prefixFrom ip bits)

/-- The loop's body for one line: `none` to go on to the next line, or what the function
returns. -/
def ifconfigLine (strPrefix : String) (forAddr : Addr) (ipv6 : Bool) (line : String) :
    Option (Except IfaceError Prefix) :=
  let line := trimSpace line
  if !hasPrefix line strPrefix then none else
  match fields line with
  | _ :: addr :: _ :: field :: _ =>
    if addr ≠ forAddr.string then none else some (readPrefix ipv6 addr field)
  | _ => none

/-- The loop over the lines of the output. -/
def ifconfigLines (strPrefix : String) (forAddr : Addr) (ipv6 : Bool) (ifaceName : String) :
    List String → Except IfaceError Prefix
  | [] => .error (.notFound forAddr ifaceName)
  | line :: lines =>
    (ifconfigLine strPrefix forAddr ipv6 line).getD (ifconfigLines strPrefix forAddr ipv6 ifaceName lines)

/-- `ifaceNetwork(ifaceName, forAddr, ipv6)`, given what `ifconfig ifaceName` returned. -/
def ifaceNetwork (ifconfig : ExecResult) (ifaceName : String) (forAddr : Addr) (ipv6 : Bool) :
    Except IfaceError Prefix :=
  match ifconfig.err with
  | some err => .error (.ifconfig ifaceName err ifconfig.out)
  | none =>
    let strPrefix := if ipv6 then "inet6" else "inet"
    ifconfigLines strPrefix forAddr ipv6 ifaceName (split ifconfig.out '\n')

/-! ## The line that decides -/

section Loop

variable {strPrefix : String} {forAddr : Addr} {ipv6 : Bool} {ifaceName : String}

/-- The lines the loop passes over do not matter. -/
theorem ifconfigLines_append {pre : List String}
    (hpre : ∀ l ∈ pre, (ifconfigLine strPrefix forAddr ipv6 l).isNone = true) (rest : List String) :
    ifconfigLines strPrefix forAddr ipv6 ifaceName (pre ++ rest) =
      ifconfigLines strPrefix forAddr ipv6 ifaceName rest := by
  induction pre with
  | nil => rfl
  | cons l pre ih =>
    simp only [List.forall_mem_cons, Option.isNone_iff_eq_none] at hpre
    simp [ifconfigLines, hpre.1, ih fun l hl => Option.isNone_iff_eq_none.2 (hpre.2 l hl)]

/-- Without a line that carries the address, the function says none was found. -/
theorem ifconfigLines_notFound {lines : List String}
    (h : ∀ l ∈ lines, (ifconfigLine strPrefix forAddr ipv6 l).isNone = true) :
    ifconfigLines strPrefix forAddr ipv6 ifaceName lines = .error (.notFound forAddr ifaceName) := by
  simpa using (ifconfigLines_append h [] :
    ifconfigLines strPrefix forAddr ipv6 ifaceName (lines ++ []) = _)

/-- A line whose first field starts with the keyword and whose second is the address is the
one the loop stops at. -/
theorem ifconfigLine_of_fields {line kw addr w field : String} {rest : List String}
    (h : fields line = kw :: addr :: w :: field :: rest) (hkw : hasPrefix kw strPrefix = true) :
    ifconfigLine strPrefix forAddr ipv6 line =
      if addr = forAddr.string then some (readPrefix ipv6 addr field) else none := by
  simp only [ifconfigLine, hasPrefix_trimSpace h hkw, Bool.not_true, Bool.false_eq_true, if_false,
    fields_trimSpace, h, ne_eq, ite_not]

end Loop

/-- **The first line that carries the address decides.** -/
theorem ifaceNetwork_of_line (ipv6 : Bool) {out ifaceName : String} {forAddr : Addr}
    {pre post : List String} {line w field : String} {rest : List String}
    (hlines : split out '\n' = pre ++ line :: post)
    (hpre : ∀ l ∈ pre, (ifconfigLine (if ipv6 then "inet6" else "inet") forAddr ipv6 l).isNone = true)
    (h : fields line = (if ipv6 then "inet6" else "inet") :: forAddr.string :: w :: field :: rest) :
    ifaceNetwork ⟨out, none⟩ ifaceName forAddr ipv6 = readPrefix ipv6 forAddr.string field := by
  have hkw : hasPrefix (if ipv6 then "inet6" else "inet") (if ipv6 then "inet6" else "inet") = true := by
    cases ipv6 <;> rfl
  simp only [ifaceNetwork, hlines, ifconfigLines_append hpre, ifconfigLines,
    ifconfigLine_of_fields h hkw, if_true, Option.getD_some]

/-! ## Reading the length -/

section Read

variable {a : Addr} (ha : parseAddr a.string = .ok a)
include ha

/-- An IPv4 netmask printed with `0x` is refused. -/
theorem readPrefix_hex_prefix (h : String) :
    readPrefix false a.string ("0x" ++ h) =
      .error (.parseBits ("0x" ++ h) ⟨"ParseUint", "0x" ++ h, .invalid⟩) := by
  simp only [readPrefix, ha, parseUint_hex_prefix, Bool.false_eq_true, if_false]

/-- An IPv4 field that `ParseUint` reads is taken as the length, whatever its size. -/
theorem readPrefix_hex {field : String} {v : Nat} (hv : parseUint field 16 32 = .ok v) :
    readPrefix false a.string field = .ok (prefixFrom a v) := by
  simp only [readPrefix, ha, hv, Bool.false_eq_true, if_false]

/-- An IPv6 `prefixlen k` gives `a/k`. -/
theorem readPrefix_decimal {k : Nat} (hk : k < 2 ^ 63) :
    readPrefix true a.string (toString k) = .ok (prefixFrom a k) := by
  simp only [readPrefix, ha, atoi_toString k hk, if_true]

end Read

/-- **`ifaceNetwork` misreads the netmask.** Whatever the rest of the output of `ifconfig`,
let the first line that carries the address `a` have the fields
`inet a <w> <field> <rest>`. A netmask `0x…` in the field is refused with a parse error; a
field that `ParseUint` reads in base 16, such as a netmask printed without `0x`, is taken as
the prefix length. For `inet6 a <w> k <rest>` the result is `a/k`: a valid prefix exactly when
`k` is at most `a`'s bit length, and otherwise an invalid prefix returned without an error; a
valid one contains `a` exactly when `a` has no zone. -/
theorem ifaceNetwork_misreads_netmask (out ifaceName : String) (a : Addr)
    (hparse : parseAddr a.string = .ok a) (pre post : List String) (line w : String)
    (rest : List String) (hlines : split out '\n' = pre ++ line :: post) :
    ((∀ l ∈ pre, (ifconfigLine "inet" a false l).isNone = true) →
      (∀ h, fields line = "inet" :: a.string :: w :: ("0x" ++ h) :: rest →
        ifaceNetwork ⟨out, none⟩ ifaceName a false =
          .error (.parseBits ("0x" ++ h) ⟨"ParseUint", "0x" ++ h, .invalid⟩)) ∧
      (∀ field v, fields line = "inet" :: a.string :: w :: field :: rest →
        parseUint field 16 32 = .ok v → ifaceNetwork ⟨out, none⟩ ifaceName a false = .ok (prefixFrom a v))) ∧
    ((∀ l ∈ pre, (ifconfigLine "inet6" a true l).isNone = true) →
      ∀ k : Nat, k < 2 ^ 63 → fields line = "inet6" :: a.string :: w :: toString k :: rest →
        ifaceNetwork ⟨out, none⟩ ifaceName a true = .ok (prefixFrom a k) ∧
        ((prefixFrom a k).isValid = true ↔ k ≤ a.bitLen) ∧
        ((prefixFrom a k).isValid = true → (prefixFrom a k).contains a = !a.hasZone)) := by
  refine ⟨fun hpre => ⟨fun h hf => ?_, fun field v hf hv => ?_⟩, fun hpre k hk hf => ⟨?_, ?_, ?_⟩⟩
  · rw [ifaceNetwork_of_line false hlines hpre hf, readPrefix_hex_prefix hparse]
  · rw [ifaceNetwork_of_line false hlines hpre hf, readPrefix_hex hparse hv]
  · rw [ifaceNetwork_of_line true hlines hpre hf, readPrefix_decimal hparse hk]
  · simp [isValid_prefixFrom, isValid_of_parseAddr_string hparse, Int.ofNat_nonneg]
  · exact fun hv => (contains_prefixFrom hv).1

/-- `ifconfig en0` on macOS: a link-local IPv6 line with its zone, the IPv4 line with its
netmask in hexadecimal, and a global IPv6 line. -/
def en0Lines : List String :=
  ["en0: flags=8863<UP,BROADCAST,SMART,RUNNING,SIMPLEX,MULTICAST> mtu 1500",
    "\tether 3c:22:fb:12:34:56",
    "\tinet6 fe80::1c2b:3ff:fe4d:5e6f%en0 prefixlen 64 secured scopeid 0x4",
    "\tinet 192.0.2.10 netmask 0xffffff00 broadcast 192.0.2.255",
    "\tinet6 2001:db8::10 prefixlen 64 autoconf secured",
    "\tstatus: active", ""]

/-- On `en0`, the IPv4 address `192.0.2.10` gets a parse error for its netmask `0xffffff00`,
where `192.0.2.10/24` was meant; `2001:db8::10` gets `2001:db8::10/64`. -/
theorem ifaceNetwork_misreads_netmask_en0 :
    ifaceNetwork ⟨"\n".intercalate en0Lines, none⟩ "en0" (.v4 0xc000020a) false =
      .error (.parseBits "0xffffff00" ⟨"ParseUint", "0xffffff00", .invalid⟩) ∧
    ifaceNetwork ⟨"\n".intercalate en0Lines, none⟩ "en0" (.v6 0x20010db8000000000000000000000010 "") true =
      .ok (prefixFrom (.v6 0x20010db8000000000000000000000010 "") 64) :=
  have hsplit := split_intercalate "\n" rfl en0Lines (by decide) (by decide)
  ⟨((ifaceNetwork_misreads_netmask ("\n".intercalate en0Lines) "en0" (.v4 0xc000020a) rfl
      (en0Lines.take 3) (en0Lines.drop 4) (en0Lines.getD 3 "") "netmask"
      ["broadcast", "192.0.2.255"] (hsplit.trans rfl)).1 (by decide)).1 "ffffff00" rfl,
    ((ifaceNetwork_misreads_netmask ("\n".intercalate en0Lines) "en0"
      (.v6 0x20010db8000000000000000000000010 "") rfl
      (en0Lines.take 4) (en0Lines.drop 5) (en0Lines.getD 4 "") "prefixlen" ["autoconf", "secured"]
      (hsplit.trans rfl)).2 (by decide) 64 (by decide) rfl).1⟩

end Webmesh.Util
