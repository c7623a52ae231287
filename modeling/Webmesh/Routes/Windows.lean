import Webmesh.Go.Text
import Webmesh.Net.Prefix

/-!
# The default gateway on Windows

`GetDefaultGateway` is `defaultGatewayIPConfig`: it runs `ipconfig`, scans the output line by
line, and at the first line that, trimmed, starts with `Default Gateway` returns
`netip.ParseAddr` of that line's last field. With no such line it returns the zero address
and no error.

The first entry decides, whatever it holds. `ipconfig` prints an adapter without a gateway
as `Default Gateway . . . . . . . . . :` with nothing after the colon; the last field is then
`:`, and the function returns its parse error even when a later adapter has a gateway. The
field index is always in range, since a line that starts with `Default Gateway` has fields.
The lines are those `bufio.Scanner` yields, so a line of 64 KiB or more ends the scan and hides
every entry after it.

`Add` and `Remove` run `netsh interface <family> add|delete route <prefix> <interface> metric=0
store=active`, with the family `ipv6` for an IPv6 address and `ipv4` otherwise. The prefix goes
to `netsh` as `Prefix.String` prints it, and that text names one prefix only
(`Prefix.eq_of_string_eq`); so `Remove` deletes the route `Add` added for the same interface and
prefix, and no other (`removeCommand_eq_addCommand_iff`).
-/

namespace Webmesh.Routes

open Go Net

/-- The errors of `defaultGatewayIPConfig`. -/
inductive GatewayError where
  /-- The error of running `ipconfig`. -/
  | exec (err : String)
  /-- The error of `netip.ParseAddr` on the entry's last field. -/
  | parseAddr (err : ParseAddrError)
  /-- `fields[len(fields)-1]` on a line without fields: an index out of range panic. -/
  | indexOutOfRange
  deriving DecidableEq, Repr

/-- The prefix of a gateway entry. -/
def gatewayKey : String := "Default Gateway"

/-- The loop over the scanned lines: the first line that, trimmed, starts with
`Default Gateway` decides, by its last field. -/
def gatewayLines : List String → Except GatewayError Addr
  | [] => .ok .zero
  | line :: lines =>
    let line := trimSpace line
    if hasPrefix line gatewayKey then
      match (fields line).getLast? with
      | none => .error .indexOutOfRange
      | some field => (parseAddr field).mapError .parseAddr
    else gatewayLines lines

/-- `defaultGatewayIPConfig`, given what `ipconfig` returned. -/
def defaultGatewayIPConfig (ipconfig : ExecResult) : Except GatewayError Addr :=
  match ipconfig.err with
  | some err => .error (.exec err)
  | none => gatewayLines (scanLines ipconfig.out)

/-- `GetDefaultGateway` on Windows. -/
def getDefaultGateway (ipconfig : ExecResult) : Except GatewayError Addr :=
  defaultGatewayIPConfig ipconfig

/-- A line is a gateway entry: trimmed, it starts with `Default Gateway`. -/
def isEntry (line : String) : Bool := hasPrefix (trimSpace line) gatewayKey

/-- The lines before the first entry do not matter. -/
theorem gatewayLines_append {pre : List String} (hpre : ∀ l ∈ pre, isEntry l = false)
    (rest : List String) : gatewayLines (pre ++ rest) = gatewayLines rest := by
  induction pre with
  | nil => rfl
  | cons l pre ih =>
    simp only [List.forall_mem_cons] at hpre
    have hl : hasPrefix (trimSpace l) gatewayKey = false := hpre.1
    simp only [List.cons_append, gatewayLines, hl, Bool.false_eq_true, if_false]
    exact ih hpre.2

/-- An entry has a last field, and its parse decides. -/
theorem gatewayLines_entry {line : String} (h : isEntry line = true) (rest : List String) :
    ∃ field, (fields line).getLast? = some field ∧
      gatewayLines (line :: rest) = (parseAddr field).mapError .parseAddr := by
  have hne := fields_ne_nil_of_hasPrefix h (by decide)
  obtain ⟨field, hf⟩ := Option.isSome_iff_exists.1 (List.getLast?_isSome.2 hne)
  have h' : hasPrefix (trimSpace line) gatewayKey = true := h
  exact ⟨field, hf, by simp only [gatewayLines, h', if_true, fields_trimSpace, hf]⟩

/-- The field index is never out of range. -/
theorem gatewayLines_ne_indexOutOfRange :
    ∀ lines, gatewayLines lines ≠ .error .indexOutOfRange
  | [] => nofun
  | line :: lines => by
    cases h : isEntry line
    · rw [show line :: lines = [line] ++ lines from rfl, gatewayLines_append (by simpa using h)]
      exact gatewayLines_ne_indexOutOfRange lines
    · obtain ⟨field, -, hg⟩ := gatewayLines_entry h lines
      rw [hg]
      cases parseAddr field <;> nofun

/-- **The first `Default Gateway` entry decides, empty or not.** For every output of
`ipconfig`: the field index is never out of range; with no entry among the scanned lines the
result is the zero address; otherwise it is the parse of the first entry's last field. So an
entry with an address gives that address, and an empty entry, whose last field is the colon,
gives a parse error, whatever entries follow. -/
theorem defaultGatewayIPConfig_first_entry (out : String) :
    defaultGatewayIPConfig ⟨out, none⟩ ≠ .error .indexOutOfRange ∧
    ((∀ l ∈ scanLines out, isEntry l = false) → defaultGatewayIPConfig ⟨out, none⟩ = .ok .zero) ∧
    ∀ pre line post, scanLines out = pre ++ line :: post → (∀ l ∈ pre, isEntry l = false) →
      isEntry line = true →
      (∀ x : Addr, (fields line).getLast? = some x.string → parseAddr x.string = .ok x →
        defaultGatewayIPConfig ⟨out, none⟩ = .ok x) ∧
      ((fields line).getLast? = some ":" → defaultGatewayIPConfig ⟨out, none⟩ =
        .error (.parseAddr ⟨":", "each colon-separated field must have at least one digit", ":"⟩)) := by
  refine ⟨gatewayLines_ne_indexOutOfRange _, fun h => ?_, fun pre line post hl hpre he => ?_⟩
  · simpa using gatewayLines_append h []
  obtain ⟨field, hf, hg⟩ := gatewayLines_entry he post
  have hd : defaultGatewayIPConfig ⟨out, none⟩ = (parseAddr field).mapError .parseAddr := by
    rw [defaultGatewayIPConfig, hl, gatewayLines_append hpre, hg]
  refine ⟨fun x hx hp => ?_, fun hc => ?_⟩
  · rw [hd, Option.some.inj (hf.symm.trans hx), hp]
    rfl
  · rw [hd, Option.some.inj (hf.symm.trans hc)]
    rfl

/-- `ipconfig` on a Windows host running WSL: the WSL adapter, which has no gateway, comes
before the Wi-Fi adapter, whose gateway is `192.168.1.1`. Lines end in `\r\n`. -/
def wslIpconfig : List String :=
  ["", "Windows IP Configuration", "", "",
    "Ethernet adapter vEthernet (WSL):", "",
    "   Connection-specific DNS Suffix  . : ",
    "   Link-local IPv6 Address . . . . . : fe80::8d4f:1a2b:3c4d:5e6f%28",
    "   IPv4 Address. . . . . . . . . . . : 172.24.160.1",
    "   Subnet Mask . . . . . . . . . . . : 255.255.240.0",
    "   Default Gateway . . . . . . . . . : ",
    "", "Wireless LAN adapter Wi-Fi:", "",
    "   Connection-specific DNS Suffix  . : home",
    "   IPv4 Address. . . . . . . . . . . : 192.168.1.23",
    "   Subnet Mask . . . . . . . . . . . : 255.255.255.0",
    "   Default Gateway . . . . . . . . . : 192.168.1.1", ""]

/-- The WSL adapter's empty entry decides: the result is the parse error of `:`, although the
Wi-Fi adapter's entry carries `192.168.1.1`. -/
theorem defaultGatewayIPConfig_first_entry_wsl :
    defaultGatewayIPConfig ⟨"\r\n".intercalate wslIpconfig, none⟩ =
      .error (.parseAddr ⟨":", "each colon-separated field must have at least one digit", ":"⟩) ∧
    (fields (wslIpconfig.getD 17 "")).getLast? = some "192.168.1.1" :=
  ⟨((defaultGatewayIPConfig_first_entry ("\r\n".intercalate wslIpconfig)).2.2
      (wslIpconfig.take 10) (wslIpconfig.getD 10 "") ((wslIpconfig.drop 11).dropLast)
      ((scanLines_intercalate_crlf wslIpconfig rfl (by decide) (by decide)).trans rfl) (by decide)
      (by decide)).2 (by decide),
    by decide⟩

/-! ## Setting the default gateway, adding and removing routes -/

/-- `SetDefaultIPv4Gateway`, not implemented on Windows. -/
def setDefaultIPv4Gateway (_gateway : Addr) : Except String Unit := .error "not implemented"

/-- `SetDefaultIPv6Gateway`, not implemented on Windows. -/
def setDefaultIPv6Gateway (_gateway : Addr) : Except String Unit := .error "not implemented"

/-- The errors of `Add` and `Remove`: `ErrRouteExists`, or the error of running `netsh`. -/
inductive RouteError where
  | routeExists
  | exec (err : String)
  deriving DecidableEq, Repr

/-- The address family `Add` and `Remove` give `netsh`. -/
def family (addr : Prefix) : String := if addr.addr.is6 then "ipv6" else "ipv4"

/-- The command `Add` runs. -/
def addCommand (ifaceName : String) (addr : Prefix) : List String :=
  ["netsh", "interface", family addr, "add", "route", addr.string, ifaceName, "metric=0", "store=active"]

/-- `Add`, with `util.ExecOutput` as `execOutput`: a failure whose output says the route is
already there is `ErrRouteExists`. -/
def add (execOutput : List String → ExecResult) (ifaceName : String) (addr : Prefix) :
    Except RouteError Unit :=
  let r := execOutput (addCommand ifaceName addr)
  match r.err with
  | some err =>
    if contains r.out "already in table" || contains r.out "exists" then .error .routeExists
    else .error (.exec err)
  | none => .ok ()

/-- The command `Remove` runs. -/
def removeCommand (ifaceName : String) (addr : Prefix) : List String :=
  ["netsh", "interface", family addr, "delete", "route", addr.string, ifaceName, "metric=0", "store=active"]

/-- `Remove`, with `util.Exec` as `exec`. -/
def remove (exec : List String → Option String) (ifaceName : String) (addr : Prefix) :
    Except RouteError Unit :=
  match exec (removeCommand ifaceName addr) with
  | some err => .error (.exec err)
  | none => .ok ()

/-- **`Remove` deletes the route `Add` added, and no other.** For valid prefixes that
`PrefixFrom` makes, `Remove`'s command is `Add`'s with `delete` for `add` exactly when the
interface and the prefix are the same. -/
theorem removeCommand_eq_addCommand_iff {p q : Prefix} (hp : p.IsGo) (hq : q.IsGo)
    (hpv : p.isValid = true) (hqv : q.isValid = true) (i j : String) :
    removeCommand i p = (addCommand j q).set 3 "delete" ↔ i = j ∧ p = q := by
  constructor
  · intro h
    simp only [removeCommand, addCommand, List.set_cons_succ, List.set_cons_zero, List.cons.injEq] at h
    obtain ⟨-, -, -, -, -, hs, hi, -⟩ := h
    exact ⟨hi, Prefix.eq_of_string_eq hp hq hpv hqv hs⟩
  · rintro ⟨rfl, rfl⟩
    rfl

theorem removeCommand_eq_addCommand_iff_wg0 :
    (prefixFrom (.v4 0x0a000000#32) 8).IsGo ∧ (prefixFrom (.v4 0x0a000000#32) 8).isValid = true ∧
      (removeCommand "wg0" (prefixFrom (.v4 0x0a000000#32) 8) =
          (addCommand "wg0" (prefixFrom (.v4 0x0a000000#32) 8)).set 3 "delete" ↔
        "wg0" = "wg0" ∧ prefixFrom (.v4 0x0a000000#32) 8 = prefixFrom (.v4 0x0a000000#32) 8) :=
  ⟨isGo_prefixFrom _ _, rfl,
    removeCommand_eq_addCommand_iff (isGo_prefixFrom (.v4 0x0a000000#32) 8)
      (isGo_prefixFrom (.v4 0x0a000000#32) 8) rfl rfl "wg0" "wg0"⟩

end Webmesh.Routes
