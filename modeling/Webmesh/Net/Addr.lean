import Mathlib.Algebra.Group.Int
import Mathlib.Data.List.Basic

/-!
# Go's `netip` addresses and prefixes

`ifaceNetwork` and the Windows gateway lookup parse addresses with `netip.ParseAddr`, print
them with `Addr.String`, and build prefixes with `netip.PrefixFrom`. These are functions of
Go's standard library, written here as Go 1.22 computes them so that the parsers can be run
on the text of real commands.

An `Addr` is the zero address `Addr{}`, an IPv4 address, or an IPv6 address with its zone
(empty when it has none). Go keeps the same three kinds in one 128-bit word and a zone
pointer. A `Prefix` keeps its address without zone and its length plus one; `0` marks an
invalid prefix, as Go's `bitsPlusOne` does.

`PrefixFrom` accepts exactly the lengths from `0` to the address's bit length, and a prefix it
accepts contains its address exactly when that address has no zone (`contains_prefixFrom`).
-/

namespace Webmesh.Net

/-- `netip.Addr`. -/
inductive Addr where
  /-- `netip.Addr{}`, which is not valid. -/
  | zero
  | v4 (bits : BitVec 32)
  | v6 (bits : BitVec 128) (zone : String)
  deriving DecidableEq, Repr

namespace Addr

/-- `Addr.IsValid`. -/
def isValid : Addr → Bool
  | .zero => false
  | _ => true

/-- `Addr.BitLen`. -/
def bitLen : Addr → Nat
  | .zero => 0
  | .v4 _ => 32
  | .v6 _ _ => 128

/-- Whether the address carries a zone. -/
def hasZone : Addr → Bool
  | .v6 _ zone => zone ≠ ""
  | _ => false

/-- `Addr.withoutZone`. -/
def withoutZone : Addr → Addr
  | .v6 bits _ => .v6 bits ""
  | a => a

/-- The address's bits as a number below `2 ^ bitLen`. -/
def toNat : Addr → Nat
  | .zero => 0
  | .v4 bits => bits.toNat
  | .v6 bits _ => bits.toNat

@[simp] theorem bitLen_withoutZone (a : Addr) : a.withoutZone.bitLen = a.bitLen := by
  cases a <;> rfl

@[simp] theorem toNat_withoutZone (a : Addr) : a.withoutZone.toNat = a.toNat := by
  cases a <;> rfl

@[simp] theorem hasZone_withoutZone (a : Addr) : a.withoutZone.hasZone = false := by
  cases a <;> rfl

@[simp] theorem isValid_withoutZone (a : Addr) : a.withoutZone.isValid = a.isValid := by
  cases a <;> rfl

theorem bitLen_pos {a : Addr} (h : a.isValid = true) : 0 < a.bitLen := by
  cases a <;> simp_all [isValid, bitLen]

/-! ### `Addr.String` -/

/-- `string4`: the four bytes in decimal, joined by dots. -/
def string4 (bits : BitVec 32) : String :=
  ".".intercalate ((List.range 4).map fun i => toString (bits.toNat / 2 ^ (8 * (3 - i)) % 256))

/-- The eight 16-bit groups of an IPv6 address. -/
def groups (bits : BitVec 128) : List Nat :=
  (List.range 8).map fun i => bits.toNat / 2 ^ (16 * (7 - i)) % 2 ^ 16

/-- `appendHex`: a group in lowercase hexadecimal without leading zeros. -/
def hex (x : Nat) : String := ⟨Nat.toDigits 16 x⟩

/-- The run of zero groups that `::` replaces: the first of the longest runs of two or more,
as `appendTo6` finds it. -/
def zeroRun (g : List Nat) : Option (Nat × Nat) :=
  (List.range 8).foldl (fun best i =>
    let l := ((g.drop i).takeWhile (· = 0)).length
    if 2 ≤ l ∧ (best.map fun r => r.2 - r.1).getD 0 < l then some (i, i + l) else best) none

/-- `string6` without the zone: the groups joined by colons, the zero run replaced by `::`. -/
def string6 (bits : BitVec 128) : String :=
  let g := groups bits
  match zeroRun g with
  | none => ":".intercalate (g.map hex)
  | some (s, e) => ":".intercalate ((g.take s).map hex) ++ "::" ++ ":".intercalate ((g.drop e).map hex)

/-- `Addr.String`. An IPv4-mapped IPv6 address prints its IPv4 part in decimal. -/
def string : Addr → String
  | .zero => "invalid IP"
  | .v4 bits => string4 bits
  | .v6 bits zone =>
    let zonePart := if zone = "" then "" else "%" ++ zone
    if bits.toNat / 2 ^ 32 = 0xffff then "::ffff:" ++ string4 (BitVec.ofNat 32 bits.toNat) ++ zonePart
    else string6 bits ++ zonePart

end Addr

/-! ## `netip.Prefix` -/

/-- `netip.Prefix`. -/
structure Prefix where
  addr : Addr
  /-- The length plus one; `0` for an invalid prefix. -/
  bitsPlusOne : Nat
  deriving DecidableEq, Repr

/-- `netip.PrefixFrom(ip, bits)`: the address without its zone, and the length when the
address is valid and the length lies between `0` and its bit length. The host bits are kept. -/
def prefixFrom (ip : Addr) (bits : Int) : Prefix :=
  ⟨ip.withoutZone, if ip.isValid ∧ 0 ≤ bits ∧ bits ≤ ip.bitLen then bits.toNat + 1 else 0⟩

namespace Prefix

/-- `Prefix.IsValid`. -/
def isValid (p : Prefix) : Bool := 0 < p.bitsPlusOne

/-- `Prefix.Bits`: the length, or `-1` for an invalid prefix. -/
def bits (p : Prefix) : Int := p.bitsPlusOne - 1

/-- `Prefix.Contains`: a valid prefix contains a zone-free address of its family whose first
`bits` bits are its own. Go compares them by shifting away, or masking off, the other bits of
the two addresses' exclusive or. -/
def contains (p : Prefix) (ip : Addr) : Bool :=
  p.isValid && !ip.hasZone && ip.bitLen ≠ 0 && p.addr.bitLen = ip.bitLen &&
    ip.toNat / 2 ^ (ip.bitLen - p.bits.toNat) = p.addr.toNat / 2 ^ (ip.bitLen - p.bits.toNat)

end Prefix

/-- **`PrefixFrom` accepts exactly the lengths of the address's family.** -/
theorem isValid_prefixFrom (ip : Addr) (bits : Int) :
    (prefixFrom ip bits).isValid = true ↔ ip.isValid = true ∧ 0 ≤ bits ∧ bits ≤ ip.bitLen := by
  unfold prefixFrom Prefix.isValid
  split_ifs with h <;> simp [h]

/-- **A prefix contains the address it was made from exactly when that address has no
zone**, `PrefixFrom` having dropped the zone. -/
theorem contains_prefixFrom {ip : Addr} {bits : Int} (h : (prefixFrom ip bits).isValid = true) :
    (prefixFrom ip bits).contains ip = !ip.hasZone ∧
      (prefixFrom ip bits).contains ip.withoutZone = true := by
  have hlen := Addr.bitLen_pos ((isValid_prefixFrom ip bits).1 h).1
  simp [Prefix.contains, h, show (prefixFrom ip bits).addr = ip.withoutZone from rfl,
    show ip.bitLen ≠ 0 by omega]

/-! ## `netip.ParseAddr` -/

/-- `netip.parseAddrError`: the input, the message, and the text from where parsing failed
(Go's `at`, empty when the message says enough). -/
structure ParseAddrError where
  input : String
  msg : String
  rest : String
  deriving DecidableEq, Repr

/-- The bytes of an address, most significant first, as a number. -/
def ofBytes (bytes : List Nat) : Nat := bytes.foldl (fun n b => n * 256 + b) 0

/-- `parseIPv4Fields` over the characters left: the octet being read and its number of digits,
and the octets before it. A dot may not stand first (`first`), last, or after a dot
(`prevDot`). -/
def parseIPv4Loop (input : String) :
    List Char → (first prevDot : Bool) → (val digLen : Nat) → List Nat → Except ParseAddrError (List Nat)
  | [], _, _, val, _, fields =>
    if fields.length < 3 then .error ⟨input, "IPv4 address too short", ""⟩ else .ok (fields ++ [val])
  | c :: rest, first, prevDot, val, digLen, fields =>
    if 48 ≤ c.toNat ∧ c.toNat ≤ 57 then
      if digLen = 1 ∧ val = 0 then .error ⟨input, "IPv4 field has octet with leading zero", ""⟩ else
      if 255 < val * 10 + (c.toNat - 48) then .error ⟨input, "IPv4 field has value >255", ""⟩ else
      parseIPv4Loop input rest false false (val * 10 + (c.toNat - 48)) (digLen + 1) fields
    else if c = '.' then
      if first ∨ rest = [] ∨ prevDot then
        .error ⟨input, "IPv4 field must have at least one digit", ⟨c :: rest⟩⟩ else
      if fields.length = 3 then .error ⟨input, "IPv4 address too long", ""⟩ else
      parseIPv4Loop input rest false true 0 0 (fields ++ [val])
    else .error ⟨input, "unexpected character", ⟨c :: rest⟩⟩

/-- `parseIPv4`. -/
def parseIPv4 (s : String) : Except ParseAddrError Addr :=
  (parseIPv4Loop s s.toList true false 0 0 []).map fun f => .v4 (BitVec.ofNat 32 (ofBytes f))

/-- The value of a hexadecimal digit. -/
def hexDigit (c : Char) : Option Nat :=
  if 48 ≤ c.toNat ∧ c.toNat ≤ 57 then some (c.toNat - 48)
  else if 97 ≤ c.toNat ∧ c.toNat ≤ 102 then some (c.toNat - 87)
  else if 65 ≤ c.toNat ∧ c.toNat ≤ 70 then some (c.toNat - 55)
  else none

/-- The main loop of `parseIPv6`: the bytes read so far, where the `::` stood, and the text
left; at most `n` more groups fit. A group of more than four digits fails before its value
could pass `0xffff`, so that check never fires. -/
def parseIPv6Loop (input : String) :
    Nat → List Nat → Option Nat → List Char → Except ParseAddrError (List Nat × Option Nat × List Char)
  | 0, ip, ellipsis, s => .ok (ip, ellipsis, s)
  | n + 1, ip, ellipsis, s =>
    let ds := s.takeWhile fun c => (hexDigit c).isSome
    if 4 < ds.length then .error ⟨input, "each group must have 4 or less digits", ⟨s⟩⟩ else
    if ds.length = 0 then
      .error ⟨input, "each colon-separated field must have at least one digit", ⟨s⟩⟩ else
    if (s.drop ds.length).head? = some '.' then
      if ellipsis.isNone ∧ ip.length ≠ 12 then
        .error ⟨input, "embedded IPv4 address must replace the final 2 fields of the address", ⟨s⟩⟩ else
      if 16 < ip.length + 4 then
        .error ⟨input, "too many hex fields to fit an embedded IPv4 at the end of the address", ⟨s⟩⟩
      else (parseIPv4Loop input s true false 0 0 []).map fun f => (ip ++ f, ellipsis, [])
    else
    let acc := ds.foldl (fun v c => v * 16 + (hexDigit c).getD 0) 0
    let ip := ip ++ [acc / 256, acc % 256]
    match s.drop ds.length with
    | [] => .ok (ip, ellipsis, [])
    | c :: rest =>
      if c ≠ ':' then .error ⟨input, "unexpected character, want colon", ⟨c :: rest⟩⟩ else
      match rest with
      | [] => .error ⟨input, "colon must be followed by more characters", ⟨[c]⟩⟩
      | c' :: rest' =>
        if c' = ':' then
          if ellipsis.isSome then .error ⟨input, "multiple :: in address", ⟨c' :: rest'⟩⟩ else
          if rest' = [] then .ok (ip, some ip.length, []) else
          parseIPv6Loop input n ip (some ip.length) rest'
        else parseIPv6Loop input n ip ellipsis (c' :: rest')

/-- `parseIPv6`: the zone is split off first, a leading `::` is noted, and after the groups the
`::` is expanded to the zero bytes missing. -/
def parseIPv6 (input : String) : Except ParseAddrError Addr :=
  let s := input.toList.takeWhile (· ≠ '%')
  let z := input.toList.dropWhile (· ≠ '%')
  if z ≠ [] ∧ z.drop 1 = [] then .error ⟨input, "zone must be a non-empty string", ""⟩ else
  let zone : String := ⟨z.drop 1⟩
  let (ellipsis, s) : Option Nat × List Char := match s with
    | ':' :: ':' :: s => (some 0, s)
    | s => (none, s)
  if ellipsis = some 0 ∧ s = [] then .ok (.v6 0 zone) else
  match parseIPv6Loop input 8 [] ellipsis s with
  | .error e => .error e
  | .ok (ip, ellipsis, s) =>
    if s ≠ [] then .error ⟨input, "trailing garbage after address", ⟨s⟩⟩ else
    if ip.length < 16 then
      match ellipsis with
      | none => .error ⟨input, "address string too short", ""⟩
      | some e =>
        .ok (.v6 (BitVec.ofNat 128 (ofBytes (ip.take e ++ List.replicate (16 - ip.length) 0 ++ ip.drop e)))
          zone)
    else if ellipsis.isSome then .error ⟨input, "the :: must expand to at least one field of zeros", input⟩
    else .ok (.v6 (BitVec.ofNat 128 (ofBytes ip)) zone)

/-- `netip.ParseAddr`: the first dot, colon or percent sign decides the family. -/
def parseAddr (s : String) : Except ParseAddrError Addr :=
  match s.toList.find? fun c => c = '.' ∨ c = ':' ∨ c = '%' with
  | some '.' => parseIPv4 s
  | some ':' => parseIPv6 s
  | some _ => .error ⟨s, "missing IPv6 address", ""⟩
  | none => .error ⟨s, "unable to parse IP", ""⟩

/-- Only a valid address prints as text that parses back to it: the zero address prints as
`invalid IP`. -/
theorem isValid_of_parseAddr_string {a : Addr} (h : parseAddr a.string = .ok a) : a.isValid = true := by
  cases a with
  | zero => cases h
  | v4 _ | v6 _ _ => rfl

end Webmesh.Net
