import Webmesh.Net.Netip
import Webmesh.Net.RoundTrip

/-!
# Printing and parsing prefixes

The mesh stores its network prefixes as text (`Prefix.String`) and reads them back with
`netip.ParsePrefix`; `ListPeerPrivateRPCAddresses` cuts the printed prefix at its slash and
parses the address part. Both rest on the address round trip of `Net.RoundTrip`: an address
without a zone prints without a slash, so the last slash of a printed prefix is the one
`Prefix.String` put there (`parsePrefix_string`).

Go's `net/netip` is also what `Join`'s model takes as a parameter. `Netip.go` is that
parameter built from this model, its laws proved (`goNetip_laws`): the theorems about `Join`
hold for Go's library, not only for the textual instance used to run it.
-/

namespace Webmesh.Net

open Go

/-- `Addr.Is6`: an IPv6 address, IPv4-mapped ones included. -/
def Addr.is6 : Addr → Bool
  | .v6 _ _ => true
  | _ => false

/-! ## `Prefix.String` and `ParsePrefix` -/

/-- `Prefix.String`: the address, a slash and the length; an invalid prefix prints as
`invalid Prefix`. -/
def Prefix.string (p : Prefix) : String :=
  if !p.isValid then "invalid Prefix" else p.addr.string ++ "/" ++ itoa p.bits

/-- A prefix Go can hold: `PrefixFrom` of its own address and length. Every `netip.Prefix`
value is one, the zero `Prefix{}` included. -/
def Prefix.IsGo (p : Prefix) : Prop := prefixFrom p.addr p.bits = p

instance (p : Prefix) : Decidable p.IsGo := inferInstanceAs (Decidable (_ = _))

/-- Every prefix `PrefixFrom` makes is one Go can hold. -/
theorem isGo_prefixFrom (ip : Addr) (bits : Int) : (prefixFrom ip bits).IsGo := by
  have hz : ip.withoutZone.withoutZone = ip.withoutZone := by cases ip <;> rfl
  by_cases h : ip.isValid = true ∧ 0 ≤ bits ∧ bits ≤ ip.bitLen
  · have hp : prefixFrom ip bits = ⟨ip.withoutZone, bits.toNat + 1⟩ := by rw [prefixFrom, if_pos h]
    rw [Prefix.IsGo, hp, prefixFrom, Prefix.bits]
    dsimp only
    rw [hz, if_pos ⟨by rw [Addr.isValid_withoutZone]; exact h.1, by omega, by rw [Addr.bitLen_withoutZone]; omega⟩]
    congr 1
    omega
  · have hp : prefixFrom ip bits = ⟨ip.withoutZone, 0⟩ := by rw [prefixFrom, if_neg h]
    rw [Prefix.IsGo, hp, prefixFrom, Prefix.bits]
    dsimp only
    rw [hz, if_neg (by omega)]

/-- `stringsLastIndexByte`: where the last `b` stands. Go counts bytes; the slash is one
byte, so cutting at it splits the text in the same place. -/
def lastIndexByte (b : Char) : List Char → Option Nat
  | [] => none
  | c :: s =>
    match lastIndexByte b s with
    | some i => some (i + 1)
    | none => if c = b then some 0 else none

/-- Why `ParsePrefix` refused its input; Go renders each as `netip.ParsePrefix("<s>"): ...`
with the quoted input. -/
inductive ParsePrefixError where
  /-- `no '/'` -/
  | noSlash (s : String)
  /-- the text before the slash is not an address -/
  | addr (s : String) (err : ParseAddrError)
  /-- `IPv6 zones cannot be present in a prefix` -/
  | zone (s : String)
  /-- `bad bits after slash: <bits>` -/
  | badBits (s bits : String)
  /-- `prefix length out of range` -/
  | outOfRange (s : String)
  deriving DecidableEq, Repr

/-- `netip.ParsePrefix`: the address before the last slash, no zone, and a length without sign
or leading zero that fits the family. The host bits are kept. -/
def parsePrefix (s : String) : Except ParsePrefixError Prefix :=
  match lastIndexByte '/' s.toList with
  | none => .error (.noSlash s)
  | some i =>
    match parseAddr ⟨s.toList.take i⟩ with
    | .error err => .error (.addr s err)
    | .ok ip =>
      if ip.hasZone then .error (.zone s) else
      let bitsStr : String := ⟨s.toList.drop (i + 1)⟩
      if 1 < bitsStr.utf8ByteSize ∧ bitsStr.toList.head?.any (fun c => c < '1' ∨ '9' < c) then
        .error (.badBits s bitsStr) else
      match atoi bitsStr with
      | .error _ => .error (.badBits s bitsStr)
      | .ok bits => if bits < 0 ∨ ip.bitLen < bits then .error (.outOfRange s) else .ok (prefixFrom ip bits)

/-! ## What an address prints -/

section Chars

theorem lastIndexByte_eq_none {b : Char} {s : List Char} (h : b ∉ s) : lastIndexByte b s = none := by
  induction s with
  | nil => rfl
  | cons c s ih =>
    rw [lastIndexByte, ih (fun hs => h (List.mem_cons_of_mem c hs)),
      if_neg (fun hc : c = b => h (hc ▸ List.mem_cons_self c s))]

/-- The last `b` of `l ++ b :: r`, when `r` has none, is the one after `l`. -/
theorem lastIndexByte_append {b : Char} (l : List Char) {r : List Char} (hr : b ∉ r) :
    lastIndexByte b (l ++ b :: r) = some l.length := by
  induction l with
  | nil => rw [List.nil_append, lastIndexByte, lastIndexByte_eq_none hr, if_pos rfl]; rfl
  | cons c l ih => rw [List.cons_append, lastIndexByte, ih]; rfl

/-- The characters of an address without a zone: hexadecimal digits, colons and dots, or the
text `invalid IP`. -/
theorem slash_not_mem_string (a : Addr) (hz : a.hasZone = false) : '/' ∉ a.string.toList := by
  have hhex : ∀ c, (hexDigit c).isSome = true → c ≠ '/' := fun c h hc => by subst hc; cases h
  cases a with
  | zero => decide
  | v4 bits =>
    intro h
    rcases mem_string4 bits h with h | h
    · exact hhex _ h rfl
    · cases h
  | v6 bits zone =>
    have hzone : zone = "" := by simpa [Addr.hasZone] using hz
    subst hzone
    rw [Addr.string, if_pos rfl, String.append_empty, String.append_empty]
    split_ifs
    · intro h
      rw [toList_append] at h
      rcases List.mem_append.1 h with h | h
      · revert h
        decide
      · rcases mem_string4 _ h with h | h
        · exact hhex _ h rfl
        · cases h
    · intro h
      rcases mem_string6 bits h with h | h
      · exact hhex _ h rfl
      · cases h

end Chars

/-! ## `ParsePrefix` reads back `Prefix.String` -/

section Prefixes

theorem digitChar_pos : ∀ d < 10, 0 < d → ¬(Nat.digitChar d < '1' ∨ '9' < Nat.digitChar d) := by
  decide

/-- A positive number's decimal digits start with a digit from one to nine. -/
theorem head?_toDigits_pos (n : Nat) (hn : 0 < n) :
    ∃ d, 0 < d ∧ d < 10 ∧ (Nat.toDigits 10 n).head? = some (Nat.digitChar d) := by
  induction n using Nat.strong_induction_on with
  | _ n ih =>
    by_cases h10 : n < 10
    · exact ⟨n, hn, h10, by rw [toDigits_lt_ten h10]; rfl⟩
    · obtain ⟨d, hd0, hd, h⟩ := ih (n / 10) (by omega) (by omega)
      exact ⟨d, hd0, hd, by rw [toDigits_ten (by omega), List.head?_append, h]; rfl⟩

/-- A length without sign and without leading zero passes `ParsePrefix`'s check. -/
theorem bits_check (n : Nat) :
    ¬(1 < (toString n).utf8ByteSize ∧
      (toString n).toList.head?.any (fun c => c < '1' ∨ '9' < c) = true) := by
  rcases Nat.eq_zero_or_pos n with rfl | hn
  · decide
  · obtain ⟨d, hd0, hd, h⟩ := head?_toDigits_pos n hn
    rintro ⟨-, hany⟩
    rw [show (toString n).toList = Nat.toDigits 10 n from rfl, h] at hany
    exact digitChar_pos d hd hd0 (by simpa using hany)

theorem prefixFrom_withoutZone (ip : Addr) (bits : Int) :
    prefixFrom ip.withoutZone bits = prefixFrom ip bits := by
  cases ip <;> rfl

variable {ip : Addr} {bits : Int}

/-- The text of a valid prefix: its address without zone, a slash, its length in decimal. -/
theorem toList_prefixFrom_string (h : (prefixFrom ip bits).isValid = true) :
    (prefixFrom ip bits).string.toList = ip.withoutZone.string.toList ++ '/' :: Nat.toDigits 10 bits.toNat := by
  obtain ⟨-, h0, -⟩ := (isValid_prefixFrom ip bits).1 h
  have hbits : (prefixFrom ip bits).bits = bits := by
    simp only [Prefix.bits, prefixFrom, if_pos ((isValid_prefixFrom ip bits).1 h)]
    omega
  rw [Prefix.string, h, Bool.not_true, if_neg Bool.false_ne_true, hbits, toList_append, toList_append,
    show itoa bits = toString bits.toNat by rw [itoa, ← Int.toNat_of_nonneg h0]; rfl, List.append_assoc]
  rfl

/-- **`ParsePrefix` reads back what `Prefix.String` prints, for every valid prefix.** -/
theorem parsePrefix_string (h : (prefixFrom ip bits).isValid = true) :
    parsePrefix (prefixFrom ip bits).string = .ok (prefixFrom ip bits) := by
  obtain ⟨hv, h0, hle⟩ := (isValid_prefixFrom ip bits).1 h
  have hslash := slash_not_mem_string ip.withoutZone (Addr.hasZone_withoutZone ip)
  have hdig : '/' ∉ Nat.toDigits 10 bits.toNat := fun hm => by
    obtain ⟨d, hd, hc⟩ := mem_toDigits (by decide) _ hm
    revert hc
    exact (by decide : ∀ d < 10, '/' ≠ Nat.digitChar d) d hd
  have hsmall : bits.toNat < 2 ^ 63 := by
    have := Addr.bitLen_withoutZone ip
    cases ip <;> simp_all [Addr.bitLen] <;> omega
  have hdrop : (ip.withoutZone.string.toList ++ '/' :: Nat.toDigits 10 bits.toNat).drop
      (ip.withoutZone.string.toList.length + 1) = Nat.toDigits 10 bits.toNat := by
    rw [← List.singleton_append, ← List.append_assoc, List.drop_left' (by simp)]
  rw [parsePrefix, toList_prefixFrom_string h, lastIndexByte_append _ hdig]
  dsimp only
  rw [List.take_left, show (⟨ip.withoutZone.string.toList⟩ : String) = ip.withoutZone.string from rfl,
    parseAddr_string _ (by rw [Addr.isValid_withoutZone]; exact hv)]
  dsimp only
  rw [if_neg (by rw [Addr.hasZone_withoutZone]; exact Bool.false_ne_true), hdrop,
    show (⟨Nat.toDigits 10 bits.toNat⟩ : String) = toString bits.toNat from rfl, if_neg (bits_check _),
    atoi_toString _ hsmall]
  dsimp only
  rw [Int.toNat_of_nonneg h0, Addr.bitLen_withoutZone, if_neg (by omega), prefixFrom_withoutZone]

theorem parsePrefix_string_of_isGo {p : Prefix} (hp : p.IsGo) (hv : p.isValid = true) :
    parsePrefix p.string = .ok p := by
  have h := parsePrefix_string (show (prefixFrom p.addr p.bits).isValid = true by rw [hp]; exact hv)
  rwa [hp] at h

/-- Distinct valid prefixes print distinct texts. -/
theorem Prefix.eq_of_string_eq {p q : Prefix} (hp : p.IsGo) (hq : q.IsGo) (hpv : p.isValid = true)
    (hqv : q.isValid = true) (h : p.string = q.string) : p = q := by
  have := parsePrefix_string_of_isGo hp hpv
  rw [h, parsePrefix_string_of_isGo hq hqv] at this
  exact (Except.ok.inj this).symm

end Prefixes

/-! ## `AddrPort.String` -/

/-- `netip.AddrPort`. -/
structure AddrPort where
  addr : Addr
  port : UInt16
  deriving DecidableEq, Repr

/-- `AddrPort.String`: an IPv4 address and the port after a colon, an IPv6 address in
brackets (`joinHostPort`), or `invalid AddrPort`. -/
def AddrPort.string (p : AddrPort) : String :=
  match p.addr with
  | .zero => "invalid AddrPort"
  | .v4 bits => Addr.string4 bits ++ ":" ++ toString p.port.toNat
  | .v6 _ _ => joinHostPort p.addr.string (itoa p.port.toNat)

/-! ## Go's `net/netip` as `Join`'s library -/

section Library

theorem isValid_of_parseIPv6 {s : String} {a : Addr} (h : parseIPv6 s = .ok a) : a.isValid = true := by
  unfold parseIPv6 at h
  dsimp only at h
  split_ifs at h
  · cases h; rfl
  · split at h
    · cases h
    · split_ifs at h
      · split at h
        · cases h
        · cases h; rfl
      · cases h; rfl

/-- `ParseAddr` returns only valid addresses. -/
theorem isValid_of_parseAddr {s : String} {a : Addr} (h : parseAddr s = .ok a) : a.isValid = true := by
  unfold parseAddr at h
  split at h
  · unfold parseIPv4 at h
    cases hl : parseIPv4Loop s s.toList true false 0 0 [] <;> rw [hl] at h <;> cases h
    rfl
  · exact isValid_of_parseIPv6 h
  · cases h
  · cases h

/-- The zero address prints as text that does not parse. -/
theorem parseAddr_invalidIP : parseAddr Addr.zero.string = .error ⟨"invalid IP", "unable to parse IP", ""⟩ := rfl

/-- No two addresses print alike, the zero address included. -/
theorem injective_string : Function.Injective Addr.string := fun a b h => by
  cases ha : a.isValid <;> cases hb : b.isValid
  · cases a <;> cases b <;> simp_all [Addr.isValid]
  · cases a with
    | zero => exact absurd (parseAddr_invalidIP.symm.trans (h ▸ parseAddr_string b hb)) (by simp)
    | v4 _ | v6 _ _ => cases ha
  · cases b with
    | zero => exact absurd (parseAddr_invalidIP.symm.trans (h ▸ parseAddr_string a ha)) (by simp)
    | v4 _ | v6 _ _ => cases hb
  · exact string_injective ha hb h

/-- **`ParseAddr` and `Addr.String` are a round trip, and Go's `net/netip` satisfies the laws
`Join`'s model assumes of its address library**: `ParseAddr` reads back what `Addr.String`
prints for every valid address, `ParseAddr` returns only valid addresses, the zero address is
not valid, and no two addresses print alike. -/
theorem goNetip_laws :
    (∀ a : Addr, a.isValid = true → parseAddr a.string = .ok a) ∧
      (∀ s a, parseAddr s = .ok a → a.isValid = true) ∧ Addr.zero.isValid = false ∧
      Function.Injective Addr.string :=
  ⟨parseAddr_string, fun _ _ => isValid_of_parseAddr, rfl, injective_string⟩

/-- `parseAddrError.Error`, with `strconv.Quote` as `quote`: the quoted input, the message,
and the quoted text where parsing stopped when there is one. -/
def ParseAddrError.error (quote : String → String) (e : ParseAddrError) : String :=
  if e.rest ≠ "" then "ParseAddr(" ++ quote e.input ++ "): " ++ e.msg ++ " (at " ++ quote e.rest ++ ")"
  else "ParseAddr(" ++ quote e.input ++ "): " ++ e.msg

/-- Go's `net/netip` as the library `Join` is written against. WireGuard keys (`wgtypes`)
are not modelled: their parser, its error texts and their printer stay parameters, and so
does `strconv.Quote`, which only error texts use. -/
def Netip.go {Key : Type} (parseKey : String → Option Key) (parseKeyError : String → String)
    (keyString : Key → String) (hkey : Function.Injective keyString) (quote : String → String) :
    Netip Addr Prefix Key where
  parseAddr s := (parseAddr s).toOption
  parseAddrError s := match parseAddr s with
    | .error e => e.error quote
    | .ok _ => ""
  addrIsValid := Addr.isValid
  zeroAddr := .zero
  addrString := Addr.string
  prefixAddr := Prefix.addr
  prefixIsValid := Prefix.isValid
  zeroPrefix := ⟨.zero, 0⟩
  prefixString := Prefix.string
  prefixContains := Prefix.contains
  addrPortString a port := (AddrPort.mk a port).string
  parseKey := parseKey
  parseKeyError := parseKeyError
  keyString := keyString
  parseAddr_isValid s a h := by
    dsimp only at h
    cases hp : parseAddr s with
    | error e => rw [hp] at h; cases h
    | ok a' =>
      rw [hp] at h
      cases h
      exact isValid_of_parseAddr hp
  zeroAddr_isValid := rfl
  addrString_injective := injective_string
  keyString_injective := hkey

end Library

end Webmesh.Net
