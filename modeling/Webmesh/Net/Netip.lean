import Mathlib.Algebra.Group.Int
import Mathlib.Logic.Function.Basic
import Mathlib.Tactic.Common

/-!
# The network values `Join` handles

`Join` parses and prints addresses, prefixes and WireGuard keys with Go's `net/netip` and
`wgtypes`. Those libraries are not part of this repository, so their types are parameters
and their functions the fields of `Netip`. Each type includes its Go zero value, which is
not valid. The laws are the facts of the libraries the code relies on: `ParseAddr` returns
valid addresses, and printing an address or a key loses nothing (each parses back to
itself), so comparing printed forms, as the code does, is comparing values.

The conversions Go performs inline (`int(int32)`, `uint16(int)`, `strconv.Itoa`) and
`net.JoinHostPort` are ordinary definitions.
-/

namespace Webmesh

/-- The parts of `net/netip` and `wgtypes` that `Join` uses. -/
structure Netip (Addr Prefix Key : Type) where
  /-- `netip.ParseAddr`; `none` is its error. -/
  parseAddr : String → Option Addr
  /-- The text of the error `netip.ParseAddr` returns for an input it refuses. -/
  parseAddrError : String → String
  /-- `netip.Addr.IsValid`. -/
  addrIsValid : Addr → Bool
  /-- `netip.Addr{}`. -/
  zeroAddr : Addr
  /-- `netip.Addr.String`. -/
  addrString : Addr → String
  /-- `netip.Prefix.Addr`. -/
  prefixAddr : Prefix → Addr
  /-- `netip.Prefix.IsValid`. -/
  prefixIsValid : Prefix → Bool
  /-- `netip.Prefix{}`. -/
  zeroPrefix : Prefix
  /-- `netip.Prefix.String`. -/
  prefixString : Prefix → String
  /-- `netip.Prefix.Contains`. -/
  prefixContains : Prefix → Addr → Bool
  /-- `netip.AddrPortFrom(addr, port).String()`. -/
  addrPortString : Addr → UInt16 → String
  /-- `wgtypes.ParseKey`; `none` is its error. -/
  parseKey : String → Option Key
  /-- The text of the error `wgtypes.ParseKey` returns for an input it refuses. -/
  parseKeyError : String → String
  /-- `wgtypes.Key.String`. -/
  keyString : Key → String
  /-- A parsed address is valid. -/
  parseAddr_isValid : ∀ s a, parseAddr s = some a → addrIsValid a = true
  /-- The zero address is not. -/
  zeroAddr_isValid : addrIsValid zeroAddr = false
  /-- Distinct addresses print differently. -/
  addrString_injective : Function.Injective addrString
  /-- Distinct keys print differently. -/
  keyString_injective : Function.Injective keyString

/-! ## Conversions Go performs inline -/

/-- Go's `uint16(x)` for an `int`: the low 16 bits. -/
def goUint16 (x : Int) : UInt16 := ⟨BitVec.ofInt 16 x⟩

/-- `strconv.Itoa`. -/
def itoa (x : Int) : String := toString x

/-- `net.JoinHostPort`: a host with a colon is bracketed. -/
def joinHostPort (host port : String) : String :=
  if host.toList.contains ':' then "[" ++ host ++ "]:" ++ port else host ++ ":" ++ port

/-- Addresses and keys that are their own printed form, and prefixes that are an address
with a length; a prefix contains the addresses its text starts. Only the empty text fails to
parse, with Go's errors for it. -/
def Netip.text : Netip String (String × Nat) String where
  parseAddr s := if s = "" then none else some s
  parseAddrError s := "ParseAddr(\"" ++ s ++ "\"): unable to parse IP"
  addrIsValid a := a ≠ ""
  zeroAddr := ""
  addrString a := a
  prefixAddr p := p.1
  prefixIsValid p := p.1 ≠ ""
  zeroPrefix := ("", 0)
  prefixString p := p.1 ++ "/" ++ toString p.2
  prefixContains p a := p.1.toList.isPrefixOf a.toList
  addrPortString a port := a ++ ":" ++ toString port
  parseKey s := if s = "" then none else some s
  parseKeyError _ := "wgtypes: incorrect key size: 0"
  keyString k := k
  parseAddr_isValid s a h := by
    dsimp only at h ⊢
    split at h <;> simp_all
  zeroAddr_isValid := rfl
  addrString_injective := fun _ _ h => h
  keyString_injective := fun _ _ h => h

end Webmesh
