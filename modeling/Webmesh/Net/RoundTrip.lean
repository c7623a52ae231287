import Webmesh.Go.Text
import Webmesh.Net.Addr

/-!
# `ParseAddr` reads back `Addr.String`

The mesh prints addresses with `Addr.String` and reads the text back with `netip.ParseAddr`
(`ListPeerPrivateRPCAddresses` prints a prefix and parses its address part). This module
proves that the two are inverse on every valid address (`parseAddr_string`), so that the
printed text names the address it came from (`string_injective`).

The proof has the two halves of the printer. An IPv4 address is four decimal octets with
dots; one lemma per step of `parseIPv4Loop` reads an octet's digits and the dot after it.
An IPv6 address is eight hexadecimal groups with colons, the longest run of zero groups
replaced by `::`; one lemma per step of `parseIPv6Loop` reads a group and what follows it
(the end, a colon, the `::`), an induction over the groups reads a whole run of them, and
the bytes of the groups around the zero run are the address's bytes once the `::` is
expanded again. An IPv4-mapped address goes through the IPv6 loop's embedded IPv4 branch,
and the zone is split off before either loop runs.
-/

namespace Webmesh.Net

open Go

/-! ## Decimal octets -/

section IPv4

theorem digitChar_decimal : ∀ d < 10,
    48 ≤ (Nat.digitChar d).toNat ∧ (Nat.digitChar d).toNat ≤ 57 ∧ (Nat.digitChar d).toNat - 48 = d := by
  decide

/-- One digit of a field. -/
theorem parseIPv4Loop_digit (input : String) {d : Nat} (hd : d < 10) (rest : List Char)
    (first prevDot : Bool) {val digLen : Nat} (fields : List Nat) (h0 : ¬(digLen = 1 ∧ val = 0))
    (h255 : val * 10 + d ≤ 255) :
    parseIPv4Loop input (Nat.digitChar d :: rest) first prevDot val digLen fields =
      parseIPv4Loop input rest false false (val * 10 + d) (digLen + 1) fields := by
  obtain ⟨h1, h2, h3⟩ := digitChar_decimal d hd
  rw [parseIPv4Loop, if_pos ⟨h1, h2⟩, if_neg h0, h3, if_neg (by omega)]

/-- The digits of an octet: the loop holds the octet as the field it reads. -/
theorem parseIPv4Loop_toDigits (input : String) (fields : List Nat) :
    ∀ n, n ≤ 255 → ∀ rest first prevDot,
      parseIPv4Loop input (Nat.toDigits 10 n ++ rest) first prevDot 0 0 fields =
        parseIPv4Loop input rest false false n (Nat.toDigits 10 n).length fields := by
  intro n
  induction n using Nat.strong_induction_on with
  | _ n ih =>
    intro hn rest first prevDot
    by_cases h10 : n < 10
    · rw [toDigits_lt_ten h10, List.singleton_append,
        parseIPv4Loop_digit input h10 rest first prevDot fields (by omega) (by omega),
        Nat.zero_mul, Nat.zero_add]
      rfl
    · rw [toDigits_ten (by omega), List.append_assoc, List.singleton_append,
        ih (n / 10) (by omega) (by omega),
        parseIPv4Loop_digit input (Nat.mod_lt n (by omega)) rest false false fields (by omega) (by omega),
        List.length_append, List.length_singleton, Nat.div_add_mod']

/-- A dot after a field that is not the fourth. -/
theorem parseIPv4Loop_dot (input : String) {rest : List Char} (hrest : rest ≠ []) (val digLen : Nat)
    {fields : List Nat} (hf : fields.length < 3) :
    parseIPv4Loop input ('.' :: rest) false false val digLen fields =
      parseIPv4Loop input rest false true 0 0 (fields ++ [val]) := by
  rw [parseIPv4Loop, if_neg (by decide), if_pos rfl, if_neg (by simpa using hrest), if_neg (by omega)]

/-- The characters of `string4`: the four octets in decimal, separated by dots. -/
theorem toList_string4 (bits : BitVec 32) : (Addr.string4 bits).toList =
    Nat.toDigits 10 (bits.toNat / 2 ^ 24 % 256) ++ '.' ::
      (Nat.toDigits 10 (bits.toNat / 2 ^ 16 % 256) ++ '.' ::
        (Nat.toDigits 10 (bits.toNat / 2 ^ 8 % 256) ++ '.' :: Nat.toDigits 10 (bits.toNat % 256))) := by
  rw [Addr.string4, toList_intercalate]
  simp [List.range_succ, List.intercalate]
  rfl

/-- The four bytes of a 32-bit word, most significant first. -/
def octets (x : Nat) : List Nat := [x / 2 ^ 24 % 256, x / 2 ^ 16 % 256, x / 2 ^ 8 % 256, x % 256]

theorem ofBytes_octets (x : Nat) : ofBytes (octets x) = x % 2 ^ 32 := by
  simp only [octets, ofBytes, List.foldl]
  omega

/-- The field loop of `parseIPv4Fields` reads the four octets of what `string4` prints. -/
theorem parseIPv4Loop_string4 (input : String) (bits : BitVec 32) :
    parseIPv4Loop input (Addr.string4 bits).toList true false 0 0 [] = .ok (octets bits.toNat) := by
  have h8 := Nat.mod_lt (bits.toNat / 2 ^ 24) (by decide : 0 < 256)
  rw [toList_string4, parseIPv4Loop_toDigits _ _ _ (by omega),
    parseIPv4Loop_dot _ (by simp) _ _ (by simp), parseIPv4Loop_toDigits _ _ _ (by omega),
    parseIPv4Loop_dot _ (by simp) _ _ (by simp), parseIPv4Loop_toDigits _ _ _ (by omega),
    parseIPv4Loop_dot _ (toDigits_ne_nil _ _) _ _ (by simp),
    ← List.append_nil (Nat.toDigits 10 (bits.toNat % 256)),
    parseIPv4Loop_toDigits _ _ _ (by omega)]
  rfl

/-- **`parseIPv4` reads back what `string4` prints.** -/
theorem parseIPv4_string4 (bits : BitVec 32) : parseIPv4 (Addr.string4 bits) = .ok (.v4 bits) := by
  rw [parseIPv4, parseIPv4Loop_string4]
  show Except.ok (Addr.v4 (BitVec.ofNat 32 (ofBytes _))) = _
  rw [ofBytes_octets, Nat.mod_eq_of_lt bits.isLt, BitVec.ofNat_toNat, BitVec.setWidth_eq]

end IPv4

/-! ## Hexadecimal groups -/

section Groups

theorem hexDigit_digitChar : ∀ d < 16, hexDigit (Nat.digitChar d) = some d := by
  decide

theorem hexDigit_of_mem_toDigits {b g : Nat} (hb : 1 < b) (hb16 : b ≤ 16) {c : Char}
    (h : c ∈ Nat.toDigits b g) : (hexDigit c).isSome = true := by
  obtain ⟨d, hd, rfl⟩ := mem_toDigits hb g h
  rw [hexDigit_digitChar d (by omega)]
  rfl

theorem hexDigit_not_special {c : Char} (h : (hexDigit c).isSome = true) :
    ¬(c = '.' ∨ c = ':' ∨ c = '%') := by
  rintro (rfl | rfl | rfl) <;> exact absurd h (by decide)

/-- The digits of a number, in a base up to sixteen and followed by a character that is not
a hexadecimal digit, are what the group loop takes as one group. -/
theorem takeWhile_toDigits_hex {b : Nat} (hb : 1 < b) (hb16 : b ≤ 16) (g : Nat) {R : List Char}
    (hR : ∀ c ∈ R.head?, (hexDigit c).isSome = false) :
    (Nat.toDigits b g ++ R).takeWhile (fun c => (hexDigit c).isSome) = Nat.toDigits b g := by
  rw [List.takeWhile_append_of_pos fun _ h => hexDigit_of_mem_toDigits hb hb16 h]
  cases R with
  | nil => exact List.append_nil _
  | cons c R => rw [List.takeWhile_cons_of_neg (by simpa using hR c rfl), List.append_nil]

theorem foldl_hexDigit_toDigits (g : Nat) :
    (Nat.toDigits 16 g).foldl (fun v c => v * 16 + (hexDigit c).getD 0) 0 = g :=
  foldl_toDigits (by decide) (fun d hd => by rw [hexDigit_digitChar d hd]; rfl) g

variable (input : String) {g : Nat} (hg : g < 2 ^ 16)
include hg

theorem length_toDigits_hex : (Nat.toDigits 16 g).length ≤ 4 :=
  length_toDigits_le (by decide) 4 g (by decide) hg

/-- What the group loop checks of a group's digits: it takes all of them, and there are one
to four. -/
theorem group_checks {R : List Char} (hR : ∀ c ∈ R.head?, (hexDigit c).isSome = false) :
    (Nat.toDigits 16 g ++ R).takeWhile (fun c => (hexDigit c).isSome) = Nat.toDigits 16 g ∧
      ¬4 < (Nat.toDigits 16 g).length ∧ (Nat.toDigits 16 g).length ≠ 0 :=
  ⟨takeWhile_toDigits_hex (by decide) le_rfl g hR, by have := length_toDigits_hex hg; omega,
    (List.length_pos.2 (toDigits_ne_nil 16 g)).ne'⟩

/-- The last group of a printed address. -/
theorem parseIPv6Loop_group_end (n : Nat) (ip : List Nat) (ell : Option Nat) :
    parseIPv6Loop input (n + 1) ip ell (Nat.toDigits 16 g) = .ok (ip ++ [g / 256, g % 256], ell, []) := by
  obtain ⟨hds, h4, h0⟩ := group_checks hg (R := []) (by simp)
  rw [List.append_nil] at hds
  rw [parseIPv6Loop]
  simp only [hds, h4, h0, List.drop_length, foldl_hexDigit_toDigits, List.head?_nil, reduceCtorEq, if_false]

/-- A group followed by a single colon and the next group. -/
theorem parseIPv6Loop_group_colon (n : Nat) (ip : List Nat) (ell : Option Nat) {c : Char} (hc : c ≠ ':')
    (rest : List Char) :
    parseIPv6Loop input (n + 1) ip ell (Nat.toDigits 16 g ++ ':' :: c :: rest) =
      parseIPv6Loop input n (ip ++ [g / 256, g % 256]) ell (c :: rest) := by
  obtain ⟨hds, h4, h0⟩ := group_checks hg (R := ':' :: c :: rest) (by simp; rfl)
  rw [parseIPv6Loop]
  simp only [hds, h4, h0, List.drop_left, List.head?_cons, Option.some.injEq, foldl_hexDigit_toDigits, hc,
    if_neg (show (':' : Char) ≠ '.' by decide), ne_eq, not_true_eq_false, if_false]

/-- A group followed by the address's only `::`. -/
theorem parseIPv6Loop_group_ellipsis (n : Nat) (ip : List Nat) (rest : List Char) :
    parseIPv6Loop input (n + 1) ip none (Nat.toDigits 16 g ++ ':' :: ':' :: rest) =
      if rest = [] then .ok (ip ++ [g / 256, g % 256], some (ip.length + 2), []) else
      parseIPv6Loop input n (ip ++ [g / 256, g % 256]) (some (ip.length + 2)) rest := by
  obtain ⟨hds, h4, h0⟩ := group_checks hg (R := ':' :: ':' :: rest) (by simp; rfl)
  rw [parseIPv6Loop]
  simp only [hds, h4, h0, List.drop_left, List.head?_cons, Option.some.injEq, foldl_hexDigit_toDigits,
    if_neg (show (':' : Char) ≠ '.' by decide), ne_eq, not_true_eq_false, if_false, if_true, Option.isSome_none,
    Bool.false_eq_true, List.length_append, List.length_cons, List.length_nil, Nat.zero_add, Nat.reduceAdd]

end Groups

/-! ## Runs of groups -/

section Runs

/-- The characters `string6` prints for the groups `gs`: each in hexadecimal, joined by
colons. -/
def hexJoin (gs : List Nat) : List Char := [':'].intercalate (gs.map (Nat.toDigits 16))

/-- The bytes the group loop appends for the groups `gs`. -/
def groupBytes (gs : List Nat) : List Nat := gs.flatMap fun g => [g / 256, g % 256]

theorem hexJoin_nil : hexJoin [] = [] := rfl

theorem toList_hexJoin (gs : List Nat) : (":".intercalate (gs.map Addr.hex)).toList = hexJoin gs := by
  rw [toList_intercalate, List.map_map]
  rfl

/-- Every group but the last, printed with its colon, then the last. -/
theorem hexJoin_concat (gs : List Nat) (g : Nat) :
    hexJoin (gs ++ [g]) = gs.flatMap (fun g => Nat.toDigits 16 g ++ [':']) ++ Nat.toDigits 16 g := by
  induction gs with
  | nil => simp [hexJoin, List.intercalate]
  | cons g' gs ih =>
    rw [List.cons_append, hexJoin, List.map_cons, intercalate_cons_of_ne_nil _ _ (by simp), ← hexJoin, ih,
      List.flatMap_cons, List.append_assoc, List.append_assoc, List.append_assoc]

theorem hexJoin_cons_cons (g g' : Nat) (gs : List Nat) :
    hexJoin (g :: g' :: gs) = Nat.toDigits 16 g ++ ':' :: hexJoin (g' :: gs) := by
  rw [hexJoin, List.map_cons, intercalate_cons_of_ne_nil _ _ (by simp), List.append_assoc]
  rfl

theorem mem_hexJoin {gs : List Nat} {c : Char} (h : c ∈ hexJoin gs) : (hexDigit c).isSome ∨ c = ':' := by
  induction gs with
  | nil => cases h
  | cons g gs ih =>
    cases gs with
    | nil =>
      exact Or.inl (hexDigit_of_mem_toDigits (by decide) le_rfl (by simpa [hexJoin, List.intercalate] using h))
    | cons g' gs =>
      rw [hexJoin_cons_cons] at h
      simp only [List.mem_append, List.mem_cons] at h
      rcases h with h | h | h
      · exact Or.inl (hexDigit_of_mem_toDigits (by decide) le_rfl h)
      · exact Or.inr h
      · exact ih h

theorem percent_not_mem_hexJoin (gs : List Nat) : '%' ∉ hexJoin gs := fun h => by
  rcases mem_hexJoin h with h | h <;> exact absurd h (by decide)

/-- Printed groups start with a digit. -/
theorem hexJoin_head (g : Nat) (gs : List Nat) (R : List Char) :
    ∃ d rest, hexJoin (g :: gs) ++ R = d :: rest ∧ (hexDigit d).isSome = true := by
  obtain ⟨d, ds, hds⟩ := List.exists_cons_of_ne_nil (toDigits_ne_nil 16 g)
  have hd := hexDigit_of_mem_toDigits (by decide) le_rfl (hds ▸ List.mem_cons_self d ds)
  cases gs with
  | nil => exact ⟨d, ds ++ R, by simp [hexJoin, List.intercalate, hds], hd⟩
  | cons g' gs => exact ⟨d, ds ++ ':' :: (hexJoin (g' :: gs) ++ R), by rw [hexJoin_cons_cons, hds]; simp, hd⟩

theorem hexJoin_ne_nil {gs : List Nat} (hne : gs ≠ []) : hexJoin gs ≠ [] := by
  obtain ⟨g, gs, rfl⟩ := List.exists_cons_of_ne_nil hne
  obtain ⟨d, rest, heq, -⟩ := hexJoin_head g gs []
  rw [← List.append_nil (hexJoin _), heq]
  exact List.cons_ne_nil d rest

theorem hexJoin_ne_ellipsis {gs : List Nat} (hne : gs ≠ []) (R rest : List Char) :
    hexJoin gs ++ R ≠ ':' :: ':' :: rest := by
  obtain ⟨g, gs, rfl⟩ := List.exists_cons_of_ne_nil hne
  obtain ⟨d, rest', heq, hd⟩ := hexJoin_head g gs R
  rw [heq]
  rintro ⟨⟩
  exact absurd hd (by decide)

@[simp] theorem length_groupBytes (gs : List Nat) : (groupBytes gs).length = 2 * gs.length := by
  induction gs with
  | nil => rfl
  | cons g gs ih => simp only [groupBytes, List.flatMap_cons] at ih ⊢; simp [ih]; omega

theorem groupBytes_nil : groupBytes [] = [] := rfl

theorem groupBytes_singleton (g : Nat) : groupBytes [g] = [g / 256, g % 256] := rfl

theorem groupBytes_append (xs ys : List Nat) : groupBytes (xs ++ ys) = groupBytes xs ++ groupBytes ys :=
  List.flatMap_append xs ys _

variable (input : String)

/-- The groups before the last one, each with its colon, read by the group loop. -/
theorem parseIPv6Loop_groups (gs : List Nat) (hgs : ∀ g ∈ gs, g < 2 ^ 16) (n : Nat) (ip : List Nat)
    (ell : Option Nat) {c : Char} (hc : (hexDigit c).isSome = true) (rest : List Char) :
    parseIPv6Loop input (gs.length + n) ip ell (gs.flatMap (fun g => Nat.toDigits 16 g ++ [':']) ++ c :: rest) =
      parseIPv6Loop input n (ip ++ groupBytes gs) ell (c :: rest) := by
  induction gs generalizing n ip with
  | nil => rw [List.length_nil, Nat.zero_add, List.flatMap_nil, List.nil_append, groupBytes_nil, List.append_nil]
  | cons g gs ih =>
    obtain ⟨d, rest', hd, hnext⟩ : ∃ d rest', (hexDigit d).isSome = true ∧
        gs.flatMap (fun g => Nat.toDigits 16 g ++ [':']) ++ c :: rest = d :: rest' := by
      cases gs with
      | nil => exact ⟨c, rest, hc, rfl⟩
      | cons g' gs =>
        obtain ⟨d, ds, hds⟩ := List.exists_cons_of_ne_nil (toDigits_ne_nil 16 g')
        refine ⟨d, ds ++ ':' :: (gs.flatMap (fun g => Nat.toDigits 16 g ++ [':']) ++ c :: rest),
          hexDigit_of_mem_toDigits (by decide) le_rfl (hds ▸ List.mem_cons_self d ds), ?_⟩
        rw [List.flatMap_cons, hds]
        simp only [List.cons_append, List.append_assoc, List.singleton_append, List.nil_append]
    have hd' : d ≠ ':' := fun h => by subst h; cases hd
    rw [List.flatMap_cons, List.append_assoc, List.append_assoc, List.singleton_append, hnext,
      List.length_cons, show gs.length + 1 + n = gs.length + n + 1 by omega,
      parseIPv6Loop_group_colon input (hgs g (List.mem_cons_self g gs)) _ ip ell hd', ← hnext,
      ih (fun g hg => hgs g (List.mem_cons_of_mem _ hg))]
    simp only [groupBytes, List.flatMap_cons, List.append_assoc]

/-- All the groups of a printed address, to the end of the text. -/
theorem parseIPv6Loop_groups_end (gs : List Nat) (hgs : ∀ g ∈ gs, g < 2 ^ 16) (hne : gs ≠ [])
    (n : Nat) (ip : List Nat) (ell : Option Nat) :
    parseIPv6Loop input (gs.length + n) ip ell (hexJoin gs) = .ok (ip ++ groupBytes gs, ell, []) := by
  obtain ⟨init, last, h⟩ := (List.eq_nil_or_concat gs).resolve_left hne
  rw [List.concat_eq_append] at h
  subst h
  have hlast := hgs last (List.mem_append_right _ (List.mem_singleton_self _))
  obtain ⟨c, ds, hds⟩ := List.exists_cons_of_ne_nil (toDigits_ne_nil 16 last)
  rw [hexJoin_concat, hds, List.length_append, List.length_singleton,
    show init.length + 1 + n = init.length + (n + 1) by omega,
    parseIPv6Loop_groups input init (fun g hg => hgs g (List.mem_append_left _ hg)) _ ip ell
      (hexDigit_of_mem_toDigits (by decide) le_rfl (hds ▸ List.mem_cons_self c ds)),
    ← hds, parseIPv6Loop_group_end input hlast, groupBytes_append, List.append_assoc]
  rfl

/-- All the groups before the `::`. -/
theorem parseIPv6Loop_groups_ellipsis (gs : List Nat) (hgs : ∀ g ∈ gs, g < 2 ^ 16) (hne : gs ≠ [])
    (n : Nat) (ip : List Nat) (rest : List Char) :
    parseIPv6Loop input (gs.length + n) ip none (hexJoin gs ++ ':' :: ':' :: rest) =
      if rest = [] then .ok (ip ++ groupBytes gs, some (ip ++ groupBytes gs).length, []) else
      parseIPv6Loop input n (ip ++ groupBytes gs) (some (ip ++ groupBytes gs).length) rest := by
  obtain ⟨init, last, h⟩ := (List.eq_nil_or_concat gs).resolve_left hne
  rw [List.concat_eq_append] at h
  subst h
  have hlast := hgs last (List.mem_append_right _ (List.mem_singleton_self _))
  obtain ⟨c, ds, hds⟩ := List.exists_cons_of_ne_nil (toDigits_ne_nil 16 last)
  rw [hexJoin_concat, List.append_assoc, hds, List.cons_append, List.length_append,
    List.length_singleton, show init.length + 1 + n = init.length + (n + 1) by omega,
    parseIPv6Loop_groups input init (fun g hg => hgs g (List.mem_append_left _ hg)) _ ip none
      (hexDigit_of_mem_toDigits (by decide) le_rfl (hds ▸ List.mem_cons_self c ds)),
    ← List.cons_append, ← hds, parseIPv6Loop_group_ellipsis input hlast, groupBytes_append,
    groupBytes_singleton, ← List.append_assoc, List.length_append _ [_, _]]
  rfl

/-- What follows the `::`: nothing, or the remaining groups to the end. -/
theorem parseIPv6Loop_after_ellipsis (gs : List Nat) (hgs : ∀ g ∈ gs, g < 2 ^ 16) (n : Nat)
    (ip : List Nat) (k : Nat) :
    (if hexJoin gs = [] then .ok (ip, some k, []) else
      parseIPv6Loop input (gs.length + n) ip (some k) (hexJoin gs)) = .ok (ip ++ groupBytes gs, some k, []) := by
  cases gs with
  | nil => rw [if_pos hexJoin_nil, groupBytes_nil, List.append_nil]
  | cons g gs =>
    rw [if_neg (hexJoin_ne_nil (List.cons_ne_nil g gs)),
      parseIPv6Loop_groups_end input _ hgs (List.cons_ne_nil g gs)]

end Runs

/-! ## The zero run and the bytes -/

section ZeroRun

/-- The zero run `appendTo6` picks is one: two or more groups, all of them zero. -/
theorem zeroRun_spec (g : List Nat) {s e : Nat} (h : Addr.zeroRun g = some (s, e)) :
    s + 2 ≤ e ∧ ((g.drop s).takeWhile (· = 0)).length = e - s := by
  let P : Option (Nat × Nat) → Prop := fun r => ∀ s e, r = some (s, e) →
    s + 2 ≤ e ∧ ((g.drop s).takeWhile (· = 0)).length = e - s
  have step : ∀ (is : List Nat) best, P best → P (is.foldl (fun best i =>
      let l := ((g.drop i).takeWhile (· = 0)).length
      if 2 ≤ l ∧ (best.map fun r => r.2 - r.1).getD 0 < l then some (i, i + l) else best) best) := by
    intro is
    induction is with
    | nil => exact fun _ h => h
    | cons i is ih =>
      intro best hbest
      refine ih _ ?_
      dsimp only
      split_ifs with hl
      · intro s e hse
        cases hse
        omega
      · exact hbest
  exact step _ none (fun _ _ h => by cases h) s e h

theorem takeWhile_eq_replicate {l : List Nat} :
    l.takeWhile (· = 0) = List.replicate (l.takeWhile (· = 0)).length 0 :=
  List.eq_replicate_iff.2 ⟨rfl, fun b hb => by simpa using List.mem_takeWhile_imp hb⟩

/-- The groups around a zero run: those before it, the run, those after it. -/
theorem eq_zeroRun {g : List Nat} {s e : Nat} (h : Addr.zeroRun g = some (s, e)) :
    g = g.take s ++ List.replicate (e - s) 0 ++ g.drop e := by
  obtain ⟨hse, hlen⟩ := zeroRun_spec g h
  have hpre := List.prefix_iff_eq_take.1 (List.takeWhile_prefix (fun x : Nat => decide (x = 0)) (l := g.drop s))
  rw [hlen] at hpre
  have hdrop : g.drop e = (g.drop s).drop (e - s) := by rw [List.drop_drop]; congr 1; omega
  rw [List.append_assoc, ← hlen, ← takeWhile_eq_replicate, hpre, hdrop, List.take_append_drop,
    List.take_append_drop]

theorem zeroRun_le (g : List Nat) {s e : Nat} (h : Addr.zeroRun g = some (s, e)) : e ≤ g.length := by
  obtain ⟨hse, hlen⟩ := zeroRun_spec g h
  have := (List.takeWhile_prefix (fun x : Nat => decide (x = 0)) (l := g.drop s)).length_le
  rw [hlen, List.length_drop] at this
  omega

theorem groupBytes_replicate (m : Nat) : groupBytes (List.replicate m 0) = List.replicate (2 * m) 0 := by
  induction m with
  | zero => rfl
  | succ m ih =>
    rw [List.replicate_succ, groupBytes, List.flatMap_cons, ← groupBytes, ih,
      show 2 * (m + 1) = 2 * m + 1 + 1 by omega, List.replicate_succ, List.replicate_succ,
      Nat.zero_div, Nat.zero_mod]
    rfl

/-- The bytes of the groups around a zero run. -/
theorem groupBytes_eq_zeroRun {g : List Nat} {s e : Nat} (h : Addr.zeroRun g = some (s, e)) :
    groupBytes g = groupBytes (g.take s) ++ List.replicate (2 * (e - s)) 0 ++ groupBytes (g.drop e) := by
  conv_lhs => rw [eq_zeroRun h]
  rw [groupBytes_append, groupBytes_append, groupBytes_replicate]

theorem ofBytes_replicate_append (n : Nat) (l : List Nat) : ofBytes (List.replicate n 0 ++ l) = ofBytes l := by
  induction n with
  | zero => rfl
  | succ n ih =>
    rw [ofBytes, List.replicate_succ, List.cons_append, List.foldl_cons, Nat.zero_mul, Nat.zero_add]
    exact ih

theorem foldl_groupBytes (gs : List Nat) (hgs : ∀ g ∈ gs, g < 2 ^ 16) (a : Nat) :
    (groupBytes gs).foldl (fun n b => n * 256 + b) a = gs.foldl (fun n g => n * 2 ^ 16 + g) a := by
  induction gs generalizing a with
  | nil => rw [groupBytes_nil, List.foldl_nil, List.foldl_nil]
  | cons g gs ih =>
    have hg := hgs g (List.mem_cons_self g gs)
    rw [groupBytes, List.flatMap_cons, ← groupBytes, List.foldl_append,
      ih (fun g hg => hgs g (List.mem_cons_of_mem _ hg)), List.foldl_cons]
    show List.foldl _ ((a * 256 + g / 256) * 256 + g % 256) gs = List.foldl _ (a * 2 ^ 16 + g) gs
    rw [show (a * 256 + g / 256) * 256 + g % 256 = a * 2 ^ 16 + g by omega]

theorem length_groups (bits : BitVec 128) : (Addr.groups bits).length = 8 := by
  simp [Addr.groups]

theorem groups_lt (bits : BitVec 128) : ∀ g ∈ Addr.groups bits, g < 2 ^ 16 := by
  simp only [Addr.groups, List.mem_map]
  rintro _ ⟨i, -, rfl⟩
  exact Nat.mod_lt _ (by decide)

/-- Reading `k` base-`B` digits of `x`, the most significant first, and folding them back
gives `x` modulo `B ^ k`. -/
theorem foldl_digits (B : Nat) : ∀ (k x : Nat),
    ((List.range k).map fun i => x / B ^ (k - 1 - i) % B).foldl (fun n g => n * B + g) 0 = x % B ^ k
  | 0, x => by simp [Nat.mod_one]
  | k + 1, x => by
    have hmap : ((List.range k).map fun i => x / B ^ (k + 1 - 1 - i) % B) =
        (List.range k).map fun i => x / B / B ^ (k - 1 - i) % B := by
      refine List.map_congr_left fun i hi => ?_
      rw [List.mem_range] at hi
      rw [Nat.div_div_eq_div_mul, ← pow_succ', show k - 1 - i + 1 = k + 1 - 1 - i by omega]
    rw [List.range_succ, List.map_append, hmap, List.foldl_append, foldl_digits B k (x / B)]
    simp only [List.map_cons, List.map_nil, Nat.add_sub_cancel, Nat.sub_self, pow_zero, Nat.div_one,
      List.foldl_cons, List.foldl_nil]
    rw [pow_succ', Nat.mod_mul, Nat.add_comm, Nat.mul_comm]

/-- The bytes of the eight groups are the address. -/
theorem ofBytes_groupBytes_groups (bits : BitVec 128) :
    ofBytes (groupBytes (Addr.groups bits)) = bits.toNat := by
  rw [ofBytes, foldl_groupBytes _ (groups_lt bits)]
  have h := foldl_digits (2 ^ 16) 8 bits.toNat
  simp only [← pow_mul] at h
  rw [Addr.groups, h, Nat.mod_eq_of_lt bits.isLt]

end ZeroRun

/-! ## `parseIPv6` around its loop -/

section Outcomes

theorem toList_mk (l : List Char) : (⟨l⟩ : String).toList = l := rfl

theorem toList_append (a b : String) : (a ++ b).toList = a.toList ++ b.toList := rfl

/-- The characters of the zone part `Addr.String` appends. -/
def zoneText (zone : String) : List Char := if zone = "" then [] else '%' :: zone.toList

theorem append_zonePart (t zone : String) :
    t ++ (if zone = "" then "" else "%" ++ zone) = ⟨t.toList ++ zoneText zone⟩ := by
  unfold zoneText
  split_ifs <;> rfl

theorem takeWhile_zone {text : List Char} (htext : '%' ∉ text) (zone : String) :
    (text ++ zoneText zone).takeWhile (· ≠ '%') = text := by
  rw [List.takeWhile_append_of_pos (fun c hc => by simpa using fun h : c = '%' => htext (h ▸ hc)), zoneText]
  split_ifs <;> simp

theorem dropWhile_zone {text : List Char} (htext : '%' ∉ text) (zone : String) :
    (text ++ zoneText zone).dropWhile (· ≠ '%') = zoneText zone := by
  rw [List.dropWhile_append_of_pos (fun c hc => by simpa using fun h : c = '%' => htext (h ▸ hc)), zoneText]
  split_ifs <;> simp

theorem zoneText_check (zone : String) : ¬(zoneText zone ≠ [] ∧ (zoneText zone).drop 1 = []) := by
  unfold zoneText
  split_ifs with h
  · simp
  · exact fun hz => h (String.ext hz.2)

theorem zoneText_zone (zone : String) : (⟨(zoneText zone).drop 1⟩ : String) = zone := by
  unfold zoneText
  split_ifs with h
  · exact h.symm
  · rfl

theorem leading_of_ne (text : List Char) (h : ∀ rest, text ≠ ':' :: ':' :: rest) :
    (match text with
      | ':' :: ':' :: s => ((some 0 : Option Nat), s)
      | s => (none, s)) = (none, text) := by
  split
  · exact absurd rfl (h _)
  · rfl

variable {text : List Char} (htext : '%' ∉ text) (zone : String) {ip : List Nat}
include htext

/-- Eight groups and no `::`. -/
theorem parseIPv6_full (hlead : ∀ rest, text ≠ ':' :: ':' :: rest)
    (hloop : parseIPv6Loop ⟨text ++ zoneText zone⟩ 8 [] none text = .ok (ip, none, []))
    (hlen : ip.length = 16) :
    parseIPv6 ⟨text ++ zoneText zone⟩ = .ok (.v6 (BitVec.ofNat 128 (ofBytes ip)) zone) := by
  rw [parseIPv6]
  simp only [toList_mk, takeWhile_zone htext, dropWhile_zone htext, leading_of_ne text hlead]
  rw [if_neg (zoneText_check zone), if_neg (by simp), hloop]
  simp only [zoneText_zone, if_neg (not_not.2 rfl), if_neg (show ¬ip.length < 16 by omega)]
  rfl

/-- Groups with a `::` among or after them. -/
theorem parseIPv6_elided (hlead : ∀ rest, text ≠ ':' :: ':' :: rest) {e : Nat}
    (hloop : parseIPv6Loop ⟨text ++ zoneText zone⟩ 8 [] none text = .ok (ip, some e, []))
    (hlen : ip.length < 16) :
    parseIPv6 ⟨text ++ zoneText zone⟩ =
      .ok (.v6 (BitVec.ofNat 128 (ofBytes (ip.take e ++ List.replicate (16 - ip.length) 0 ++ ip.drop e))) zone) := by
  rw [parseIPv6]
  simp only [toList_mk, takeWhile_zone htext, dropWhile_zone htext, leading_of_ne text hlead]
  rw [if_neg (zoneText_check zone), if_neg (by simp), hloop]
  simp only [zoneText_zone, if_neg (not_not.2 rfl), if_pos hlen]

/-- A leading `::` and groups after it. -/
theorem parseIPv6_leading (hne : text ≠ [])
    (hloop : parseIPv6Loop ⟨':' :: ':' :: text ++ zoneText zone⟩ 8 [] (some 0) text = .ok (ip, some 0, []))
    (hlen : ip.length < 16) :
    parseIPv6 ⟨':' :: ':' :: text ++ zoneText zone⟩ =
      .ok (.v6 (BitVec.ofNat 128 (ofBytes (List.replicate (16 - ip.length) 0 ++ ip))) zone) := by
  have htext' : '%' ∉ ':' :: ':' :: text := by simpa using htext
  rw [parseIPv6]
  simp only [toList_mk, takeWhile_zone htext', dropWhile_zone htext']
  rw [if_neg (zoneText_check zone), if_neg (by simpa using hne), hloop]
  simp only [zoneText_zone, if_neg (not_not.2 rfl), if_pos hlen, List.take_zero, List.drop_zero,
    List.nil_append]

omit htext in
/-- The unspecified address prints as `::` and reads back. -/
theorem parseIPv6_zero : parseIPv6 ⟨':' :: ':' :: zoneText zone⟩ = .ok (.v6 0 zone) := by
  have h : ([':', ':'] ++ zoneText zone).takeWhile (· ≠ '%') = [':', ':'] := takeWhile_zone (by decide) zone
  have h' : ([':', ':'] ++ zoneText zone).dropWhile (· ≠ '%') = zoneText zone := dropWhile_zone (by decide) zone
  rw [parseIPv6]
  simp only [toList_mk, List.cons_append, List.nil_append] at h h' ⊢
  simp only [h, h']
  rw [if_neg (zoneText_check zone), if_pos ⟨trivial, trivial⟩, zoneText_zone]

end Outcomes

/-! ## `string6` read back -/

section String6

theorem toList_string6_none {bits : BitVec 128} (h : Addr.zeroRun (Addr.groups bits) = none) :
    (Addr.string6 bits).toList = hexJoin (Addr.groups bits) := by
  unfold Addr.string6
  dsimp only
  rw [h]
  exact toList_hexJoin _

theorem toList_string6_some {bits : BitVec 128} {s e : Nat} (h : Addr.zeroRun (Addr.groups bits) = some (s, e)) :
    (Addr.string6 bits).toList =
      hexJoin ((Addr.groups bits).take s) ++ ':' :: ':' :: hexJoin ((Addr.groups bits).drop e) := by
  unfold Addr.string6
  dsimp only
  rw [h]
  simp only [toList_append, toList_hexJoin]
  rw [List.append_assoc]
  rfl

variable (bits : BitVec 128) (zone : String)

/-- Eight groups, none of them elided. -/
theorem parseIPv6_string6_none :
    parseIPv6 ⟨hexJoin (Addr.groups bits) ++ zoneText zone⟩ = .ok (.v6 bits zone) := by
  have hne : Addr.groups bits ≠ [] := List.ne_nil_of_length_pos (by rw [length_groups]; decide)
  have hloop := parseIPv6Loop_groups_end ⟨hexJoin (Addr.groups bits) ++ zoneText zone⟩ _ (groups_lt bits)
    hne 0 [] none
  rw [length_groups, List.nil_append] at hloop
  rw [parseIPv6_full (percent_not_mem_hexJoin _) zone (fun rest => by
      simpa using hexJoin_ne_ellipsis hne [] rest) hloop (by simp [length_groups]),
    ofBytes_groupBytes_groups, BitVec.ofNat_toNat, BitVec.setWidth_eq]

/-- A zero run at the start, ending before the last group. -/
theorem parseIPv6_string6_leading {e : Nat} (hz : Addr.zeroRun (Addr.groups bits) = some (0, e))
    (he : e < 8) :
    parseIPv6 ⟨':' :: ':' :: hexJoin ((Addr.groups bits).drop e) ++ zoneText zone⟩ = .ok (.v6 bits zone) := by
  have hse := (zeroRun_spec _ hz).1
  have hdrop : ((Addr.groups bits).drop e).length = 8 - e := by simp [length_groups]
  have hne : (Addr.groups bits).drop e ≠ [] := List.ne_nil_of_length_pos (by omega)
  have hloop := parseIPv6Loop_groups_end ⟨':' :: ':' :: hexJoin ((Addr.groups bits).drop e) ++ zoneText zone⟩
    _ (fun g hg => groups_lt bits g (List.mem_of_mem_drop hg)) hne e [] (some 0)
  rw [hdrop, show 8 - e + e = 8 by omega, List.nil_append] at hloop
  have hbytes := groupBytes_eq_zeroRun hz
  rw [List.take_zero, groupBytes_nil, List.nil_append, Nat.sub_zero] at hbytes
  rw [parseIPv6_leading (percent_not_mem_hexJoin _) zone (hexJoin_ne_nil hne) hloop
      (by rw [length_groupBytes, hdrop]; omega), length_groupBytes, hdrop,
    show 16 - 2 * (8 - e) = 2 * e by omega, ← hbytes, ofBytes_groupBytes_groups, BitVec.ofNat_toNat,
    BitVec.setWidth_eq]

/-- Eight zero groups. -/
theorem parseIPv6_string6_zero (hz : Addr.zeroRun (Addr.groups bits) = some (0, 8)) :
    parseIPv6 ⟨':' :: ':' :: hexJoin ((Addr.groups bits).drop 8) ++ zoneText zone⟩ = .ok (.v6 bits zone) := by
  have hnil : (Addr.groups bits).drop 8 = [] := List.drop_eq_nil_of_le (by rw [length_groups])
  have hbytes := groupBytes_eq_zeroRun hz
  rw [hnil, List.take_zero, groupBytes_nil, List.append_nil, List.nil_append] at hbytes
  have hzero : bits = 0 := by
    apply BitVec.eq_of_toNat_eq
    rw [← ofBytes_groupBytes_groups, hbytes, ← List.append_nil (List.replicate _ 0), ofBytes_replicate_append]
    rfl
  rw [hnil, hzero]
  exact parseIPv6_zero zone

/-- Groups, then the zero run. -/
theorem parseIPv6_string6_elided {s e : Nat} (hz : Addr.zeroRun (Addr.groups bits) = some (s, e))
    (hs : 0 < s) :
    parseIPv6 ⟨hexJoin ((Addr.groups bits).take s) ++ ':' :: ':' :: hexJoin ((Addr.groups bits).drop e) ++
      zoneText zone⟩ = .ok (.v6 bits zone) := by
  have hse := (zeroRun_spec _ hz).1
  have he := length_groups bits ▸ zeroRun_le _ hz
  have htake : ((Addr.groups bits).take s).length = s := by simp [length_groups]; omega
  have hdrop : ((Addr.groups bits).drop e).length = 8 - e := by simp [length_groups]
  have hA : (Addr.groups bits).take s ≠ [] := List.ne_nil_of_length_pos (by omega)
  have htext : '%' ∉ hexJoin ((Addr.groups bits).take s) ++ ':' :: ':' :: hexJoin ((Addr.groups bits).drop e) := by
    simp only [List.mem_append, List.mem_cons, not_or]
    exact ⟨percent_not_mem_hexJoin _, by decide, by decide, percent_not_mem_hexJoin _⟩
  have hloop : parseIPv6Loop ⟨hexJoin ((Addr.groups bits).take s) ++ ':' :: ':' ::
      hexJoin ((Addr.groups bits).drop e) ++ zoneText zone⟩ 8 [] none
      (hexJoin ((Addr.groups bits).take s) ++ ':' :: ':' :: hexJoin ((Addr.groups bits).drop e)) =
      .ok (groupBytes ((Addr.groups bits).take s) ++ groupBytes ((Addr.groups bits).drop e), some (2 * s), []) := by
    have h8 : 8 = ((Addr.groups bits).take s).length + (((Addr.groups bits).drop e).length + (e - s)) := by
      rw [htake, hdrop]
      omega
    rw [h8, parseIPv6Loop_groups_ellipsis _ _ (fun g hg => groups_lt bits g (List.mem_of_mem_take hg)) hA _ [] _,
      parseIPv6Loop_after_ellipsis _ _ (fun g hg => groups_lt bits g (List.mem_of_mem_drop hg)),
      List.nil_append, length_groupBytes, htake]
  rw [parseIPv6_elided htext zone (hexJoin_ne_ellipsis hA _) hloop
      (by rw [List.length_append, length_groupBytes, length_groupBytes, htake, hdrop]; omega),
    List.take_left' (by rw [length_groupBytes, htake]), List.drop_left' (by rw [length_groupBytes, htake]),
    List.length_append, length_groupBytes, length_groupBytes, htake, hdrop,
    show 16 - (2 * s + 2 * (8 - e)) = 2 * (e - s) by omega, ← groupBytes_eq_zeroRun hz,
    ofBytes_groupBytes_groups, BitVec.ofNat_toNat, BitVec.setWidth_eq]

/-- **`parseIPv6` reads back what `string6` prints, with any zone.** -/
theorem parseIPv6_string6 :
    parseIPv6 ⟨(Addr.string6 bits).toList ++ zoneText zone⟩ = .ok (.v6 bits zone) := by
  cases hz : Addr.zeroRun (Addr.groups bits) with
  | none => rw [toList_string6_none hz]; exact parseIPv6_string6_none bits zone
  | some r =>
    obtain ⟨s, e⟩ := r
    rw [toList_string6_some hz]
    rcases Nat.eq_zero_or_pos s with rfl | hs
    · rw [List.take_zero, hexJoin_nil, List.nil_append]
      rcases Nat.lt_or_ge e 8 with he | he
      · exact parseIPv6_string6_leading bits zone hz he
      · obtain rfl : e = 8 := le_antisymm (length_groups bits ▸ zeroRun_le _ hz) he
        exact parseIPv6_string6_zero bits zone hz
    · exact parseIPv6_string6_elided bits zone hz hs

end String6

/-! ## The embedded IPv4 address -/

section Mapped

/-- A dotted quad where the last two groups would stand: the group loop hands it to the IPv4
field loop. -/
theorem parseIPv6Loop_string4 (input : String) (n : Nat) (ip : List Nat) (ell : Option Nat)
    (bits : BitVec 32) (hell : ¬(ell.isNone ∧ ip.length ≠ 12)) (hfit : ip.length + 4 ≤ 16) :
    parseIPv6Loop input (n + 1) ip ell (Addr.string4 bits).toList = .ok (ip ++ octets bits.toNat, ell, []) := by
  have h8 := Nat.mod_lt (bits.toNat / 2 ^ 24) (by decide : 0 < 256)
  have hds : (Addr.string4 bits).toList.takeWhile (fun c => (hexDigit c).isSome) =
      Nat.toDigits 10 (bits.toNat / 2 ^ 24 % 256) := by
    rw [toList_string4]
    exact takeWhile_toDigits_hex (by decide) (by decide) _ (by simp; rfl)
  have hdot : ((Addr.string4 bits).toList.drop (Nat.toDigits 10 (bits.toNat / 2 ^ 24 % 256)).length).head? =
      some '.' := by
    rw [toList_string4, List.drop_left]
    rfl
  have hlen := length_toDigits_le (b := 10) (by decide) 4 (bits.toNat / 2 ^ 24 % 256) (by decide) (by omega)
  rw [parseIPv6Loop]
  simp only [hds, hdot]
  rw [if_neg (by omega), if_neg (List.length_pos.2 (toDigits_ne_nil _ _)).ne', if_pos trivial, if_neg hell,
    if_neg (by omega), parseIPv4Loop_string4]
  rfl

theorem mem_string4 (bits : BitVec 32) {c : Char} (h : c ∈ (Addr.string4 bits).toList) :
    (hexDigit c).isSome ∨ c = '.' := by
  rw [toList_string4] at h
  simp only [List.mem_append, List.mem_cons] at h
  have hx : ∀ n, c ∈ Nat.toDigits 10 n → (hexDigit c).isSome ∨ c = '.' := fun n hn =>
    Or.inl (hexDigit_of_mem_toDigits (by decide) (by decide) hn)
  rcases h with h | h | h | h | h | h | h <;> first | exact hx _ h | exact Or.inr h

/-- **An IPv4-mapped address reads back from `::ffff:` and its dotted quad.** -/
theorem parseIPv6_mapped (bits : BitVec 128) (zone : String) (hm : bits.toNat / 2 ^ 32 = 0xffff) :
    parseIPv6 ⟨("::ffff:" ++ Addr.string4 (BitVec.ofNat 32 bits.toNat)).toList ++ zoneText zone⟩ =
      .ok (.v6 bits zone) := by
  have htext : ("::ffff:" ++ Addr.string4 (BitVec.ofNat 32 bits.toNat)).toList =
      ':' :: ':' :: (Nat.toDigits 16 0xffff ++ ':' :: (Addr.string4 (BitVec.ofNat 32 bits.toNat)).toList) := by
    rw [toList_append]
    rfl
  have hpct : '%' ∉ Nat.toDigits 16 0xffff ++ ':' :: (Addr.string4 (BitVec.ofNat 32 bits.toNat)).toList := by
    simp only [List.mem_append, List.mem_cons, not_or]
    refine ⟨by decide, by decide, fun h => ?_⟩
    rcases mem_string4 _ h with h | h <;> exact absurd h (by decide)
  obtain ⟨c, rest, hc, hc'⟩ : ∃ c rest, (Addr.string4 (BitVec.ofNat 32 bits.toNat)).toList = c :: rest ∧
      c ≠ ':' := by
    obtain ⟨c, rest, hc⟩ := List.exists_cons_of_ne_nil (by
      rw [toList_string4]
      exact List.append_ne_nil_of_left_ne_nil (toDigits_ne_nil 10 _) _ :
        (Addr.string4 (BitVec.ofNat 32 bits.toNat)).toList ≠ [])
    refine ⟨c, rest, hc, fun h => ?_⟩
    rcases mem_string4 _ (hc ▸ List.mem_cons_self c rest) with h' | h' <;> subst h <;> exact absurd h' (by decide)
  have hloop : parseIPv6Loop ⟨':' :: ':' :: (Nat.toDigits 16 0xffff ++ ':' ::
      (Addr.string4 (BitVec.ofNat 32 bits.toNat)).toList) ++ zoneText zone⟩ 8 [] (some 0)
      (Nat.toDigits 16 0xffff ++ ':' :: (Addr.string4 (BitVec.ofNat 32 bits.toNat)).toList) =
      .ok ([0xff, 0xff] ++ octets (BitVec.ofNat 32 bits.toNat).toNat, some 0, []) := by
    rw [hc, parseIPv6Loop_group_colon _ (by decide) 7 [] (some 0) hc', ← hc]
    exact parseIPv6Loop_string4 _ 6 _ _ _ (by decide) (by decide)
  rw [htext, parseIPv6_leading hpct zone (by simp) hloop (by simp [octets]), ofBytes_replicate_append]
  congr
  apply BitVec.eq_of_toNat_eq
  rw [BitVec.toNat_ofNat]
  simp only [ofBytes, octets, List.foldl, BitVec.toNat_ofNat]
  omega

end Mapped

/-! ## `ParseAddr` of `Addr.String` -/

section ParseAddr

/-- Text of digits and colons, with a colon: `ParseAddr` takes it for IPv6. -/
theorem find?_special {l : List Char} (hl : ∀ c ∈ l, (hexDigit c).isSome ∨ c = ':') (hcolon : ':' ∈ l)
    (r : List Char) : (l ++ r).find? (fun c => c = '.' ∨ c = ':' ∨ c = '%') = some ':' := by
  cases hc : l.find? (fun c => c = '.' ∨ c = ':' ∨ c = '%') with
  | none => exact absurd (List.find?_eq_none.1 hc ':' hcolon) (by decide)
  | some c =>
    have hp := List.find?_some hc
    rcases hl c (List.mem_of_find?_eq_some hc) with hx | rfl
    · exact absurd (by simpa using hp) (hexDigit_not_special hx)
    · rw [List.find?_append, hc]
      rfl

theorem find?_string4 (bits : BitVec 32) :
    (Addr.string4 bits).toList.find? (fun c => c = '.' ∨ c = ':' ∨ c = '%') = some '.' := by
  rw [toList_string4, List.find?_append, List.find?_eq_none.2 fun c hc => by
    simpa using hexDigit_not_special (hexDigit_of_mem_toDigits (by decide) (by decide) hc)]
  rfl

theorem mem_string6 (bits : BitVec 128) {c : Char} (h : c ∈ (Addr.string6 bits).toList) :
    (hexDigit c).isSome ∨ c = ':' := by
  cases hz : Addr.zeroRun (Addr.groups bits) with
  | none =>
    rw [toList_string6_none hz] at h
    exact mem_hexJoin h
  | some r =>
    rw [toList_string6_some hz] at h
    simp only [List.mem_append, List.mem_cons] at h
    rcases h with h | h | h | h
    · exact mem_hexJoin h
    · exact Or.inr h
    · exact Or.inr h
    · exact mem_hexJoin h

theorem colon_mem_string6 (bits : BitVec 128) : ':' ∈ (Addr.string6 bits).toList := by
  cases hz : Addr.zeroRun (Addr.groups bits) with
  | none =>
    rw [toList_string6_none hz]
    obtain ⟨g0, g1, gs, hg⟩ : ∃ g0 g1 gs, Addr.groups bits = g0 :: g1 :: gs := by
      rcases h : Addr.groups bits with _ | ⟨g0, _ | ⟨g1, gs⟩⟩
      all_goals have := length_groups bits; simp_all
    rw [hg, hexJoin_cons_cons]
    simp
  | some r =>
    rw [toList_string6_some hz]
    simp

/-- **`ParseAddr` reads back what `Addr.String` prints, for every valid address.** -/
theorem parseAddr_string (a : Addr) (h : a.isValid = true) : parseAddr a.string = .ok a := by
  cases a with
  | zero => cases h
  | v4 bits =>
    rw [Addr.string, parseAddr, find?_string4]
    exact parseIPv4_string4 bits
  | v6 bits zone =>
    rw [Addr.string]
    by_cases hm : bits.toNat / 2 ^ 32 = 0xffff
    · rw [if_pos hm, append_zonePart, parseAddr, toList_mk]
      exact parseIPv6_mapped bits zone hm
    · rw [if_neg hm, append_zonePart, parseAddr, toList_mk,
        find?_special (fun c hc => mem_string6 bits hc) (colon_mem_string6 bits)]
      exact parseIPv6_string6 bits zone

example : parseAddr "2001:db8::1%eth0" = .ok (.v6 0x20010db8000000000000000000000001#128 "eth0") :=
  parseAddr_string (.v6 0x20010db8000000000000000000000001#128 "eth0") rfl

/-- Distinct valid addresses print differently. -/
theorem string_injective {a b : Addr} (ha : a.isValid = true) (hb : b.isValid = true)
    (h : a.string = b.string) : a = b := by
  have := parseAddr_string a ha
  rw [h, parseAddr_string b hb] at this
  exact (Except.ok.inj this).symm

end ParseAddr

end Webmesh.Net
