import Mathlib.Algebra.Group.Int
import Mathlib.Data.List.Basic
import Mathlib.Data.List.DropRight
import Mathlib.Data.List.Infix
import Mathlib.Data.String.Basic

/-!
# Go's text functions

The command parsers of the repository read the output of `ifconfig` and `ipconfig` with
Go's `strings`, `bufio` and `strconv` packages. These are the functions they call, as Go
computes them, over the characters of a string:

* `strings.TrimSpace`, `strings.Fields`, `strings.HasPrefix` and `strings.Split` on one
  separator, with `unicode.IsSpace` as Go defines it;
* `bufio.Scanner` with `bufio.ScanLines`, which drops one `\r` before each newline and stops
  for good at a line of `bufio.MaxScanTokenSize` bytes or more;
* `strconv.ParseUint`, `strconv.ParseInt` and `strconv.Atoi`, whose digit loop returns at
  the first character that is not a digit of the base or that makes the value overflow.

The facts the parsers rely on are proved once here: trimming a line does not change its
fields, and the first field of a line starts its trimmed text (`hasPrefix_trimSpace`);
`strings.Split` and the `Scanner` read back the lines `strings.Join` put together
(`split_intercalate`, `scanLines_intercalate_crlf`); `Atoi` reads back what `strconv.Itoa`
prints (`atoi_toString`); and `ParseUint` in base 16 refuses the `0x` prefix
(`parseUint_hex_prefix`).
-/

namespace Webmesh.Go

/-! ## `strings` -/

/-- `unicode.IsSpace`: the six ASCII spaces, `U+0085`, `U+00A0`, and the other characters
Unicode calls white space. -/
def isSpace (c : Char) : Bool :=
  if c.toNat ≤ 0xff then c.toNat ∈ [9, 10, 11, 12, 13, 32, 0x85, 0xa0]
  else c.toNat = 0x1680 ∨ (0x2000 ≤ c.toNat ∧ c.toNat ≤ 0x200a) ∨ c.toNat = 0x2028 ∨
    c.toNat = 0x2029 ∨ c.toNat = 0x202f ∨ c.toNat = 0x205f ∨ c.toNat = 0x3000

/-- `strings.TrimSpace`. -/
def trimSpace (s : String) : String := ⟨(s.toList.dropWhile isSpace).rdropWhile isSpace⟩

/-- `strings.Fields`: the maximal runs of characters that are not spaces. -/
def fields (s : String) : List String :=
  ((s.toList.splitOnP isSpace).filter (· ≠ [])).map String.mk

/-- `strings.HasPrefix(s, pre)`. -/
def hasPrefix (s pre : String) : Bool := pre.toList.isPrefixOf s.toList

/-- `strings.Contains(s, substr)`. -/
def contains (s substr : String) : Bool := decide (substr.toList <:+: s.toList)

/-- `strings.Split(s, sep)` for a one-character separator. -/
def split (s : String) (sep : Char) : List String := (s.toList.splitOn sep).map String.mk

/-- `strings.Split` always returns at least one piece. -/
theorem split_ne_nil (s : String) (c : Char) : split s c ≠ [] := by
  simpa [split, List.splitOn] using List.splitOnP_ne_nil (· == c) s.toList

/-! ## `bufio.Scanner` with `ScanLines` -/

/-- `bufio.MaxScanTokenSize`, the longest token a `Scanner` with its default buffer holds. -/
def maxScanTokenSize : Nat := 64 * 1024

/-- `dropCR`: one trailing `\r` is not part of the line. -/
def dropCR (l : List Char) : List Char := if l.getLast? = some '\r' then l.dropLast else l

/-- The lines `scanner.Scan()` yields: the text between newlines, without a final empty one,
each less its trailing `\r`. A line of `maxScanTokenSize` bytes or more does not fit the
buffer: `Scan` then fails with `ErrTooLong`, and that line and all after it are never read. -/
def scanLines (s : String) : List String :=
  let segs := s.toList.splitOn '\n'
  let toks := if segs.getLast? = some [] then segs.dropLast else segs
  (toks.takeWhile fun l => String.utf8ByteSize ⟨l⟩ < maxScanTokenSize).map fun l => ⟨dropCR l⟩

/-- What `util.ExecOutput` returns for a command: its output and, when it failed, the error. -/
structure ExecResult where
  out : String
  err : Option String
  deriving DecidableEq, Repr

/-! ## `strconv` -/

/-- `strconv.ErrSyntax` (`invalid syntax`) and `strconv.ErrRange` (`value out of range`). -/
inductive NumErrorKind where
  | invalid
  | outOfRange
  deriving DecidableEq, Repr

/-- `strconv.NumError`: the function, its input and the reason. -/
structure NumError where
  func : String
  num : String
  err : NumErrorKind
  deriving DecidableEq, Repr

/-- The value `ParseUint` gives a character: a decimal digit, or a letter of either case
(`lower(c)` is `c | 0x20`) counting from 10. -/
def digitVal (c : Char) : Option Nat :=
  if 48 ≤ c.toNat ∧ c.toNat ≤ 57 then some (c.toNat - 48)
  else if 97 ≤ c.toNat ||| 32 ∧ c.toNat ||| 32 ≤ 122 then some ((c.toNat ||| 32) - 87)
  else none

/-- `math.MaxUint64`. -/
def maxUint64 : Nat := 2 ^ 64 - 1

/-- One turn of `ParseUint`'s digit loop: a character that is not a digit of the base is a
syntax error; a value that would pass `cutoff` before the multiplication or `maxVal` after
the addition is a range error. -/
def parseUintStep (base maxVal cutoff : Nat) (n : Nat) (c : Char) : Except NumErrorKind Nat :=
  match digitVal c with
  | none => .error .invalid
  | some d =>
    if base ≤ d then .error .invalid
    else if cutoff ≤ n then .error .outOfRange
    else if maxVal < n * base + d then .error .outOfRange
    else .ok (n * base + d)

/-- `strconv.ParseUint(s, base, bitSize)` for the bases from 2 to 36 the callers pass. -/
def parseUint (s : String) (base bitSize : Nat) : Except NumError Nat :=
  if s = "" then .error ⟨"ParseUint", s, .invalid⟩ else
  let bitSize := if bitSize = 0 then 64 else bitSize
  (s.toList.foldlM (parseUintStep base (2 ^ bitSize - 1) (maxUint64 / base + 1)) 0).mapError
    (⟨"ParseUint", s, ·⟩)

/-- `ParseInt`'s sign: whether the number is negative, and its digits. -/
def splitSign : List Char → Bool × List Char
  | c :: r => if c = '+' then (false, r) else if c = '-' then (true, r) else (false, c :: r)
  | [] => (false, [])

/-- `strconv.ParseInt(s, base, bitSize)`. A range error of `ParseUint` leaves its maximum as
the value, which the cutoff check then refuses, so it is a range error here too. -/
def parseInt (s : String) (base bitSize : Nat) : Except NumError Int :=
  if s = "" then .error ⟨"ParseInt", s, .invalid⟩ else
  let (neg, digits) := splitSign s.toList
  let bitSize := if bitSize = 0 then 64 else bitSize
  match parseUint ⟨digits⟩ base bitSize with
  | .error e => .error ⟨"ParseInt", s, e.err⟩
  | .ok un =>
    if !neg ∧ 2 ^ (bitSize - 1) ≤ un then .error ⟨"ParseInt", s, .outOfRange⟩
    else if neg ∧ 2 ^ (bitSize - 1) < un then .error ⟨"ParseInt", s, .outOfRange⟩
    else .ok (if neg then -(un : Int) else un)

/-- `strconv.Atoi`: `ParseInt(s, 10, 0)` with the error's function renamed. Its fast path for
short inputs computes the same. -/
def atoi (s : String) : Except NumError Int :=
  (parseInt s 10 0).mapError fun e => { e with func := "Atoi" }

/-! ## Fields of a line -/

section Fields

theorem splitOnP_append_sep {p : Char → Bool} (l : List Char) {c : Char} (hc : p c = true) :
    (l ++ [c]).splitOnP p = l.splitOnP p ++ [[]] := by
  induction l with
  | nil => simp [hc]
  | cons x l ih =>
    rw [List.cons_append, List.splitOnP_cons, List.splitOnP_cons, ih]
    split_ifs
    · rfl
    · obtain ⟨y, ys, h⟩ := List.exists_cons_of_ne_nil (List.splitOnP_ne_nil p l)
      rw [h]
      rfl

/-- The first piece of a split is the run before the first separator. -/
theorem splitOnP_eq_takeWhile {p : Char → Bool} (l : List Char) :
    ∃ rest, l.splitOnP p = l.takeWhile (fun c => !p c) :: rest := by
  induction l with
  | nil => exact ⟨[], rfl⟩
  | cons x l ih =>
    obtain ⟨rest, h⟩ := ih
    by_cases hx : p x
    · exact ⟨l.splitOnP p, by simp [hx]⟩
    · exact ⟨rest, by simp [hx, h]⟩

theorem fields_cons_space {c : Char} (hc : isSpace c = true) (l : List Char) :
    fields ⟨c :: l⟩ = fields ⟨l⟩ := by
  simp [fields, hc]

theorem fields_append_space {c : Char} (hc : isSpace c = true) (l : List Char) :
    fields ⟨l ++ [c]⟩ = fields ⟨l⟩ := by
  simp [fields, splitOnP_append_sep l hc]

/-- Trimming a line does not change its fields. -/
@[simp] theorem fields_trimSpace (s : String) : fields (trimSpace s) = fields s := by
  have hl : ∀ l : List Char, fields ⟨l.dropWhile isSpace⟩ = fields ⟨l⟩ := by
    intro l
    induction l with
    | nil => rfl
    | cons c l ih => by_cases hc : isSpace c <;> simp [List.dropWhile_cons, hc, ih, fields_cons_space]
  have hr : ∀ l : List Char, fields ⟨l.rdropWhile isSpace⟩ = fields ⟨l⟩ := by
    intro l
    induction l using List.reverseRecOn with
    | nil => rfl
    | append_singleton l c ih =>
      by_cases hc : isSpace c <;> simp [List.rdropWhile_concat, hc, ih, fields_append_space]
  rw [trimSpace, hr, hl]
  rfl

/-- A trimmed line starts with a character that is not a space. -/
theorem isSpace_head_trimSpace {s : String} {c : Char} {t : List Char}
    (h : (trimSpace s).toList = c :: t) : isSpace c = false := by
  have hd := List.head?_dropWhile_not isSpace s.toList
  obtain ⟨u, hu⟩ := (List.rdropWhile_prefix (p := isSpace) (l := s.toList.dropWhile isSpace))
  rw [show (s.toList.dropWhile isSpace).rdropWhile isSpace = c :: t from h] at hu
  rw [← hu] at hd
  exact hd

/-- A line that starts with a character other than a space has the run before its first space
as its first field. -/
theorem fields_of_head {c : Char} {t : List Char} (hc : isSpace c = false) :
    ∃ fs, fields ⟨c :: t⟩ = ⟨(c :: t).takeWhile (fun c => !isSpace c)⟩ :: fs := by
  obtain ⟨rest, h⟩ := splitOnP_eq_takeWhile (p := isSpace) (c :: t)
  refine ⟨(rest.filter (· ≠ [])).map String.mk, ?_⟩
  simp [fields, h, hc]

/-- **The first field starts the trimmed line.** So a line whose first field begins with a
keyword passes `strings.HasPrefix(strings.TrimSpace(line), keyword)`. -/
theorem hasPrefix_trimSpace {s f pre : String} {fs : List String} (h : fields s = f :: fs)
    (hp : hasPrefix f pre = true) : hasPrefix (trimSpace s) pre = true := by
  rw [← fields_trimSpace] at h
  obtain ⟨l⟩ := f
  cases ht : (trimSpace s).toList with
  | nil => simp [show trimSpace s = ⟨[]⟩ from congrArg String.mk ht, fields] at h
  | cons c t =>
    obtain ⟨fs', h'⟩ := fields_of_head (t := t) (isSpace_head_trimSpace ht)
    rw [show trimSpace s = ⟨c :: t⟩ from congrArg String.mk ht, h'] at h
    have hf : (c :: t).takeWhile (fun c => !isSpace c) = l := congrArg String.data (List.cons.inj h).1
    simp only [hasPrefix, List.isPrefixOf_iff_prefix, ht] at hp ⊢
    exact hp.trans (hf ▸ List.takeWhile_prefix _)

/-- A line whose trimmed text starts with a non-empty keyword has a field. -/
theorem fields_ne_nil_of_hasPrefix {s pre : String} (h : hasPrefix (trimSpace s) pre = true)
    (hpre : pre ≠ "") : fields s ≠ [] := by
  rw [← fields_trimSpace]
  cases ht : (trimSpace s).toList with
  | nil =>
    obtain ⟨l⟩ := pre
    cases l with
    | nil => exact absurd rfl hpre
    | cons x l =>
      simp only [hasPrefix, ht] at h
      simp at h
  | cons c t =>
    obtain ⟨fs, h'⟩ := fields_of_head (t := t) (isSpace_head_trimSpace ht)
    rw [show trimSpace s = ⟨c :: t⟩ from congrArg String.mk ht, h']
    exact List.cons_ne_nil _ _

end Fields

/-! ## Joined lines read back -/

section Lines

theorem intercalate_cons_append (sep x y : List Char) (l : List (List Char)) :
    sep.intercalate ((x ++ y) :: l) = x ++ sep.intercalate (y :: l) := by
  cases l <;> simp [List.intercalate]

theorem intercalate_cons_of_ne_nil (sep x : List Char) {l : List (List Char)} (hl : l ≠ []) :
    sep.intercalate (x :: l) = x ++ sep ++ sep.intercalate l := by
  cases l with
  | nil => exact absurd rfl hl
  | cons y l => simp [List.intercalate]

theorem toList_intercalate_go (sep acc : String) (ls : List String) :
    (String.intercalate.go acc sep ls).toList =
      sep.toList.intercalate ((acc :: ls).map String.toList) := by
  induction ls generalizing acc with
  | nil => simp [String.intercalate.go, List.intercalate]
  | cons b bs ih =>
    rw [String.intercalate.go, ih]
    show sep.toList.intercalate ((acc.toList ++ sep.toList ++ b.toList) :: _) = _
    rw [List.append_assoc, intercalate_cons_append, intercalate_cons_append]
    rfl

/-- `String.intercalate`, which is Go's `strings.Join`, on characters. -/
theorem toList_intercalate (sep : String) (ls : List String) :
    (sep.intercalate ls).toList = sep.toList.intercalate (ls.map String.toList) := by
  cases ls with
  | nil => rfl
  | cons a as => exact toList_intercalate_go sep a as

/-- **`strings.Split` undoes `strings.Join`** on lines that do not hold the separator. -/
theorem split_intercalate (sep : String) {c : Char} (hsep : sep.toList = [c]) (ls : List String)
    (hls : ls ≠ []) (h : ∀ l ∈ ls, c ∉ l.toList) : split (sep.intercalate ls) c = ls := by
  rw [split, toList_intercalate, hsep, List.splitOn_intercalate _ c (by simpa using h)
    (by simpa using hls), List.map_map]
  exact List.map_id'' (fun _ => rfl) ls

/-- Lines ended by `\r\n` are lines ended by `\n` that carry a trailing `\r`. -/
theorem intercalate_crlf (xs : List (List Char)) :
    ['\r', '\n'].intercalate (xs ++ [[]]) = ['\n'].intercalate (xs.map (· ++ ['\r']) ++ [[]]) := by
  induction xs with
  | nil => rfl
  | cons x xs ih =>
    rw [List.cons_append, intercalate_cons_of_ne_nil _ _ (by simp), ih, List.map_cons,
      List.cons_append, intercalate_cons_of_ne_nil _ _ (by simp)]
    simp

theorem dropCR_append_cr (l : List Char) : dropCR (l ++ ['\r']) = l := by
  simp [dropCR]

theorem utf8ByteSize_append_cr (l : List Char) :
    String.utf8ByteSize ⟨l ++ ['\r']⟩ = String.utf8ByteSize ⟨l⟩ + 1 := by
  simp only [String.utf8ByteSize_mk, String.utf8Len_append]
  rfl

/-- **`bufio.Scanner` reads back lines that each end in `\r\n`**, as long as no line holds a
newline and every line, with its `\r`, fits the buffer. -/
theorem scanLines_intercalate_crlf (ls : List String) (hlast : ls.getLast? = some "")
    (hnl : ∀ l ∈ ls, '\n' ∉ l.toList)
    (hsize : ∀ l ∈ ls, l.utf8ByteSize + 1 < maxScanTokenSize) :
    scanLines ("\r\n".intercalate ls) = ls.dropLast := by
  obtain ⟨xs, rfl⟩ : ∃ xs, ls = xs ++ [""] :=
    ⟨ls.dropLast, (List.dropLast_append_getLast? _ hlast).symm⟩
  have hsegs : ("\r\n".intercalate (xs ++ [""])).toList.splitOn '\n' =
      xs.map (·.toList ++ ['\r']) ++ [[]] := by
    rw [toList_intercalate, show "\r\n".toList = ['\r', '\n'] from rfl, List.map_append,
      show [""].map String.toList = [[]] from rfl, intercalate_crlf, List.map_map]
    refine List.splitOn_intercalate _ _ ?_ (by simp)
    simp only [List.mem_append, List.mem_map, List.mem_singleton]
    rintro _ (⟨l, hl, rfl⟩ | rfl)
    · simpa using hnl l (List.mem_append_left _ hl)
    · simp
  have hall : ∀ l ∈ xs.map (·.toList ++ ['\r']),
      decide (String.utf8ByteSize ⟨l⟩ < maxScanTokenSize) = true := by
    simp only [List.mem_map]
    rintro _ ⟨l, hl, rfl⟩
    simpa [utf8ByteSize_append_cr] using hsize l (List.mem_append_left _ hl)
  simp only [scanLines, hsegs, List.getLast?_concat, if_true, List.dropLast_concat,
    List.takeWhile_eq_self_iff.2 hall, List.map_map]
  exact List.map_id'' (fun l => congrArg String.mk (dropCR_append_cr l.toList)) xs

end Lines

/-! ## Reading numbers back -/

section Numbers

/-- One step of the digit loop behind Lean's `toString` on numbers; with the next lemma, the
proofs below never unfold the core definitions. -/
theorem toDigitsCore_succ (b fuel n : Nat) (ds : List Char) :
    Nat.toDigitsCore b (fuel + 1) n ds =
      if n / b = 0 then Nat.digitChar (n % b) :: ds
      else Nat.toDigitsCore b fuel (n / b) (Nat.digitChar (n % b) :: ds) :=
  rfl

theorem toDigits_eq (b n : Nat) : Nat.toDigits b n = Nat.toDigitsCore b (n + 1) n [] :=
  rfl

theorem toDigitsCore_acc (b : Nat) :
    ∀ fuel n ds, Nat.toDigitsCore b fuel n ds = Nat.toDigitsCore b fuel n [] ++ ds
  | 0, _, _ => rfl
  | fuel + 1, n, ds => by
    simp only [toDigitsCore_succ]
    split_ifs
    · rfl
    · rw [toDigitsCore_acc b fuel _ (_ :: ds), toDigitsCore_acc b fuel _ [_]]
      simp

/-- Enough fuel gives the same digits. -/
theorem toDigitsCore_fuel {b : Nat} (hb : 1 < b) :
    ∀ f₁ f₂ n, n < f₁ → n < f₂ → Nat.toDigitsCore b f₁ n [] = Nat.toDigitsCore b f₂ n []
  | 0, _, _, h, _ | _, 0, _, _, h => absurd h (Nat.not_lt_zero _)
  | f₁ + 1, f₂ + 1, n, h₁, h₂ => by
    simp only [toDigitsCore_succ]
    split_ifs with h0
    · rfl
    · have : n / b < n := Nat.div_lt_self (Nat.pos_of_ne_zero fun h => h0 (by simp [h])) hb
      rw [toDigitsCore_acc b f₁, toDigitsCore_acc b f₂,
        toDigitsCore_fuel hb f₁ f₂ (n / b) (by omega) (by omega)]

/-- The digits of a number of two digits or more: those of its quotient by the base, then
its last. -/
theorem toDigits_of_base_le {b n : Nat} (hb : 1 < b) (hn : b ≤ n) :
    Nat.toDigits b n = Nat.toDigits b (n / b) ++ [Nat.digitChar (n % b)] := by
  have h0 : n / b ≠ 0 := (Nat.div_pos hn (by omega)).ne'
  have hlt : n / b < n := Nat.div_lt_self (by omega) hb
  rw [toDigits_eq, toDigitsCore_succ, if_neg h0, toDigitsCore_acc,
    toDigitsCore_fuel hb n (n / b + 1) (n / b) hlt (by omega)]
  rfl

theorem toDigits_of_lt_base {b n : Nat} (hn : n < b) : Nat.toDigits b n = [Nat.digitChar n] := by
  rw [toDigits_eq, toDigitsCore_succ, if_pos (Nat.div_eq_of_lt hn), Nat.mod_eq_of_lt hn]

theorem toDigits_ten {n : Nat} (hn : 10 ≤ n) :
    Nat.toDigits 10 n = Nat.toDigits 10 (n / 10) ++ [Nat.digitChar (n % 10)] :=
  toDigits_of_base_le (by decide) hn

theorem toDigits_lt_ten {n : Nat} (hn : n < 10) : Nat.toDigits 10 n = [Nat.digitChar n] :=
  toDigits_of_lt_base hn

theorem toDigits_ne_nil (b n : Nat) : Nat.toDigits b n ≠ [] := by
  rw [toDigits_eq, toDigitsCore_succ]
  split_ifs
  · exact List.cons_ne_nil _ _
  · rw [toDigitsCore_acc]
    simp

/-- Every character of a number's digits is the digit of a value below the base. -/
theorem mem_toDigits {b : Nat} (hb : 1 < b) {c : Char} :
    ∀ n, c ∈ Nat.toDigits b n → ∃ d < b, c = Nat.digitChar d := by
  intro n
  induction n using Nat.strong_induction_on with
  | _ n ih =>
    intro hc
    by_cases hn : n < b
    · rw [toDigits_of_lt_base hn, List.mem_singleton] at hc
      exact ⟨n, hn, hc⟩
    · rw [toDigits_of_base_le hb (by omega), List.mem_append, List.mem_singleton] at hc
      rcases hc with hc | hc
      · exact ih (n / b) (Nat.div_lt_self (by omega) hb) hc
      · exact ⟨n % b, Nat.mod_lt _ (by omega), hc⟩

/-- A number below `b ^ k` has at most `k` digits. -/
theorem length_toDigits_le {b : Nat} (hb : 1 < b) :
    ∀ k n, 0 < k → n < b ^ k → (Nat.toDigits b n).length ≤ k := by
  intro k
  induction k with
  | zero => intro n h; omega
  | succ k ih =>
    intro n _ hn
    by_cases hlt : n < b
    · simp [toDigits_of_lt_base hlt]
    · rw [toDigits_of_base_le hb (by omega), List.length_append, List.length_singleton]
      have hk : 0 < k := by
        rcases k with _ | k
        · simp at hn; omega
        · omega
      have := ih (n / b) hk (Nat.div_lt_of_lt_mul (by rwa [Nat.pow_succ, Nat.mul_comm] at hn))
      omega

/-- Reading a number's digits back with a digit function that inverts `Nat.digitChar`. -/
theorem foldl_toDigits {b : Nat} (hb : 1 < b) {val : Char → Nat}
    (hval : ∀ d < b, val (Nat.digitChar d) = d) (n : Nat) :
    (Nat.toDigits b n).foldl (fun v c => v * b + val c) 0 = n := by
  induction n using Nat.strong_induction_on with
  | _ n ih =>
    by_cases hn : n < b
    · simp [toDigits_of_lt_base hn, hval n hn]
    · rw [toDigits_of_base_le hb (by omega), List.foldl_append,
        ih (n / b) (Nat.div_lt_self (by omega) hb)]
      simp [hval _ (Nat.mod_lt n (by omega : 0 < b)), Nat.div_add_mod']

theorem digitVal_digitChar : ∀ d < 10, digitVal (Nat.digitChar d) = some d := by
  decide

theorem foldlM_parseUintStep_digitChar {maxVal cutoff n d : Nat} (hd : d < 10) (hn : n < cutoff)
    (hv : n * 10 + d ≤ maxVal) :
    [Nat.digitChar d].foldlM (parseUintStep 10 maxVal cutoff) n = .ok (n * 10 + d) := by
  simp [parseUintStep, digitVal_digitChar d hd, show ¬10 ≤ d by omega, show ¬cutoff ≤ n by omega,
    show ¬maxVal < n * 10 + d by omega]

/-- The digit loop reads a number's decimal digits back, as long as it fits. -/
theorem foldlM_parseUintStep_toDigits (maxVal cutoff : Nat) :
    ∀ n, n ≤ maxVal → n / 10 < cutoff →
      (Nat.toDigits 10 n).foldlM (parseUintStep 10 maxVal cutoff) 0 = .ok n := by
  intro n
  induction n using Nat.strong_induction_on with
  | _ n ih =>
    intro hmax hcut
    by_cases hn : n < 10
    · rw [toDigits_lt_ten hn]
      simpa using foldlM_parseUintStep_digitChar (n := 0) hn (by omega) (by omega)
    · rw [toDigits_ten (by omega), List.foldlM_append, ih (n / 10) (by omega) (by omega) (by omega)]
      show [Nat.digitChar (n % 10)].foldlM (parseUintStep 10 maxVal cutoff) (n / 10) = _
      rw [foldlM_parseUintStep_digitChar (by omega) (by omega) (by omega), Nat.div_add_mod']

theorem head?_toDigits (n : Nat) : ∃ d < 10, (Nat.toDigits 10 n).head? = some (Nat.digitChar d) := by
  induction n using Nat.strong_induction_on with
  | _ n ih =>
    by_cases hn : n < 10
    · exact ⟨n, hn, by rw [toDigits_lt_ten hn]; rfl⟩
    · obtain ⟨d, hd, h⟩ := ih (n / 10) (by omega)
      refine ⟨d, hd, ?_⟩
      rw [toDigits_ten (by omega), List.head?_append, h]
      rfl

/-- **`Atoi` reads back what `Itoa` prints**, for every number that fits an `int`. -/
theorem atoi_toString (k : Nat) (hk : k < 2 ^ 63) : atoi (toString k) = .ok k := by
  have hl : (toString k).toList = Nat.toDigits 10 k := rfl
  obtain ⟨d, hd, hh⟩ := head?_toDigits k
  obtain ⟨c, t, hct⟩ := List.exists_cons_of_ne_nil (fun h => by simp [h] at hh :
    Nat.toDigits 10 k ≠ [])
  rw [hct, List.head?_cons, Option.some.injEq] at hh
  subst hh
  have hsign : splitSign (Nat.toDigits 10 k) = (false, Nat.toDigits 10 k) := by
    have : ∀ d < 10, Nat.digitChar d ≠ '+' ∧ Nat.digitChar d ≠ '-' := by decide
    rw [hct, splitSign, if_neg (this d hd).1, if_neg (this d hd).2]
  have hne : (toString k) ≠ "" := fun h => by
    have := congrArg String.toList h
    rw [hl, hct] at this
    cases this
  have hne' : (⟨Nat.toDigits 10 k⟩ : String) ≠ "" := fun h => by simpa [hct] using congrArg String.data h
  have hu : parseUint ⟨Nat.toDigits 10 k⟩ 10 64 = .ok k := by
    rw [parseUint, if_neg hne']
    simp only [show (64 = 0) = False by simp, if_false]
    rw [show (⟨Nat.toDigits 10 k⟩ : String).toList = Nat.toDigits 10 k from rfl,
      foldlM_parseUintStep_toDigits _ _ k (by omega) (by simp [maxUint64]; omega)]
    rfl
  simp only [atoi, parseInt, if_neg hne, hl, hsign, show (0 = 0) = True by simp, if_true, hu]
  have h1 : ¬((!false) = true ∧ 2 ^ (64 - 1) ≤ k) := fun h => absurd (show 2 ^ 63 ≤ k from h.2) (by omega)
  have h2 : ¬(false = true ∧ 2 ^ (64 - 1) < k) := fun h => Bool.false_ne_true h.1
  rw [if_neg h1, if_neg h2]
  rfl

/-- **`ParseUint` in base 16 refuses a `0x` prefix**: `x` is not a digit of base 16. -/
theorem parseUint_hex_prefix (h : String) :
    parseUint ("0x" ++ h) 16 32 = .error ⟨"ParseUint", "0x" ++ h, .invalid⟩ :=
  rfl

end Numbers

end Webmesh.Go
