import Mathlib.Algebra.GroupWithZero.Nat
import Mathlib.Algebra.Group.Int.Defs
import Mathlib.Data.List.Basic

/-!
# Decimal numbers in Go's `strconv`

`FormatUint(n, 10)` writes the decimal digits of `n`, most significant first, with no leading
zero but for `0` itself: Lean's `Nat.toDigits 10`. `ParseUint(s, 10, bitSize)` reads a
non-empty string of decimal digits, with no sign, prefix or underscore in base 10, as
`Nat.ofDigitChars 10 s 0`, and fails when the value does not fit `bitSize` bits. Its two
errors, `ErrSyntax` and `ErrRange`, are both `none` here.

`FormatInt` and `ParseInt` add a sign. A Go string is its bytes; `toBytes` is the bytes of an
ASCII text and `ofBytes` reads bytes a character each, as `strconv` reads a string.

Results:
* `parseUint_zeros_formatUint`: a number's digits, after any number of leading zeros, parse
  back to it when it fits the width; `parseUint_formatUint` with no zeros, whatever the width.
* `parseInt_formatInt`: a signed number's text parses back to it exactly when it fits.
-/

namespace Strconv

/-- `FormatUint(n, 10)`. -/
def formatUint (n : Nat) : List Char := Nat.toDigits 10 n

/-- `ParseUint(s, 10, bitSize)`; `none` for its syntax and range errors. -/
def parseUint (s : List Char) (bitSize : Nat) : Option Nat :=
  if s.isEmpty || !s.all Char.isDigit then none
  else
    let value := Nat.ofDigitChars 10 s 0
    if value < 2 ^ bitSize then some value else none

theorem isDigit_of_mem_formatUint {n : Nat} {c : Char} (h : c ∈ formatUint n) :
    c.isDigit = true :=
  Nat.isDigit_of_mem_toDigits (by decide) (by decide) h

/-- A number below `10 ^ w` has at most `w` digits. -/
theorem length_formatUint_le {n w : Nat} (hw : 0 < w) (h : n < 10 ^ w) :
    (formatUint n).length ≤ w :=
  (Nat.length_toDigits_le_iff (by decide) hw).mpr h

/-- **Zero-padded digits parse back** to the number, when it fits the width. -/
theorem parseUint_zeros_formatUint (k n bitSize : Nat) (h : n < 2 ^ bitSize) :
    parseUint (List.replicate k '0' ++ formatUint n) bitSize = some n := by
  have hne : (List.replicate k '0' ++ formatUint n).isEmpty = false := by
    simp [formatUint]
  have hdig : (List.replicate k '0' ++ formatUint n).all Char.isDigit = true := by
    simp only [List.all_append, Bool.and_eq_true, List.all_eq_true]
    refine ⟨fun c hc => ?_, fun c hc => isDigit_of_mem_formatUint hc⟩
    rw [List.eq_of_mem_replicate hc]
    rfl
  -- leading zeros add nothing to the value
  have hvalue : Nat.ofDigitChars 10 (List.replicate k '0' ++ formatUint n) 0 = n := by
    rw [Nat.ofDigitChars_append, Nat.ofDigitChars_replicate_zero, Nat.mul_zero, formatUint,
      Nat.ofDigitChars_ten_toDigits]
  simp [parseUint, hne, hdig, hvalue, h]

example : parseUint ['0', '0', '4', '2'] 32 = some 42 := by decide

/-- A number's digits parse back to it exactly when it fits the width. -/
theorem parseUint_formatUint (n bitSize : Nat) :
    parseUint (formatUint n) bitSize = if n < 2 ^ bitSize then some n else none := by
  split_ifs with h
  · simpa using parseUint_zeros_formatUint 0 n bitSize h
  · simp [parseUint, formatUint, Nat.ofDigitChars_ten_toDigits, h]

/-! ## Signed numbers -/

/-- `FormatInt(i, 10)`, as `fmt` writes `%d`: a minus sign before the digits of a negative
number. -/
def formatInt (i : Int) : List Char :=
  if i < 0 then '-' :: formatUint i.natAbs else formatUint i.natAbs

/-- `ParseInt(s, 10, bitSize)` for `bitSize` in `[1, 64]`; `none` for its syntax and range
errors. An optional sign, then the digits `ParseUint(s, 10, 64)` reads; a value past 64 bits is
out of range for every such `bitSize`, so its range error is not told apart. -/
def parseInt (s : List Char) (bitSize : Nat) : Option Int :=
  match s with
  | [] => none
  | c :: rest =>
    let (neg, digits) :=
      if c = '+' then (false, rest) else if c = '-' then (true, rest) else (false, c :: rest)
    match parseUint digits 64 with
    | none => none
    | some un =>
      let cutoff := 2 ^ (bitSize - 1)
      if !neg && un ≥ cutoff then none
      else if neg && un > cutoff then none
      else some (if neg then -(un : Int) else un)

/-- The digits of a number start with neither sign. -/
theorem formatUint_eq_cons (n : Nat) :
    ∃ c rest, formatUint n = c :: rest ∧ c ≠ '+' ∧ c ≠ '-' := by
  obtain ⟨c, rest, h⟩ := List.exists_cons_of_ne_nil (Nat.toDigits_ne_nil (n := n) (b := 10))
  have hc : c.isDigit = true := isDigit_of_mem_formatUint (by rw [formatUint, h]; simp)
  refine ⟨c, rest, h, ?_, ?_⟩ <;> rintro rfl <;> revert hc <;> decide

/-- **Signed round trip**: `ParseInt` reads back what `FormatInt` wrote exactly when it fits
`bitSize` bits. -/
theorem parseInt_formatInt (i : Int) {bitSize : Nat} (h1 : 0 < bitSize) (h64 : bitSize ≤ 64) :
    parseInt (formatInt i) bitSize =
      if -(2 ^ (bitSize - 1) : Int) ≤ i ∧ i < 2 ^ (bitSize - 1) then some i else none := by
  have hcut : (2 : Int) ^ (bitSize - 1) = ((2 ^ (bitSize - 1) : Nat) : Int) := by push_cast; rfl
  have hle : 2 ^ (bitSize - 1) < 2 ^ 64 := Nat.pow_lt_pow_right (by decide) (by omega)
  rw [hcut]
  by_cases hneg : i < 0
  · -- a minus sign, then the digits of `|i|`
    have habs : (i.natAbs : Int) = -i := Int.ofNat_natAbs_of_nonpos (by omega)
    rw [formatInt, if_pos hneg, parseInt]
    simp only [show ('-' : Char) ≠ '+' by decide, if_false, if_true, parseUint_formatUint]
    by_cases hfit : i.natAbs < 2 ^ 64
    · simp only [hfit, if_true, Bool.not_true, Bool.false_and, Bool.true_and, decide_eq_true_eq,
        Bool.false_eq_true, if_false]
      by_cases hr : i.natAbs > 2 ^ (bitSize - 1)
      · rw [if_pos hr, if_neg (by omega)]
      · rw [if_neg hr, if_pos (by omega)]
        congr 1
        omega
    · rw [if_neg hfit, if_neg]
      omega
  · -- the digits of `i`, whose first is no sign
    have habs : (i.natAbs : Int) = i := Int.natAbs_of_nonneg (by omega)
    obtain ⟨c, rest, hdigits, hplus, hminus⟩ := formatUint_eq_cons i.natAbs
    rw [formatInt, if_neg hneg, hdigits, parseInt]
    simp only [hplus, hminus, if_false]
    rw [← hdigits, parseUint_formatUint]
    by_cases hr : i.natAbs < 2 ^ (bitSize - 1)
    · rw [if_pos (by omega)]
      simp only [Bool.not_false, Bool.true_and, decide_eq_true_eq, Bool.false_and,
        Bool.false_eq_true, if_false]
      rw [if_neg (by omega), if_pos (by omega), habs]
    · by_cases hfit : i.natAbs < 2 ^ 64
      · rw [if_pos hfit]
        simp only [Bool.not_false, Bool.true_and, decide_eq_true_eq]
        rw [if_pos (by omega), if_neg (by omega)]
      · rw [if_neg hfit, if_neg (by omega)]

/-! ## Go strings as bytes -/

/-- The bytes of an ASCII text. -/
def toBytes (s : List Char) : List UInt8 := s.map fun c => UInt8.ofNat c.toNat

/-- A Go string read a character per byte, as `strconv` reads it. -/
def ofBytes (s : List UInt8) : List Char := s.map fun b => Char.ofNat b.toNat

/-- Characters below 256 survive the trip through bytes. -/
theorem ofBytes_toBytes {s : List Char} (h : ∀ c ∈ s, c.toNat < 256) : ofBytes (toBytes s) = s := by
  rw [ofBytes, toBytes, List.map_map]
  conv_rhs => rw [← List.map_id s]
  refine List.map_congr_left fun c hc => ?_
  simp only [Function.comp_apply, UInt8.toNat_ofNat', id]
  rw [Nat.mod_eq_of_lt (h c hc), Char.ofNat_toNat]

theorem toNat_lt_of_isDigit {c : Char} (h : c.isDigit = true) : c.toNat < 256 := by
  simp only [Char.isDigit, Bool.and_eq_true, decide_eq_true_eq] at h
  have : c.val ≤ 57 := h.2
  exact Nat.lt_of_le_of_lt (UInt32.le_iff_toNat_le.mp this) (by decide)

theorem ofBytes_toBytes_formatUint (n : Nat) : ofBytes (toBytes (formatUint n)) = formatUint n :=
  ofBytes_toBytes fun _ hc => toNat_lt_of_isDigit (isDigit_of_mem_formatUint hc)

end Strconv
