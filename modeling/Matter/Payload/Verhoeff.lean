import Matter.Lib.CheckDigit
import Mathlib.Data.Fin.VecNotation
import Mathlib.Data.Fintype.Basic

/-!
# The Verhoeff check digit (`pkg/commissioning/payload/verhoeff.go`)

`VerhoeffCompute` reads a string of digits from the right, the rightmost at position 1. It moves
each digit by `verhoeffPermute` as many times as its position, multiplies it into a running
value with `verhoeffMultiply`, and returns the inverse of the result (`verhoeffInverse`) as the
check digit. `VerhoeffValidate` recomputes the check digit of all but the last character and
compares it with the last.

The tables are those of the dihedral group `D₅` (`D5`, whose group laws `decide` checks), and a
word's running value is its product `CheckDigit.weigh` with `σ = verhoeffPermute`. A string with
its check digit is then valid when the product of all its digits, the check digit at position
0, is the identity (`verhoeffValidate_iff`), so a single substitution or a transposition of
adjacent digits anywhere in it, the check digit included, is caught by the lemmas of
`CheckDigit`.

A Go string is here its characters: the code compares each byte with `'0'` and `'9'`, and every
string these functions accept is ASCII.

Results:
* `verhoeffValidate_iff`: an all-digit string of at least two characters is valid exactly when
  its digits weigh to the identity.
* `verhoeffValidate_substitution`, `verhoeffValidate_transposition`: changing one digit of a
  valid string, or swapping two adjacent unequal digits, makes it invalid.
* `verhoeff_detects_errors`: for every non-empty decimal string, its check digit makes it valid,
  and every single substitution of a digit and every transposition of two adjacent unequal
  digits of the result makes it invalid.
-/

namespace Matter.Payload

/-- `verhoeffMultiply`: the multiplication table of `D₅`. -/
def verhoeffMultiply : Fin 10 → Fin 10 → Fin 10 :=
  ![![0, 1, 2, 3, 4, 5, 6, 7, 8, 9],
    ![1, 2, 3, 4, 0, 6, 7, 8, 9, 5],
    ![2, 3, 4, 0, 1, 7, 8, 9, 5, 6],
    ![3, 4, 0, 1, 2, 8, 9, 5, 6, 7],
    ![4, 0, 1, 2, 3, 9, 5, 6, 7, 8],
    ![5, 9, 8, 7, 6, 0, 4, 3, 2, 1],
    ![6, 5, 9, 8, 7, 1, 0, 4, 3, 2],
    ![7, 6, 5, 9, 8, 2, 1, 0, 4, 3],
    ![8, 7, 6, 5, 9, 3, 2, 1, 0, 4],
    ![9, 8, 7, 6, 5, 4, 3, 2, 1, 0]]

/-- `verhoeffPermute`. -/
def verhoeffPermute : Fin 10 → Fin 10 := ![1, 5, 7, 6, 2, 8, 3, 0, 9, 4]

/-- `verhoeffInverse`. -/
def verhoeffInverse : Fin 10 → Fin 10 := ![0, 4, 3, 2, 1, 5, 6, 7, 8, 9]

/-- `permute(val, iterations)`: the loop applies `verhoeffPermute` `iterations` times. -/
def permute (val : Fin 10) : Nat → Fin 10
  | 0 => val
  | n + 1 => permute (verhoeffPermute val) n

/-- The errors of `VerhoeffCompute`. -/
inductive VerhoeffError
  /-- `ErrVerhoeffInvalidDigit`: "verhoeff: invalid digit character". -/
  | invalidDigit
  /-- `ErrVerhoeffEmptyString`: "verhoeff: empty string". -/
  | emptyString
  deriving DecidableEq, Repr

/-- `int(ch - '0')`. -/
def digitValue (ch : Char) : Fin 10 := ⟨(ch.toNat - '0'.toNat) % 10, Nat.mod_lt _ (by decide)⟩

/-- The loop of `VerhoeffCompute` over the digits from the right, the first at position `pos`. -/
def computeLoop (c : Fin 10) (pos : Nat) : List Char → Except VerhoeffError (Fin 10)
  | [] => .ok c
  | ch :: rest =>
    if ch < '0' ∨ ch > '9' then .error .invalidDigit
    else computeLoop (verhoeffMultiply c (permute (digitValue ch) pos)) (pos + 1) rest

/-- `VerhoeffCompute(digits)`. -/
def verhoeffCompute (digits : List Char) : Except VerhoeffError Char :=
  if digits.length = 0 then .error .emptyString
  else do
    let c ← computeLoop 0 1 digits.reverse
    .ok (Char.ofNat ('0'.toNat + (verhoeffInverse c).val))

/-- `VerhoeffValidate(digits)`. -/
def verhoeffValidate (digits : List Char) : Bool :=
  if digits.length < 2 then false
  else
    match verhoeffCompute (digits.take (digits.length - 1)) with
    | .error _ => false
    | .ok expected => digits.getLast? == some expected

/-! ## The group `D₅` -/

/-- The digits as the elements of `D₅`. -/
def D5 : Type := Fin 10

/-- A digit as an element of `D₅`. -/
def D5.ofFin (a : Fin 10) : D5 := a

/-- An element of `D₅` as a digit. -/
def D5.toFin (a : D5) : Fin 10 := a

instance : DecidableEq D5 := inferInstanceAs (DecidableEq (Fin 10))

instance : Fintype D5 := inferInstanceAs (Fintype (Fin 10))

theorem verhoeffMultiply_assoc : ∀ a b c : Fin 10,
    verhoeffMultiply (verhoeffMultiply a b) c = verhoeffMultiply a (verhoeffMultiply b c) := by
  decide

theorem verhoeffMultiply_zero_left : ∀ a : Fin 10, verhoeffMultiply 0 a = a := by decide

theorem verhoeffMultiply_zero_right : ∀ a : Fin 10, verhoeffMultiply a 0 = a := by decide

theorem verhoeffMultiply_inverse_left : ∀ a : Fin 10, verhoeffMultiply (verhoeffInverse a) a = 0 := by
  decide

/-- `verhoeffMultiply` is a group law on the digits, with 0 as identity and `verhoeffInverse` as
inverse. -/
instance : Group D5 where
  mul := verhoeffMultiply
  one := (0 : Fin 10)
  inv := verhoeffInverse
  mul_assoc := verhoeffMultiply_assoc
  one_mul := verhoeffMultiply_zero_left
  mul_one := verhoeffMultiply_zero_right
  inv_mul_cancel := verhoeffMultiply_inverse_left

@[simp] theorem D5.toFin_ofFin (a : Fin 10) : (D5.ofFin a).toFin = a := rfl

theorem D5.ofFin_zero : D5.ofFin 0 = 1 := rfl

theorem D5.ofFin_verhoeffMultiply (a b : Fin 10) :
    D5.ofFin (verhoeffMultiply a b) = D5.ofFin a * D5.ofFin b := rfl

theorem D5.verhoeffInverse_toFin (a : D5) : verhoeffInverse a.toFin = (a⁻¹).toFin := rfl

/-- `verhoeffPermute` on `D₅`. -/
def D5.permute (a : D5) : D5 := D5.ofFin (verhoeffPermute a.toFin)

theorem D5.permute_injective : Function.Injective D5.permute := by
  unfold Function.Injective
  decide

/-- The pair property of Verhoeff's permutation: `a * σ b = b * σ a` only for `a = b`. -/
theorem D5.mul_permute_swap : ∀ a b : D5, a * b.permute = b * a.permute → a = b := by
  decide

theorem ofFin_permute (val : Fin 10) (n : Nat) :
    D5.ofFin (permute val n) = D5.permute^[n] (D5.ofFin val) := by
  induction n generalizing val with
  | zero => rfl
  | succ n ih =>
    rw [permute, ih, Function.iterate_succ_apply]
    rfl

/-! ## Digits -/

/-- A decimal digit character, one the loop of `VerhoeffCompute` accepts. -/
def isDecimalDigit (ch : Char) : Bool := '0' ≤ ch && ch ≤ '9'

theorem isDecimalDigit_iff {ch : Char} :
    isDecimalDigit ch = true ↔ 48 ≤ ch.toNat ∧ ch.toNat ≤ 57 := by
  simp only [isDecimalDigit, Bool.and_eq_true, decide_eq_true_eq, Char.le_def,
    UInt32.le_iff_toNat_le]
  rfl

theorem not_invalid_of_isDecimalDigit {ch : Char} (h : isDecimalDigit ch = true) :
    ¬ (ch < '0' ∨ ch > '9') := by
  simp only [isDecimalDigit, Bool.and_eq_true, decide_eq_true_eq] at h
  simp only [not_or, Char.not_lt]
  exact h

theorem digitValue_inj {a b : Char} (ha : isDecimalDigit a = true)
    (hb : isDecimalDigit b = true) (h : digitValue a = digitValue b) : a = b := by
  rw [isDecimalDigit_iff] at ha hb
  have hv := congrArg Fin.val h
  simp only [digitValue] at hv
  have h0 : '0'.toNat = 48 := rfl
  exact Char.toNat_inj.mp (by omega)

/-- The character `VerhoeffCompute` returns for a value is a digit with that value. -/
theorem checkChar_spec : ∀ i : Fin 10,
    isDecimalDigit (Char.ofNat ('0'.toNat + i.val)) = true ∧
      digitValue (Char.ofNat ('0'.toNat + i.val)) = i := by
  decide

theorem ofNat_digitValue {k : Char} (hk : isDecimalDigit k = true) :
    Char.ofNat ('0'.toNat + (digitValue k).val) = k := by
  rw [isDecimalDigit_iff] at hk
  have h : '0'.toNat + (digitValue k).val = k.toNat := by
    have h0 : '0'.toNat = 48 := rfl
    simp only [digitValue]
    omega
  rw [h, Char.ofNat_toNat]

/-! ## The loop as a product in `D₅` -/

/-- A digit character as an element of `D₅`. -/
def D5.ofChar (ch : Char) : D5 := D5.ofFin (digitValue ch)

/-- **The loop of `VerhoeffCompute` multiplies its running value by the weighed digits.** The
induction is on the digits, with the running value and the position generalized. -/
theorem computeLoop_eq (c : Fin 10) (pos : Nat) (ds : List Char)
    (hds : ∀ ch ∈ ds, isDecimalDigit ch = true) :
    computeLoop c pos ds =
      .ok (D5.ofFin c * CheckDigit.weigh D5.permute pos (ds.map D5.ofChar)).toFin := by
  induction ds generalizing c pos with
  | nil => rw [List.map_nil, CheckDigit.weigh_nil, mul_one, D5.toFin_ofFin, computeLoop]
  | cons ch rest ih =>
    have hch := not_invalid_of_isDecimalDigit (hds ch (List.mem_cons_self ..))
    rw [computeLoop, if_neg hch, ih _ _ fun x hx => hds x (List.mem_cons_of_mem _ hx),
      List.map_cons, CheckDigit.weigh_cons, ← mul_assoc, D5.ofFin_verhoeffMultiply,
      ofFin_permute]
    rfl

/-- `VerhoeffCompute` on a non-empty decimal string: the character of the inverse of the
string's weighed digits, read from the right from position 1. -/
theorem verhoeffCompute_eq {d : List Char} (hd : d ≠ [])
    (hdig : ∀ ch ∈ d, isDecimalDigit ch = true) :
    verhoeffCompute d = .ok (Char.ofNat ('0'.toNat +
      ((CheckDigit.weigh D5.permute 1 (d.reverse.map D5.ofChar))⁻¹).toFin.val)) := by
  have hloop := computeLoop_eq 0 1 d.reverse fun ch hch => hdig ch (List.mem_reverse.mp hch)
  rw [D5.ofFin_zero, one_mul] at hloop
  have hlen : d.length ≠ 0 := by simpa using hd
  rw [verhoeffCompute, if_neg hlen, hloop]
  rfl

example : verhoeffCompute ['2', '3', '6'] = .ok '3' := by decide

/-- The check character of a value is the digit with that value. -/
theorem eq_checkChar_iff {k : Char} (hk : isDecimalDigit k = true) (x : D5) :
    k = Char.ofNat ('0'.toNat + x.toFin.val) ↔ D5.ofChar k = x := by
  constructor
  · rintro rfl
    exact congrArg D5.ofFin (checkChar_spec x.toFin).2
  · rintro rfl
    exact (ofNat_digitValue hk).symm

/-- A string longer than one character is valid when its last character is the check digit of
the others. -/
theorem verhoeffValidate_concat {d : List Char} (hd : d ≠ []) (k : Char) :
    verhoeffValidate (d ++ [k]) = true ↔ verhoeffCompute d = .ok k := by
  have hlen : ¬ (d ++ [k]).length < 2 := by
    have : d.length ≠ 0 := by simpa using hd
    simp only [List.length_append, List.length_singleton]
    omega
  have htake : (d ++ [k]).take ((d ++ [k]).length - 1) = d := by simp
  rw [verhoeffValidate, if_neg hlen, htake]
  cases verhoeffCompute d with
  | error e => simp
  | ok expected =>
    simp only [List.getLast?_concat, beq_iff_eq, Option.some.injEq, Except.ok.injEq]
    exact eq_comm

theorem two_le_length_of_verhoeffValidate {v : List Char} (h : verhoeffValidate v = true) :
    2 ≤ v.length := by
  rw [verhoeffValidate] at h
  split at h
  · cases h
  · omega

/-- **Validation is the identity test.** A decimal string of at least two characters is valid
exactly when all its digits, read from the right with the check digit at position 0, weigh to
the identity of `D₅`. -/
theorem verhoeffValidate_iff {v : List Char} (hlen : 2 ≤ v.length)
    (hdig : ∀ ch ∈ v, isDecimalDigit ch = true) :
    verhoeffValidate v = true ↔ CheckDigit.weigh D5.permute 0 (v.reverse.map D5.ofChar) = 1 := by
  obtain ⟨d, k, rfl⟩ : ∃ d k, v = d ++ [k] :=
    ⟨v.dropLast, v.getLast (List.ne_nil_of_length_pos (by omega)),
      (List.dropLast_append_getLast _).symm⟩
  have hd : d ≠ [] := by
    rintro rfl
    simp at hlen
  have hdigd : ∀ ch ∈ d, isDecimalDigit ch = true := fun ch hch => hdig ch (by simp [hch])
  have hk : isDecimalDigit k = true := hdig k (by simp)
  rw [verhoeffValidate_concat hd, verhoeffCompute_eq hd hdigd, Except.ok.injEq, eq_comm,
    eq_checkChar_iff hk]
  simp only [List.reverse_concat, List.map_cons, CheckDigit.weigh_cons, Function.iterate_zero,
    id_eq]
  exact eq_inv_iff_mul_eq_one

/-- Reversing a string around one of its positions, as the weighing reads it. -/
theorem map_reverse_splice (l m r : List Char) :
    (l ++ m ++ r).reverse.map D5.ofChar =
      r.reverse.map D5.ofChar ++ (m.reverse.map D5.ofChar ++ l.reverse.map D5.ofChar) := by
  simp only [List.reverse_append, List.map_append, List.append_assoc]

/-- **A single substitution makes a valid string invalid.** -/
theorem verhoeffValidate_substitution {l r : List Char} {a b : Char}
    (hvalid : verhoeffValidate (l ++ a :: r) = true)
    (hdig : ∀ ch ∈ l ++ a :: r, isDecimalDigit ch = true) (hb : isDecimalDigit b = true)
    (hab : a ≠ b) : verhoeffValidate (l ++ b :: r) = false := by
  rw [Bool.eq_false_iff]
  intro hvalid'
  have hlen := two_le_length_of_verhoeffValidate hvalid
  have hdig' : ∀ ch ∈ l ++ b :: r, isDecimalDigit ch = true := by
    intro ch hch
    rcases List.mem_append.mp hch with h | h | ⟨_, h⟩
    · exact hdig ch (List.mem_append_left _ h)
    · exact hb
    · exact hdig ch (List.mem_append_right _ (List.mem_cons_of_mem _ h))
  rw [verhoeffValidate_iff hlen hdig] at hvalid
  rw [verhoeffValidate_iff (by simpa using hlen) hdig'] at hvalid'
  rw [← List.singleton_append, ← List.append_assoc, map_reverse_splice] at hvalid hvalid'
  simp only [List.reverse_singleton, List.map_singleton, List.singleton_append] at hvalid hvalid'
  -- the two strings weigh alike, so their digits at the substituted position are equal
  have hsame := CheckDigit.weigh_substitution D5.permute_injective (hvalid.trans hvalid'.symm)
  exact hab (digitValue_inj (hdig a (by simp)) hb hsame)

/-- **A transposition of two adjacent unequal digits makes a valid string invalid.** -/
theorem verhoeffValidate_transposition {l r : List Char} {a b : Char}
    (hvalid : verhoeffValidate (l ++ a :: b :: r) = true)
    (hdig : ∀ ch ∈ l ++ a :: b :: r, isDecimalDigit ch = true) (hab : a ≠ b) :
    verhoeffValidate (l ++ b :: a :: r) = false := by
  rw [Bool.eq_false_iff]
  intro hvalid'
  have hlen := two_le_length_of_verhoeffValidate hvalid
  have hdig' : ∀ ch ∈ l ++ b :: a :: r, isDecimalDigit ch = true := by
    intro ch hch
    apply hdig ch
    simp only [List.mem_append, List.mem_cons] at hch ⊢
    tauto
  rw [verhoeffValidate_iff hlen hdig] at hvalid
  rw [verhoeffValidate_iff (by simpa using hlen) hdig'] at hvalid'
  rw [← List.singleton_append, ← List.append_assoc, map_reverse_splice] at hvalid hvalid'
  simp only [List.reverse_cons, List.reverse_nil, List.nil_append, List.map_append,
    List.map_singleton, List.append_assoc, List.cons_append] at hvalid hvalid'
  -- reversed, the pair `a, b` reads `b, a`
  have hsame := CheckDigit.weigh_transposition D5.permute_injective D5.mul_permute_swap
    (hvalid.trans hvalid'.symm)
  exact hab (digitValue_inj (hdig b (by simp)) (hdig a (by simp)) hsame).symm

example : verhoeffValidate ['2', '6', '3', '3'] = false := by decide

/-- **The Verhoeff check digit detects every single-digit error and every adjacent
transposition.** For every non-empty decimal string `d`, `VerhoeffCompute(d)` gives a check
digit `k` with which `d` is valid, and every string obtained from `d ++ [k]` by replacing one
digit by a different digit, or by swapping two adjacent unequal digits, the check digit
included, is invalid. -/
theorem verhoeff_detects_errors {d : List Char} (hd : d ≠ [])
    (hdig : ∀ ch ∈ d, isDecimalDigit ch = true) :
    ∃ k, verhoeffCompute d = .ok k ∧ verhoeffValidate (d ++ [k]) = true ∧
      (∀ l r a b, d ++ [k] = l ++ a :: r → isDecimalDigit b = true → a ≠ b →
        verhoeffValidate (l ++ b :: r) = false) ∧
      (∀ l r a b, d ++ [k] = l ++ a :: b :: r → a ≠ b →
        verhoeffValidate (l ++ b :: a :: r) = false) := by
  obtain ⟨k, hcompute, hk⟩ : ∃ k, verhoeffCompute d = .ok k ∧ isDecimalDigit k = true :=
    ⟨_, verhoeffCompute_eq hd hdig, (checkChar_spec _).1⟩
  have hvalid := (verhoeffValidate_concat hd k).mpr hcompute
  have hdigv : ∀ ch ∈ d ++ [k], isDecimalDigit ch = true := by
    intro ch hch
    rcases List.mem_append.mp hch with h | h
    · exact hdig ch h
    · rw [List.mem_singleton.mp h]
      exact hk
  refine ⟨k, hcompute, hvalid, ?_, ?_⟩
  · intro l r a b hv hb hab
    rw [hv] at hvalid hdigv
    exact verhoeffValidate_substitution hvalid hdigv hb hab
  · intro l r a b hv hab
    rw [hv] at hvalid hdigv
    exact verhoeffValidate_transposition hvalid hdigv hab

theorem verhoeff_detects_errors_236 :
    ['2', '3', '6'] ≠ [] ∧ (∀ ch ∈ ['2', '3', '6'], isDecimalDigit ch = true) ∧
      ∃ k, verhoeffCompute ['2', '3', '6'] = .ok k ∧
        verhoeffValidate (['2', '3', '6'] ++ [k]) = true ∧
        (∀ l r a b, ['2', '3', '6'] ++ [k] = l ++ a :: r → isDecimalDigit b = true → a ≠ b →
          verhoeffValidate (l ++ b :: r) = false) ∧
        (∀ l r a b, ['2', '3', '6'] ++ [k] = l ++ a :: b :: r → a ≠ b →
          verhoeffValidate (l ++ b :: a :: r) = false) :=
  have hdig : ∀ ch ∈ ['2', '3', '6'], isDecimalDigit ch = true := List.all_eq_true.mp (by decide)
  ⟨by decide, hdig, verhoeff_detects_errors (by decide) hdig⟩

end Matter.Payload
