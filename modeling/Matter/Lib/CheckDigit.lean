import Mathlib.Algebra.Group.Basic
import Mathlib.Logic.Function.Iterate

/-!
# Check digits over a group

A check-digit scheme in the manner of Verhoeff reads the symbols of a word as elements of a
group `G`. The symbol at position `k` is first moved by `σ^[k]`, for a map `σ : G → G`, and the
word's value is the product of the moved symbols, in order (`weigh σ k w`, the first symbol at
position `k`). A scheme fixes which value a valid word has.

Two words that differ in one symbol have different values as soon as `σ` is injective, since
a group cancels on both sides (`weigh_substitution`). Two words that differ by swapping two
adjacent symbols have different values when moreover `a * σ b = b * σ a` forces `a = b`
(`weigh_transposition`): the swapped pair, at position `k + m`, is that equation moved by
`σ^[k + m]`.

Results:
* `weigh_append`: the value of a concatenation is the product of the values, the second word's
  positions shifted by the length of the first.
* `weigh_substitution`, `weigh_transposition`: a single substitution, or a transposition of two
  adjacent unequal symbols, changes the value.
-/

namespace CheckDigit

open Function

variable {G : Type*} [Group G] (σ : G → G)

/-- The product of the symbols of a word, each moved by its position, the first at `k`. -/
def weigh : Nat → List G → G
  | _, [] => 1
  | k, x :: xs => σ^[k] x * weigh (k + 1) xs

@[simp] theorem weigh_nil (k : Nat) : weigh σ k [] = 1 := rfl

@[simp] theorem weigh_cons (k : Nat) (x : G) (xs : List G) :
    weigh σ k (x :: xs) = σ^[k] x * weigh σ (k + 1) xs := rfl

/-- **The value of a concatenation.** The induction is on the first word. -/
theorem weigh_append (k : Nat) (l m : List G) :
    weigh σ k (l ++ m) = weigh σ k l * weigh σ (k + l.length) m := by
  induction l generalizing k with
  | nil => simp
  | cons x l ih =>
    rw [List.cons_append, weigh_cons, weigh_cons, ih, mul_assoc]
    congr 3
    simp only [List.length_cons]
    omega

variable {σ}

/-- **A single substitution changes the value**, when `σ` is injective. -/
theorem weigh_substitution (hσ : Injective σ) {k : Nat} {l r : List G} {a b : G}
    (h : weigh σ k (l ++ a :: r) = weigh σ k (l ++ b :: r)) : a = b := by
  rw [weigh_append, weigh_append, weigh_cons, weigh_cons] at h
  -- cancel the prefix on the left and the suffix on the right
  have hmoved : σ^[k + l.length] a = σ^[k + l.length] b :=
    mul_right_cancel (mul_left_cancel h)
  exact (hσ.iterate (k + l.length)) hmoved

/-- **A transposition of two adjacent symbols changes the value**, when `σ` is injective and
`a * σ b = b * σ a` only for `a = b`. -/
theorem weigh_transposition (hσ : Injective σ) (hswap : ∀ a b : G, a * σ b = b * σ a → a = b)
    {k : Nat} {l r : List G} {a b : G}
    (h : weigh σ k (l ++ a :: b :: r) = weigh σ k (l ++ b :: a :: r)) : a = b := by
  rw [weigh_append, weigh_append, weigh_cons, weigh_cons, weigh_cons, weigh_cons] at h
  -- cancel the prefix and the suffix, leaving the pair at positions `k + l.length` and one more
  have hpair : σ^[k + l.length] a * σ^[k + l.length + 1] b =
      σ^[k + l.length] b * σ^[k + l.length + 1] a := by
    have h' := mul_left_cancel h
    rw [← mul_assoc, ← mul_assoc] at h'
    exact mul_right_cancel h'
  rw [iterate_succ_apply', iterate_succ_apply'] at hpair
  exact (hσ.iterate (k + l.length)) (hswap _ _ hpair)

end CheckDigit
