import Mathlib.Algebra.GroupWithZero.Nat
import Mathlib.Algebra.Group.Int.Defs
import Mathlib.Data.List.Basic

/-!
# Little-endian byte strings

Wire formats write fixed-width integers least significant byte first. `toLE w n` is the `w`
bytes of `n` (bits past `8 * w` dropped), `ofLE` reads a byte string back as a number.
`ofLE_toLE` and `toLE_ofLE` are the round trips; `take_toLE_append` and `drop_toLE_append`
cut a field off the front of a longer string, which is how a decoder that reads field after
field is shown to recover them. `ofBE` and `toBE` are `big.Int`'s `SetBytes` and `FillBytes`,
the big-endian reading and writing.
-/

namespace Bytes

/-- The `w` little-endian bytes of `n`. -/
def toLE : Nat → Nat → List UInt8
  | 0, _ => []
  | w + 1, n => UInt8.ofNat (n % 256) :: toLE w (n / 256)

/-- The number with the given little-endian bytes. -/
def ofLE : List UInt8 → Nat
  | [] => 0
  | b :: bs => b.toNat + 256 * ofLE bs

@[simp] theorem length_toLE (w n : Nat) : (toLE w n).length = w := by
  induction w generalizing n with
  | zero => rfl
  | succ w ih => simp [toLE, ih]

theorem ofLE_toLE (w n : Nat) : ofLE (toLE w n) = n % 256 ^ w := by
  induction w generalizing n with
  | zero => simp [toLE, ofLE, Nat.mod_one]
  | succ w ih =>
    have hb : (UInt8.ofNat (n % 256)).toNat = n % 256 := by simp
    rw [toLE, ofLE, ih, hb, Nat.pow_succ, Nat.mul_comm (256 ^ w) 256, Nat.mod_mul]

theorem ofLE_lt (l : List UInt8) : ofLE l < 256 ^ l.length := by
  induction l with
  | nil => simp [ofLE]
  | cons b bs ih =>
    have hb : b.toNat < 256 := b.toNat_lt
    rw [ofLE, List.length_cons, Nat.pow_succ]
    omega

theorem toLE_ofLE (l : List UInt8) : toLE l.length (ofLE l) = l := by
  induction l with
  | nil => rfl
  | cons b bs ih =>
    have hb : b.toNat < 256 := b.toNat_lt
    have hmod : (b.toNat + 256 * ofLE bs) % 256 = b.toNat := by omega
    have hdiv : (b.toNat + 256 * ofLE bs) / 256 = ofLE bs := by omega
    simp only [List.length_cons, toLE, ofLE, hmod, hdiv, ih, UInt8.ofNat_toNat]

theorem toLE_ofLE_of_length {l : List UInt8} {w : Nat} (h : l.length = w) : toLE w (ofLE l) = l := by
  subst h
  exact toLE_ofLE l

/-- The first `w` bytes of a long enough string are a field that reads back. -/
theorem toLE_ofLE_take {l : List UInt8} {w : Nat} (h : w ≤ l.length) :
    toLE w (ofLE (l.take w)) = l.take w :=
  toLE_ofLE_of_length (by simp [h])

/-- Only the low `8 * w` bits of `n` are written. -/
theorem toLE_mod (w n : Nat) : toLE w (n % 256 ^ w) = toLE w n := by
  induction w generalizing n with
  | zero => rfl
  | succ w ih =>
    have hlow : n % 256 ^ (w + 1) % 256 = n % 256 := by
      rw [Nat.pow_succ, Nat.mod_mul_left_mod]
    have hhigh : n % 256 ^ (w + 1) / 256 = n / 256 % 256 ^ w := by
      rw [Nat.pow_succ, Nat.mul_comm, Nat.mod_mul_right_div_self]
    rw [toLE, toLE, hlow, hhigh, ih]

/-- The first `w` bytes of `toLE w n ++ rest` are the field. -/
@[simp] theorem take_toLE_append (w n : Nat) (rest : List UInt8) :
    (toLE w n ++ rest).take w = toLE w n := by
  simp

/-- Past the first `w` bytes of `toLE w n ++ rest` is the rest. -/
@[simp] theorem drop_toLE_append (w n : Nat) (rest : List UInt8) :
    (toLE w n ++ rest).drop w = rest := by
  simp

/-- Past its width a field has nothing left. -/
@[simp] theorem drop_toLE_of_le {w k : Nat} (n : Nat) (h : w ≤ k) : (toLE w n).drop k = [] :=
  List.drop_eq_nil_of_le (by simp [h])

/-- Go's `copy(dst[off:], src)`: the elements of `src` that fit overwrite `dst` from `off`. -/
def copyAt {α : Type} (dst : List α) (off : Nat) (src : List α) : List α :=
  dst.take off ++ src.take (dst.length - off) ++ dst.drop (off + src.length)

/-- A `src` that reaches exactly to the end of `dst` replaces its tail. -/
theorem copyAt_of_length {α : Type} {dst src : List α} {off : Nat}
    (h : off + src.length = dst.length) : copyAt dst off src = dst.take off ++ src := by
  unfold copyAt
  rw [List.take_of_length_le (show src.length ≤ dst.length - off by omega),
    List.drop_eq_nil_of_le (show dst.length ≤ off + src.length by omega), List.append_nil]

/-- `copy` keeps the length of `dst`. -/
@[simp] theorem length_copyAt {α : Type} {dst src : List α} {off : Nat} (h : off ≤ dst.length) :
    (copyAt dst off src).length = dst.length := by
  unfold copyAt
  simp only [List.length_append, List.length_take, List.length_drop]
  omega

/-- A `src` that fits in `dst` from `off` replaces that part of it. -/
theorem copyAt_of_le {α : Type} {dst src : List α} {off : Nat}
    (h : off + src.length ≤ dst.length) :
    copyAt dst off src = dst.take off ++ src ++ dst.drop (off + src.length) := by
  unfold copyAt
  rw [List.take_of_length_le (show src.length ≤ dst.length - off by omega)]

/-! ## Two's complement fields -/

/-- The `w` little-endian bytes of the two's complement of `v`: Go's `uintN(v)` of a signed
integer, written out. -/
def toLEInt (w : Nat) (v : Int) : List UInt8 := toLE w (v % 2 ^ (8 * w)).toNat

/-- The signed integer whose `w`-byte two's complement is `n`: Go's `intN(x)` of an unsigned
word `x` of the same width. -/
def signExtend (w n : Nat) : Int := if n < 2 ^ (8 * w - 1) then n else (n : Int) - 2 ^ (8 * w)

/-- A field shorter than its width reads back as written. -/
theorem ofLE_toLE_of_lt {w n : Nat} (h : n < 256 ^ w) : ofLE (toLE w n) = n := by
  rw [ofLE_toLE, Nat.mod_eq_of_lt h]

@[simp] theorem length_toLEInt (w : Nat) (v : Int) : (toLEInt w v).length = w := length_toLE _ _

/-- `256 ^ w` is `2 ^ (8 * w)`, twice the half range `2 ^ (8 * w - 1)` of a non-empty field. -/
theorem two_pow_eq (w : Nat) (hw : 0 < w) :
    256 ^ w = 2 ^ (8 * w) ∧ 2 ^ (8 * w) = 2 * 2 ^ (8 * w - 1) := by
  refine ⟨by rw [Nat.pow_mul], ?_⟩
  rw [show 8 * w = (8 * w - 1) + 1 by omega, Nat.pow_succ, Nat.mul_comm]
  rfl

/-- **A signed field reads back**: the two's complement bytes of any `v` in the signed range of
`w` bytes, sign-extended, give `v`. -/
theorem signExtend_ofLE_toLEInt {w : Nat} (hw : 0 < w) {v : Int} (hlo : -2 ^ (8 * w - 1) ≤ v)
    (hhi : v < 2 ^ (8 * w - 1)) : signExtend w (ofLE (toLEInt w v)) = v := by
  obtain ⟨h256, hhalf⟩ := two_pow_eq w hw
  generalize hK : 2 ^ (8 * w - 1) = K at hhalf
  have hKi : (2 : Int) ^ (8 * w - 1) = K := by rw [← hK]; push_cast; rfl
  have hMi : (2 : Int) ^ (8 * w) = 2 * K := by
    rw [show (2 : Int) ^ (8 * w) = ((2 ^ (8 * w) : Nat) : Int) by push_cast; rfl, hhalf]
    push_cast; rfl
  rw [hKi] at hlo hhi
  unfold toLEInt signExtend
  rw [hMi, hK]
  -- the residue is below `2K`, so the field holds it without truncation
  have hres : v % (2 * K) = if 0 ≤ v then v else v + 2 * K := by
    split
    · exact Int.emod_eq_of_lt (by omega) (by omega)
    · rw [Int.emod_eq_add_self_emod]
      exact Int.emod_eq_of_lt (by omega) (by omega)
  have hfits : (v % (2 * K)).toNat < 256 ^ w := by rw [h256, hhalf, hres]; split <;> omega
  rw [ofLE_toLE_of_lt hfits, hres]
  split <;> split <;> omega

/-! ## Big-endian numbers -/

/-- `big.Int.SetBytes`: the number with the given big-endian bytes. -/
def ofBE (l : List UInt8) : Nat := ofLE l.reverse

/-- `big.Int.FillBytes` into `w` bytes: the `w` big-endian bytes of `n`. -/
def toBE (w n : Nat) : List UInt8 := (toLE w n).reverse

@[simp] theorem length_toBE (w n : Nat) : (toBE w n).length = w := by simp [toBE]

/-- A number below `256 ^ w` reads back from its `w` big-endian bytes. -/
theorem ofBE_toBE_of_lt {w n : Nat} (h : n < 256 ^ w) : ofBE (toBE w n) = n := by
  rw [ofBE, toBE, List.reverse_reverse, ofLE_toLE_of_lt h]

end Bytes
