import Mathlib.Algebra.GroupWithZero.Nat
import Mathlib.Data.List.GetD

/-!
# LSB-first bit streams in byte strings

A bit stream packs its bits into bytes least significant bit first: bit `k` of the stream is
bit `k % 8` of byte `k / 8` (`bitAt`, a byte past the end reading as zero). A writer sets a bit
by OR-ing its byte with `1 << (k % 8)` (`setBit`); `orField` does so for the set bits of an
`n`-bit value at an offset. A reader takes `n` bits from an offset into a number, OR-ing in
`1 << j` for every set bit `j` (`readField`).

`bitAt_orField` says which bits a field write sets and `testBit_readField` which bits a read
returns. `Field data i n v` says that the `n` bits from `i` are those of `v`; `field_orField`
and `Field.orField` say that a write onto zero bits creates its field and keeps every field
before it, and `readField_of_field` that reading a field of a value below `2 ^ n` gives that
value.
-/

namespace BitStream

/-- Bit `k` of the stream. -/
def bitAt (data : List UInt8) (k : Nat) : Bool := (data.getD (k / 8) 0).toNat.testBit (k % 8)

/-- Set bit `k`: `data[k / 8] |= 1 << (k % 8)`. -/
def setBit (data : List UInt8) (k : Nat) : List UInt8 :=
  data.modify (k / 8) (· ||| 1 <<< (k % 8).toUInt8)

/-- For every `j < n` with bit `j` of `v` set, set bit `i + j`. -/
def orField (data : List UInt8) (i v n : Nat) : List UInt8 :=
  (List.range n).foldl (fun data j => if v.testBit j then setBit data (i + j) else data) data

/-- The `n` bits from `i`, bit `i + j` as `1 << j`. -/
def readField (data : List UInt8) (i n : Nat) : Nat :=
  (List.range n).foldl (fun value j => if bitAt data (i + j) then value ||| 1 <<< j else value) 0

/-- The `n` bits from `i` are those of `v`. -/
def Field (data : List UInt8) (i n v : Nat) : Prop :=
  ∀ k < n, bitAt data (i + k) = v.testBit k

/-! ## Bits of bytes -/

/-- OR-ing a byte with `1 << m` sets bit `m`. -/
theorem testBit_or_shiftLeft (b : UInt8) {m : Nat} (hm : m < 8) (j : Nat) :
    (b ||| 1 <<< m.toUInt8).toNat.testBit j = (b.toNat.testBit j || decide (m = j)) := by
  have hm' : m.toUInt8.toNat % 8 = m := by
    rw [Nat.toUInt8, UInt8.toNat_ofNat']
    omega
  have hpow : (1 : UInt8).toNat <<< m % 2 ^ 8 = 2 ^ m := by
    rw [UInt8.toNat_one, Nat.shiftLeft_eq, Nat.one_mul,
      Nat.mod_eq_of_lt (Nat.pow_lt_pow_right (by decide) hm)]
  rw [UInt8.toNat_or, UInt8.toNat_shiftLeft, hm', hpow, Nat.testBit_or, Nat.testBit_two_pow]

theorem length_setBit (data : List UInt8) (k : Nat) : (setBit data k).length = data.length :=
  List.length_modify _ _ _

/-- **Setting a bit** sets that bit and no other. -/
theorem bitAt_setBit {data : List UInt8} {k : Nat} (hk : k / 8 < data.length) (j : Nat) :
    bitAt (setBit data k) j = (bitAt data j || decide (k = j)) := by
  unfold bitAt setBit
  rw [List.getD_eq_getElem?_getD, List.getElem?_modify, List.getD_eq_getElem?_getD]
  by_cases hbyte : k / 8 = j / 8
  · rw [← hbyte, List.getElem?_eq_getElem hk]
    simp only [Option.map_eq_map, Option.map_some, if_true, Option.getD_some]
    rw [testBit_or_shiftLeft _ (Nat.mod_lt _ (by decide))]
    -- in the same byte, the bit offsets agree exactly when the positions do
    have hiff : k % 8 = j % 8 ↔ k = j := ⟨fun h => by omega, fun h => h ▸ rfl⟩
    simp only [hiff]
  · have hne : ¬ k = j := fun h => hbyte (h ▸ rfl)
    simp [hbyte, hne]

/-- Zero bytes appended add only zero bits. -/
theorem bitAt_append_zeros (data : List UInt8) (m j : Nat) :
    bitAt (data ++ List.replicate m 0) j = bitAt data j := by
  unfold bitAt
  by_cases hj : j / 8 < data.length
  · rw [List.getD_append _ _ _ _ hj]
  · rw [List.getD_eq_getElem?_getD, List.getD_eq_getElem?_getD,
      List.getElem?_eq_none (Nat.le_of_not_lt hj), List.getElem?_append_right (Nat.le_of_not_lt hj),
      List.getElem?_replicate]
    split <;> simp

/-- Past the last byte, every bit is zero. -/
theorem bitAt_of_length_le {data : List UInt8} {j : Nat} (hj : data.length * 8 ≤ j) :
    bitAt data j = false := by
  unfold bitAt
  rw [List.getD_eq_getElem?_getD, List.getElem?_eq_none (by omega)]
  simp

/-! ## Writing a field -/

theorem length_orField (data : List UInt8) (i v n : Nat) :
    (orField data i v n).length = data.length := by
  induction n with
  | zero => rfl
  | succ n ih =>
    rw [orField, List.range_succ, List.foldl_append, ← orField]
    simp only [List.foldl_cons, List.foldl_nil]
    split <;> simp [length_setBit, ih]

/-- **Writing a field** sets the bits of the value in the field's place and keeps every other
bit, when the bytes reach past the field. The induction is on the width, one bit a step. -/
theorem bitAt_orField {data : List UInt8} {i v n : Nat} (hlen : (i + n + 7) / 8 ≤ data.length)
    (j : Nat) :
    bitAt (orField data i v n) j =
      (bitAt data j || (decide (i ≤ j ∧ j < i + n) && v.testBit (j - i))) := by
  induction n with
  | zero =>
    have hout : decide (i ≤ j ∧ j < i + 0) = false := decide_eq_false (by omega)
    rw [hout, Bool.false_and, Bool.or_false]
    rfl
  | succ n ih =>
    have ih := ih (by omega)
    rw [orField, List.range_succ, List.foldl_append, ← orField]
    simp only [List.foldl_cons, List.foldl_nil]
    have hk : (i + n) / 8 < (orField data i v n).length := by rw [length_orField]; omega
    by_cases hbit : v.testBit n
    · rw [if_pos hbit, bitAt_setBit hk, ih]
      by_cases hj : j = i + n
      · subst hj
        simp [hbit]
      · have hiff : (i ≤ j ∧ j < i + (n + 1)) ↔ (i ≤ j ∧ j < i + n) := by omega
        simp [hiff, Ne.symm hj]
    · rw [if_neg hbit, ih]
      by_cases hj : j = i + n
      · subst hj
        simp [hbit]
      · have hiff : (i ≤ j ∧ j < i + (n + 1)) ↔ (i ≤ j ∧ j < i + n) := by omega
        simp [hiff]

/-- A field written onto zero bits is the value's. -/
theorem field_orField {data : List UInt8} {i v n : Nat} (hlen : (i + n + 7) / 8 ≤ data.length)
    (hzero : ∀ j ≥ i, bitAt data j = false) : Field (orField data i v n) i n v := by
  intro k hk
  rw [bitAt_orField hlen, hzero (i + k) (by omega)]
  simp [hk]

/-- A later field write keeps an earlier field. -/
theorem Field.orField {data : List UInt8} {i' n' v' i v n : Nat} (hf : Field data i' n' v')
    (hle : i' + n' ≤ i) (hlen : (i + n + 7) / 8 ≤ data.length) :
    Field (BitStream.orField data i v n) i' n' v' := by
  intro k hk
  rw [bitAt_orField hlen, hf k hk]
  have hout : ¬ (i ≤ i' + k ∧ i' + k < i + n) := by omega
  simp [hout]

/-- The bits past a field written onto zero bits stay zero. -/
theorem bitAt_orField_past {data : List UInt8} {i v n : Nat}
    (hlen : (i + n + 7) / 8 ≤ data.length) (hzero : ∀ j ≥ i, bitAt data j = false) :
    ∀ j ≥ i + n, bitAt (orField data i v n) j = false := by
  intro j hj
  rw [bitAt_orField hlen, hzero j (by omega)]
  have hout : ¬ (i ≤ j ∧ j < i + n) := by omega
  simp [hout]

theorem Field.append_zeros {data : List UInt8} {i n v : Nat} (hf : Field data i n v) (m : Nat) :
    Field (data ++ List.replicate m 0) i n v := by
  intro k hk
  rw [bitAt_append_zeros, hf k hk]

/-! ## Reading a field -/

/-- **Reading a field** gives bit `k` of the stream's `n` bits from `i`. The induction is on the
width, one bit a step. -/
theorem testBit_readField (data : List UInt8) (i n k : Nat) :
    (readField data i n).testBit k = (decide (k < n) && bitAt data (i + k)) := by
  induction n with
  | zero => simp [readField]
  | succ n ih =>
    rw [readField, List.range_succ, List.foldl_append, ← readField]
    simp only [List.foldl_cons, List.foldl_nil]
    by_cases hk : k = n
    · subst hk
      have hlow : (readField data i k).testBit k = false := by simp [ih]
      split <;> simp_all [Nat.testBit_or, Nat.shiftLeft_eq]
    · have hiff : k < n + 1 ↔ k < n := by omega
      split <;> simp [ih, hiff, Nat.testBit_or, Nat.shiftLeft_eq, Ne.symm hk]

/-- **A field reads back as its value**, when the value fits the field. -/
theorem readField_of_field {data : List UInt8} {i n v : Nat} (hf : Field data i n v)
    (hv : v < 2 ^ n) : readField data i n = v := by
  apply Nat.eq_of_testBit_eq
  intro k
  rw [testBit_readField]
  by_cases hk : k < n
  · simp [hk, hf k hk]
  · have hhigh : v.testBit k = false :=
      Nat.testBit_lt_two_pow (Nat.lt_of_lt_of_le hv (Nat.pow_le_pow_right (by decide) (by omega)))
    simp [hk, hhigh]

end BitStream
