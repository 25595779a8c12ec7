import Matter.Lib.Bytes

/-!
# Modes of a 128-bit block cipher

The two constructions AES-CCM is made of, over any block function `E` on 16-byte blocks:

* `ctrXor E next ctr src`: counter mode. Block `i` of `src` is XORed with `E` of the `i`-th
  counter block, `next` giving each counter from the one before; the last, short block uses
  the first bytes of its keystream block.
* `cbcChain E mac data`: CBC-MAC chaining. Each 16-byte block of `data`, the last one padded
  with zeros, is XORed into the state and enciphered.

`xorWith ks data` XORs `data` with the first bytes of `ks`, reading a missing keystream byte
as `0`, which is what XORing into a zero-initialised 16-byte array does. The lemmas are the
ones a round trip needs: XOR with a fixed keystream is an involution (`xorWith_xorWith`), so
counter mode is (`ctrXor_ctrXor`), and neither changes a length.
-/

namespace BlockMode

/-- `data[j] ^ ks[j]` for every byte of `data`. -/
def xorWith (ks data : List UInt8) : List UInt8 :=
  data.mapIdx fun j b => b ^^^ ks.getD j 0

@[simp] theorem length_xorWith (ks data : List UInt8) : (xorWith ks data).length = data.length := by
  simp [xorWith]

@[simp] theorem xorWith_nil (ks : List UInt8) : xorWith ks [] = [] := rfl

/-- **XOR with a fixed keystream undoes itself.** -/
theorem xorWith_xorWith (ks data : List UInt8) : xorWith ks (xorWith ks data) = data := by
  apply List.ext_getElem (by simp)
  intro j h₁ h₂
  simp [xorWith, UInt8.xor_assoc]

/-- Counter mode over 16-byte blocks. -/
def ctrXor (E : List UInt8 → List UInt8) (next : List UInt8 → List UInt8) (ctr : List UInt8)
    (src : List UInt8) : List UInt8 :=
  if src = [] then []
  else xorWith (E ctr) (src.take 16) ++ ctrXor E next (next ctr) (src.drop 16)
termination_by src.length
decreasing_by
  have : src.length ≠ 0 := by simpa [List.length_eq_zero_iff]
  simp only [List.length_drop]
  omega

/-- CBC-MAC chaining over 16-byte blocks, the last one zero-padded. -/
def cbcChain (E : List UInt8 → List UInt8) (mac data : List UInt8) : List UInt8 :=
  if data = [] then mac
  else cbcChain E (E (xorWith (data.take 16) mac)) (data.drop 16)
termination_by data.length
decreasing_by
  have : data.length ≠ 0 := by simpa [List.length_eq_zero_iff]
  simp only [List.length_drop]
  omega

theorem ctrXor_nil (E next : List UInt8 → List UInt8) (ctr : List UInt8) :
    ctrXor E next ctr [] = [] := by
  rw [ctrXor]; simp

theorem ctrXor_ne_nil (E next : List UInt8 → List UInt8) (ctr : List UInt8) {src : List UInt8}
    (h : src ≠ []) :
    ctrXor E next ctr src =
      xorWith (E ctr) (src.take 16) ++ ctrXor E next (next ctr) (src.drop 16) := by
  rw [ctrXor]; simp [h]

@[simp] theorem length_ctrXor (E next : List UInt8 → List UInt8) (ctr src : List UInt8) :
    (ctrXor E next ctr src).length = src.length := by
  fun_induction ctrXor E next ctr src with
  | case1 ctr => rfl
  | case2 ctr src h ih =>
    simp only [List.length_append, length_xorWith, ih, List.length_take, List.length_drop]
    have : src.length ≠ 0 := by simpa [List.length_eq_zero_iff]
    omega

/-- **Counter mode undoes itself** from the same first counter. -/
theorem ctrXor_ctrXor (E next : List UInt8 → List UInt8) (ctr src : List UInt8) :
    ctrXor E next ctr (ctrXor E next ctr src) = src := by
  fun_induction ctrXor E next ctr src with
  | case1 ctr => simp [ctrXor_nil]
  | case2 ctr src h ih =>
    have hne : src.length ≠ 0 := by simpa [List.length_eq_zero_iff]
    -- the ciphertext is the first block `c₁` and the rest: its first 16 bytes are `c₁`
    have hlen₁ : (xorWith (E ctr) (src.take 16)).length = min 16 src.length := by simp
    have hsplit :
        (xorWith (E ctr) (src.take 16) ++ ctrXor E next (next ctr) (src.drop 16)).take 16 =
          xorWith (E ctr) (src.take 16) ∧
        (xorWith (E ctr) (src.take 16) ++ ctrXor E next (next ctr) (src.drop 16)).drop 16 =
          ctrXor E next (next ctr) (src.drop 16) := by
      by_cases h16 : 16 ≤ src.length
      · exact ⟨List.take_left' (by omega), List.drop_left' (by omega)⟩
      · have hd : src.drop 16 = [] := List.drop_eq_nil_of_le (by omega)
        rw [hd, ctrXor_nil, List.append_nil]
        exact ⟨List.take_of_length_le (by omega), List.drop_eq_nil_of_le (by omega)⟩
    have hne' : xorWith (E ctr) (src.take 16) ++ ctrXor E next (next ctr) (src.drop 16) ≠ [] := by
      apply List.ne_nil_of_length_pos
      rw [List.length_append, hlen₁]
      omega
    rw [ctrXor_ne_nil E next ctr hne', hsplit.1, hsplit.2, xorWith_xorWith, ih,
      List.take_append_drop]

theorem cbcChain_nil (E : List UInt8 → List UInt8) (mac : List UInt8) :
    cbcChain E mac [] = mac := by
  rw [cbcChain]; simp

/-- With a block function of 16-byte outputs, the chained state stays a 16-byte block. -/
theorem length_cbcChain {E : List UInt8 → List UInt8} (hE : ∀ b, (E b).length = 16)
    {mac : List UInt8} (hmac : mac.length = 16) (data : List UInt8) :
    (cbcChain E mac data).length = 16 := by
  fun_induction cbcChain E mac data with
  | case1 mac => exact hmac
  | case2 mac data h ih => exact ih (hE _)

end BlockMode
