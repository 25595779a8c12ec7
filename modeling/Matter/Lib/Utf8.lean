import Mathlib.Data.List.Basic

/-!
# Well-formed UTF-8

Go's `unicode/utf8.Valid`: a byte string is valid when it splits into the well-formed
sequences of the Unicode standard (Table 3-7), an ASCII byte or a leading byte followed by
continuation bytes `0x80..0xBF`, the first of which may be narrowed to exclude overlong forms,
surrogates and code points past `U+10FFFF`. `lead` is Go's `first` table with its accept
ranges.
-/

namespace Utf8

/-- The sequence length a non-ASCII leading byte starts, with the range its second byte must
lie in; `none` for a byte that starts no sequence. -/
def lead (b : UInt8) : Option (Nat × UInt8 × UInt8) :=
  if b < 0xC2 then none
  else if b ≤ 0xDF then some (2, 0x80, 0xBF)
  else if b = 0xE0 then some (3, 0xA0, 0xBF)
  else if b ≤ 0xEC then some (3, 0x80, 0xBF)
  else if b = 0xED then some (3, 0x80, 0x9F)
  else if b ≤ 0xEF then some (3, 0x80, 0xBF)
  else if b = 0xF0 then some (4, 0x90, 0xBF)
  else if b ≤ 0xF3 then some (4, 0x80, 0xBF)
  else if b = 0xF4 then some (4, 0x80, 0x8F)
  else none

/-- `lo ≤ c ≤ hi`. -/
def inRange (lo hi c : UInt8) : Bool := lo ≤ c && c ≤ hi

/-- `utf8.Valid`. -/
def valid : List UInt8 → Bool
  | [] => true
  | b :: rest =>
    if b < 0x80 then valid rest
    else match lead b, rest with
      | some (2, lo, hi), c1 :: r => inRange lo hi c1 && valid r
      | some (3, lo, hi), c1 :: c2 :: r =>
        inRange lo hi c1 && inRange 0x80 0xBF c2 && valid r
      | some (4, lo, hi), c1 :: c2 :: c3 :: r =>
        inRange lo hi c1 && inRange 0x80 0xBF c2 && inRange 0x80 0xBF c3 && valid r
      | _, _ => false

example : valid [0x68, 0xC3, 0xA9, 0xE2, 0x82, 0xAC, 0xF0, 0x9F, 0x98, 0x80] = true := by decide
example : valid [0xED, 0xA0, 0x80] = false := by decide

end Utf8
