import Matter.Lib.Bytes
import Mathlib.Data.List.GetD

/-!
# Base38 (`pkg/commissioning/payload/base38.go`)

Base38 writes three bytes as five characters of the alphabet `0-9 A-Z - .`, and a last one or
two bytes as two or four characters, least significant digit first. `Base38Decode` upper-cases
its input with `strings.ToUpper` and then reads the bytes of the result: a chunk of five bytes
while at least five are left, then one of exactly four or two, each byte looked up in
`base38DecodeTable`.

A Go string is here the list of its characters, and `stringBytes` its bytes, the characters'
UTF-8 encodings. `strings.ToUpper` maps each character by `unicode.ToUpper`; `toUpperRune` is
that mapping on the ASCII letters and on the two other characters whose upper case is ASCII,
U+0131 (dotless i, upper case `I`) and U+017F (long s, upper case `S`), and leaves every other
character as it is. The upper case of any other non-ASCII character is non-ASCII too, so
whether `Base38Decode` succeeds, and what it returns, is as in Go; for a string with such a
character it fails here as in Go, though Go may report the length where this model reports the
character. Strings that are not valid UTF-8 are not modelled.

Results:
* `length_base38Encode`: the encoding of `n` bytes has `Base38EncodedLength(n)` characters.
* `base38Decode_base38Encode`: decoding an encoding gives the bytes back.
* `mem_base38Encode`: an encoding is written in the alphabet.
* `base38Decode_map_dotless`, `base38Decode_dotless_i`: the decoder reads the dotless i, which is
  not in the alphabet, as `I`: `strings.ToUpper` turns it into `I`.
-/

namespace Matter.Payload

/-- `base38Alphabet`: the digit of each value. -/
def base38Alphabet : List Char := "0123456789ABCDEFGHIJKLMNOPQRSTUVWXYZ-.".toList

/-- `base38Radix`. -/
def base38Radix : Nat := 38

/-- `base38CharsPerChunk`: the characters of a chunk of one, two and three bytes. -/
def base38CharsPerChunk : List Nat := [2, 4, 5]

/-- `base38DecodeTable`: the value of each character from `-` (ASCII 45) to `Z`, `-1` for a
character outside the alphabet. -/
def base38DecodeTable : List Int :=
  [36, 37, -1, 0, 1, 2, 3, 4, 5, 6, 7, 8, 9, -1, -1, -1, -1, -1, -1, -1,
    10, 11, 12, 13, 14, 15, 16, 17, 18, 19, 20, 21, 22, 23, 24, 25, 26, 27, 28, 29,
    30, 31, 32, 33, 34, 35]

/-- The errors of `base38.go`. -/
inductive Base38Error
  | invalidChar
  | invalidLength
  | overflow
  deriving DecidableEq, Repr

/-- `unicode.ToUpper` on the characters whose upper case is ASCII; every other character is kept
(see the module header). -/
def toUpperRune (c : Char) : Char :=
  if 'a' ≤ c ∧ c ≤ 'z' then Char.ofNat (c.toNat - 32)
  -- U+0131 and U+017F
  else if c = 'ı' then 'I'
  else if c = 'ſ' then 'S'
  else c

/-- `strings.ToUpper`. -/
def toUpper (s : List Char) : List Char := s.map toUpperRune

/-- The bytes of a Go string: its characters in UTF-8. -/
def stringBytes (s : List Char) : List UInt8 := s.flatMap String.utf8EncodeChar

/-- The value of one character byte of a chunk. -/
def charValue (c : UInt8) : Except Base38Error Nat :=
  if c < 45 || c > 90 then .error .invalidChar
  else
    let idx := (c - 45).toNat
    if idx ≥ base38DecodeTable.length then .error .invalidChar
    else
      let v := base38DecodeTable.getD idx (-1)
      if v < 0 then .error .invalidChar else .ok v.toNat

/-- The value of a chunk, its first character the least significant digit; Go reads the
characters from the last one back, and so does this. The value of five digits stays below
`38 ^ 5`, so the `uint32` of Go does not wrap. -/
def chunkValue : List UInt8 → Except Base38Error Nat
  | [] => .ok 0
  | c :: cs => do
    let value ← chunkValue cs
    let v ← charValue c
    .ok (value * base38Radix + v)

/-- One chunk to `bytesInChunk` little-endian bytes, which must hold its value. -/
def decodeChunk (chunk : List UInt8) (bytesInChunk : Nat) : Except Base38Error (List UInt8) := do
  let value ← chunkValue chunk
  if value / 256 ^ bytesInChunk > 0 then .error .overflow
  else .ok (Bytes.toLE bytesInChunk value)

/-- The chunk loop of `Base38Decode`: five characters while at least five are left, then four
or two. -/
def decodeChunks : List UInt8 → Except Base38Error (List UInt8)
  | [] => .ok []
  | c0 :: c1 :: c2 :: c3 :: c4 :: rest => do
    let bytes ← decodeChunk [c0, c1, c2, c3, c4] 3
    let more ← decodeChunks rest
    .ok (bytes ++ more)
  | [c0, c1, c2, c3] => decodeChunk [c0, c1, c2, c3] 2
  | [c0, c1] => decodeChunk [c0, c1] 1
  | _ => .error .invalidLength

/-- `Base38Decode`. -/
def base38Decode (s : List Char) : Except Base38Error (List UInt8) :=
  if s = [] then .ok [] else decodeChunks (stringBytes (toUpper s))

/-- The `n` base-38 digits of `value`, least significant first. -/
def encodeDigits : Nat → Nat → List Char
  | 0, _ => []
  | n + 1, value => base38Alphabet.getD (value % base38Radix) '0' :: encodeDigits n (value / base38Radix)

/-- The chunk loop of `Base38Encode`: three bytes while at least three are left, then the rest. -/
def encodeChunks : List UInt8 → List Char
  | [] => []
  | b0 :: b1 :: b2 :: rest =>
    encodeDigits (base38CharsPerChunk.getD 2 0) (Bytes.ofLE [b0, b1, b2]) ++ encodeChunks rest
  | [b0, b1] => encodeDigits (base38CharsPerChunk.getD 1 0) (Bytes.ofLE [b0, b1])
  | [b0] => encodeDigits (base38CharsPerChunk.getD 0 0) (Bytes.ofLE [b0])

/-- `Base38Encode`. -/
def base38Encode (data : List UInt8) : List Char := encodeChunks data

/-- `Base38EncodedLength`. -/
def base38EncodedLength (n : Nat) : Nat :=
  n / 3 * 5 + if n % 3 > 0 then base38CharsPerChunk.getD (n % 3 - 1) 0 else 0

/-! ## Encoding and decoding back -/

/-- The digits are ASCII characters that upper-casing keeps and that the table reads back. -/
theorem digit_facts : ∀ d : Fin 38,
    toUpperRune (base38Alphabet.getD d '0') = base38Alphabet.getD d '0' ∧
    String.utf8EncodeChar (base38Alphabet.getD d '0') =
      [UInt8.ofNat (base38Alphabet.getD d '0').toNat] ∧
    charValue (UInt8.ofNat (base38Alphabet.getD d '0').toNat) = .ok d := by
  decide

/-- The digit of `value % 38`. -/
theorem digit_facts_mod (value : Nat) :
    toUpperRune (base38Alphabet.getD (value % base38Radix) '0') =
        base38Alphabet.getD (value % base38Radix) '0' ∧
      String.utf8EncodeChar (base38Alphabet.getD (value % base38Radix) '0') =
        [UInt8.ofNat (base38Alphabet.getD (value % base38Radix) '0').toNat] ∧
      charValue (UInt8.ofNat (base38Alphabet.getD (value % base38Radix) '0').toNat) =
        .ok (value % base38Radix) :=
  digit_facts ⟨value % base38Radix, Nat.mod_lt _ (by decide)⟩

@[simp] theorem toUpper_encodeDigits (n value : Nat) :
    toUpper (encodeDigits n value) = encodeDigits n value := by
  induction n generalizing value with
  | zero => rfl
  | succ n ih =>
    simp only [encodeDigits, toUpper, List.map_cons] at ih ⊢
    rw [(digit_facts_mod value).1, ih]

@[simp] theorem length_stringBytes_encodeDigits (n value : Nat) :
    (stringBytes (encodeDigits n value)).length = n := by
  induction n generalizing value with
  | zero => rfl
  | succ n ih =>
    simp only [encodeDigits, stringBytes, List.flatMap_cons, List.length_append] at ih ⊢
    rw [(digit_facts_mod value).2.1, ih, List.length_singleton, Nat.add_comm]

/-- **A chunk's digits read back as its value**, modulo `38 ^ n`. -/
theorem chunkValue_encodeDigits (n value : Nat) :
    chunkValue (stringBytes (encodeDigits n value)) = .ok (value % base38Radix ^ n) := by
  induction n generalizing value with
  | zero => simp [encodeDigits, stringBytes, chunkValue, Nat.mod_one]
  | succ n ih =>
    have ih' := ih (value / base38Radix)
    simp only [encodeDigits, stringBytes, List.flatMap_cons] at ih' ⊢
    rw [(digit_facts_mod value).2.1, List.singleton_append, chunkValue, ih']
    simp only [bind, Except.bind, (digit_facts_mod value).2.2, Except.ok.injEq]
    rw [base38Radix, Nat.pow_succ', Nat.mod_mul]
    omega

/-- A chunk of `n` bytes, written in `k` digits, decodes back when `256 ^ n ≤ 38 ^ k`. -/
theorem decodeChunk_encodeDigits {bytes : List UInt8} {n k : Nat} (hlen : bytes.length = n)
    (hfit : 256 ^ n ≤ base38Radix ^ k) :
    decodeChunk (stringBytes (encodeDigits k (Bytes.ofLE bytes))) n = .ok bytes := by
  have hlt : Bytes.ofLE bytes < 256 ^ n := hlen ▸ Bytes.ofLE_lt bytes
  have hmod : Bytes.ofLE bytes % base38Radix ^ k = Bytes.ofLE bytes :=
    Nat.mod_eq_of_lt (Nat.lt_of_lt_of_le hlt hfit)
  have hnot : ¬ Bytes.ofLE bytes / 256 ^ n > 0 := by
    rw [Nat.div_eq_of_lt hlt]
    exact Nat.lt_irrefl 0
  simp only [decodeChunk, chunkValue_encodeDigits, hmod, bind, Except.bind, if_neg hnot,
    Bytes.toLE_ofLE_of_length hlen]

/-- Five, four or two bytes in front are one chunk of `decodeChunks`. -/
theorem decodeChunks_five {l : List UInt8} (hl : l.length = 5) (rest : List UInt8) :
    decodeChunks (l ++ rest) = (do
      let bytes ← decodeChunk l 3
      let more ← decodeChunks rest
      .ok (bytes ++ more)) := by
  match l, hl with
  | [_, _, _, _, _], _ => rfl

theorem decodeChunks_four {l : List UInt8} (hl : l.length = 4) :
    decodeChunks l = decodeChunk l 2 := by
  match l, hl with
  | [_, _, _, _], _ => rfl

theorem decodeChunks_two {l : List UInt8} (hl : l.length = 2) :
    decodeChunks l = decodeChunk l 1 := by
  match l, hl with
  | [_, _], _ => rfl

theorem stringBytes_append (s t : List Char) :
    stringBytes (s ++ t) = stringBytes s ++ stringBytes t := by
  simp [stringBytes]

/-- The characters of a chunk of three, two and one bytes. -/
@[simp] theorem base38CharsPerChunk_getD :
    base38CharsPerChunk.getD 2 0 = 5 ∧ base38CharsPerChunk.getD 1 0 = 4 ∧
      base38CharsPerChunk.getD 0 0 = 2 := ⟨rfl, rfl, rfl⟩

/-- **The chunk loops are inverse**: decoding the bytes of the encoded chunks gives the data. -/
theorem decodeChunks_encodeChunks (data : List UInt8) :
    decodeChunks (stringBytes (encodeChunks data)) = .ok data := by
  induction data using encodeChunks.induct with
  | case1 => rfl
  | case2 b0 b1 b2 rest ih =>
    rw [encodeChunks, base38CharsPerChunk_getD.1, stringBytes_append,
      decodeChunks_five (length_stringBytes_encodeDigits _ _), ih,
      decodeChunk_encodeDigits (n := 3) (k := 5) rfl (by decide)]
    rfl
  | case3 b0 b1 =>
    rw [encodeChunks, base38CharsPerChunk_getD.2.1,
      decodeChunks_four (length_stringBytes_encodeDigits _ _),
      decodeChunk_encodeDigits (n := 2) (k := 4) rfl (by decide)]
  | case4 b0 =>
    rw [encodeChunks, base38CharsPerChunk_getD.2.2,
      decodeChunks_two (length_stringBytes_encodeDigits _ _),
      decodeChunk_encodeDigits (n := 1) (k := 2) rfl (by decide)]

@[simp] theorem toUpper_encodeChunks (data : List UInt8) :
    toUpper (encodeChunks data) = encodeChunks data := by
  induction data using encodeChunks.induct with
  | case1 => rfl
  | case2 b0 b1 b2 rest ih =>
    simp only [encodeChunks, toUpper, List.map_append] at ih ⊢
    rw [ih]
    exact congrArg (· ++ _) (toUpper_encodeDigits _ _)
  | case3 b0 b1 => exact toUpper_encodeDigits _ _
  | case4 b0 => exact toUpper_encodeDigits _ _

/-- **Base38 round trip**: `Base38Decode(Base38Encode(b)) = b` for every byte string. -/
theorem base38Decode_base38Encode (data : List UInt8) :
    base38Decode (base38Encode data) = .ok data := by
  unfold base38Decode base38Encode
  split
  · rename_i h
    cases data with
    | nil => rfl
    | cons b rest =>
      -- a byte gives at least two characters
      match rest, h with
      | [], h => simp [encodeChunks, encodeDigits, base38CharsPerChunk] at h
      | [_], h => simp [encodeChunks, encodeDigits, base38CharsPerChunk] at h
      | _ :: _ :: _, h => simp [encodeChunks, encodeDigits, base38CharsPerChunk] at h
  · rw [toUpper_encodeChunks, decodeChunks_encodeChunks]

/-- **The encoded length**: the encoding of `n` bytes has `Base38EncodedLength(n)` bytes. -/
theorem length_base38Encode (data : List UInt8) :
    (stringBytes (base38Encode data)).length = base38EncodedLength data.length := by
  unfold base38Encode
  induction data using encodeChunks.induct with
  | case1 => rfl
  | case2 b0 b1 b2 rest ih =>
    rw [encodeChunks, stringBytes_append, List.length_append, length_stringBytes_encodeDigits,
      ih]
    simp only [base38EncodedLength, List.length_cons]
    have h3 : (rest.length + 1 + 1 + 1) / 3 = rest.length / 3 + 1 := by omega
    have h3' : (rest.length + 1 + 1 + 1) % 3 = rest.length % 3 := by omega
    rw [h3, h3']
    simp only [base38CharsPerChunk, List.getD_cons_succ, List.getD_cons_succ, List.getD_cons_zero]
    omega
  | case3 b0 b1 => simp [encodeChunks, base38EncodedLength, base38CharsPerChunk]
  | case4 b0 => simp [encodeChunks, base38EncodedLength, base38CharsPerChunk]

/-- The digits of a chunk are characters of the alphabet. -/
theorem mem_encodeDigits {n value : Nat} {c : Char} (h : c ∈ encodeDigits n value) :
    c ∈ base38Alphabet := by
  induction n generalizing value with
  | zero => simp [encodeDigits] at h
  | succ n ih =>
    simp only [encodeDigits, List.mem_cons] at h
    rcases h with rfl | h
    · have hlt : value % base38Radix < base38Alphabet.length :=
        Nat.lt_of_lt_of_eq (Nat.mod_lt _ (by decide)) (by decide)
      rw [List.getD_eq_getElem _ _ hlt]
      exact List.getElem_mem hlt
    · exact ih h

/-- **An encoding is written in the alphabet**: every character `Base38Encode` writes is one of
`0-9 A-Z - .`. -/
theorem mem_base38Encode {data : List UInt8} {c : Char} (h : c ∈ base38Encode data) :
    c ∈ base38Alphabet := by
  unfold base38Encode at h
  induction data using encodeChunks.induct with
  | case1 => simp [encodeChunks] at h
  | case2 b0 b1 b2 rest ih =>
    rw [encodeChunks, List.mem_append] at h
    rcases h with h | h
    · exact mem_encodeDigits h
    · exact ih h
  | case3 b0 b1 =>
    rw [encodeChunks] at h
    exact mem_encodeDigits h
  | case4 b0 =>
    rw [encodeChunks] at h
    exact mem_encodeDigits h

/-! ## Characters outside the alphabet -/

/-- **The dotless i reads as `I`**: writing U+0131 in place of any `I` leaves what
`Base38Decode` returns unchanged, since `strings.ToUpper` maps both to `I`. -/
theorem base38Decode_map_dotless (s : List Char) :
    base38Decode (s.map fun c => if c = 'I' then 'ı' else c) = base38Decode s := by
  have hupper : toUpper (s.map fun c => if c = 'I' then 'ı' else c) = toUpper s := by
    simp only [toUpper, List.map_map]
    apply List.map_congr_left
    intro c _
    by_cases hc : c = 'I'
    · subst hc
      decide
    · simp [hc]
  simp only [base38Decode, List.map_eq_nil_iff, hupper]

/-- **The dotless i decodes**: `"ı0"` is neither in the alphabet nor its lower case, and
`Base38Decode` still reads it as `"I0"`, the byte 18. -/
theorem base38Decode_dotless_i :
    (∀ c ∈ base38Alphabet, c ≠ 'ı' ∧ c.toLower ≠ 'ı') ∧ base38Decode ['ı', '0'] = .ok [18] := by
  refine ⟨?_, by decide⟩
  -- decided over the alphabet's list: with Batteries, `decide` on a bounded quantifier over
  -- `Char` would run through every character
  have hall : base38Alphabet.all (fun c => c ≠ 'ı' ∧ c.toLower ≠ 'ı') = true := by decide
  simpa only [decide_eq_true_eq] using List.all_eq_true.mp hall

end Matter.Payload
