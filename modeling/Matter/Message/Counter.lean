import Matter.Lib.GoWord

/-!
# Message counters and the reception state (`pkg/message/counter.go`)

Model of the outgoing counters (`MessageCounter`, `SessionCounter`) and of the replay window
`ReceptionState` of `counter.go`. Go's `uint32` fields are `UInt32`, and every shift goes
through `GoWord.shl`, so a shift by 32 clears the word as it does in Go (the comment at
`counter.go:224-225` relies on it). The mutex is left out: every method holds it for its whole
body, so each call is one atomic step `ReceptionState → Bool × ReceptionState`.

* `checkAndAcceptNoRollover` (`counter.go:118-162`), `checkAndAcceptWithRollover`
  (`counter.go:166-208`) and `checkUnencrypted` (`counter.go:243-288`) each read the bitmap
  the way the source does: `maxCounter` is the largest counter seen, and bit `k` of `bitmap`
  records counter `maxCounter - k - 1`. `advanceWindow` (`counter.go:213-230`) shifts it.
* The rollover variants compare through `int32(counter - maxCounter)`: Lean's `Int32` has the
  same wrap-around conversion and negation.

The lemmas below are the inversion of `checkAndAcceptNoRollover` (one per branch, in terms of
the counters' values) and the bits `advanceWindow` and the accept branch leave. The refinement
of the replay window by its specification is in `ReplayWindow.lean`.
-/

namespace Matter.Message

open GoWord

/-- `CounterWindowSize` (`errors.go:117`). -/
def counterWindowSize : UInt32 := 32

/-! ## Outgoing counters -/

/-- `MessageCounter`: the next value to hand out. -/
structure MessageCounter where
  value : UInt32
  deriving DecidableEq, Repr

/-- `MessageCounter.Next`: the current value; the counter moves on, wrapping at `2^32`. -/
def MessageCounter.next (c : MessageCounter) : UInt32 × MessageCounter :=
  (c.value, ⟨c.value + 1⟩)

/-- `SessionCounter`: a `MessageCounter` that is spent once it wraps. -/
structure SessionCounter where
  value : UInt32
  exhausted : Bool
  deriving DecidableEq, Repr

/-- `NewSessionCounterWithValue`. -/
def newSessionCounterWithValue (initial : UInt32) : SessionCounter := ⟨initial, false⟩

/-- `SessionCounter.Next`: `none` is `ErrCounterExhausted`. The value that wraps to `0`
marks the counter exhausted, so `0xFFFFFFFF` is the last value handed out. -/
def SessionCounter.next (c : SessionCounter) : Option (UInt32 × SessionCounter) :=
  if c.exhausted then none
  else some (c.value, ⟨c.value + 1, c.value + 1 = 0⟩)

/-! ## The reception state -/

/-- `ReceptionState`: the largest counter received, the bitmap of the 32 counters below it,
and whether any counter was received. -/
structure ReceptionState where
  maxCounter : UInt32
  bitmap : UInt32
  initialized : Bool
  deriving DecidableEq, Repr

/-- `NewReceptionState(initialMax)`: every position of the window marked received. -/
def newReceptionState (initialMax : UInt32) : ReceptionState :=
  { maxCounter := initialMax, bitmap := 0xFFFFFFFF, initialized := true }

/-- `NewReceptionStateEmpty()`: the first counter is accepted whatever it is. -/
def newReceptionStateEmpty : ReceptionState :=
  { maxCounter := 0, bitmap := 0, initialized := false }

/-- The state the first counter leaves (the `!r.initialized` branch of every check). -/
def ReceptionState.start (counter : UInt32) : ReceptionState :=
  { maxCounter := counter, bitmap := 0, initialized := true }

/-- `advanceWindow(newMax)`: shift the bitmap by `newMax - maxCounter` and mark the old
maximum received; a jump past the window clears it. -/
def ReceptionState.advanceWindow (r : ReceptionState) (newMax : UInt32) : ReceptionState :=
  let shift := newMax - r.maxCounter
  { r with
    bitmap := if shift > counterWindowSize then 0 else shl r.bitmap shift ||| shl 1 (shift - 1)
    maxCounter := newMax }

/-- Mark bit `offset` of the bitmap (`r.bitmap |= mask`). -/
def ReceptionState.mark (r : ReceptionState) (offset : UInt32) : ReceptionState :=
  { r with bitmap := r.bitmap ||| shl 1 offset }

/-- `checkAndAcceptNoRollover(counter)`: unicast counters, `counter.go:118-162`. -/
def ReceptionState.checkAndAcceptNoRollover (r : ReceptionState) (counter : UInt32) :
    Bool × ReceptionState :=
  if !r.initialized then (true, ReceptionState.start counter)
  else if counter > r.maxCounter then (true, r.advanceWindow counter)
  else if counter = r.maxCounter then (false, r)
  else
    -- `windowStart := maxCounter - 32`, reset to `0` when `maxCounter < 32`
    let windowStart := if r.maxCounter < counterWindowSize then 0
      else r.maxCounter - counterWindowSize
    if counter ≥ windowStart then
      let offset := r.maxCounter - counter - 1
      if offset < counterWindowSize then
        if r.bitmap &&& shl 1 offset ≠ 0 then (false, r) else (true, r.mark offset)
      else (false, r)
    else (false, r)

/-- `checkAndAcceptWithRollover(counter)`: group counters, `counter.go:166-208`. -/
def ReceptionState.checkAndAcceptWithRollover (r : ReceptionState) (counter : UInt32) :
    Bool × ReceptionState :=
  if !r.initialized then (true, ReceptionState.start counter)
  else
    let diff : Int32 := (counter - r.maxCounter).toInt32
    if diff > 0 then (true, r.advanceWindow counter)
    else if diff = 0 then (false, r)
    else
      let behind : UInt32 := (-diff).toUInt32
      if behind ≤ counterWindowSize then
        let offset := behind - 1
        if r.bitmap &&& shl 1 offset ≠ 0 then (false, r) else (true, r.mark offset)
      else (false, r)

/-- `CheckAndAccept(counter, allowRollover)`. -/
def ReceptionState.checkAndAccept (r : ReceptionState) (counter : UInt32)
    (allowRollover : Bool) : Bool × ReceptionState :=
  if allowRollover then r.checkAndAcceptWithRollover counter
  else r.checkAndAcceptNoRollover counter

/-- `CheckUnencrypted(counter)`: as the rollover check, but a counter behind the window is
accepted (`counter.go:285-287`). -/
def ReceptionState.checkUnencrypted (r : ReceptionState) (counter : UInt32) :
    Bool × ReceptionState :=
  if !r.initialized then (true, ReceptionState.start counter)
  else
    let diff : Int32 := (counter - r.maxCounter).toInt32
    if diff = 0 then (false, r)
    else if diff > 0 then (true, r.advanceWindow counter)
    else
      let behind : UInt32 := (-diff).toUInt32
      if behind ≤ counterWindowSize then
        let offset := behind - 1
        if r.bitmap &&& shl 1 offset ≠ 0 then (false, r) else (true, r.mark offset)
      else (true, r)

/-- An empty window accepts the first unencrypted counter and starts at it. -/
@[simp] theorem checkUnencrypted_empty (counter : UInt32) :
    newReceptionStateEmpty.checkUnencrypted counter = (true, ReceptionState.start counter) := rfl

example : ((newReceptionState 100).checkAndAccept 101 false).1 = true := by decide
example : (((newReceptionState 100).checkAndAccept 101 false).2.checkAndAccept 101 false).1 =
    false := by decide

/-! ## Inversion of `checkAndAcceptNoRollover` -/

section NoRollover

variable {r : ReceptionState} {c : UInt32}

@[simp] theorem maxCounter_advanceWindow (r : ReceptionState) (n : UInt32) :
    (r.advanceWindow n).maxCounter = n := rfl

@[simp] theorem initialized_advanceWindow (r : ReceptionState) (n : UInt32) :
    (r.advanceWindow n).initialized = r.initialized := rfl

@[simp] theorem maxCounter_mark (r : ReceptionState) (o : UInt32) :
    (r.mark o).maxCounter = r.maxCounter := rfl

@[simp] theorem initialized_mark (r : ReceptionState) (o : UInt32) :
    (r.mark o).initialized = r.initialized := rfl

theorem checkAndAcceptNoRollover_of_not_initialized (h : r.initialized = false) :
    r.checkAndAcceptNoRollover c = (true, ReceptionState.start c) := by
  simp [ReceptionState.checkAndAcceptNoRollover, h]

theorem checkAndAcceptNoRollover_of_ahead (h : r.initialized = true)
    (hc : r.maxCounter.toNat < c.toNat) :
    r.checkAndAcceptNoRollover c = (true, r.advanceWindow c) := by
  have hgt : c > r.maxCounter := (lt_iff _ _).mpr hc
  simp [ReceptionState.checkAndAcceptNoRollover, h, hgt]

theorem checkAndAcceptNoRollover_of_eq (h : r.initialized = true) (hc : c = r.maxCounter) :
    r.checkAndAcceptNoRollover c = (false, r) := by
  subst hc
  simp [ReceptionState.checkAndAcceptNoRollover, h]

/-- Within 32 below the maximum the bitmap decides, at offset `maxCounter - counter - 1`. -/
theorem checkAndAcceptNoRollover_of_window (h : r.initialized = true)
    (hc : c.toNat < r.maxCounter.toNat) (hw : r.maxCounter.toNat - c.toNat ≤ 32) :
    r.checkAndAcceptNoRollover c =
      if bit r.bitmap (r.maxCounter.toNat - c.toNat - 1) then (false, r)
      else (true, r.mark (r.maxCounter - c - 1)) := by
  have hgt : ¬ c > r.maxCounter := by rw [gt_iff_lt, lt_iff]; omega
  have hne : c ≠ r.maxCounter := by rw [Ne, eq_iff]; omega
  have hsub1 : (r.maxCounter - c).toNat = r.maxCounter.toNat - c.toNat :=
    toNat_sub ((le_iff _ _).mpr (by omega))
  have hoff : (r.maxCounter - c - 1).toNat = r.maxCounter.toNat - c.toNat - 1 := by
    rw [toNat_sub ((le_iff _ _).mpr (by simp [hsub1]; omega)), hsub1]; rfl
  have hstart : c ≥ (if r.maxCounter < counterWindowSize then 0
      else r.maxCounter - counterWindowSize) := by
    split
    · exact (le_iff _ _).mpr (Nat.zero_le _)
    · rename_i hm
      have hm' : 32 ≤ r.maxCounter.toNat := by
        rw [lt_iff] at hm; simpa [counterWindowSize] using hm
      rw [ge_iff_le, le_iff, toNat_sub ((le_iff _ _).mpr (by simpa [counterWindowSize] using hm'))]
      simp only [counterWindowSize]
      have : (32 : UInt32).toNat = 32 := rfl
      omega
  have hlt : r.maxCounter - c - 1 < counterWindowSize := by
    rw [lt_iff, hoff]; simp only [counterWindowSize]; have : (32 : UInt32).toNat = 32 := rfl; omega
  have hmask := and_one_shl_ne_zero_iff r.bitmap hlt
  rw [hoff] at hmask
  simp only [ReceptionState.checkAndAcceptNoRollover, h, Bool.not_true, Bool.false_eq_true,
    if_false, hgt, hne, hstart, if_true, hlt]
  by_cases hb : bit r.bitmap (r.maxCounter.toNat - c.toNat - 1) = true
  · simp [hmask.mpr hb, hb]
  · have : ¬ (r.bitmap &&& shl 1 (r.maxCounter - c - 1) ≠ 0) := fun hn => hb (hmask.mp hn)
    simp only [this, if_false]
    simp [hb]

/-- More than 32 below the maximum, a counter is refused. -/
theorem checkAndAcceptNoRollover_of_behind (h : r.initialized = true)
    (hw : 32 < r.maxCounter.toNat - c.toNat) :
    r.checkAndAcceptNoRollover c = (false, r) := by
  have hgt : ¬ c > r.maxCounter := by rw [gt_iff_lt, lt_iff]; omega
  have hne : c ≠ r.maxCounter := by rw [Ne, eq_iff]; omega
  have hm : ¬ r.maxCounter < counterWindowSize := by
    rw [lt_iff]; simp only [counterWindowSize]; have : (32 : UInt32).toNat = 32 := rfl; omega
  have hstart : ¬ c ≥ r.maxCounter - counterWindowSize := by
    rw [ge_iff_le, le_iff, toNat_sub ((le_iff _ _).mpr (by
      simp only [counterWindowSize]; have : (32 : UInt32).toNat = 32 := rfl; omega))]
    simp only [counterWindowSize]
    have : (32 : UInt32).toNat = 32 := rfl
    omega
  simp [ReceptionState.checkAndAcceptNoRollover, h, hgt, hne, hm, hstart]

/-! ## Refusals -/

theorem checkAndAcceptNoRollover_refused (h : (r.checkAndAcceptNoRollover c).1 = false) :
    (r.checkAndAcceptNoRollover c).2 = r := by
  unfold ReceptionState.checkAndAcceptNoRollover at *
  dsimp only at h ⊢
  split_ifs at h ⊢ <;> rfl

theorem checkAndAcceptWithRollover_refused (h : (r.checkAndAcceptWithRollover c).1 = false) :
    (r.checkAndAcceptWithRollover c).2 = r := by
  unfold ReceptionState.checkAndAcceptWithRollover at *
  dsimp only at h ⊢
  split_ifs at h ⊢ <;> rfl

/-- **A refused counter leaves the state as it was**: every branch of either check that
answers `false` returns `r` itself. -/
theorem checkAndAccept_refused {b : Bool} (h : (r.checkAndAccept c b).1 = false) :
    (r.checkAndAccept c b).2 = r := by
  cases b with
  | true => exact checkAndAcceptWithRollover_refused h
  | false => exact checkAndAcceptNoRollover_refused h

/-! ## The bits the updates leave -/

theorem toNat_counterWindowSize : counterWindowSize.toNat = 32 := rfl

/-- `mark o` sets bit `o` and keeps the others. -/
theorem bit_mark {o : UInt32} (ho : o < counterWindowSize) (i : Nat) :
    bit (r.mark o).bitmap i = (bit r.bitmap i || decide (i = o.toNat)) := by
  simp only [ReceptionState.mark, bit_or, bit_one_shl ho]

/-- **The bits of `advanceWindow`.** For a new maximum `d` above the old one, the window
survives only if `d ≤ 32`: bit `d - 1` is the old maximum, bits `d ..< 32` are the old bits
moved up by `d`, the bits in between are clear. -/
theorem bit_advanceWindow {n : UInt32} (hn : r.maxCounter.toNat < n.toNat) (i : Nat) :
    bit (r.advanceWindow n).bitmap i =
      (decide (n.toNat - r.maxCounter.toNat ≤ 32) &&
        (decide (i = n.toNat - r.maxCounter.toNat - 1) ||
          (decide (n.toNat - r.maxCounter.toNat ≤ i) && decide (i < 32) &&
            bit r.bitmap (i - (n.toNat - r.maxCounter.toNat))))) := by
  have hshift : (n - r.maxCounter).toNat = n.toNat - r.maxCounter.toNat :=
    toNat_sub ((le_iff _ _).mpr (Nat.le_of_lt hn))
  simp only [ReceptionState.advanceWindow]
  split
  · rename_i hgt
    rw [gt_iff_lt, lt_iff, hshift, toNat_counterWindowSize] at hgt
    have : ¬ n.toNat - r.maxCounter.toNat ≤ 32 := by omega
    simp [this]
  · rename_i hle
    rw [gt_iff_lt, lt_iff, hshift, toNat_counterWindowSize] at hle
    have hpos : 1 ≤ n - r.maxCounter := by
      rw [le_iff, hshift]; simp only [UInt32.toNat_one]; omega
    have hone : (n - r.maxCounter - 1).toNat = n.toNat - r.maxCounter.toNat - 1 := by
      rw [toNat_sub hpos, hshift, UInt32.toNat_one]
    have hlt : n - r.maxCounter - 1 < 32 := by
      rw [lt_iff, hone]; simp only [UInt32.reduceToNat]; omega
    have hd : n.toNat - r.maxCounter.toNat ≤ 32 := by omega
    simp only [bit_or, bit_shl, bit_one_shl hlt, hshift, hone, hd, decide_true, Bool.true_and]
    cases decide (i = n.toNat - r.maxCounter.toNat - 1) <;> simp [Bool.or_comm]

end NoRollover

/-! ## Inversion of `checkAndAcceptWithRollover` -/

section Rollover

variable {r : ReceptionState} {c : UInt32}

/-- The distance the rollover check computes, `uint32(-diff)`, is `maxCounter - counter`. -/
theorem behind_eq (r : ReceptionState) (c : UInt32) :
    (-(c - r.maxCounter).toInt32).toUInt32 = r.maxCounter - c := by
  rw [← UInt32.toInt32_neg, UInt32.neg_sub, UInt32.toUInt32_toInt32]

theorem checkAndAcceptWithRollover_of_not_initialized (h : r.initialized = false) :
    r.checkAndAcceptWithRollover c = (true, ReceptionState.start c) := by
  simp [ReceptionState.checkAndAcceptWithRollover, h]

theorem checkAndAcceptWithRollover_of_ahead (h : r.initialized = true)
    (hc : 0 < (c - r.maxCounter).toInt32.toInt) :
    r.checkAndAcceptWithRollover c = (true, r.advanceWindow c) := by
  have hgt : (c - r.maxCounter).toInt32 > 0 := Int32.lt_iff_toInt_lt.mpr (by simpa using hc)
  simp only [ReceptionState.checkAndAcceptWithRollover, h, Bool.not_true, Bool.false_eq_true,
    ↓reduceIte, hgt]

theorem checkAndAcceptWithRollover_of_eq (h : r.initialized = true) (hc : c = r.maxCounter) :
    r.checkAndAcceptWithRollover c = (false, r) := by
  subst hc
  simp [ReceptionState.checkAndAcceptWithRollover, h]

/-- A negative `int32` difference takes the rollover check to its window branch. -/
theorem not_ahead_of_neg (hc : (c - r.maxCounter).toInt32.toInt < 0) :
    ¬ (c - r.maxCounter).toInt32 > 0 ∧ (c - r.maxCounter).toInt32 ≠ 0 := by
  refine ⟨fun hgt => ?_, fun h0 => ?_⟩
  · have := Int32.lt_iff_toInt_lt.mp hgt
    simp only [Int32.toInt_zero] at this
    omega
  · rw [h0, Int32.toInt_zero] at hc
    exact Int.lt_irrefl 0 hc

/-- Behind the maximum by at most 32, the bitmap decides, at offset `maxCounter - counter - 1`. -/
theorem checkAndAcceptWithRollover_of_window (h : r.initialized = true)
    (hc : (c - r.maxCounter).toInt32.toInt < 0) (hw : (r.maxCounter - c).toNat ≤ 32) :
    r.checkAndAcceptWithRollover c =
      if bit r.bitmap ((r.maxCounter - c).toNat - 1) then (false, r)
      else (true, r.mark (r.maxCounter - c - 1)) := by
  obtain ⟨hngt, hne⟩ := not_ahead_of_neg hc
  -- the counter differs from the maximum, so the distance is at least one
  have hpos : 1 ≤ r.maxCounter - c := by
    rw [le_iff, UInt32.toNat_one, Nat.one_le_iff_ne_zero]
    intro h0
    apply hne
    rw [← UInt32.neg_sub, (eq_iff _ 0).mpr h0]
    rfl
  have hoff : (r.maxCounter - c - 1).toNat = (r.maxCounter - c).toNat - 1 := by
    rw [toNat_sub hpos, UInt32.toNat_one]
  have hlt : r.maxCounter - c - 1 < counterWindowSize := by
    rw [lt_iff, hoff, toNat_counterWindowSize]
    omega
  have hle : r.maxCounter - c ≤ counterWindowSize := by
    rw [le_iff, toNat_counterWindowSize]
    exact hw
  have hmask := and_one_shl_ne_zero_iff r.bitmap hlt
  rw [hoff] at hmask
  simp only [ReceptionState.checkAndAcceptWithRollover, h, Bool.not_true, Bool.false_eq_true,
    ↓reduceIte, hngt, hne, behind_eq, hle]
  by_cases hb : bit r.bitmap ((r.maxCounter - c).toNat - 1) = true
  · simp [hmask.mpr hb, hb]
  · have : ¬ (r.bitmap &&& shl 1 (r.maxCounter - c - 1) ≠ 0) := fun hn => hb (hmask.mp hn)
    simp only [this, if_false]
    simp [hb]

/-- Behind the maximum by more than 32, a counter is refused. -/
theorem checkAndAcceptWithRollover_of_behind (h : r.initialized = true)
    (hc : (c - r.maxCounter).toInt32.toInt < 0) (hw : 32 < (r.maxCounter - c).toNat) :
    r.checkAndAcceptWithRollover c = (false, r) := by
  obtain ⟨hngt, hne⟩ := not_ahead_of_neg hc
  have hle : ¬ r.maxCounter - c ≤ counterWindowSize := by
    rw [le_iff, toNat_counterWindowSize]
    omega
  simp only [ReceptionState.checkAndAcceptWithRollover, h, Bool.not_true, Bool.false_eq_true,
    ↓reduceIte, hngt, hne, behind_eq, hle]

end Rollover

end Matter.Message
