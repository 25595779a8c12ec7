import Mathlib.Data.List.Nodup
import Matter.Message.ReplayWindow

/-!
# Group counters on an arc (`pkg/message/counter.go`)

Group messages go through `CheckAndAccept(c, true)`, which decides whether a counter is ahead
of or behind the maximum by `int32(counter - maxCounter)`, and unencrypted messages through
`CheckUnencrypted`. On an arc of the counter circle shorter than half of it, from any base `b`,
the wrap-around of the subtraction and that of `int32` cancel (`GoWord.toInt_toInt32_sub`), so
the rollover check on the counters is the plain check on their offsets from `b`. The
relation `OnArc` says so of the two states, and `onArc_step` proves that every call keeps it.
The arc may cross `0xFFFFFFFF`.

`CheckUnencrypted` runs the branches of the rollover check in another order and accepts
counters behind the window instead of refusing them (`checkUnencrypted_eq`).

Results:
* `rollover_agrees_on_arc`: on every run from `NewReceptionStateEmpty` whose counters lie on an
  arc of length `2^31`, the rollover check answers as the plain check on the offsets, accepts
  no counter twice, and `CheckUnencrypted` answers as the rollover check but for counters
  behind the window, which it accepts and the rollover check refuses, leaving the same states.
-/

namespace Matter.Message

open GoWord

/-! ## The rollover check on an arc -/

/-- The rollover state `r`, on counters of the arc from `b`, stands for the plain state `p` on
their offsets from `b`: the same bitmap, and the maximum moved by `b` and on the arc. -/
structure OnArc (b : UInt32) (r p : ReceptionState) : Prop where
  initialized_eq : r.initialized = p.initialized
  bitmap_eq : r.bitmap = p.bitmap
  max_eq : p.initialized = true → r.maxCounter = p.maxCounter + b
  max_lt : p.initialized = true → p.maxCounter.toNat < 2 ^ 31

theorem onArc_empty (b : UInt32) : OnArc b newReceptionStateEmpty newReceptionStateEmpty :=
  ⟨rfl, rfl, nofun, nofun⟩

theorem onArc_start (b : UInt32) {c : UInt32} (hc : (c - b).toNat < 2 ^ 31) :
    OnArc b (ReceptionState.start c) (ReceptionState.start (c - b)) :=
  ⟨rfl, rfl, fun _ => (UInt32.sub_add_cancel c b).symm, fun _ => hc⟩

/-- **One call on the arc.** From related states, the rollover check of a counter on the arc
and the plain check of its offset answer alike and reach related states. -/
theorem onArc_step {b : UInt32} {r p : ReceptionState} (h : OnArc b r p) {c : UInt32}
    (hc : (c - b).toNat < 2 ^ 31) :
    (r.checkAndAccept c true).1 = (p.checkAndAccept (c - b) false).1 ∧
      OnArc b (r.checkAndAccept c true).2 (p.checkAndAccept (c - b) false).2 := by
  simp only [ReceptionState.checkAndAccept, if_true, Bool.false_eq_true, if_false]
  cases hi : p.initialized with
  | false =>
    rw [checkAndAcceptWithRollover_of_not_initialized (h.initialized_eq.trans hi),
      checkAndAcceptNoRollover_of_not_initialized hi]
    exact ⟨rfl, onArc_start b hc⟩
  | true =>
    have hri : r.initialized = true := h.initialized_eq.trans hi
    have hmax := h.max_eq hi
    have hm := h.max_lt hi
    -- both subtractions wrap alike, and on the arc `int32` reads the difference exactly
    have hdiff : c - r.maxCounter = (c - b) - p.maxCounter := by rw [hmax]; grind
    have hdist : r.maxCounter - c = p.maxCounter - (c - b) := by rw [hmax]; grind
    have hint : (c - r.maxCounter).toInt32.toInt = ((c - b).toNat : Int) - p.maxCounter.toNat := by
      rw [hdiff]
      exact toInt_toInt32_sub hc hm
    rcases Nat.lt_trichotomy p.maxCounter.toNat (c - b).toNat with hlt | heq | hgt
    · -- ahead: both windows move by the same shift
      rw [checkAndAcceptWithRollover_of_ahead hri (by omega),
        checkAndAcceptNoRollover_of_ahead hi hlt]
      refine ⟨rfl, ⟨h.initialized_eq, ?_, fun _ => (UInt32.sub_add_cancel c b).symm, fun _ => hc⟩⟩
      simp only [ReceptionState.advanceWindow, hdiff, h.bitmap_eq]
    · -- the maximum itself
      have hpeq : c - b = p.maxCounter := (eq_iff _ _).mpr heq.symm
      have hceq : c = r.maxCounter := by rw [hmax, ← hpeq, UInt32.sub_add_cancel]
      rw [checkAndAcceptWithRollover_of_eq hri hceq, checkAndAcceptNoRollover_of_eq hi hpeq]
      exact ⟨rfl, h⟩
    · have hdist' : (r.maxCounter - c).toNat = p.maxCounter.toNat - (c - b).toNat := by
        rw [hdist, toNat_sub ((le_iff _ _).mpr hgt.le)]
      by_cases hw : p.maxCounter.toNat - (c - b).toNat ≤ 32
      · -- in the window: the same bit decides, and the same bit is set
        rw [checkAndAcceptWithRollover_of_window hri (by omega) (by omega),
          checkAndAcceptNoRollover_of_window hi hgt hw, hdist', h.bitmap_eq, hdist]
        cases bit p.bitmap (p.maxCounter.toNat - (c - b).toNat - 1)
        · exact ⟨rfl, ⟨h.initialized_eq, by simp [ReceptionState.mark, h.bitmap_eq], h.max_eq,
            h.max_lt⟩⟩
        · exact ⟨rfl, h⟩
      · rw [checkAndAcceptWithRollover_of_behind hri (by omega) (by omega),
          checkAndAcceptNoRollover_of_behind hi (by omega)]
        exact ⟨rfl, h⟩

/-! ## Unencrypted counters -/

/-- The counter lies behind the window: `diff < 0` and `behind > CounterWindowSize`, the branch
in which `CheckUnencrypted` accepts and the rollover check refuses. -/
def ReceptionState.behindWindow (r : ReceptionState) (counter : UInt32) : Bool :=
  let diff : Int32 := (counter - r.maxCounter).toInt32
  r.initialized && decide (diff < 0) && decide ((-diff).toUInt32 > counterWindowSize)

/-- Behind the window, the rollover check refuses and keeps the state. -/
theorem checkAndAcceptWithRollover_of_behindWindow {r : ReceptionState} {c : UInt32}
    (h : r.behindWindow c = true) : r.checkAndAcceptWithRollover c = (false, r) := by
  simp only [ReceptionState.behindWindow, Bool.and_eq_true, decide_eq_true_eq] at h
  obtain ⟨⟨hi, hneg⟩, hbehind⟩ := h
  rw [behind_eq, gt_iff_lt, lt_iff, toNat_counterWindowSize] at hbehind
  have hneg' : (c - r.maxCounter).toInt32.toInt < 0 := by
    simpa using Int32.lt_iff_toInt_lt.mp hneg
  exact checkAndAcceptWithRollover_of_behind hi hneg' hbehind

/-- **`CheckUnencrypted` is the rollover check, accepting behind the window.** It answers as the
rollover check, or `true` behind the window, and leaves the same state. -/
theorem checkUnencrypted_eq (r : ReceptionState) (c : UInt32) :
    r.checkUnencrypted c =
      ((r.checkAndAccept c true).1 || r.behindWindow c, (r.checkAndAccept c true).2) := by
  simp only [ReceptionState.checkAndAccept, if_true]
  cases hbw : r.behindWindow c with
  | true =>
    rw [checkAndAcceptWithRollover_of_behindWindow hbw]
    simp only [ReceptionState.behindWindow, Bool.and_eq_true, decide_eq_true_eq] at hbw
    obtain ⟨⟨hi, hneg⟩, hbehind⟩ := hbw
    have hne : (c - r.maxCounter).toInt32 ≠ 0 := fun h0 => by
      rw [h0] at hneg
      exact absurd hneg (by decide)
    have hngt : ¬ (c - r.maxCounter).toInt32 > 0 := fun hgt => by
      have h1 := Int32.lt_iff_toInt_lt.mp hgt
      have h2 := Int32.lt_iff_toInt_lt.mp hneg
      simp only [Int32.toInt_zero] at h1 h2
      omega
    have hle : ¬ (-(c - r.maxCounter).toInt32).toUInt32 ≤ counterWindowSize := by
      rw [gt_iff_lt, lt_iff] at hbehind
      rw [le_iff]
      omega
    simp only [ReceptionState.checkUnencrypted, hi, Bool.not_true, Bool.false_eq_true,
      ↓reduceIte, hne, hngt, hle, Bool.false_or]
  | false =>
    -- off that branch the two checks run the same branches in another order
    simp only [ReceptionState.behindWindow, Bool.and_eq_false_iff, decide_eq_false_iff_not]
      at hbw
    unfold ReceptionState.checkUnencrypted ReceptionState.checkAndAcceptWithRollover
    cases hi : r.initialized
    · rfl
    · simp only [hi, Bool.true_eq_false, false_or] at hbw
      simp only [Bool.not_true, Bool.false_eq_true, ↓reduceIte, Bool.or_false]
      by_cases h0 : (c - r.maxCounter).toInt32 = 0
      · have hngt : ¬ (c - r.maxCounter).toInt32 > 0 := by rw [h0]; decide
        rw [if_pos h0, if_neg hngt, if_pos h0]
      · by_cases hgt : (c - r.maxCounter).toInt32 > 0
        · rw [if_neg h0, if_pos hgt, if_pos hgt]
        · have hneg : (c - r.maxCounter).toInt32 < 0 := by
            have h1 := mt Int32.lt_iff_toInt_lt.mpr hgt
            have h2 := mt Int32.toInt_inj.mp h0
            simp only [Int32.toInt_zero] at h1 h2
            exact Int32.lt_iff_toInt_lt.mpr (by simp only [Int32.toInt_zero]; omega)
          have hle : (-(c - r.maxCounter).toInt32).toUInt32 ≤ counterWindowSize := by
            have hbehind := hbw.resolve_left (not_not.mpr hneg)
            rw [gt_iff_lt, lt_iff] at hbehind
            rw [le_iff]
            omega
          rw [if_neg h0, if_neg hgt, if_neg hgt, if_neg h0, if_pos hle, if_pos hle]

/-! ## Runs on an arc -/

/-- **Group counters on an arc.** Take any base `b` and any run from `NewReceptionStateEmpty`
whose counters lie on the arc `b + d`, `0 ≤ d < 2^31`. The rollover check answers every call as
the plain check answers the offsets `d = c - b`; it accepts no counter twice; and
`CheckUnencrypted` on the same run answers as the rollover check except behind the window,
where it accepts what the rollover check refuses, with the same states. -/
theorem rollover_agrees_on_arc (b : UInt32) (cs : List UInt32)
    (harc : ∀ c ∈ cs, (c - b).toNat < 2 ^ 31) :
    Mealy.outputs (fun r c => r.checkAndAccept c true) newReceptionStateEmpty cs =
        Mealy.outputs (fun r d => r.checkAndAccept d false) newReceptionStateEmpty
          (cs.map (· - b)) ∧
      (Mealy.selected (fun r c => r.checkAndAccept c true) newReceptionStateEmpty cs).Nodup ∧
      Mealy.outputs (fun r c => r.checkUnencrypted c) newReceptionStateEmpty cs =
        Mealy.outputs (fun r c => ((r.checkAndAccept c true).1 || r.behindWindow c,
          (r.checkAndAccept c true).2)) newReceptionStateEmpty cs ∧
      ∀ (r : ReceptionState) (c : UInt32), r.behindWindow c = true →
        r.checkAndAccept c true = (false, r) := by
  have hstep := fun r p c (hc : (c - b).toNat < 2 ^ 31) (h : OnArc b r p) => onArc_step h hc
  have hout : (Mealy.outputs (fun r c => r.checkAndAccept c true) newReceptionStateEmpty
      cs).map id = Mealy.outputs (fun r d => r.checkAndAccept d false) newReceptionStateEmpty
        (cs.map (· - b)) :=
    Mealy.map_outputs_of_sim (OnArc b) (· - b) id _ hstep cs _ _ harc (onArc_empty b)
  rw [List.map_id] at hout
  refine ⟨hout, ?_, by simp only [checkUnencrypted_eq], fun r c h => ?_⟩
  · -- the plain run on the offsets selects without repetition, and `· - b` is injective
    have hplain : (Mealy.selected (fun r d => r.checkAndAccept d false) newReceptionStateEmpty
        (cs.map (· - b))).Nodup := by
      rw [Mealy.selected_eq_of_sim Represents (fun r w c h => represents_step h c) _ _ _
        represents_empty]
      exact spec_selected_nodup _ _
    rw [← Mealy.map_selected_of_sim (OnArc b) (· - b) _ hstep cs _ _ harc (onArc_empty b)]
      at hplain
    exact List.Nodup.of_map (· - b) hplain
  · exact checkAndAcceptWithRollover_of_behindWindow h

/-- An arc from `0xFFFFFFF0` across `0`: the counters are the plain offsets `14, 18, 14, 17`, and
the repeated `0xFFFFFFFE` is refused. -/
theorem rollover_agrees_on_arc_wrap :
    (∀ c ∈ ([0xFFFFFFFE, 2, 0xFFFFFFFE, 1] : List UInt32), (c - 0xFFFFFFF0).toNat < 2 ^ 31) ∧
      Mealy.outputs (fun r c => r.checkAndAccept c true) newReceptionStateEmpty
        [0xFFFFFFFE, 2, 0xFFFFFFFE, 1] = [true, true, false, true] :=
  -- the window condition is decided over the list, not over every `UInt32`
  have hall : ([0xFFFFFFFE, 2, 0xFFFFFFFE, 1] : List UInt32).all
      (fun c => (c - 0xFFFFFFF0).toNat < 2 ^ 31) = true := by decide
  have harc : ∀ c ∈ ([0xFFFFFFFE, 2, 0xFFFFFFFE, 1] : List UInt32),
      (c - 0xFFFFFFF0).toNat < 2 ^ 31 := by
    simpa only [decide_eq_true_eq] using List.all_eq_true.mp hall
  ⟨harc, (rollover_agrees_on_arc 0xFFFFFFF0 _ harc).1.trans (by decide)⟩

end Matter.Message
