import Matter.Message.Counter
import Matter.Lib.Mealy

/-!
# The replay window refines its specification

`WindowSpec` is the replay window as Spec 4.6.5.2.1 describes it for unicast sessions: it
keeps the set of every counter accepted so far and their maximum, and accepts a counter iff it
was never accepted and is either the first one, above the maximum, or at most 32 below it.
It is what the 32-bit bitmap of `ReceptionState` stands for.

`Represents r w` says which `WindowSpec` a `ReceptionState` stands for: the same
`initialized` flag, the same maximum, and bit `M - c - 1` of the bitmap set iff `c` was
accepted, for every `c` in the window below `M`. `represents_step` shows that one call of
`checkAndAcceptNoRollover` gives the answer of the specification and keeps `Represents`;
it is proved branch by branch of the source, with the bits of `advanceWindow` from
`Counter.lean` for the jumps of every length (past 32, exactly 32, shorter).

Results:
* `checkAndAccept_refines_spec`: from `NewReceptionStateEmpty` and from every
  `NewReceptionState m`, every sequence of `CheckAndAccept(c, false)` calls gives the answers
  of the specification, so no counter is accepted twice in one run.
-/

namespace Matter.Message

open GoWord

/-- The specification's replay state: the accepted counters and their maximum. -/
structure WindowSpec where
  accepted : Set UInt32
  max : UInt32
  initialized : Bool
  accepted_empty : initialized = false → accepted = ∅
  max_mem : initialized = true → max ∈ accepted
  le_max : ∀ c ∈ accepted, c ≤ max

namespace WindowSpec

/-- Nothing accepted yet (`NewReceptionStateEmpty`). -/
def empty : WindowSpec where
  accepted := ∅
  max := 0
  initialized := false
  accepted_empty _ := rfl
  max_mem h := absurd h Bool.false_ne_true
  le_max _ h := absurd h (Set.notMem_empty _)

/-- Synchronised at `m` (`NewReceptionState(m)`): `m` and the 32 counters below it count as
received. -/
def synced (m : UInt32) : WindowSpec where
  accepted := {c | m.toNat - 32 ≤ c.toNat ∧ c ≤ m}
  max := m
  initialized := true
  accepted_empty h := absurd h Bool.noConfusion
  max_mem _ := ⟨Nat.sub_le _ _, (le_iff m m).mpr (Nat.le_refl _)⟩
  le_max _ h := h.2

/-- The specification's acceptance test. -/
def Fresh (w : WindowSpec) (c : UInt32) : Prop :=
  c ∉ w.accepted ∧
    (w.initialized = false ∨ w.max < c ∨ (w.max.toNat - 32 ≤ c.toNat ∧ c < w.max))

/-- Record `c` as accepted. -/
def accept (w : WindowSpec) (c : UInt32) : WindowSpec where
  accepted := insert c w.accepted
  max := if w.initialized = true ∧ c ≤ w.max then w.max else c
  initialized := true
  accepted_empty h := absurd h Bool.noConfusion
  max_mem _ := by
    split
    · rename_i h
      exact Set.mem_insert_of_mem c (w.max_mem h.1)
    · exact Set.mem_insert c _
  le_max x hx := by
    split
    · rename_i h
      rcases hx with rfl | hx
      · exact h.2
      · exact w.le_max x hx
    · rename_i h
      rcases hx with rfl | hx
      · exact (le_iff x x).mpr (Nat.le_refl _)
      · have hle := (le_iff _ _).mp (w.le_max x hx)
        cases hi : w.initialized with
        | false => exact absurd hx (by rw [w.accepted_empty hi]; exact Set.notMem_empty x)
        | true =>
          have hlt : ¬ c.toNat ≤ w.max.toNat := fun hc => h ⟨hi, (le_iff _ _).mpr hc⟩
          exact (le_iff _ _).mpr (by omega)

open Classical in
/-- One call of the specification: accept and record a fresh counter, refuse any other. -/
noncomputable def checkAndAccept (w : WindowSpec) (c : UInt32) : Bool × WindowSpec :=
  if w.Fresh c then (true, w.accept c) else (false, w)

theorem checkAndAccept_of_fresh {w : WindowSpec} {c : UInt32} (h : w.Fresh c) :
    w.checkAndAccept c = (true, w.accept c) := by
  simp [checkAndAccept, h]

theorem checkAndAccept_of_not_fresh {w : WindowSpec} {c : UInt32} (h : ¬ w.Fresh c) :
    w.checkAndAccept c = (false, w) := by
  simp [checkAndAccept, h]

theorem accepted_accept (w : WindowSpec) (c : UInt32) :
    (w.accept c).accepted = insert c w.accepted := rfl

/-- Above the maximum, a counter was never accepted. -/
theorem not_mem_of_max_lt {w : WindowSpec} {c : UInt32} (h : w.max < c) : c ∉ w.accepted := by
  intro hc
  have hle := (le_iff _ _).mp (w.le_max c hc)
  rw [lt_iff] at h
  omega

end WindowSpec

/-- **The abstraction.** `r` stands for `w`: same flag, same maximum, and below the maximum,
within the window, bit `M - c - 1` is set iff `c` was accepted. -/
structure Represents (r : ReceptionState) (w : WindowSpec) : Prop where
  initialized : r.initialized = w.initialized
  max : w.initialized = true → r.maxCounter = w.max
  window : w.initialized = true → ∀ c : UInt32, c.toNat < w.max.toNat →
    w.max.toNat - c.toNat ≤ 32 → (bit r.bitmap (w.max.toNat - c.toNat - 1) = true ↔ c ∈ w.accepted)

theorem represents_empty : Represents newReceptionStateEmpty WindowSpec.empty where
  initialized := rfl
  max h := absurd h Bool.false_ne_true
  window h := absurd h Bool.false_ne_true

theorem represents_synced (m : UInt32) : Represents (newReceptionState m) (WindowSpec.synced m) where
  initialized := rfl
  max _ := rfl
  window _ c hc hw := by
    simp only [WindowSpec.synced] at hc hw ⊢
    have hbit : bit (newReceptionState m).bitmap (m.toNat - c.toNat - 1) = true := by
      simp only [newReceptionState, bit_allOnes, decide_eq_true_eq]; omega
    simp only [hbit, true_iff]
    exact ⟨by omega, (le_iff _ _).mpr (Nat.le_of_lt hc)⟩

/-! ## One call, branch by branch -/

section Step

variable {r : ReceptionState} {w : WindowSpec} {c : UInt32}

/-- The first counter: the specification accepts it, and both sides start a window at it. -/
theorem represents_start (hi : w.initialized = false) :
    w.Fresh c ∧ Represents (ReceptionState.start c) (w.accept c) := by
  have hS := w.accepted_empty hi
  have hmax : (w.accept c).max = c := by simp [WindowSpec.accept, hi]
  refine ⟨⟨by rw [hS]; exact Set.notMem_empty c, Or.inl hi⟩, ⟨rfl, fun _ => hmax.symm, ?_⟩⟩
  intro _ x hx _
  rw [hmax] at hx
  have hxc : x ≠ c := by rw [Ne, eq_iff]; omega
  simp [ReceptionState.start, WindowSpec.accepted_accept, hS, hxc]

/-- A counter above the maximum: fresh, and `advanceWindow` keeps the abstraction for a
jump of any length. -/
theorem represents_advance (h : Represents r w) (hi : w.initialized = true)
    (hc : w.max.toNat < c.toNat) :
    w.Fresh c ∧ Represents (r.advanceWindow c) (w.accept c) := by
  have hlt : w.max < c := (lt_iff _ _).mpr hc
  have hmax := h.max hi
  have hnewmax : (w.accept c).max = c := by
    have : ¬ c ≤ w.max := by rw [le_iff]; omega
    simp [WindowSpec.accept, this]
  refine ⟨⟨WindowSpec.not_mem_of_max_lt hlt, Or.inr (Or.inl hlt)⟩,
    ⟨by simp [h.initialized, hi, WindowSpec.accept], fun _ => hnewmax.symm, ?_⟩⟩
  intro _ x hx hw
  rw [hnewmax] at hx hw ⊢
  have hxc : x ≠ c := by rw [Ne, eq_iff]; omega
  rw [bit_advanceWindow (by rw [hmax]; exact hc), hmax, WindowSpec.accepted_accept,
    Set.mem_insert_iff]
  simp only [hxc, false_or]
  by_cases hd : c.toNat - w.max.toNat ≤ 32
  · rcases Nat.lt_trichotomy x.toNat w.max.toNat with hxm | hxm | hxm
    · -- below the old maximum: the old bit, moved up by the jump
      have hold := h.window hi x hxm (by omega)
      have hne : c.toNat - x.toNat - 1 ≠ c.toNat - w.max.toNat - 1 := by omega
      have hidx : c.toNat - x.toNat - 1 - (c.toNat - w.max.toNat) = w.max.toNat - x.toNat - 1 := by
        omega
      have hge : c.toNat - w.max.toNat ≤ c.toNat - x.toNat - 1 := by omega
      have h32 : c.toNat - x.toNat - 1 < 32 := by omega
      simp only [hd, hne, hge, h32, hidx, decide_true, decide_false, Bool.true_and,
        Bool.false_or, hold]
    · -- the old maximum, marked by the shift
      have hx : x = w.max := (eq_iff _ _).mpr hxm
      subst hx
      simp [hd, w.max_mem hi]
    · -- between the two maxima: never accepted, bit clear
      have hnot : x ∉ w.accepted := WindowSpec.not_mem_of_max_lt ((lt_iff _ _).mpr hxm)
      have hne : c.toNat - x.toNat - 1 ≠ c.toNat - w.max.toNat - 1 := by omega
      have hge : ¬ c.toNat - w.max.toNat ≤ c.toNat - x.toNat - 1 := by omega
      simp [hd, hne, hge, hnot]
  · -- a jump past the window: the bitmap is cleared, and nothing in the new window was
    -- accepted
    simp only [hd, decide_false, Bool.false_and, Bool.false_eq_true, false_iff]
    intro hxS
    have := (le_iff _ _).mp (w.le_max x hxS)
    omega

/-- The maximum itself is never fresh. -/
theorem not_fresh_max (hi : w.initialized = true) : ¬ w.Fresh w.max :=
  fun hf => hf.1 (w.max_mem hi)

/-- More than 32 below the maximum, no counter is fresh. -/
theorem not_fresh_of_behind (hi : w.initialized = true) (hw : 32 < w.max.toNat - c.toNat) :
    ¬ w.Fresh c := by
  rintro ⟨-, hcase⟩
  rcases hcase with h | h | h
  · rw [hi] at h; exact Bool.noConfusion h
  · rw [lt_iff] at h; omega
  · omega

/-- Within the window below the maximum, fresh means the bit is clear, and marking it keeps
the abstraction. -/
theorem represents_window (h : Represents r w) (hi : w.initialized = true)
    (hc : c.toNat < w.max.toNat) (hw : w.max.toNat - c.toNat ≤ 32) :
    (w.Fresh c ↔ bit r.bitmap (w.max.toNat - c.toNat - 1) = false) ∧
      Represents (r.mark (r.maxCounter - c - 1)) (w.accept c) := by
  have hmax := h.max hi
  have hbit := h.window hi c hc hw
  have hclt : c < w.max := (lt_iff _ _).mpr hc
  have hfresh : w.Fresh c ↔ bit r.bitmap (w.max.toNat - c.toNat - 1) = false := by
    constructor
    · rintro ⟨hnot, -⟩
      cases hb : bit r.bitmap (w.max.toNat - c.toNat - 1)
      · rfl
      · exact absurd (hbit.mp hb) hnot
    · intro hb
      refine ⟨fun hmem => ?_, Or.inr (Or.inr ⟨by omega, hclt⟩)⟩
      rw [hbit.mpr hmem] at hb
      exact Bool.noConfusion hb
  have hnewmax : (w.accept c).max = w.max := by
    simp [WindowSpec.accept, hi, (le_iff _ _).mpr (Nat.le_of_lt hc)]
  have hsub : (r.maxCounter - c).toNat = w.max.toNat - c.toNat := by
    rw [hmax]; exact toNat_sub ((le_iff _ _).mpr (Nat.le_of_lt hc))
  have hoff : (r.maxCounter - c - 1).toNat = w.max.toNat - c.toNat - 1 := by
    rw [toNat_sub ((le_iff _ _).mpr (by rw [hsub, UInt32.toNat_one]; omega)), hsub,
      UInt32.toNat_one]
  have ho : r.maxCounter - c - 1 < counterWindowSize := by
    rw [lt_iff, hoff, toNat_counterWindowSize]; omega
  refine ⟨hfresh, ⟨by simp [h.initialized, hi, WindowSpec.accept],
    fun _ => by rw [maxCounter_mark, hnewmax, hmax], ?_⟩⟩
  intro _ x hx hxw
  rw [hnewmax] at hx hxw ⊢
  rw [bit_mark ho, hoff, WindowSpec.accepted_accept, Set.mem_insert_iff, Bool.or_eq_true,
    h.window hi x hx hxw, decide_eq_true_eq, eq_iff x c]
  constructor
  · rintro (hx' | hx')
    · exact Or.inr hx'
    · exact Or.inl (by omega)
  · rintro (hx' | hx')
    · exact Or.inr (by omega)
    · exact Or.inl hx'

end Step

/-- **One call.** `CheckAndAccept(c, false)` answers as the specification and keeps the
abstraction. The cases are the branches of `checkAndAcceptNoRollover`. -/
theorem represents_step {r : ReceptionState} {w : WindowSpec} (h : Represents r w)
    (c : UInt32) :
    (r.checkAndAccept c false).1 = (w.checkAndAccept c).1 ∧
      Represents (r.checkAndAccept c false).2 (w.checkAndAccept c).2 := by
  simp only [ReceptionState.checkAndAccept, Bool.false_eq_true, if_false]
  cases hi : w.initialized with
  | false =>
    obtain ⟨hf, hR⟩ := represents_start (c := c) hi
    rw [checkAndAcceptNoRollover_of_not_initialized (h.initialized.trans hi),
      WindowSpec.checkAndAccept_of_fresh hf]
    exact ⟨rfl, hR⟩
  | true =>
    have hr : r.initialized = true := h.initialized.trans hi
    have hmax := h.max hi
    rcases Nat.lt_trichotomy w.max.toNat c.toNat with hc | hc | hc
    · obtain ⟨hf, hR⟩ := represents_advance h hi hc
      rw [checkAndAcceptNoRollover_of_ahead hr (by rw [hmax]; exact hc),
        WindowSpec.checkAndAccept_of_fresh hf]
      exact ⟨rfl, hR⟩
    · have hceq : c = w.max := (eq_iff _ _).mpr hc.symm
      subst hceq
      rw [checkAndAcceptNoRollover_of_eq hr hmax.symm,
        WindowSpec.checkAndAccept_of_not_fresh (not_fresh_max hi)]
      exact ⟨rfl, h⟩
    · by_cases hw : w.max.toNat - c.toNat ≤ 32
      · obtain ⟨hf, hR⟩ := represents_window h hi hc hw
        rw [checkAndAcceptNoRollover_of_window hr (by rw [hmax]; exact hc)
          (by rw [hmax]; exact hw)]
        rw [hmax] at hR ⊢
        cases hb : bit r.bitmap (w.max.toNat - c.toNat - 1) with
        | false =>
          rw [WindowSpec.checkAndAccept_of_fresh (hf.mpr hb)]
          exact ⟨rfl, hR⟩
        | true =>
          rw [WindowSpec.checkAndAccept_of_not_fresh (fun hfr => by
            rw [hf.mp hfr] at hb; exact Bool.noConfusion hb)]
          exact ⟨rfl, h⟩
      · have hw' : 32 < w.max.toNat - c.toNat := by omega
        rw [checkAndAcceptNoRollover_of_behind hr (by rw [hmax]; exact hw'),
          WindowSpec.checkAndAccept_of_not_fresh (not_fresh_of_behind hi hw')]
        exact ⟨rfl, h⟩

/-- The specification accepts a counter only if it was never accepted, and records it. -/
theorem spec_selected_nodup (w : WindowSpec) (cs : List UInt32) :
    (Mealy.selected WindowSpec.checkAndAccept w cs).Nodup := by
  refine (Mealy.selected_nodup WindowSpec.accepted (fun w c hc => ?_) (fun w c hc => ?_) cs w).1
  · by_cases hf : w.Fresh c
    · rw [WindowSpec.checkAndAccept_of_fresh hf]
      exact ⟨hf.1, WindowSpec.accepted_accept w c⟩
    · rw [WindowSpec.checkAndAccept_of_not_fresh hf] at hc
      exact Bool.noConfusion hc
  · by_cases hf : w.Fresh c
    · rw [WindowSpec.checkAndAccept_of_fresh hf] at hc
      exact Bool.noConfusion hc
    · rw [WindowSpec.checkAndAccept_of_not_fresh hf]

/-! ## Runs of the specification -/

namespace WindowSpec

/-- A call records its counter exactly when it accepts it. -/
theorem accepted_checkAndAccept (w : WindowSpec) (c : UInt32) :
    (w.checkAndAccept c).2.accepted =
      if (w.checkAndAccept c).1 then insert c w.accepted else w.accepted := by
  by_cases hf : w.Fresh c
  · rw [checkAndAccept_of_fresh hf]
    rfl
  · rw [checkAndAccept_of_not_fresh hf]
    rfl

/-- Before call `j` of a run from `empty`, the accepted counters are those of the earlier calls
answered `true`. -/
theorem mem_accepted_run {cs : List UInt32} {j : Nat} {c : UInt32} :
    c ∈ (Mealy.final checkAndAccept empty (cs.take j)).accepted ↔
      ∃ j' < j, cs[j']? = some c ∧ (Mealy.outputs checkAndAccept empty cs)[j']? = some true := by
  rw [Mealy.mem_final_take_iff accepted accepted_checkAndAccept]
  simp [empty]

/-- **No second acceptance.** In a run from `empty`, a counter accepted once is refused at
every later call. -/
theorem run_refuses_again {cs : List UInt32} {j₁ j₂ : Nat} {c : UInt32} (hlt : j₁ < j₂)
    (h₁ : cs[j₁]? = some c) (h₂ : cs[j₂]? = some c)
    (hacc : (Mealy.outputs checkAndAccept empty cs)[j₁]? = some true) :
    (Mealy.outputs checkAndAccept empty cs)[j₂]? = some false := by
  have hmem : c ∈ (Mealy.final checkAndAccept empty (cs.take j₂)).accepted :=
    mem_accepted_run.mpr ⟨j₁, hlt, h₁, hacc⟩
  rw [Mealy.getElem?_outputs, h₂, Option.map_some,
    checkAndAccept_of_not_fresh (fun hf => hf.1 hmem)]

/-- **Acceptance within the window.** In a run from `empty`, a counter is accepted when no
earlier accepted counter equals it or exceeds it by more than 32. -/
theorem run_accepts {cs : List UInt32} {j : Nat} {c : UInt32} (hc : cs[j]? = some c)
    (hprev : ∀ j' < j, ∀ c', cs[j']? = some c' →
      (Mealy.outputs checkAndAccept empty cs)[j']? = some true →
        c' ≠ c ∧ c'.toNat ≤ c.toNat + 32) :
    (Mealy.outputs checkAndAccept empty cs)[j]? = some true := by
  have hfresh : (Mealy.final checkAndAccept empty (cs.take j)).Fresh c := by
    refine ⟨fun hmem => ?_, ?_⟩
    · obtain ⟨j', hj', hc', hacc⟩ := mem_accepted_run.mp hmem
      exact (hprev j' hj' c hc' hacc).1 rfl
    · -- the maximum is an earlier accepted counter, so at most 32 above `c`
      cases hi : (Mealy.final checkAndAccept empty (cs.take j)).initialized with
      | false => exact Or.inl rfl
      | true =>
        obtain ⟨j', hj', hc', hacc⟩ := mem_accepted_run.mp
          ((Mealy.final checkAndAccept empty (cs.take j)).max_mem hi)
        obtain ⟨hne, hle⟩ := hprev j' hj' _ hc' hacc
        have hne' := mt (eq_iff _ _).mpr hne
        rcases Nat.lt_or_gt_of_ne hne' with hlt | hgt
        · exact Or.inr (Or.inl ((lt_iff _ _).mpr hlt))
        · exact Or.inr (Or.inr ⟨by omega, (lt_iff _ _).mpr hgt⟩)
  rw [Mealy.getElem?_outputs, hc, Option.map_some, checkAndAccept_of_fresh hfresh]

end WindowSpec

/-! ## Accepted once, refused for good -/

/-- Every reception state stands for some specification: nothing before the first counter;
after it, the maximum and the counters of the window whose bits are set. -/
theorem exists_represents (r : ReceptionState) : ∃ w, Represents r w := by
  cases hi : r.initialized with
  | false => exact ⟨WindowSpec.empty, ⟨hi, fun h => absurd h Bool.false_ne_true,
      fun h => absurd h Bool.false_ne_true⟩⟩
  | true =>
    let w : WindowSpec :=
      { accepted := {c | c = r.maxCounter ∨ (c.toNat < r.maxCounter.toNat ∧
          r.maxCounter.toNat - c.toNat ≤ 32 ∧ bit r.bitmap (r.maxCounter.toNat - c.toNat - 1))}
        max := r.maxCounter
        initialized := true
        accepted_empty := fun h => absurd h Bool.noConfusion
        max_mem := fun _ => Or.inl rfl
        le_max := fun c hc => by
          rcases hc with rfl | ⟨hlt, -⟩
          · exact (le_iff _ _).mpr (Nat.le_refl _)
          · exact (le_iff _ _).mpr (Nat.le_of_lt hlt) }
    refine ⟨w, ⟨hi, fun _ => rfl, fun _ c hc hw => ?_⟩⟩
    have hne : c ≠ r.maxCounter := fun h => by rw [h] at hc; exact Nat.lt_irrefl _ hc
    show _ ↔ c = r.maxCounter ∨ _
    simp only [hne, false_or]
    exact ⟨fun hb => ⟨hc, hw, hb⟩, fun h => h.2.2⟩

/-- `r` has accepted `c`: a specification that `r` stands for holds it. -/
def ReceptionState.Seen (r : ReceptionState) (c : UInt32) : Prop :=
  ∃ w, Represents r w ∧ c ∈ w.accepted

section Seen

variable {r : ReceptionState} {c : UInt32}

/-- A seen counter is refused. -/
theorem checkAndAccept_of_seen (h : r.Seen c) : (r.checkAndAccept c false).1 = false := by
  obtain ⟨w, hR, hc⟩ := h
  rw [(represents_step hR c).1, WindowSpec.checkAndAccept_of_not_fresh (fun hf => hf.1 hc)]

/-- A counter accepted is seen afterwards. -/
theorem seen_checkAndAccept_self (h : (r.checkAndAccept c false).1 = true) :
    (r.checkAndAccept c false).2.Seen c := by
  obtain ⟨w, hR⟩ := exists_represents r
  obtain ⟨hans, hR'⟩ := represents_step hR c
  by_cases hf : w.Fresh c
  · rw [WindowSpec.checkAndAccept_of_fresh hf] at hR'
    exact ⟨_, hR', Set.mem_insert c _⟩
  · rw [h, WindowSpec.checkAndAccept_of_not_fresh hf] at hans
    exact absurd hans Bool.noConfusion

/-- A seen counter stays seen, whatever counter is checked next. -/
theorem seen_checkAndAccept (h : r.Seen c) (c' : UInt32) : (r.checkAndAccept c' false).2.Seen c := by
  obtain ⟨w, hR, hc⟩ := h
  refine ⟨_, (represents_step hR c').2, ?_⟩
  rw [WindowSpec.accepted_checkAndAccept]
  split
  · exact Set.mem_insert_of_mem c' hc
  · exact hc

end Seen

/-- **Replay-window refinement.** From `NewReceptionStateEmpty` and from `NewReceptionState m`,
every run of `CheckAndAccept(c, false)` answers as the specification `WindowSpec` (accepted iff
never accepted and first, above the maximum, or at most 32 below it), and accepts no counter
twice. -/
theorem checkAndAccept_refines_spec (m : UInt32) (cs : List UInt32) :
    Mealy.outputs (fun r c => r.checkAndAccept c false) newReceptionStateEmpty cs =
        Mealy.outputs WindowSpec.checkAndAccept WindowSpec.empty cs ∧
      Mealy.outputs (fun r c => r.checkAndAccept c false) (newReceptionState m) cs =
        Mealy.outputs WindowSpec.checkAndAccept (WindowSpec.synced m) cs ∧
      (Mealy.selected (fun r c => r.checkAndAccept c false) newReceptionStateEmpty cs).Nodup ∧
      (Mealy.selected (fun r c => r.checkAndAccept c false) (newReceptionState m) cs).Nodup := by
  have hstep := fun r w c (h : Represents r w) => represents_step h c
  refine ⟨Mealy.outputs_eq_of_sim Represents hstep cs _ _ represents_empty,
    Mealy.outputs_eq_of_sim Represents hstep cs _ _ (represents_synced m), ?_, ?_⟩
  · rw [Mealy.selected_eq_of_sim Represents hstep cs _ _ represents_empty]
    exact spec_selected_nodup _ cs
  · rw [Mealy.selected_eq_of_sim Represents hstep cs _ _ (represents_synced m)]
    exact spec_selected_nodup _ cs

end Matter.Message
