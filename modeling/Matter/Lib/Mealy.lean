import Mathlib.Data.Set.Insert

/-!
# Machines with an output per input, and simulation between them

A component that answers every call and updates its state is `step : σ → ι → ο × σ`
(a Mealy machine). `outputs step s is` is the list of answers to the calls `is` from `s`,
`final step s is` the state they leave.

* `outputs_eq_of_sim`: two machines related by a relation that every step preserves while
  giving the same answer answer every run alike. This is how a faithful model is shown to
  refine an abstract one: the relation is the abstraction, and the step lemma is proved once.
* `final_inv`: an invariant that every step preserves holds after every run;
  `final_inv_of_forall` for runs of the calls a predicate allows.
* `forall_outputs`: a step that keeps an invariant and, from it, answers within a set answers
  within that set along every run.
* `selected`: the inputs a run answered `true`, in order.
-/

namespace Mealy

variable {σ τ ι ο : Type*}

/-- The answers to `is`, each call reading the state the previous one left. -/
def outputs (step : σ → ι → ο × σ) : σ → List ι → List ο
  | _, [] => []
  | s, i :: is => (step s i).1 :: outputs step (step s i).2 is

/-- The state after the calls `is`. -/
def final (step : σ → ι → ο × σ) : σ → List ι → σ
  | s, [] => s
  | s, i :: is => final step (step s i).2 is

@[simp] theorem outputs_nil (step : σ → ι → ο × σ) (s : σ) : outputs step s [] = [] := rfl

@[simp] theorem outputs_cons (step : σ → ι → ο × σ) (s : σ) (i : ι) (is : List ι) :
    outputs step s (i :: is) = (step s i).1 :: outputs step (step s i).2 is := rfl

@[simp] theorem final_nil (step : σ → ι → ο × σ) (s : σ) : final step s [] = s := rfl

@[simp] theorem final_cons (step : σ → ι → ο × σ) (s : σ) (i : ι) (is : List ι) :
    final step s (i :: is) = final step (step s i).2 is := rfl

/-- Renaming the inputs is running on the renamed inputs. -/
theorem outputs_map {κ : Type*} (step : σ → κ → ο × σ) (ψ : ι → κ) (s : σ) (is : List ι) :
    outputs step s (is.map ψ) = outputs (fun s i => step s (ψ i)) s is := by
  induction is generalizing s with
  | nil => rfl
  | cons i is ih => exact congrArg _ (ih _)

theorem final_append (step : σ → ι → ο × σ) (s : σ) (is js : List ι) :
    final step s (is ++ js) = final step (final step s is) js := by
  induction is generalizing s with
  | nil => rfl
  | cons i is ih => exact ih _

theorem outputs_append (step : σ → ι → ο × σ) (s : σ) (is js : List ι) :
    outputs step s (is ++ js) = outputs step s is ++ outputs step (final step s is) js := by
  induction is generalizing s with
  | nil => rfl
  | cons i is ih => exact congrArg _ (ih _)

/-- The state after the first `j + 1` calls is one step from the state after the first `j`. -/
theorem final_take_succ (step : σ → ι → ο × σ) (s : σ) {is : List ι} {j : Nat} {i : ι}
    (h : is[j]? = some i) : final step s (is.take (j + 1)) = (step (final step s (is.take j)) i).2 := by
  rw [List.take_add_one, h, Option.toList_some, final_append, final_cons, final_nil]

/-- The answer to the `j`-th call is the step from the state the first `j` calls leave. -/
theorem getElem?_outputs (step : σ → ι → ο × σ) :
    ∀ (is : List ι) (s : σ) (j : Nat),
      (outputs step s is)[j]? = is[j]?.map fun i => (step (final step s (is.take j)) i).1
  | [], _, _ => rfl
  | _ :: _, _, 0 => rfl
  | i :: is, s, j + 1 => by
    rw [outputs_cons, List.getElem?_cons_succ, getElem?_outputs step is, List.getElem?_cons_succ,
      List.take_succ_cons, final_cons]

theorem length_outputs (step : σ → ι → ο × σ) (s : σ) (is : List ι) :
    (outputs step s is).length = is.length := by
  induction is generalizing s with
  | nil => rfl
  | cons i is ih => simp [ih]

/-- **Simulation.** If `R` relates the states, and from related states both machines give
the same answer and reach related states, then every run gives the same answers. -/
theorem outputs_eq_of_sim {f : σ → ι → ο × σ} {g : τ → ι → ο × τ} (R : σ → τ → Prop)
    (hstep : ∀ s t i, R s t → (f s i).1 = (g t i).1 ∧ R (f s i).2 (g t i).2) :
    ∀ (is : List ι) (s : σ) (t : τ), R s t → outputs f s is = outputs g t is
  | [], _, _, _ => rfl
  | i :: is, s, t, h => by
    obtain ⟨hout, hR⟩ := hstep s t i h
    rw [outputs_cons, outputs_cons, hout, outputs_eq_of_sim R hstep is _ _ hR]

/-- **Simulation up to renaming.** The same over inputs of a set `P`, with the inputs of the
second machine the images `ψ i` and its answers the images `φ o` of the first one's. -/
theorem map_outputs_of_sim {κ π : Type*} {f : σ → ι → ο × σ} {g : τ → κ → π × τ}
    (R : σ → τ → Prop) (ψ : ι → κ) (φ : ο → π) (P : ι → Prop)
    (hstep : ∀ s t i, P i → R s t → φ (f s i).1 = (g t (ψ i)).1 ∧ R (f s i).2 (g t (ψ i)).2) :
    ∀ (is : List ι) (s : σ) (t : τ), (∀ i ∈ is, P i) → R s t →
      (outputs f s is).map φ = outputs g t (is.map ψ)
  | [], _, _, _, _ => rfl
  | i :: is, s, t, hP, h => by
    obtain ⟨hout, hR⟩ := hstep s t i (hP i List.mem_cons_self) h
    rw [outputs_cons, List.map_cons, List.map_cons, outputs_cons, hout,
      map_outputs_of_sim R ψ φ P hstep is _ _ (fun j hj => hP j (List.mem_cons_of_mem i hj)) hR]

/-- The relation of `outputs_eq_of_sim` also holds between the final states. -/
theorem final_sim {f : σ → ι → ο × σ} {g : τ → ι → ο × τ} (R : σ → τ → Prop)
    (hstep : ∀ s t i, R s t → (f s i).1 = (g t i).1 ∧ R (f s i).2 (g t i).2) :
    ∀ (is : List ι) (s : σ) (t : τ), R s t → R (final f s is) (final g t is)
  | [], _, _, h => h
  | i :: is, s, t, h => final_sim R hstep is _ _ (hstep s t i h).2

/-- **Invariant rule.** A predicate kept by every step holds after every run. -/
theorem final_inv {f : σ → ι → ο × σ} (I : σ → Prop) (hstep : ∀ s i, I s → I (f s i).2) :
    ∀ (is : List ι) (s : σ), I s → I (final f s is)
  | [], _, h => h
  | i :: is, s, h => final_inv I hstep is _ (hstep s i h)

/-- **Invariant rule for allowed calls.** An invariant that every call allowed by `A` keeps holds
after every run of allowed calls. -/
theorem final_inv_of_forall {f : σ → ι → ο × σ} (I : σ → Prop) (A : ι → Prop)
    (hstep : ∀ s i, A i → I s → I (f s i).2) :
    ∀ (is : List ι) (s : σ), (∀ i ∈ is, A i) → I s → I (final f s is)
  | [], _, _, h => h
  | i :: is, s, hA, h =>
    final_inv_of_forall I A hstep is _ (fun j hj => hA j (List.mem_cons_of_mem i hj))
      (hstep s i (hA i List.mem_cons_self) h)

/-- **Safety rule.** If every step from a state of the invariant `I` answers within `Q` and keeps
`I`, every answer of a run from a state of `I` is within `Q`. -/
theorem forall_outputs {f : σ → ι → ο × σ} (I : σ → Prop) (Q : ο → Prop)
    (hstep : ∀ s i, I s → Q (f s i).1 ∧ I (f s i).2) :
    ∀ (is : List ι) (s : σ), I s → ∀ o ∈ outputs f s is, Q o
  | [], _, _ => fun _ ho => absurd ho List.not_mem_nil
  | i :: is, s, h => by
    obtain ⟨hq, hi⟩ := hstep s i h
    intro o ho
    rw [outputs_cons, List.mem_cons] at ho
    rcases ho with rfl | ho
    · exact hq
    · exact forall_outputs I Q hstep is _ hi o ho

/-- The inputs a run of a yes/no machine answered `true`, in order. -/
def selected (step : σ → ι → Bool × σ) : σ → List ι → List ι
  | _, [] => []
  | s, i :: is =>
    if (step s i).1 then i :: selected step (step s i).2 is else selected step (step s i).2 is

/-- Two machines with the same answers select the same inputs. -/
theorem selected_eq_of_sim {f : σ → ι → Bool × σ} {g : τ → ι → Bool × τ} (R : σ → τ → Prop)
    (hstep : ∀ s t i, R s t → (f s i).1 = (g t i).1 ∧ R (f s i).2 (g t i).2) :
    ∀ (is : List ι) (s : σ) (t : τ), R s t → selected f s is = selected g t is
  | [], _, _, _ => rfl
  | i :: is, s, t, h => by
    obtain ⟨hout, hR⟩ := hstep s t i h
    simp only [selected, hout, selected_eq_of_sim R hstep is _ _ hR]

/-- Selection under a simulation up to renaming: the second machine selects the renamed inputs
the first one selects. -/
theorem map_selected_of_sim {κ : Type*} {f : σ → ι → Bool × σ} {g : τ → κ → Bool × τ}
    (R : σ → τ → Prop) (ψ : ι → κ) (P : ι → Prop)
    (hstep : ∀ s t i, P i → R s t → (f s i).1 = (g t (ψ i)).1 ∧ R (f s i).2 (g t (ψ i)).2) :
    ∀ (is : List ι) (s : σ) (t : τ), (∀ i ∈ is, P i) → R s t →
      (selected f s is).map ψ = selected g t (is.map ψ)
  | [], _, _, _, _ => rfl
  | i :: is, s, t, hP, h => by
    obtain ⟨hout, hR⟩ := hstep s t i (hP i List.mem_cons_self) h
    have ih := map_selected_of_sim R ψ P hstep is _ _
      (fun j hj => hP j (List.mem_cons_of_mem i hj)) hR
    cases hsel : (f s i).1 with
    | false => simp [selected, hsel, ← hout, ih]
    | true => simp [selected, hsel, ← hout, ih]

/-- **Selection without repetition.** If a machine keeps a set of seen inputs `S s`, selects
only unseen inputs, and adds every input it selects, then a run selects no input twice
and none of those seen at its start. -/
theorem selected_nodup {f : σ → ι → Bool × σ} (S : σ → Set ι)
    (hfresh : ∀ s i, (f s i).1 = true → i ∉ S s ∧ S (f s i).2 = insert i (S s))
    (hkeep : ∀ s i, (f s i).1 = false → S (f s i).2 = S s) :
    ∀ (is : List ι) (s : σ), (selected f s is).Nodup ∧ ∀ i ∈ selected f s is, i ∉ S s
  | [], _ => ⟨List.nodup_nil, fun _ h => absurd h List.not_mem_nil⟩
  | i :: is, s => by
    obtain ⟨hnd, hout⟩ := selected_nodup S hfresh hkeep is (f s i).2
    cases hsel : (f s i).1 with
    | false =>
      simp only [selected, hsel, Bool.false_eq_true, if_false]
      exact ⟨hnd, fun j hj => by simpa [hkeep s i hsel] using hout j hj⟩
    | true =>
      obtain ⟨hi, hS⟩ := hfresh s i hsel
      simp only [selected, hsel, if_true, List.nodup_cons, List.mem_cons]
      refine ⟨⟨fun hmem => ?_, hnd⟩, ?_⟩
      · exact hout i hmem (by rw [hS]; exact Set.mem_insert i (S s))
      · rintro j (rfl | hj)
        · exact hi
        · intro hjS
          exact hout j hj (by rw [hS]; exact Set.mem_insert_of_mem i hjS)

/-- **What a run records.** If every step adds its input to a set `S` exactly when it answers
`true`, the set after the first `j` calls holds what it held at the start and the inputs among
those calls that were answered `true`. -/
theorem mem_final_take_iff {f : σ → ι → Bool × σ} (S : σ → Set ι)
    (hstep : ∀ s i, S (f s i).2 = if (f s i).1 then insert i (S s) else S s)
    (is : List ι) (s : σ) (x : ι) :
    ∀ j, x ∈ S (final f s (is.take j)) ↔
      x ∈ S s ∨ ∃ j' < j, is[j']? = some x ∧ (outputs f s is)[j']? = some true
  | 0 => by simp
  | j + 1 => by
    rw [Nat.exists_lt_succ_right, ← or_assoc, ← mem_final_take_iff S hstep is s x j]
    cases hj : is[j]? with
    | none =>
      -- past the end of the calls the prefix stops growing
      have hlen : is.length ≤ j := List.getElem?_eq_none_iff.mp hj
      rw [List.take_of_length_le (show is.length ≤ j + 1 by omega), List.take_of_length_le hlen]
      simp
    | some i =>
      -- call `j` adds its input exactly when it answers `true`
      rw [final_take_succ f s hj, hstep, getElem?_outputs f is s j, hj, Option.map_some]
      cases (f (final f s (is.take j)) i).1 with
      | false => simp
      | true => simp [or_comm, eq_comm]

end Mealy
