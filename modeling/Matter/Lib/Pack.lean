import Mathlib.Algebra.GroupWithZero.Nat
import Mathlib.Data.List.Basic

/-!
# Greedy packing of a list into chunks

The loop that cuts a list into chunks under a size limit:

    for _, x := range xs {
        if size > 0 && size+cost(x)+overhead > limit { emit(current); current, size = empty, 0 }
        current = put(current, x); size += cost(x)
    }

after which the caller emits the last chunk when it holds anything. A chunk is any type with an
empty value and a way to add an item (`put`), so that the same loop can fill several lists of
one chunk one after the other, sharing its size counter. What the loop guarantees is stated
through measures that `put` extends: what the chunks hold, in order (`contents_run`), and the
number and total cost of their items (`Fits`).

Results:
* `contents_run`: the chunks emitted and the one being filled hold the items, in order.
* `fits_run`: every chunk emitted holds an item, and every chunk of two items or more costs,
  with the overhead, at most the limit.
-/

namespace Pack

variable {α β γ : Type}

/-- The state of the loop: the chunks emitted so far, the chunk being filled, and its size. -/
structure State (γ : Type) where
  chunks : List γ
  current : γ
  size : Nat

section Loop

variable (empty : γ) (put : γ → α → γ) (cost : α → Nat) (overhead limit : Nat)

/-- One turn: emit the chunk being filled when the item would take it past the limit, then add
the item. -/
def step (s : State γ) (x : α) : State γ :=
  let s : State γ :=
    if 0 < s.size ∧ limit < s.size + cost x + overhead then ⟨s.chunks ++ [s.current], empty, 0⟩
    else s
  ⟨s.chunks, put s.current x, s.size + cost x⟩

/-- The loop over a list. -/
def run (s : State γ) (xs : List α) : State γ :=
  xs.foldl (step empty put cost overhead limit) s

@[simp] theorem run_nil (s : State γ) : run empty put cost overhead limit s [] = s := rfl

@[simp] theorem run_cons (s : State γ) (x : α) (xs : List α) :
    run empty put cost overhead limit s (x :: xs) =
      run empty put cost overhead limit (step empty put cost overhead limit s x) xs := rfl

theorem run_append (s : State γ) (xs ys : List α) :
    run empty put cost overhead limit s (xs ++ ys) =
      run empty put cost overhead limit (run empty put cost overhead limit s xs) ys := by
  simp [run, List.foldl_append]

/-- The step either keeps the chunks and adds the item to the current one, or emits the current
one and starts the next with the item. -/
theorem step_cases (s : State γ) (x : α) :
    (¬(0 < s.size ∧ limit < s.size + cost x + overhead) ∧
      step empty put cost overhead limit s x = ⟨s.chunks, put s.current x, s.size + cost x⟩) ∨
    ((0 < s.size ∧ limit < s.size + cost x + overhead) ∧
      step empty put cost overhead limit s x = ⟨s.chunks ++ [s.current], put empty x, cost x⟩) := by
  by_cases h : 0 < s.size ∧ limit < s.size + cost x + overhead
  · exact .inr ⟨h, by simp [step, h]⟩
  · exact .inl ⟨h, by simp [step, h]⟩

end Loop

/-! ## What the chunks hold -/

/-- What the chunks of a state hold, in order, as seen through `κ`. -/
def State.contents (κ : γ → List β) (s : State γ) : List β :=
  (s.chunks.map κ).flatten ++ κ s.current

section Contents

variable {empty : γ} {put : γ → α → γ} {κ : γ → List β} {g : α → List β}
  (hempty : κ empty = []) (hput : ∀ c x, κ (put c x) = κ c ++ g x)
  (cost : α → Nat) (overhead limit : Nat)
include hempty hput

theorem contents_step (s : State γ) (x : α) :
    (step empty put cost overhead limit s x).contents κ = s.contents κ ++ g x := by
  rcases step_cases empty put cost overhead limit s x with ⟨-, h⟩ | ⟨-, h⟩ <;>
    simp [h, State.contents, hempty, hput]

/-- **The chunks hold the items in order.** Through any `κ` that `put` extends by `g`, the
chunks after the loop hold what they held before, then the items' `g` in order. -/
theorem contents_run (s : State γ) (xs : List α) :
    (run empty put cost overhead limit s xs).contents κ = s.contents κ ++ (xs.map g).flatten := by
  induction xs generalizing s with
  | nil => simp
  | cons x xs ih => simp [ih, contents_step hempty hput, List.append_assoc]

end Contents

/-! ## The chunks fit -/

/-- The invariant of the loop, with `count` the items a chunk holds and `weight` their cost: the
size counter is the weight of the chunk being filled and is zero only when it is empty, a chunk
of two items or more fits with the overhead, and every chunk emitted holds an item. -/
structure Fits (count weight : γ → Nat) (overhead limit : Nat) (s : State γ) : Prop where
  size_eq : s.size = weight s.current
  size_pos : 0 < s.size ↔ 0 < count s.current
  current_fits : 2 ≤ count s.current → s.size + overhead ≤ limit
  chunks_fit : ∀ c ∈ s.chunks, 0 < count c ∧ (2 ≤ count c → weight c + overhead ≤ limit)

/-- An empty chunk with a zero counter starts the invariant. -/
theorem fits_start {empty : γ} {count weight : γ → Nat} {overhead limit : Nat}
    (hcount0 : count empty = 0) (hweight0 : weight empty = 0) (chunks : List γ)
    (hchunks : ∀ c ∈ chunks, 0 < count c ∧ (2 ≤ count c → weight c + overhead ≤ limit)) :
    Fits count weight overhead limit ⟨chunks, empty, 0⟩ :=
  ⟨by simp [hweight0], by simp [hcount0], by simp [hcount0], hchunks⟩

/-- With the chunk being filled holding an item, every chunk, that one included, holds an item
and fits when it holds two or more. -/
theorem Fits.all {count weight : γ → Nat} {overhead limit : Nat} {s : State γ}
    (hs : Fits count weight overhead limit s) (hcur : 0 < count s.current) :
    ∀ c ∈ s.chunks ++ [s.current], 0 < count c ∧ (2 ≤ count c → weight c + overhead ≤ limit) := by
  intro c hc
  rcases List.mem_append.mp hc with hc | hc
  · exact hs.chunks_fit c hc
  · rw [List.mem_singleton.mp hc]
    exact ⟨hcur, fun h2 => hs.size_eq ▸ hs.current_fits h2⟩

section Fits

variable {empty : γ} {put : γ → α → γ} {cost : α → Nat} {count weight : γ → Nat}
  {overhead limit : Nat}
  (hcount0 : count empty = 0) (hweight0 : weight empty = 0)
  (hcount : ∀ c x, count (put c x) = count c + 1)
  (hweight : ∀ c x, weight (put c x) = weight c + cost x) (hcost : ∀ x, 0 < cost x)
include hcount0 hweight0 hcount hweight hcost

theorem fits_step {s : State γ} (hs : Fits count weight overhead limit s) (x : α) :
    Fits count weight overhead limit (step empty put cost overhead limit s x) := by
  have hx := hcost x
  rcases step_cases empty put cost overhead limit s x with ⟨hkeep, h⟩ | ⟨hemit, h⟩
  · -- the item joins the chunk: it was empty, or the item fits with the overhead
    rw [h]
    refine ⟨by simp [hs.size_eq, hweight], by simp [hcount]; omega, fun h2 => ?_, hs.chunks_fit⟩
    have hpos : 0 < s.size := hs.size_pos.mpr (by simp [hcount] at h2; omega)
    simp only at ⊢
    omega
  · -- the chunk is emitted, holding an item, and the next starts with this one
    rw [h]
    have hpos : 0 < count s.current := hs.size_pos.mp hemit.1
    exact ⟨by simp [hweight, hweight0], by simp [hcount, hcount0]; omega,
      by simp [hcount, hcount0], hs.all hpos⟩

/-- **The chunks fit.** The loop keeps `Fits`. -/
theorem fits_run {s : State γ} (hs : Fits count weight overhead limit s) (xs : List α) :
    Fits count weight overhead limit (run empty put cost overhead limit s xs) := by
  induction xs generalizing s with
  | nil => exact hs
  | cons x xs ih =>
    exact ih (fits_step hcount0 hweight0 hcount hweight hcost hs x)

end Fits

/-- After a non-empty list the chunk being filled holds an item. -/
theorem count_run_pos {empty : γ} {put : γ → α → γ} {count : γ → Nat}
    (hcount : ∀ c x, count (put c x) = count c + 1) (cost : α → Nat) (overhead limit : Nat)
    (s : State γ) {xs : List α} (hxs : xs ≠ []) :
    0 < count (run empty put cost overhead limit s xs).current := by
  obtain ⟨ys, y, rfl⟩ := (List.eq_nil_or_concat xs).resolve_left hxs
  rw [List.concat_eq_append, run_append, run_cons, run_nil]
  rcases step_cases empty put cost overhead limit (run empty put cost overhead limit s ys) y with
    ⟨-, h⟩ | ⟨-, h⟩ <;> simp [h, hcount]

/-! ## Packing lists -/

section Lists

/-- **Packing a list.** Cutting a list of items of positive cost into lists: the last chunk
holds an item, the chunks with it hold the items in order, and each chunk holds an item and fits
with the overhead when it holds two or more. -/
theorem run_list {cost : α → Nat} (hcost : ∀ x, 0 < cost x) (overhead limit : Nat)
    {xs : List α} (hxs : xs ≠ []) :
    let s := run [] (fun c x => c ++ [x]) cost overhead limit ⟨[], [], 0⟩ xs
    s.current ≠ [] ∧ (s.chunks ++ [s.current]).flatten = xs ∧
      ∀ c ∈ s.chunks ++ [s.current], c ≠ [] ∧
        (2 ≤ c.length → (c.map cost).sum + overhead ≤ limit) := by
  intro s
  let count : List α → Nat := List.length
  let weight : List α → Nat := fun c => (c.map cost).sum
  have hcount0 : count [] = 0 := rfl
  have hweight0 : weight [] = 0 := rfl
  have hcount : ∀ c x, count (c ++ [x]) = count c + 1 := by simp [count]
  have hweight : ∀ c x, weight (c ++ [x]) = weight c + cost x := by simp [weight]
  have hfits : Fits count weight overhead limit s :=
    fits_run hcount0 hweight0 hcount hweight hcost (fits_start hcount0 hweight0 [] (by simp)) xs
  have hcur : 0 < count s.current := count_run_pos hcount cost overhead limit _ hxs
  have hcontents : s.contents id = [] ++ (xs.map fun x => [x]).flatten :=
    contents_run (show (id : List α → List α) [] = [] from rfl)
      (fun c x => show id (c ++ [x]) = id c ++ [x] from rfl) cost overhead limit _ xs
  refine ⟨List.ne_nil_of_length_pos hcur,
    by simpa [State.contents, ← List.flatMap_def] using hcontents, fun c hc => ?_⟩
  obtain ⟨hpos, hfit⟩ := hfits.all hcur c hc
  exact ⟨List.ne_nil_of_length_pos hpos, hfit⟩

/-- **Packing two lists, one after the other, into the same chunks.** Each chunk is a pair of
lists; the loop runs over the first list filling the first components, then over the second
filling the second ones, with one size counter. -/
theorem run_prod {cost₁ : α → Nat} {cost₂ : β → Nat} (h₁ : ∀ x, 0 < cost₁ x)
    (h₂ : ∀ y, 0 < cost₂ y) (overhead limit : Nat) {xs : List α} {ys : List β}
    (hne : xs ≠ [] ∨ ys ≠ []) :
    let s := run ([], []) (fun c y => (c.1, c.2 ++ [y])) cost₂ overhead limit
      (run ([], []) (fun c x => (c.1 ++ [x], c.2)) cost₁ overhead limit ⟨[], ([], []), 0⟩ xs) ys
    (s.current.1 ≠ [] ∨ s.current.2 ≠ []) ∧
      ((s.chunks ++ [s.current]).map Prod.fst).flatten = xs ∧
      ((s.chunks ++ [s.current]).map Prod.snd).flatten = ys ∧
      ∀ c ∈ s.chunks ++ [s.current], (c.1 ≠ [] ∨ c.2 ≠ []) ∧
        (2 ≤ c.1.length + c.2.length →
          (c.1.map cost₁).sum + (c.2.map cost₂).sum + overhead ≤ limit) := by
  intro s
  let count : List α × List β → Nat := fun c => c.1.length + c.2.length
  let weight : List α × List β → Nat := fun c => (c.1.map cost₁).sum + (c.2.map cost₂).sum
  have hne_iff : ∀ c : List α × List β, 0 < count c ↔ c.1 ≠ [] ∨ c.2 ≠ [] := by
    intro c
    simp only [count, ne_eq, ← List.length_eq_zero_iff]
    omega
  have hcount0 : count ([], []) = 0 := rfl
  have hweight0 : weight ([], []) = 0 := rfl
  have hcount₁ : ∀ c x, count (c.1 ++ [x], c.2) = count c + 1 := by simp [count]; omega
  have hweight₁ : ∀ c x, weight (c.1 ++ [x], c.2) = weight c + cost₁ x := by
    simp [weight]; omega
  have hcount₂ : ∀ c y, count (c.1, c.2 ++ [y]) = count c + 1 := by simp [count]; omega
  have hweight₂ : ∀ c y, weight (c.1, c.2 ++ [y]) = weight c + cost₂ y := by simp [weight]; omega
  let s₁ : State (List α × List β) :=
    run ([], []) (fun c x => (c.1 ++ [x], c.2)) cost₁ overhead limit ⟨[], ([], []), 0⟩ xs
  have hfits : Fits count weight overhead limit s :=
    fits_run hcount0 hweight0 hcount₂ hweight₂ h₂
      (fits_run hcount0 hweight0 hcount₁ hweight₁ h₁ (fits_start hcount0 hweight0 [] (by simp)) xs)
      ys
  -- the last chunk holds the last item of the second list, or else of the first
  have hcur : 0 < count s.current := by
    by_cases hys : ys = []
    · have hxs : xs ≠ [] := hne.resolve_right (not_not.mpr hys)
      simpa [s, hys] using count_run_pos hcount₁ cost₁ overhead limit ⟨[], ([], []), 0⟩ hxs
    · exact count_run_pos hcount₂ cost₂ overhead limit s₁ hys
  -- each list reaches its own components of the chunks, and leaves the other's as they are
  have hfst₁ : s₁.contents Prod.fst = [] ++ (xs.map fun x => [x]).flatten :=
    @contents_run α α _ ([], []) (fun c x => (c.1 ++ [x], c.2)) Prod.fst (fun x => [x]) rfl
      (fun _ _ => rfl) cost₁ overhead limit _ xs
  have hsnd₁ : s₁.contents Prod.snd = [] ++ (xs.map fun _ => ([] : List β)).flatten :=
    @contents_run α β _ ([], []) (fun c x => (c.1 ++ [x], c.2)) Prod.snd (fun _ => []) rfl
      (fun _ _ => (List.append_nil _).symm) cost₁ overhead limit _ xs
  have hfst : s.contents Prod.fst = s₁.contents Prod.fst ++ (ys.map fun _ => ([] : List α)).flatten :=
    @contents_run β α _ ([], []) (fun c y => (c.1, c.2 ++ [y])) Prod.fst (fun _ => []) rfl
      (fun _ _ => (List.append_nil _).symm) cost₂ overhead limit s₁ ys
  have hsnd : s.contents Prod.snd = s₁.contents Prod.snd ++ (ys.map fun y => [y]).flatten :=
    @contents_run β β _ ([], []) (fun c y => (c.1, c.2 ++ [y])) Prod.snd (fun y => [y]) rfl
      (fun _ _ => rfl) cost₂ overhead limit s₁ ys
  rw [hfst₁] at hfst
  rw [hsnd₁] at hsnd
  refine ⟨(hne_iff _).mp hcur, by simpa [State.contents, ← List.flatMap_def] using hfst,
    by simpa [State.contents, ← List.flatMap_def] using hsnd, fun c hc => ?_⟩
  obtain ⟨hpos, hfit⟩ := hfits.all hcur c hc
  exact ⟨(hne_iff c).mp hpos, hfit⟩

end Lists

end Pack
