import Mathlib.Data.List.Perm.Subperm

/-!
# Ranging over a Go map

A `range` loop over a Go `map[K]V` visits its entries in an order the language leaves
unspecified, and different on each loop. A map is then a list of entries with distinct keys,
and every order a loop may take is a permutation of it. A loop that returns the first entry
passing a test is `List.find?` over the order taken; a `for idx := lo; idx <= hi; idx++` loop
looks for a key missing from the map.

* `find?_perm`: when at most one entry passes the test, every order returns the same entry.
* `exists_mem_not_mem_of_length_lt`: a map with fewer entries than a range has values misses
  one of them, so a search of the range for a missing key finds one.
-/

namespace MapRange

variable {α : Type*}

/-- At most one element of `l` passes `p`. -/
def AtMostOne (p : α → Bool) (l : List α) : Prop :=
  ∀ a ∈ l, ∀ b ∈ l, p a = true → p b = true → a = b

theorem AtMostOne.perm {p : α → Bool} {l l' : List α} (h : l.Perm l') (hu : AtMostOne p l) :
    AtMostOne p l' :=
  fun a ha b hb => hu a (h.mem_iff.mpr ha) b (h.mem_iff.mpr hb)

theorem AtMostOne.sublist {p : α → Bool} {l l' : List α} (h : l'.Sublist l)
    (hu : AtMostOne p l) : AtMostOne p l' :=
  fun a ha b hb => hu a (h.subset ha) b (h.subset hb)

/-- **The first match is the same in every order** when at most one element matches. -/
theorem find?_perm {p : α → Bool} {l l' : List α} (h : l.Perm l') (hu : AtMostOne p l) :
    l.find? p = l'.find? p := by
  cases hf : l.find? p with
  | none =>
    -- no element of `l`, hence none of `l'`, passes the test
    rw [List.find?_eq_none] at hf
    exact (List.find?_eq_none.mpr fun x hx => hf x (h.mem_iff.mpr hx)).symm
  | some a =>
    have ha := List.mem_of_find?_eq_some hf
    have hpa := List.find?_some hf
    cases hf' : l'.find? p with
    | none =>
      rw [List.find?_eq_none] at hf'
      exact absurd hpa (by simpa using hf' a (h.mem_iff.mp ha))
    | some b =>
      have hb := List.mem_of_find?_eq_some hf'
      exact congrArg some (hu a ha b (h.mem_iff.mpr hb) hpa (List.find?_some hf'))

/-- **Pigeonhole**: a list shorter than a list without duplicates misses one of its elements. -/
theorem exists_mem_not_mem_of_length_lt {c k : List α} (hc : c.Nodup)
    (h : k.length < c.length) : ∃ x ∈ c, x ∉ k := by
  by_contra hall
  have hsub : c ⊆ k := fun x hx => Classical.byContradiction fun hxk => hall ⟨x, hx, hxk⟩
  exact absurd (hc.subperm hsub).length_le (Nat.not_le.mpr h)

end MapRange
