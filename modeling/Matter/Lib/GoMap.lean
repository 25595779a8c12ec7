import Mathlib.Logic.Function.Basic

/-!
# Go maps

A Go `map[K]V` is a finite partial function: `m[k]` with its `ok` flag is `m k : Option V`,
`m[k] = v` is `insert`, `delete(m, k)` is `delete`, `make(map[K]V)` is `empty`. A map of
pointers whose targets are never mutated through it is a map of values.

The lemmas are the read-after-write rules, stated with `if` so that a case split on the key
closes them, and the `@[simp]` forms for the same key and for a different one.
-/

/-- A Go map from `K` to `V`. -/
abbrev GoMap (K V : Type) := K → Option V

namespace GoMap

variable {K V : Type} [DecidableEq K]

/-- `make(map[K]V)`. -/
def empty : GoMap K V := fun _ => none

/-- `m[k] = v`. -/
def insert (m : GoMap K V) (k : K) (v : V) : GoMap K V := Function.update m k (some v)

/-- `delete(m, k)`. -/
def delete (m : GoMap K V) (k : K) : GoMap K V := Function.update m k none

omit [DecidableEq K] in
@[simp] theorem empty_apply (k : K) : (empty : GoMap K V) k = none := rfl

theorem insert_apply (m : GoMap K V) (k : K) (v : V) (k' : K) :
    m.insert k v k' = if k' = k then some v else m k' := by
  unfold insert
  by_cases h : k' = k
  · subst h; simp
  · simp [h]

theorem delete_apply (m : GoMap K V) (k k' : K) :
    m.delete k k' = if k' = k then none else m k' := by
  unfold delete
  by_cases h : k' = k
  · subst h; simp
  · simp [h]

@[simp] theorem insert_self (m : GoMap K V) (k : K) (v : V) : m.insert k v k = some v := by
  simp [insert_apply]

@[simp] theorem insert_of_ne (m : GoMap K V) {k k' : K} (v : V) (h : k' ≠ k) :
    m.insert k v k' = m k' := by
  simp [insert_apply, h]

@[simp] theorem delete_self (m : GoMap K V) (k : K) : m.delete k k = none := by
  simp [delete_apply]

@[simp] theorem delete_of_ne (m : GoMap K V) {k k' : K} (h : k' ≠ k) : m.delete k k' = m k' := by
  simp [delete_apply, h]

/-- A second write to the same key replaces the first. -/
@[simp] theorem insert_insert (m : GoMap K V) (k : K) (v v' : V) :
    (m.insert k v).insert k v' = m.insert k v' := by
  simp only [insert, Function.update_idem]

end GoMap
