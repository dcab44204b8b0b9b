import Mathlib.Data.List.Basic
import Mathlib.Tactic.Common

/-!
This module contains a fixed array of `cap` slots of which the first `count` are in use, and the list
of the elements in use that everything about it is stated with.
-/

theorem Vector.get_set_fin {α : Type u} {n : Nat} (xs : Vector α n) (i j : Fin n) (x : α)
    : (xs.set i x i.isLt).get j = if i = j then x else xs.get j := by
  simp only [Fin.ext_iff]
  exact Vector.getElem_set i.isLt j.isLt

structure BoundedArray (α : Type u) (cap : Nat) where
  items : Vector α cap
  count : Nat
  count_le : count ≤ cap
  deriving DecidableEq, Repr

namespace BoundedArray

variable {α : Type u} {cap : Nat}

def empty (fill : α) : BoundedArray α cap where
  items := Vector.replicate cap fill
  count := 0
  count_le := by omega

def push (a : BoundedArray α cap) (x : α) : BoundedArray α cap :=
  if h:a.count < cap then
    { items := a.items.set a.count x h, count := a.count + 1, count_le := h }
  else
    a

def toList (a : BoundedArray α cap) : List α :=
  a.items.toList.take a.count

-- The slots in use, in the order a loop from `0` to `count` visits them.
def indices (a : BoundedArray α cap) : List (Fin cap) :=
  (List.finRange cap).take a.count

def set (a : BoundedArray α cap) (i : Fin cap) (x : α) : BoundedArray α cap :=
  { a with items := a.items.set i x i.isLt }

def indexOf? (p : α → Bool) (a : BoundedArray α cap) : Option (Fin cap) :=
  a.indices.find? fun i => p (a.items.get i)

@[simp]
theorem length_toList (a : BoundedArray α cap) : a.toList.length = a.count := by
  have := a.count_le
  simp [toList]
  omega

theorem getElem_toList (a : BoundedArray α cap) (i : Nat) (hi : i < cap)
    (hin : i < a.toList.length)
    : a.toList[i] = a.items[i] := by
  simp [toList]

theorem toList_eq_map (a : BoundedArray α cap) : a.toList = a.indices.map a.items.get := by
  have := a.count_le
  apply List.ext_getElem
  . simp [indices]
    omega
  . intro i hi hi'
    rw [getElem_toList a i (by simp at hi; omega) hi]
    simp [indices]
    rfl

theorem mem_indices {a : BoundedArray α cap} {i : Fin cap} : i ∈ a.indices ↔ i.val < a.count := by
  unfold indices
  rw [List.mem_take_iff_getElem]
  constructor
  . intro ⟨j, hj, heq⟩
    simp only [List.getElem_finRange, Fin.cast_mk] at heq
    subst heq
    dsimp only
    omega
  . intro h
    have := i.isLt
    exact ⟨i.val, by simp; omega, by simp⟩

@[simp]
theorem toList_empty (fill : α) : (empty fill : BoundedArray α cap).toList = [] := by
  simp [toList, empty]

@[simp]
theorem count_set (a : BoundedArray α cap) (i : Fin cap) (x : α) : (a.set i x).count = a.count := by
  rfl

theorem toList_set (a : BoundedArray α cap) (i : Fin cap) (x : α)
    : (a.set i x).toList = a.toList.set i.val x := by
  unfold toList set
  rw [Vector.toList_set]
  rw [List.take_set]

theorem set_get_self (a : BoundedArray α cap) (i : Fin cap) : a.set i (a.items.get i) = a := by
  unfold set
  congr
  exact Vector.set_getElem_self i.isLt

theorem toList_push {a : BoundedArray α cap} (h : a.count < cap) (x : α)
    : (a.push x).toList = a.toList ++ [x] := by
  unfold push toList
  simp only [h, ↓reduceDIte]
  rw [Vector.toList_set]
  rw [List.take_add_one]
  rw [List.take_set_of_le (Nat.le_refl _)]
  simp [h]

theorem getElem?_toList_of_lt {a : BoundedArray α cap} {i : Fin cap} (h : i.val < a.count)
    : a.toList[i.val]? = some (a.items.get i) := by
  rw [List.getElem?_eq_getElem (by simpa using h)]
  rw [getElem_toList _ _ i.isLt]
  rfl

theorem find?_toList (p : α → Bool) (a : BoundedArray α cap)
    : a.toList.find? p = (a.indexOf? p).map a.items.get := by
  rw [toList_eq_map]
  rw [List.find?_map]
  rfl

theorem of_indexOf?_eq_some {p : α → Bool} {a : BoundedArray α cap} {i : Fin cap}
    (h : a.indexOf? p = some i)
    : i.val < a.count ∧ p (a.items.get i) := by
  constructor
  . exact mem_indices.mp (List.mem_of_find?_eq_some h)
  . have := List.find?_some h
    exact this

end BoundedArray
