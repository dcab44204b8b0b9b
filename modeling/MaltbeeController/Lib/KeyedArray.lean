import MaltbeeController.Lib.BoundedArray
import MaltbeeController.Lib.BoundedMap

/-!
This module contains the theory of a `BoundedArray` that is searched from its start for the element with
a given key. As long as no two elements share a key it is a `BoundedMap`.
-/

theorem find?_key_eq_some_iff {α : Type u} {κ : Type v} [DecidableEq κ] {key : α → κ} {l : List α}
    (h : (l.map key).Nodup) (k : κ) (x : α)
    : l.find? (key · = k) = some x ↔ x ∈ l ∧ key x = k := by
  have hkey {y : α} (hy : l.find? (key · = k) = some y) : key y = k := by
    have := List.find?_some hy
    simpa using this
  constructor
  . intro hx
    exact ⟨List.mem_of_find?_eq_some hx, hkey hx⟩
  . intro ⟨hmem, hx⟩
    cases hfind : l.find? (key · = k) with
    | none =>
      have := List.find?_eq_none.mp hfind x hmem
      simp [hx] at this
    | some y =>
      have hkeys : key y = key x := by rw [hkey hfind, hx]
      rw [List.inj_on_of_nodup_map h (List.mem_of_find?_eq_some hfind) hmem hkeys]

namespace BoundedArray

variable {α : Type u} {κ : Type v} [DecidableEq κ] {cap : Nat} (key : α → κ)

def find? (a : BoundedArray α cap) (k : κ) : Option α :=
  a.toList.find? (key · = k)

def Distinct (a : BoundedArray α cap) : Prop :=
  (a.toList.map key).Nodup

-- Appends an element unless its key is taken or there is no room, and tells whether it did.
def insertNew (a : BoundedArray α cap) (x : α) : Bool × BoundedArray α cap :=
  if (a.find? key (key x)).isSome then
    (false, a)
  else if a.count ≥ cap then
    (false, a)
  else
    (true, a.push x)

-- `log` is what has been offered to `insertNew` one after the other, with what it returned.
def accepted (log : List (α × Bool)) : List α :=
  (log.filter (·.2)).map (·.1)

variable {key} {a : BoundedArray α cap}

theorem find?_eq_none_iff (k : κ) : a.find? key k = none ↔ k ∉ a.toList.map key := by
  simp [find?]

theorem find?_isSome_iff (k : κ) : (a.find? key k).isSome ↔ k ∈ a.toList.map key := by
  simp [find?]

theorem key_of_find? {k : κ} {x : α} (h : a.find? key k = some x) : key x = k := by
  have := List.find?_some h
  simpa using this

theorem find?_eq_some_iff (h : a.Distinct key) (k : κ) (x : α)
    : a.find? key k = some x ↔ x ∈ a.toList ∧ key x = k := by
  apply find?_key_eq_some_iff h

omit [DecidableEq κ] in
theorem eq_of_key_eq (h : a.Distinct key) {i j : Fin cap} (hi : i.val < a.count)
    (hj : j.val < a.count) (hkey : key (a.items.get i) = key (a.items.get j))
    : i = j := by
  have hget (l : Fin cap) (hl : l.val < a.count)
      : (a.toList.map key)[l.val]? = some (key (a.items.get l)) := by
    rw [List.getElem?_map]
    rw [getElem?_toList_of_lt hl]
    rfl
  apply Fin.ext
  apply (List.getElem?_inj (by simpa using hi) h).mp
  rw [hget i hi, hget j hj, hkey]

@[simp]
theorem find?_empty (fill : α) (k : κ) : (empty fill : BoundedArray α cap).find? key k = none := by
  simp [find?]

omit [DecidableEq κ] in
theorem distinct_empty (fill : α) : (empty fill : BoundedArray α cap).Distinct key := by
  simp [Distinct]

theorem find?_push {x : α} (hnew : a.find? key (key x) = none) (hroom : a.count < cap) (k : κ)
    : (a.push x).find? key k = if k = key x then some x else a.find? key k := by
  unfold find?
  rw [toList_push hroom]
  rw [List.find?_append]
  split
  . next heq =>
    subst heq
    unfold find? at hnew
    simp [hnew]
  . next hne =>
    have : key x ≠ k := fun h => hne h.symm
    simp [this]

theorem Distinct.push (h : a.Distinct key) {x : α} (hnew : a.find? key (key x) = none)
    (hroom : a.count < cap)
    : (a.push x).Distinct key := by
  rw [find?_eq_none_iff] at hnew
  unfold Distinct
  rw [toList_push hroom]
  rw [List.map_append]
  apply List.Nodup.append h (by simp)
  simpa using hnew

theorem insertNew_eq_true_iff (x : α)
    : (a.insertNew key x).1 = true ↔ a.find? key (key x) = none ∧ a.count < cap := by
  unfold insertNew
  split
  . next hknown =>
    simp only [Bool.false_eq_true, false_iff, not_and]
    intro hnew
    simp [hnew] at hknown
  . next hnew =>
    simp only [Option.not_isSome_iff_eq_none] at hnew
    split
    . next hfull =>
      simp
      omega
    . next hroom =>
      simp [hnew]
      omega

theorem insertNew_of_true {x : α} (h : (a.insertNew key x).1 = true)
    : (a.insertNew key x).2 = a.push x := by
  have ⟨hnew, hroom⟩ := (insertNew_eq_true_iff x).mp h
  unfold insertNew
  rw [hnew]
  rw [if_neg (by simp)]
  rw [if_neg (by omega)]

theorem insertNew_of_false {x : α} (h : (a.insertNew key x).1 = false)
    : (a.insertNew key x).2 = a := by
  unfold insertNew at h ⊢
  split
  . rfl
  . next hnew =>
    rw [if_neg hnew] at h
    split
    . rfl
    . next hroom =>
      rw [if_neg hroom] at h
      contradiction

theorem toList_insertNew (a : BoundedArray α cap) (x : α)
    : (a.insertNew key x).2.toList = a.toList ++ accepted [(x, (a.insertNew key x).1)] := by
  cases h : (a.insertNew key x).1 with
  | true =>
    have hroom := ((insertNew_eq_true_iff x).mp h).2
    rw [insertNew_of_true h]
    rw [toList_push hroom]
    rfl
  | false =>
    rw [insertNew_of_false h]
    simp [accepted]

theorem Distinct.insertNew (h : a.Distinct key) (x : α) : (a.insertNew key x).2.Distinct key := by
  cases hresult : (a.insertNew key x).1 with
  | true =>
    have ⟨hnew, hroom⟩ := (insertNew_eq_true_iff x).mp hresult
    rw [insertNew_of_true hresult]
    exact h.push hnew hroom
  | false =>
    rw [insertNew_of_false hresult]
    exact h

theorem find?_insertNew {k : κ} {y : α} (h : a.find? key k = some y) (x : α)
    : (a.insertNew key x).2.find? key k = some y := by
  unfold find? at h ⊢
  rw [toList_insertNew]
  rw [List.find?_append]
  rw [h]
  rfl

theorem accepted_append (log log' : List (α × Bool))
    : accepted (log ++ log') = accepted log ++ accepted log' := by
  simp [accepted]

theorem find?_map {f : α → α} (hf : ∀ x, key (f x) = key x) {b : BoundedArray α cap}
    (h : b.toList = a.toList.map f) (k : κ)
    : b.find? key k = (a.find? key k).map f := by
  unfold find?
  rw [h]
  rw [List.find?_map]
  simp only [Function.comp_def, hf]

omit [DecidableEq κ] in
theorem Distinct.map {f : α → α} (hf : ∀ x, key (f x) = key x) {b : BoundedArray α cap}
    (h : b.toList = a.toList.map f) (hdistinct : a.Distinct key)
    : b.Distinct key := by
  unfold Distinct
  rw [h]
  rw [List.map_map]
  simp only [Function.comp_def, hf]
  exact hdistinct

theorem toList_set_eq_map (h : a.Distinct key) {i : Fin cap} {x : α} (hi : i.val < a.count)
    (hkey : key x = key (a.items.get i))
    : (a.set i x).toList = a.toList.map fun y => if key y = key x then x else y := by
  rw [toList_set]
  apply List.ext_getElem
  . simp
  . intro j hj hj'
    rw [List.getElem_set]
    rw [List.getElem_map]
    have hcount : j < a.count := by simpa using hj
    have hget := getElem_toList a j (Nat.lt_of_lt_of_le hcount a.count_le) (by simpa using hcount)
    rw [hget]
    split
    . next heq =>
      subst heq
      exact (if_pos hkey.symm).symm
    . next hne =>
      rw [if_neg]
      rw [hkey]
      intro hkeys
      have := eq_of_key_eq h hcount hi hkeys
      apply hne
      rw [← this]

theorem key_replace (x y : α) : key (if key y = key x then x else y) = key y := by
  split
  . next h => exact h.symm
  . rfl

theorem Distinct.set (h : a.Distinct key) {i : Fin cap} {x : α} (hi : i.val < a.count)
    (hkey : key x = key (a.items.get i))
    : (a.set i x).Distinct key := by
  apply Distinct.map (key_replace x) (toList_set_eq_map h hi hkey) h

theorem find?_set (h : a.Distinct key) {i : Fin cap} {x : α} (hi : i.val < a.count)
    (hkey : key x = key (a.items.get i)) (k : κ)
    : (a.set i x).find? key k = if k = key x then some x else a.find? key k := by
  rw [find?_map (key_replace x) (toList_set_eq_map h hi hkey)]
  cases hfind : a.find? key k with
  | none =>
    rw [if_neg]
    . rfl
    . intro heq
      rw [find?_eq_none_iff] at hfind
      apply hfind
      rw [heq, hkey]
      apply List.mem_map_of_mem
      exact List.mem_of_getElem? (getElem?_toList_of_lt hi)
  | some y =>
    have hy := key_of_find? hfind
    simp only [Option.map_some, hy]
    split
    . rfl
    . rfl

variable (key) in
structure Represents (a : BoundedArray α cap) (m : BoundedMap κ α cap) : Prop where
  distinct : a.Distinct key
  lookup : ∀ k, m.lookup k = a.find? key k

namespace Represents

variable {m : BoundedMap κ α cap}

theorem card_eq (h : a.Represents key m) : m.card = a.count := by
  have hkeys : m.entries.keys = (a.toList.map key).toFinset := by
    ext k
    rw [BoundedMap.mem_keys_iff, h.lookup, find?_isSome_iff, List.mem_toFinset]
  unfold BoundedMap.card
  rw [hkeys]
  rw [List.toFinset_card_of_nodup h.distinct]
  simp

theorem empty (fill : α) : (BoundedArray.empty fill).Represents key (.empty : BoundedMap κ α cap) := by
  constructor
  . apply distinct_empty
  . simp

theorem push (h : a.Represents key m) {x : α} (hnew : a.find? key (key x) = none)
    (hroom : a.count < cap)
    : (a.push x).Represents key (m.put (key x) x) := by
  constructor
  . exact h.distinct.push hnew hroom
  . intro k
    rw [BoundedMap.lookup_put, find?_push hnew hroom, h.card_eq]
    simp only [hroom, or_true, and_true, h.lookup]

theorem set (h : a.Represents key m) {i : Fin cap} {x : α} (hi : i.val < a.count)
    (hkey : key x = key (a.items.get i))
    : (a.set i x).Represents key (m.put (key x) x) := by
  have hknown : (a.find? key (key x)).isSome := by
    rw [find?_isSome_iff, hkey]
    exact List.mem_map_of_mem (List.mem_of_getElem? (getElem?_toList_of_lt hi))
  constructor
  . exact h.distinct.set hi hkey
  . intro k
    rw [BoundedMap.lookup_put, find?_set h.distinct hi hkey]
    simp only [hknown, true_or, and_true, h.lookup]

theorem full (h : a.Represents key m) {x : α} (hnew : a.find? key (key x) = none)
    (hfull : ¬a.count < cap)
    : a.Represents key (m.put (key x) x) := by
  rw [BoundedMap.put_of_full]
  . exact h
  . rw [h.lookup, hnew]
  . rw [h.card_eq]
    exact hfull

end Represents

end BoundedArray
