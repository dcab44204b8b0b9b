import Mathlib.Data.List.Sort

/-!
This module contains sorting that is not stable: what the standard promises of `std::sort`, and what does
not depend on the order that it leaves open.
-/

/--
An implementation of `std::sort` with the comparison `less`. In which order elements come of which neither
is less than the other is open.
-/
structure StdSort (α : Type u) (less : α → α → Bool) where
  sort : List α → List α
  perm : ∀ l, (sort l).Perm l
  sorted : ∀ l, (sort l).Pairwise fun a b => less b a = false

namespace StdSort

variable {α : Type u} {κ : Type v} [LinearOrder κ] (key : α → κ)

abbrev descending (a b : α) : Bool :=
  key a > key b

def insertionSort : StdSort α (descending key) where
  sort l := l.insertionSort fun a b => key a ≥ key b
  perm l := List.perm_insertionSort _ l
  sorted l := by
    have htotal : Std.Total fun a b : α => key a ≥ key b := ⟨fun a b => le_total (key b) (key a)⟩
    have htrans : IsTrans α fun a b => key a ≥ key b := ⟨fun _ _ _ hab hbc => le_trans hbc hab⟩
    apply (List.pairwise_insertionSort (fun a b : α => key a ≥ key b) l).imp
    intro a b hab
    simpa using hab

variable {key}

theorem pairwise_sort (s : StdSort α (descending key)) (l : List α)
    : (s.sort l).Pairwise fun a b => key a ≥ key b := by
  apply (s.sorted l).imp
  intro a b hab
  simpa using hab

theorem mem_sort (s : StdSort α (descending key)) {l : List α} {x : α} : x ∈ s.sort l ↔ x ∈ l := by
  exact (s.perm l).mem_iff

theorem map_key_eq {l l' : List α} (h : l.Perm l') (hl : l.Pairwise fun a b => key a ≥ key b)
    (hl' : l'.Pairwise fun a b => key a ≥ key b)
    : l.map key = l'.map key := by
  apply @List.Perm.eq_of_pairwise _ (fun a b => a ≥ b) _ _ _ _ _ (h.map key)
  . intro a b _ _ hab hba
    exact le_antisymm hba hab
  . exact hl.map key fun _ _ h => h
  . exact hl'.map key fun _ _ h => h

end StdSort
