import Mathlib.Data.Finmap

/-!
This module contains finite maps with at most `cap` keys: a store of limited size that is addressed by
key, without the array it is kept in.
-/

structure BoundedMap (κ : Type u) (α : Type v) (cap : Nat) where
  entries : Finmap fun _ : κ => α
  card_le : entries.keys.card ≤ cap

namespace BoundedMap

variable {κ : Type u} [DecidableEq κ] {α : Type v} {cap : Nat}

theorem keys_insert (entries : Finmap fun _ : κ => α) (k : κ) (x : α)
    : (entries.insert k x).keys = insert k entries.keys := by
  ext k'
  rw [Finset.mem_insert, Finmap.mem_keys, Finmap.mem_keys, Finmap.mem_insert]

def empty : BoundedMap κ α cap where
  entries := ∅
  card_le := by simp

def lookup (m : BoundedMap κ α cap) (k : κ) : Option α :=
  m.entries.lookup k

def card (m : BoundedMap κ α cap) : Nat :=
  m.entries.keys.card

def put (m : BoundedMap κ α cap) (k : κ) (x : α) : BoundedMap κ α cap :=
  if h:k ∈ m.entries ∨ m.card < cap then
    {
      entries := m.entries.insert k x
      card_le := by
        rw [keys_insert]
        rcases h with hknown | hroom
        . rw [Finset.insert_eq_of_mem (Finmap.mem_keys.mpr hknown)]
          exact m.card_le
        . exact Nat.le_trans (Finset.card_insert_le _ _) hroom
    }
  else
    m

@[simp]
theorem lookup_empty (k : κ) : (empty : BoundedMap κ α cap).lookup k = none := by
  rfl

theorem mem_iff (m : BoundedMap κ α cap) (k : κ) : k ∈ m.entries ↔ (m.lookup k).isSome := by
  exact Finmap.lookup_isSome.symm

theorem mem_keys_iff (m : BoundedMap κ α cap) (k : κ)
    : k ∈ m.entries.keys ↔ (m.lookup k).isSome := by
  rw [Finmap.mem_keys]
  exact m.mem_iff k

theorem lookup_put (m : BoundedMap κ α cap) (k k' : κ) (x : α)
    : (m.put k x).lookup k'
        =
      if k' = k ∧ ((m.lookup k).isSome ∨ m.card < cap) then some x else m.lookup k' := by
  unfold put
  simp only [mem_iff]
  split
  . next h =>
    simp only [h, and_true]
    split
    . next heq =>
      subst heq
      apply Finmap.lookup_insert
    . next hne => apply Finmap.lookup_insert_of_ne _ hne
  . next h => simp [h]

theorem put_of_full {m : BoundedMap κ α cap} {k : κ} (hnew : m.lookup k = none)
    (hfull : ¬m.card < cap) (x : α)
    : m.put k x = m := by
  unfold put
  rw [dif_neg]
  simp [mem_iff, hnew, hfull]

end BoundedMap
