import Mathlib.Data.List.Nodup
import Mathlib.Logic.Function.Basic

/-!
This module contains a store of keys and values whose writes may fail one by one, and what it holds after
several writes to different keys.
-/

-- `accepts n` is whether call number `n` that can fail succeeds.
structure FlakyStore (κ : Type u) (ν : Type v) where
  stored : κ → Option ν
  accepts : Nat → Bool
  calls : Nat := 0

namespace FlakyStore

variable {κ : Type u} {ν : Type v} (s : FlakyStore κ ν)

def call : Bool × FlakyStore κ ν :=
  (s.accepts s.calls, { s with calls := s.calls + 1 })

variable [DecidableEq κ]

def put (key : κ) (value : ν) : Bool × FlakyStore κ ν :=
  let res := s.call
  (
    res.1,
    {
      res.2 with
      stored := if res.1 then Function.update s.stored key (some value) else s.stored
    }
  )

def putAll (writes : List (κ × ν)) : FlakyStore κ ν :=
  writes.foldl (fun s w => (s.put w.1 w.2).2) s

@[simp]
theorem putAll_nil : s.putAll [] = s := by
  rfl

theorem putAll_cons (w : κ × ν) (writes : List (κ × ν))
    : s.putAll (w :: writes) = (s.put w.1 w.2).2.putAll writes := by
  rfl

theorem putAll_append (writes more : List (κ × ν))
    : s.putAll (writes ++ more) = (s.putAll writes).putAll more := by
  apply List.foldl_append

@[simp]
theorem accepts_putAll (writes : List (κ × ν)) : (s.putAll writes).accepts = s.accepts := by
  induction writes generalizing s with
  | nil => rfl
  | cons w writes ih =>
    rw [putAll_cons, ih]
    rfl

@[simp]
theorem calls_putAll (writes : List (κ × ν))
    : (s.putAll writes).calls = s.calls + writes.length := by
  induction writes generalizing s with
  | nil => rfl
  | cons w writes ih =>
    rw [putAll_cons, ih, List.length_cons]
    simp only [put, call]
    omega

theorem stored_put_self (key : κ) (value : ν)
    : (s.put key value).2.stored key
        =
      if s.accepts s.calls then some value else s.stored key := by
  by_cases haccepted : s.accepts s.calls
  . simp [put, call, haccepted]
  . simp [put, call, haccepted]

theorem stored_put_of_ne {key key' : κ} (h : key' ≠ key) (value : ν)
    : (s.put key value).2.stored key' = s.stored key' := by
  by_cases haccepted : s.accepts s.calls
  . simp [put, call, haccepted, h]
  . simp [put, call, haccepted]

theorem stored_putAll_of_not_mem {writes : List (κ × ν)} {key : κ}
    (h : key ∉ writes.map (·.1))
    : (s.putAll writes).stored key = s.stored key := by
  induction writes generalizing s with
  | nil => rfl
  | cons w writes ih =>
    simp only [List.map_cons, List.mem_cons, not_or] at h
    rw [putAll_cons, ih _ h.2]
    apply stored_put_of_ne s h.1

theorem stored_putAll {writes : List (κ × ν)} (hnodup : (writes.map (·.1)).Nodup) {n : Nat} {key : κ}
    {value : ν} (h : writes[n]? = some (key, value))
    : (s.putAll writes).stored key
        =
      if s.accepts (s.calls + n) then some value else s.stored key := by
  induction writes generalizing s n with
  | nil => contradiction
  | cons w writes ih =>
    rw [List.map_cons, List.nodup_cons] at hnodup
    rw [putAll_cons]
    cases n with
    | zero =>
      rw [List.getElem?_cons_zero, Option.some.injEq] at h
      rw [h] at hnodup ⊢
      rw [stored_putAll_of_not_mem _ hnodup.1]
      apply stored_put_self
    | succ n =>
      rw [List.getElem?_cons_succ] at h
      have hne : key ≠ w.1 := by
        intro heq
        apply hnodup.1
        rw [← heq]
        exact List.mem_map.mpr ⟨_, List.mem_of_getElem? h, rfl⟩
      rw [ih _ hnodup.2 h, stored_put_of_ne s hne]
      simp only [put, call, Nat.add_assoc, Nat.add_comm 1 n]

end FlakyStore
