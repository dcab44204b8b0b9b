import Mathlib.Data.List.Basic
import Mathlib.Tactic.Common

/-!
This module contains the theory of a resource that is switched on and off again before it is switched
on the next time: the traces of such a resource, as a grammar, and what can be read off from a trace.
`isOn` tells the two kinds of events apart and `off r` is the event that ends what `r` began.
-/

namespace PulseTrace

variable {ρ : Type u} (isOn : ρ → Bool) (off : ρ → ρ)

-- The second index is the event that began the pulse that is still open at the end of the events.
inductive Pulses : List ρ → Option ρ → Prop where
  | nil : Pulses [] none
  | on {events : List ρ} {r : ρ} : Pulses events none → isOn r → Pulses (events ++ [r]) (some r)
  | off {events : List ρ} {r : ρ} :
      Pulses events (some r) → isOn (off r) = false → Pulses (events ++ [off r]) none

namespace Pulses

variable {isOn off} {events : List ρ} {pending : Option ρ}

theorem length_mod (h : Pulses isOn off events pending)
    : events.length % 2 = if pending.isSome then 1 else 0 := by
  induction h with
  | nil => simp
  | on _ _ ih =>
    simp at ih ⊢
    omega
  | off _ _ ih =>
    simp at ih ⊢
    omega

theorem isOn_getElem (h : Pulses isOn off events pending) (i : Nat) (hi : i < events.length)
    : isOn events[i] = decide (i % 2 = 0) := by
  induction h with
  | nil => simp at hi
  | on hevents hon ih =>
    have hlen := length_mod hevents
    rw [List.getElem_append]
    split
    . apply ih
    . have : i % 2 = 0 := by
        simp at hi hlen
        omega
      simp [hon, this]
  | off hevents hoff ih =>
    have hlen := length_mod hevents
    rw [List.getElem_append]
    split
    . apply ih
    . have : i % 2 = 1 := by
        simp at hi hlen
        omega
      simp [hoff, this]

theorem getLast?_eq_some {r : ρ} (h : Pulses isOn off events (some r))
    : events.getLast? = some r := by
  cases h
  simp

theorem getLast?_isOn_iff (h : Pulses isOn off events pending)
    : (∃ r, events.getLast? = some r ∧ isOn r) ↔ pending.isSome := by
  cases h with
  | nil => simp
  | on _ hon => simp [hon]
  | off _ hoff => simp [hoff]

theorem getElem_succ_eq_off (h : Pulses isOn off events pending) (i : Nat)
    (hi : i + 1 < events.length) (heven : i % 2 = 0)
    : events[i + 1] = off events[i] := by
  induction h with
  | nil => simp at hi
  | @on events r hevents hon ih =>
    have hlen := length_mod hevents
    simp at hi hlen
    have hlt : i + 1 < events.length := by omega
    rw [List.getElem_append_left hlt]
    rw [List.getElem_append_left (by omega)]
    apply ih
  | @off events r hevents hoff ih =>
    have hlen := length_mod hevents
    simp at hi hlen
    cases Nat.lt_or_ge (i + 1) events.length with
    | inl hlt =>
      rw [List.getElem_append_left hlt]
      rw [List.getElem_append_left (by omega)]
      apply ih
    | inr hge =>
      have hlast := getLast?_eq_some hevents
      rw [List.getLast?_eq_getElem?] at hlast
      have hi' : i = events.length - 1 := by omega
      subst hi'
      rw [List.getElem_append_right hge]
      rw [List.getElem_append_left (by omega)]
      rw [List.getElem?_eq_getElem (by omega)] at hlast
      simp only [Option.some.injEq] at hlast
      simp [hlast]

theorem countP_isOn (h : Pulses isOn off events pending)
    : events.countP isOn = events.countP (!isOn ·) + if pending.isSome then 1 else 0 := by
  induction h with
  | nil => simp
  | on _ hon ih =>
    simp [List.countP_append, hon] at ih ⊢
    omega
  | off _ hoff ih =>
    simp [List.countP_append, hoff] at ih ⊢
    omega

theorem take (h : Pulses isOn off events pending) (n : Nat)
    : ∃ pending', Pulses isOn off (events.take n) pending' := by
  induction h with
  | nil => exact ⟨none, by simpa using .nil⟩
  | @on events r hevents hon ih =>
    cases Nat.lt_or_ge events.length n with
    | inl hlt =>
      rw [List.take_of_length_le (by simp; omega)]
      exact ⟨some r, .on hevents hon⟩
    | inr hge =>
      rw [List.take_append_of_le_length hge]
      exact ih
  | @off events r hevents hoff ih =>
    cases Nat.lt_or_ge events.length n with
    | inl hlt =>
      rw [List.take_of_length_le (by simp; omega)]
      exact ⟨none, .off hevents hoff⟩
    | inr hge =>
      rw [List.take_append_of_le_length hge]
      exact ih

theorem open_le_one (h : Pulses isOn off events pending) (n : Nat)
    : (events.take n).countP (!isOn ·) ≤ (events.take n).countP isOn ∧
        (events.take n).countP isOn ≤ (events.take n).countP (!isOn ·) + 1 := by
  rcases take h n with ⟨pending', htake⟩
  have := countP_isOn htake
  split at this
  . omega
  . omega

end Pulses

end PulseTrace
