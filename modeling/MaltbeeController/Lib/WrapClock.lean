import Mathlib.Algebra.Group.Nat.Defs
import Mathlib.Data.List.Chain
import Mathlib.Tactic.Common

/-!
This module contains the theory of a free running counter of `w` bits, read at real times that are
natural numbers: what a difference of two readings says about the time between them, and when the
order of two readings is the order of their times.
-/

namespace WrapClock

variable {w : Nat}

def reading (start : BitVec w) (t : Nat) : BitVec w :=
  start + BitVec.ofNat w t

def period (start : BitVec w) (t : Nat) : Nat :=
  (start.toNat + t) / 2 ^ w

theorem toNat_reading (start : BitVec w) (t : Nat)
    : (reading start t).toNat = (start.toNat + t) % 2 ^ w := by
  unfold reading
  simp [BitVec.toNat_add]

theorem toNat_reading_add_period (start : BitVec w) (t : Nat)
    : (reading start t).toNat + 2 ^ w * period start t = start.toNat + t := by
  rw [toNat_reading]
  unfold period
  apply Nat.mod_add_div

theorem reading_add (start : BitVec w) (s d : Nat)
    : reading start (s + d) = reading start s + BitVec.ofNat w d := by
  unfold reading
  rw [BitVec.ofNat_add]
  rw [BitVec.add_assoc]

theorem period_mono (start : BitVec w) {s t : Nat} (h : s ≤ t) : period start s ≤ period start t := by
  unfold period
  apply Nat.div_le_div_right
  omega

theorem reading_sub (start : BitVec w) {s t : Nat} (hst : s ≤ t)
    : reading start t - reading start s = BitVec.ofNat w (t - s) := by
  have hsplit : reading start t = reading start s + BitVec.ofNat w (t - s) := by
    rw [← reading_add]
    congr 1
    omega
  rw [hsplit]
  rw [BitVec.add_comm]
  apply BitVec.add_sub_cancel

/--
The idiom `now - then`: as long as less than a full turn lies between the two readings, their
difference is the time between them, wherever the counter wraps.
-/
theorem toNat_reading_sub (start : BitVec w) {s t : Nat} (hst : s ≤ t) (hturn : t - s < 2 ^ w)
    : (reading start t - reading start s).toNat = t - s := by
  rw [reading_sub start hst]
  rw [BitVec.toNat_ofNat]
  apply Nat.mod_eq_of_lt
  assumption

theorem reading_sub_lt_iff_mod (start : BitVec w) {s t : Nat} {d : BitVec w} (hst : s ≤ t)
    : reading start t - reading start s < d ↔ (t - s) % 2 ^ w < d.toNat := by
  rw [BitVec.lt_def]
  rw [reading_sub start hst]
  rw [BitVec.toNat_ofNat]

theorem reading_sub_lt_iff (start : BitVec w) {s t : Nat} {d : BitVec w} (hst : s ≤ t)
    (hturn : t - s < 2 ^ w)
    : reading start t - reading start s < d ↔ t < s + d.toNat := by
  rw [BitVec.lt_def]
  rw [toNat_reading_sub start hst hturn]
  omega

theorem reading_sub_lt_ofNat_iff (start : BitVec w) {s t d : Nat} (hst : s ≤ t)
    (hturn : t - s < 2 ^ w) (hd : d < 2 ^ w)
    : reading start t - reading start s < BitVec.ofNat w d ↔ t < s + d := by
  rw [reading_sub_lt_iff start hst hturn]
  rw [BitVec.toNat_ofNat]
  rw [Nat.mod_eq_of_lt hd]

theorem reading_le_iff_of_period_eq (start : BitVec w) {s t : Nat}
    (h : period start s = period start t)
    : reading start s ≤ reading start t ↔ s ≤ t := by
  have hs := toNat_reading_add_period start s
  have ht := toNat_reading_add_period start t
  rw [BitVec.le_def]
  rw [h] at hs
  omega

theorem reading_le_of_period_lt (start : BitVec w) {t deadline : Nat}
    (hturn : deadline - t < 2 ^ w) (h : period start t < period start deadline)
    : reading start deadline ≤ reading start t := by
  have hs := toNat_reading_add_period start t
  have hd := toNat_reading_add_period start deadline
  have hstep : 2 ^ w * (period start t + 1) ≤ 2 ^ w * period start deadline :=
    Nat.mul_le_mul_left _ h
  rw [Nat.mul_add, Nat.mul_one] at hstep
  rw [BitVec.le_def]
  omega

theorem turn_le_of_period_lt (start : BitVec w) {t deadline : Nat}
    (h : period start deadline < period start t)
    (hle : reading start deadline ≤ reading start t)
    : deadline + 2 ^ w ≤ t := by
  have hs := toNat_reading_add_period start t
  have hd := toNat_reading_add_period start deadline
  have hstep : 2 ^ w * (period start deadline + 1) ≤ 2 ^ w * period start t :=
    Nat.mul_le_mul_left _ h
  rw [Nat.mul_add, Nat.mul_one] at hstep
  rw [BitVec.le_def] at hle
  omega

def Ordered (calls : List (Nat × κ)) : Prop :=
  calls.Pairwise fun a b => a.1 ≤ b.1

instance (calls : List (Nat × κ)) : Decidable (Ordered calls) :=
  inferInstanceAs (Decidable (calls.Pairwise _))

theorem Ordered.left_of_append {calls more : List (Nat × κ)} (h : Ordered (calls ++ more))
    : Ordered calls := by
  unfold Ordered at h
  rw [List.pairwise_append] at h
  exact h.1

theorem Ordered.le_of_mem {pre post : List (Nat × κ)} {a b : Nat × κ}
    (h : Ordered (pre ++ b :: post)) (ha : a ∈ pre)
    : a.1 ≤ b.1 := by
  unfold Ordered at h
  rw [List.pairwise_append] at h
  exact h.2.2 a ha b (by simp)

-- They never go back and consecutive ones are less than `gap` apart.
def Spaced (gap : Nat) (calls : List (Nat × κ)) : Prop :=
  calls.IsChain fun a b => a.1 ≤ b.1 ∧ b.1 < a.1 + gap

instance (gap : Nat) (calls : List (Nat × κ)) : Decidable (Spaced gap calls) :=
  inferInstanceAs (Decidable (calls.IsChain _))

namespace Spaced

variable {gap : Nat} {calls more : List (Nat × κ)} {a b : Nat × κ}

theorem left_of_append (h : Spaced gap (calls ++ more)) : Spaced gap calls :=
  List.IsChain.left_of_append h

theorem right_of_append (h : Spaced gap (calls ++ more)) : Spaced gap more :=
  List.IsChain.right_of_append h

theorem step (h : Spaced gap (calls ++ [b])) (ha : calls.getLast? = some a)
    : a.1 ≤ b.1 ∧ b.1 < a.1 + gap := by
  unfold Spaced at h
  rw [List.isChain_append] at h
  exact h.2.2 a ha b (by simp)

theorem pairwise_le (h : Spaced gap calls) : calls.Pairwise fun a b => a.1 ≤ b.1 := by
  have hle : calls.IsChain fun a b => a.1 ≤ b.1 := List.IsChain.imp (fun _ _ hab => hab.1) h
  let before (a b : Nat × κ) : Prop := a.1 ≤ b.1
  have : Trans before before before := ⟨Nat.le_trans⟩
  exact List.isChain_iff_pairwise.mp hle

theorem le_of_mem (h : Spaced gap (calls ++ [b])) (ha : a ∈ calls) : a.1 ≤ b.1 := by
  have := pairwise_le h
  rw [List.pairwise_append] at this
  exact this.2.2 a ha b (by simp)

end Spaced

end WrapClock
