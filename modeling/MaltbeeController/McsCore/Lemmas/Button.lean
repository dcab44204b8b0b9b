import MaltbeeController.McsCore.Impl.Button

/-!
This module contains what a tick of a button can report.
-/

namespace Maltbee

namespace Button

variable (b : Button) (raw : Bool) (now₁ now₂ : Millis)

theorem update_previousStableReading
    : (b.update raw now₁ now₂).previousStableReading = b.stableReading := by
  simp only [update]
  split <;> split <;> rfl

theorem wasPressed_update
    : (b.update raw now₁ now₂).wasPressed
        =
      (!b.isPressed && (b.update raw now₁ now₂).isPressed) := by
  unfold wasPressed isPressed
  rw [update_previousStableReading]
  rw [Bool.and_comm]

theorem update_stableReading
    : (b.update raw now₁ now₂).stableReading = raw
        ∨
      (b.update raw now₁ now₂).stableReading = b.stableReading := by
  simp only [update]
  split
  . split <;> simp
  . split <;> simp

theorem raw_of_wasPressed_update (h : (b.update raw now₁ now₂).wasPressed = true) : raw = true := by
  simp only [wasPressed, Bool.and_eq_true, Bool.not_eq_true'] at h
  have hprevious := update_previousStableReading b raw now₁ now₂
  cases update_stableReading b raw now₁ now₂ with
  | inl hraw =>
    rw [← hraw]
    exact h.1
  | inr hstable =>
    -- The reading did not change in this tick, so there was no edge.
    rw [hstable] at h
    rw [hprevious] at h
    simp [h.2] at h

end Button

end Maltbee
