import MaltbeeController.McsCore.Impl.TurnoutStation
import MaltbeeController.McsCore.Lemmas.Turnout

/-!
This module contains what feedback does to a station of the Mega panel, and what it does not do to the
stations it is not for.
-/

namespace Maltbee

namespace TurnoutStation

variable (s : TurnoutStation) {feedback : TurnoutFeedback}

theorem applyFeedback_of_ne (h : feedback.address ≠ s.turnout.address)
    : s.applyFeedback feedback = s := by
  unfold applyFeedback
  rw [if_pos h]

theorem applyFeedback_of_eq (h : feedback.address = s.turnout.address)
    : s.applyFeedback feedback
        =
      {
        s with
        turnout :=
          if feedback.position = .thrown then
            s.turnout.throwDiverging
          else
            s.turnout.throwStraight
        thrownOutput := decide (feedback.position = .thrown)
        closedOutput := decide (feedback.position = .closed)
      } := by
  unfold applyFeedback
  rw [if_neg (by simp [h])]
  cases feedback.position with
  | closed => rfl
  | thrown => rfl

@[simp]
theorem address_applyFeedback (feedback : TurnoutFeedback)
    : (s.applyFeedback feedback).turnout.address = s.turnout.address := by
  by_cases h : feedback.address = s.turnout.address
  . rw [applyFeedback_of_eq s h]
    dsimp only
    split
    . simp
    . simp
  . rw [applyFeedback_of_ne s h]

theorem applyFeedback_applyFeedback (feedback : TurnoutFeedback)
    : (s.applyFeedback feedback).applyFeedback feedback = s.applyFeedback feedback := by
  by_cases h : feedback.address = s.turnout.address
  . have hagain : feedback.address = (s.applyFeedback feedback).turnout.address := by
      rw [address_applyFeedback, h]
    rw [applyFeedback_of_eq _ hagain, applyFeedback_of_eq s h]
    split
    . simp
    . simp
  . rw [applyFeedback_of_ne s h, applyFeedback_of_ne s h]

variable (throwRaw closeRaw : Bool) (now₁ now₂ now₃ now₄ : Millis)

@[simp]
theorem turnout_update
    : (s.update throwRaw closeRaw now₁ now₂ now₃ now₄).1.turnout = s.turnout := by
  rfl

theorem address_of_mem_update
    : ∀ command ∈ (s.update throwRaw closeRaw now₁ now₂ now₃ now₄).2,
        command.address = s.turnout.address := by
  intro command hcommand
  simp only [update, TurnoutControl.update] at hcommand
  rcases List.mem_append.mp hcommand with h | h
  . split at h
    . rw [List.mem_singleton.mp h]
    . contradiction
  . split at h
    . rw [List.mem_singleton.mp h]
    . contradiction

end TurnoutStation

end Maltbee
