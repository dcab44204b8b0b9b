import MaltbeeController.McsCore.Impl.Turnout

/-!
This module contains what moving a turnout changes of it: nothing but its position, and that only if the
turnout can be thrown.
-/

namespace Maltbee

namespace Turnout

variable (t : Turnout)

@[simp]
theorem address_throwStraight : t.throwStraight.address = t.address := by
  unfold throwStraight
  split <;> rfl

@[simp]
theorem address_throwDiverging : t.throwDiverging.address = t.address := by
  unfold throwDiverging
  split <;> rfl

@[simp]
theorem address_toggle : t.toggle.address = t.address := by
  unfold toggle
  split
  . rfl
  . split
    . simp
    . simp

theorem canThrow_iff : t.canThrow ↔ t.isLocked = false ∧ t.isDisabled = false := by
  simp [canThrow]

@[simp]
theorem throwStraight_throwStraight : t.throwStraight.throwStraight = t.throwStraight := by
  cases h : t.canThrow with
  | true => simp [throwStraight, h]
  | false => simp [throwStraight, h]

@[simp]
theorem throwDiverging_throwDiverging : t.throwDiverging.throwDiverging = t.throwDiverging := by
  cases h : t.canThrow with
  | true => simp [throwDiverging, h]
  | false => simp [throwDiverging, h]

def confirm (position : TurnoutPosition) : Turnout :=
  if position = .thrown then t.throwDiverging else t.throwStraight

@[simp]
theorem address_confirm (position : TurnoutPosition) : (t.confirm position).address = t.address := by
  unfold confirm
  split
  . simp
  . simp

theorem confirm_of_canThrow {t : Turnout} (h : t.canThrow) (position : TurnoutPosition)
    : t.confirm position = { t with currentPosition := position } := by
  cases position with
  | closed => simp [confirm, throwStraight, h]
  | thrown => simp [confirm, throwDiverging, h]

theorem confirm_of_not_canThrow {t : Turnout} (h : t.canThrow = false) (position : TurnoutPosition)
    : t.confirm position = t := by
  cases position with
  | closed => simp [confirm, throwStraight, h]
  | thrown => simp [confirm, throwDiverging, h]

theorem position_confirm (position : TurnoutPosition)
    : (t.confirm position).position = if t.canThrow then position else t.position := by
  cases hcan : t.canThrow with
  | true =>
    rw [confirm_of_canThrow hcan]
    rfl
  | false =>
    rw [confirm_of_not_canThrow hcan]
    rfl

end Turnout

end Maltbee
