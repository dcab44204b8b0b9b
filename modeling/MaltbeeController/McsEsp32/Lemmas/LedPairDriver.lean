import Mathlib.Data.List.Induction
import MaltbeeController.McsEsp32.Impl.ToggleTurnoutStation

/-!
This module contains runs of the drivers of LED pairs, and what one call makes of the mode of a driver and
of what it has written to its GPIO.
-/

namespace Maltbee

inductive LedPairCall where
  | begin
  | setGreen (active : Bool)
  | setRed (active : Bool)
  | setIdentifying (active : Bool)
  | update
  deriving DecidableEq, Repr

namespace LedPairCall

variable {δ : Type u} [LedPairStation δ]

def apply (c : LedPairCall) (driver : δ) (now : Millis) : δ :=
  match c with
  | .begin => LedPairStation.begin driver now
  | .setGreen active => LedPairStation.setGreen driver active now
  | .setRed active => LedPairStation.setRed driver active now
  | .setIdentifying active => LedPairStation.setIdentifying driver active now
  | .update => LedPairStation.update driver now

def drive (blinkIntervalMs : Millis) (defaultColor : LedPairColor) (now : Millis)
    (calls : List (LedPairCall × Millis))
    : δ :=
  calls.foldl (fun driver c => c.1.apply driver c.2)
    (LedPairStation.new blinkIntervalMs defaultColor now)

theorem drive_concat (blinkIntervalMs : Millis) (defaultColor : LedPairColor) (now : Millis)
    (calls : List (LedPairCall × Millis)) (c : LedPairCall × Millis)
    : drive (δ := δ) blinkIntervalMs defaultColor now (calls ++ [c])
        =
      c.1.apply (drive blinkIntervalMs defaultColor now calls) c.2 := by
  simp [drive]

end LedPairCall

namespace LedPairDriver

variable (d : LedPairDriver) (now : Millis)

@[simp]
theorem writes_writeColor (color : LedPairColor)
    : (d.writeColor color).gpio.writes = d.gpio.writes ++ [decide (color = .Green)] := by
  rfl

theorem writes_enterMode (mode : LedPairMode)
    : ∃ active, (d.enterMode mode now).gpio.writes = d.gpio.writes ++ [active] := by
  cases mode with
  | Green => exact ⟨_, writes_writeColor _ _⟩
  | Red => exact ⟨_, writes_writeColor _ _⟩
  | Blink => exact ⟨_, writes_writeColor _ _⟩

theorem writes_applyState : d.gpio.writes <+: (d.applyState now).gpio.writes := by
  unfold applyState
  split
  . apply List.prefix_refl
  . next mode _ =>
    split
    . apply List.prefix_refl
    . rcases writes_enterMode d now mode with ⟨active, hwrites⟩
      rw [hwrites]
      apply List.prefix_append

theorem writes_setIdentifying (active : Bool)
    : d.gpio.writes <+: (d.setIdentifying active now).gpio.writes := by
  unfold setIdentifying
  split
  . apply List.prefix_refl
  . dsimp only
    split
    . rw [writes_writeColor]
      apply List.prefix_append
    . rw [writes_writeColor]
      apply List.prefix_append

theorem writes_update : d.gpio.writes <+: (d.update now).gpio.writes := by
  unfold update
  split
  . split
    . rw [writes_writeColor]
      apply List.prefix_append
    . apply List.prefix_refl
  . split
    . apply List.prefix_refl
    . split
      . apply List.prefix_refl
      . rw [writes_writeColor]
        apply List.prefix_append

theorem writes_apply (c : LedPairCall) : d.gpio.writes <+: (c.apply d now).gpio.writes := by
  cases c with
  | begin => apply List.prefix_append
  | setGreen active => apply writes_applyState { d with greenRequested := active }
  | setRed active => apply writes_applyState { d with redRequested := active }
  | setIdentifying active => apply writes_setIdentifying
  | update => apply writes_update

theorem writes_drive_ne_nil (blinkIntervalMs : Millis) (defaultColor : LedPairColor)
    (calls : List (LedPairCall × Millis))
    : (LedPairCall.drive (δ := LedPairDriver) blinkIntervalMs defaultColor now calls).gpio.writes
        ≠ [] := by
  induction calls using List.reverseRecOn with
  | nil => simp [LedPairCall.drive, LedPairStation.new, LedPairDriver.new]
  | append_singleton calls c ih =>
    rw [LedPairCall.drive_concat]
    exact List.IsPrefix.ne_nil (writes_apply _ _ _) ih

@[simp]
theorem enterMode_greenRequested (mode : LedPairMode)
    : (d.enterMode mode now).greenRequested = d.greenRequested := by
  cases mode <;> rfl

@[simp]
theorem enterMode_redRequested (mode : LedPairMode)
    : (d.enterMode mode now).redRequested = d.redRequested := by
  cases mode <;> rfl

@[simp]
theorem enterMode_currentMode (mode : LedPairMode)
    : (d.enterMode mode now).currentMode = mode := by
  cases mode <;> rfl

@[simp]
theorem enterMode_identifying (mode : LedPairMode)
    : (d.enterMode mode now).identifying = d.identifying := by
  cases mode <;> rfl

theorem applyState_cases
    : ((d.nextMode = none ∨ d.nextMode = some d.currentMode) ∧ d.applyState now = d) ∨
        ∃ mode, d.nextMode = some mode ∧ mode ≠ d.currentMode ∧
          d.applyState now = d.enterMode mode now := by
  unfold applyState
  cases hmode : d.nextMode with
  | none => simp
  | some mode =>
    dsimp only
    split
    . next heq =>
      left
      simp [heq]
    . next hne =>
      right
      exact ⟨mode, rfl, hne, rfl⟩

@[simp]
theorem applyState_greenRequested : (d.applyState now).greenRequested = d.greenRequested := by
  rcases applyState_cases d now with ⟨_, heq⟩ | ⟨_, _, _, heq⟩
  . rw [heq]
  . simp [heq]

@[simp]
theorem applyState_redRequested : (d.applyState now).redRequested = d.redRequested := by
  rcases applyState_cases d now with ⟨_, heq⟩ | ⟨_, _, _, heq⟩
  . rw [heq]
  . simp [heq]

@[simp]
theorem applyState_identifying : (d.applyState now).identifying = d.identifying := by
  rcases applyState_cases d now with ⟨_, heq⟩ | ⟨_, _, _, heq⟩
  . rw [heq]
  . simp [heq]

theorem applyState_currentMode
    : (d.applyState now).currentMode = d.nextMode.getD d.currentMode := by
  rcases applyState_cases d now with ⟨hmode | hmode, heq⟩ | ⟨_, hmode, _, heq⟩
  . simp [heq, hmode]
  . simp [heq, hmode]
  . simp [heq, hmode]

theorem nextMode_enterMode (mode : LedPairMode) : (d.enterMode mode now).nextMode = d.nextMode := by
  cases mode <;> rfl

theorem applyState_of_settled (h : d.nextMode = none ∨ d.nextMode = some d.currentMode)
    : d.applyState now = d := by
  unfold applyState
  rcases h with h | h
  . rw [h]
  . rw [h]
    apply if_pos rfl

theorem nextMode_applyState
    : (d.applyState now).nextMode = none ∨
        (d.applyState now).nextMode = some (d.applyState now).currentMode := by
  rcases applyState_cases d now with ⟨hmode, heq⟩ | ⟨mode, hmode, _, heq⟩
  . rw [heq]
    exact hmode
  . right
    rw [heq]
    rw [nextMode_enterMode]
    rw [enterMode_currentMode]
    exact hmode

theorem applyState_applyState (now' : Millis)
    : (d.applyState now).applyState now' = d.applyState now := by
  apply applyState_of_settled
  apply nextMode_applyState

theorem applyState_writes (hblink : d.nextMode ≠ some .Blink)
    : (d.applyState now).gpio.writes
        =
      d.gpio.writes ++
        if (d.applyState now).currentMode = d.currentMode then
          []
        else
          [decide ((d.applyState now).currentMode = .Green)] := by
  rcases applyState_cases d now with ⟨_, heq⟩ | ⟨mode, hmode, hne, heq⟩
  . simp [heq]
  . rw [heq]
    rw [enterMode_currentMode]
    rw [if_neg hne]
    cases mode with
    | Green => rfl
    | Red => rfl
    | Blink => contradiction

end LedPairDriver

-- To be told the same once more, at any time, changes nothing.
structure Settled {δ : Type u} [LedPairStation δ] (driver : δ) (green red : Bool) : Prop where
  setGreen : ∀ now, LedPairStation.setGreen driver green now = driver
  setRed : ∀ now, LedPairStation.setRed driver red now = driver

class SettlingStation (δ : Type u) [LedPairStation δ] : Prop where
  setRed_setGreen : ∀ (driver : δ) green red now₁ now₂,
    Settled (LedPairStation.setRed (LedPairStation.setGreen driver green now₁) red now₂) green red
  setGreen_setRed : ∀ (driver : δ) green red now₁ now₂,
    Settled (LedPairStation.setGreen (LedPairStation.setRed driver red now₁) green now₂) green red

namespace LedPairDriver

theorem settled_applyState (d : LedPairDriver) (now : Millis) {green red : Bool}
    (hgreen : d.greenRequested = green) (hred : d.redRequested = red)
    : Settled (d.applyState now) green red := by
  constructor
  . intro now'
    rw [← hgreen, ← applyState_greenRequested d now]
    apply applyState_applyState
  . intro now'
    rw [← hred, ← applyState_redRequested d now]
    apply applyState_applyState

instance : SettlingStation LedPairDriver where
  setRed_setGreen := by
    intro d green red now₁ now₂
    apply settled_applyState { d.setGreen green now₁ with redRequested := red }
    . apply applyState_greenRequested
    . rfl
  setGreen_setRed := by
    intro d green red now₁ now₂
    apply settled_applyState { d.setRed red now₁ with greenRequested := green }
    . rfl
    . apply applyState_redRequested

end LedPairDriver

namespace TurnoutIndicator

theorem display_display {δ : Type u} [LedPairStation δ] [SettlingStation δ]
    (position : TurnoutPosition) (now₁ now₂ now₃ now₄ : Millis) (driver : δ)
    : display LedPairOutput.set position now₃ now₄
          (display LedPairOutput.set position now₁ now₂ driver)
        =
      display LedPairOutput.set position now₁ now₂ driver := by
  cases position with
  | closed =>
    have h := SettlingStation.setRed_setGreen driver true false now₁ now₂
    apply Eq.trans _ (h.setRed now₄)
    exact congrArg (LedPairStation.setRed · false now₄) (h.setGreen now₃)
  | thrown =>
    have h := SettlingStation.setGreen_setRed driver false true now₁ now₂
    apply Eq.trans _ (h.setGreen now₄)
    exact congrArg (LedPairStation.setGreen · false now₄) (h.setRed now₃)

end TurnoutIndicator

end Maltbee
