import MaltbeeController.McsEsp32.Lemmas.LedPairDriver

/-!
This module contains the proof that the two drivers of LED pairs, which the source keeps as separate
copies of one state machine, stay in step with each other.
-/

namespace Maltbee

namespace IndependentLedPairDriver

-- The state of the copy that goes with a state of the driver on one GPIO: the green LED gets every write
-- as it is, the red one gets it inverted.
def ofShared (d : LedPairDriver) : IndependentLedPairDriver where
  greenGpio := d.gpio
  redGpio := ⟨d.gpio.writes.map (! ·)⟩
  blinkIntervalMs := d.blinkIntervalMs
  lastDisplayedColor := d.lastDisplayedColor
  greenRequested := d.greenRequested
  redRequested := d.redRequested
  currentMode := d.currentMode
  blinkShowingLastColor := d.blinkShowingLastColor
  lastToggleTime := d.lastToggleTime
  identifying := d.identifying
  identifyShowingGreen := d.identifyShowingGreen
  identifyLastToggleMs := d.identifyLastToggleMs

variable (d : LedPairDriver) (now : Millis)

theorem writeColor_ofShared (color : LedPairColor)
    : (ofShared d).writeColor color = ofShared (d.writeColor color) := by
  cases color with
  | Green => simp [writeColor, ofShared, LedPairDriver.writeColor, DigitalOutput.set]
  | Red => simp [writeColor, ofShared, LedPairDriver.writeColor, DigitalOutput.set]

theorem new_ofShared (blinkIntervalMs : Millis) (defaultColor : LedPairColor)
    : new blinkIntervalMs defaultColor now
        =
      ofShared (LedPairDriver.new blinkIntervalMs defaultColor now) := by
  unfold LedPairDriver.new
  rw [← writeColor_ofShared]
  rfl

theorem begin_ofShared : (ofShared d).begin now = ofShared (d.begin now) := by
  unfold LedPairDriver.begin
  dsimp only
  rw [← writeColor_ofShared]
  rfl

theorem enterMode_ofShared (mode : LedPairMode)
    : (ofShared d).enterMode mode now = ofShared (d.enterMode mode now) := by
  cases mode with
  | Green =>
    unfold LedPairDriver.enterMode
    rw [← writeColor_ofShared]
    rfl
  | Red =>
    unfold LedPairDriver.enterMode
    rw [← writeColor_ofShared]
    rfl
  | Blink =>
    unfold LedPairDriver.enterMode
    rw [← writeColor_ofShared]
    rfl

theorem applyState_ofShared : (ofShared d).applyState now = ofShared (d.applyState now) := by
  have hmode : (ofShared d).nextMode = d.nextMode := by rfl
  unfold applyState LedPairDriver.applyState
  rw [hmode]
  cases d.nextMode with
  | none => rfl
  | some mode =>
    dsimp only
    rw [apply_ite ofShared]
    apply if_congr Iff.rfl rfl
    apply enterMode_ofShared

theorem setGreen_ofShared (active : Bool)
    : (ofShared d).setGreen active now = ofShared (d.setGreen active now) := by
  unfold LedPairDriver.setGreen
  rw [← applyState_ofShared]
  rfl

theorem setRed_ofShared (active : Bool)
    : (ofShared d).setRed active now = ofShared (d.setRed active now) := by
  unfold LedPairDriver.setRed
  rw [← applyState_ofShared]
  rfl

theorem setIdentifying_ofShared (active : Bool)
    : (ofShared d).setIdentifying active now = ofShared (d.setIdentifying active now) := by
  unfold setIdentifying LedPairDriver.setIdentifying
  rw [apply_ite ofShared]
  apply if_congr Iff.rfl rfl
  dsimp only
  rw [apply_ite ofShared]
  apply if_congr Iff.rfl
  . rw [← writeColor_ofShared]
    rfl
  . rw [← writeColor_ofShared]
    rfl

theorem update_ofShared : (ofShared d).update now = ofShared (d.update now) := by
  unfold update LedPairDriver.update
  rw [apply_ite ofShared]
  apply if_congr Iff.rfl
  . rw [apply_ite ofShared]
    apply if_congr Iff.rfl
    . rw [← writeColor_ofShared]
      rfl
    . rfl
  . rw [apply_ite ofShared]
    apply if_congr Iff.rfl rfl
    rw [apply_ite ofShared]
    apply if_congr Iff.rfl rfl
    rw [← writeColor_ofShared]
    rfl

theorem apply_ofShared (c : LedPairCall)
    : c.apply (ofShared d) now = ofShared (c.apply d now) := by
  cases c with
  | begin => apply begin_ofShared
  | setGreen active => apply setGreen_ofShared
  | setRed active => apply setRed_ofShared
  | setIdentifying active => apply setIdentifying_ofShared
  | update => apply update_ofShared

theorem drive_ofShared (blinkIntervalMs : Millis) (defaultColor : LedPairColor)
    (calls : List (LedPairCall × Millis))
    : LedPairCall.drive blinkIntervalMs defaultColor now calls
        =
      ofShared (LedPairCall.drive blinkIntervalMs defaultColor now calls) := by
  induction calls using List.reverseRecOn with
  | nil => apply new_ofShared
  | append_singleton calls c ih =>
    rw [LedPairCall.drive_concat, LedPairCall.drive_concat]
    rw [ih]
    apply apply_ofShared

structure LitAs (i : IndependentLedPairDriver) (d : LedPairDriver) : Prop where
  green : i.greenGpio.isSet = d.gpio.isSet
  red : i.redGpio.isSet = !d.gpio.isSet

theorem ofShared_litAs {d : LedPairDriver} (hwrites : d.gpio.writes ≠ []) : LitAs (ofShared d) d := by
  constructor
  . rfl
  . rcases List.eq_nil_or_concat d.gpio.writes with hnil | ⟨writes, active, hconcat⟩
    . contradiction
    . simp [ofShared, DigitalOutput.isSet, hconcat]

section Settled

variable (d : IndependentLedPairDriver)

-- Any state of the copy without its red LED, as a state of the driver on one GPIO.
def toShared : LedPairDriver where
  gpio := d.greenGpio
  blinkIntervalMs := d.blinkIntervalMs
  lastDisplayedColor := d.lastDisplayedColor
  greenRequested := d.greenRequested
  redRequested := d.redRequested
  currentMode := d.currentMode
  blinkShowingLastColor := d.blinkShowingLastColor
  lastToggleTime := d.lastToggleTime
  identifying := d.identifying
  identifyShowingGreen := d.identifyShowingGreen
  identifyLastToggleMs := d.identifyLastToggleMs

theorem toShared_enterMode (mode : LedPairMode)
    : (d.enterMode mode now).toShared = d.toShared.enterMode mode now := by
  cases mode <;> rfl

theorem toShared_applyState : (d.applyState now).toShared = d.toShared.applyState now := by
  have hmode : d.nextMode = d.toShared.nextMode := by rfl
  unfold applyState LedPairDriver.applyState
  rw [hmode]
  cases d.toShared.nextMode with
  | none => rfl
  | some mode =>
    dsimp only
    rw [apply_ite toShared]
    apply if_congr Iff.rfl rfl
    apply toShared_enterMode

theorem applyState_requested
    : (d.applyState now).greenRequested = d.greenRequested ∧
        (d.applyState now).redRequested = d.redRequested := by
  have hshared := toShared_applyState now d
  constructor
  . apply (congrArg LedPairDriver.greenRequested hshared).trans
    apply LedPairDriver.applyState_greenRequested
  . apply (congrArg LedPairDriver.redRequested hshared).trans
    apply LedPairDriver.applyState_redRequested

theorem applyState_of_settled
    (h : d.toShared.nextMode = none ∨ d.toShared.nextMode = some d.toShared.currentMode)
    : d.applyState now = d := by
  unfold applyState
  rcases h with h | h
  . rw [show d.nextMode = none from h]
  . rw [show d.nextMode = some d.currentMode from h]
    apply if_pos rfl

theorem settled_applyState {green red : Bool} (hgreen : d.greenRequested = green)
    (hred : d.redRequested = red)
    : Settled (d.applyState now) green red := by
  have hsettled := LedPairDriver.nextMode_applyState d.toShared now
  rw [← toShared_applyState] at hsettled
  constructor
  . intro now'
    rw [← hgreen, ← (applyState_requested now d).1]
    exact applyState_of_settled now' (d.applyState now) hsettled
  . intro now'
    rw [← hred, ← (applyState_requested now d).2]
    exact applyState_of_settled now' (d.applyState now) hsettled

instance : SettlingStation IndependentLedPairDriver where
  setRed_setGreen := by
    intro d green red now₁ now₂
    apply settled_applyState now₂ { d.setGreen green now₁ with redRequested := red }
    . apply (applyState_requested _ _).1
    . rfl
  setGreen_setRed := by
    intro d green red now₁ now₂
    apply settled_applyState now₂ { d.setRed red now₁ with greenRequested := green }
    . rfl
    . apply (applyState_requested _ _).2

end Settled

end IndependentLedPairDriver

/--
Told the same from their construction on, at whatever times, the two drivers are in the same state at
every moment, and the LEDs of the one show what the GPIO of the other stands for.
-/
theorem drivers_in_lockstep (blinkIntervalMs : Millis) (defaultColor : LedPairColor) (now : Millis)
    (calls : List (LedPairCall × Millis))
    : let d : LedPairDriver := LedPairCall.drive blinkIntervalMs defaultColor now calls
      let i : IndependentLedPairDriver := LedPairCall.drive blinkIntervalMs defaultColor now calls
      i.greenGpio.isSet = d.gpio.isSet ∧ i.redGpio.isSet = !d.gpio.isSet ∧
        i.greenGpio.writes = d.gpio.writes ∧ i.redGpio.writes = d.gpio.writes.map (! ·) ∧
        i.blinkIntervalMs = d.blinkIntervalMs ∧ i.lastDisplayedColor = d.lastDisplayedColor ∧
        i.greenRequested = d.greenRequested ∧ i.redRequested = d.redRequested ∧
        i.currentMode = d.currentMode ∧ i.blinkShowingLastColor = d.blinkShowingLastColor ∧
        i.lastToggleTime = d.lastToggleTime ∧ i.identifying = d.identifying ∧
        i.identifyShowingGreen = d.identifyShowingGreen ∧
        i.identifyLastToggleMs = d.identifyLastToggleMs := by
  intro d i
  have hi : i = IndependentLedPairDriver.ofShared d := by
    apply IndependentLedPairDriver.drive_ofShared
  have hlit := IndependentLedPairDriver.ofShared_litAs
    (LedPairDriver.writes_drive_ne_nil now blinkIntervalMs defaultColor calls)
  rw [hi]
  exact ⟨hlit.green, hlit.red, rfl, rfl, rfl, rfl, rfl, rfl, rfl, rfl, rfl, rfl, rfl, rfl⟩

end Maltbee
