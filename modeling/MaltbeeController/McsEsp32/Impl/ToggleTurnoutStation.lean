import MaltbeeController.McsCore.Impl.TurnoutStation
import MaltbeeController.McsEsp32.Impl.IndependentLedPairDriver
import MaltbeeController.McsEsp32.Impl.NodeConfig

/-!
This module contains a station of the ESP32 boards: one button that commands the opposite of the
confirmed position, behind a gate that can suppress it, and the LED pair that shows the position.
-/

namespace Maltbee

structure GatedDigitalInput where
  suppressed : Bool := false
  deriving DecidableEq, Repr

namespace GatedDigitalInput

def setSuppressed (g : GatedDigitalInput) (suppressed : Bool) : GatedDigitalInput :=
  { g with suppressed }

def isActive (g : GatedDigitalInput) (inner : Bool) : Bool :=
  !g.suppressed && inner

end GatedDigitalInput

namespace ToggleTurnoutControl

def update (button : Button) (turnout : Turnout) : List TurnoutCommand :=
  if !button.wasPressed then
    []
  else
    let opposite := if turnout.position = .closed then .thrown else .closed
    [⟨turnout.address, opposite⟩]

end ToggleTurnoutControl

structure ToggleTurnoutStation where
  turnout : Turnout
  button : Button
  deriving DecidableEq, Repr

namespace ToggleTurnoutStation

def DEBOUNCE_MS : Millis := 30

def new (address : Int) (name : List Char) : ToggleTurnoutStation where
  turnout := .new address name .closed false false
  button := { debounceMilliseconds := DEBOUNCE_MS }

def update (s : ToggleTurnoutStation) (raw : Bool) (now₁ now₂ : Millis)
    : ToggleTurnoutStation × List TurnoutCommand :=
  let s := { s with button := s.button.update raw now₁ now₂ }
  (s, ToggleTurnoutControl.update s.button s.turnout)

/-
The two indicators write to outputs that the station does not own. `set` is what such a write does to
whatever stands behind them.
-/
variable {σ : Type u} (set : Lamp → Bool → Millis → σ → σ)

def begin (now₁ now₂ : Millis) (outputs : σ) : σ :=
  TurnoutIndicator.clear set now₁ now₂ outputs

def clearIndicator (now₁ now₂ : Millis) (outputs : σ) : σ :=
  TurnoutIndicator.clear set now₁ now₂ outputs

def applyFeedback (s : ToggleTurnoutStation) (feedback : TurnoutFeedback) (now₁ now₂ : Millis)
    (outputs : σ)
    : ToggleTurnoutStation × σ :=
  if feedback.address ≠ s.turnout.address then
    (s, outputs)
  else
    let turnout :=
      if feedback.position = .thrown then
        s.turnout.throwDiverging
      else
        s.turnout.throwStraight
    ({ s with turnout }, TurnoutIndicator.display set feedback.position now₁ now₂ outputs)

end ToggleTurnoutStation

-- What the two kinds of LED pairs offer to the loops: `LedPairStation` and its independent copy.
class LedPairStation (δ : Type u) where
  new : Millis → LedPairColor → Millis → δ
  begin : δ → Millis → δ
  setGreen : δ → Bool → Millis → δ
  setRed : δ → Bool → Millis → δ
  setIdentifying : δ → Bool → Millis → δ
  update : δ → Millis → δ

instance : LedPairStation LedPairDriver where
  new := LedPairDriver.new
  begin := LedPairDriver.begin
  setGreen := LedPairDriver.setGreen
  setRed := LedPairDriver.setRed
  setIdentifying := LedPairDriver.setIdentifying
  update := LedPairDriver.update

instance : LedPairStation IndependentLedPairDriver where
  new := IndependentLedPairDriver.new
  begin := IndependentLedPairDriver.begin
  setGreen := IndependentLedPairDriver.setGreen
  setRed := IndependentLedPairDriver.setRed
  setIdentifying := IndependentLedPairDriver.setIdentifying
  update := IndependentLedPairDriver.update

namespace LedPairOutput

variable {δ : Type u} [LedPairStation δ]

-- The closed output of a station is the green LED of its pair, the thrown output the red one.
def set (lamp : Lamp) (active : Bool) (now : Millis) (driver : δ) : δ :=
  match lamp with
  | .closed => LedPairStation.setGreen driver active now
  | .thrown => LedPairStation.setRed driver active now

end LedPairOutput

namespace LedPairFlashIndicator

variable {δ : Type u} [LedPairStation δ]

-- `show` for one of the pairs. Unless the mode is `NeedsCommissioning` only the first reading is used.
def showMode (mode : BootMode) (now₁ now₂ now₃ : Millis) (driver : δ) : δ :=
  let driver := LedPairStation.setIdentifying driver (mode = .WirelessSetup) now₁
  if mode = .NeedsCommissioning then
    LedPairStation.setRed (LedPairStation.setGreen driver false now₂) false now₃
  else
    driver

end LedPairFlashIndicator

end Maltbee
