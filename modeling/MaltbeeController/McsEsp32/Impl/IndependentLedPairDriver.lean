import MaltbeeController.McsEsp32.Impl.LedPairDriver

/-!
This module contains the driver of a red and green LED pair on two GPIOs. It is a copy of the state
machine of `LedPairDriver`, which the source keeps separate.
-/

namespace Maltbee

structure IndependentLedPairDriver where
  greenGpio : DigitalOutput := {}
  redGpio : DigitalOutput := {}
  blinkIntervalMs : Millis
  lastDisplayedColor : LedPairColor
  greenRequested : Bool := false
  redRequested : Bool := false
  currentMode : LedPairMode := .Blink
  blinkShowingLastColor : Bool := true
  lastToggleTime : Millis := 0
  identifying : Bool := false
  identifyShowingGreen : Bool := true
  identifyLastToggleMs : Millis := 0
  deriving DecidableEq, Repr

namespace IndependentLedPairDriver

def kIdentifyIntervalMs : Millis := 150

def writeColor (d : IndependentLedPairDriver) (color : LedPairColor) : IndependentLedPairDriver :=
  {
    d with
    greenGpio := d.greenGpio.set (color = .Green)
    redGpio := d.redGpio.set (color = .Red)
  }

def currentColorToShow (d : IndependentLedPairDriver) : LedPairColor :=
  match d.currentMode with
  | .Green => .Green
  | .Red => .Red
  | .Blink =>
    if d.blinkShowingLastColor then d.lastDisplayedColor else d.lastDisplayedColor.opposite

def new (blinkIntervalMs : Millis) (defaultColor : LedPairColor) (now : Millis)
    : IndependentLedPairDriver :=
  let d : IndependentLedPairDriver := {
    blinkIntervalMs
    lastDisplayedColor := defaultColor
    lastToggleTime := now
  }
  d.writeColor d.lastDisplayedColor

def begin (d : IndependentLedPairDriver) (now : Millis) : IndependentLedPairDriver :=
  let d := { d with lastToggleTime := now }
  d.writeColor d.currentColorToShow

-- The mode that the two requests ask for. While both are on, the GPIOs are left as they were.
def nextMode (d : IndependentLedPairDriver) : Option LedPairMode :=
  if d.greenRequested && !d.redRequested then
    some .Green
  else if d.redRequested && !d.greenRequested then
    some .Red
  else if !d.greenRequested && !d.redRequested then
    some .Blink
  else
    none

def enterMode (d : IndependentLedPairDriver) (mode : LedPairMode) (now : Millis)
    : IndependentLedPairDriver :=
  let d := { d with currentMode := mode }
  match mode with
  | .Green => { d with lastDisplayedColor := .Green }.writeColor .Green
  | .Red => { d with lastDisplayedColor := .Red }.writeColor .Red
  | .Blink =>
    { d with blinkShowingLastColor := true, lastToggleTime := now }.writeColor d.lastDisplayedColor

def applyState (d : IndependentLedPairDriver) (now : Millis) : IndependentLedPairDriver :=
  match d.nextMode with
  | none => d
  | some mode => if mode = d.currentMode then d else d.enterMode mode now

def setGreen (d : IndependentLedPairDriver) (active : Bool) (now : Millis)
    : IndependentLedPairDriver :=
  { d with greenRequested := active }.applyState now

def setRed (d : IndependentLedPairDriver) (active : Bool) (now : Millis)
    : IndependentLedPairDriver :=
  { d with redRequested := active }.applyState now

def setIdentifying (d : IndependentLedPairDriver) (active : Bool) (now : Millis)
    : IndependentLedPairDriver :=
  if active = d.identifying then
    d
  else
    let d := { d with identifying := active }
    if d.identifying then
      { d with identifyShowingGreen := true, identifyLastToggleMs := now }.writeColor .Green
    else
      d.writeColor d.currentColorToShow

def update (d : IndependentLedPairDriver) (now : Millis) : IndependentLedPairDriver :=
  if d.identifying then
    if now - d.identifyLastToggleMs ≥ kIdentifyIntervalMs then
      let d := {
        d with
        identifyShowingGreen := !d.identifyShowingGreen
        identifyLastToggleMs := now
      }
      d.writeColor (if d.identifyShowingGreen then .Green else .Red)
    else
      d
  else if d.currentMode ≠ .Blink then
    d
  else if now - d.lastToggleTime < d.blinkIntervalMs then
    d
  else
    let d := { d with blinkShowingLastColor := !d.blinkShowingLastColor, lastToggleTime := now }
    d.writeColor
      (if d.blinkShowingLastColor then d.lastDisplayedColor else d.lastDisplayedColor.opposite)

end IndependentLedPairDriver

end Maltbee
