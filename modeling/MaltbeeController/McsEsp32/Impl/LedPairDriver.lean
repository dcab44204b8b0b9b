import MaltbeeController.McsCore.Impl.DigitalPins

/-!
This module contains the driver of a red and green LED pair on one GPIO: the level that lights one of
them darkens the other.
-/

namespace Maltbee

inductive LedPairColor where
  | Green
  | Red
  deriving DecidableEq, Repr

namespace LedPairColor

def opposite (color : LedPairColor) : LedPairColor :=
  if color = .Green then .Red else .Green

end LedPairColor

inductive LedPairMode where
  | Green
  | Red
  | Blink
  deriving DecidableEq, Repr

structure LedPairDriver where
  gpio : DigitalOutput := {}
  blinkIntervalMs : Millis
  lastDisplayedColor : LedPairColor
  greenRequested : Bool := false
  redRequested : Bool := false
  currentMode : LedPairMode := .Blink
  blinkShowingLastColor : Bool := true
  lastToggleTime : Millis := 0
  identifying : Bool := false
  identifyShowingGreen : Bool := true
  identifyLastToggleMs : Millis := 0
  deriving DecidableEq, Repr

namespace LedPairDriver

def kIdentifyIntervalMs : Millis := 150

def writeColor (d : LedPairDriver) (color : LedPairColor) : LedPairDriver :=
  { d with gpio := d.gpio.set (color = .Green) }

def currentColorToShow (d : LedPairDriver) : LedPairColor :=
  match d.currentMode with
  | .Green => .Green
  | .Red => .Red
  | .Blink =>
    if d.blinkShowingLastColor then d.lastDisplayedColor else d.lastDisplayedColor.opposite

def new (blinkIntervalMs : Millis) (defaultColor : LedPairColor) (now : Millis) : LedPairDriver :=
  let d : LedPairDriver := {
    blinkIntervalMs
    lastDisplayedColor := defaultColor
    lastToggleTime := now
  }
  d.writeColor d.lastDisplayedColor

def begin (d : LedPairDriver) (now : Millis) : LedPairDriver :=
  let d := { d with lastToggleTime := now }
  d.writeColor d.currentColorToShow

-- The mode that the two requests ask for. While both are on, the GPIO is left as it was.
def nextMode (d : LedPairDriver) : Option LedPairMode :=
  if d.greenRequested && !d.redRequested then
    some .Green
  else if d.redRequested && !d.greenRequested then
    some .Red
  else if !d.greenRequested && !d.redRequested then
    some .Blink
  else
    none

def enterMode (d : LedPairDriver) (mode : LedPairMode) (now : Millis) : LedPairDriver :=
  let d := { d with currentMode := mode }
  match mode with
  | .Green => { d with lastDisplayedColor := .Green }.writeColor .Green
  | .Red => { d with lastDisplayedColor := .Red }.writeColor .Red
  | .Blink =>
    { d with blinkShowingLastColor := true, lastToggleTime := now }.writeColor d.lastDisplayedColor

def applyState (d : LedPairDriver) (now : Millis) : LedPairDriver :=
  match d.nextMode with
  | none => d
  | some mode => if mode = d.currentMode then d else d.enterMode mode now

def setGreen (d : LedPairDriver) (active : Bool) (now : Millis) : LedPairDriver :=
  { d with greenRequested := active }.applyState now

def setRed (d : LedPairDriver) (active : Bool) (now : Millis) : LedPairDriver :=
  { d with redRequested := active }.applyState now

def setIdentifying (d : LedPairDriver) (active : Bool) (now : Millis) : LedPairDriver :=
  if active = d.identifying then
    d
  else
    let d := { d with identifying := active }
    if d.identifying then
      { d with identifyShowingGreen := true, identifyLastToggleMs := now }.writeColor .Green
    else
      d.writeColor d.currentColorToShow

def update (d : LedPairDriver) (now : Millis) : LedPairDriver :=
  if d.identifying then
    if now - d.identifyLastToggleMs ≥ kIdentifyIntervalMs then
      let d := {
        d with
        identifyShowingGreen := !d.identifyShowingGreen
        identifyLastToggleMs := now
      }
      d.writeColor (if d.identifyShowingGreen then .Green else .Red)
    else
      d
  else if d.currentMode ≠ .Blink then
    d
  else if now - d.lastToggleTime < d.blinkIntervalMs then
    d
  else
    let d := { d with blinkShowingLastColor := !d.blinkShowingLastColor, lastToggleTime := now }
    d.writeColor
      (if d.blinkShowingLastColor then d.lastDisplayedColor else d.lastDisplayedColor.opposite)

end LedPairDriver

end Maltbee
