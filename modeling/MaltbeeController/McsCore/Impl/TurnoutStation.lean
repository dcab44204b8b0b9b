import MaltbeeController.McsCore.Impl.Button

/-!
This module contains a station of the Mega panel: a throw and a close button, the turnout they command
and the two LEDs that show its confirmed position.
-/

namespace Maltbee

namespace TurnoutControl

def update (throwButton closeButton : Button) (turnout : Turnout) : List TurnoutCommand :=
  (if throwButton.wasPressed then [⟨turnout.address, .thrown⟩] else []) ++
  (if closeButton.wasPressed then [⟨turnout.address, .closed⟩] else [])

end TurnoutControl

structure TurnoutStation where
  turnout : Turnout
  throwButton : Button
  closeButton : Button
  thrownOutput : Bool := false
  closedOutput : Bool := false
  deriving DecidableEq, Repr

namespace TurnoutStation

def DEBOUNCE_MS : Millis := 30

def new (address : Int) (name : List Char) : TurnoutStation where
  turnout := .new address name .closed false false
  throwButton := { debounceMilliseconds := DEBOUNCE_MS }
  closeButton := { debounceMilliseconds := DEBOUNCE_MS }

/-
`update` up to the commands that the control sends, which come with the station. The clock is read
twice for each of the buttons.
-/
def update (s : TurnoutStation) (throwRaw closeRaw : Bool) (now₁ now₂ now₃ now₄ : Millis)
    : TurnoutStation × List TurnoutCommand :=
  let s := { s with throwButton := s.throwButton.update throwRaw now₁ now₂ }
  let s := { s with closeButton := s.closeButton.update closeRaw now₃ now₄ }
  (s, TurnoutControl.update s.throwButton s.closeButton s.turnout)

-- The LEDs are wired to plain outputs, which do not look at the clock.
def setLamp (lamp : Lamp) (active : Bool) (_now : Millis) (s : TurnoutStation) : TurnoutStation :=
  match lamp with
  | .thrown => { s with thrownOutput := active }
  | .closed => { s with closedOutput := active }

def applyFeedback (s : TurnoutStation) (feedback : TurnoutFeedback) : TurnoutStation :=
  if feedback.address ≠ s.turnout.address then
    s
  else
    let turnout :=
      if feedback.position = .thrown then
        s.turnout.throwDiverging
      else
        s.turnout.throwStraight
    TurnoutIndicator.display setLamp feedback.position 0 0 { s with turnout }

end TurnoutStation

end Maltbee
