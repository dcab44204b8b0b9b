import MaltbeeController.McsCore.Impl.FixedString32

/-!
This module contains a turnout, the commands and reports about it that the ports carry, and the
pair of lamps that shows its confirmed position.
-/

namespace Maltbee

/--
A reading of the millisecond clock: `unsigned long` has 32 bits on both boards.
-/
abbrev Millis := BitVec 32

inductive TurnoutPosition where
  | closed
  | thrown
  deriving DecidableEq, Repr, Inhabited

namespace TurnoutPosition

def opposite (position : TurnoutPosition) : TurnoutPosition :=
  if position = .closed then .thrown else .closed

end TurnoutPosition

structure TurnoutCommand where
  address : Int
  position : TurnoutPosition
  deriving DecidableEq, Repr, Inhabited

structure TurnoutFeedback where
  address : Int
  position : TurnoutPosition
  deriving DecidableEq, Repr

structure Turnout where
  layoutAddress : Int
  displayName : FixedString32
  currentPosition : TurnoutPosition
  turnoutDisabled : Bool
  turnoutLocked : Bool
  deriving DecidableEq, Repr

namespace Turnout

def new (address : Int) (name : List Char) (turnoutPosition : TurnoutPosition)
    (turnoutLocked turnoutDisabled : Bool)
    : Turnout where
  layoutAddress := address
  displayName := .ofCStr name
  currentPosition := turnoutPosition
  turnoutDisabled := turnoutDisabled
  turnoutLocked := turnoutLocked

instance : Inhabited Turnout where
  default := new 0 [] .closed false false

def address (t : Turnout) : Int :=
  t.layoutAddress

def position (t : Turnout) : TurnoutPosition :=
  t.currentPosition

def name (t : Turnout) : FixedString32 :=
  t.displayName

def isLocked (t : Turnout) : Bool :=
  t.turnoutLocked

def isDisabled (t : Turnout) : Bool :=
  t.turnoutDisabled

def canThrow (t : Turnout) : Bool :=
  !t.isLocked && !t.isDisabled

def throwStraight (t : Turnout) : Turnout :=
  if !t.canThrow then t else { t with currentPosition := .closed }

def throwDiverging (t : Turnout) : Turnout :=
  if !t.canThrow then t else { t with currentPosition := .thrown }

def toggle (t : Turnout) : Turnout :=
  if !t.canThrow then
    t
  else if t.currentPosition = .closed then
    t.throwDiverging
  else
    t.throwStraight

def lock (t : Turnout) : Turnout :=
  { t with turnoutLocked := true }

def unlock (t : Turnout) : Turnout :=
  { t with turnoutLocked := false }

def disable (t : Turnout) : Turnout :=
  { t with turnoutDisabled := true }

def enable (t : Turnout) : Turnout :=
  { t with turnoutDisabled := false }

end Turnout

inductive Lamp where
  | thrown
  | closed
  deriving DecidableEq, Repr

namespace TurnoutIndicator

/-
The indicator owns no state: it writes two outputs through `Indicator`. `set` is what such a write
does to whatever stands behind the outputs; each write may read the clock, so it gets a reading.
-/
variable {σ : Type u} (set : Lamp → Bool → Millis → σ → σ)

def display (position : TurnoutPosition) (now₁ now₂ : Millis) (outputs : σ) : σ :=
  if position = .thrown then
    set .closed false now₂ (set .thrown true now₁ outputs)
  else
    set .thrown false now₂ (set .closed true now₁ outputs)

def clear (now₁ now₂ : Millis) (outputs : σ) : σ :=
  set .closed false now₂ (set .thrown false now₁ outputs)

end TurnoutIndicator

end Maltbee
