import MaltbeeController.Lib.BoundedArray
import MaltbeeController.McsCore.Impl.Turnout

/-!
This module contains the collection that holds the turnouts of a layout by their addresses and the
service that moves them.
-/

namespace Maltbee

structure TurnoutCollection where
  turnouts : BoundedArray Turnout 64 := .empty default
  deriving DecidableEq, Repr

namespace TurnoutCollection

def MAX_TURNOUTS : Nat := 64

def add (c : TurnoutCollection) (turnout : Turnout) : TurnoutCollection :=
  match c.turnouts.indexOf? (·.address = turnout.address) with
  | some i => { turnouts := c.turnouts.set i turnout }
  | none =>
    if c.turnouts.count ≥ MAX_TURNOUTS then
      c
    else
      { turnouts := c.turnouts.push turnout }

def count (c : TurnoutCollection) : Nat :=
  c.turnouts.count

-- The overload that returns a pointer to a `const Turnout`: what is read through it.
def getByAddress (c : TurnoutCollection) (address : Int) : Option Turnout :=
  c.turnouts.toList.find? (·.address = address)

-- The overload that returns a pointer through which the turnout may be written: the slot it points to.
def getByAddressMut (c : TurnoutCollection) (address : Int) : Option (Fin 64) :=
  c.turnouts.indexOf? (·.address = address)

def deref (c : TurnoutCollection) (pointer : Fin 64) : Turnout :=
  c.turnouts.items.get pointer

def write (c : TurnoutCollection) (pointer : Fin 64) (turnout : Turnout) : TurnoutCollection where
  turnouts := c.turnouts.set pointer turnout

end TurnoutCollection

inductive TurnoutServiceResult where
  | Success
  | NotFound
  | Locked
  | Disabled
  deriving DecidableEq, Repr

-- The service owns no state: it holds a reference to the collection, which goes in and out here.
namespace TurnoutService

def addTurnout (c : TurnoutCollection) (turnout : Turnout) : TurnoutCollection :=
  c.add turnout

def getTurnout (c : TurnoutCollection) (address : Int) : Option Turnout :=
  c.getByAddress address

def validateTurnout (turnout : Option Turnout) : TurnoutServiceResult :=
  match turnout with
  | none => .NotFound
  | some turnout =>
    if turnout.isLocked then
      .Locked
    else if turnout.isDisabled then
      .Disabled
    else
      .Success

-- What the three operations have in common; `move` is the one they call on the turnout.
def operate (move : Turnout → Turnout) (c : TurnoutCollection) (address : Int)
    : TurnoutServiceResult × TurnoutCollection :=
  let turnout := c.getByAddressMut address
  let validation := validateTurnout (turnout.map c.deref)
  if validation ≠ .Success then
    (validation, c)
  else
    match turnout with
    | none => (.Success, c)
    | some turnout => (.Success, c.write turnout (move (c.deref turnout)))

def throwStraight (c : TurnoutCollection) (address : Int)
    : TurnoutServiceResult × TurnoutCollection :=
  operate .throwStraight c address

def throwDiverging (c : TurnoutCollection) (address : Int)
    : TurnoutServiceResult × TurnoutCollection :=
  operate .throwDiverging c address

def toggle (c : TurnoutCollection) (address : Int) : TurnoutServiceResult × TurnoutCollection :=
  operate .toggle c address

end TurnoutService

end Maltbee
