import MaltbeeController.Lib.StepRun
import MaltbeeController.McsCore.Impl.Turnout

/-!
This module contains the transport that turns a turnout command into a solenoid pulse: an ON request
to the switch driver now and the matching OFF request once the pulse is over, or as soon as another
packet needs the one pulse slot.
-/

namespace Maltbee

structure LocoNetPacket where
  address : Int
  position : TurnoutPosition
  deriving DecidableEq, Repr

structure SwitchRequest where
  address : Int
  position : TurnoutPosition
  outputOn : Bool
  deriving DecidableEq, Repr

structure PulsingLocoNetTransport where
  pulseDurationMs : Millis
  releasePending : Bool := false
  pendingAddress : Int := 0
  pendingPosition : TurnoutPosition := .closed
  releaseAtMs : Millis := 0
  deriving DecidableEq, Repr

namespace PulsingLocoNetTransport

def releasePendingSwitch (t : PulsingLocoNetTransport)
    : PulsingLocoNetTransport × List SwitchRequest :=
  ({ t with releasePending := false }, [⟨t.pendingAddress, t.pendingPosition, false⟩])

def sendPacket (t : PulsingLocoNetTransport) (packet : LocoNetPacket) (now : Millis)
    : PulsingLocoNetTransport × List SwitchRequest :=
  let res := if t.releasePending then t.releasePendingSwitch else (t, [])
  let t := res.1
  (
    { t with
      releasePending := true
      pendingAddress := packet.address
      pendingPosition := packet.position
      releaseAtMs := now + t.pulseDurationMs
    },
    res.2 ++ [⟨packet.address, packet.position, true⟩]
  )

def update (t : PulsingLocoNetTransport) (now : Millis)
    : PulsingLocoNetTransport × List SwitchRequest :=
  if t.releasePending && t.releaseAtMs ≤ now then
    t.releasePendingSwitch
  else
    (t, [])

inductive Call where
  | sendPacket (packet : LocoNetPacket)
  | update
  deriving DecidableEq, Repr

def call (t : PulsingLocoNetTransport) (c : Call) (now : Millis)
    : PulsingLocoNetTransport × List SwitchRequest :=
  match c with
  | .sendPacket packet => t.sendPacket packet now
  | .update => t.update now

end PulsingLocoNetTransport

namespace MrrwaLocoNetTurnoutAdapter

def send (transport : PulsingLocoNetTransport) (address : Int) (position : TurnoutPosition)
    (now : Millis)
    : PulsingLocoNetTransport × List SwitchRequest :=
  transport.sendPacket ⟨address, position⟩ now

end MrrwaLocoNetTurnoutAdapter

structure SwitchOutputsReport where
  address : Int
  closedOutputOn : Bool
  thrownOutputOn : Bool
  deriving DecidableEq, Repr

namespace LocoNetFeedbackDecoder

-- `none` is a lookup with `found == false`.
def decode (report : SwitchOutputsReport) : Option TurnoutFeedback :=
  if report.closedOutputOn = report.thrownOutputOn then
    none
  else
    some ⟨report.address, if report.thrownOutputOn then .thrown else .closed⟩

end LocoNetFeedbackDecoder

end Maltbee
