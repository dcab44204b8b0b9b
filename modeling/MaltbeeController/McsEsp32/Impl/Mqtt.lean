import MaltbeeController.McsCore.Impl.Turnout
import MaltbeeController.McsEsp32.Impl.NodeConfig

/-!
This module contains what an ESP32 node publishes and what it makes of the messages it receives: the
commands and states of the turnouts, and the presence protocol by which two nodes with one id notice
each other.
-/

namespace Maltbee

structure MqttMessage where
  topic : Str
  payload : Str
  deriving DecidableEq, Repr

structure Publication extends MqttMessage where
  retained : Bool
  deriving DecidableEq, Repr

namespace TopicScheme

def topicFor (address : Int) : Str :=
  "loconet/turnout/".toList ++ to_string address ++ "/set".toList

def stateTopicFor (address : Int) : Str :=
  "loconet/turnout/".toList ++ to_string address ++ "/state".toList

end TopicScheme

namespace PayloadCodec

def encode (position : TurnoutPosition) : Str :=
  if position = .closed then "CLOSED".toList else "THROWN".toList

def decode (payload : Str) : Option TurnoutPosition :=
  if payload = "CLOSED".toList then
    some .closed
  else if payload = "THROWN".toList then
    some .thrown
  else
    none

end PayloadCodec

namespace BasicLoco2MqttTurnoutCommandAdapter

def send {N : Nat} (channelTurnoutAddresses : Vector Int N) (command : TurnoutCommand)
    : List Publication :=
  if h:command.address < 1 ∨ command.address > N then
    []
  else
    let turnoutAddress := channelTurnoutAddresses.get ⟨(command.address - 1).toNat, by omega⟩
    if turnoutAddress = 0 then
      []
    else
      [{
        topic := TopicScheme.topicFor turnoutAddress
        payload := PayloadCodec.encode command.position
        retained := false
      }]

end BasicLoco2MqttTurnoutCommandAdapter

inductive Loco2MqttPosition where
  | Closed
  | Thrown
  deriving DecidableEq, Repr

structure Loco2MqttStateUpdate where
  channel : Int
  position : Loco2MqttPosition
  deriving DecidableEq, Repr

namespace BasicLoco2MqttFeedbackSource

def toTurnoutPosition (position : Loco2MqttPosition) : TurnoutPosition :=
  if position = .Closed then .closed else .thrown

def poll (update : Loco2MqttStateUpdate) : TurnoutFeedback where
  address := update.channel
  position := toTurnoutPosition update.position

end BasicLoco2MqttFeedbackSource

structure MacAddress where
  bytes : Vector (BitVec 8) 6
  deriving DecidableEq, Repr

namespace MacAddress

def hexDigit (n : BitVec 8) : Char :=
  "0123456789ABCDEF".toList.getD (n &&& 0x0F).toNat '0'

def lastFourHexDigits (mac : MacAddress) : Str :=
  [
    hexDigit (mac.bytes[4] >>> 4),
    hexDigit mac.bytes[4],
    hexDigit (mac.bytes[5] >>> 4),
    hexDigit mac.bytes[5]
  ]

end MacAddress

namespace PresenceTopics

def statusTopic (nodeId : Int) : Str :=
  "panel/".toList ++ to_string nodeId ++ "/status".toList

def macTopic (nodeId : Int) : Str :=
  "panel/".toList ++ to_string nodeId ++ "/mac".toList

def identifyTopic (nodeId : Int) : Str :=
  "panel/".toList ++ to_string nodeId ++ "/identify".toList

end PresenceTopics

structure NodeIdentityGuard where
  ownMac : Str
  collisionDetected : Bool := false
  lastForeignMac : Str := []
  deriving DecidableEq, Repr

namespace NodeIdentityGuard

def onMacObserved (g : NodeIdentityGuard) (observedMac : Str) : NodeIdentityGuard :=
  if observedMac ≠ g.ownMac then
    { g with collisionDetected := true, lastForeignMac := observedMac }
  else
    g

def observedMac (g : NodeIdentityGuard) : Str :=
  g.lastForeignMac

end NodeIdentityGuard

structure MqttPresenceAnnouncer where
  nodeId : Int
  ownMac : Str
  wasConnected : Bool := false
  lastAnnouncedAtMs : Millis := 0
  deriving DecidableEq, Repr

namespace MqttPresenceAnnouncer

def kHeartbeatIntervalMs : Millis := 30000

def announce (a : MqttPresenceAnnouncer) (now : Millis)
    : MqttPresenceAnnouncer × List Publication :=
  (
    { a with lastAnnouncedAtMs := now },
    [
      {
        topic := PresenceTopics.statusTopic a.nodeId
        payload := "online".toList
        retained := false
      },
      {
        topic := PresenceTopics.macTopic a.nodeId
        payload := a.ownMac
        retained := false
      }
    ]
  )

-- The clock is read for the heartbeat and once more by an announcement.
def update (a : MqttPresenceAnnouncer) (currentlyConnected : Bool) (now₁ now₂ : Millis)
    : MqttPresenceAnnouncer × List Publication :=
  if !currentlyConnected then
    ({ a with wasConnected := false }, [])
  else
    let justConnected := !a.wasConnected
    let heartbeatDue : Bool := now₁ - a.lastAnnouncedAtMs ≥ kHeartbeatIntervalMs
    let res := if justConnected || heartbeatDue then a.announce now₂ else (a, [])
    ({ res.1 with wasConnected := true }, res.2)

end MqttPresenceAnnouncer

end Maltbee
