import MaltbeeController.Lib.PubSub
import MaltbeeController.McsEsp32.Impl.Mqtt

/-!
This module contains the presence protocol: what a node does in it and the system of all nodes with one
broker between them.
-/

namespace Maltbee

-- The part of a node that takes part in the protocol.
structure PresenceNode where
  nodeId : Int
  announcer : MqttPresenceAnnouncer
  identityGuard : NodeIdentityGuard
  deriving DecidableEq, Repr

namespace PresenceNode

def new (nodeId : Int) (mac : MacAddress) : PresenceNode where
  nodeId := nodeId
  announcer := {
    nodeId
    ownMac := mac.lastFourHexDigits
  }
  identityGuard := { ownMac := mac.lastFourHexDigits }

def update (s : PresenceNode) (connected : Bool) (now₁ now₂ : Millis)
    : PresenceNode × List MqttMessage :=
  let res := s.announcer.update connected now₁ now₂
  ({ s with announcer := res.1 }, res.2.map (·.toMqttMessage))

-- The handler of the topic that identifies a board changes nothing here.
def receive (s : PresenceNode) (message : MqttMessage) : PresenceNode :=
  if message.topic = PresenceTopics.macTopic s.nodeId then
    { s with identityGuard := s.identityGuard.onMacObserved message.payload }
  else
    s

def subscribed (s : PresenceNode) (message : MqttMessage) : Prop :=
  message.topic = PresenceTopics.macTopic s.nodeId
    ∨
  message.topic = PresenceTopics.identifyTopic s.nodeId

/-
What a node publishes: its announcements, at any times, and the commands of its stations, whatever the
addresses of its channels are.
-/
inductive Act : PresenceNode → PresenceNode → List MqttMessage → Prop where
  | update (s : PresenceNode) (connected : Bool) (now₁ now₂ : Millis)
      : Act s (s.update connected now₁ now₂).1 (s.update connected now₁ now₂).2
  | send (s : PresenceNode) {N : Nat} (channelTurnoutAddresses : Vector Int N)
      (command : TurnoutCommand)
      : Act s s ((BasicLoco2MqttTurnoutCommandAdapter.send channelTurnoutAddresses command).map
          (·.toMqttMessage))

-- Others publish anything but the MAC of a node.
def protocol : PubSub.Protocol PresenceNode MqttMessage where
  act := Act
  hears := subscribed
  receive := receive
  outside := fun message => ∀ nodeId, message.topic ≠ PresenceTopics.macTopic nodeId

def net {ι : Type u} (nodeId : ι → Int) (mac : ι → MacAddress)
    : PubSub.Net ι PresenceNode MqttMessage where
  node := fun i => new (nodeId i) (mac i)

end PresenceNode

end Maltbee
