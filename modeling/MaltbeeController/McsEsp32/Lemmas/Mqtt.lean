import MaltbeeController.McsEsp32.Impl.Mqtt
import MaltbeeController.McsEsp32.Lemmas.NodeConfig

/-!
This module contains what the topics and payloads of a node can be told apart by, and what the command
adapter publishes.
-/

namespace Maltbee

-- Two texts around a number: the number is not part of how they differ.
theorem topic_injective (pre post : Str)
    : Function.Injective fun v : Int => pre ++ to_string v ++ post := by
  intro v w h
  dsimp only at h
  rw [List.append_left_inj, List.append_right_inj] at h
  apply to_string_injective h

theorem topic_ne_of_getLast? {pre pre' post post' mid mid' : Str}
    (hpost : post ≠ []) (hpost' : post' ≠ []) (h : post.getLast? ≠ post'.getLast?)
    : pre ++ mid ++ post ≠ pre' ++ mid' ++ post' := by
  intro heq
  apply h
  have := congrArg List.getLast? heq
  rwa [List.getLast?_append_of_ne_nil _ hpost, List.getLast?_append_of_ne_nil _ hpost'] at this

namespace TopicScheme

theorem topicFor_injective : Function.Injective topicFor := by
  apply topic_injective

theorem topicFor_ne_stateTopicFor (address address' : Int)
    : topicFor address ≠ stateTopicFor address' := by
  apply topic_ne_of_getLast?
  . decide
  . decide
  . decide

theorem topicFor_ne_of_head? {topic : Str} (address : Int) (h : topic.head? = some 'p')
    : topicFor address ≠ topic := by
  intro heq
  have hhead : (topicFor address).head? = some 'l' := rfl
  rw [heq, h] at hhead
  contradiction

end TopicScheme

namespace PresenceTopics

theorem macTopic_injective : Function.Injective macTopic := by
  apply topic_injective

theorem macTopic_ne_statusTopic (nodeId nodeId' : Int) : macTopic nodeId ≠ statusTopic nodeId' := by
  apply topic_ne_of_getLast?
  . decide
  . decide
  . decide

theorem macTopic_ne_identifyTopic (nodeId nodeId' : Int)
    : macTopic nodeId ≠ identifyTopic nodeId' := by
  apply topic_ne_of_getLast?
  . decide
  . decide
  . decide

theorem identifyTopic_ne_statusTopic (nodeId nodeId' : Int)
    : identifyTopic nodeId ≠ statusTopic nodeId' := by
  apply topic_ne_of_getLast?
  . decide
  . decide
  . decide

end PresenceTopics

namespace PayloadCodec

theorem decode_encode (position : TurnoutPosition) : decode (encode position) = some position := by
  cases position <;> decide

end PayloadCodec

namespace BasicLoco2MqttTurnoutCommandAdapter

variable {N : Nat} (config : BasicNodeConfig N)

theorem send_channel (i : Fin N) (position : TurnoutPosition)
    : send config.channelTurnoutAddresses ⟨i + 1, position⟩
        =
      if config.Configured i then
        [{
          topic := TopicScheme.topicFor (config.channelTurnoutAddresses.get i)
          payload := PayloadCodec.encode position
          retained := false
        }]
      else
        [] := by
  have hi := i.isLt
  have hindex : (((i : Int) + 1) - 1).toNat = i := by omega
  unfold send
  rw [dif_neg (by dsimp only; omega)]
  simp only [hindex, Fin.eta]
  unfold BasicNodeConfig.Configured
  split
  . next h => simp [h]
  . next h => simp [h]

theorem send_out_of_range {command : TurnoutCommand}
    (h : command.address < 1 ∨ command.address > N)
    : send config.channelTurnoutAddresses command = [] := by
  unfold send
  rw [dif_pos h]

theorem channel_of_send {command : TurnoutCommand} {m : Publication}
    (hm : m ∈ send config.channelTurnoutAddresses command)
    : ∃ i : Fin N, command.address = i + 1 ∧
        m.topic = TopicScheme.topicFor (config.channelTurnoutAddresses.get i) := by
  by_cases hrange : command.address < 1 ∨ command.address > N
  . rw [send_out_of_range config hrange] at hm
    contradiction
  . rcases command with ⟨address, position⟩
    dsimp only at hrange ⊢
    refine ⟨⟨(address - 1).toNat, by omega⟩, ?_, ?_⟩
    . dsimp only
      omega
    . have hchannel := send_channel config ⟨(address - 1).toNat, by omega⟩ position
      have haddress : (((address - 1).toNat : Nat) : Int) + 1 = address := by omega
      dsimp only at hchannel
      rw [haddress] at hchannel
      rw [hchannel] at hm
      split at hm
      . rw [List.mem_singleton] at hm
        rw [hm]
      . contradiction

theorem topic_of_send (channelTurnoutAddresses : Vector Int N) {command : TurnoutCommand}
    {m : Publication} (hm : m ∈ send channelTurnoutAddresses command)
    : ∃ address, m.topic = TopicScheme.topicFor address := by
  rcases channel_of_send { channelTurnoutAddresses } hm with ⟨i, _, htopic⟩
  exact ⟨_, htopic⟩

structure Publishes : Prop where
  once : ∀ (i : Fin N) position, config.Configured i →
    ∃ m, send config.channelTurnoutAddresses ⟨i + 1, position⟩ = [m] ∧
      m.topic = TopicScheme.topicFor (config.channelTurnoutAddresses.get i) ∧
      PayloadCodec.decode m.payload = some position
  unconfigured : ∀ (i : Fin N) position, ¬config.Configured i →
    send config.channelTurnoutAddresses ⟨i + 1, position⟩ = []
  outOfRange : ∀ (channel : Int) position, channel < 1 ∨ channel > N →
    send config.channelTurnoutAddresses ⟨channel, position⟩ = []
  topic_ne : ∀ command command', command.address ≠ command'.address →
    ∀ m ∈ send config.channelTurnoutAddresses command,
      ∀ m' ∈ send config.channelTurnoutAddresses command', m.topic ≠ m'.topic
  noEcho : ∀ command, ∀ m ∈ send config.channelTurnoutAddresses command,
    (∀ address, m.topic ≠ TopicScheme.stateTopicFor address) ∧
      ∀ nodeId, m.topic ≠ PresenceTopics.statusTopic nodeId ∧
        m.topic ≠ PresenceTopics.macTopic nodeId ∧ m.topic ≠ PresenceTopics.identifyTopic nodeId

theorem configured_of_send {i : Fin N} {position : TurnoutPosition} {m : Publication}
    (hm : m ∈ send config.channelTurnoutAddresses ⟨i + 1, position⟩)
    : config.Configured i := by
  rw [send_channel] at hm
  split at hm
  . assumption
  . contradiction

/--
With a valid configuration each channel that is configured has a topic of its own, and nothing a node
publishes for its stations comes back to it as feedback or in the presence protocol.
-/
theorem publishes (hvalid : config.validate = []) : Publishes config := by
  rw [BasicNodeConfig.validate_eq_nil_iff] at hvalid
  constructor
  . intro i position hconfigured
    rw [send_channel]
    rw [if_pos hconfigured]
    exact ⟨_, rfl, rfl, PayloadCodec.decode_encode position⟩
  . intro i position hunconfigured
    rw [send_channel]
    rw [if_neg hunconfigured]
  . intro channel position hrange
    apply send_out_of_range config hrange
  . intro command command' hne m hm m' hm'
    rcases channel_of_send config hm with ⟨i, hi, htopic⟩
    rcases channel_of_send config hm' with ⟨j, hj, htopic'⟩
    rcases command with ⟨_, position⟩
    rcases command' with ⟨_, position'⟩
    dsimp only at hi hj hne
    rw [hi] at hm hne
    rw [hj] at hm' hne
    have hij : i ≠ j := by
      intro heq
      rw [heq] at hne
      contradiction
    rw [htopic, htopic']
    intro heq
    apply hvalid.addresses_ne (configured_of_send config hm) (configured_of_send config hm') hij
    apply TopicScheme.topicFor_injective heq
  . intro command m hm
    rcases channel_of_send config hm with ⟨i, _, htopic⟩
    rw [htopic]
    constructor
    . intro address
      apply TopicScheme.topicFor_ne_stateTopicFor
    . intro nodeId
      refine ⟨?_, ?_, ?_⟩
      . apply TopicScheme.topicFor_ne_of_head?
        rfl
      . apply TopicScheme.topicFor_ne_of_head?
        rfl
      . apply TopicScheme.topicFor_ne_of_head?
        rfl

theorem publishes_three_channels
    : Publishes (N := 3) {
        nodeId := 7
        wifiSsid := "layout".toList
        brokerHost := "broker".toList
        channelTurnoutAddresses := #v[12, 0, 2048]
      } := by
  apply publishes
  decide +kernel

end BasicLoco2MqttTurnoutCommandAdapter

end Maltbee
