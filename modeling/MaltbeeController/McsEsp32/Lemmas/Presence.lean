import MaltbeeController.McsEsp32.Impl.Presence
import MaltbeeController.McsEsp32.Lemmas.Mqtt

/-!
This module contains the proof that a node notices another node with its id if and only if it receives an
announcement of one whose MAC address ends differently, whatever the broker does.
-/

namespace Maltbee

namespace MacAddress

def SameTail (mac mac' : MacAddress) : Prop :=
  mac.bytes.get 4 = mac'.bytes.get 4 ∧ mac.bytes.get 5 = mac'.bytes.get 5

instance (mac mac' : MacAddress) : Decidable (mac.SameTail mac') :=
  inferInstanceAs (Decidable (_ ∧ _))

theorem hexDigit_eq_iff (n m : BitVec 8)
    : hexDigit n = hexDigit m ↔ n.toNat % 16 = m.toNat % 16 := by
  have htable : ∀ i j : Fin 16,
      "0123456789ABCDEF".toList.getD i '0' = "0123456789ABCDEF".toList.getD j '0' → i = j := by
    decide
  have hnibble (b : BitVec 8) : (b &&& 0x0F).toNat = b.toNat % 16 := by
    rw [BitVec.toNat_and]
    exact Nat.and_two_pow_sub_one_eq_mod b.toNat 4
  unfold hexDigit
  rw [hnibble, hnibble]
  constructor
  . intro h
    have := htable ⟨n.toNat % 16, by omega⟩ ⟨m.toNat % 16, by omega⟩ h
    simpa using this
  . intro h
    rw [h]

theorem hexDigits_eq_iff (b c : BitVec 8)
    : hexDigit (b >>> 4) = hexDigit (c >>> 4) ∧ hexDigit b = hexDigit c ↔ b = c := by
  rw [hexDigit_eq_iff, hexDigit_eq_iff, ← BitVec.toNat_inj]
  simp only [BitVec.toNat_ushiftRight, Nat.shiftRight_eq_div_pow]
  omega

theorem lastFourHexDigits_eq_iff (mac mac' : MacAddress)
    : mac.lastFourHexDigits = mac'.lastFourHexDigits ↔ mac.SameTail mac' := by
  unfold SameTail
  rw [← hexDigits_eq_iff, ← hexDigits_eq_iff]
  simp only [lastFourHexDigits, List.cons.injEq, and_true, and_assoc]
  rfl

end MacAddress

namespace MqttPresenceAnnouncer

theorem update_cases (a : MqttPresenceAnnouncer) (connected : Bool) (now₁ now₂ : Millis)
    : (a.update connected now₁ now₂).1.nodeId = a.nodeId
        ∧
      (a.update connected now₁ now₂).1.ownMac = a.ownMac
        ∧
      ((a.update connected now₁ now₂).2 = []
        ∨
      (a.update connected now₁ now₂).2 = (a.announce now₂).2) := by
  simp only [update]
  split
  . simp
  . split
    . simp [announce]
    . simp

end MqttPresenceAnnouncer

namespace PresenceNode

open PubSub (Sent Net Reachable)

variable {ι : Type u} (nodeId : ι → Int) (mac : ι → MacAddress)

def Foreign (i j : ι) : Prop :=
  nodeId j = nodeId i ∧ ¬(mac j).SameTail (mac i)

instance (i j : ι) : Decidable (Foreign nodeId mac i j) :=
  inferInstanceAs (Decidable (_ ∧ _))

-- The nodes from which `i` has been delivered a message and that claim its id, in that order.
def foreign (i : ι) (received : List (Sent ι MqttMessage)) : List ι :=
  (received.filterMap (·.publisher)).filter fun j => decide (Foreign nodeId mac i j)

def guardAfter (i : ι) (noticed : List ι) : NodeIdentityGuard where
  ownMac := (mac i).lastFourHexDigits
  collisionDetected := !noticed.isEmpty
  lastForeignMac := (noticed.getLast?.map fun j => (mac j).lastFourHexDigits).getD []

theorem guardAfter_concat (i j : ι) (noticed : List ι)
    : guardAfter mac i (noticed ++ [j])
        =
      {
        guardAfter mac i noticed with
        collisionDetected := true
        lastForeignMac := (mac j).lastFourHexDigits
      } := by
  simp [guardAfter]

theorem foreign_concat (i : ι) (received : List (Sent ι MqttMessage)) (m : Sent ι MqttMessage)
    : foreign nodeId mac i (received ++ [m])
        =
      foreign nodeId mac i received ++ foreign nodeId mac i [m] := by
  simp [foreign]

theorem mem_foreign_iff {i j : ι} {received : List (Sent ι MqttMessage)}
    : j ∈ foreign nodeId mac i received
        ↔
      (∃ m ∈ received, m.publisher = some j) ∧ Foreign nodeId mac i j := by
  simp [foreign]

structure Local (i : ι) (s : PresenceNode) (received : List (Sent ι MqttMessage)) : Prop where
  listens : s.nodeId = nodeId i
  announces : s.announcer.nodeId = nodeId i
  ownMac : s.announcer.ownMac = (mac i).lastFourHexDigits
  identityGuard : s.identityGuard = guardAfter mac i (foreign nodeId mac i received)

-- Only a node announces a MAC, its own under its own id, and no node identifies a board.
structure Origin (m : Sent ι MqttMessage) : Prop where
  announced : ∀ id, m.message.topic = PresenceTopics.macTopic id →
    ∃ j, m.publisher = some j ∧ nodeId j = id ∧ m.message.payload = (mac j).lastFourHexDigits
  outsider : ∀ id, m.message.topic = PresenceTopics.identifyTopic id → m.publisher = none

variable {nodeId mac}

theorem Local.of_announcer {i : ι} {s : PresenceNode} {received : List (Sent ι MqttMessage)}
    (h : Local nodeId mac i s received) {announcer : MqttPresenceAnnouncer}
    (hid : announcer.nodeId = s.announcer.nodeId) (hmac : announcer.ownMac = s.announcer.ownMac)
    : Local nodeId mac i { s with announcer := announcer } received where
  listens := h.listens
  announces := hid.trans h.announces
  ownMac := hmac.trans h.ownMac
  identityGuard := h.identityGuard

theorem Origin.of_act {i : ι} {s s' : PresenceNode} {received : List (Sent ι MqttMessage)}
    {out : List MqttMessage} (h : Local nodeId mac i s received) (hact : Act s s' out)
    {m : MqttMessage} (hm : m ∈ out)
    : Origin nodeId mac ⟨some i, m⟩ := by
  cases hact with
  | update connected now₁ now₂ =>
    rcases s.announcer.update_cases connected now₁ now₂ with ⟨_, _, hquiet | hannounce⟩
    . simp [PresenceNode.update, hquiet] at hm
    . simp only [PresenceNode.update, hannounce, MqttPresenceAnnouncer.announce, h.announces,
        h.ownMac, List.map_cons, List.map_nil, List.mem_cons, List.not_mem_nil, or_false] at hm
      rcases hm with rfl | rfl
      . constructor
        . intro id hid
          cases PresenceTopics.macTopic_ne_statusTopic _ _ hid.symm
        . intro id hid
          cases PresenceTopics.identifyTopic_ne_statusTopic _ _ hid.symm
      . constructor
        . intro id hid
          exact ⟨i, rfl, PresenceTopics.macTopic_injective hid, rfl⟩
        . intro id hid
          cases PresenceTopics.macTopic_ne_identifyTopic _ _ hid
  | send addresses command =>
    rcases List.mem_map.mp hm with ⟨publication, hpublication, rfl⟩
    rcases BasicLoco2MqttTurnoutCommandAdapter.topic_of_send addresses hpublication
      with ⟨address, htopic⟩
    constructor
    . intro id hid
      cases TopicScheme.topicFor_ne_of_head? address rfl (htopic.symm.trans hid)
    . intro id hid
      cases TopicScheme.topicFor_ne_of_head? address rfl (htopic.symm.trans hid)

theorem Local.act {i : ι} {s s' : PresenceNode} {received : List (Sent ι MqttMessage)}
    {out : List MqttMessage} (h : Local nodeId mac i s received) (hact : Act s s' out)
    : Local nodeId mac i s' received := by
  cases hact with
  | update connected now₁ now₂ =>
    rcases s.announcer.update_cases connected now₁ now₂ with ⟨hid, hmac, _⟩
    apply h.of_announcer hid hmac
  | send => exact h

theorem Local.receive {i : ι} {s : PresenceNode} {received : List (Sent ι MqttMessage)}
    {m : Sent ι MqttMessage} (h : Local nodeId mac i s received) (hm : Origin nodeId mac m)
    (hsubscribed : s.subscribed m.message)
    : Local nodeId mac i (s.receive m.message) (received ++ [m]) := by
  rcases h with ⟨hlistens, hannounces, hmac, hguard⟩
  unfold PresenceNode.receive
  split
  . next htopic =>
    rcases hm.announced _ htopic with ⟨j, hpublisher, hid, hpayload⟩
    constructor
    . exact hlistens
    . exact hannounces
    . exact hmac
    . dsimp only
      rw [foreign_concat, hguard, hpayload]
      by_cases hforeign : Foreign nodeId mac i j
      . have hlast : foreign nodeId mac i [m] = [j] := by
          simp [foreign, hpublisher, hforeign]
        rw [hlast, guardAfter_concat]
        unfold NodeIdentityGuard.onMacObserved
        rw [if_pos]
        intro heq
        exact hforeign.2 ((MacAddress.lastFourHexDigits_eq_iff _ _).mp heq)
      . have hlast : foreign nodeId mac i [m] = [] := by
          simp [foreign, hpublisher, hforeign]
        rw [hlast, List.append_nil]
        unfold NodeIdentityGuard.onMacObserved
        rw [if_neg]
        intro hne
        apply hforeign
        constructor
        . rw [hid, hlistens]
        . rw [← MacAddress.lastFourHexDigits_eq_iff]
          exact hne
  . next htopic =>
    have hpublisher := hm.outsider _ (hsubscribed.resolve_left htopic)
    constructor
    . exact hlistens
    . exact hannounces
    . exact hmac
    . rw [foreign_concat, hguard]
      simp [foreign, hpublisher]

variable (nodeId mac)

theorem rely : PubSub.Rely protocol (Local nodeId mac) (Origin nodeId mac) where
  act := by
    intro i s s' out received h hact
    constructor
    . apply h.act hact
    . intro m hm
      apply Origin.of_act h hact hm
  outside := by
    intro m hm
    constructor
    . intro id hid
      cases hm id hid
    . intros
      rfl
  deliver := by
    intro i s received m h hm hhears
    apply h.receive hm hhears

variable [DecidableEq ι]

theorem sound_of_reachable {net : Net ι PresenceNode MqttMessage}
    (hreach : Reachable protocol (PresenceNode.net nodeId mac) net)
    : PubSub.Sound (Local nodeId mac) (Origin nodeId mac) net := by
  apply (rely nodeId mac).reachable _ hreach
  constructor
  . intro i
    constructor <;> rfl
  . intro m hm
    contradiction

-- What the guard of node `i` knows in `net`, and for how long.
structure Notices (net : Net ι PresenceNode MqttMessage) (i : ι) : Prop where
  collision_iff : (net.node i).identityGuard.collisionDetected = true
      ↔
    ∃ m ∈ net.delivered i, ∃ j, m.publisher = some j ∧ nodeId j = nodeId i ∧
      ¬(mac j).SameTail (mac i)
  observedMac : (net.node i).identityGuard.observedMac
      =
    ((foreign nodeId mac i (net.delivered i)).getLast?.map fun j =>
      (mac j).lastFourHexDigits).getD []
  stays : ∀ net', Reachable protocol net net' →
    (net.node i).identityGuard.collisionDetected = true →
      (net'.node i).identityGuard.collisionDetected = true
  unique : (∀ j, j ≠ i → nodeId j ≠ nodeId i) →
    (net.node i).identityGuard.collisionDetected = false

theorem collision_iff {net : Net ι PresenceNode MqttMessage}
    (hreach : Reachable protocol (PresenceNode.net nodeId mac) net) (i : ι)
    : (net.node i).identityGuard.collisionDetected = true
        ↔
      ∃ m ∈ net.delivered i, ∃ j, m.publisher = some j ∧ nodeId j = nodeId i ∧
        ¬(mac j).SameTail (mac i) := by
  have hguard := ((sound_of_reachable nodeId mac hreach).1 i).identityGuard
  rw [hguard]
  simp only [guardAfter, Bool.not_eq_true', List.isEmpty_eq_false_iff_exists_mem, mem_foreign_iff,
    Foreign]
  constructor
  . intro ⟨j, ⟨m, hm, hpublisher⟩, hforeign⟩
    exact ⟨m, hm, j, hpublisher, hforeign⟩
  . intro ⟨m, hm, j, hpublisher, hforeign⟩
    exact ⟨j, ⟨m, hm, hpublisher⟩, hforeign⟩

theorem notices_of_reachable {net : Net ι PresenceNode MqttMessage}
    (hreach : Reachable protocol (PresenceNode.net nodeId mac) net) (i : ι)
    : Notices nodeId mac net i := by
  constructor
  . apply collision_iff nodeId mac hreach
  . rw [((sound_of_reachable nodeId mac hreach).1 i).identityGuard]
    rfl
  . intro net' hreach' hdetected
    rw [collision_iff nodeId mac hreach] at hdetected
    rw [collision_iff nodeId mac (hreach.trans hreach')]
    rcases hdetected with ⟨m, hm, hforeign⟩
    exact ⟨m, PubSub.delivered_subset hreach' i hm, hforeign⟩
  . intro hunique
    rw [Bool.eq_false_iff]
    intro hdetected
    rw [collision_iff nodeId mac hreach] at hdetected
    rcases hdetected with ⟨_, _, j, _, hid, htail⟩
    by_cases hij : j = i
    . rw [hij] at htail
      exact htail ⟨rfl, rfl⟩
    . exact hunique j hij hid

end PresenceNode

end Maltbee
