import MaltbeeController.Esp32.Lemmas.Tick
import MaltbeeController.McsEsp32.Lemmas.Presence

/-!
This module contains the proof that both ESP32 boards follow the presence protocol, what a tick receives
and publishes being a run of the node in it, and that a node of the protocol notices another one with its id.
-/

namespace Maltbee

namespace Esp32

def Effect.publication? (effect : Effect) : Option MqttMessage :=
  match effect with
  | .publish publication => some publication.toMqttMessage
  | _ => none

def published (effects : List Effect) : List MqttMessage :=
  effects.filterMap Effect.publication?

@[simp]
theorem published_append (effects more : List Effect)
    : published (effects ++ more) = published effects ++ published more := by
  simp [published]

@[simp]
theorem published_publish (publications : List Publication)
    : published (publications.map .publish) = publications.map (·.toMqttMessage) := by
  simp [published, Effect.publication?, Function.comp_def]

@[simp]
theorem published_drive (rows : List RowWrite) : published (rows.map .drive) = [] := by
  simp [published, Effect.publication?]

theorem published_eq_nil {effects : List Effect} (h : ∀ e ∈ effects, e.publication? = none)
    : published effects = [] := by
  simpa [published] using h

open PubSub (Run)
open PresenceNode (protocol)

namespace Node

variable {N : Nat} {β : Type u} {δ : Type v} (n : Node N β δ) (input : LoopInput N)

def presence : PresenceNode where
  nodeId := n.runningConfig.nodeId
  announcer := n.presenceAnnouncer
  identityGuard := n.identityGuard

theorem deliver_presence (message : MqttMessage) (now : Millis)
    : (n.deliver message now).presence = n.presence.receive message := by
  have hid : n.presence.nodeId = n.runningConfig.nodeId := rfl
  unfold deliver PresenceNode.receive
  rw [hid]
  by_cases h : message.topic = PresenceTopics.macTopic n.runningConfig.nodeId
  . rw [if_pos h]
    rw [if_pos h]
    rfl
  . rw [if_neg h]
    rw [if_neg h]
    split <;> rfl

theorem receive_of_not_subscribed {s : PresenceNode} {message : MqttMessage}
    (h : ¬s.subscribed message)
    : s.receive message = s := by
  unfold PresenceNode.receive
  rw [if_neg]
  intro htopic
  exact h (.inl htopic)

theorem deliver_run {s : PresenceNode} {received sent : List MqttMessage}
    (hrun : Run protocol s received sent n.presence) (message : MqttMessage) (now : Millis)
    : ∃ more, more ⊆ [message] ∧
        Run protocol s (received ++ more) sent (n.deliver message now).presence := by
  rw [deliver_presence]
  by_cases h : n.presence.subscribed message
  . refine ⟨[message], List.Subset.refl _, ?_⟩
    apply Run.receive hrun h
  . refine ⟨[], List.nil_subset _, ?_⟩
    rw [receive_of_not_subscribed h, List.append_nil]
    exact hrun

theorem deliver_all_run {s : PresenceNode} {received sent : List MqttMessage}
    (hrun : Run protocol s received sent n.presence) (messages : List (MqttMessage × Nat))
    : ∃ more, more ⊆ messages.map (·.1) ∧
        Run protocol s (received ++ more) sent
          (messages.foldl (fun n m => n.deliver m.1 (input.now (.delivery m.2))) n).presence := by
  induction messages generalizing n received with
  | nil =>
    refine ⟨[], List.nil_subset _, ?_⟩
    rw [List.append_nil]
    exact hrun
  | cons m messages ih =>
    rcases n.deliver_run hrun m.1 (input.now (.delivery m.2)) with ⟨first, hfirst, hrun⟩
    rcases ih (n.deliver m.1 (input.now (.delivery m.2))) hrun with ⟨rest, hrest, hrun⟩
    refine ⟨first ++ rest, ?_, ?_⟩
    . rw [List.map_cons, ← List.singleton_append]
      apply List.append_subset.mpr
      constructor
      . exact List.subset_append_of_subset_left _ hfirst
      . exact List.subset_append_of_subset_right _ hrest
    . rw [← List.append_assoc]
      exact hrun

theorem pollMqtt_run
    : ∃ received, received ⊆ input.messages ∧
        Run protocol n.presence received [] (n.pollMqtt input).presence := by
  unfold pollMqtt
  split
  . rcases n.deliver_all_run input (.nil _) input.messages.zipIdx with ⟨received, hsubset, hrun⟩
    rw [List.zipIdx_map_fst] at hsubset
    exact ⟨received, hsubset, hrun⟩
  . exact ⟨[], List.nil_subset _, .nil _⟩

theorem announce_run {s : PresenceNode} {received sent : List MqttMessage}
    (hrun : Run protocol s received sent n.presence) (connected : Bool)
    : Run protocol s received (sent ++ published (n.announce connected input).2)
        (n.announce connected input).1.presence := by
  have hact := PresenceNode.Act.update n.presence connected (input.now (.announcer 0))
    (input.now (.announcer 1))
  simp only [announce, published_publish]
  apply Run.act hrun hact

theorem send_run {s : PresenceNode} {received sent : List MqttMessage}
    (hrun : Run protocol s received sent n.presence) (commands : List TurnoutCommand)
    : Run protocol s received (sent ++ published (commands.flatMap n.send)) n.presence := by
  induction commands generalizing sent with
  | nil => simpa [published] using hrun
  | cons command commands ih =>
    have hact := PresenceNode.Act.send n.presence n.runningConfig.channelTurnoutAddresses command
    have hsend
        : published (n.send command)
            =
          (BasicLoco2MqttTurnoutCommandAdapter.send n.runningConfig.channelTurnoutAddresses
            command).map (·.toMqttMessage) := by
      rw [← published_publish]
      rfl
    rw [List.flatMap_cons, published_append, hsend, ← List.append_assoc]
    apply ih
    apply Run.act hrun hact

variable (connected : Bool)

/-
A tick from the network on: what follows the announcements, different on the two boards, leaves the
protocol alone.
-/
theorem attend_run {shown sent : Node N β δ} {commands : List TurnoutCommand}
    (hshown : shown.presence = ((n.pollMqtt input).announce connected input).1.presence)
    (hsent : sent.presence = shown.presence)
    : ∃ received, received ⊆ input.messages ∧
        Run protocol n.presence received
          (published (((n.pollMqtt input).announce connected input).2 ++
            commands.flatMap shown.send))
          sent.presence := by
  rcases n.pollMqtt_run input with ⟨received, hsubset, hrun⟩
  refine ⟨received, hsubset, ?_⟩
  have hannounced := announce_run (n.pollMqtt input) input hrun connected
  rw [← hshown, List.nil_append] at hannounced
  rw [published_append, hsent]
  apply send_run shown hannounced

end Node

/-
From each state, reachable or not, every tick that leaves a state is a run of the node in the presence
protocol: it receives some of the messages of the tick and publishes what the tick publishes.
-/
def FollowsPresence {N : Nat} {β : Type u} {δ : Type v} {σ : Type w}
    (loop : σ → LoopInput N → Option σ × List Effect) (node : σ → Node N β δ)
    : Prop :=
  ∀ s input, ∀ s' ∈ (loop s input).1, ∃ received, received ⊆ input.messages ∧
    Run protocol (node s).presence received (published (loop s input).2) (node s').presence

namespace Node

variable {N : Nat} {β : Type u} {δ : Type v} (n : Node N β δ) (input : LoopInput N)

theorem pollSerial_published : published (n.pollSerial input).2 = [] := by
  apply published_eq_nil
  simp [pollSerial, Effect.publication?]

theorem pollPortal_quiet
    : (n.pollPortal input).1.presence = n.presence ∧ published (n.pollPortal input).2 = [] := by
  have h := StepRun.run_safe submit n (P := fun n' => n'.presence = n.presence)
    (Q := fun e => e.publication? = none) (fun n' form h => ⟨h, by simp [submit, Effect.publication?]⟩)
    rfl input.submissions
  exact ⟨h.1, published_eq_nil h.2⟩

theorem checkIdentity_quiet (board : Str) (setupActive : Bool)
    : (n.checkIdentity board setupActive input).1.presence = n.presence
        ∧
      published (n.checkIdentity board setupActive input).2 = [] := by
  simp only [checkIdentity, logCollision]
  split
  . exact ⟨rfl, rfl⟩
  . exact ⟨rfl, rfl⟩

theorem requestSetup_published : published (n.requestSetup input).2 = [] := by
  simp only [requestSetup]
  split
  . split <;> rfl
  . rfl

theorem updateStations_presence (read : β → Bool)
    : (n.updateStations read input).1.presence = n.presence := by
  rfl

variable [LedPairStation δ]

theorem serveSetup_quiet
    : (n.serveSetup input).1.presence = n.presence ∧ published (n.serveSetup input).2 = [] := by
  apply pollPortal_quiet

theorem foldl_applyFeedback_presence (updates : List (Loco2MqttStateUpdate × Nat))
    : (updates.foldl
          (fun node u => node.applyFeedback (BasicLoco2MqttFeedbackSource.poll u.1) u.2 input)
          n).presence
        =
      n.presence := by
  induction updates generalizing n with
  | nil => rfl
  | cons u updates ih => apply ih

theorem clearIndicators_presence : (n.clearIndicators input).presence = n.presence := by
  rfl

theorem identify_presence : (n.identify input).presence = n.presence := by
  unfold identify
  split <;> rfl

theorem show_presence : ((n.identify input).updateLeds input).presence = n.presence := by
  have hleds : ((n.identify input).updateLeds input).presence = (n.identify input).presence := rfl
  rw [hleds, identify_presence]

end Node

theorem BoardTick.run_presence {N : Nat} {β : Type u} {δ : Type v} [LedPairStation δ] {σ : Type w}
    {t : BoardTick N β δ σ} {node : σ → Node N β δ} {n : Node N β δ} {input : LoopInput N}
    (hwith : ∀ n', node (t.withNode n') = n') (hdriven : published t.driven = [])
    (hattend : ∀ (n' : Node N β δ) collision, ∃ received, received ⊆ input.messages ∧
      Run protocol n'.presence received (published (t.attend n' collision).2)
        (node (t.attend n' collision).1).presence)
    : ∀ s' ∈ (t.run n input).1, ∃ received, received ⊆ input.messages ∧
        Run protocol n.presence received (published (t.run n input).2) (node s').presence := by
  intro s' hs'
  rcases run_cases hs' with ⟨served, rfl, rfl, heffects⟩ | ⟨checked, res, rfl, rfl, rfl, heffects⟩
  . refine ⟨[], List.nil_subset _, ?_⟩
    rw [heffects, published_append, Node.pollSerial_published, hwith, (Node.serveSetup_quiet _ _).1,
      (Node.serveSetup_quiet _ _).2]
    apply Run.nil
  . have hchecked := Node.checkIdentity_quiet (n.pollSerial input).1 input t.board t.setupActive
    simp only [heffects, published_append, Node.pollSerial_published, hdriven, hchecked.2,
      Node.requestSetup_published, List.nil_append]
    have hattended := hattend ((n.pollSerial input).1.checkIdentity t.board t.setupActive input).1
      (n.pollSerial input).1.identityGuard.collisionDetected
    rw [hchecked.1] at hattended
    exact hattended

namespace Panel

variable {N : Nat} (p : Panel N) (input : LoopInput N)

theorem attend_run (collision : Bool) {s : PresenceNode} (hnode : p.node.presence = s)
    : ∃ received, received ⊆ input.messages ∧
        Run protocol s received (published (p.attend collision input).2)
          (p.attend collision input).1.node.presence := by
  rw [← hnode]
  simp only [attend]
  apply Node.attend_run
  . rw [Node.show_presence]
    split
    . apply Node.foldl_applyFeedback_presence
    . apply Node.clearIndicators_presence
  . apply Node.updateStations_presence

theorem loop_followsPresence : FollowsPresence (Panel.loop (N := N)) Panel.node := by
  intro p input
  rw [loop_eq]
  apply BoardTick.run_presence
  . intro n'
    rfl
  . apply published_drive
  . intro n' collision
    exact attend_run { p with node := n', matrixScanner := _ } input collision rfl

end Panel

namespace Node4

variable {N : Nat} (p : Node4 N) (input : LoopInput N)

theorem foldl_applyFeedback_presence (updates : List (Loco2MqttStateUpdate × Nat))
    : (updates.foldl
          (fun p u => p.applyFeedback (BasicLoco2MqttFeedbackSource.poll u.1) u.2 input)
          p).node.presence
        =
      p.node.presence := by
  induction updates generalizing p with
  | nil => rfl
  | cons u updates ih => apply ih

theorem listen_presence (listening : Bool)
    : (if listening then
        input.stateUpdates.zipIdx.foldl
          (fun p u => p.applyFeedback (BasicLoco2MqttFeedbackSource.poll u.1) u.2 input) p
      else
        { p with node := p.node.clearIndicators input }).node.presence
        =
      p.node.presence := by
  split
  . apply foldl_applyFeedback_presence
  . apply Node.clearIndicators_presence

theorem attend_run (collision : Bool) {s : PresenceNode} (hnode : p.node.presence = s)
    : ∃ received, received ⊆ input.messages ∧
        Run protocol s received (published (p.attend collision input).2)
          (p.attend collision input).1.node.presence := by
  rw [← hnode]
  simp only [attend]
  apply Node.attend_run
  . rw [Node.show_presence]
    apply listen_presence
  . apply Node.updateStations_presence

theorem loop_followsPresence : FollowsPresence (Node4.loop (N := N)) Node4.node := by
  intro p input
  rw [loop_eq]
  apply BoardTick.run_presence
  . intro n'
    rfl
  . rfl
  . intro n' collision
    exact attend_run { p with node := n' } input collision rfl

end Node4

/-
A board takes part in every net in the place of one of its nodes. If the messages of a tick come from the
broker of the net, the net can go on to the state of the board after it and has sent what the tick publishes.
-/
def TakesPart (ι : Type x) [DecidableEq ι] {N : Nat} {β : Type u} {δ : Type v} {σ : Type w}
    (loop : σ → LoopInput N → Option σ × List Effect) (node : σ → Node N β δ)
    : Prop :=
  ∀ (net : PubSub.Net ι PresenceNode MqttMessage) (i : ι) (s s' : σ) (input : LoopInput N),
    net.node i = (node s).presence → (∀ m ∈ input.messages, ∃ publisher, ⟨publisher, m⟩ ∈ net.sent) →
      s' ∈ (loop s input).1 →
        ∃ net', PubSub.Reachable protocol net net' ∧
          net'.node = Function.update net.node i (node s').presence ∧
          net'.sent = net.sent ++ (published (loop s input).2).map fun m => ⟨some i, m⟩

theorem FollowsPresence.takesPart (ι : Type x) [DecidableEq ι] {N : Nat} {β : Type u} {δ : Type v}
    {σ : Type w} {loop : σ → LoopInput N → Option σ × List Effect} {node : σ → Node N β δ}
    (h : FollowsPresence loop node)
    : TakesPart ι loop node := by
  intro net i s s' input hnode hsent hs'
  rcases h s input s' hs' with ⟨received, hsubset, hrun⟩
  apply hrun.reachable hnode
  intro m hm
  exact hsent m (hsubset hm)

end Esp32

namespace PresenceNode

open PubSub (Net Sent Reachable)
open Esp32 (TakesPart)

variable {ι : Type u} [DecidableEq ι] (nodeId : ι → Int) (mac : ι → MacAddress)

/--
Whatever the broker loses, delays, reorders or repeats, a node says that there is a collision if and only
if it has received the announcement of another node with its id and another end of the MAC address. Both
boards start and go on as such nodes.
-/
theorem notices {net : Net ι PresenceNode MqttMessage}
    (hreach : Reachable protocol (PresenceNode.net nodeId mac) net) (i : ι)
    : Notices nodeId mac net i
        ∧
      (∀ ownMac configStore runningConfig wirelessSetupRequested now,
        (Esp32.Panel.boot ownMac configStore runningConfig wirelessSetupRequested now).node.presence
          =
        .new runningConfig.nodeId ownMac)
        ∧
      (∀ N, TakesPart ι (Esp32.Panel.loop (N := N)) Esp32.Panel.node)
        ∧
      (∀ ownMac configStore runningConfig wirelessSetupRequested now now₁ now₂,
        (Esp32.Node4.boot ownMac configStore runningConfig wirelessSetupRequested now now₁
          now₂).node.presence
          =
        .new runningConfig.nodeId ownMac)
        ∧
      ∀ N, TakesPart ι (Esp32.Node4.loop (N := N)) Esp32.Node4.node := by
  refine ⟨notices_of_reachable nodeId mac hreach i, ?_, ?_, ?_, ?_⟩
  . intros
    rfl
  . intro N
    exact Esp32.Panel.loop_followsPresence.takesPart ι
  . intros
    rfl
  . intro N
    exact Esp32.Node4.loop_followsPresence.takesPart ι

section Runs

def twins (i : Fin 2) : MacAddress where
  bytes := (Vector.replicate 6 0x12).setIfInBounds 5 (0xAB + .ofNat 8 i)

def start : Net (Fin 2) PresenceNode MqttMessage :=
  net (fun _ => 7) twins

def announced : Net (Fin 2) PresenceNode MqttMessage :=
  start.act 1 ((start.node 1).update true 0 0).1 ((start.node 1).update true 0 0).2

def announcement : Sent (Fin 2) MqttMessage where
  publisher := some 1
  message := {
    topic := PresenceTopics.macTopic 7
    payload := "12AC".toList
  }

theorem notices_twin
    : Notices (fun _ => 7) twins (announced.deliver protocol 0 announcement) 0 := by
  refine (notices (fun _ => 7) twins ?_ 0).1
  apply Relation.ReflTransGen.tail (b := announced)
  . apply Relation.ReflTransGen.single
    apply PubSub.Step.act start 1
    apply Act.update
  . apply PubSub.Step.deliver announced 0 announcement
    . have : announced.sent.getLast? = some announcement := by
        rfl
      exact List.mem_of_getLast? this
    . left
      rfl

example
    : ((announced.deliver protocol 0 announcement).node 0).identityGuard.observedMac
        =
      "12AC".toList := by
  decide

end Runs

end PresenceNode

end Maltbee
