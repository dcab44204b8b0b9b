import MaltbeeController.Esp32.Lemmas.Node
import MaltbeeController.Esp32.Lemmas.Tick

/-!
This module contains the proof that an ESP32 board that has noticed another node with its id keeps quiet
for as long as it runs: its stations send no command and their turnouts keep their positions.
-/

namespace Maltbee

namespace Esp32

open Node (Isolates)
open StepRun (run halting)

/--
From a state whose guard has detected a collision, reachable or not, no number of ticks sends a command
or moves a turnout. A tick that restarts the board leaves no state.
-/
def QuietAfterCollision {N : Nat} {β : Type u} {δ : Type v} {σ : Type w}
    (loop : σ → LoopInput N → Option σ × List Effect) (node : σ → Node N β δ)
    : Prop :=
  ∀ s : σ, (node s).identityGuard.collisionDetected = true → ∀ ticks : List (LoopInput N),
    commands (run (halting loop) (some s) ticks).2 = []
      ∧
    ∀ s' ∈ (run (halting loop) (some s) ticks).1, (node s').positions = (node s).positions

-- It is enough that each tick keeps the isolation: the latch is part of it.
theorem QuietAfterCollision.of_loop {N : Nat} {β : Type u} {δ : Type v} {σ : Type w}
    {loop : σ → LoopInput N → Option σ × List Effect} {node : σ → Node N β δ}
    (hloop : ∀ s input, (node s).identityGuard.collisionDetected = true →
      (∀ s' ∈ (loop s input).1, Isolates (node s) (node s')) ∧ commands (loop s input).2 = [])
    : QuietAfterCollision loop node := by
  intro s hlatched ticks
  have hstep
      : ∀ s' input, Isolates (node s) (node s') →
          (∀ s'' ∈ (loop s' input).1, Isolates (node s) (node s''))
            ∧
          ∀ e ∈ (loop s' input).2, e.command? = none := by
    intro s' input h
    rcases hloop s' input (h.latched hlatched) with ⟨hstate, hsilent⟩
    constructor
    . intro s'' hs''
      exact h.trans (hstate s'' hs'')
    . exact commands_eq_nil_iff.mp hsilent
  have ⟨hstates, hsilent⟩ := StepRun.run_halting_safe s hstep (Isolates.refl (node s)) ticks
  constructor
  . exact commands_eq_nil_iff.mpr hsilent
  . intro s' hs'
    exact (hstates s' hs').positions_eq

theorem BoardTick.run_isolates {N : Nat} {β : Type u} {δ : Type v} [LedPairStation δ] {σ : Type w}
    {t : BoardTick N β δ σ} {node : σ → Node N β δ} {n : Node N β δ} {input : LoopInput N}
    (hwith : ∀ n', node (t.withNode n') = n') (hdriven : commands t.driven = [])
    (hattend : ∀ n' : Node N β δ, n'.AllSuppressed →
      Isolates n' (node (t.attend n' true).1) ∧ commands (t.attend n' true).2 = [])
    (h : n.identityGuard.collisionDetected = true)
    : (∀ s' ∈ (t.run n input).1, Isolates n (node s')) ∧ commands (t.run n input).2 = [] := by
  have hpolled := Node.pollSerial_isolates n input
  have hlatched := hpolled.latched h
  simp only [BoardTick.run]
  split
  . simp [Node.pollSerial_commands]
  . split
    . simp only [Option.mem_some_iff, forall_eq', commands_append, Node.pollSerial_commands,
        Node.serveSetup_commands, List.append_nil, and_true, hwith]
      apply Isolates.trans hpolled
      apply Node.serveSetup_isolates
    . rcases Node.checkIdentity_isolates _ input t.board t.setupActive hlatched
        with ⟨hchecked, hgates⟩
      rw [hlatched]
      split
      . simp [Node.pollSerial_commands, Node.checkIdentity_commands, Node.requestSetup_commands,
          hdriven]
      . rcases hattend _ hgates with ⟨hattended, hsilent⟩
        simp only [Option.mem_some_iff, forall_eq', commands_append, Node.pollSerial_commands,
          Node.checkIdentity_commands, Node.requestSetup_commands, hdriven, hsilent,
          List.append_nil, and_true]
        apply Isolates.trans hpolled
        apply Isolates.trans hchecked
        exact hattended

namespace Panel

variable {N : Nat} (p : Panel N) (input : LoopInput N)

theorem attend_isolates (hgates : p.node.AllSuppressed)
    : Isolates p.node (p.attend true input).1.node
        ∧
      commands (p.attend true input).2 = [] := by
  simp only [attend, Bool.not_true, Bool.and_false, Bool.false_eq_true, if_false]
  have hnode := Node.cleared_isolates p.node input (input.mqttConnected 0)
  constructor
  . apply Isolates.trans hnode
    apply Node.updateStations_isolates
  . rw [Node.updateStations_commands _ _ _ (hnode.suppressed hgates)]
    simp [Node.announce_commands]

theorem loop_isolates (h : p.node.identityGuard.collisionDetected = true)
    : (∀ p' ∈ (p.loop input).1, Isolates p.node p'.node) ∧ commands (p.loop input).2 = [] := by
  rw [loop_eq]
  apply BoardTick.run_isolates
  . intro n'
    rfl
  . apply commands_drive
  . intro n' hgates
    exact attend_isolates { p with node := n', matrixScanner := _ } input hgates
  . exact h

end Panel

namespace Node4

variable {N : Nat} (p : Node4 N) (input : LoopInput N)

theorem attend_isolates (hgates : p.node.AllSuppressed)
    : Isolates p.node (p.attend true input).1.node
        ∧
      commands (p.attend true input).2 = [] := by
  simp only [attend, updateNetworkLed, Bool.not_true, Bool.and_false, Bool.false_eq_true, if_false]
  have hnode := Node.cleared_isolates p.node input (input.mqttConnected 1)
  constructor
  . apply Isolates.trans hnode
    apply Node.updateStations_isolates
  . rw [Node.updateStations_commands _ _ _ (hnode.suppressed hgates)]
    simp [Node.announce_commands]

theorem loop_isolates (h : p.node.identityGuard.collisionDetected = true)
    : (∀ p' ∈ (p.loop input).1, Isolates p.node p'.node) ∧ commands (p.loop input).2 = [] := by
  rw [loop_eq]
  apply BoardTick.run_isolates
  . intro n'
    rfl
  . rfl
  . intro n' hgates
    exact attend_isolates { p with node := n' } input hgates
  . exact h

end Node4

theorem quiet_after_collision
    : (∀ N, QuietAfterCollision (Panel.loop (N := N)) Panel.node)
        ∧
      ∀ N, QuietAfterCollision (Node4.loop (N := N)) Node4.node := by
  constructor
  . intro N
    apply QuietAfterCollision.of_loop
    apply Panel.loop_isolates
  . intro N
    apply QuietAfterCollision.of_loop
    apply Node4.loop_isolates

section Runs

def mac : MacAddress where
  bytes := #v[0x24, 0x6F, 0x28, 0x00, 0x12, 0xAB]

def configured (N : Nat) : BasicConfigStore N where
  stored := {
    nodeId := 7
    wifiSsid := "layout".toList
    brokerHost := "broker".toList
    channelTurnoutAddresses := .ofFn fun i => 100 + i.val
  }
  accepts := fun _ => true

def held (N : Nat) (now : Millis) (stateUpdates : List Loco2MqttStateUpdate) : LoopInput N where
  digitalRead := fun pin => pin ≠ 34
  wifiConnected := fun _ => true
  mqttConnected := fun _ => true
  stateUpdates := stateUpdates
  now := fun _ => now

def panel : Panel 12 :=
  .boot mac (configured 12) (configured 12).load false fun _ _ => 0

def node4 : Node4 4 :=
  .boot mac (configured 4) (configured 4).load false (fun _ _ => 0) 0 0

def foreign : MqttMessage where
  topic := PresenceTopics.macTopic 7
  payload := "BEEF".toList

theorem quiet_after_collision_held
    : commands
          (run (halting Panel.loop) (some { panel with node := panel.node.deliver foreign 0 })
            [held 12 0 [], held 12 30 [⟨1, .Thrown⟩]]).2
        = []
        ∧
      commands
          (run (halting Node4.loop) (some { node4 with node := node4.node.deliver foreign 0 })
            [held 4 0 [], held 4 30 [⟨1, .Thrown⟩]]).2
        = [] := by
  constructor
  . exact (quiet_after_collision.1 12 _ (by decide +kernel) _).1
  . exact (quiet_after_collision.2 4 _ (by decide +kernel) _).1

-- Without the foreign announcement the same buttons send commands.
example : commands (run (halting Panel.loop) (some panel) [held 12 0 [], held 12 30 []]).2
    =
  [⟨1, .thrown⟩] := by
  decide +kernel

end Runs

end Esp32

end Maltbee
