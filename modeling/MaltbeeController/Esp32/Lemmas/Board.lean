import MaltbeeController.Esp32.Impl.Board
import MaltbeeController.Esp32.Lemmas.Tick

/-!
This module contains the proof that both ESP32 boards are commissioned and restarted in the same way, whatever
else their loops do.
-/

namespace Maltbee

namespace Esp32

namespace Node

variable {N : Nat} {β : Type u} {δ : Type v} (n : Node N β δ) (input : LoopInput N)

theorem pollPortal_commissioning
    : (n.pollPortal input).1.commissioning
        =
      {
        n.commissioning with
        serialCommissioningAdapter := {
          n.serialCommissioningAdapter with
          session := Commissioning.serve n.serialCommissioningAdapter.session input.submissions
        }
      } := by
  unfold pollPortal
  generalize input.submissions = submissions
  induction submissions generalizing n with
  | nil => rfl
  | cons form submissions ih =>
    rw [StepRun.run_cons]
    exact ih (n.submit form).1

theorem checkIdentity_commissioning (board : Str) (setupActive : Bool)
    : (n.checkIdentity board setupActive input).1.commissioning
        =
      { n.commissioning with setupTrigger := n.commissioning.triggered setupActive input } := by
  simp only [checkIdentity, logCollision]
  split
  . rfl
  . rfl

theorem requestSetup_fst
    : (n.requestSetup input).1 = (n.setupTrigger.requested && input.requestStored) := by
  unfold requestSetup
  cases n.setupTrigger.requested with
  | false => rfl
  | true =>
    cases input.requestStored with
    | false => rfl
    | true => rfl

theorem deliver_commissioning (message : MqttMessage) (now : Millis)
    : (n.deliver message now).commissioning = n.commissioning := by
  unfold deliver
  split
  . rfl
  . split
    . rfl
    . rfl

theorem deliverAll_commissioning (messages : List (MqttMessage × Nat))
    : (messages.foldl (fun n m => n.deliver m.1 (input.now (.delivery m.2))) n).commissioning
        =
      n.commissioning := by
  induction messages generalizing n with
  | nil => rfl
  | cons m messages ih =>
    rw [List.foldl_cons, ih]
    apply deliver_commissioning

theorem pollMqtt_commissioning : (n.pollMqtt input).commissioning = n.commissioning := by
  unfold pollMqtt
  split
  . apply deliverAll_commissioning
  . rfl

variable [LedPairStation δ]

theorem foldl_applyFeedback_commissioning (updates : List (Loco2MqttStateUpdate × Nat))
    : (updates.foldl
          (fun node u => node.applyFeedback (BasicLoco2MqttFeedbackSource.poll u.1) u.2 input)
          n).commissioning
        =
      n.commissioning := by
  induction updates generalizing n with
  | nil => rfl
  | cons u updates ih => apply ih

theorem identify_commissioning : (n.identify input).commissioning = n.commissioning := by
  unfold identify
  split
  . rfl
  . rfl

theorem show_commissioning
    : ((n.identify input).updateLeds input).commissioning = n.commissioning := by
  have hleds
      : ((n.identify input).updateLeds input).commissioning = (n.identify input).commissioning := rfl
  rw [hleds, identify_commissioning]

omit [LedPairStation δ] in
theorem updateStations_commissioning (read : β → Bool)
    : (n.updateStations read input).1.commissioning = n.commissioning := by
  rfl

omit [LedPairStation δ] in
theorem announce_commissioning (connected : Bool)
    : (n.announce connected input).1.commissioning = n.commissioning := by
  rfl

theorem clearIndicators_commissioning : (n.clearIndicators input).commissioning = n.commissioning := by
  rfl

end Node

theorem BoardTick.run_commissioning {N : Nat} {β : Type u} {δ : Type v} [LedPairStation δ]
    {σ : Type w} {t : BoardTick N β δ σ} {node : σ → Node N β δ} (n : Node N β δ)
    (input : LoopInput N) (hwith : ∀ n', node (t.withNode n') = n')
    (hattend : ∀ n' collision, (node (t.attend n' collision).1).commissioning = n'.commissioning)
    : (t.run n input).1.map (fun s => (node s).commissioning)
        =
      n.commissioning.tick t.setupActive input := by
  have hreboot_eq : (n.pollSerial input).1.rebootRequested
      = (n.commissioning.polled input).session.rebootRequested := rfl
  have hmode_eq : (n.pollSerial input).1.bootMode = n.commissioning.bootMode := rfl
  have hchecked := Node.checkIdentity_commissioning (n.pollSerial input).1 input t.board t.setupActive
  have hrequested := Node.requestSetup_fst
    ((n.pollSerial input).1.checkIdentity t.board t.setupActive input).1 input
  rw [show ((n.pollSerial input).1.checkIdentity t.board t.setupActive input).1.setupTrigger
    = n.commissioning.triggered t.setupActive input from congrArg Commissioning.setupTrigger hchecked]
    at hrequested
  unfold run Commissioning.tick
  dsimp only
  rw [hreboot_eq, hmode_eq, hrequested]
  by_cases hreboot : (n.commissioning.polled input).session.rebootRequested
  . rw [if_pos hreboot, if_pos hreboot]
    rfl
  . rw [if_neg hreboot, if_neg hreboot]
    by_cases hsetup : n.commissioning.bootMode = .WirelessSetup
    . rw [if_pos hsetup, if_pos hsetup, Option.map_some, hwith]
      apply congrArg some
      exact Node.pollPortal_commissioning (n.pollSerial input).1 input
    . rw [if_neg hsetup, if_neg hsetup]
      by_cases hrestart : (n.commissioning.triggered t.setupActive input).requested && input.requestStored
      . rw [if_pos hrestart, if_pos hrestart]
        rfl
      . rw [if_neg hrestart, if_neg hrestart, Option.map_some, hattend, hchecked]
        rfl

theorem Panel.attend_commissioning {N : Nat} (p : Panel N) (collision : Bool) (input : LoopInput N)
    : (p.attend collision input).1.node.commissioning = p.node.commissioning := by
  unfold attend
  dsimp only
  rw [Node.updateStations_commissioning, Node.show_commissioning]
  split
  . rw [Node.foldl_applyFeedback_commissioning, Node.announce_commissioning]
    apply Node.pollMqtt_commissioning
  . rw [Node.clearIndicators_commissioning, Node.announce_commissioning]
    apply Node.pollMqtt_commissioning

theorem Node4.foldl_applyFeedback_commissioning {N : Nat} (p : Node4 N) (input : LoopInput N)
    (updates : List (Loco2MqttStateUpdate × Nat))
    : (updates.foldl
          (fun p u => p.applyFeedback (BasicLoco2MqttFeedbackSource.poll u.1) u.2 input)
          p).node.commissioning
        =
      p.node.commissioning := by
  induction updates generalizing p with
  | nil => rfl
  | cons u updates ih => apply ih

theorem Node4.attend_commissioning {N : Nat} (p : Node4 N) (collision : Bool) (input : LoopInput N)
    : (p.attend collision input).1.node.commissioning = p.node.commissioning := by
  unfold attend updateNetworkLed
  dsimp only
  rw [Node.updateStations_commissioning, Node.show_commissioning]
  split
  . rw [foldl_applyFeedback_commissioning]
    dsimp only
    rw [Node.announce_commissioning]
    apply Node.pollMqtt_commissioning
  . dsimp only
    rw [Node.clearIndicators_commissioning, Node.announce_commissioning]
    apply Node.pollMqtt_commissioning

def Panel.firmware (ownMac : MacAddress) (now : Nat → Nat → Millis) : Firmware 12 (Panel 12) where
  boot configStore runningConfig wirelessSetupRequested :=
    .boot ownMac configStore runningConfig wirelessSetupRequested now
  loop := Panel.loop
  setupActive := bootButton.isActive
  commissioning p := p.node.commissioning
  commissioning_boot _ _ _ := rfl
  commissioning_loop p input := by
    rw [Panel.loop_eq]
    apply BoardTick.run_commissioning p.node input (t := p.boardTick input)
    . intro n'
      rfl
    . intro n' collision
      apply Panel.attend_commissioning

def Node4.firmware (ownMac : MacAddress) (now : Nat → Nat → Millis) (now₁ now₂ : Millis)
    : Firmware 4 (Node4 4) where
  boot configStore runningConfig wirelessSetupRequested :=
    .boot ownMac configStore runningConfig wirelessSetupRequested now now₁ now₂
  loop := Node4.loop
  setupActive := Node4.setupTriggerInput.isActive
  commissioning p := p.node.commissioning
  commissioning_boot _ _ _ := rfl
  commissioning_loop p input := by
    rw [Node4.loop_eq]
    apply BoardTick.run_commissioning p.node input (t := p.boardTick input)
    . intro n'
      rfl
    . intro n' collision
      apply Node4.attend_commissioning

def newPanel : Firmware 12 (Panel 12) :=
  Panel.firmware ⟨#v[0x24, 0x6F, 0x28, 0x01, 0x02, 0x03]⟩ fun _ _ => 0

def workingFlash : Flash where
  mcsnode := { stored := fun _ => none, accepts := fun _ => true }
  mcsBoot := { stored := fun _ => none, accepts := fun _ => true }

end Esp32

end Maltbee
