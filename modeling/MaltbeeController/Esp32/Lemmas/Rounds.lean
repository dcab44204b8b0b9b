import MaltbeeController.Esp32.Lemmas.Life
import MaltbeeController.Esp32.Lemmas.Stations
import MaltbeeController.Lib.RunLog

/-!
This module contains the iterations of the ESP32 boards as rounds that all stations take part in, each of them
on its own, and the history of the rounds of a board with the commands it sent in each of them.
-/

namespace Maltbee

namespace Esp32

open StepRun (run run_induction halting)

variable {N : Nat} {β : Type u} {δ : Type v}

-- What an iteration that gets to the stations has for them. Without `reports` the board does not listen
-- in this round, and without `identifying` it leaves alone whether the LEDs identify it.
structure Round where
  collision : Bool
  reports : Option (List TurnoutFeedback)
  identifying : Option Bool
  pressed : Nat → Bool
  now : ClockRead → Millis

namespace Round

variable [LedPairStation δ] (r : Round) (i : Nat) (u : StationUnit β δ)

def hear : StationUnit β δ :=
  match r.reports with
  | none => u.clearIndicator (r.now (.clear i 0)) (r.now (.clear i 1))
  | some reports =>
    reports.zipIdx.foldl
      (fun u f => u.applyFeedback f.1 (r.now (.feedback f.2 i 0)) (r.now (.feedback f.2 i 1))) u

def identify : StationUnit β δ :=
  match r.identifying with
  | none => u
  | some active =>
    {
      u with
      ledStation := LedPairStation.setIdentifying u.ledStation active (r.now (.setIdentifying i))
    }

def light : StationUnit β δ :=
  { u with ledStation := LedPairStation.update u.ledStation (r.now (.led i)) }

omit [LedPairStation δ] in
def gate : StationUnit β δ :=
  { u with gatedButton := u.gatedButton.setSuppressed r.collision }

def prepare : StationUnit β δ :=
  r.light i (r.identify i (r.hear i (r.gate u)))

def play : StationUnit β δ × List TurnoutCommand :=
  (r.prepare i u).update (r.pressed i) (r.now (.station i 0)) (r.now (.station i 1))

variable (β δ)

def playAll (units : List (StationUnit β δ)) (r : Round)
    : List (StationUnit β δ) × List TurnoutCommand :=
  Broadcast.step (fun u e => e.2.play e.1 u) (fun i r => (i, r)) units r

variable {β δ}

theorem foldl_applyFeedback_button (updates : List (TurnoutFeedback × Nat))
    : (updates.foldl
          (fun u f => u.applyFeedback f.1 (r.now (.feedback f.2 i 0)) (r.now (.feedback f.2 i 1)))
          u).button
        =
      u.button := by
  induction updates generalizing u with
  | nil => rfl
  | cons f updates ih => apply ih

theorem prepare_button : (r.prepare i u).button = u.button := by
  have hhear : (r.hear i (r.gate u)).button = u.button := by
    unfold hear
    split
    . rfl
    . apply foldl_applyFeedback_button
  unfold prepare light identify
  split
  . exact hhear
  . exact hhear

end Round

namespace Node

variable (n : Node N β δ) (input : LoopInput N)

-- The round of an iteration that begins with `n`. `read` is what the inputs behind the gates read.
def round (connected : Bool) (read : β → Bool) : Round where
  collision := n.identityGuard.collisionDetected
  reports :=
    if n.configValid && connected && !n.identityGuard.collisionDetected then
      some (reports input)
    else
      none
  identifying :=
    if n.bootMode = .Normal then
      some ((n.pollMqtt input).identifyTimer.isActive (input.now .identify))
    else
      none
  pressed := fun i => n.units[i]?.any fun u => read u.button
  now := input.now

theorem mapUnits_mapUnits (f g : Nat → StationUnit β δ → StationUnit β δ)
    : (n.mapUnits f).mapUnits g = n.mapUnits fun i u => g i (f i u) := by
  simp [mapUnits, Function.comp_def]

theorem deliver_runningConfig (message : MqttMessage) (now : Millis)
    : (n.deliver message now).runningConfig = n.runningConfig := by
  unfold deliver
  split
  . rfl
  . split
    . rfl
    . rfl

theorem deliver_identifyTimer (message : MqttMessage) (now : Millis)
    : (n.deliver message now).identifyTimer
        =
      if message.topic ≠ PresenceTopics.macTopic n.runningConfig.nodeId
          ∧ message.topic = PresenceTopics.identifyTopic n.runningConfig.nodeId then
        n.identifyTimer.trigger now
      else
        n.identifyTimer := by
  unfold deliver
  split
  . next h => simp [h]
  . next h =>
    split
    . next hidentify => rw [if_pos ⟨h, hidentify⟩]
    . next hidentify => rw [if_neg fun hboth => hidentify hboth.2]

theorem foldl_deliver_identifyTimer (messages : List (MqttMessage × Nat)) {n n' : Node N β δ}
    (hconfig : n.runningConfig = n'.runningConfig) (htimer : n.identifyTimer = n'.identifyTimer)
    : (messages.foldl (fun n m => n.deliver m.1 (input.now (.delivery m.2))) n).identifyTimer
        =
      (messages.foldl (fun n m => n.deliver m.1 (input.now (.delivery m.2))) n').identifyTimer := by
  induction messages generalizing n n' with
  | nil => exact htimer
  | cons m messages ih =>
    apply ih
    . rw [deliver_runningConfig, deliver_runningConfig, hconfig]
    . rw [deliver_identifyTimer, deliver_identifyTimer, hconfig, htimer]

theorem pollMqtt_identifyTimer {n n' : Node N β δ} (hconfig : n.runningConfig = n'.runningConfig)
    (htimer : n.identifyTimer = n'.identifyTimer)
    : (n.pollMqtt input).identifyTimer = (n'.pollMqtt input).identifyTimer := by
  unfold pollMqtt configValid
  rw [hconfig]
  split
  . exact foldl_deliver_identifyTimer input _ hconfig htimer
  . exact htimer

theorem foldl_deliver_runningConfig (messages : List (MqttMessage × Nat))
    : (messages.foldl (fun n m => n.deliver m.1 (input.now (.delivery m.2))) n).runningConfig
        =
      n.runningConfig := by
  induction messages generalizing n with
  | nil => rfl
  | cons m messages ih =>
    rw [List.foldl_cons, ih]
    apply deliver_runningConfig

theorem pollMqtt_runningConfig : (n.pollMqtt input).runningConfig = n.runningConfig := by
  unfold pollMqtt
  split
  . apply foldl_deliver_runningConfig
  . rfl

theorem pollMqtt_bootMode : (n.pollMqtt input).bootMode = n.bootMode := by
  exact congrArg Commissioning.bootMode (pollMqtt_commissioning n input)

variable [LedPairStation δ]

theorem foldl_applyFeedback_eq (updates : List (Loco2MqttStateUpdate × Nat))
    : updates.foldl
          (fun node u => node.applyFeedback (BasicLoco2MqttFeedbackSource.poll u.1) u.2 input) n
        =
      n.mapUnits fun i u =>
        updates.foldl
          (fun u f => u.applyFeedback (BasicLoco2MqttFeedbackSource.poll f.1)
            (input.now (.feedback f.2 i 0)) (input.now (.feedback f.2 i 1))) u := by
  induction updates generalizing n with
  | nil =>
    have hsame : n.units.mapIdx (fun _ u => u) = n.units := by
      apply List.ext_getElem?
      simp
    simp [mapUnits, hsame]
  | cons f updates ih =>
    rw [List.foldl_cons, ih]
    apply mapUnits_mapUnits

theorem listen_eq {r : Round} (hnow : r.now = input.now) {listening : Bool}
    (hreports : r.reports = if listening then some (reports input) else none)
    : (if listening then
          input.stateUpdates.zipIdx.foldl
            (fun node u => node.applyFeedback (BasicLoco2MqttFeedbackSource.poll u.1) u.2 input) n
        else
          n.clearIndicators input)
        =
      n.mapUnits r.hear := by
  cases listening with
  | true =>
    rw [if_pos rfl, foldl_applyFeedback_eq]
    rw [if_pos rfl] at hreports
    unfold Round.hear
    rw [hreports, hnow]
    simp only [reports, List.zipIdx_map, List.foldl_map, Prod.map_fst, Prod.map_snd, id_eq]
  | false =>
    rw [if_neg (by decide)]
    rw [if_neg (by decide)] at hreports
    unfold Round.hear
    rw [hreports, hnow]
    rfl

theorem identify_eq {r : Round} (hnow : r.now = input.now)
    (hidentifying : r.identifying =
      if n.bootMode = .Normal then some (n.identifyTimer.isActive (input.now .identify)) else none)
    : n.identify input = n.mapUnits r.identify := by
  unfold identify Round.identify
  rw [hidentifying, hnow]
  split
  . rfl
  . have hsame : n.units.mapIdx (fun _ u => u) = n.units := by
      apply List.ext_getElem?
      simp
    simp [mapUnits, hsame]

theorem updateStations_eq {r : Round} (hnow : r.now = input.now) {read : β → Bool}
    {m : Node N β δ} (hunits : m.units = n.units.mapIdx r.prepare)
    (hpressed : ∀ i u, n.units[i]? = some u → r.pressed i = read u.button)
    : ((m.updateStations read input).1.units, (m.updateStations read input).2)
        =
      Round.playAll β δ n.units r := by
  have hplay
      : (m.units.mapIdx fun i u =>
          u.update (read u.button) (input.now (.station i 0)) (input.now (.station i 1)))
          =
        n.units.mapIdx r.play := by
    rw [hunits]
    apply List.ext_getElem?
    intro i
    cases hi : n.units[i]? with
    | none => simp [hi]
    | some u =>
      simp [hi, Round.play, Round.prepare_button, hpressed i u hi, hnow]
  unfold updateStations
  dsimp only
  rw [hplay]
  rfl

structure Gated (n n' : Node N β δ) (r : Round) : Prop where
  units : n'.units = n.units.mapIdx fun _ u => r.gate u
  bootMode : n'.bootMode = n.bootMode
  runningConfig : n'.runningConfig = n.runningConfig
  identifyTimer : n'.identifyTimer = n.identifyTimer

omit [LedPairStation δ] in
theorem checkIdentity_gated {r : Round} (hcollision : r.collision = n.identityGuard.collisionDetected)
    (board : Str) (setupActive : Bool)
    : Gated n ((n.pollSerial input).1.checkIdentity board setupActive input).1 r := by
  unfold checkIdentity logCollision
  dsimp only
  split
  . constructor
    . unfold Round.gate
      rw [hcollision]
      rfl
    . rfl
    . rfl
    . rfl
  . constructor
    . unfold Round.gate
      rw [hcollision]
      rfl
    . rfl
    . rfl
    . rfl

-- From the network on. `m` is the node once it has been on the network.
theorem attended_round {n' m listened : Node N β δ} {connected : Bool} {read : β → Bool}
    (hgated : Gated n n' (n.round input connected read)) {online : Bool}
    (hm : m = ((n'.pollMqtt input).announce online input).1)
    (hlistened : listened = m.mapUnits (n.round input connected read).hear)
    : let updated := ((listened.identify input).updateLeds input).updateStations read input
      (updated.1.units, updated.2) = Round.playAll β δ n.units (n.round input connected read) := by
  have hunits : m.units = n.units.mapIdx fun _ u => (n.round input connected read).gate u := by
    rw [hm, connected_units, hgated.units]
  have htimer : m.identifyTimer = (n.pollMqtt input).identifyTimer := by
    rw [hm]
    apply pollMqtt_identifyTimer input hgated.runningConfig hgated.identifyTimer
  have hmode : m.bootMode = n.bootMode := by
    rw [hm, ← hgated.bootMode]
    apply pollMqtt_bootMode
  apply updateStations_eq
  . rfl
  . have hidentify := identify_eq (m.mapUnits (n.round input connected read).hear) input
      (r := n.round input connected read) rfl (by simp only [round, mapUnits, hmode, htimer])
    have hlight : ((listened.identify input).updateLeds input)
        = (listened.identify input).mapUnits (n.round input connected read).light := rfl
    rw [hlight, hlistened, hidentify, mapUnits_mapUnits, mapUnits_mapUnits]
    dsimp only [mapUnits]
    rw [hunits, List.mapIdx_mapIdx]
    rfl
  . intro i u hu
    simp [round, hu]

omit [LedPairStation δ] in
theorem listens_eq {n' : Node N β δ} {r : Round} (hgated : Gated n n' r) (online : Bool)
    : ((n'.pollMqtt input).announce online input).1.configValid = n.configValid := by
  have hconfig : ((n'.pollMqtt input).announce online input).1.runningConfig = n.runningConfig := by
    rw [← hgated.runningConfig]
    apply pollMqtt_runningConfig
  unfold configValid
  rw [hconfig]

end Node

open Node (Gated)

/-
Outside of the wireless setup the iterations of the board are rounds of its stations. The setup only looks
after their LEDs, and an iteration that restarts the board sends no command.
-/
structure PlaysRounds [LedPairStation δ] {σ : Type w} (loop : σ → LoopInput N → Option σ × List Effect)
    (node : σ → Node N β δ) (round : σ → LoopInput N → Round) : Prop where
  attended : ∀ s input, (node s).bootMode ≠ .WirelessSetup → ∀ s' ∈ (loop s input).1,
    ((node s').units, commands (loop s input).2) = Round.playAll β δ (node s).units (round s input)
  served : ∀ s input, (node s).bootMode = .WirelessSetup → commands (loop s input).2 = []
    ∧ ∀ s' ∈ (loop s input).1, (node s').units = ((node s).updateLeds input).units
  restarted : ∀ s input, (loop s input).1 = none → commands (loop s input).2 = []
  bootMode : ∀ s input, ∀ s' ∈ (loop s input).1, (node s').bootMode = (node s).bootMode

theorem BoardTick.run_round [LedPairStation δ] {σ : Type w} {t : BoardTick N β δ σ}
    {node : σ → Node N β δ} {n : Node N β δ} {input : LoopInput N} {r : Round}
    (hmode : n.bootMode ≠ .WirelessSetup) (hdriven : commands t.driven = [])
    (hcollision : r.collision = n.identityGuard.collisionDetected)
    (hattend : ∀ n', Gated n n' r →
      ((node (t.attend n' r.collision).1).units, commands (t.attend n' r.collision).2)
        =
      Round.playAll β δ n.units r)
    : ∀ s' ∈ (t.run n input).1,
        ((node s').units, commands (t.run n input).2) = Round.playAll β δ n.units r := by
  intro s' hs'
  have hgated := Node.checkIdentity_gated n input hcollision t.board t.setupActive
  unfold run at hs' ⊢
  dsimp only at hs' ⊢
  split at hs'
  . contradiction
  . next hreboot =>
    rw [if_neg hreboot]
    split at hs'
    . next hsetup => exact (hmode hsetup).elim
    . next hsetup =>
      rw [if_neg hsetup]
      split at hs'
      . contradiction
      . next hrequested =>
        rw [if_neg hrequested]
        rw [← Option.mem_some_iff.mp hs']
        have hattended := hattend _ hgated
        rw [hcollision] at hattended
        simp only [commands_append, Node.pollSerial_commands, hdriven, Node.checkIdentity_commands,
          Node.requestSetup_commands, List.nil_append]
        exact hattended

theorem BoardTick.run_restarted [LedPairStation δ] {σ : Type w} {t : BoardTick N β δ σ}
    {n : Node N β δ} {input : LoopInput N} (hdriven : commands t.driven = [])
    (h : (t.run n input).1 = none)
    : commands (t.run n input).2 = [] := by
  unfold run at h ⊢
  dsimp only at h ⊢
  split at h
  . next hreboot =>
    rw [if_pos hreboot]
    apply Node.pollSerial_commands
  . next hreboot =>
    rw [if_neg hreboot]
    split at h
    . contradiction
    . next hsetup =>
      rw [if_neg hsetup]
      split at h
      . next hrequested =>
        rw [if_pos hrequested]
        simp [Node.pollSerial_commands, hdriven, Node.checkIdentity_commands,
          Node.requestSetup_commands]
      . contradiction

theorem BoardTick.run_served [LedPairStation δ] {σ : Type w} {t : BoardTick N β δ σ}
    {node : σ → Node N β δ} {n : Node N β δ} {input : LoopInput N}
    (hwith : ∀ n', node (t.withNode n') = n') (hmode : n.bootMode = .WirelessSetup)
    : commands (t.run n input).2 = [] ∧
        ∀ s' ∈ (t.run n input).1, (node s').units = (n.updateLeds input).units := by
  have hmode : (n.pollSerial input).1.bootMode = .WirelessSetup := hmode
  unfold run
  dsimp only
  split
  . refine ⟨Node.pollSerial_commands n input, ?_⟩
    intro s' hs'
    contradiction
  . refine ⟨by simp [Node.pollSerial_commands, Node.serveSetup_commands], ?_⟩
    intro s' hs'
    rw [← Option.mem_some_iff.mp hs', hwith]
    unfold Node.serveSetup Node.updateLeds Node.mapUnits
    dsimp only
    rw [Node.pollPortal_units]
    rfl

namespace Panel

variable (p : Panel N) (input : LoopInput N)

def scan : MatrixScanner :=
  (p.matrixScanner.update fun col => (matrixColumn col).isActive input.digitalRead).1

def round : Round :=
  p.node.round input (input.mqttConnected 1) fun button => button.isActive (p.scan input)

theorem playsRounds : PlaysRounds (Panel.loop (N := N)) Panel.node (round (N := N)) := by
  constructor
  . intro p input hmode
    rw [loop_eq]
    apply BoardTick.run_round hmode
    . apply commands_drive
    . rfl
    . intro n' hgated
      simp only [boardTick, attend, commands_append, Node.announce_commands, List.nil_append,
        Node.commands_flatMap_send]
      apply Node.attended_round p.node input hgated rfl
      rw [Node.listens_eq p.node input hgated]
      apply Node.listen_eq
      . rfl
      . rfl
  . intro p input hmode
    rw [loop_eq]
    apply BoardTick.run_served _ hmode
    intro n'
    rfl
  . intro p input h
    rw [loop_eq] at h ⊢
    apply BoardTick.run_restarted _ h
    apply commands_drive
  . intro p input p' hp'
    have htick
        : (p.loop input).1.map (fun p => p.node.commissioning)
            =
          p.node.commissioning.tick (p.boardTick input).setupActive input := by
      rw [loop_eq]
      apply BoardTick.run_commissioning p.node input (t := p.boardTick input)
      . intro n'
        rfl
      . intro n' collision
        apply Panel.attend_commissioning
    rw [Option.mem_def.mp hp'] at htick
    exact (Commissioning.follows_of_tick htick.symm).bootMode

end Panel

namespace Node4

variable (p : Node4 N) (input : LoopInput N)

def round : Round :=
  p.node.round input (input.mqttConnected 2) fun button => button.isActive input.digitalRead

theorem foldl_applyFeedback_node (updates : List (Loco2MqttStateUpdate × Nat))
    : (updates.foldl
          (fun p u => p.applyFeedback (BasicLoco2MqttFeedbackSource.poll u.1) u.2 input) p).node
        =
      updates.foldl
        (fun node u => node.applyFeedback (BasicLoco2MqttFeedbackSource.poll u.1) u.2 input)
        p.node := by
  induction updates generalizing p with
  | nil => rfl
  | cons u updates ih => apply ih

theorem listen_node (listening : Bool)
    : (if listening then
          input.stateUpdates.zipIdx.foldl
            (fun p u => p.applyFeedback (BasicLoco2MqttFeedbackSource.poll u.1) u.2 input) p
        else
          { p with node := p.node.clearIndicators input }).node
        =
      if listening then
        input.stateUpdates.zipIdx.foldl
          (fun node u => node.applyFeedback (BasicLoco2MqttFeedbackSource.poll u.1) u.2 input) p.node
      else
        p.node.clearIndicators input := by
  cases listening with
  | true => apply foldl_applyFeedback_node
  | false => rfl

theorem playsRounds : PlaysRounds (Node4.loop (N := N)) Node4.node (round (N := N)) := by
  constructor
  . intro p input hmode
    rw [loop_eq]
    apply BoardTick.run_round hmode
    . rfl
    . rfl
    . intro n' hgated
      simp only [boardTick, attend, commands_append, Node.announce_commands, List.nil_append,
        Node.commands_flatMap_send]
      apply Node.attended_round p.node input hgated rfl
      rw [listen_node]
      apply Node.listen_eq
      . rfl
      . have hvalid := Node.listens_eq p.node input hgated (input.mqttConnected 1)
        simp only [updateNetworkLed, hvalid]
        rfl
  . intro p input hmode
    rw [loop_eq]
    apply BoardTick.run_served _ hmode
    intro n'
    rfl
  . intro p input h
    rw [loop_eq] at h ⊢
    apply BoardTick.run_restarted _ h
    rfl
  . intro p input p' hp'
    have htick
        : (p.loop input).1.map (fun p => p.node.commissioning)
            =
          p.node.commissioning.tick (p.boardTick input).setupActive input := by
      rw [loop_eq]
      apply BoardTick.run_commissioning p.node input (t := p.boardTick input)
      . intro n'
        rfl
      . intro n' collision
        apply Node4.attend_commissioning
    rw [Option.mem_def.mp hp'] at htick
    exact (Commissioning.follows_of_tick htick.symm).bootMode

end Node4

section History

variable {σ : Type w} (loop : σ → LoopInput N → Option σ × List Effect) (node : σ → Node N β δ)
variable (round : σ → LoopInput N → Round)

-- What is noted of an iteration: the round, unless the stations had none, and the commands.
def note (s : σ) (input : LoopInput N) : List (Round × List TurnoutCommand) :=
  if (loop s input).1.isSome && (node s).bootMode ≠ .WirelessSetup then
    [(round s input, commands (loop s input).2)]
  else
    []

def history (s : σ) (inputs : List (LoopInput N)) : List (Round × List TurnoutCommand) :=
  (run (halting fun s input => ((loop s input).1, note loop node round s input)) (some s) inputs).2

theorem history_concat (s : σ) (inputs : List (LoopInput N)) (input : LoopInput N)
    : history loop node round s (inputs ++ [input])
        =
      history loop node round s inputs ++
        ((run (halting loop) (some s) inputs).1.map fun s' => note loop node round s' input).getD [] := by
  have hstate : (run (halting fun s input => ((loop s input).1, note loop node round s input))
      (some s) inputs).1 = (run (halting loop) (some s) inputs).1 := by
    apply StepRun.run_halting_fst
    intros
    rfl
  unfold history
  rw [StepRun.run_concat, hstate]
  cases (run (halting loop) (some s) inputs).1 with
  | none => rfl
  | some s' => rfl

end History

namespace PlaysRounds

variable [LedPairStation δ] {σ : Type w} {loop : σ → LoopInput N → Option σ × List Effect}
variable {node : σ → Node N β δ} {round : σ → LoopInput N → Round}

omit [LedPairStation δ] in
theorem note_of_restart {s : σ} {input : LoopInput N} (h : (loop s input).1 = none)
    : note loop node round s input = [] := by
  unfold note
  rw [h]
  rfl

theorem note_commands (h : PlaysRounds loop node round) (s : σ) (input : LoopInput N)
    : commands (loop s input).2 = (note loop node round s input).flatMap (·.2) := by
  unfold note
  split
  . simp
  . next hnone =>
    rw [Bool.and_eq_true, Option.isSome_iff_ne_none, decide_eq_true_eq, not_and_or,
      Decidable.not_not, Decidable.not_not] at hnone
    rcases hnone with hrestart | hsetup
    . exact h.restarted s input hrestart
    . exact (h.served s input hsetup).1

theorem run_bootMode (h : PlaysRounds loop node round) (s : σ) (inputs : List (LoopInput N))
    : ∀ s' ∈ (run (halting loop) (some s) inputs).1, (node s').bootMode = (node s).bootMode := by
  apply (StepRun.run_halting_safe s (P := fun s' => (node s').bootMode = (node s).bootMode)
    (Q := fun _ => True) _ rfl inputs).1
  intro s' input hs'
  refine ⟨?_, fun _ _ => trivial⟩
  intro s'' hs''
  rw [h.bootMode s' input s'' hs'']
  exact hs'

theorem history_commands (h : PlaysRounds loop node round) (s : σ) (inputs : List (LoopInput N))
    : (history loop node round s inputs).flatMap (·.2)
        =
      commands (run (halting loop) (some s) inputs).2 := by
  induction inputs using List.reverseRecOn with
  | nil => rfl
  | append_singleton inputs input ih =>
    rw [history_concat, StepRun.run_concat, List.flatMap_append, ih, commands_append]
    cases (run (halting loop) (some s) inputs).1 with
    | none => rfl
    | some s' => exact congrArg _ (h.note_commands s' input).symm

theorem history_eq_log (h : PlaysRounds loop node round) (s : σ)
    (hmode : (node s).bootMode ≠ .WirelessSetup) (inputs : List (LoopInput N))
    : history loop node round s inputs
          =
        StepRun.log (Round.playAll β δ) (node s).units
          ((history loop node round s inputs).map (·.1))
        ∧
      ∀ s' ∈ (run (halting loop) (some s) inputs).1,
        (node s').units
          =
        (run (Round.playAll β δ) (node s).units
          ((history loop node round s inputs).map (·.1))).1 := by
  induction inputs using List.reverseRecOn with
  | nil =>
    refine ⟨rfl, ?_⟩
    intro s' hs'
    rw [← Option.mem_some_iff.mp hs']
    rfl
  | append_singleton inputs input ih =>
    rw [history_concat, StepRun.run_concat]
    cases hbefore : (run (halting loop) (some s) inputs).1 with
    | none =>
      rw [Option.map_none, Option.getD_none, List.append_nil]
      refine ⟨ih.1, ?_⟩
      intro s' hs'
      contradiction
    | some s₁ =>
      rw [Option.map_some, Option.getD_some]
      have hunits := ih.2 s₁ hbefore
      have hmode₁ : (node s₁).bootMode ≠ .WirelessSetup := by
        rw [h.run_bootMode s inputs s₁ hbefore]
        exact hmode
      cases hafter : (loop s₁ input).1 with
      | none =>
        rw [note_of_restart hafter, List.append_nil]
        refine ⟨ih.1, ?_⟩
        intro s' hs'
        have hs' : s' ∈ (loop s₁ input).1 := hs'
        rw [hafter] at hs'
        contradiction
      | some s₂ =>
        have hattended := h.attended s₁ input hmode₁ s₂ hafter
        have hnote
            : note loop node round s₁ input = [(round s₁ input, commands (loop s₁ input).2)] := by
          unfold note
          rw [hafter]
          simp [hmode₁]
        rw [hnote, List.map_append, List.map_singleton, StepRun.log_concat, StepRun.run_concat,
          ← ih.1, ← hunits]
        dsimp only
        rw [← hattended]
        refine ⟨rfl, ?_⟩
        intro s' hs'
        have hs' : s' ∈ (loop s₁ input).1 := hs'
        rw [hafter] at hs'
        rw [← Option.mem_some_iff.mp hs']

theorem history_of_setup (h : PlaysRounds loop node round) (s : σ)
    (hmode : (node s).bootMode = .WirelessSetup) (inputs : List (LoopInput N))
    : history loop node round s inputs = [] := by
  induction inputs using List.reverseRecOn with
  | nil => rfl
  | append_singleton inputs input ih =>
    rw [history_concat, ih]
    cases hstate : (run (halting loop) (some s) inputs).1 with
    | none => rfl
    | some s' =>
      have hmode' := (h.run_bootMode s inputs s' hstate).trans hmode
      simp [note, hmode']

end PlaysRounds

end Esp32

end Maltbee
