import MaltbeeController.Esp32.Lemmas.Presses
import MaltbeeController.McsEsp32.Lemmas.IdentifyOverlay

/-!
This module contains the proof that the LED pairs of the ESP32 boards never show a position that the board has
not been told since it began to listen, whichever of the two drivers they have.
-/

namespace Maltbee

-- A kind of LED pairs that does what the pair on one GPIO does.
class MirroringStation (δ : Type u) [LedPairStation δ] where
  mirror : LedPairDriver → δ
  new_mirror : ∀ blinkIntervalMs defaultColor now,
    LedPairStation.new blinkIntervalMs defaultColor now
      =
    mirror (LedPairDriver.new blinkIntervalMs defaultColor now)
  apply_mirror : ∀ (c : LedPairCall) d now, c.apply (mirror d) now = mirror (c.apply d now)

instance : MirroringStation LedPairDriver where
  mirror := id
  new_mirror _ _ _ := rfl
  apply_mirror _ _ _ := rfl

instance : MirroringStation IndependentLedPairDriver where
  mirror := IndependentLedPairDriver.ofShared
  new_mirror blinkIntervalMs defaultColor now :=
    IndependentLedPairDriver.new_ofShared now blinkIntervalMs defaultColor
  apply_mirror c d now := IndependentLedPairDriver.apply_ofShared d now c

namespace LedPairDriver

-- What a pair is asked to show, and whether it identifies the board instead.
structure Indicates (d : LedPairDriver) (shown : Option TurnoutPosition) (identifying : Bool) : Prop where
  coherent : Coherent d
  greenRequested : d.greenRequested = decide (shown = some .closed)
  redRequested : d.redRequested = decide (shown = some .thrown)
  identifying : d.identifying = identifying

variable {d : LedPairDriver} {shown : Option TurnoutPosition} {identifying : Bool}

namespace Indicates

theorem new (blinkIntervalMs : Millis) (defaultColor : LedPairColor) (now : Millis)
    : Indicates (LedPairDriver.new blinkIntervalMs defaultColor now) none false := by
  exact ⟨coherent_new now blinkIntervalMs defaultColor, rfl, rfl, rfl⟩

theorem begin (h : Indicates d shown identifying) (now : Millis)
    : Indicates (d.begin now) shown identifying := by
  exact ⟨h.coherent.apply .begin now, h.greenRequested, h.redRequested, h.identifying⟩

theorem display (h : Indicates d shown identifying) (position : TurnoutPosition)
    (now₁ now₂ : Millis)
    : Indicates (TurnoutIndicator.display LedPairOutput.set position now₁ now₂ d) (some position)
        identifying := by
  cases position with
  | closed =>
    refine ⟨(h.coherent.apply (.setGreen true) now₁).apply (.setRed false) now₂, ?_, ?_, ?_⟩
    . exact (applyState_greenRequested _ now₂).trans (applyState_greenRequested _ now₁)
    . exact applyState_redRequested _ now₂
    . rw [← h.identifying]
      exact (applyState_identifying _ now₂).trans (applyState_identifying _ now₁)
  | thrown =>
    refine ⟨(h.coherent.apply (.setRed true) now₁).apply (.setGreen false) now₂, ?_, ?_, ?_⟩
    . exact applyState_greenRequested _ now₂
    . exact (applyState_redRequested _ now₂).trans (applyState_redRequested _ now₁)
    . rw [← h.identifying]
      exact (applyState_identifying _ now₂).trans (applyState_identifying _ now₁)

theorem clear (h : Indicates d shown identifying) (now₁ now₂ : Millis)
    : Indicates (TurnoutIndicator.clear LedPairOutput.set now₁ now₂ d) none identifying := by
  refine ⟨(h.coherent.apply (.setRed false) now₁).apply (.setGreen false) now₂, ?_, ?_, ?_⟩
  . exact applyState_greenRequested _ now₂
  . exact (applyState_redRequested _ now₂).trans (applyState_redRequested _ now₁)
  . rw [← h.identifying]
    exact (applyState_identifying _ now₂).trans (applyState_identifying _ now₁)

theorem setIdentifying (h : Indicates d shown identifying) (active : Bool) (now : Millis)
    : Indicates (d.setIdentifying active now) shown active := by
  have hnormal := normal_setIdentifying d now active
  refine ⟨h.coherent.setIdentifying active now, ?_, ?_, ?_⟩
  . rw [← h.greenRequested]
    exact congrArg Normal.greenRequested hnormal
  . rw [← h.redRequested]
    exact congrArg Normal.redRequested hnormal
  . unfold LedPairDriver.setIdentifying
    split
    . next hsame => exact hsame.symm
    . dsimp only
      split
      . rfl
      . rfl

theorem update (h : Indicates d shown identifying) (now : Millis)
    : Indicates (d.update now) shown identifying := by
  have hnormal := normal_update d now
  refine ⟨h.coherent.update now, ?_, ?_, ?_⟩
  . rw [← h.greenRequested]
    exact congrArg Normal.greenRequested hnormal
  . rw [← h.redRequested]
    exact congrArg Normal.redRequested hnormal
  . rw [← h.identifying]
    unfold LedPairDriver.update
    split
    . split
      . rfl
      . rfl
    . split
      . rfl
      . split
        . rfl
        . rfl

theorem darken (h : Indicates d shown identifying) (now₁ now₂ : Millis)
    : Indicates ((d.setGreen false now₁).setRed false now₂) none identifying := by
  refine ⟨(h.coherent.apply (.setGreen false) now₁).apply (.setRed false) now₂, ?_, ?_, ?_⟩
  . exact (applyState_greenRequested _ now₂).trans (applyState_greenRequested _ now₁)
  . exact applyState_redRequested _ now₂
  . rw [← h.identifying]
    exact (applyState_identifying _ now₂).trans (applyState_identifying _ now₁)

theorem showMode (h : Indicates d none identifying) (mode : BootMode) (now₁ now₂ now₃ : Millis)
    : Indicates (LedPairFlashIndicator.showMode mode now₁ now₂ now₃ d) none
        (mode = .WirelessSetup) := by
  have hset := h.setIdentifying (mode = .WirelessSetup) now₁
  unfold LedPairFlashIndicator.showMode
  dsimp only
  split
  . exact hset.darken now₂ now₃
  . exact hset

theorem currentMode (h : Indicates d shown identifying)
    : d.currentMode = (shown.map modeOf).getD .Blink := by
  apply h.coherent.currentMode
  unfold nextMode
  rw [h.greenRequested, h.redRequested]
  match shown with
  | none => rfl
  | some .closed => rfl
  | some .thrown => rfl

theorem lit (h : Indicates d shown identifying) (hidentifying : identifying = false)
    : ∀ position ∈ shown, d.gpio.isSet = decide (position = .closed) := by
  intro position hposition
  have hshows := h.coherent.shows (h.identifying.trans hidentifying)
  have hmode := h.currentMode
  rw [Option.mem_def.mp hposition] at hmode
  unfold Shows currentColorToShow at hshows
  rw [hmode] at hshows
  unfold DigitalOutput.isSet
  rw [hshows]
  cases position with
  | closed => rfl
  | thrown => rfl

end Indicates

end LedPairDriver

namespace TurnoutIndicator

variable {δ : Type u} [LedPairStation δ] [MirroringStation δ] (d : LedPairDriver) (now₁ now₂ : Millis)

open MirroringStation (mirror apply_mirror)

theorem display_mirror (position : TurnoutPosition)
    : display LedPairOutput.set position now₁ now₂ (mirror d : δ)
        =
      mirror (display LedPairOutput.set position now₁ now₂ d) := by
  cases position with
  | closed =>
    change LedPairCall.apply (.setRed false)
      (LedPairCall.apply (.setGreen true) (mirror d : δ) now₁) now₂ = _
    rw [apply_mirror, apply_mirror]
    rfl
  | thrown =>
    change LedPairCall.apply (.setGreen false)
      (LedPairCall.apply (.setRed true) (mirror d : δ) now₁) now₂ = _
    rw [apply_mirror, apply_mirror]
    rfl

theorem clear_mirror
    : clear LedPairOutput.set now₁ now₂ (mirror d : δ)
        =
      mirror (clear LedPairOutput.set now₁ now₂ d) := by
  change LedPairCall.apply (.setGreen false)
    (LedPairCall.apply (.setRed false) (mirror d : δ) now₁) now₂ = _
  rw [apply_mirror, apply_mirror]
  rfl

end TurnoutIndicator

theorem LedPairFlashIndicator.showMode_mirror {δ : Type u} [LedPairStation δ] [MirroringStation δ]
    (mode : BootMode) (d : LedPairDriver) (now₁ now₂ now₃ : Millis)
    : showMode mode now₁ now₂ now₃ (MirroringStation.mirror d : δ)
        =
      MirroringStation.mirror (showMode mode now₁ now₂ now₃ d) := by
  have hset := MirroringStation.apply_mirror (δ := δ) (.setIdentifying (mode = .WirelessSetup)) d now₁
  unfold showMode
  dsimp only
  rw [show LedPairStation.setIdentifying _ _ _ = _ from hset]
  split
  . change LedPairCall.apply (.setRed false)
      (LedPairCall.apply (.setGreen false) (MirroringStation.mirror _ : δ) now₂) now₃ = _
    rw [MirroringStation.apply_mirror, MirroringStation.apply_mirror]
    rfl
  . rfl

namespace Esp32

open MirroringStation (mirror apply_mirror)
open Round (replay replay_concat)
open StepRun (run halting)

variable {β : Type u} {δ : Type v} [LedPairStation δ] [MirroringStation δ]

def StationUnit.Indicates (u : StationUnit β δ) (shown : Option TurnoutPosition) (identifying : Bool)
    : Prop :=
  ∃ d, u.ledStation = mirror d ∧ d.Indicates shown identifying

namespace StationUnit

variable {u : StationUnit β δ} {shown : Option TurnoutPosition} {identifying : Bool}
variable {address : Int} {position : TurnoutPosition}

theorem clearIndicator_indicates (h : u.Indicates shown identifying) (now₁ now₂ : Millis)
    : (u.clearIndicator now₁ now₂).Indicates none identifying := by
  rcases h with ⟨d, hled, hd⟩
  refine ⟨_, ?_, hd.clear now₁ now₂⟩
  unfold clearIndicator ToggleTurnoutStation.clearIndicator
  rw [hled]
  apply TurnoutIndicator.clear_mirror

theorem applyFeedback_indicates (h : u.Indicates shown identifying) (hknows : u.Knows address position)
    (feedback : TurnoutFeedback) (now₁ now₂ : Millis)
    : (u.applyFeedback feedback now₁ now₂).Indicates ((lastReport address [feedback]).or shown)
        identifying := by
  by_cases heq : feedback.address = address
  . have hlast : lastReport address [feedback] = some feedback.position := by
      simp [lastReport, heq]
    rcases h with ⟨d, hled, hd⟩
    rw [hlast]
    refine ⟨_, ?_, hd.display feedback.position now₁ now₂⟩
    rw [← hknows.address] at heq
    unfold applyFeedback
    rw [ToggleTurnoutStation.applyFeedback_of_match heq, hled]
    apply TurnoutIndicator.display_mirror
  . have hlast : lastReport address [feedback] = none := by
      simp [lastReport, heq]
    rw [← hknows.address] at heq
    rw [applyFeedback_of_ne u heq, hlast]
    exact h

end StationUnit

namespace Round

variable (r : Round) (i : Nat) {u : StationUnit β δ} {shown : Option TurnoutPosition}
variable {identifying : Bool} {address : Int} {position : TurnoutPosition}

def shows (address : Int) (shown : Option TurnoutPosition) (r : Round) : Option TurnoutPosition :=
  match r.reports with
  | none => none
  | some reports => (lastReport address reports).or shown

theorem foldl_applyFeedback_indicates (h : u.Indicates shown identifying)
    (hknows : u.Knows address position) (updates : List (TurnoutFeedback × Nat))
    : (updates.foldl
          (fun u f => u.applyFeedback f.1 (r.now (.feedback f.2 i 0)) (r.now (.feedback f.2 i 1)))
          u).Indicates ((lastReport address (updates.map (·.1))).or shown) identifying := by
  induction updates using List.reverseRecOn with
  | nil => exact h
  | append_singleton updates f ih =>
    rw [List.foldl_append, List.map_append, lastReport_append, Option.or_assoc]
    exact StationUnit.applyFeedback_indicates ih (foldl_applyFeedback_knows r i hknows updates) f.1 _ _

theorem hear_indicates (h : u.Indicates shown identifying) (hknows : u.Knows address position)
    : (r.hear i u).Indicates (r.shows address shown) identifying := by
  unfold hear shows
  cases r.reports with
  | none => apply StationUnit.clearIndicator_indicates h
  | some reports =>
    have hfoldl := foldl_applyFeedback_indicates r i h hknows reports.zipIdx
    rw [List.zipIdx_map_fst] at hfoldl
    exact hfoldl

theorem identify_indicates (h : u.Indicates shown identifying)
    : (r.identify i u).Indicates shown (r.identifying.getD identifying) := by
  unfold identify
  cases r.identifying with
  | none => exact h
  | some active =>
    rcases h with ⟨d, hled, hd⟩
    refine ⟨_, ?_, hd.setIdentifying active (r.now (.setIdentifying i))⟩
    dsimp only
    rw [hled]
    exact apply_mirror (.setIdentifying active) d _

theorem light_indicates (h : u.Indicates shown identifying)
    : (r.light i u).Indicates shown identifying := by
  rcases h with ⟨d, hled, hd⟩
  refine ⟨_, ?_, hd.update (r.now (.led i))⟩
  unfold light
  dsimp only
  rw [hled]
  exact apply_mirror .update d _

theorem play_indicates (h : u.Indicates shown identifying) (hknows : u.Knows address position)
    : (r.play i u).1.Indicates (r.shows address shown) (r.identifying.getD identifying) := by
  have hgate : (r.gate u).Indicates shown identifying := h
  have hgate' : (r.gate u).Knows address position :=
    ⟨hknows.address, hknows.canThrow, hknows.position⟩
  exact light_indicates r i (identify_indicates r i (hear_indicates r i hgate hgate'))

end Round

-- The last report for the address, unless the board has stopped listening since.
def indicated (address : Int) (rounds : List Round) : Option TurnoutPosition :=
  rounds.foldl (Round.shows address) none

-- In the wireless setup the LEDs identify the board all the time.
def identified (bootMode : BootMode) (rounds : List Round) : Bool :=
  (rounds.filterMap (·.identifying)).getLast?.getD (bootMode = .WirelessSetup)

theorem indicated_concat (address : Int) (rounds : List Round) (r : Round)
    : indicated address (rounds ++ [r]) = r.shows address (indicated address rounds) := by
  unfold indicated
  rw [List.foldl_append]
  rfl

theorem identified_concat (bootMode : BootMode) (rounds : List Round) (r : Round)
    : identified bootMode (rounds ++ [r]) = r.identifying.getD (identified bootMode rounds) := by
  unfold identified
  rw [List.filterMap_append, List.getLast?_append]
  cases h : r.identifying with
  | none => simp [h]
  | some active => simp [h]

theorem replay_indicates {u : StationUnit β δ} {address : Int} {bootMode : BootMode} (i : Nat)
    (hnew : u.New address) (h : u.Indicates none (bootMode = .WirelessSetup)) (rounds : List Round)
    : (replay i u rounds).Indicates (indicated address rounds) (identified bootMode rounds) := by
  induction rounds using List.reverseRecOn with
  | nil => exact h
  | append_singleton rounds r ih =>
    rw [replay_concat, indicated_concat, identified_concat]
    exact r.play_indicates i ih (replay_knows hnew rounds)

theorem Node.bootUnit_indicates (bootMode : BootMode) (now : Nat → Nat → Millis) (i : Nat)
    (wiring : β × Int × List Char)
    : (bootUnit bootMode now i wiring : StationUnit β δ).Indicates none
        (bootMode = .WirelessSetup) := by
  have hnew := LedPairDriver.Indicates.new BLINK_INTERVAL_MS DEFAULT_LED_COLOR (now i 0)
  have hcleared := (hnew.begin (now i 1)).clear (now i 2) (now i 3)
  refine ⟨_, ?_, hcleared.showMode bootMode (now i 4) (now i 5) (now i 6)⟩
  have hbegin := apply_mirror (δ := δ) .begin
    (LedPairDriver.new BLINK_INTERVAL_MS DEFAULT_LED_COLOR (now i 0)) (now i 1)
  unfold bootUnit ToggleTurnoutStation.begin
  dsimp only
  rw [MirroringStation.new_mirror, show LedPairStation.begin _ _ = _ from hbegin,
    TurnoutIndicator.clear_mirror, LedPairFlashIndicator.showMode_mirror]
  rfl

/-
What a station knows and shows after some rounds: the pair shows the last report steadily, blinks while
there is none to show, and flashes while it identifies the board.
-/
structure UpToDate (u : StationUnit β δ) (address : Int) (bootMode : BootMode) (rounds : List Round)
    : Prop where
  position : u.station.turnout.position = confirmed address rounds
  led : ∃ d, u.ledStation = mirror d ∧
    d.identifying = identified bootMode rounds ∧
    d.currentMode = ((indicated address rounds).map LedPairDriver.modeOf).getD .Blink ∧
    (identified bootMode rounds = false →
      ∀ position ∈ indicated address rounds, d.gpio.isSet = decide (position = .closed))
  address : u.station.turnout.address = address

theorem StationUnit.Indicates.upToDate {u : StationUnit β δ} {address : Int} {bootMode : BootMode}
    {rounds : List Round}
    (h : u.Indicates (indicated address rounds) (identified bootMode rounds))
    (hknows : u.Knows address (confirmed address rounds))
    : UpToDate u address bootMode rounds := by
  rcases h with ⟨d, hled, hd⟩
  exact ⟨hknows.position, ⟨d, hled, hd.identifying, hd.currentMode, hd.lit⟩, hknows.address⟩

def Untold (wirings : List (β × Int × List Char)) (units : List (StationUnit β δ)) : Prop :=
  ∀ (i : Nat) (u : StationUnit β δ), units[i]? = some u →
    ∃ wiring, wirings[i]? = some wiring ∧ u.New wiring.2.1 ∧ u.Indicates none true

theorem Untold.updateLeds {N : Nat} {wirings : List (β × Int × List Char)} {n : Node N β δ}
    (h : Untold wirings n.units) (input : LoopInput N)
    : Untold wirings (n.updateLeds input).units := by
  intro i u hu
  unfold Node.updateLeds Node.mapUnits at hu
  rw [List.getElem?_mapIdx, Option.map_eq_some_iff] at hu
  have ⟨u₁, hu₁, heq⟩ := hu
  have ⟨wiring, hwiring, hnew, d, hled, hd⟩ := h i u₁ hu₁
  have hknows := hnew.knows
  rw [← heq]
  refine ⟨wiring, hwiring, ⟨⟨hknows.address, hknows.canThrow, hknows.position⟩, hnew.button⟩, _, ?_,
    hd.update (input.now (.led i))⟩
  dsimp only
  rw [hled]
  exact apply_mirror .update d _

theorem PlaysRounds.untold {N : Nat} {σ : Type w} {loop : σ → LoopInput N → Option σ × List Effect}
    {node : σ → Node N β δ} {round : σ → LoopInput N → Round} (h : PlaysRounds loop node round)
    {s : σ} (hmode : (node s).bootMode = .WirelessSetup) {wirings : List (β × Int × List Char)}
    (hinit : Untold wirings (node s).units) (inputs : List (LoopInput N))
    : ∀ s' ∈ (run (halting loop) (some s) inputs).1, Untold wirings (node s').units := by
  have hstep
      : ∀ s₁ input, (node s₁).bootMode = .WirelessSetup ∧ Untold wirings (node s₁).units →
          (∀ s₂ ∈ (loop s₁ input).1,
            (node s₂).bootMode = .WirelessSetup ∧ Untold wirings (node s₂).units)
            ∧
          ∀ e ∈ (loop s₁ input).2, True := by
    intro s₁ input ⟨hmode₁, huntold⟩
    refine ⟨?_, fun _ _ => trivial⟩
    intro s₂ hs₂
    rw [(h.served s₁ input hmode₁).2 s₂ hs₂]
    exact ⟨(h.bootMode s₁ input s₂ hs₂).trans hmode₁, huntold.updateLeds input⟩
  intro s' hs'
  exact ((StepRun.run_halting_safe s hstep ⟨hmode, hinit⟩ inputs).1 s' hs').2

theorem PlaysRounds.upToDate {N : Nat} {σ : Type w} {loop : σ → LoopInput N → Option σ × List Effect}
    {node : σ → Node N β δ} {round : σ → LoopInput N → Round} (h : PlaysRounds loop node round)
    {s : σ} {now : Nat → Nat → Millis} {wirings : List (β × Int × List Char)}
    (hunits : (node s).units = wirings.mapIdx (Node.bootUnit (node s).bootMode now))
    (inputs : List (LoopInput N))
    : ∀ s' ∈ (run (halting loop) (some s) inputs).1, ∀ (i : Nat) (u : StationUnit β δ),
        (node s').units[i]? = some u →
          ∃ wiring, wirings[i]? = some wiring ∧
            UpToDate u wiring.2.1 (node s).bootMode
              ((history loop node round s inputs).map (·.1)) := by
  intro s' hs' i u hu
  by_cases hmode : (node s).bootMode = .WirelessSetup
  . have hinit : Untold wirings (node s).units := by
      intro i u hu
      rw [hunits, List.getElem?_mapIdx, Option.map_eq_some_iff] at hu
      have ⟨wiring, hwiring, hboot⟩ := hu
      have hindicates := Node.bootUnit_indicates (δ := δ) (node s).bootMode now i wiring
      rw [hboot, decide_eq_true hmode] at hindicates
      rw [← hboot]
      exact ⟨wiring, hwiring, Node.bootUnit_new _ _ _ _, hboot ▸ hindicates⟩
    have ⟨wiring, hwiring, hnew, hindicates⟩ := h.untold hmode hinit inputs s' hs' i u hu
    refine ⟨wiring, hwiring, ?_⟩
    rw [h.history_of_setup s hmode]
    apply StationUnit.Indicates.upToDate _ hnew.knows
    rw [hmode]
    exact hindicates
  . rw [(h.history_eq_log s hmode inputs).2 s' hs', Round.run_playAll_component,
      Option.map_eq_some_iff] at hu
    have ⟨u₀, hu₀, heq⟩ := hu
    rw [hunits, List.getElem?_mapIdx, Option.map_eq_some_iff] at hu₀
    have ⟨wiring, hwiring, hboot⟩ := hu₀
    refine ⟨wiring, hwiring, ?_⟩
    rw [← heq, ← hboot]
    have hnew := Node.bootUnit_new (δ := δ) (node s).bootMode now i wiring
    have hindicates := Node.bootUnit_indicates (δ := δ) (node s).bootMode now i wiring
    exact (replay_indicates i hnew hindicates _).upToDate (replay_knows hnew _)

/--
After any number of iterations each station of a board knows and shows what the reports have told it, and
shows no position unless it has been reported since the board began to listen.
-/
theorem stations_up_to_date (ownMac : MacAddress) (wirelessSetupRequested : Bool)
    : (∀ configStore runningConfig now inputs,
        let p := Panel.boot ownMac configStore runningConfig wirelessSetupRequested now
        ∀ p' ∈ (run (halting Panel.loop) (some p) inputs).1, ∀ (i : Nat) u, p'.node.units[i]? = some u →
          ∃ config, Panel.TURNOUT_CONFIGS[i]? = some config ∧
            UpToDate u config.2.1 p.node.bootMode
              ((history Panel.loop Panel.node Panel.round p inputs).map (·.1)))
        ∧
      ∀ configStore runningConfig now now₁ now₂ inputs,
        let p := Node4.boot ownMac configStore runningConfig wirelessSetupRequested now now₁ now₂
        ∀ p' ∈ (run (halting Node4.loop) (some p) inputs).1, ∀ (i : Nat) u, p'.node.units[i]? = some u →
          ∃ config, Node4.TURNOUT_CONFIGS[i]? = some config ∧
            UpToDate u config.2.1 p.node.bootMode
              ((history Node4.loop Node4.node Node4.round p inputs).map (·.1)) := by
  constructor
  . intro configStore runningConfig now inputs p
    exact Panel.playsRounds.upToDate rfl inputs
  . intro configStore runningConfig now now₁ now₂ inputs p
    exact Node4.playsRounds.upToDate rfl inputs

theorem stations_up_to_date_thrown
    : let inputs := [held 12 0 [⟨1, .Thrown⟩]]
      let rounds := (history Panel.loop Panel.node Panel.round panel inputs).map (·.1)
      indicated 1 rounds = some .thrown
        ∧
      ∃ p' ∈ (run (halting Panel.loop) (some panel) inputs).1, ∃ u, p'.node.units[0]? = some u ∧
        UpToDate u 1 .Normal rounds := by
  intro inputs rounds
  refine ⟨by decide +kernel, ?_⟩
  have hon : ((run (halting Panel.loop) (some panel) inputs).1.any fun p' =>
      p'.node.units[0]?.isSome) = true := by
    decide +kernel
  have ⟨p', hp', hunit⟩ := (Option.any_eq_true _ _).mp hon
  have ⟨u, hu⟩ := Option.isSome_iff_exists.mp hunit
  have ⟨config, hconfig, h⟩ :=
    (stations_up_to_date mac false).1 (configured 12) _ _ inputs p' hp' 0 u hu
  rw [← Option.some.inj hconfig] at h
  exact ⟨p', hp', u, hu, h⟩

end Esp32

end Maltbee
