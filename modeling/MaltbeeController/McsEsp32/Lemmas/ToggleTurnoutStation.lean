import MaltbeeController.Lib.StepRun
import MaltbeeController.McsCore.Lemmas.Button
import MaltbeeController.McsCore.Lemmas.TurnoutStation
import MaltbeeController.McsEsp32.Lemmas.LedPairDriver

/-!
This module contains what a station of the ESP32 boards shows and commands over whole runs, when its two
outputs are the two LEDs of one pair on one GPIO.
-/

open StepRun

namespace Maltbee

namespace LedPairDriver

def modeOf (position : TurnoutPosition) : LedPairMode :=
  if position = .closed then .Green else .Red

structure Holds (d : LedPairDriver) (green red : Bool) (mode : LedPairMode) : Prop where
  identifying : d.identifying = false
  greenRequested : d.greenRequested = green
  redRequested : d.redRequested = red
  currentMode : d.currentMode = mode
  lit : mode ≠ .Blink → d.gpio.isSet = decide (mode = .Green)

-- The pair shows what exactly one request, or none, asks for.
abbrev Displays (d : LedPairDriver) (mode : LedPairMode) : Prop :=
  Holds d (mode = .Green) (mode = .Red) mode

theorem new_displays (blinkIntervalMs : Millis) (defaultColor : LedPairColor) (now : Millis)
    : Displays (new blinkIntervalMs defaultColor now) .Blink := by
  constructor
  . rfl
  . rfl
  . rfl
  . rfl
  . intro hblink
    contradiction

theorem isSet_enterMode {mode : LedPairMode} (d : LedPairDriver) (now : Millis)
    (hblink : mode ≠ .Blink)
    : (d.enterMode mode now).gpio.isSet = decide (mode = .Green) := by
  cases mode with
  | Green => simp [enterMode, writeColor, DigitalOutput.set, DigitalOutput.isSet]
  | Red => simp [enterMode, writeColor, DigitalOutput.set, DigitalOutput.isSet]
  | Blink => contradiction

def requestedMode (green red : Bool) : Option LedPairMode :=
  match green, red with
  | true, false => some .Green
  | false, true => some .Red
  | false, false => some .Blink
  | true, true => none

variable {d : LedPairDriver} {green red : Bool} {mode : LedPairMode}

theorem Holds.nextMode_eq (h : Holds d green red mode) : d.nextMode = requestedMode green red := by
  unfold nextMode
  rw [h.greenRequested]
  rw [h.redRequested]
  cases green <;> cases red <;> rfl

theorem applyState_holds (h : Holds d green red mode) (now : Millis)
    : Holds (d.applyState now) green red ((requestedMode green red).getD mode) := by
  rw [← h.nextMode_eq]
  constructor
  . rw [applyState_identifying, h.identifying]
  . rw [applyState_greenRequested, h.greenRequested]
  . rw [applyState_redRequested, h.redRequested]
  . rw [applyState_currentMode, h.currentMode]
  . rcases applyState_cases d now with ⟨hmode | hmode, heq⟩ | ⟨mode', hmode, _, heq⟩
    . rw [heq, hmode]
      exact h.lit
    . rw [heq, hmode, h.currentMode]
      exact h.lit
    . rw [heq, hmode]
      apply isSet_enterMode

theorem applyState_holds_writes (h : Holds d green red mode) (now : Millis)
    (hblink : requestedMode green red ≠ some .Blink)
    : (d.applyState now).gpio.writes
        =
      d.gpio.writes ++
        if (requestedMode green red).getD mode = mode then
          []
        else
          [decide ((requestedMode green red).getD mode = .Green)] := by
  rw [← h.nextMode_eq] at hblink
  rw [applyState_writes d now hblink]
  rw [(applyState_holds h now).currentMode]
  rw [h.currentMode]

theorem Holds.withGreen (h : Holds d green red mode) (active : Bool)
    : Holds { d with greenRequested := active } active red mode :=
  ⟨h.identifying, rfl, h.redRequested, h.currentMode, h.lit⟩

theorem Holds.withRed (h : Holds d green red mode) (active : Bool)
    : Holds { d with redRequested := active } green active mode :=
  ⟨h.identifying, h.greenRequested, rfl, h.currentMode, h.lit⟩

theorem setGreen_holds (h : Holds d green red mode) (active : Bool) (now : Millis)
    : Holds (d.setGreen active now) active red ((requestedMode active red).getD mode) :=
  applyState_holds (h.withGreen active) now

theorem setRed_holds (h : Holds d green red mode) (active : Bool) (now : Millis)
    : Holds (d.setRed active now) green active ((requestedMode green active).getD mode) :=
  applyState_holds (h.withRed active) now

theorem update_holds (h : Holds d green red mode) (now : Millis)
    : Holds (d.update now) green red mode := by
  unfold update
  rw [if_neg (by simp [h.identifying])]
  split
  . exact h
  . next hblink =>
    split
    . exact h
    . refine ⟨h.identifying, h.greenRequested, h.redRequested, h.currentMode, ?_⟩
      intro hmode
      rw [h.currentMode] at hblink
      contradiction

theorem begin_holds (h : Holds d green red mode) (now : Millis)
    : Holds (d.begin now) green red mode := by
  refine ⟨h.identifying, h.greenRequested, h.redRequested, h.currentMode, ?_⟩
  intro hblink
  have hmode := h.currentMode
  cases mode with
  | Green =>
    simp [LedPairDriver.begin, writeColor, currentColorToShow, DigitalOutput.set, DigitalOutput.isSet,
      hmode]
  | Red =>
    simp [LedPairDriver.begin, writeColor, currentColorToShow, DigitalOutput.set, DigitalOutput.isSet,
      hmode]
  | Blink => contradiction

end LedPairDriver

namespace TurnoutIndicator

open LedPairDriver

-- Writes to an output, with what is behind the outputs after each of the writes so far.
def watch (set : Lamp → Bool → Millis → δ → δ) (lamp : Lamp) (active : Bool) (now : Millis)
    (s : δ × List δ)
    : δ × List δ :=
  let driver := set lamp active now s.1
  (driver, s.2 ++ [driver])

theorem display_watch (set : Lamp → Bool → Millis → δ → δ) (position : TurnoutPosition)
    (now₁ now₂ : Millis) (driver : δ) (seen : List δ)
    : (display (watch set) position now₁ now₂ (driver, seen)).1
        =
      display set position now₁ now₂ driver := by
  cases position <;> rfl

theorem clear_displays {d : LedPairDriver} {mode : LedPairMode} (h : Displays d mode)
    (now₁ now₂ : Millis)
    : Displays (clear LedPairOutput.set now₁ now₂ d) .Blink := by
  have := setGreen_holds (setRed_holds h false now₁) false now₂
  exact this

theorem display_displays {d : LedPairDriver} {mode : LedPairMode} (h : Displays d mode)
    (position : TurnoutPosition) (now₁ now₂ : Millis)
    : Displays (display LedPairOutput.set position now₁ now₂ d) (modeOf position) := by
  cases position with
  | closed => exact setRed_holds (setGreen_holds h true now₁) false now₂
  | thrown => exact setGreen_holds (setRed_holds h true now₁) false now₂

-- The other LED is darkened after the one is lit, so neither of the two requests asks for blinking.
theorem requestedMode_of_lit (mode : LedPairMode)
    : requestedMode (mode = .Green) true ≠ some .Blink ∧
        requestedMode true (mode = .Red) ≠ some .Blink ∧
        (requestedMode (mode = .Green) true).getD mode ≠ .Blink ∧
        (requestedMode true (mode = .Red)).getD mode ≠ .Blink := by
  cases mode <;> decide

theorem display_never_blinks {d : LedPairDriver} {mode : LedPairMode} (h : Displays d mode)
    (position : TurnoutPosition) (now₁ now₂ : Millis)
    : ∀ d' ∈ (display (watch LedPairOutput.set) position now₁ now₂ (d, [])).2,
        d'.currentMode ≠ .Blink := by
  rcases requestedMode_of_lit mode with ⟨_, _, hthrown, hclosed⟩
  cases position with
  | closed =>
    have hfirst := setGreen_holds h true now₁
    have hsecond := setRed_holds hfirst false now₂
    intro d' hd'
    have hseen : d' ∈ [d.setGreen true now₁, (d.setGreen true now₁).setRed false now₂] := hd'
    rw [List.mem_pair] at hseen
    cases hseen with
    | inl heq =>
      rw [heq, hfirst.currentMode]
      exact hclosed
    | inr heq =>
      rw [heq, hsecond.currentMode]
      simp [requestedMode]
  | thrown =>
    have hfirst := setRed_holds h true now₁
    have hsecond := setGreen_holds hfirst false now₂
    intro d' hd'
    have hseen : d' ∈ [d.setRed true now₁, (d.setRed true now₁).setGreen false now₂] := hd'
    rw [List.mem_pair] at hseen
    cases hseen with
    | inl heq =>
      rw [heq, hfirst.currentMode]
      exact hthrown
    | inr heq =>
      rw [heq, hsecond.currentMode]
      simp [requestedMode]

theorem display_writes {d : LedPairDriver} {mode : LedPairMode} (h : Displays d mode)
    (position : TurnoutPosition) (now₁ now₂ : Millis)
    : (display LedPairOutput.set position now₁ now₂ d).gpio.writes
        =
      d.gpio.writes ++ if modeOf position = mode then [] else [decide (position = .closed)] := by
  rcases requestedMode_of_lit mode with ⟨hred, hgreen, _, _⟩
  cases position with
  | closed =>
    have hfirst := applyState_holds_writes (h.withGreen true) now₁ hgreen
    have hsecond := applyState_holds_writes ((setGreen_holds h true now₁).withRed false) now₂
      (by decide)
    apply hsecond.trans
    rw [show (d.setGreen true now₁).gpio.writes = _ from hfirst]
    cases mode <;> simp [requestedMode, modeOf]
  | thrown =>
    have hfirst := applyState_holds_writes (h.withRed true) now₁ hred
    have hsecond := applyState_holds_writes ((setRed_holds h true now₁).withGreen false) now₂
      (by decide)
    apply hsecond.trans
    rw [show (d.setRed true now₁).gpio.writes = _ from hfirst]
    cases mode <;> simp [requestedMode, modeOf]

end TurnoutIndicator

namespace ToggleTurnoutStation

open LedPairDriver

inductive Event where
  | begin
  | applyFeedback (feedback : TurnoutFeedback)
  | clearIndicator
  | update (raw : Bool)
  | beginLeds
  | updateLeds
  deriving DecidableEq, Repr

structure Timed where
  event : Event
  now₁ : Millis
  now₂ : Millis
  deriving DecidableEq, Repr

def react (s : ToggleTurnoutStation × LedPairDriver) (e : Timed)
    : (ToggleTurnoutStation × LedPairDriver) × List TurnoutCommand :=
  match e.event with
  | .begin => ((s.1, begin LedPairOutput.set e.now₁ e.now₂ s.2), [])
  | .applyFeedback feedback =>
    (s.1.applyFeedback LedPairOutput.set feedback e.now₁ e.now₂ s.2, [])
  | .clearIndicator => ((s.1, clearIndicator LedPairOutput.set e.now₁ e.now₂ s.2), [])
  | .update raw =>
    let res := s.1.update raw e.now₁ e.now₂
    ((res.1, s.2), res.2)
  | .beginLeds => ((s.1, s.2.begin e.now₁), [])
  | .updateLeds => ((s.1, s.2.update e.now₁), [])

def newStation (address : Int) (name : List Char) (blinkIntervalMs : Millis)
    (defaultColor : LedPairColor) (now : Millis)
    : ToggleTurnoutStation × LedPairDriver :=
  (.new address name, .new blinkIntervalMs defaultColor now)

def reported? (address : Int) (e : Event) : Option TurnoutPosition :=
  match e with
  | .applyFeedback feedback => if feedback.address = address then some feedback.position else none
  | _ => none

def shown? (address : Int) (e : Event) : Option LedPairMode :=
  match e with
  | .begin | .clearIndicator => some .Blink
  | _ => (reported? address e).map modeOf

def lastReported (address : Int) (events : List Timed) : TurnoutPosition :=
  (events.filterMap (reported? address ·.event)).getLast?.getD .closed

def lastShown? (address : Int) (events : List Timed) : Option LedPairMode :=
  (events.filterMap (shown? address ·.event)).getLast?

def sampled (button : Button) (e : Timed) : Button :=
  match e.event with
  | .update raw => button.update raw e.now₁ e.now₂
  | _ => button

def buttonAfter (events : List Timed) : Button :=
  events.foldl sampled { debounceMilliseconds := DEBOUNCE_MS }

theorem applyFeedback_of_ne {σ : Type u} {set : Lamp → Bool → Millis → σ → σ}
    {s : ToggleTurnoutStation} {feedback : TurnoutFeedback}
    (h : feedback.address ≠ s.turnout.address) (now₁ now₂ : Millis) (outputs : σ)
    : s.applyFeedback set feedback now₁ now₂ outputs = (s, outputs) := by
  unfold ToggleTurnoutStation.applyFeedback
  rw [if_pos h]

theorem applyFeedback_of_match {σ : Type u} {set : Lamp → Bool → Millis → σ → σ}
    {s : ToggleTurnoutStation} {feedback : TurnoutFeedback}
    (h : feedback.address = s.turnout.address) (now₁ now₂ : Millis) (outputs : σ)
    : s.applyFeedback set feedback now₁ now₂ outputs
        =
      (
        { s with turnout := s.turnout.confirm feedback.position },
        TurnoutIndicator.display set feedback.position now₁ now₂ outputs
      ) := by
  unfold ToggleTurnoutStation.applyFeedback
  rw [if_neg (by simp [h])]
  rfl

theorem applyFeedback_of_eq {σ : Type u} {set : Lamp → Bool → Millis → σ → σ}
    {s : ToggleTurnoutStation} {feedback : TurnoutFeedback}
    (h : feedback.address = s.turnout.address) (hcan : s.turnout.canThrow) (now₁ now₂ : Millis)
    (outputs : σ)
    : s.applyFeedback set feedback now₁ now₂ outputs
        =
      (
        { s with turnout := { s.turnout with currentPosition := feedback.position } },
        TurnoutIndicator.display set feedback.position now₁ now₂ outputs
      ) := by
  rw [applyFeedback_of_match h]
  rw [Turnout.confirm_of_canThrow hcan]

theorem update_commands (s : ToggleTurnoutStation) (raw : Bool) (now₁ now₂ : Millis)
    : (s.update raw now₁ now₂).2
        =
      if !s.button.isPressed && (s.button.update raw now₁ now₂).isPressed then
        [⟨s.turnout.address, s.turnout.position.opposite⟩]
      else
        [] := by
  rw [← Button.wasPressed_update]
  simp only [ToggleTurnoutStation.update, ToggleTurnoutControl.update]
  cases (s.button.update raw now₁ now₂).wasPressed with
  | true => rfl
  | false => rfl

-- A station that has its address and its button, is neither locked nor disabled, and shows `mode`.
structure Serves (address : Int) (button : Button) (position : TurnoutPosition) (mode : LedPairMode)
    (s : ToggleTurnoutStation × LedPairDriver) : Prop where
  address : s.1.turnout.address = address
  canThrow : s.1.turnout.canThrow = true
  button : s.1.button = button
  position : s.1.turnout.position = position
  displays : Displays s.2 mode

theorem applyFeedback_serves {address : Int} {button : Button} {position : TurnoutPosition}
    {mode : LedPairMode} {s : ToggleTurnoutStation × LedPairDriver}
    (h : Serves address button position mode s)
    {feedback : TurnoutFeedback} (heq : feedback.address = address) (now₁ now₂ : Millis)
    : Serves address button feedback.position (modeOf feedback.position)
        (s.1.applyFeedback LedPairOutput.set feedback now₁ now₂ s.2) := by
  rw [← h.address] at heq
  rw [applyFeedback_of_eq heq h.canThrow]
  constructor
  . exact h.address
  . exact h.canThrow
  . exact h.button
  . rfl
  . apply TurnoutIndicator.display_displays h.displays

theorem react_serves {address : Int} {button : Button} {position : TurnoutPosition}
    {mode : LedPairMode} {s : ToggleTurnoutStation × LedPairDriver}
    (h : Serves address button position mode s) (e : Timed)
    : Serves address (sampled button e) ((reported? address e.event).getD position)
        ((shown? address e.event).getD mode) (react s e).1 := by
  rcases e with ⟨event, now₁, now₂⟩
  cases event with
  | begin | clearIndicator =>
    have hdisplays := TurnoutIndicator.clear_displays h.displays now₁ now₂
    exact ⟨h.address, h.canThrow, h.button, h.position, hdisplays⟩
  | applyFeedback feedback =>
    unfold react
    dsimp only [shown?, reported?]
    split
    . next heq => exact applyFeedback_serves h heq now₁ now₂
    . next hne =>
      rw [← h.address] at hne
      rw [applyFeedback_of_ne hne]
      exact h
  | update raw =>
    have hbutton := congrArg (Button.update · raw now₁ now₂) h.button
    exact ⟨h.address, h.canThrow, hbutton, h.position, h.displays⟩
  | beginLeds =>
    exact ⟨h.address, h.canThrow, h.button, h.position, begin_holds h.displays now₁⟩
  | updateLeds =>
    exact ⟨h.address, h.canThrow, h.button, h.position, update_holds h.displays now₁⟩

theorem lastReported_concat (address : Int) (events : List Timed) (e : Timed)
    : lastReported address (events ++ [e])
        =
      (reported? address e.event).getD (lastReported address events) := by
  unfold lastReported
  rw [List.filterMap_append]
  cases h : reported? address e.event with
  | none => simp [h]
  | some position => simp [h]

theorem lastShown?_concat (address : Int) (events : List Timed) (e : Timed)
    : lastShown? address (events ++ [e])
        =
      (shown? address e.event).or (lastShown? address events) := by
  unfold lastShown?
  rw [List.filterMap_append]
  cases h : shown? address e.event with
  | none => simp [h]
  | some mode => simp [h]

theorem buttonAfter_concat (events : List Timed) (e : Timed)
    : buttonAfter (events ++ [e]) = sampled (buttonAfter events) e :=
  List.foldl_concat sampled _ e events

theorem run_serves (address : Int) (name : List Char) (blinkIntervalMs : Millis)
    (defaultColor : LedPairColor) (now : Millis) (events : List Timed)
    : Serves address (buttonAfter events) (lastReported address events)
        ((lastShown? address events).getD .Blink)
        (run react (newStation address name blinkIntervalMs defaultColor now) events).1 := by
  apply run_induction (P := fun events s _ =>
    Serves address (buttonAfter events) (lastReported address events)
      ((lastShown? address events).getD .Blink) s)
  . exact ⟨rfl, rfl, rfl, rfl, new_displays blinkIntervalMs defaultColor now⟩
  . intro events e s _ _ h
    rw [lastReported_concat, lastShown?_concat, Option.getD_or, buttonAfter_concat]
    apply react_serves h e

-- What the station shows and commands after `events`, from what the last ones of them said.
structure Behaves (address : Int) (events : List Timed)
    (s : ToggleTurnoutStation × LedPairDriver) : Prop where
  position : s.1.turnout.position = lastReported address events
  mode : ∀ mode, lastShown? address events = some mode → s.2.currentMode = mode
  lit : ∀ mode, lastShown? address events = some mode → mode ≠ .Blink →
    s.2.gpio.isSet = decide (mode = .Green)
  -- The states of the driver after each write to an output while feedback is applied.
  watched : ∀ feedback now₁ now₂,
    (s.1.applyFeedback (TurnoutIndicator.watch LedPairOutput.set) feedback now₁ now₂ (s.2, [])).2.1
      =
    (s.1.applyFeedback LedPairOutput.set feedback now₁ now₂ s.2).2
  never_blinks : ∀ feedback now₁ now₂,
    ∀ d ∈ (s.1.applyFeedback (TurnoutIndicator.watch LedPairOutput.set) feedback now₁ now₂
        (s.2, [])).2.2,
      d.currentMode ≠ .Blink
  writes : ∀ feedback now₁ now₂, ∃ levels : List Bool,
    (s.1.applyFeedback LedPairOutput.set feedback now₁ now₂ s.2).2.gpio.writes
        = s.2.gpio.writes ++ levels ∧
      levels.length ≤ 1 ∧ ∀ level ∈ levels, level = decide (feedback.position = .closed)
  commands : ∀ raw now₁ now₂,
    (react s ⟨.update raw, now₁, now₂⟩).2
      =
    if !(buttonAfter events).isPressed &&
        (buttonAfter (events ++ [⟨.update raw, now₁, now₂⟩])).isPressed then
      [⟨address, (lastReported address events).opposite⟩]
    else
      []
  silent : ∀ e, (∀ raw, e.event ≠ .update raw) → (react s e).2 = []

theorem react_silent (s : ToggleTurnoutStation × LedPairDriver) {e : Timed}
    (h : ∀ raw, e.event ≠ .update raw)
    : (react s e).2 = [] := by
  unfold react
  split
  . rfl
  . rfl
  . rfl
  . next raw heq => exact absurd heq (h raw)
  . rfl
  . rfl

namespace Serves

variable {address : Int} {button : Button} {position : TurnoutPosition} {mode : LedPairMode}
variable {s : ToggleTurnoutStation × LedPairDriver}

theorem applyFeedback_watch (h : Serves address button position mode s) (feedback : TurnoutFeedback)
    (now₁ now₂ : Millis)
    : (s.1.applyFeedback (TurnoutIndicator.watch LedPairOutput.set) feedback now₁ now₂ (s.2, [])).2.1
        =
      (s.1.applyFeedback LedPairOutput.set feedback now₁ now₂ s.2).2 := by
  by_cases heq : feedback.address = s.1.turnout.address
  . rw [applyFeedback_of_eq heq h.canThrow]
    rw [applyFeedback_of_eq heq h.canThrow]
    apply TurnoutIndicator.display_watch
  . rw [applyFeedback_of_ne heq]
    rw [applyFeedback_of_ne heq]

theorem applyFeedback_never_blinks (h : Serves address button position mode s)
    (feedback : TurnoutFeedback) (now₁ now₂ : Millis)
    : ∀ d ∈ (s.1.applyFeedback (TurnoutIndicator.watch LedPairOutput.set) feedback now₁ now₂
          (s.2, [])).2.2,
        d.currentMode ≠ .Blink := by
  by_cases heq : feedback.address = s.1.turnout.address
  . rw [applyFeedback_of_eq heq h.canThrow]
    apply TurnoutIndicator.display_never_blinks h.displays
  . rw [applyFeedback_of_ne heq]
    apply List.forall_mem_nil

theorem applyFeedback_writes (h : Serves address button position mode s) (feedback : TurnoutFeedback)
    (now₁ now₂ : Millis)
    : ∃ levels : List Bool,
        (s.1.applyFeedback LedPairOutput.set feedback now₁ now₂ s.2).2.gpio.writes
            = s.2.gpio.writes ++ levels ∧
          levels.length ≤ 1 ∧ ∀ level ∈ levels, level = decide (feedback.position = .closed) := by
  by_cases heq : feedback.address = s.1.turnout.address
  . rw [applyFeedback_of_eq heq h.canThrow]
    dsimp only
    rw [TurnoutIndicator.display_writes h.displays]
    refine ⟨_, rfl, ?_, ?_⟩
    . split
      . simp
      . simp
    . split
      . simp
      . simp
  . rw [applyFeedback_of_ne heq]
    exact ⟨[], by simp⟩

end Serves

theorem behaves_of_serves {address : Int} {events : List Timed}
    {s : ToggleTurnoutStation × LedPairDriver}
    (h : Serves address (buttonAfter events) (lastReported address events)
      ((lastShown? address events).getD .Blink) s)
    : Behaves address events s := by
  constructor
  . exact h.position
  . intro mode hmode
    rw [h.displays.currentMode, hmode]
    rfl
  . intro mode hmode hblink
    have := h.displays.lit
    rw [hmode] at this
    exact this hblink
  . exact h.applyFeedback_watch
  . exact h.applyFeedback_never_blinks
  . exact h.applyFeedback_writes
  . intro raw now₁ now₂
    rw [buttonAfter_concat]
    rw [← h.position, ← h.address, ← h.button]
    exact update_commands s.1 raw now₁ now₂
  . intro e
    apply react_silent s

/--
A station whose outputs share one pair of LEDs keeps, shows and commands what the last feedback for its
address, or the last clear, made of it.
-/
theorem run_behaves (address : Int) (name : List Char) (blinkIntervalMs : Millis)
    (defaultColor : LedPairColor) (now : Millis) (events : List Timed)
    : Behaves address events
        (run react (newStation address name blinkIntervalMs defaultColor now) events).1 := by
  apply behaves_of_serves
  apply run_serves

end ToggleTurnoutStation

end Maltbee
