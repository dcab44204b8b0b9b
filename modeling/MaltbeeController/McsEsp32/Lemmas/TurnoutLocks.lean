import MaltbeeController.McsCore.Lemmas.TurnoutStation
import MaltbeeController.McsEsp32.Lemmas.IdentifyOverlay
import MaltbeeController.McsEsp32.Lemmas.IndependentLedPairDriver
import MaltbeeController.McsEsp32.Lemmas.ToggleTurnoutStation

/-!
This module contains the two copies of the confirmed position that a control looks after, the one in its
turnout and the one its indicator shows, while the turnout is locked, disabled and released again.
-/

open StepRun

namespace Maltbee

inductive TurnoutCall where
  | lock
  | unlock
  | disable
  | enable
  deriving DecidableEq, Repr

namespace TurnoutCall

def apply (c : TurnoutCall) (t : Turnout) : Turnout :=
  match c with
  | .lock => t.lock
  | .unlock => t.unlock
  | .disable => t.disable
  | .enable => t.enable

@[simp]
theorem position_apply (c : TurnoutCall) (t : Turnout) : (c.apply t).position = t.position := by
  cases c <;> rfl

@[simp]
theorem address_apply (c : TurnoutCall) (t : Turnout) : (c.apply t).address = t.address := by
  cases c <;> rfl

end TurnoutCall

inductive Notice where
  | reported (position : TurnoutPosition)
  | cleared
  | called (call : TurnoutCall)
  | other
  deriving DecidableEq, Repr

namespace Notice

def ofFeedback (address : Int) (feedback : TurnoutFeedback) : Notice :=
  if feedback.address = address then .reported feedback.position else .other

def isReport (n : Notice) : Bool :=
  match n with
  | .reported _ => true
  | _ => false

def isDisplayed (n : Notice) : Bool :=
  match n with
  | .reported _ | .cleared => true
  | _ => false

theorem isReport_of_isDisplayed {n : Notice} (h : n.isDisplayed = false) : n.isReport = false := by
  cases n with
  | reported => contradiction
  | cleared => contradiction
  | called => rfl
  | other => rfl

end Notice

-- The turnout of a control and the position its indicator shows, if there is one.
structure Copies where
  turnout : Turnout
  shown? : Option TurnoutPosition := none
  deriving DecidableEq, Repr

namespace Copies

def apply (c : Copies) (n : Notice) : Copies :=
  match n with
  | .reported position => ⟨c.turnout.confirm position, some position⟩
  | .cleared => { c with shown? := none }
  | .called call => { c with turnout := call.apply c.turnout }
  | .other => c

def after (c : Copies) (notices : List Notice) : Copies :=
  notices.foldl apply c

variable (c : Copies)

theorem after_append (notices more : List Notice)
    : c.after (notices ++ more) = (c.after notices).after more := by
  unfold after
  rw [List.foldl_append]

theorem address_after (notices : List Notice)
    : (c.after notices).turnout.address = c.turnout.address := by
  induction notices generalizing c with
  | nil => rfl
  | cons n notices ih =>
    apply (ih (c.apply n)).trans
    cases n with
    | reported position => simp [apply]
    | cleared => rfl
    | called call => simp [apply]
    | other => rfl

theorem position_apply_of_not_report {n : Notice} (h : n.isReport = false)
    : (c.apply n).turnout.position = c.turnout.position := by
  cases n with
  | reported position => contradiction
  | cleared => rfl
  | called call => simp [apply]
  | other => rfl

theorem position_after_of_no_report {notices : List Notice}
    (h : ∀ n ∈ notices, n.isReport = false)
    : (c.after notices).turnout.position = c.turnout.position := by
  induction notices generalizing c with
  | nil => rfl
  | cons n notices ih =>
    have hhead := position_apply_of_not_report c (h n List.mem_cons_self)
    have htail := ih (c.apply n) (fun n' hn' => h n' (List.mem_cons_of_mem _ hn'))
    exact htail.trans hhead

theorem shown?_after_of_none_displayed {notices : List Notice}
    (h : ∀ n ∈ notices, n.isDisplayed = false)
    : (c.after notices).shown? = c.shown? := by
  induction notices generalizing c with
  | nil => rfl
  | cons n notices ih =>
    have hhead : (c.apply n).shown? = c.shown? := by
      have := h n List.mem_cons_self
      cases n with
      | reported position => contradiction
      | cleared => contradiction
      | called call => rfl
      | other => rfl
    have htail := ih (c.apply n) (fun n' hn' => h n' (List.mem_cons_of_mem _ hn'))
    exact htail.trans hhead

theorem position_after_report (position : TurnoutPosition) {notices more : List Notice}
    (h : ∀ n ∈ more, n.isReport = false)
    : (c.after (notices ++ .reported position :: more)).turnout.position
        =
      if (c.after notices).turnout.canThrow then
        position
      else
        (c.after notices).turnout.position := by
  rw [after_append]
  apply (position_after_of_no_report _ h).trans
  apply Turnout.position_confirm

theorem shown?_after_report (position : TurnoutPosition) {notices more : List Notice}
    (h : ∀ n ∈ more, n.isDisplayed = false)
    : (c.after (notices ++ .reported position :: more)).shown? = some position := by
  rw [after_append]
  apply (shown?_after_of_none_displayed _ h).trans
  rfl

theorem position_after_of_guarded {notices : List Notice}
    (h : ∀ before n more, notices = before ++ n :: more → n.isReport →
      (c.after before).turnout.canThrow = false)
    : (c.after notices).turnout.position = c.turnout.position := by
  induction notices using List.reverseRecOn with
  | nil => rfl
  | append_singleton notices n ih =>
    have hbefore : (c.after notices).turnout.position = c.turnout.position := by
      apply ih
      intro before n' more heq
      apply h before n' (more ++ [n])
      simp [heq]
    rw [after_append]
    rw [← hbefore]
    cases n with
    | reported position =>
      apply (Turnout.position_confirm _ position).trans
      have hguarded := h notices (.reported position) [] rfl rfl
      rw [if_neg (by simp [hguarded])]
    | cleared => rfl
    | called call => apply TurnoutCall.position_apply
    | other => rfl

end Copies

section

variable {σ : Type u} {ι : Type v} (step : σ → ι → σ × List TurnoutCommand) (notice : ι → Notice)
variable (turnout : σ → Turnout) (Shows : σ → TurnoutPosition → Prop)

-- What becomes of the two copies over the runs from `s`, each of them split at the last report.
structure Confirms (s : σ) : Prop where
  shows : ∀ before e more position, notice e = .reported position →
    (∀ e' ∈ more, (notice e').isDisplayed = false) →
      Shows (run step s (before ++ e :: more)).1 position
  position : ∀ before e more position, notice e = .reported position →
    (∀ e' ∈ more, (notice e').isReport = false) →
      (turnout (run step s (before ++ e :: more)).1).position
        =
      if (turnout (run step s before).1).canThrow then
        position
      else
        (turnout (run step s before).1).position
  initial : ∀ events,
    (∀ before e more, events = before ++ e :: more → (notice e).isReport →
      (turnout (run step s before).1).canThrow = false) →
        (turnout (run step s events).1).position = (turnout s).position
  -- The copies are equal while something is shown, or one of them missed the last report.
  agree_iff : ∀ before e more position, notice e = .reported position →
    (∀ e' ∈ more, (notice e').isDisplayed = false) →
      ((turnout (run step s (before ++ e :: more)).1).position = position ↔
        (turnout (run step s before).1).canThrow
          ∨ (turnout (run step s before).1).position = position)

-- A way to see the two copies in the states of a control.
structure Tracking (Tracks : σ → Copies → Prop) : Prop where
  step : ∀ s c e, Tracks s c → Tracks (step s e).1 (c.apply (notice e))
  turnout : ∀ s c, Tracks s c → turnout s = c.turnout
  shows : ∀ s c position, Tracks s c → c.shown? = some position → Shows s position

variable {step notice turnout Shows} {Tracks : σ → Copies → Prop}

theorem Tracking.run (h : Tracking step notice turnout Shows Tracks) {s : σ} {c : Copies}
    (hinit : Tracks s c) (events : List ι)
    : Tracks (run step s events).1 (c.after (events.map notice)) := by
  apply run_induction step s (P := fun events s _ => Tracks s (c.after (events.map notice)))
  . exact hinit
  . intro events e s' _ _ ih
    rw [List.map_append, Copies.after_append]
    exact h.step _ _ e ih

theorem Tracking.turnout_run (h : Tracking step notice turnout Shows Tracks) {s : σ} {c : Copies}
    (hinit : Tracks s c) (events : List ι)
    : turnout (StepRun.run step s events).1 = (c.after (events.map notice)).turnout :=
  h.turnout _ _ (h.run hinit events)

theorem Tracking.position_run (h : Tracking step notice turnout Shows Tracks) {s : σ} {c : Copies}
    (hinit : Tracks s c) {before more : List ι} {e : ι} {position : TurnoutPosition}
    (hreport : notice e = .reported position) (hmore : ∀ e' ∈ more, (notice e').isReport = false)
    : (turnout (StepRun.run step s (before ++ e :: more)).1).position
        =
      if (turnout (StepRun.run step s before).1).canThrow then
        position
      else
        (turnout (StepRun.run step s before).1).position := by
  rw [h.turnout_run hinit, h.turnout_run hinit]
  rw [List.map_append, List.map_cons, hreport]
  apply Copies.position_after_report
  simpa using hmore

theorem Tracking.position_run_of_guarded (h : Tracking step notice turnout Shows Tracks) {s : σ}
    {c : Copies} (hinit : Tracks s c) {events : List ι}
    (hguarded : ∀ before e more, events = before ++ e :: more → (notice e).isReport →
      (turnout (StepRun.run step s before).1).canThrow = false)
    : (turnout (StepRun.run step s events).1).position = (turnout s).position := by
  rw [h.turnout_run hinit, h.turnout s c hinit]
  apply Copies.position_after_of_guarded
  intro before n more heq hreport
  rcases List.map_eq_append_iff.mp heq with ⟨before', rest, heq', hbefore, hrest⟩
  rcases List.map_eq_cons_iff.mp hrest with ⟨e, more', hcons, hn, _⟩
  rw [← hbefore, ← h.turnout_run hinit]
  apply hguarded before' e more'
  . rw [heq', hcons]
  . rw [hn]
    exact hreport

theorem Tracking.confirms (h : Tracking step notice turnout Shows Tracks) {s : σ} {c : Copies}
    (hinit : Tracks s c)
    : Confirms step notice turnout Shows s := by
  constructor
  . intro before e more position hreport hmore
    apply h.shows _ _ position (h.run hinit _)
    rw [List.map_append, List.map_cons, hreport]
    apply Copies.shown?_after_report
    simpa using hmore
  . intro before e more position hreport hmore
    exact h.position_run hinit hreport hmore
  . intro events hguarded
    exact h.position_run_of_guarded hinit hguarded
  . intro before e more position hreport hmore
    have hreports : ∀ e' ∈ more, (notice e').isReport = false :=
      fun e' he' => Notice.isReport_of_isDisplayed (hmore e' he')
    rw [h.position_run hinit hreport hreports]
    split
    . next hcan => simp [hcan]
    . next hcan => simp [hcan]

end

namespace TurnoutStation

inductive ControlEvent where
  | applyFeedback (feedback : TurnoutFeedback)
  | clearIndicator
  | update (throwRaw closeRaw : Bool) (now₁ now₂ now₃ now₄ : Millis)
  | turnout (call : TurnoutCall)
  deriving DecidableEq, Repr

def control (s : TurnoutStation) (e : ControlEvent) : TurnoutStation × List TurnoutCommand :=
  match e with
  | .applyFeedback feedback => (s.applyFeedback feedback, [])
  | .clearIndicator => (TurnoutIndicator.clear setLamp 0 0 s, [])
  | .update throwRaw closeRaw now₁ now₂ now₃ now₄ => s.update throwRaw closeRaw now₁ now₂ now₃ now₄
  | .turnout call => ({ s with turnout := call.apply s.turnout }, [])

def notice (address : Int) (e : ControlEvent) : Notice :=
  match e with
  | .applyFeedback feedback => .ofFeedback address feedback
  | .clearIndicator => .cleared
  | .update _ _ _ _ _ _ => .other
  | .turnout call => .called call

def Shows (s : TurnoutStation) (position : TurnoutPosition) : Prop :=
  s.thrownOutput = decide (position = .thrown) ∧ s.closedOutput = decide (position = .closed)

structure Tracks (address : Int) (s : TurnoutStation) (c : Copies) : Prop where
  address : s.turnout.address = address
  turnout : s.turnout = c.turnout
  shows : ∀ position, c.shown? = some position → s.Shows position

theorem control_tracks {address : Int} {s : TurnoutStation} {c : Copies} (h : Tracks address s c)
    (e : ControlEvent)
    : Tracks address (s.control e).1 (c.apply (notice address e)) := by
  cases e with
  | applyFeedback feedback =>
    unfold control notice Notice.ofFeedback
    dsimp only
    split
    . next heq =>
      rw [← h.address] at heq
      have hcopy : (s.applyFeedback feedback).turnout = c.turnout.confirm feedback.position := by
        rw [applyFeedback_of_eq s heq, ← h.turnout]
        rfl
      constructor
      . rw [address_applyFeedback]
        exact h.address
      . exact hcopy
      . intro position hposition
        rw [← Option.some.inj hposition]
        rw [applyFeedback_of_eq s heq]
        exact ⟨rfl, rfl⟩
    . next hne =>
      rw [← h.address] at hne
      rw [applyFeedback_of_ne s hne]
      exact h
  | clearIndicator =>
    constructor
    . exact h.address
    . exact h.turnout
    . intro position hposition
      contradiction
  | update throwRaw closeRaw now₁ now₂ now₃ now₄ => exact ⟨h.address, h.turnout, h.shows⟩
  | turnout call =>
    constructor
    . exact (TurnoutCall.address_apply call s.turnout).trans h.address
    . exact congrArg call.apply h.turnout
    . exact h.shows

theorem tracking (address : Int)
    : Tracking control (notice address) turnout Shows (Tracks address) where
  step _ _ e h := control_tracks h e
  turnout _ _ h := h.turnout
  shows _ _ position h := h.shows position

theorem control_confirms (s : TurnoutStation)
    : Confirms control (notice s.turnout.address) turnout Shows s := by
  have hinit : Tracks s.turnout.address s ⟨s.turnout, none⟩ := ⟨rfl, rfl, by simp⟩
  exact (tracking s.turnout.address).confirms hinit

end TurnoutStation

namespace LedPairDriver

-- The LED for `position` is the one that is due, and lit unless the pair is identifying.
def ShowsPosition (d : LedPairDriver) (position : TurnoutPosition) : Prop :=
  d.currentMode = modeOf position ∧
    (d.identifying = false → d.gpio.isSet = decide (position = .closed))

theorem Coherent.showsPosition {d : LedPairDriver} (h : Coherent d) {position : TurnoutPosition}
    (hmode : d.currentMode = modeOf position)
    : d.ShowsPosition position := by
  refine ⟨hmode, ?_⟩
  intro hidentifying
  have hshows := h.shows hidentifying
  unfold Shows currentColorToShow at hshows
  unfold DigitalOutput.isSet
  rw [hshows, hmode]
  cases position with
  | closed => rfl
  | thrown => rfl

theorem currentMode_display (d : LedPairDriver) (position : TurnoutPosition) (now₁ now₂ : Millis)
    : (TurnoutIndicator.display LedPairOutput.set position now₁ now₂ d).currentMode
        =
      modeOf position := by
  cases position with
  | closed =>
    apply (applyState_currentMode { d.setGreen true now₁ with redRequested := false } now₂).trans
    simp [nextMode, setGreen, modeOf]
  | thrown =>
    apply (applyState_currentMode { d.setRed true now₁ with greenRequested := false } now₂).trans
    simp [nextMode, setRed, modeOf]

theorem Coherent.display {d : LedPairDriver} (h : Coherent d) (position : TurnoutPosition)
    (now₁ now₂ : Millis)
    : Coherent (TurnoutIndicator.display LedPairOutput.set position now₁ now₂ d) := by
  cases position with
  | closed => exact (h.apply (.setGreen true) now₁).apply (.setRed false) now₂
  | thrown => exact (h.apply (.setRed true) now₁).apply (.setGreen false) now₂

theorem Coherent.clear {d : LedPairDriver} (h : Coherent d) (now₁ now₂ : Millis)
    : Coherent (TurnoutIndicator.clear LedPairOutput.set now₁ now₂ d) :=
  (h.apply (.setRed false) now₁).apply (.setGreen false) now₂

end LedPairDriver

namespace IndependentLedPairDriver

def ShowsPosition (d : IndependentLedPairDriver) (position : TurnoutPosition) : Prop :=
  d.currentMode = LedPairDriver.modeOf position ∧
    (d.identifying = false →
      d.greenGpio.isSet = decide (position = .closed) ∧
        d.redGpio.isSet = decide (position = .thrown))

theorem showsPosition_ofShared {d : LedPairDriver} (h : LedPairDriver.Coherent d)
    {position : TurnoutPosition} (hshows : d.ShowsPosition position)
    : (ofShared d).ShowsPosition position := by
  refine ⟨hshows.1, ?_⟩
  intro hidentifying
  have hwrites : d.gpio.writes ≠ [] := by
    intro hnil
    have := h.shows hidentifying
    simp [LedPairDriver.Shows, hnil] at this
  have hlit := ofShared_litAs hwrites
  rw [hlit.green, hlit.red]
  rw [hshows.2 hidentifying]
  cases position with
  | closed => exact ⟨rfl, rfl⟩
  | thrown => exact ⟨rfl, rfl⟩

theorem set_ofShared (lamp : Lamp) (active : Bool) (now : Millis) (d : LedPairDriver)
    : LedPairOutput.set lamp active now (ofShared d)
        =
      ofShared (LedPairOutput.set lamp active now d) := by
  cases lamp with
  | thrown => apply setRed_ofShared
  | closed => apply setGreen_ofShared

theorem clear_ofShared (now₁ now₂ : Millis) (d : LedPairDriver)
    : TurnoutIndicator.clear LedPairOutput.set now₁ now₂ (ofShared d)
        =
      ofShared (TurnoutIndicator.clear LedPairOutput.set now₁ now₂ d) := by
  unfold TurnoutIndicator.clear
  rw [set_ofShared, set_ofShared]

theorem display_ofShared (position : TurnoutPosition) (now₁ now₂ : Millis) (d : LedPairDriver)
    : TurnoutIndicator.display LedPairOutput.set position now₁ now₂ (ofShared d)
        =
      ofShared (TurnoutIndicator.display LedPairOutput.set position now₁ now₂ d) := by
  unfold TurnoutIndicator.display
  split
  . rw [set_ofShared, set_ofShared]
  . rw [set_ofShared, set_ofShared]

end IndependentLedPairDriver

namespace ToggleTurnoutStation

inductive ControlEvent where
  | applyFeedback (feedback : TurnoutFeedback) (now₁ now₂ : Millis)
  | clearIndicator (now₁ now₂ : Millis)
  | update (raw : Bool) (now₁ now₂ : Millis)
  | turnout (call : TurnoutCall)
  | beginLeds (now : Millis)
  | identifyLeds (active : Bool) (now : Millis)
  | updateLeds (now : Millis)
  deriving DecidableEq, Repr

def control {δ : Type u} [LedPairStation δ] (s : ToggleTurnoutStation × δ) (e : ControlEvent)
    : (ToggleTurnoutStation × δ) × List TurnoutCommand :=
  match e with
  | .applyFeedback feedback now₁ now₂ =>
    (s.1.applyFeedback LedPairOutput.set feedback now₁ now₂ s.2, [])
  | .clearIndicator now₁ now₂ => ((s.1, clearIndicator LedPairOutput.set now₁ now₂ s.2), [])
  | .update raw now₁ now₂ =>
    let res := s.1.update raw now₁ now₂
    ((res.1, s.2), res.2)
  | .turnout call => (({ s.1 with turnout := call.apply s.1.turnout }, s.2), [])
  | .beginLeds now => ((s.1, LedPairStation.begin s.2 now), [])
  | .identifyLeds active now => ((s.1, LedPairStation.setIdentifying s.2 active now), [])
  | .updateLeds now => ((s.1, LedPairStation.update s.2 now), [])

def notice (address : Int) (e : ControlEvent) : Notice :=
  match e with
  | .applyFeedback feedback _ _ => .ofFeedback address feedback
  | .clearIndicator _ _ => .cleared
  | .turnout call => .called call
  | _ => .other

def presses (s : ToggleTurnoutStation) (e : ControlEvent) : Bool :=
  match e with
  | .update raw now₁ now₂ => !s.button.isPressed && (s.button.update raw now₁ now₂).isPressed
  | _ => false

theorem control_commands {δ : Type u} [LedPairStation δ] (s : ToggleTurnoutStation × δ)
    (e : ControlEvent)
    : (control s e).2
        =
      if s.1.presses e then [⟨s.1.turnout.address, s.1.turnout.position.opposite⟩] else [] := by
  cases e with
  | update raw now₁ now₂ => exact update_commands s.1 raw now₁ now₂
  | applyFeedback => rfl
  | clearIndicator => rfl
  | turnout => rfl
  | beginLeds => rfl
  | identifyLeds => rfl
  | updateLeds => rfl

open LedPairDriver

structure Tracks (address : Int) (s : ToggleTurnoutStation × LedPairDriver) (c : Copies) : Prop where
  address : s.1.turnout.address = address
  turnout : s.1.turnout = c.turnout
  currentMode : ∀ position, c.shown? = some position → s.2.currentMode = modeOf position
  coherent : Coherent s.2

theorem control_tracks {address : Int} {s : ToggleTurnoutStation × LedPairDriver} {c : Copies}
    (h : Tracks address s c) (e : ControlEvent)
    : Tracks address (control s e).1 (c.apply (notice address e)) := by
  cases e with
  | applyFeedback feedback now₁ now₂ =>
    unfold control notice Notice.ofFeedback
    dsimp only
    split
    . next heq =>
      rw [← h.address] at heq
      rw [applyFeedback_of_match heq]
      constructor
      . exact (Turnout.address_confirm _ _).trans h.address
      . exact congrArg (Turnout.confirm · feedback.position) h.turnout
      . intro position hposition
        rw [← Option.some.inj hposition]
        apply currentMode_display
      . exact h.coherent.display feedback.position now₁ now₂
    . next hne =>
      rw [← h.address] at hne
      rw [applyFeedback_of_ne hne]
      exact h
  | clearIndicator now₁ now₂ =>
    constructor
    . exact h.address
    . exact h.turnout
    . intro position hposition
      contradiction
    . exact h.coherent.clear now₁ now₂
  | update raw now₁ now₂ => exact ⟨h.address, h.turnout, h.currentMode, h.coherent⟩
  | turnout call =>
    constructor
    . exact (TurnoutCall.address_apply call s.1.turnout).trans h.address
    . exact congrArg call.apply h.turnout
    . exact h.currentMode
    . exact h.coherent
  | beginLeds now =>
    exact ⟨h.address, h.turnout, h.currentMode, h.coherent.apply .begin now⟩
  | identifyLeds active now =>
    have hmode : (s.2.setIdentifying active now).currentMode = s.2.currentMode :=
      congrArg Normal.currentMode (normal_setIdentifying s.2 now active)
    constructor
    . exact h.address
    . exact h.turnout
    . intro position hposition
      exact hmode.trans (h.currentMode position hposition)
    . exact h.coherent.setIdentifying active now
  | updateLeds now =>
    have hmode : (s.2.update now).currentMode = s.2.currentMode :=
      congrArg Normal.currentMode (normal_update s.2 now)
    constructor
    . exact h.address
    . exact h.turnout
    . intro position hposition
      exact hmode.trans (h.currentMode position hposition)
    . exact h.coherent.update now

theorem control_ofShared (s : ToggleTurnoutStation × LedPairDriver) (e : ControlEvent)
    : control (s.1, IndependentLedPairDriver.ofShared s.2) e
        =
      (
        ((control s e).1.1, IndependentLedPairDriver.ofShared (control s e).1.2),
        (control s e).2
      ) := by
  cases e with
  | applyFeedback feedback now₁ now₂ =>
    unfold control
    dsimp only
    by_cases heq : feedback.address = s.1.turnout.address
    . rw [applyFeedback_of_match heq, applyFeedback_of_match heq]
      rw [IndependentLedPairDriver.display_ofShared]
    . rw [applyFeedback_of_ne heq, applyFeedback_of_ne heq]
  | clearIndicator now₁ now₂ =>
    unfold control clearIndicator
    dsimp only
    rw [IndependentLedPairDriver.clear_ofShared]
  | update raw now₁ now₂ => rfl
  | turnout call => rfl
  | beginLeds now =>
    unfold control
    dsimp only
    exact congrArg (fun d => ((s.1, d), [])) (IndependentLedPairDriver.begin_ofShared s.2 now)
  | identifyLeds active now =>
    exact congrArg (fun d => ((s.1, d), []))
      (IndependentLedPairDriver.setIdentifying_ofShared s.2 now active)
  | updateLeds now =>
    exact congrArg (fun d => ((s.1, d), [])) (IndependentLedPairDriver.update_ofShared s.2 now)

structure Toggles {δ : Type u} [LedPairStation δ] (Shows : δ → TurnoutPosition → Prop)
    (s : ToggleTurnoutStation × δ) : Prop where
  confirms : Confirms control (notice s.1.turnout.address) (·.1.turnout) (fun s => Shows s.2) s
  commands : ∀ events e,
    (control (run control s events).1 e).2
      =
    if (run control s events).1.1.presses e then
      [⟨s.1.turnout.address, (run control s events).1.1.turnout.position.opposite⟩]
    else
      []
  opposes_iff : ∀ before e more position press,
    notice s.1.turnout.address e = .reported position →
    (∀ e' ∈ more, (notice s.1.turnout.address e').isDisplayed = false) →
    (run control s (before ++ e :: more)).1.1.presses press →
      ((control (run control s (before ++ e :: more)).1 press).2
          = [⟨s.1.turnout.address, position.opposite⟩] ↔
        (run control s before).1.1.turnout.canThrow
          ∨ (run control s before).1.1.turnout.position = position)

theorem opposite_inj {position position' : TurnoutPosition}
    : position.opposite = position'.opposite ↔ position = position' := by
  cases position <;> cases position' <;> decide

section

variable {δ : Type u} [LedPairStation δ] {Shows : δ → TurnoutPosition → Prop}
variable {s : ToggleTurnoutStation × δ} {T : ToggleTurnoutStation × δ → Copies → Prop}

theorem toggles_of_tracking
    (h : Tracking control (notice s.1.turnout.address) (·.1.turnout) (fun s => Shows s.2) T)
    (hinit : T s ⟨s.1.turnout, none⟩)
    : Toggles Shows s := by
  have hconfirms := h.confirms hinit
  have hcommands : ∀ events e,
      (control (run control s events).1 e).2
        =
      if (run control s events).1.1.presses e then
        [⟨s.1.turnout.address, (run control s events).1.1.turnout.position.opposite⟩]
      else
        [] := by
    intro events e
    have haddress : (run control s events).1.1.turnout.address = s.1.turnout.address := by
      rw [h.turnout_run hinit]
      apply Copies.address_after
    rw [control_commands, haddress]
  refine ⟨hconfirms, hcommands, ?_⟩
  intro before e more position press hreport hmore hpress
  rw [hcommands, if_pos hpress]
  rw [← hconfirms.agree_iff before e more position hreport hmore]
  rw [List.cons.injEq, TurnoutCommand.mk.injEq, opposite_inj]
  simp

end

theorem control_toggles (s : ToggleTurnoutStation) (blinkIntervalMs : Millis)
    (defaultColor : LedPairColor) (now : Millis)
    : Toggles LedPairDriver.ShowsPosition (s, .new blinkIntervalMs defaultColor now) := by
  apply toggles_of_tracking (T := Tracks s.turnout.address)
  . constructor
    . intro _ _ e h
      exact control_tracks h e
    . intro _ _ h
      exact h.turnout
    . intro _ _ position h hposition
      exact h.coherent.showsPosition (h.currentMode position hposition)
  . exact ⟨rfl, rfl, by simp, coherent_new now blinkIntervalMs defaultColor⟩

theorem control_toggles_independent (s : ToggleTurnoutStation) (blinkIntervalMs : Millis)
    (defaultColor : LedPairColor) (now : Millis)
    : Toggles IndependentLedPairDriver.ShowsPosition (s, .new blinkIntervalMs defaultColor now) := by
  apply toggles_of_tracking (T := fun s' c =>
    ∃ d, s'.2 = IndependentLedPairDriver.ofShared d ∧ Tracks s.turnout.address (s'.1, d) c)
  . constructor
    . rintro ⟨s', _⟩ c e ⟨d, rfl, h⟩
      refine ⟨(control (s', d) e).1.2, ?_, ?_⟩
      . rw [control_ofShared (s', d) e]
      . rw [control_ofShared (s', d) e]
        exact control_tracks h e
    . rintro s' c ⟨d, _, h⟩
      exact h.turnout
    . rintro s' c position ⟨d, heq, h⟩ hposition
      rw [heq]
      apply IndependentLedPairDriver.showsPosition_ofShared h.coherent
      exact h.coherent.showsPosition (h.currentMode position hposition)
  . refine ⟨.new blinkIntervalMs defaultColor now, ?_, ?_⟩
    . apply IndependentLedPairDriver.new_ofShared
    . exact ⟨rfl, rfl, by simp, coherent_new now blinkIntervalMs defaultColor⟩

end ToggleTurnoutStation

/--
However locks, reports, presses and clears interleave: the indicator of a control shows the last report,
and the turnout has the position of the last report that came while it was neither locked nor disabled.
The two agree exactly if the last report was one of these or said nothing new. A toggle press always
commands the opposite of the position the turnout has.
-/
theorem controls_confirm
    : (∀ s : TurnoutStation,
        Confirms TurnoutStation.control (TurnoutStation.notice s.turnout.address)
          TurnoutStation.turnout TurnoutStation.Shows s) ∧
      (∀ (s : ToggleTurnoutStation) blinkIntervalMs defaultColor now,
        ToggleTurnoutStation.Toggles LedPairDriver.ShowsPosition
          (s, .new blinkIntervalMs defaultColor now)) ∧
      (∀ (s : ToggleTurnoutStation) blinkIntervalMs defaultColor now,
        ToggleTurnoutStation.Toggles IndependentLedPairDriver.ShowsPosition
          (s, .new blinkIntervalMs defaultColor now)) :=
  ⟨
    TurnoutStation.control_confirms,
    ToggleTurnoutStation.control_toggles,
    ToggleTurnoutStation.control_toggles_independent
  ⟩

open ToggleTurnoutStation in
/--
A turnout is locked while it is closed, and reported thrown: the LEDs show thrown, the turnout says
closed, and the next press commands thrown once more.
-/
theorem locked_turnout_disagrees
    : let s : ToggleTurnoutStation × LedPairDriver :=
        (.new 101 "Turnout 1".toList, .new 500 .Green 0)
      let events := [.turnout .lock, .applyFeedback ⟨101, .thrown⟩ 10 10]
      let s' := (run control s events).1
      s'.2.ShowsPosition .thrown ∧ s'.1.turnout.position = .closed ∧
        (run control s' [.update true 20 20, .update true 60 60]).2 = [⟨101, .thrown⟩] := by
  refine ⟨⟨rfl, ?_⟩, rfl, rfl⟩
  intro _
  rfl

end Maltbee
