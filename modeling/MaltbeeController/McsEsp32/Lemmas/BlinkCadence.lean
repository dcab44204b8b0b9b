import MaltbeeController.Lib.IntervalTimer
import MaltbeeController.McsEsp32.Impl.StatusLedDriver
import MaltbeeController.McsEsp32.Lemmas.IdentifyOverlay

/-!
This module contains the proof that the LEDs blink at their pace: calls that repeat what is already the
case, as the loop of a node makes them in every tick, neither hold the blinking up nor hasten it.
-/

open WrapClock IntervalTimer

namespace Maltbee

namespace LedPairDriver

-- A pair that identifies is not ticked, and its blinking is held up for that long.
def machine (blinkIntervalMs : Millis) : Machine 32 LedPairDriver LedPairCall LedPairMode where
  step d c now := c.apply d now
  mode := currentMode
  shown d := d.gpio.isSet
  stamp := lastToggleTime
  interval mode := if mode = .Blink then some blinkIntervalMs else none
  ticks d c := c = .update && !d.identifying
  restarts c := c = .begin

def Repeats (d : LedPairDriver) (c : LedPairCall) : Prop :=
  match c with
  | .setGreen active => active = d.greenRequested
  | .setRed active => active = d.redRequested
  | .setIdentifying active => active = d.identifying
  | .begin | .update => False

structure Reachable (blinkIntervalMs : Millis) (d : LedPairDriver) : Prop where
  coherent : Coherent d
  blinkIntervalMs : d.blinkIntervalMs = blinkIntervalMs

variable {d : LedPairDriver} {now : Millis}

theorem Coherent.settled (h : Coherent d) : d.nextMode = none ∨ d.nextMode = some d.currentMode := by
  cases hmode : d.nextMode with
  | none => simp
  | some mode =>
    right
    rw [h.currentMode mode hmode]

theorem apply_of_repeats (h : Coherent d) {c : LedPairCall} (hrepeats : Repeats d c)
    : c.apply d now = d := by
  have hsettled := applyState_of_settled d now h.settled
  cases c with
  | begin => contradiction
  | setGreen active =>
    cases (show active = d.greenRequested from hrepeats)
    exact hsettled
  | setRed active =>
    cases (show active = d.redRequested from hrepeats)
    exact hsettled
  | setIdentifying active => exact if_pos hrepeats
  | update => contradiction

theorem blinkIntervalMs_applyState (d : LedPairDriver) (now : Millis)
    : (d.applyState now).blinkIntervalMs = d.blinkIntervalMs := by
  rcases applyState_cases d now with ⟨_, heq⟩ | ⟨mode, _, _, heq⟩
  . rw [heq]
  . rw [heq]
    cases mode with
    | Green => rfl
    | Red => rfl
    | Blink => rfl

theorem blinkIntervalMs_setIdentifying (d : LedPairDriver) (active : Bool) (now : Millis)
    : (d.setIdentifying active now).blinkIntervalMs = d.blinkIntervalMs := by
  unfold setIdentifying
  split
  . rfl
  . dsimp only
    split
    . rfl
    . rfl

theorem blinkIntervalMs_update (d : LedPairDriver) (now : Millis)
    : (d.update now).blinkIntervalMs = d.blinkIntervalMs := by
  unfold update
  split
  . split
    . rfl
    . rfl
  . split
    . rfl
    . split
      . rfl
      . rfl

theorem blinkIntervalMs_apply (d : LedPairDriver) (c : LedPairCall) (now : Millis)
    : (c.apply d now).blinkIntervalMs = d.blinkIntervalMs := by
  cases c with
  | begin => rfl
  | setGreen active => exact blinkIntervalMs_applyState { d with greenRequested := active } now
  | setRed active => exact blinkIntervalMs_applyState { d with redRequested := active } now
  | setIdentifying active => exact blinkIntervalMs_setIdentifying d active now
  | update => exact blinkIntervalMs_update d now

theorem lastToggleTime_applyState (d : LedPairDriver) (now : Millis)
    (hblink : (d.applyState now).currentMode = .Blink)
    : (d.applyState now).lastToggleTime
        =
      if d.currentMode = .Blink then d.lastToggleTime else now := by
  rcases applyState_cases d now with ⟨_, heq⟩ | ⟨mode, _, hne, heq⟩
  . rw [heq] at hblink ⊢
    rw [if_pos hblink]
  . rw [heq, enterMode_currentMode] at hblink
    subst hblink
    rw [heq, if_neg hne.symm]
    rfl

theorem lastToggleTime_setIdentifying (d : LedPairDriver) (active : Bool) (now : Millis)
    : (d.setIdentifying active now).lastToggleTime = d.lastToggleTime := by
  unfold setIdentifying
  split
  . rfl
  . dsimp only
    split
    . rfl
    . rfl

theorem lastToggleTime_update_of_identifying (h : d.identifying = true) (now : Millis)
    : (d.update now).lastToggleTime = d.lastToggleTime := by
  unfold update
  rw [if_pos h]
  split
  . rfl
  . rfl

theorem update_of_steady (h : d.identifying = false) (hmode : d.currentMode ≠ .Blink) (now : Millis)
    : d.update now = d := by
  unfold update
  rw [h, if_neg Bool.false_ne_true, if_pos hmode]

theorem update_of_blinking (h : d.identifying = false) (hmode : d.currentMode = .Blink) (now : Millis)
    : d.update now
        =
      if now - d.lastToggleTime < d.blinkIntervalMs then
        d
      else
        {
          d with
          blinkShowingLastColor := !d.blinkShowingLastColor
          lastToggleTime := now
        }.writeColor d.currentColorToShow.opposite := by
  unfold update
  rw [h, if_neg Bool.false_ne_true, if_neg (not_not_intro hmode)]
  split
  . rfl
  . unfold currentColorToShow
    rw [hmode]
    cases d.blinkShowingLastColor <;> cases d.lastDisplayedColor <;> rfl

theorem isSet_eq (h : Coherent d) (hidentifying : d.identifying = false)
    : d.gpio.isSet = decide (d.currentColorToShow = .Green) := by
  have hshows := h.shows hidentifying
  unfold Shows at hshows
  unfold DigitalOutput.isSet
  rw [hshows]
  rfl

variable {blinkIntervalMs : Millis}

theorem machine_interval {mode : LedPairMode} {interval : Millis}
    (h : (machine blinkIntervalMs).interval mode = some interval)
    : mode = .Blink ∧ interval = blinkIntervalMs := by
  simpa [machine, eq_comm] using h

theorem machine_ticks {c : LedPairCall} (h : (machine blinkIntervalMs).ticks d c = true)
    : c = .update ∧ d.identifying = false := by
  simpa [machine] using h

theorem machine_early (h : Reachable blinkIntervalMs d) (hidentifying : d.identifying = false)
    (hblink : d.currentMode = .Blink) (hearly : now - d.lastToggleTime < blinkIntervalMs)
    : d.update now = d := by
  rw [update_of_blinking hidentifying hblink, h.blinkIntervalMs, if_pos hearly]

theorem machine_due (h : Reachable blinkIntervalMs d) (hidentifying : d.identifying = false)
    (hblink : d.currentMode = .Blink) (hdue : ¬now - d.lastToggleTime < blinkIntervalMs)
    : (d.update now).gpio.isSet ≠ d.gpio.isSet
        ∧
      (d.update now).currentMode = d.currentMode
        ∧
      (d.update now).lastToggleTime = now := by
  have hset := isSet_eq h.coherent hidentifying
  rw [update_of_blinking hidentifying hblink, h.blinkIntervalMs, if_neg hdue]
  refine ⟨?_, rfl, rfl⟩
  rw [hset]
  cases d.currentColorToShow with
  | Green => simp [writeColor, DigitalOutput.set, DigitalOutput.isSet, LedPairColor.opposite]
  | Red => simp [writeColor, DigitalOutput.set, DigitalOutput.isSet, LedPairColor.opposite]

theorem machine_enters {c : LedPairCall} {d' : LedPairDriver} (hbegin : c ≠ .begin)
    (hblink : d'.currentMode = .Blink)
    : (if (machine blinkIntervalMs).enters d c d' then now else d.lastToggleTime)
        =
      if d.currentMode = .Blink then d.lastToggleTime else now := by
  by_cases hmode : d.currentMode = .Blink
  . simp [Machine.enters, machine, hbegin, hblink, hmode]
  . simp [Machine.enters, machine, hbegin, hblink, hmode, Ne.symm hmode]

theorem machine_other {c : LedPairCall}
    (hother : (machine blinkIntervalMs).ticks d c = true →
      (machine blinkIntervalMs).interval d.currentMode = none)
    (hblink : (c.apply d now).currentMode = .Blink)
    : (c.apply d now).lastToggleTime
        =
      if (machine blinkIntervalMs).enters d c (c.apply d now) then now else d.lastToggleTime := by
  have hstill (hnormal : (c.apply d now).normal = d.normal) : d.currentMode = .Blink := by
    rw [← hblink]
    exact congrArg Normal.currentMode hnormal.symm
  cases c with
  | begin => rfl
  | setGreen active =>
    rw [machine_enters (by simp) hblink]
    exact lastToggleTime_applyState { d with greenRequested := active } now hblink
  | setRed active =>
    rw [machine_enters (by simp) hblink]
    exact lastToggleTime_applyState { d with redRequested := active } now hblink
  | setIdentifying active =>
    rw [machine_enters (by simp) hblink, if_pos (hstill (normal_setIdentifying d now active))]
    exact lastToggleTime_setIdentifying d active now
  | update =>
    have hmode := hstill (normal_update d now)
    rw [machine_enters (by simp) hblink, if_pos hmode]
    apply lastToggleTime_update_of_identifying
    by_contra hidentifying
    rw [Bool.not_eq_true] at hidentifying
    have := hother (by simp [machine, hidentifying])
    simp [machine, hmode] at this

theorem machine_lawful : (machine blinkIntervalMs).Lawful (Reachable blinkIntervalMs) := by
  constructor
  . intro d c now h
    constructor
    . exact h.coherent.apply c now
    . exact (blinkIntervalMs_apply d c now).trans h.blinkIntervalMs
  . intro d c now interval h htick hmode hearly
    rcases machine_ticks htick with ⟨rfl, hidentifying⟩
    rcases machine_interval hmode with ⟨hblink, rfl⟩
    exact machine_early h hidentifying hblink hearly
  . intro d c now interval h htick hmode hdue
    rcases machine_ticks htick with ⟨rfl, hidentifying⟩
    rcases machine_interval hmode with ⟨hblink, rfl⟩
    exact machine_due h hidentifying hblink hdue
  . intro d c now _ hother hmode
    rcases Option.ne_none_iff_exists'.mp hmode with ⟨interval, hinterval⟩
    exact machine_other hother (machine_interval hinterval).1
  . intro d c htick
    rw [(machine_ticks htick).1]
    rfl

theorem reachable_new (defaultColor : LedPairColor)
    : Reachable blinkIntervalMs (new blinkIntervalMs defaultColor now) := by
  constructor
  . apply coherent_new
  . rfl

end LedPairDriver

inductive StatusLedCall where
  | begin
  | setState (state : StatusLedState)
  | update
  deriving DecidableEq, Repr

namespace StatusLedDriver

def apply (d : StatusLedDriver) (c : StatusLedCall) (now : Millis) : StatusLedDriver :=
  match c with
  | .begin => d.begin now
  | .setState state => d.setState state now
  | .update => d.update now

def machine (slowBlinkIntervalMs fastBlinkIntervalMs : Millis)
    : Machine 32 StatusLedDriver StatusLedCall StatusLedState where
  step := apply
  mode := state
  shown d := d.gpio.isSet
  stamp := lastToggleTime
  interval state :=
    match state with
    | .SlowBlink => some slowBlinkIntervalMs
    | .FastBlink => some fastBlinkIntervalMs
    | .Off | .On => none
  ticks _ c := c = .update
  restarts c := c = .begin

def Repeats (d : StatusLedDriver) (c : StatusLedCall) : Prop :=
  c = .setState d.state

structure Reachable (slowBlinkIntervalMs fastBlinkIntervalMs : Millis) (d : StatusLedDriver)
    : Prop where
  slowBlinkIntervalMs : d.slowBlinkIntervalMs = slowBlinkIntervalMs
  fastBlinkIntervalMs : d.fastBlinkIntervalMs = fastBlinkIntervalMs
  shows : d.state = .SlowBlink ∨ d.state = .FastBlink → d.gpio.isSet = d.blinkShowingOn

variable {slowBlinkIntervalMs fastBlinkIntervalMs : Millis} {d : StatusLedDriver} {now : Millis}

theorem apply_of_repeats {c : StatusLedCall} (h : Repeats d c) : d.apply c now = d := by
  rw [show c = .setState d.state from h]
  exact if_pos rfl

theorem reachable_applyGpio (hslow : d.slowBlinkIntervalMs = slowBlinkIntervalMs)
    (hfast : d.fastBlinkIntervalMs = fastBlinkIntervalMs)
    : Reachable slowBlinkIntervalMs fastBlinkIntervalMs d.applyGpio := by
  unfold applyGpio
  cases hstate : d.state with
  | Off => exact ⟨hslow, hfast, by simp⟩
  | On => exact ⟨hslow, hfast, by simp⟩
  | SlowBlink => exact ⟨hslow, hfast, by simp [DigitalOutput.set, DigitalOutput.isSet]⟩
  | FastBlink => exact ⟨hslow, hfast, by simp [DigitalOutput.set, DigitalOutput.isSet]⟩

@[simp]
theorem applyGpio_state (d : StatusLedDriver) : d.applyGpio.state = d.state := by
  unfold applyGpio
  split <;> rfl

@[simp]
theorem applyGpio_lastToggleTime (d : StatusLedDriver)
    : d.applyGpio.lastToggleTime = d.lastToggleTime := by
  unfold applyGpio
  split <;> rfl

theorem update_of_steady {now : Millis} (hslow : d.state ≠ .SlowBlink) (hfast : d.state ≠ .FastBlink)
    : d.update now = d := by
  unfold update
  rw [if_pos ⟨hslow, hfast⟩]

theorem update_of_blinking {interval : Millis}
    (h : (machine d.slowBlinkIntervalMs d.fastBlinkIntervalMs).interval d.state = some interval)
    (now : Millis)
    : d.update now
        =
      if now - d.lastToggleTime < interval then
        d
      else
        { d with blinkShowingOn := !d.blinkShowingOn, lastToggleTime := now }.applyGpio := by
  unfold update
  cases hstate : d.state with
  | Off => simp [machine, hstate] at h
  | On => simp [machine, hstate] at h
  | SlowBlink =>
    simp only [machine, hstate, Option.some.injEq] at h
    simp [h]
  | FastBlink =>
    simp only [machine, hstate, Option.some.injEq] at h
    simp [h]

theorem machine_kept (h : Reachable slowBlinkIntervalMs fastBlinkIntervalMs d) (c : StatusLedCall)
    (now : Millis)
    : Reachable slowBlinkIntervalMs fastBlinkIntervalMs (d.apply c now) := by
  cases c with
  | begin => exact reachable_applyGpio h.slowBlinkIntervalMs h.fastBlinkIntervalMs
  | setState state =>
    dsimp only [apply, setState]
    split
    . exact h
    . exact reachable_applyGpio h.slowBlinkIntervalMs h.fastBlinkIntervalMs
  | update =>
    change Reachable _ _ (d.update now)
    unfold update
    split
    . exact h
    . dsimp only
      generalize (if d.state = .FastBlink then _ else _ : Millis) = interval
      split
      . exact h
      . exact reachable_applyGpio h.slowBlinkIntervalMs h.fastBlinkIntervalMs

theorem isSet_applyGpio (h : d.state = .SlowBlink ∨ d.state = .FastBlink)
    : d.applyGpio.gpio.isSet = d.blinkShowingOn := by
  unfold applyGpio
  rcases h with h | h
  . simp [h, DigitalOutput.set, DigitalOutput.isSet]
  . simp [h, DigitalOutput.set, DigitalOutput.isSet]

theorem blinks_of_interval {interval : Millis}
    (h : (machine slowBlinkIntervalMs fastBlinkIntervalMs).interval d.state = some interval)
    : d.state = .SlowBlink ∨ d.state = .FastBlink := by
  cases hstate : d.state with
  | Off => simp [machine, hstate] at h
  | On => simp [machine, hstate] at h
  | SlowBlink => simp
  | FastBlink => simp

theorem machine_due (h : Reachable slowBlinkIntervalMs fastBlinkIntervalMs d) {interval : Millis}
    (hmode : (machine slowBlinkIntervalMs fastBlinkIntervalMs).interval d.state = some interval)
    (hdue : ¬now - d.lastToggleTime < interval)
    : (d.update now).gpio.isSet ≠ d.gpio.isSet
        ∧
      (d.update now).state = d.state
        ∧
      (d.update now).lastToggleTime = now := by
  have hblinks := blinks_of_interval hmode
  rw [← h.slowBlinkIntervalMs, ← h.fastBlinkIntervalMs] at hmode
  rw [update_of_blinking hmode, if_neg hdue]
  refine ⟨?_, by simp, by simp⟩
  rw [h.shows hblinks, isSet_applyGpio]
  . simp
  . exact hblinks

theorem machine_other {c : StatusLedCall}
    (hother : (machine slowBlinkIntervalMs fastBlinkIntervalMs).ticks d c = true →
      (machine slowBlinkIntervalMs fastBlinkIntervalMs).interval d.state = none)
    : (d.apply c now).lastToggleTime
        =
      if (machine slowBlinkIntervalMs fastBlinkIntervalMs).enters d c (d.apply c now) then
        now
      else
        d.lastToggleTime := by
  cases c with
  | begin => simp [apply, begin, machine, Machine.enters]
  | setState state =>
    dsimp only [apply, setState]
    split
    . simp [machine, Machine.enters]
    . next hne => simp [machine, Machine.enters, hne]
  | update =>
    have hsteady := hother (by simp [machine])
    have hsame : d.apply .update now = d := by
      apply update_of_steady
      . intro hslow
        simp [machine, hslow] at hsteady
      . intro hfast
        simp [machine, hfast] at hsteady
    rw [hsame]
    simp [machine, Machine.enters]

theorem machine_lawful
    : (machine slowBlinkIntervalMs fastBlinkIntervalMs).Lawful
        (Reachable slowBlinkIntervalMs fastBlinkIntervalMs) := by
  have hticks (d : StatusLedDriver) (c : StatusLedCall)
      (htick : (machine slowBlinkIntervalMs fastBlinkIntervalMs).ticks d c = true)
      : c = .update := by
    simpa [machine] using htick
  constructor
  . intro d c now h
    exact machine_kept h c now
  . intro d c now interval h htick hmode hearly
    rw [hticks d c htick]
    rw [← h.slowBlinkIntervalMs, ← h.fastBlinkIntervalMs] at hmode
    apply (update_of_blinking hmode now).trans
    exact if_pos hearly
  . intro d c now interval h htick hmode hdue
    rw [hticks d c htick]
    exact machine_due h hmode hdue
  . intro d c now _ hother _
    exact machine_other hother
  . intro d c htick
    rw [hticks d c htick]
    rfl

theorem reachable_new
    : Reachable slowBlinkIntervalMs fastBlinkIntervalMs
        (new slowBlinkIntervalMs fastBlinkIntervalMs now) :=
  ⟨rfl, rfl, by simp [new, applyGpio]⟩

end StatusLedDriver

/-
What holds of a component that was started at time 0 and of every sequence of calls to it: calls that
repeat what is already the case leave no trace, and it blinks at its pace.
-/
structure KeepsCadence {σ : Type u} {κ : Type v} {μ : Type w} [DecidableEq μ] (m : Machine 32 σ κ μ)
    (start : Millis) (s : σ) (repeats : σ → κ → Prop) : Prop where
  padded : ∀ calls padded, m.Padded start repeats s calls padded →
    (m.after start s padded).1 = (m.after start s calls).1
  flips : ∀ calls c interval, Ordered (calls ++ [c]) →
    Ticked (2 ^ 31) (m.after start s (calls ++ [c])).2 →
      m.ticks (m.after start s calls).1 c.2 = true →
        m.interval (m.mode (m.after start s calls).1) = some interval →
          (m.shown (m.after start s (calls ++ [c])).1 ≠ m.shown (m.after start s calls).1
            ↔
          since (m.after start s calls).2 + interval.toNat ≤ c.1)

theorem KeepsCadence.of_lawful {σ : Type u} {κ : Type v} {μ : Type w} [DecidableEq μ]
    {m : Machine 32 σ κ μ} {P : σ → Prop} (hlawful : m.Lawful P) {s : σ} (hP : P s) {start : Millis}
    (hstamp : m.stamp s = reading start 0)
    (hhalf : ∀ mode, ∀ interval ∈ m.interval mode, interval.toNat < 2 ^ 31) {repeats : σ → κ → Prop}
    (hrepeats : ∀ s c now, P s → repeats s c → m.step s c now = s)
    : KeepsCadence m start s repeats := by
  constructor
  . intro calls padded h
    exact h.after_eq hlawful.kept hrepeats hP
  . intro calls c interval hordered hticked htick hinterval
    apply Machine.flips_iff hlawful hP hstamp _ hordered hticked htick hinterval
    intro mode interval hinterval
    have := hhalf mode interval hinterval
    omega

/--
The LED pair of a station and the LED of the network state blink at their pace, wherever the clock wraps
and however often what is to be shown is said again.
-/
theorem leds_keep_cadence (start blinkIntervalMs slowBlinkIntervalMs fastBlinkIntervalMs : Millis)
    (hblink : blinkIntervalMs.toNat < 2 ^ 31) (hslow : slowBlinkIntervalMs.toNat < 2 ^ 31)
    (hfast : fastBlinkIntervalMs.toNat < 2 ^ 31) (defaultColor : LedPairColor)
    : KeepsCadence (LedPairDriver.machine blinkIntervalMs) start
          (LedPairDriver.new blinkIntervalMs defaultColor (reading start 0)) LedPairDriver.Repeats
        ∧
      KeepsCadence (StatusLedDriver.machine slowBlinkIntervalMs fastBlinkIntervalMs) start
        (StatusLedDriver.new slowBlinkIntervalMs fastBlinkIntervalMs (reading start 0))
        StatusLedDriver.Repeats := by
  constructor
  . apply KeepsCadence.of_lawful LedPairDriver.machine_lawful
    . apply LedPairDriver.reachable_new
    . rfl
    . intro mode interval hinterval
      rw [(LedPairDriver.machine_interval hinterval).2]
      exact hblink
    . intro d c now h hrepeats
      exact LedPairDriver.apply_of_repeats h.coherent hrepeats
  . apply KeepsCadence.of_lawful StatusLedDriver.machine_lawful
    . apply StatusLedDriver.reachable_new
    . rfl
    . intro state interval hinterval
      cases state with
      | Off => contradiction
      | On => contradiction
      | SlowBlink =>
        cases hinterval
        exact hslow
      | FastBlink =>
        cases hinterval
        exact hfast
    . intro d c now _ hrepeats
      exact StatusLedDriver.apply_of_repeats hrepeats

def idling : List (Nat × LedPairCall) :=
  [(100, .setGreen false), (100, .setRed false), (100, .update), (400, .setRed false), (600, .update),
    (650, .setIdentifying false), (900, .update)]

theorem leds_keep_cadence_idling
    : let m := LedPairDriver.machine 500
      let s := LedPairDriver.new 500 .Green (reading 4294966896 0)
      m.shown (m.after 4294966896 s (idling ++ [(1100, .update)])).1
          ≠ m.shown (m.after 4294966896 s idling).1
        ↔
      since (m.after 4294966896 s idling).2 + 500 ≤ 1100 := by
  have h := (leds_keep_cadence 4294966896 500 1000 150 (by decide) (by decide) (by decide) .Green).1
  apply h.flips idling (1100, .update) 500
  . decide
  . decide +kernel
  . rfl
  . rfl

example
    : since ((LedPairDriver.machine 500).after 4294966896
        (LedPairDriver.new 500 .Green (reading 4294966896 0)) idling).2
        =
      600 := by
  decide +kernel

end Maltbee
