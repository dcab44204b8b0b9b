import MaltbeeController.McsEsp32.Lemmas.LedPairDriver

/-!
This module contains the proof that identifying is an overlay: it comes and goes without a trace in what a
driver of an LED pair was asked to show, and what it leaves on the GPIO is what is due without it.
-/

namespace Maltbee

namespace LedPairDriver

structure Normal where
  currentMode : LedPairMode
  greenRequested : Bool
  redRequested : Bool
  lastDisplayedColor : LedPairColor
  deriving DecidableEq, Repr

def normal (d : LedPairDriver) : Normal where
  currentMode := d.currentMode
  greenRequested := d.greenRequested
  redRequested := d.redRequested
  lastDisplayedColor := d.lastDisplayedColor

def Shows (d : LedPairDriver) (color : LedPairColor) : Prop :=
  d.gpio.writes.getLast? = some (decide (color = .Green))

instance (d : LedPairDriver) (color : LedPairColor) : Decidable (d.Shows color) :=
  inferInstanceAs (Decidable (_ = _))

variable (d : LedPairDriver) (now : Millis)

@[simp]
theorem shows_writeColor (color : LedPairColor) : (d.writeColor color).Shows color := by
  simp [Shows]

theorem shows_enterMode (mode : LedPairMode)
    : (d.enterMode mode now).Shows (d.enterMode mode now).currentColorToShow := by
  cases mode with
  | Green => apply shows_writeColor
  | Red => apply shows_writeColor
  | Blink => apply shows_writeColor

theorem nextMode_congr {d d' : LedPairDriver} (h : d.normal = d'.normal) : d.nextMode = d'.nextMode := by
  have hgreen := congrArg Normal.greenRequested h
  have hred := congrArg Normal.redRequested h
  dsimp only [normal] at hgreen hred
  unfold nextMode
  rw [hgreen, hred]

theorem normal_enterMode {d d' : LedPairDriver} (h : d.normal = d'.normal) (mode : LedPairMode)
    (now now' : Millis)
    : (d.enterMode mode now).normal = (d'.enterMode mode now').normal := by
  simp only [normal, Normal.mk.injEq] at h
  cases mode with
  | Green => simp [enterMode, writeColor, normal, h]
  | Red => simp [enterMode, writeColor, normal, h]
  | Blink => simp [enterMode, writeColor, normal, h]

theorem normal_applyState {d d' : LedPairDriver} (h : d.normal = d'.normal) (now now' : Millis)
    : (d.applyState now).normal = (d'.applyState now').normal := by
  have hmode : d.currentMode = d'.currentMode := congrArg Normal.currentMode h
  unfold applyState
  rw [nextMode_congr h]
  cases d'.nextMode with
  | none => exact h
  | some mode =>
    dsimp only
    rw [hmode]
    split
    . exact h
    . exact normal_enterMode h mode now now'

@[simp]
theorem normal_setIdentifying (active : Bool) : (d.setIdentifying active now).normal = d.normal := by
  unfold setIdentifying
  split
  . rfl
  . dsimp only
    split
    . rfl
    . rfl

@[simp]
theorem normal_update : (d.update now).normal = d.normal := by
  unfold update
  split
  . split
    . rfl
    . rfl
  . split
    . rfl
    . split
      . rfl
      . rfl

theorem normal_apply {d d' : LedPairDriver} (h : d.normal = d'.normal) (c : LedPairCall)
    (now now' : Millis)
    : (c.apply d now).normal = (c.apply d' now').normal := by
  cases c with
  | begin => exact h
  | setGreen active =>
    apply normal_applyState
    simp only [normal, Normal.mk.injEq] at h
    simp [normal, h]
  | setRed active =>
    apply normal_applyState
    simp only [normal, Normal.mk.injEq] at h
    simp [normal, h]
  | setIdentifying active =>
    apply (normal_setIdentifying d now active).trans
    exact h.trans (normal_setIdentifying d' now' active).symm
  | update =>
    apply (normal_update d now).trans
    exact h.trans (normal_update d' now').symm

-- What holds of a driver whatever it has been told: its mode is the one it was last asked for, and without
-- the overlay its GPIO shows what is due.
structure Coherent (d : LedPairDriver) : Prop where
  currentMode : ∀ mode ∈ d.nextMode, d.currentMode = mode
  shows : d.identifying = false → d.Shows d.currentColorToShow

theorem coherent_new (blinkIntervalMs : Millis) (defaultColor : LedPairColor)
    : Coherent (new blinkIntervalMs defaultColor now) := by
  constructor
  . simp [new, writeColor, nextMode]
  . intro _
    apply shows_writeColor

theorem coherent_applyState {d : LedPairDriver} (h : d.identifying = false → d.Shows d.currentColorToShow)
    (now : Millis)
    : Coherent (d.applyState now) := by
  rcases applyState_cases d now with ⟨hmode, heq⟩ | ⟨mode, hmode, _, heq⟩
  . rw [heq]
    refine ⟨?_, h⟩
    intro mode hnext
    rcases hmode with hmode | hmode
    . rw [hmode] at hnext
      contradiction
    . rw [hmode, Option.mem_some_iff] at hnext
      exact hnext
  . rw [heq]
    constructor
    . intro mode' hnext
      rw [nextMode_enterMode, hmode, Option.mem_some_iff] at hnext
      rw [enterMode_currentMode]
      exact hnext
    . intro _
      apply shows_enterMode

variable {d}

theorem Coherent.of_normal (h : Coherent d) {d' : LedPairDriver} (hnormal : d'.normal = d.normal)
    (hshows : d'.identifying = false → d'.Shows d'.currentColorToShow)
    : Coherent d' := by
  refine ⟨?_, hshows⟩
  intro mode hmode
  rw [nextMode_congr hnormal] at hmode
  rw [← h.currentMode mode hmode]
  exact congrArg Normal.currentMode hnormal

theorem Coherent.setIdentifying (h : Coherent d) (active : Bool) (now : Millis)
    : Coherent (d.setIdentifying active now) := by
  apply h.of_normal
  . apply normal_setIdentifying
  . unfold LedPairDriver.setIdentifying
    split
    . exact h.shows
    . next hne =>
      dsimp only
      cases active with
      | true => simp [writeColor]
      | false =>
        intro _
        apply shows_writeColor

theorem Coherent.update (h : Coherent d) (now : Millis) : Coherent (d.update now) := by
  apply h.of_normal
  . apply normal_update
  . unfold LedPairDriver.update
    split
    . next hidentifying =>
      split
      . simp [writeColor, hidentifying]
      . simp [hidentifying]
    . split
      . exact h.shows
      . next hblink =>
        rw [ne_eq, Decidable.not_not] at hblink
        split
        . exact h.shows
        . intro _
          simp [Shows, writeColor, currentColorToShow, hblink, DigitalOutput.set]

theorem Coherent.apply (h : Coherent d) (c : LedPairCall) (now : Millis)
    : Coherent (c.apply d now) := by
  cases c with
  | begin =>
    apply h.of_normal
    . rfl
    . intro _
      apply shows_writeColor
  | setGreen active => exact coherent_applyState (d := { d with greenRequested := active }) h.shows now
  | setRed active => exact coherent_applyState (d := { d with redRequested := active }) h.shows now
  | setIdentifying active => exact h.setIdentifying active now
  | update => exact h.update now

abbrev driven (blinkIntervalMs : Millis) (defaultColor : LedPairColor) (now : Millis)
    (calls : List (LedPairCall × Millis))
    : LedPairDriver :=
  LedPairCall.drive blinkIntervalMs defaultColor now calls

variable (blinkIntervalMs : Millis) (defaultColor : LedPairColor)

theorem driven_concat (calls : List (LedPairCall × Millis)) (c : LedPairCall × Millis)
    : driven blinkIntervalMs defaultColor now (calls ++ [c])
        =
      c.1.apply (driven blinkIntervalMs defaultColor now calls) c.2 := by
  apply LedPairCall.drive_concat

theorem driven_coherent (calls : List (LedPairCall × Millis))
    : Coherent (driven blinkIntervalMs defaultColor now calls) := by
  induction calls using List.reverseRecOn with
  | nil => apply coherent_new
  | append_singleton calls c ih =>
    rw [driven_concat]
    exact ih.apply c.1 c.2

def identifies (c : LedPairCall × Millis) : Bool :=
  c.1 matches .setIdentifying _

theorem normal_driven_erase (calls : List (LedPairCall × Millis))
    : (driven blinkIntervalMs defaultColor now calls).normal
        =
      (driven blinkIntervalMs defaultColor now (calls.filter (!identifies ·))).normal := by
  induction calls using List.reverseRecOn with
  | nil => rfl
  | append_singleton calls c ih =>
    rw [List.filter_append, driven_concat]
    rcases c with ⟨c, t⟩
    cases hc : identifies (c, t) with
    | true =>
      cases c with
      | setIdentifying active =>
        rw [List.filter_cons_of_neg (by simp [hc]), List.filter_nil, List.append_nil]
        exact (normal_setIdentifying _ t active).trans ih
      | _ => simp [identifies] at hc
    | false =>
      rw [List.filter_cons_of_pos (by simp [hc]), List.filter_nil, driven_concat]
      exact normal_apply ih c t t

theorem currentMode_apply_of_both (d : LedPairDriver) (c : LedPairCall) (now : Millis)
    (hgreen : (c.apply d now).greenRequested = true) (hred : (c.apply d now).redRequested = true)
    : (c.apply d now).currentMode = d.currentMode := by
  have hnext (d : LedPairDriver) (hgreen : (d.applyState now).greenRequested = true)
      (hred : (d.applyState now).redRequested = true)
      : (d.applyState now).currentMode = d.currentMode := by
    rw [applyState_greenRequested] at hgreen
    rw [applyState_redRequested] at hred
    rw [applyState_currentMode]
    simp [nextMode, hgreen, hred]
  cases c with
  | begin => rfl
  | setGreen active => exact hnext { d with greenRequested := active } hgreen hred
  | setRed active => exact hnext { d with redRequested := active } hgreen hred
  | setIdentifying active => exact congrArg Normal.currentMode (normal_setIdentifying d now active)
  | update => exact congrArg Normal.currentMode (normal_update d now)

-- The part of a driver that nothing but identifying changes.
structure Flash where
  identifying : Bool
  identifyShowingGreen : Bool
  identifyLastToggleMs : Millis
  deriving DecidableEq, Repr

def flash (d : LedPairDriver) : Flash where
  identifying := d.identifying
  identifyShowingGreen := d.identifyShowingGreen
  identifyLastToggleMs := d.identifyLastToggleMs

namespace Flash

def color (f : Flash) : LedPairColor :=
  if f.identifyShowingGreen then .Green else .Red

def toggled (f : Flash) (now : Millis) : Flash where
  identifying := f.identifying
  identifyShowingGreen := !f.identifyShowingGreen
  identifyLastToggleMs := now

end Flash

@[simp]
theorem flash_writeColor (d : LedPairDriver) (color : LedPairColor)
    : (d.writeColor color).flash = d.flash := by
  rfl

@[simp]
theorem flash_applyState (d : LedPairDriver) (now : Millis) : (d.applyState now).flash = d.flash := by
  rcases applyState_cases d now with ⟨_, heq⟩ | ⟨mode, _, _, heq⟩
  . rw [heq]
  . rw [heq]
    cases mode with
    | Green => rfl
    | Red => rfl
    | Blink => rfl

def Quiet (f : Flash) (c : LedPairCall × Millis) : Prop :=
  match c.1 with
  | .setIdentifying active => active = true
  | .update => c.2 - f.identifyLastToggleMs < kIdentifyIntervalMs
  | _ => True

theorem flash_apply_of_quiet {d : LedPairDriver} (hidentifying : d.identifying = true)
    {c : LedPairCall × Millis} (h : Quiet d.flash c)
    : (c.1.apply d c.2).flash = d.flash := by
  rcases c with ⟨c, now⟩
  cases c with
  | begin => rfl
  | setGreen active => exact flash_applyState { d with greenRequested := active } now
  | setRed active => exact flash_applyState { d with redRequested := active } now
  | setIdentifying active =>
    have hactive : active = d.identifying := Eq.trans h hidentifying.symm
    exact congrArg flash (if_pos hactive)
  | update =>
    have hearly : ¬now - d.identifyLastToggleMs ≥ kIdentifyIntervalMs := BitVec.not_le.mpr h
    have hsame : d.update now = d := by
      unfold update
      rw [if_pos hidentifying, if_neg hearly]
    exact congrArg flash hsame

theorem flash_foldl_of_quiet {d : LedPairDriver} (hidentifying : d.identifying = true)
    {calls : List (LedPairCall × Millis)} (h : ∀ c ∈ calls, Quiet d.flash c)
    : (calls.foldl (fun d c => c.1.apply d c.2) d).flash = d.flash := by
  induction calls using List.reverseRecOn with
  | nil => rfl
  | append_singleton calls c ih =>
    rw [List.foldl_append, List.foldl_cons, List.foldl_nil]
    have hbefore := ih (fun c hc => h c (List.mem_append_left _ hc))
    have hquiet := h c (by simp)
    rw [← hbefore] at hquiet
    have hstill := (congrArg Flash.identifying hbefore).trans hidentifying
    exact (flash_apply_of_quiet hstill hquiet).trans hbefore

theorem update_of_due {d : LedPairDriver} (hidentifying : d.identifying = true) {now : Millis}
    (hdue : now - d.identifyLastToggleMs ≥ kIdentifyIntervalMs)
    : (d.update now).flash = d.flash.toggled now ∧ (d.update now).Shows (d.flash.toggled now).color := by
  unfold update
  rw [if_pos hidentifying, if_pos hdue]
  constructor
  . rfl
  . apply shows_writeColor

theorem setIdentifying_true {d : LedPairDriver} (h : d.identifying = false) (now : Millis)
    : (d.setIdentifying true now).flash = ⟨true, true, now⟩
        ∧
      (d.setIdentifying true now).Shows .Green := by
  unfold setIdentifying
  rw [h, if_neg (by decide)]
  constructor
  . rfl
  . apply shows_writeColor

def greenAsked? (c : LedPairCall) : Option Bool :=
  match c with
  | .setGreen active => some active
  | _ => none

def redAsked? (c : LedPairCall) : Option Bool :=
  match c with
  | .setRed active => some active
  | _ => none

def identifyingAsked? (c : LedPairCall) : Option Bool :=
  match c with
  | .setIdentifying active => some active
  | _ => none

def lastAsked (asked? : LedPairCall → Option Bool) (calls : List (LedPairCall × Millis)) : Bool :=
  (calls.filterMap fun c => asked? c.1).getLast?.getD false

theorem lastAsked_concat (asked? : LedPairCall → Option Bool) (calls : List (LedPairCall × Millis))
    (c : LedPairCall × Millis)
    : lastAsked asked? (calls ++ [c]) = (asked? c.1).getD (lastAsked asked? calls) := by
  unfold lastAsked
  rw [List.filterMap_append]
  cases h : asked? c.1 with
  | none => simp [h]
  | some active => simp [h]

theorem identifying_setIdentifying (d : LedPairDriver) (now : Millis) (active : Bool)
    : (d.setIdentifying active now).identifying = active := by
  unfold setIdentifying
  split
  . next h => exact h.symm
  . dsimp only
    split
    . rfl
    . rfl

theorem identifying_update (d : LedPairDriver) (now : Millis)
    : (d.update now).identifying = d.identifying := by
  unfold update
  split
  . split
    . rfl
    . rfl
  . split
    . rfl
    . split
      . rfl
      . rfl

theorem asked_apply (d : LedPairDriver) (c : LedPairCall) (now : Millis)
    : (c.apply d now).greenRequested = (greenAsked? c).getD d.greenRequested ∧
        (c.apply d now).redRequested = (redAsked? c).getD d.redRequested ∧
        (c.apply d now).identifying = (identifyingAsked? c).getD d.identifying := by
  cases c with
  | begin => exact ⟨rfl, rfl, rfl⟩
  | setGreen active =>
    let d' := { d with greenRequested := active }
    exact ⟨applyState_greenRequested d' now, applyState_redRequested d' now,
      congrArg Flash.identifying (flash_applyState d' now)⟩
  | setRed active =>
    let d' := { d with redRequested := active }
    exact ⟨applyState_greenRequested d' now, applyState_redRequested d' now,
      congrArg Flash.identifying (flash_applyState d' now)⟩
  | setIdentifying active =>
    have hnormal := normal_setIdentifying d now active
    exact ⟨congrArg Normal.greenRequested hnormal, congrArg Normal.redRequested hnormal,
      identifying_setIdentifying d now active⟩
  | update =>
    have hnormal := normal_update d now
    exact ⟨congrArg Normal.greenRequested hnormal, congrArg Normal.redRequested hnormal,
      identifying_update d now⟩

theorem asked_driven (blinkIntervalMs : Millis) (defaultColor : LedPairColor) (now : Millis)
    (calls : List (LedPairCall × Millis))
    : let d := driven blinkIntervalMs defaultColor now calls
      d.greenRequested = lastAsked greenAsked? calls ∧ d.redRequested = lastAsked redAsked? calls ∧
        d.identifying = lastAsked identifyingAsked? calls := by
  induction calls using List.reverseRecOn with
  | nil => exact ⟨rfl, rfl, rfl⟩
  | append_singleton calls c ih =>
    rcases ih with ⟨hgreen, hred, hidentifying⟩
    dsimp only at hgreen hred hidentifying ⊢
    rw [driven_concat, lastAsked_concat, lastAsked_concat, lastAsked_concat]
    rw [← hgreen, ← hred, ← hidentifying]
    apply asked_apply

/-
What a driver has made of a sequence of calls, whatever the clock read. `flashes` is about calls during
one flash, with requests among them, up to the call that toggles it.
-/
structure Overlays (blinkIntervalMs : Millis) (defaultColor : LedPairColor) (now : Millis)
    (calls : List (LedPairCall × Millis)) : Prop where
  erased : (driven blinkIntervalMs defaultColor now calls).normal
    = (driven blinkIntervalMs defaultColor now (calls.filter (!identifies ·))).normal
  asked : let d := driven blinkIntervalMs defaultColor now calls
    d.greenRequested = lastAsked greenAsked? calls ∧ d.redRequested = lastAsked redAsked? calls ∧
      d.identifying = lastAsked identifyingAsked? calls
  shows : let d := driven blinkIntervalMs defaultColor now calls
    d.identifying = false → d.Shows d.currentColorToShow
  green : let d := driven blinkIntervalMs defaultColor now calls
    d.greenRequested = true → d.redRequested = false → d.currentMode = .Green
  red : let d := driven blinkIntervalMs defaultColor now calls
    d.greenRequested = false → d.redRequested = true → d.currentMode = .Red
  neither : let d := driven blinkIntervalMs defaultColor now calls
    d.greenRequested = false → d.redRequested = false → d.currentMode = .Blink
  both : let d := driven blinkIntervalMs defaultColor now calls
    ∀ pre c, calls = pre ++ [c] → d.greenRequested = true → d.redRequested = true →
      d.currentMode = (driven blinkIntervalMs defaultColor now pre).currentMode
  starts : let d := driven blinkIntervalMs defaultColor now calls
    ∀ pre t, calls = pre ++ [(.setIdentifying true, t)] →
      (driven blinkIntervalMs defaultColor now pre).identifying = false →
        d.flash = ⟨true, true, t⟩ ∧ d.Shows .Green
  flashes : let d := driven blinkIntervalMs defaultColor now calls
    ∀ pre mid t, calls = pre ++ mid ++ [(.update, t)] →
      let f := (driven blinkIntervalMs defaultColor now pre).flash
      f.identifying = true → (∀ c ∈ mid, Quiet f c) →
        t - f.identifyLastToggleMs ≥ kIdentifyIntervalMs →
          d.flash = f.toggled t ∧ d.Shows (f.toggled t).color

/--
Identifying is only an overlay: whatever is asked for meanwhile may be seen until the flash is toggled, and
is what shows when identifying ends.
-/
theorem identify_overlays (blinkIntervalMs : Millis) (defaultColor : LedPairColor) (now : Millis)
    (calls : List (LedPairCall × Millis))
    : Overlays blinkIntervalMs defaultColor now calls := by
  have hcoherent := driven_coherent now blinkIntervalMs defaultColor calls
  constructor
  . apply normal_driven_erase
  . apply asked_driven
  . exact hcoherent.shows
  . intro d hgreen hred
    apply hcoherent.currentMode
    simp [nextMode, d, hgreen, hred]
  . intro d hgreen hred
    apply hcoherent.currentMode
    simp [nextMode, d, hgreen, hred]
  . intro d hgreen hred
    apply hcoherent.currentMode
    simp [nextMode, d, hgreen, hred]
  . intro d pre c hcalls
    have hlast : d = c.1.apply (driven blinkIntervalMs defaultColor now pre) c.2 := by
      rw [← driven_concat, ← hcalls]
    rw [hlast]
    apply currentMode_apply_of_both
  . intro d pre t hcalls hoff
    have hlast : d = (driven blinkIntervalMs defaultColor now pre).setIdentifying true t := by
      dsimp only [d]
      rw [hcalls]
      apply driven_concat
    rw [hlast]
    exact setIdentifying_true hoff t
  . intro d pre mid t hcalls f hidentifying hquiet hdue
    have hlast : d = (driven blinkIntervalMs defaultColor now (pre ++ mid)).update t := by
      dsimp only [d]
      rw [hcalls]
      apply driven_concat
    have hmid : (driven blinkIntervalMs defaultColor now (pre ++ mid)).flash = f := by
      simp only [driven, LedPairCall.drive, List.foldl_append]
      exact flash_foldl_of_quiet hidentifying hquiet
    rw [hlast, ← hmid]
    apply update_of_due
    . exact (congrArg Flash.identifying hmid).trans hidentifying
    . have hsince := congrArg Flash.identifyLastToggleMs hmid
      rw [← hsince] at hdue
      exact hdue

-- Green is asked for while the LEDs flash, 50 ms after they have begun to. The flash is toggled in time.
theorem identify_overlays_green
    : let d := driven 500 .Red 0 [(.setIdentifying true, 100), (.setGreen true, 150), (.update, 250)]
      d.currentMode = .Green ∧ d.greenRequested = true ∧ d.identifying = true ∧ d.Shows .Red := by
  intro d
  have h := identify_overlays 500 .Red 0
    [(.setIdentifying true, 100), (.setGreen true, 150), (.update, 250)]
  have ⟨hgreen, hred, hidentifying⟩ := h.asked
  have hflash := h.flashes [(.setIdentifying true, 100)] [(.setGreen true, 150)] 250 rfl rfl
    (by simp [Quiet]) (by decide)
  exact ⟨h.green hgreen hred, hgreen, hidentifying, hflash.2⟩

end LedPairDriver

end Maltbee
