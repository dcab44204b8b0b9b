import MaltbeeController.Esp32.Lemmas.Life
import MaltbeeController.McsEsp32.Lemmas.ButtonSetupModeTrigger

/-!
This module contains the proof that an ESP32 board boots into the wireless setup exactly after the lives
in which somebody has asked for it with the button.
-/

open WrapClock

namespace Maltbee

namespace BasicCommissioningSession

variable {N : Nat}

theorem apply_rebootRequested {s : BasicCommissioningSession N} (h : s.rebootRequested = true)
    (command : ParsedCommand)
    : (s.apply command).1.rebootRequested = true := by
  unfold apply
  cases command.kind with
  | TurnoutAddress =>
    dsimp only
    split
    . exact h
    . exact h
  | Save =>
    dsimp only
    split
    . exact h
    . split
      . exact h
      . exact h
  | Reboot => rfl
  | Id | Wifi | Broker | Show | Invalid => exact h

end BasicCommissioningSession

namespace BasicSerialCommissioningAdapter

variable {N : Nat}

theorem poll_rebootRequested {a : BasicSerialCommissioningAdapter N}
    (h : a.session.rebootRequested = true) (available : Str)
    : (a.poll available).1.session.rebootRequested = true := by
  unfold poll
  apply StepRun.run_invariant receive a (P := fun a => a.session.rebootRequested = true) h
  intro a c ha
  unfold receive
  split
  . exact BasicCommissioningSession.apply_rebootRequested ha _
  . split
    . exact ha
    . exact ha

end BasicSerialCommissioningAdapter

namespace Esp32

open ButtonSetupModeTrigger NvsSetupModeRequestStore

theorem exists_split_concat_iff {α : Type u} {P : List α → α → Prop} (l : List α) (a : α)
    : (∃ pre x post, l ++ [a] = pre ++ x :: post ∧ P pre x)
        ↔
      (∃ pre x post, l = pre ++ x :: post ∧ P pre x) ∨ P l a := by
  constructor
  . rintro ⟨pre, x, post, heq, h⟩
    rcases List.eq_nil_or_concat post with rfl | ⟨post, last, rfl⟩
    . have ⟨hpre, hx⟩ := List.append_inj' heq rfl
      rw [List.cons.injEq] at hx
      rw [hpre, hx.1]
      exact .inr h
    . have heq : l ++ [a] = (pre ++ x :: post) ++ [last] := by simpa using heq
      exact .inl ⟨pre, x, post, (List.append_inj' heq rfl).1, h⟩
  . rintro (⟨pre, x, post, rfl, h⟩ | h)
    . exact ⟨pre, x, post ++ [a], by simp, h⟩
    . exact ⟨l, a, [], rfl, h⟩

namespace Firmware

variable {N : Nat} {σ : Type u} (f : Firmware N σ) (flash : Flash)

def samples (inputs : List (Nat × LoopInput N)) : List (Nat × Bool) :=
  inputs.map fun i => (i.1, f.setupActive i.2.digitalRead)

theorem samples_concat (inputs : List (Nat × LoopInput N)) (input : Nat × LoopInput N)
    : f.samples (inputs ++ [input])
        =
      f.samples inputs ++ [(input.1, f.setupActive input.2.digitalRead)] := by
  unfold samples
  rw [List.map_append, List.map_singleton]

-- With `input` the button is let go of after a hold that was long enough, and nobody has asked for a
-- restart on the serial port.
def AsksAt (inputs : List (Nat × LoopInput N)) (input : Nat × LoopInput N) : Prop :=
  Requests Node.SETUP_TRIGGER_HOLD_MS.toNat (f.samples (inputs ++ [input])) ∧
    (polledAll (Flash.configStore flash.mcsnode)
      ((inputs ++ [input]).map (·.2))).session.rebootRequested = false

def Asked (inputs : List (Nat × LoopInput N)) : Prop :=
  ∃ pre input post, inputs = pre ++ input :: post ∧ f.AsksAt flash pre input

theorem asked_concat_iff (inputs : List (Nat × LoopInput N)) (input : Nat × LoopInput N)
    : f.Asked flash (inputs ++ [input]) ↔ f.Asked flash inputs ∨ f.AsksAt flash inputs input := by
  exact exists_split_concat_iff inputs input

variable {f flash} {start : Millis} {inputs : List (Nat × LoopInput N)} {input : Nat × LoopInput N}

theorem life_setupTrigger (hmode : bootModeOf N flash ≠ .WirelessSetup)
    (hnow : ∀ i ∈ inputs, i.2.now .setupTrigger = reading start i.1)
    : ∀ s ∈ (f.life flash (inputs.map (·.2))).program,
        (f.commissioning s).setupTrigger
          =
        after Node.SETUP_TRIGGER_HOLD_MS start (f.samples inputs) := by
  induction inputs using List.reverseRecOn with
  | nil =>
    intro s hs
    rw [switchOn_commissioning hs]
    rfl
  | append_singleton inputs input ih =>
    intro s' hs'
    rw [List.map_append] at hs'
    have ⟨s, hs, hfollows⟩ := exists_of_mem_life_concat hs'
    have htrigger := ih (fun i hi => hnow i (List.mem_append_left _ hi)) s hs
    rw [hfollows.setupTrigger (by rw [life_bootMode _ s hs]; exact hmode)]
    rw [samples_concat, after_concat, ← htrigger, ← hnow input (by simp)]
    rfl

theorem requestsSetup_iff {s : σ} (hs : s ∈ (f.life flash (inputs.map (·.2))).program)
    (hnow : ∀ i ∈ inputs ++ [input], i.2.now .setupTrigger = reading start i.1)
    (hspaced : Spaced (2 ^ 31) (f.samples (inputs ++ [input])))
    (hheld : HeldBelow (2 ^ 31) (f.samples (inputs ++ [input])))
    : (f.commissioning s).requestsSetup (f.setupActive input.2.digitalRead) input.2 = true
        ↔
      bootModeOf N flash ≠ .WirelessSetup ∧ f.AsksAt flash inputs input := by
  unfold Commissioning.requestsSetup
  rw [Bool.and_eq_true, Bool.and_eq_true, decide_eq_true_eq, life_bootMode _ s hs, Bool.not_eq_true']
  by_cases hsetup : bootModeOf N flash = .WirelessSetup
  . simp [hsetup]
  . have hpolled : (f.commissioning s).polled input.2
        =
      polledAll (Flash.configStore flash.mcsnode) ((inputs ++ [input]).map (·.2)) := by
      rw [List.map_append, List.map_singleton, polledAll_concat, ← life_adapter (.inl hsetup) s hs]
      rfl
    have htriggered : (f.commissioning s).triggered (f.setupActive input.2.digitalRead) input.2
        =
      after Node.SETUP_TRIGGER_HOLD_MS start (f.samples (inputs ++ [input])) := by
      have htrigger := life_setupTrigger hsetup (fun i hi => hnow i (List.mem_append_left _ hi)) s hs
      rw [samples_concat, after_concat, ← htrigger, ← hnow input (by simp)]
      rfl
    rw [samples_concat] at hspaced hheld
    rw [hpolled, htriggered, samples_concat, requested_after_concat _ hspaced hheld]
    unfold AsksAt
    rw [samples_concat]
    tauto

variable (f flash) in
-- What the life has come to, as far as the next boot depends on it.
structure Latched (inputs : List (Nat × LoopInput N)) (b : Board σ) : Prop where
  pending_iff : pending b.flash.mcsBoot = true
      ↔
    bootModeOf N flash ≠ .WirelessSetup ∧ f.Asked flash inputs
  restarts : b.program = none → pending b.flash.mcsBoot = false →
    bootModeOf N flash ≠ .WirelessSetup →
      (polledAll (Flash.configStore flash.mcsnode) (inputs.map (·.2))).session.rebootRequested = true

theorem Latched.of_none {b : Board σ} (h : Latched f flash inputs b) (hprogram : b.program = none)
    : Latched f flash (inputs ++ [input]) b := by
  have hreboot : pending b.flash.mcsBoot = false → bootModeOf N flash ≠ .WirelessSetup →
      (polledAll (Flash.configStore flash.mcsnode)
        ((inputs ++ [input]).map (·.2))).session.rebootRequested = true := by
    intro hpending hmode
    rw [List.map_append, List.map_singleton, polledAll_concat]
    apply BasicSerialCommissioningAdapter.poll_rebootRequested
    exact h.restarts hprogram hpending hmode
  constructor
  . rw [asked_concat_iff, h.pending_iff]
    constructor
    . rintro ⟨hmode, hasked⟩
      exact ⟨hmode, .inl hasked⟩
    . rintro ⟨hmode, hasked | hasks⟩
      . exact ⟨hmode, hasked⟩
      . refine ⟨hmode, ?_⟩
        by_contra hnot
        have hpending : pending b.flash.mcsBoot = false := by
          rw [← Bool.not_eq_true, h.pending_iff]
          rintro ⟨_, hasked⟩
          exact hnot hasked
        have := hasks.2
        rw [hreboot hpending hmode] at this
        contradiction
  . intro _
    exact hreboot

theorem Latched.iterate {s : σ} (h : Latched f flash inputs (f.life flash (inputs.map (·.2))))
    (hs : s ∈ (f.life flash (inputs.map (·.2))).program) (hworks : Works flash.mcsBoot)
    (hrequests : (f.commissioning s).requestsSetup (f.setupActive input.2.digitalRead) input.2 = true
        ↔
      bootModeOf N flash ≠ .WirelessSetup ∧ f.AsksAt flash inputs input)
    : Latched f flash (inputs ++ [input])
        (f.iterate (f.life flash (inputs.map (·.2))) input.2).1 := by
  have hnone := life_pending hworks _ s hs
  have ⟨hpending, htick⟩ :=
    iterate_of_some (f := f) hs (life_works hworks _) hnone input.2
  constructor
  . rw [hpending, hrequests, asked_concat_iff]
    constructor
    . rintro ⟨hmode, hasks⟩
      exact ⟨hmode, .inr hasks⟩
    . rintro ⟨hmode, hasked | hasks⟩
      . have := h.pending_iff.mpr ⟨hmode, hasked⟩
        rw [hnone] at this
        contradiction
      . exact ⟨hmode, hasks⟩
  . intro hprogram hnot hmode
    rw [hprogram, Option.map_none] at htick
    rw [List.map_append, List.map_singleton, polledAll_concat, ← life_adapter (.inl hmode) s hs]
    rcases (Commissioning.tickStored_eq_none_iff _ _ _).mp htick.symm with hreboot | hrequested
    . exact hreboot
    . rw [← hpending, hnot] at hrequested
      contradiction

theorem life_latched (hworks : Works flash.mcsBoot) (inputs : List (Nat × LoopInput N))
    (hnow : ∀ i ∈ inputs, i.2.now .setupTrigger = reading start i.1)
    (hspaced : Spaced (2 ^ 31) (f.samples inputs)) (hheld : HeldBelow (2 ^ 31) (f.samples inputs))
    : Latched f flash inputs (f.life flash (inputs.map (·.2))) := by
  induction inputs using List.reverseRecOn with
  | nil =>
    constructor
    . refine iff_of_false ?_ ?_
      . rw [Bool.not_eq_true]
        exact (consumeRequest_works hworks).2
      . rintro ⟨_, pre, i, post, heq, _⟩
        simp at heq
    . intro hprogram
      contradiction
  | append_singleton inputs input ih =>
    have hinputs : Latched f flash inputs (f.life flash (inputs.map (·.2))) := by
      apply ih
      . intro i hi
        exact hnow i (List.mem_append_left _ hi)
      . rw [samples_concat] at hspaced
        exact hspaced.left_of_append
      . rw [samples_concat] at hheld
        exact hheld.left_of_append
    rw [List.map_append, List.map_singleton, life_concat]
    cases hprogram : (f.life flash (inputs.map (·.2))).program with
    | none =>
      rw [iterate_of_none hprogram]
      exact hinputs.of_none hprogram
    | some s =>
      apply hinputs.iterate hprogram hworks
      exact requestsSetup_iff hprogram hnow hspaced hheld

/--
Whatever its lives before, a board restarts and boots into the wireless setup if in its last life somebody
has held the button long enough and let go of it, unless that life was in the setup itself or was ended on
the serial port before. Nothing else makes it boot into the setup.
-/
theorem next_boot_setup_iff (hworks : Works flash.mcsBoot) (before : List (List (LoopInput N)))
    (inputs : List (Nat × LoopInput N))
    (hnow : ∀ i ∈ inputs, i.2.now .setupTrigger = reading start i.1)
    (hspaced : Spaced (2 ^ 31) (f.samples inputs)) (hheld : HeldBelow (2 ^ 31) (f.samples inputs))
    : let flash := f.lives flash before
      let b := f.life flash (inputs.map (·.2))
      let asked := bootModeOf N flash ≠ .WirelessSetup ∧ f.Asked flash inputs
      (bootModeOf N b.flash = .WirelessSetup ↔ asked) ∧ (asked → b.program = none) := by
  have hworks := lives_works (f := f) hworks before
  have h := life_latched hworks inputs hnow hspaced hheld
  dsimp only
  rw [bootModeOf_eq_wirelessSetup_iff (life_works hworks _)]
  refine ⟨h.pending_iff, ?_⟩
  intro hasked
  cases hprogram : (f.life (f.lives flash before) (inputs.map (·.2))).program with
  | none => rfl
  | some s =>
    have := h.pending_iff.mpr hasked
    rw [life_pending hworks _ s hprogram] at this
    contradiction

end Firmware

def heldBootButton : List (Nat × LoopInput 12) :=
  [(0, false), (1000, true), (5000, false), (5060, false)].map fun c =>
    (c.1, {
      serial := "show\n".toList
      digitalRead := fun pin => !(c.2 && pin = bootButton.pin)
      now := fun _ => reading 4294965296 c.1
    })

theorem next_boot_setup_iff_heldBootButton
    : let b := newPanel.life workingFlash (heldBootButton.map (·.2))
      bootModeOf 12 b.flash = .WirelessSetup ∧ b.program = none := by
  have hsamples : newPanel.samples heldBootButton
      =
    [(0, false), (1000, true), (5000, false)] ++ [(5060, false)] := by
    rfl
  have hspaced : Spaced (2 ^ 31) (newPanel.samples heldBootButton) := by
    rw [hsamples]
    decide
  have hheld : HeldBelow (2 ^ 31) (newPanel.samples heldBootButton) := by
    rw [hsamples]
    apply HeldBelow.of_lt
    decide
  have ⟨hmode, hrestarts⟩ := @Firmware.next_boot_setup_iff 12 _ newPanel workingFlash 4294965296
    (fun _ => rfl) [] heldBootButton (by simp [heldBootButton]) hspaced hheld
  have hasked : bootModeOf 12 workingFlash ≠ .WirelessSetup ∧
      newPanel.Asked workingFlash heldBootButton := by
    refine ⟨by decide, heldBootButton.dropLast, _, [], rfl, ?_, by decide +kernel⟩
    rw [hsamples] at hspaced hheld
    apply (@requested_after_concat 4294965296 _ Node.SETUP_TRIGGER_HOLD_MS _ hspaced hheld).mp
    decide +kernel
  exact ⟨hmode.mpr hasked, hrestarts hasked⟩

end Esp32

end Maltbee
