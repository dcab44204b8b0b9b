import MaltbeeController.Esp32.Lemmas.Board
import MaltbeeController.McsEsp32.Lemmas.NvsSetupModeRequestStore

/-!
This module contains what each iteration does to the session, the boot mode and the request of a board, and
what follows for a whole life.
-/

namespace Maltbee

namespace Esp32

open NvsSetupModeRequestStore

namespace Commissioning

variable {N : Nat} {c c' : Commissioning N} {active : Bool} {input : LoopInput N}

-- What an iteration leaves when it does not restart the board.
structure Follows (c c' : Commissioning N) (active : Bool) (input : LoopInput N) : Prop where
  bootMode : c'.bootMode = c.bootMode
  adapter : c'.serialCommissioningAdapter = { c.polled input with session := c.session input }
  setupTrigger : c.bootMode ≠ .WirelessSetup → c'.setupTrigger = c.triggered active input

theorem follows_of_tick (h : c.tick active input = some c') : c.Follows c' active input := by
  unfold tick at h
  dsimp only at h
  split at h
  . contradiction
  . next hreboot =>
    rw [Bool.not_eq_true] at hreboot
    split at h
    . next hmode =>
      rw [← Option.some.inj h]
      refine ⟨rfl, ?_, ?_⟩
      . simp [Commissioning.session, hreboot, hmode]
      . intro hnot
        contradiction
    . next hmode =>
      split at h
      . contradiction
      . rw [← Option.some.inj h]
        refine ⟨rfl, ?_, ?_⟩
        . simp [Commissioning.session, hmode]
        . intro _
          rfl

variable (c active input)

def tickStored : Option (Commissioning N) :=
  c.tick active { input with requestStored := c.requestsSetup active input }

theorem tickStored_eq_none_iff
    : c.tickStored active input = none
        ↔
      (c.polled input).session.rebootRequested = true ∨ c.requestsSetup active input = true := by
  unfold tickStored tick requestsSetup polled triggered
  dsimp only
  split
  . next hreboot => simp [hreboot]
  . next hreboot =>
    split
    . next hsetup => simp [hreboot, hsetup]
    . next hsetup => simp [hreboot, hsetup]

theorem session_of_quiet (h : c.bootMode ≠ .WirelessSetup ∨ input.submissions = [])
    : c.session input = (c.polled input).session := by
  unfold Commissioning.session
  dsimp only
  split
  . next hserved =>
    rw [Bool.and_eq_true, decide_eq_true_eq] at hserved
    rcases h with hmode | hnone
    . exact (hmode hserved.2).elim
    . rw [hnone]
      rfl
  . rfl

end Commissioning

namespace Firmware

variable {N : Nat} {σ : Type u} {f : Firmware N σ} {flash : Flash} {b : Board σ}

theorem iterate_of_none (h : b.program = none) (input : LoopInput N)
    : f.iterate b input = (b, []) := by
  unfold iterate
  rw [h]

theorem switchOn_commissioning {s : σ} (hs : s ∈ (f.switchOn flash).program)
    : f.commissioning s
        =
      .boot (Flash.configStore flash.mcsnode) (Flash.loadRunningConfig flash.mcsnode).1
        (consumeRequest flash.mcsBoot).1 := by
  rw [switchOn, Option.mem_def, Option.some.injEq] at hs
  rw [← hs]
  apply f.commissioning_boot

theorem iterate_follows {s s' : σ} {input : LoopInput N} (hs : s ∈ b.program)
    (hs' : s' ∈ (f.iterate b input).1.program)
    : (f.commissioning s).Follows (f.commissioning s') (f.setupActive input.digitalRead) input := by
  unfold iterate at hs'
  rw [Option.mem_def.mp hs] at hs'
  dsimp only at hs'
  generalize (if (f.commissioning s).requestsSetup (f.setupActive input.digitalRead) input = true then
    requestOnNextBoot b.flash.mcsBoot
  else
    (false, b.flash.mcsBoot)) = request at hs'
  have htick := f.commissioning_loop s { input with requestStored := request.1 }
  rw [Option.mem_def.mp hs', Option.map_some] at htick
  have hfollows := Commissioning.follows_of_tick htick.symm
  exact ⟨hfollows.bootMode, hfollows.adapter, hfollows.setupTrigger⟩

theorem iterate_works (hworks : Works b.flash.mcsBoot) (input : LoopInput N)
    : Works (f.iterate b input).1.flash.mcsBoot := by
  cases hprogram : b.program with
  | none =>
    rw [iterate_of_none hprogram]
    exact hworks
  | some s =>
    unfold iterate
    rw [hprogram]
    dsimp only
    split
    . exact (requestOnNextBoot_works hworks).2.1
    . exact hworks

-- What the iteration leaves of the flash and of the program, as far as the next boot depends on it.
theorem iterate_of_some {s : σ} (hs : s ∈ b.program) (hworks : Works b.flash.mcsBoot)
    (hnone : pending b.flash.mcsBoot = false) (input : LoopInput N)
    : let next := (f.iterate b input).1
      let active := f.setupActive input.digitalRead
      pending next.flash.mcsBoot = (f.commissioning s).requestsSetup active input ∧
        next.program.map f.commissioning = (f.commissioning s).tickStored active input := by
  have ⟨hstored, _, hset⟩ := requestOnNextBoot_works hworks
  unfold iterate Commissioning.tickStored
  rw [Option.mem_def.mp hs]
  dsimp only
  split
  . next h =>
    rw [hstored, h]
    refine ⟨hset, ?_⟩
    apply f.commissioning_loop
  . next h =>
    rw [Bool.not_eq_true] at h
    rw [h]
    refine ⟨hnone, ?_⟩
    apply f.commissioning_loop

theorem life_concat (inputs : List (LoopInput N)) (input : LoopInput N)
    : f.life flash (inputs ++ [input]) = (f.iterate (f.life flash inputs) input).1 := by
  unfold life
  rw [StepRun.run_concat]

theorem exists_of_mem_life_concat {inputs : List (LoopInput N)} {input : LoopInput N} {s' : σ}
    (hs' : s' ∈ (f.life flash (inputs ++ [input])).program)
    : ∃ s ∈ (f.life flash inputs).program,
        (f.commissioning s).Follows (f.commissioning s') (f.setupActive input.digitalRead) input := by
  rw [life_concat] at hs'
  cases hprogram : (f.life flash inputs).program with
  | none =>
    rw [iterate_of_none hprogram, hprogram] at hs'
    contradiction
  | some s => exact ⟨s, rfl, iterate_follows hprogram hs'⟩

theorem life_append_of_none {inputs : List (LoopInput N)} (h : (f.life flash inputs).program = none)
    (more : List (LoopInput N))
    : f.life flash (inputs ++ more) = f.life flash inputs := by
  induction more using List.reverseRecOn with
  | nil => rw [List.append_nil]
  | append_singleton more input ih =>
    rw [← List.append_assoc, life_concat, ih, iterate_of_none h]

theorem lives_concat (before : List (List (LoopInput N))) (inputs : List (LoopInput N))
    : f.lives flash (before ++ [inputs]) = (f.life (f.lives flash before) inputs).flash := by
  unfold lives
  rw [List.foldl_append]
  rfl

theorem life_works (hworks : Works flash.mcsBoot) (inputs : List (LoopInput N))
    : Works (f.life flash inputs).flash.mcsBoot := by
  unfold life
  apply StepRun.run_invariant f.iterate _ (P := fun b => Works b.flash.mcsBoot)
  . exact (consumeRequest_works hworks).1
  . intro b input hb
    exact iterate_works hb input

theorem lives_works (hworks : Works flash.mcsBoot) (before : List (List (LoopInput N)))
    : Works (f.lives flash before).mcsBoot := by
  induction before using List.reverseRecOn with
  | nil => exact hworks
  | append_singleton before inputs ih =>
    rw [lives_concat]
    exact life_works ih inputs

theorem life_bootMode (inputs : List (LoopInput N))
    : ∀ s ∈ (f.life flash inputs).program, (f.commissioning s).bootMode = bootModeOf N flash := by
  induction inputs using List.reverseRecOn with
  | nil =>
    intro s hs
    rw [switchOn_commissioning hs]
    rfl
  | append_singleton inputs input ih =>
    intro s' hs'
    have ⟨s, hs, hfollows⟩ := exists_of_mem_life_concat hs'
    rw [hfollows.bootMode]
    exact ih s hs

theorem life_pending (hworks : Works flash.mcsBoot) (inputs : List (LoopInput N))
    : ∀ s ∈ (f.life flash inputs).program, pending (f.life flash inputs).flash.mcsBoot = false := by
  induction inputs using List.reverseRecOn with
  | nil =>
    intro s hs
    exact (consumeRequest_works hworks).2
  | append_singleton inputs input ih =>
    intro s' hs'
    have ⟨s, hs, _⟩ := exists_of_mem_life_concat hs'
    have ⟨hpending, htick⟩ :=
      iterate_of_some (f := f) hs (life_works hworks inputs) (ih s hs) input
    rw [life_concat] at hs' ⊢
    rw [hpending, ← Bool.not_eq_true]
    intro hrequests
    rw [(Commissioning.tickStored_eq_none_iff _ _ _).mpr (.inr hrequests), Option.mem_def.mp hs']
      at htick
    contradiction

theorem bootModeOf_eq (hworks : Works flash.mcsBoot)
    : bootModeOf N flash
        =
      if pending flash.mcsBoot then
        .WirelessSetup
      else if (Flash.loadRunningConfig (N := N) flash.mcsnode).1.validate.isEmpty then
        .Normal
      else
        .NeedsCommissioning := by
  unfold bootModeOf BootModeSelector.select
  rw [consumeRequest_eq hworks]

theorem bootModeOf_eq_wirelessSetup_iff (hworks : Works flash.mcsBoot)
    : bootModeOf N flash = .WirelessSetup ↔ pending flash.mcsBoot = true := by
  rw [bootModeOf_eq hworks]
  split
  . next h => simp [h]
  . next h =>
    split
    . simp [h]
    . simp [h]

def polledAll (configStore : BasicConfigStore N) (inputs : List (LoopInput N))
    : BasicSerialCommissioningAdapter N :=
  (StepRun.run BasicSerialCommissioningAdapter.poll { session := .new configStore }
    (inputs.map (·.serial))).1

theorem polledAll_concat (configStore : BasicConfigStore N) (inputs : List (LoopInput N))
    (input : LoopInput N)
    : polledAll configStore (inputs ++ [input])
        =
      ((polledAll configStore inputs).poll input.serial).1 := by
  unfold polledAll
  rw [List.map_append, List.map_singleton, StepRun.run_concat]

theorem life_adapter {inputs : List (LoopInput N)}
    (hquiet : bootModeOf N flash ≠ .WirelessSetup ∨ ∀ input ∈ inputs, input.submissions = [])
    : ∀ s ∈ (f.life flash inputs).program,
        (f.commissioning s).serialCommissioningAdapter
          =
        polledAll (Flash.configStore flash.mcsnode) inputs := by
  induction inputs using List.reverseRecOn with
  | nil =>
    intro s hs
    rw [switchOn_commissioning hs]
    rfl
  | append_singleton inputs input ih =>
    intro s' hs'
    have ⟨s, hs, hfollows⟩ := exists_of_mem_life_concat hs'
    have hsession : (f.commissioning s).session input = ((f.commissioning s).polled input).session := by
      apply Commissioning.session_of_quiet
      rw [life_bootMode inputs s hs]
      exact hquiet.imp_right fun h => h input (by simp)
    rw [hfollows.adapter, hsession, polledAll_concat]
    rw [← ih (hquiet.imp_right fun h i hi => h i (List.mem_append_left _ hi)) s hs]
    rfl

end Firmware

end Esp32

end Maltbee
