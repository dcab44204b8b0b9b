import MaltbeeController.McsEsp32.Impl.NvsSetupModeRequestStore

/-!
This module contains what the store of the request for the wireless setup remembers when the flash works.
-/

namespace Maltbee

namespace NvsSetupModeRequestStore

def pending (prefs : Preferences) : Bool :=
  prefs.getBool kKey false

def Works (prefs : Preferences) : Prop :=
  ∀ n, prefs.accepts n = true

variable {prefs : Preferences}

theorem pending_putBool (h : Works prefs) (value : Bool)
    : pending (prefs.putBool kKey value).2 = value := by
  unfold pending Preferences.getBool Preferences.putBool
  rw [FlakyStore.stored_put_self, if_pos (h _)]
  cases value with
  | true => rfl
  | false => rfl

theorem consumeRequest_eq (h : Works prefs)
    : consumeRequest prefs
        =
      (
        pending prefs,
        if pending prefs then (prefs.begin.2.putBool kKey false).2 else prefs.begin.2
      ) := by
  have hbegin : prefs.begin.1 = true := h _
  unfold consumeRequest
  dsimp only
  rw [hbegin]
  rfl

theorem consumeRequest_works (h : Works prefs)
    : Works (consumeRequest prefs).2 ∧ pending (consumeRequest prefs).2 = false := by
  rw [consumeRequest_eq h]
  dsimp only
  split
  . refine ⟨h, ?_⟩
    exact @pending_putBool prefs.begin.2 h false
  . next hpending =>
    refine ⟨h, ?_⟩
    rw [Bool.not_eq_true] at hpending
    exact hpending

theorem requestOnNextBoot_works (h : Works prefs)
    : (requestOnNextBoot prefs).1 = true ∧ Works (requestOnNextBoot prefs).2 ∧
        pending (requestOnNextBoot prefs).2 = true := by
  have hbegin : prefs.begin.1 = true := h _
  have hput : (prefs.begin.2.putBool kKey true).1 = 1 := by
    unfold Preferences.putBool FlakyStore.put FlakyStore.call
    dsimp only
    rw [show prefs.begin.2.accepts prefs.begin.2.calls = true from h _]
    rfl
  have heq : requestOnNextBoot prefs = (true, (prefs.begin.2.putBool kKey true).2) := by
    unfold requestOnNextBoot
    dsimp only
    rw [hbegin, hput]
    rfl
  rw [heq]
  refine ⟨rfl, h, ?_⟩
  exact @pending_putBool prefs.begin.2 h true

end NvsSetupModeRequestStore

end Maltbee
