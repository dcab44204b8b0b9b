import MaltbeeController.McsEsp32.Lemmas.NodeConfig
import MaltbeeController.McsEsp32.Lemmas.WebFormCommissioningAdapter

/-!
This module contains the proof that the setup form, submitted as it was filled in for the user, loses
nothing of the configuration.
-/

namespace Maltbee

namespace BasicWebFormCommissioningAdapter

open BasicNodeConfig
open CommandLineParser
open Words

variable {N : Nat} {s : BasicCommissioningSession N}

theorem decimalInt_to_string {v : Int} (hmin : INT_MIN ≤ v) (hmax : v ≤ INT_MAX)
    : DecimalInt (to_string v) v := by
  have hword : IsWord (to_string v) := Decimal.isWord_of_numeral (Decimal.numeral_print v)
  rw [decimalInt_of_isWord hword]
  exact parseInt_to_string hmin hmax

theorem channelText_currentValues (h : s.draft.Valid) (i : Fin N)
    : ChannelText ((currentValues s).channelTurnoutAddresses.get i)
        (s.draft.channelTurnoutAddresses.get i) := by
  have hget : (currentValues s).channelTurnoutAddresses.get i
      = if s.draft.channelTurnoutAddresses.get i = 0 then
        []
      else
        to_string (s.draft.channelTurnoutAddresses.get i) := by
    simp only [currentValues, Vector.get, Vector.toArray_map, Array.getElem_map]
    rfl
  rw [hget]
  split
  . next hblank =>
    rw [hblank]
    rfl
  . next hconfigured =>
    have hrange := (h.channels i).inRange hconfigured
    have hword := Decimal.isWord_of_numeral (Decimal.numeral_print (s.draft.channelTurnoutAddresses.get i))
    have hne : (to_string (s.draft.channelTurnoutAddresses.get i)).isEmpty = false := by
      rw [List.isEmpty_eq_false_iff]
      exact hword.1
    unfold ChannelText
    rw [hne, if_neg Bool.false_ne_true]
    apply decimalInt_to_string
    . exact Int.le_trans (by decide) hrange.1
    . exact Int.le_trans hrange.2 (by decide)

theorem apply_id_currentValues (h : s.draft.Valid)
    : s.apply (parse ("id ".toList ++ (currentValues s).nodeId)) = (s, "OK\n".toList) := by
  have hid : DecimalInt (currentValues s).nodeId s.draft.nodeId := by
    have hrange := h.nodeId
    have hset : s.draft.nodeId ≠ 0 := by
      intro hzero
      rw [hzero] at hrange
      exact absurd hrange.1 (by decide)
    unfold currentValues
    dsimp only
    rw [if_neg hset]
    apply decimalInt_to_string
    . exact Int.le_trans (by decide) hrange.1
    . exact Int.le_trans hrange.2 (by decide)
  rcases apply_id_cases s (currentValues s).nodeId with ⟨v, hv, happly⟩ | ⟨hnone, _⟩
  . rw [happly, decimalInt_unique hv hid]
    rfl
  . exact (hnone _ hid).elim

theorem apply_broker_currentValues (h : s.draft.Valid) (hhost : ∀ c ∈ s.draft.brokerHost, ¬isSpace c)
    : s.apply (parse ("broker ".toList ++ (currentValues s).brokerHost ++ " ".toList ++
          (currentValues s).brokerPort))
        =
      (s, "OK\n".toList) := by
  have hport : IsWord (to_string s.draft.brokerPort) :=
    Decimal.isWord_of_numeral (Decimal.numeral_print s.draft.brokerPort)
  have hwords : words (currentValues s).brokerHost ++ words (currentValues s).brokerPort
      = [s.draft.brokerHost, to_string s.draft.brokerPort] := by
    dsimp only [currentValues]
    rw [words_of_isWord ⟨h.brokerHost, by simpa using hhost⟩, words_of_isWord hport]
    rfl
  have hparse : parseInt (to_string s.draft.brokerPort) = some s.draft.brokerPort := by
    have hrange := h.brokerPort
    apply parseInt_to_string
    . exact Int.le_trans (by decide) hrange.1
    . exact Int.le_trans hrange.2 (by decide)
  rcases apply_broker_cases s (currentValues s).brokerHost (currentValues s).brokerPort
    with ⟨host, port, v, hwords', hv, happly⟩ | ⟨hnone, _⟩
  . rw [hwords, List.cons.injEq, List.cons.injEq] at hwords'
    rw [← hwords'.2.1, hparse, Option.some.injEq] at hv
    rw [happly, ← hwords'.1, ← hv]
    rfl
  . exact (hnone _ _ _ hwords hparse).elim

theorem submitChannels_currentValues (hN : (N : Int) ≤ INT_MAX) (h : s.draft.Valid)
    : submitChannels (currentValues s) (List.finRange N) s = (s, "OK\n".toList) := by
  have htexts := channelText_currentValues h
  rcases submitChannels_cases hN (currentValues s) (List.finRange N) s
    with ⟨addresses, hin, _, hsubmit⟩ | ⟨⟨i, hnone⟩, _⟩
  . have hsame : addresses = s.draft.channelTurnoutAddresses :=
      channels_unique (fun i => hin i (List.mem_finRange i)) htexts
    rw [hsubmit, hsame]
  . exact (hnone _ (htexts i)).elim

-- To submit what the form was filled in with only saves the draft, and reboots if that has succeeded.
theorem submit_currentValues (hN : (N : Int) ≤ INT_MAX) (hvalid : s.draft.validate = [])
    (hhost : ∀ c ∈ s.draft.brokerHost, ¬isSpace c)
    : submit s (currentValues s) = saveAndReboot s := by
  have h := (validate_eq_nil_iff s.draft).mp hvalid
  have hwifi : s.apply {
      kind := .Wifi
      stringArg1 := (currentValues s).wifiSsid
      stringArg2 :=
        if (currentValues s).wifiPassword.isEmpty then
          s.draft.wifiPassword
        else
          (currentValues s).wifiPassword
    } = (s, "OK\n".toList) := by
    rfl
  unfold submit
  rw [apply_id_currentValues h, if_neg (by simp)]
  dsimp only
  rw [hwifi, if_neg (by simp)]
  dsimp only
  rw [apply_broker_currentValues h hhost, if_neg (by simp)]
  dsimp only
  rw [submitChannels_currentValues hN h, if_neg (by simp)]
  dsimp only
  rw [parse_save, parse_reboot]
  rfl

theorem saveAndReboot_of_valid (hvalid : s.draft.validate = [])
    : (saveAndReboot s).1.draft = s.draft ∧ (saveAndReboot s).1.store = (s.store.save s.draft).2 := by
  have hsave : (s.apply { kind := .Save }).1 = { s with store := (s.store.save s.draft).2 } := by
    unfold BasicCommissioningSession.apply
    rw [hvalid]
    dsimp only
    cases (s.store.save s.draft).1 with
    | true => rfl
    | false => rfl
  unfold saveAndReboot
  split
  . rw [hsave]
    exact ⟨rfl, rfl⟩
  . rw [hsave]
    exact ⟨rfl, rfl⟩

structure Resubmits (s : BasicCommissioningSession N) : Prop where
  draft : (submit s (currentValues s)).1.draft = s.draft
  saves : (submit s (currentValues s)).1.store.saves = s.store.saves ++ [s.draft]
  accepted : (s.store.save s.draft).1 = true →
    (submit s (currentValues s)).2 = "rebooting\n".toList
      ∧
    (submit s (currentValues s)).1.store.stored = s.draft

/--
A valid draft survives the form as it was filled in: the draft stays as it is, password and channels
without a turnout included, and is what is saved.
-/
theorem resubmits (hN : (N : Int) ≤ INT_MAX) (s : BasicCommissioningSession N)
    (hvalid : s.draft.validate = []) (hhost : ∀ c ∈ s.draft.brokerHost, ¬isSpace c)
    : Resubmits s := by
  have hsubmit := submit_currentValues hN hvalid hhost
  have hsaved := saveAndReboot_of_valid hvalid
  constructor
  . rw [hsubmit]
    exact hsaved.1
  . rw [hsubmit, hsaved.2]
    rfl
  . intro haccepted
    rcases saveAndReboot_cases s with ⟨_, _, hreply, hstored, _⟩ | ⟨hnot, _⟩
    . rw [hsubmit]
      exact ⟨hreply, hstored⟩
    . exact (hnot ⟨hvalid, haccepted⟩).elim

def commissionedNode : BasicCommissioningSession 3 :=
  .new {
    stored := {
      nodeId := 7
      wifiSsid := "lay out".toList
      wifiPassword := "secret".toList
      brokerHost := "10.0.0.5".toList
      channelTurnoutAddresses := ⟨#[12, 0, 2048], rfl⟩
    }
    accepts := fun _ => true
  }

theorem resubmits_commissionedNode : Resubmits commissionedNode := by
  have hhost : Words.IsWord commissionedNode.draft.brokerHost := by
    decide +kernel
  apply resubmits
  . decide
  . decide +kernel
  . intro c hc
    simp [hhost.2 c hc]

end BasicWebFormCommissioningAdapter

end Maltbee
