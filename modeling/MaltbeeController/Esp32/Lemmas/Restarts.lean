import MaltbeeController.Esp32.Lemmas.SetupRequests
import MaltbeeController.Esp32.Lemmas.StoredConfig
import MaltbeeController.McsEsp32.Lemmas.CommissioningScript
import MaltbeeController.McsEsp32.Lemmas.WebFormCommissioningAdapter

/-!
This module contains the two ways to commission an ESP32 board from end to end: a configuration that is typed
on the serial port and a form that is submitted to the portal are what the board boots with next.
-/

open Words

namespace Maltbee

namespace BasicWebFormCommissioningAdapter

open CommandLineParser

variable {N : Nat} {s : BasicCommissioningSession N} {form : BasicWebFormSubmission N}

theorem submit_of_acceptable (hN : (N : Int) ≤ INT_MAX) {config : BasicNodeConfig N}
    (h : Acceptable s form config)
    : (submit s form).1.store.stored = config ∧ (submit s form).1.rebootRequested = true := by
  have ⟨p, hhost, hport⟩ := h.words
  have hacceptable := (acceptable_iff_of_words hhost hport s config).mpr h
  have hwords : BrokerWords form (trim form.brokerHost) p := by
    unfold BrokerWords
    rw [hhost, hport]
    rfl
  rcases submit_cases hN s form
    with ⟨h', p', config', hwords', hacceptable', _, hstored, hreboot⟩ | ⟨hnone, _⟩
  . have heq := hwords'.symm.trans hwords
    simp only [List.cons.injEq, and_true] at heq
    rw [heq.1, heq.2] at hacceptable'
    rw [hstored, describes_unique hacceptable'.describes hacceptable.describes]
    exact ⟨rfl, hreboot⟩
  . exact (hnone _ _ _ hwords hacceptable).elim

end BasicWebFormCommissioningAdapter

namespace Esp32

open NvsSetupModeRequestStore BasicCommissioningSession BasicSerialCommissioningAdapter
open BasicNvsConfigStore BasicWebFormCommissioningAdapter CommandLineParser

namespace Firmware

variable {N : Nat} {σ : Type u} {f : Firmware N σ} {flash : Flash}
variable {inputs : List (LoopInput N)} {input next : LoopInput N} {s : σ}

theorem life_reboots (hworks : Works flash.mcsBoot) (hwrites : ∀ n, flash.mcsnode.accepts n = true)
    (hinputs : ∀ i ∈ inputs ++ [input], i.NulFree) (hs : s ∈ (f.life flash inputs).program)
    (hreboot : ((f.commissioning s).polled input).session.rebootRequested = true)
    (rest : List (LoopInput N))
    : let b := f.life flash (inputs ++ input :: rest)
      let stored := ((f.commissioning s).polled input).session.store.load
      b.program = none ∧ (Flash.loadRunningConfig b.flash.mcsnode).1 = stored ∧
        (stored.validate = [] → bootModeOf N b.flash = .Normal) := by
  have hsession : (f.commissioning s).session input = ((f.commissioning s).polled input).session := by
    unfold Commissioning.session
    simp [hreboot]
  have hnotsetup : (f.commissioning s).requestsSetup (f.setupActive input.digitalRead) input = false := by
    unfold Commissioning.requestsSetup
    simp [hreboot]
  have ⟨hpending, htick⟩ :=
    iterate_of_some (f := f) hs (life_works hworks inputs) (life_pending hworks inputs s hs) input
  have hnone : (f.life flash (inputs ++ [input])).program = none := by
    rw [(Commissioning.tickStored_eq_none_iff _ _ _).mpr (.inl hreboot), Option.map_eq_none_iff] at htick
    rw [life_concat]
    exact htick
  have hload := life_follows_session hwrites (fun i hi => hinputs i (List.mem_append_left _ hi))
    (hinputs input (by simp)) hs
  rw [hsession] at hload
  rw [← life_concat, hnotsetup] at hpending
  rw [List.append_cons, life_append_of_none hnone]
  refine ⟨hnone, hload, ?_⟩
  intro hvalid
  rw [bootModeOf_eq (life_works hworks _), hpending, hload, hvalid]
  rfl

theorem accepts_of_savesStorable (hwrites : ∀ n, flash.mcsnode.accepts n = true)
    (hinputs : ∀ i ∈ inputs, i.NulFree) (hs : s ∈ (f.life flash inputs).program)
    {session : BasicCommissioningSession N}
    (h : SavesStorable (f.commissioning s).serialCommissioningAdapter.session.store session) (n : Nat)
    : session.store.accepts n = true := by
  have ⟨configs, hstores⟩ := @life_stores N σ f flash inputs hinputs
  rcases h.store with ⟨more, _, hstore⟩
  rw [hstore, BasicConfigStore.accepts_saveAll, hstores.store_eq s hs]
  rw [BasicConfigStore.accepts_saveAll]
  exact Flash.configStore_works hwrites n

theorem life_goes_on (hworks : Works flash.mcsBoot) (hs : s ∈ (f.life flash inputs).program)
    (hreboot : ((f.commissioning s).polled input).session.rebootRequested = false)
    (hrequests : (f.commissioning s).requestsSetup (f.setupActive input.digitalRead) input = false)
    : ∃ s' ∈ (f.life flash (inputs ++ [input])).program,
        (f.commissioning s).Follows (f.commissioning s') (f.setupActive input.digitalRead) input := by
  have ⟨_, htick⟩ :=
    iterate_of_some (f := f) hs (life_works hworks inputs) (life_pending hworks inputs s hs) input
  rw [← life_concat] at htick
  cases hprogram : (f.life flash (inputs ++ [input])).program with
  | none =>
    rw [hprogram, Option.map_none] at htick
    rcases (Commissioning.tickStored_eq_none_iff _ _ _).mp htick.symm with h | h
    . rw [hreboot] at h
      contradiction
    . rw [hrequests] at h
      contradiction
  | some s' =>
    rw [life_concat] at hprogram
    exact ⟨s', rfl, iterate_follows hs hprogram⟩

theorem session_of_submissions {c : Commissioning N} (hmode : c.bootMode = .WirelessSetup)
    (hreboot : (c.polled input).session.rebootRequested = false)
    {earlier : List (BasicWebFormSubmission N)} {form : BasicWebFormSubmission N}
    (hsubmissions : input.submissions = earlier ++ [form])
    : c.session input = (submit (Commissioning.serve (c.polled input).session earlier) form).1 := by
  unfold Commissioning.session
  simp only [hreboot, hmode, hsubmissions, Bool.not_false, decide_true, Bool.and_self, if_true]
  apply List.foldl_append

theorem served_savesStorable (hinputs : ∀ i ∈ inputs, i.NulFree)
    (hs : s ∈ (f.life flash inputs).program) (hinput : input.NulFree)
    {earlier : List (BasicWebFormSubmission N)} (hearlier : ∀ form ∈ earlier, form ∈ input.submissions)
    : SavesStorable (f.commissioning s).serialCommissioningAdapter.session.store
        (Commissioning.serve ((f.commissioning s).polled input).session earlier) := by
  have ⟨configs, hstores⟩ := @life_stores N σ f flash inputs hinputs
  apply Commissioning.serve_savesStorable
  . intro form hform
    exact hinput.submissions form (hearlier form hform)
  . exact ((hstores.keepsStorable hs).poll hinput.serial).session

/--
A form that is submitted to the portal and describes a valid configuration restarts the board in the next
iteration, if nothing is typed before that, and the board comes up in normal mode with that configuration.
-/
theorem submitted_form_boots (hN : (N : Int) ≤ INT_MAX) (hworks : Works flash.mcsBoot)
    (hwrites : ∀ n, flash.mcsnode.accepts n = true) (hmode : bootModeOf N flash = .WirelessSetup)
    (hinputs : ∀ i ∈ inputs ++ [input] ++ [next], i.NulFree)
    (hs : s ∈ (f.life flash inputs).program)
    (hreboot : ((f.commissioning s).polled input).session.rebootRequested = false)
    {earlier : List (BasicWebFormSubmission N)} {form : BasicWebFormSubmission N}
    (hsubmissions : input.submissions = earlier ++ [form]) (hnext : next.serial = [])
    {config : BasicNodeConfig N}
    (hdescribes : Describes form
      (Commissioning.serve ((f.commissioning s).polled input).session earlier).draft config)
    (hvalid : config.validate = []) (rest : List (LoopInput N))
    : let b := f.life flash (inputs ++ input :: next :: rest)
      b.program = none ∧ (Flash.loadRunningConfig b.flash.mcsnode).1 = config ∧
        bootModeOf N b.flash = .Normal := by
  have hcmode : (f.commissioning s).bootMode = .WirelessSetup := by
    rw [life_bootMode inputs s hs]
    exact hmode
  have hsession := session_of_submissions hcmode hreboot hsubmissions
  have hrequests : (f.commissioning s).requestsSetup (f.setupActive input.digitalRead) input = false := by
    unfold Commissioning.requestsSetup
    simp [hcmode]
  have hbefore : ∀ i ∈ inputs, i.NulFree := by
    intro i hi
    apply hinputs
    simp [hi]
  have hearlier : ∀ form ∈ earlier, form ∈ input.submissions := by
    intro form hform
    rw [hsubmissions]
    exact List.mem_append_left _ hform
  have hserved := served_savesStorable hbefore hs (hinputs input (by simp)) hearlier
  have hacceptable : Acceptable (Commissioning.serve ((f.commissioning s).polled input).session earlier)
      form config :=
    ⟨hdescribes, hvalid, accepts_of_savesStorable hwrites hbefore hs hserved _⟩
  have ⟨hstored, hrequested⟩ := submit_of_acceptable hN hacceptable
  have ⟨s', hs', hfollows⟩ := life_goes_on hworks hs hreboot hrequests
  have hpolled : ((f.commissioning s').polled next).session = (f.commissioning s).session input := by
    unfold Commissioning.polled
    rw [hnext, hfollows.adapter]
    rfl
  rw [List.append_cons]
  have h := life_reboots hworks hwrites hinputs hs' (by rw [hpolled, hsession]; exact hrequested) rest
  rw [hpolled, hsession] at h
  dsimp only at h ⊢
  rw [BasicConfigStore.load, hstored] at h
  exact ⟨h.1, h.2.1, h.2.2 hvalid⟩

end Firmware

def plainNode : BasicNodeConfig 12 where
  nodeId := 7
  wifiSsid := "layout".toList
  wifiPassword := "secret".toList
  brokerHost := "broker".toList

def setupFlash : Flash where
  mcsnode := workingFlash.mcsnode
  mcsBoot := (NvsSetupModeRequestStore.requestOnNextBoot workingFlash.mcsBoot).2

def submitting : LoopInput 12 where
  submissions := [{
    nodeId := "7".toList
    wifiSsid := "layout".toList
    wifiPassword := "secret".toList
    brokerHost := " broker".toList
    brokerPort := "1883".toList
  }]
  digitalRead := fun _ => true
  now := fun _ => 0

def received (serial : Str) : LoopInput 12 where
  serial := serial
  digitalRead := fun _ => true
  now := fun _ => 0

theorem submitting_nulFree : submitting.NulFree := by
  refine ⟨by decide, ?_⟩
  intro form hform
  rw [List.mem_singleton.mp hform]
  refine ⟨by decide, by decide, by decide, by decide, by decide, ?_⟩
  decide

theorem submitted_form_boots_plainNode
    : let b := newPanel.life setupFlash [submitting, received []]
      b.program = none ∧ (Flash.loadRunningConfig b.flash.mcsnode).1 = plainNode ∧
        bootModeOf 12 b.flash = .Normal := by
  apply @Firmware.submitted_form_boots 12 _ newPanel setupFlash [] submitting (received []) _ (by decide)
    (fun _ => rfl) (fun _ => rfl) (by decide +kernel) _ rfl (by decide +kernel) [] _ rfl rfl plainNode _
    (by decide) []
  . intro input hinput
    simp only [List.nil_append, List.cons_append, List.mem_cons, List.not_mem_nil, or_false] at hinput
    rcases hinput with rfl | rfl
    . exact submitting_nulFree
    . exact ⟨by decide, List.forall_mem_nil _⟩
  . refine ⟨?_, rfl, rfl, by decide, by decide, ?_, ?_⟩
    . exact (decimalInt_of_isWord (by decide) _).mpr (by decide)
    . exact (decimalInt_of_isWord (by decide) _).mpr (by decide)
    . intro i
      have hblank : ((Vector.replicate 12 []).get i : Str) = [] := Vector.getElem_replicate i.isLt
      have hzero : plainNode.channelTurnoutAddresses.get i = 0 := Vector.getElem_replicate i.isLt
      rw [hzero]
      unfold ChannelText
      rw [hblank]
      rfl

end Esp32

end Maltbee
