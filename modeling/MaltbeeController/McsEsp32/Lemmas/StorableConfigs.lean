import MaltbeeController.McsEsp32.Impl.SerialCommissioningAdapter
import MaltbeeController.McsEsp32.Impl.WebFormCommissioningAdapter
import MaltbeeController.McsEsp32.Lemmas.CommandGrammar
import MaltbeeController.McsEsp32.Lemmas.CommissioningSession
import MaltbeeController.McsEsp32.Lemmas.NvsConfigStore

/-!
This module contains what a commissioning session hands to its store: configurations that pass the check and
that the flash can hold as they are.
-/

open Words

namespace Maltbee

namespace BasicNodeConfig

variable {N : Nat} (config : BasicNodeConfig N)

structure NulFree : Prop where
  wifiSsid : '\x00' ∉ config.wifiSsid
  wifiPassword : '\x00' ∉ config.wifiPassword
  brokerHost : '\x00' ∉ config.brokerHost

structure Storable : Prop where
  valid : config.Valid
  nulFree : config.NulFree

variable {config}

end BasicNodeConfig

namespace BasicConfigStore

variable {N : Nat} (store : BasicConfigStore N)

def saveAll (configs : List (BasicNodeConfig N)) : BasicConfigStore N :=
  configs.foldl (fun store config => (store.save config).2) store

theorem saveAll_append (configs more : List (BasicNodeConfig N))
    : store.saveAll (configs ++ more) = (store.saveAll configs).saveAll more := by
  apply List.foldl_append

theorem saveAll_concat (configs : List (BasicNodeConfig N)) (config : BasicNodeConfig N)
    : store.saveAll (configs ++ [config]) = ((store.saveAll configs).save config).2 := by
  rw [saveAll_append]
  rfl

theorem saves_saveAll (configs : List (BasicNodeConfig N))
    : (store.saveAll configs).saves = store.saves ++ configs := by
  induction configs using List.reverseRecOn with
  | nil => rw [List.append_nil]; rfl
  | append_singleton configs config ih =>
    rw [saveAll_concat, ← List.append_assoc, ← ih]
    rfl

theorem accepts_saveAll (configs : List (BasicNodeConfig N))
    : (store.saveAll configs).accepts = store.accepts := by
  induction configs using List.reverseRecOn with
  | nil => rfl
  | append_singleton configs config ih =>
    rw [saveAll_concat, ← ih]
    rfl

variable {store}

theorem stored_saveAll (hworks : ∀ n, store.accepts n = true) (configs : List (BasicNodeConfig N))
    : (store.saveAll configs).stored = configs.getLast?.getD store.stored := by
  induction configs using List.reverseRecOn with
  | nil => rfl
  | append_singleton configs config _ =>
    rw [saveAll_concat, List.getLast?_concat, Option.getD_some]
    unfold save
    dsimp only
    rw [accepts_saveAll, hworks, if_pos rfl]

end BasicConfigStore

namespace ParsedCommand

structure NulFree (command : ParsedCommand) : Prop where
  stringArg1 : '\x00' ∉ command.stringArg1
  stringArg2 : '\x00' ∉ command.stringArg2

end ParsedCommand

namespace CommandLineParser

theorem parse_nulFree {line : Str} (h : '\x00' ∉ line) : (parse line).NulFree := by
  have hword {w : Str} (hw : w ∈ words line) : '\x00' ∉ w := by
    intro hc
    exact h (mem_of_mem_words hw hc)
  rcases Command.parse_settles line with ⟨c, hform, hparse⟩ | ⟨_, message, _, hparse⟩
  . rw [hparse]
    generalize hline : words line = tokens at hform
    rw [hline] at hword
    cases hform with
    | @Wifi ssid password => exact ⟨@hword ssid (by simp), @hword password (by simp)⟩
    | @Broker host w _ _ => exact ⟨@hword host (by simp), List.not_mem_nil⟩
    | _ => exact ⟨List.not_mem_nil, List.not_mem_nil⟩
  . rw [hparse]
    exact ⟨List.not_mem_nil, List.not_mem_nil⟩

end CommandLineParser

namespace BasicCommissioningSession

variable {N : Nat}

-- All that has been saved since `store` is storable, and so will be what is saved next.
structure SavesStorable (store : BasicConfigStore N) (s : BasicCommissioningSession N) : Prop where
  draft : s.draft.NulFree
  store : ∃ configs, (∀ config ∈ configs, config.Storable) ∧ s.store = store.saveAll configs

variable {store : BasicConfigStore N} {s : BasicCommissioningSession N}

theorem apply_draft_nulFree (h : s.draft.NulFree) {command : ParsedCommand} (hcommand : command.NulFree)
    : (s.apply command).1.draft.NulFree := by
  unfold apply
  cases command.kind with
  | Id => exact ⟨h.wifiSsid, h.wifiPassword, h.brokerHost⟩
  | Wifi => exact ⟨hcommand.stringArg1, hcommand.stringArg2, h.brokerHost⟩
  | Broker => exact ⟨h.wifiSsid, h.wifiPassword, hcommand.stringArg1⟩
  | TurnoutAddress =>
    dsimp only
    split
    . exact h
    . unfold BasicNodeConfig.withChannelAddress
      dsimp only
      split
      . exact ⟨h.wifiSsid, h.wifiPassword, h.brokerHost⟩
      . exact h
  | Save =>
    dsimp only
    split
    . exact h
    . split
      . exact h
      . exact h
  | Show | Reboot | Invalid => exact h

theorem SavesStorable.apply (h : SavesStorable store s) {command : ParsedCommand}
    (hcommand : command.NulFree)
    : SavesStorable store (s.apply command).1 := by
  refine ⟨apply_draft_nulFree h.draft hcommand, ?_⟩
  rcases h.store with ⟨configs, hstorable, hstore⟩
  rcases apply_store s command with hkept | ⟨hvalid, hsaved⟩
  . rw [hkept]
    exact ⟨configs, hstorable, hstore⟩
  . refine ⟨configs ++ [s.draft], ?_, ?_⟩
    . intro config hmem
      rcases List.mem_append.mp hmem with hold | hnew
      . exact hstorable config hold
      . rw [List.mem_singleton.mp hnew]
        exact ⟨s.draft.validate_eq_nil_iff.mp hvalid, h.draft⟩
    . rw [hsaved, hstore, BasicConfigStore.saveAll_concat]

theorem SavesStorable.unless {res next : BasicCommissioningSession N × Str}
    (h : SavesStorable store res.1) (hnext : SavesStorable store next.1) (reply : Str)
    : SavesStorable store (if res.2 ≠ reply then res else next).1 := by
  split
  . exact h
  . exact hnext

end BasicCommissioningSession

namespace BasicWebFormSubmission

variable {N : Nat}

structure NulFree (form : BasicWebFormSubmission N) : Prop where
  nodeId : '\x00' ∉ form.nodeId
  wifiSsid : '\x00' ∉ form.wifiSsid
  wifiPassword : '\x00' ∉ form.wifiPassword
  brokerHost : '\x00' ∉ form.brokerHost
  brokerPort : '\x00' ∉ form.brokerPort
  channel : ∀ i, '\x00' ∉ form.channelTurnoutAddresses.get i

end BasicWebFormSubmission

namespace BasicWebFormCommissioningAdapter

open BasicCommissioningSession CommandLineParser

variable {N : Nat} {store : BasicConfigStore N} {s : BasicCommissioningSession N}
variable {form : BasicWebFormSubmission N}

theorem not_mem_to_string (v : Int) : '\x00' ∉ to_string v := by
  intro h
  rcases Decimal.mem_print v _ h with hminus | hdigit
  . contradiction
  . contradiction

theorem submitChannels_savesStorable (hform : form.NulFree) (channels : List (Fin N))
    (h : SavesStorable store s)
    : SavesStorable store (submitChannels form channels s).1 := by
  induction channels generalizing s with
  | nil => exact h
  | cons i channels ih =>
    have hnumber := not_mem_to_string (i.val + 1)
    have htext := hform.channel i
    have hfirst : SavesStorable store (s.apply (parse ("turnout ".toList ++ to_string (i.val + 1) ++
        " address ".toList ++ if (form.channelTurnoutAddresses.get i).isEmpty then
          "0".toList
        else
          form.channelTurnoutAddresses.get i))).1 := by
      apply h.apply
      apply parse_nulFree
      split
      . simp [hnumber]
      . simp [hnumber, htext]
    exact hfirst.unless (ih hfirst) _

theorem submit_savesStorable (hform : form.NulFree) (h : SavesStorable store s)
    : SavesStorable store (submit s form).1 := by
  have hid : SavesStorable store (s.apply (parse ("id ".toList ++ form.nodeId))).1 := by
    apply h.apply
    apply parse_nulFree
    simp [hform.nodeId]
  unfold submit
  dsimp only
  generalize s.apply (parse ("id ".toList ++ form.nodeId)) = res at hid ⊢
  have hwifi : SavesStorable store (res.1.apply {
      kind := .Wifi
      stringArg1 := form.wifiSsid
      stringArg2 := if form.wifiPassword.isEmpty then res.1.draft.wifiPassword else form.wifiPassword
    }).1 := by
    apply hid.apply
    refine ⟨hform.wifiSsid, ?_⟩
    dsimp only
    split
    . exact hid.draft.wifiPassword
    . exact hform.wifiPassword
  have hbroker := hwifi.apply (@parse_nulFree ("broker ".toList ++ form.brokerHost ++
    " ".toList ++ form.brokerPort) (by simp [hform.brokerHost, hform.brokerPort]))
  have hchannels := submitChannels_savesStorable hform (List.finRange N) hbroker
  have hsave := hchannels.apply (@parse_nulFree "save".toList (by decide))
  have hreboot := hsave.apply (@parse_nulFree "reboot".toList (by decide))
  apply hid.unless
  apply hwifi.unless
  apply hbroker.unless
  apply hchannels.unless
  apply hsave.unless
  exact hreboot

end BasicWebFormCommissioningAdapter

namespace BasicSerialCommissioningAdapter

open BasicCommissioningSession CommandLineParser

variable {N : Nat}

structure KeepsStorable (store : BasicConfigStore N) (a : BasicSerialCommissioningAdapter N)
    : Prop where
  session : SavesStorable store a.session
  lineBuffer : '\x00' ∉ a.lineBuffer

variable {store : BasicConfigStore N} {a : BasicSerialCommissioningAdapter N}

theorem KeepsStorable.receive (h : KeepsStorable store a) {c : Char} (hc : c ≠ '\x00')
    : KeepsStorable store (a.receive c).1 := by
  unfold BasicSerialCommissioningAdapter.receive
  split
  . refine ⟨?_, List.not_mem_nil⟩
    apply h.session.apply
    apply parse_nulFree
    unfold dropCR
    split
    . intro hmem
      exact h.lineBuffer (List.dropLast_subset _ hmem)
    . exact h.lineBuffer
  . split
    . exact ⟨h.session, List.not_mem_nil⟩
    . refine ⟨h.session, ?_⟩
      rw [List.mem_append, List.mem_singleton]
      rintro (hmem | heq)
      . exact h.lineBuffer hmem
      . exact hc heq.symm

theorem KeepsStorable.poll (h : KeepsStorable store a) {available : Str} (havailable : '\x00' ∉ available)
    : KeepsStorable store (a.poll available).1 := by
  unfold BasicSerialCommissioningAdapter.poll
  induction available generalizing a with
  | nil => exact h
  | cons c available ih =>
    rw [List.mem_cons, not_or] at havailable
    rw [StepRun.run_cons]
    exact ih (h.receive (Ne.symm havailable.1)) havailable.2

end BasicSerialCommissioningAdapter

end Maltbee
