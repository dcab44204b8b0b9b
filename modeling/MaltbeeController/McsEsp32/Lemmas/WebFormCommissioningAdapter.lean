import MaltbeeController.Lib.BoundedArray
import MaltbeeController.McsEsp32.Impl.WebFormCommissioningAdapter
import MaltbeeController.McsEsp32.Lemmas.CommandLineParser
import MaltbeeController.McsEsp32.Lemmas.CommissioningSession

/-!
This module contains the theory of submitted setup forms: which configuration a form describes field by
field, and when `submit` stores it.
-/

namespace Maltbee

namespace BasicWebFormCommissioningAdapter

open BasicCommissioningSession (newNode)
open CommandLineParser
open Words

variable {N : Nat}

-- A blank channel field is a channel without a turnout.
def ChannelText (text : Str) (address : Int) : Prop :=
  if text.isEmpty then address = 0 else DecimalInt text address

-- `config` is what `form` says, each field taken on its own, when it is submitted over `draft`.
structure Describes (form : BasicWebFormSubmission N) (draft config : BasicNodeConfig N)
    : Prop where
  nodeId : DecimalInt form.nodeId config.nodeId
  wifiSsid : config.wifiSsid = form.wifiSsid
  wifiPassword : config.wifiPassword =
    if form.wifiPassword.isEmpty then draft.wifiPassword else form.wifiPassword
  hostIsWord : IsWord (trim form.brokerHost)
  brokerHost : config.brokerHost = trim form.brokerHost
  brokerPort : DecimalInt form.brokerPort config.brokerPort
  channels : ∀ i : Fin N,
    ChannelText (form.channelTurnoutAddresses.get i) (config.channelTurnoutAddresses.get i)

structure Acceptable (s : BasicCommissioningSession N) (form : BasicWebFormSubmission N)
    (config : BasicNodeConfig N)
    : Prop where
  describes : Describes form s.draft config
  valid : config.validate = []
  saved : (s.store.save config).1

structure Rejects (s : BasicCommissioningSession N) (res : BasicCommissioningSession N × Str)
    : Prop where
  not_rebooting : res.2 ≠ "rebooting\n".toList
  stored : res.1.store.stored = s.store.stored
  rebootRequested : res.1.rebootRequested = s.rebootRequested

structure Fails (s : BasicCommissioningSession N) (res : BasicCommissioningSession N × Str)
    : Prop extends Rejects s res where
  not_ok : res.2 ≠ "OK\n".toList

theorem Rejects.of_eq {s s' : BasicCommissioningSession N}
    {res : BasicCommissioningSession N × Str} (h : Rejects s' res) (hstore : s'.store = s.store)
    (hreboot : s'.rebootRequested = s.rebootRequested)
    : Rejects s res := by
  constructor
  . exact h.not_rebooting
  . rw [← hstore]
    exact h.stored
  . rw [← hreboot]
    exact h.rebootRequested

theorem apply_invalid_fails (s : BasicCommissioningSession N) (m : Str)
    : Fails s (s.apply (invalid m)) := by
  constructor
  . constructor
    . simp [BasicCommissioningSession.apply, invalid]
    . rfl
    . rfl
  . simp [BasicCommissioningSession.apply, invalid]

theorem apply_id_cases (s : BasicCommissioningSession N) (text : Str)
    : (∃ v, DecimalInt text v ∧
          s.apply (parse ("id ".toList ++ text)) =
            ({ s with draft := s.draft.withNodeId v }, "OK\n".toList)) ∨
        ((∀ v, ¬DecimalInt text v) ∧ Fails s (s.apply (parse ("id ".toList ++ text)))) := by
  rcases parse_id_cases text with ⟨v, hv, hparse⟩ | ⟨hnone, m, hparse⟩
  . left
    refine ⟨v, hv, ?_⟩
    rw [hparse]
    rfl
  . right
    refine ⟨hnone, ?_⟩
    rw [hparse]
    apply apply_invalid_fails s m

theorem apply_broker_cases (s : BasicCommissioningSession N) (host port : Str)
    : (∃ h p v, words host ++ words port = [h, p] ∧ parseInt p = some v ∧
          s.apply (parse ("broker ".toList ++ host ++ " ".toList ++ port)) =
            ({ s with draft := s.draft.withBroker h v }, "OK\n".toList)) ∨
        ((∀ h p v, words host ++ words port = [h, p] → parseInt p ≠ some v) ∧
          Fails s (s.apply (parse ("broker ".toList ++ host ++ " ".toList ++ port)))) := by
  rcases parse_broker_cases host port with ⟨h, p, v, hwords, hv, hparse⟩ | ⟨hnone, m, hparse⟩
  . left
    refine ⟨h, p, v, hwords, hv, ?_⟩
    rw [hparse]
    rfl
  . right
    refine ⟨hnone, ?_⟩
    rw [hparse]
    apply apply_invalid_fails s m

theorem channelText_iff (text : Str) (address : Int)
    : ChannelText text address
        ↔
      DecimalInt (if text.isEmpty then "0".toList else text) address := by
  unfold ChannelText
  split
  . rw [decimalInt_of_isWord (by decide)]
    have : parseInt "0".toList = some 0 := by decide
    rw [this]
    simp [eq_comm]
  . rfl

def channelCommand (form : BasicWebFormSubmission N) (i : Fin N) : ParsedCommand :=
  parse ("turnout ".toList ++ to_string (i.val + 1) ++ " address ".toList ++
    if (form.channelTurnoutAddresses.get i).isEmpty then
      "0".toList
    else
      form.channelTurnoutAddresses.get i)

theorem submitChannels_cons (form : BasicWebFormSubmission N) (i : Fin N)
    (channels : List (Fin N)) (s : BasicCommissioningSession N)
    : submitChannels form (i :: channels) s
        =
      if (s.apply (channelCommand form i)).2 ≠ "OK\n".toList then
        s.apply (channelCommand form i)
      else
        submitChannels form channels (s.apply (channelCommand form i)).1 := by
  rfl

theorem apply_channel_cases (hN : (N : Int) ≤ INT_MAX) (s : BasicCommissioningSession N)
    (form : BasicWebFormSubmission N) (i : Fin N)
    : (∃ v, ChannelText (form.channelTurnoutAddresses.get i) v ∧
          s.apply (channelCommand form i) =
            (
              { s with draft := { s.draft with
                channelTurnoutAddresses := s.draft.channelTurnoutAddresses.set i v i.isLt } },
              "OK\n".toList
            )) ∨
        ((∀ v, ¬ChannelText (form.channelTurnoutAddresses.get i) v) ∧
          Fails s (s.apply (channelCommand form i))) := by
  have := i.isLt
  have hmin : INT_MIN ≤ 0 := by decide
  simp only [channelText_iff]
  unfold channelCommand
  have hrange : INT_MIN ≤ (i.val : Int) + 1 ∧ (i.val : Int) + 1 ≤ INT_MAX := by omega
  rcases parse_turnout_cases hrange.1 hrange.2
    (if (form.channelTurnoutAddresses.get i).isEmpty then
      "0".toList
    else
      form.channelTurnoutAddresses.get i) with ⟨v, hv, hparse⟩ | ⟨hnone, m, hparse⟩
  . left
    refine ⟨v, hv, ?_⟩
    rw [hparse]
    unfold BasicCommissioningSession.apply
    dsimp only
    rw [if_neg (by omega)]
    rw [BasicCommissioningSession.withChannelAddress_eq]
  . right
    refine ⟨hnone, ?_⟩
    rw [hparse]
    apply apply_invalid_fails s m

theorem submitChannels_cases (hN : (N : Int) ≤ INT_MAX) (form : BasicWebFormSubmission N)
    (channels : List (Fin N)) (s : BasicCommissioningSession N)
    : (∃ addresses : Vector Int N,
          (∀ i ∈ channels, ChannelText (form.channelTurnoutAddresses.get i) (addresses.get i)) ∧
          (∀ i, i ∉ channels → addresses.get i = s.draft.channelTurnoutAddresses.get i) ∧
          submitChannels form channels s =
            (
              { s with draft := { s.draft with channelTurnoutAddresses := addresses } },
              "OK\n".toList
            )) ∨
        ((∃ i : Fin N, ∀ v, ¬ChannelText (form.channelTurnoutAddresses.get i) v) ∧
          Fails s (submitChannels form channels s)) := by
  induction channels generalizing s with
  | nil =>
    left
    exists s.draft.channelTurnoutAddresses
    simp [submitChannels]
  | cons i channels ih =>
    rw [submitChannels_cons]
    rcases apply_channel_cases hN s form i with ⟨v, hv, happly⟩ | ⟨hnone, hfails⟩
    . rw [happly]
      rw [if_neg (by simp)]
      dsimp only
      rcases ih { s with draft := { s.draft with
          channelTurnoutAddresses := s.draft.channelTurnoutAddresses.set i v i.isLt } }
        with ⟨addresses, hin, hout, hsubmit⟩ | ⟨hnone, hfails⟩
      . left
        refine ⟨addresses, ?_, ?_, hsubmit⟩
        . intro j hj
          by_cases hmem : j ∈ channels
          . exact hin j hmem
          . rw [List.mem_cons] at hj
            have hji : j = i := by
              cases hj with
              | inl heq => exact heq
              | inr hmem' => contradiction
            subst hji
            have := hout j hmem
            dsimp only at this
            rw [this]
            simpa [Vector.get_set_fin] using hv
        . intro j hj
          rw [List.mem_cons, not_or] at hj
          rw [hout j hj.2]
          simp [Vector.get_set_fin, Ne.symm hj.1]
      . right
        refine ⟨hnone, ⟨hfails.not_rebooting, hfails.stored, hfails.rebootRequested⟩, ?_⟩
        exact hfails.not_ok
    . right
      rw [if_pos hfails.not_ok]
      exact ⟨⟨i, hnone⟩, hfails⟩

theorem channels_unique {form : BasicWebFormSubmission N} {addresses addresses' : Vector Int N}
    (h : ∀ i : Fin N, ChannelText (form.channelTurnoutAddresses.get i) (addresses.get i))
    (h' : ∀ i : Fin N, ChannelText (form.channelTurnoutAddresses.get i) (addresses'.get i))
    : addresses = addresses' := by
  apply Vector.ext
  intro i hi
  have hi' := h ⟨i, hi⟩
  have hi'' := h' ⟨i, hi⟩
  rw [channelText_iff] at hi' hi''
  apply decimalInt_unique hi' hi''

theorem describes_unique {form : BasicWebFormSubmission N} {draft config config' : BasicNodeConfig N}
    (h : Describes form draft config) (h' : Describes form draft config')
    : config = config' := by
  have hchannels : config.channelTurnoutAddresses = config'.channelTurnoutAddresses := by
    apply channels_unique h.channels h'.channels
  rcases config with ⟨_, _, _, _, _, _⟩
  rcases config' with ⟨_, _, _, _, _, _⟩
  simp only [BasicNodeConfig.mk.injEq]
  refine ⟨?_, ?_, ?_, ?_, ?_, hchannels⟩
  . apply decimalInt_unique h.nodeId h'.nodeId
  . exact h.wifiSsid.trans h'.wifiSsid.symm
  . exact h.wifiPassword.trans h'.wifiPassword.symm
  . exact h.brokerHost.trans h'.brokerHost.symm
  . apply decimalInt_unique h.brokerPort h'.brokerPort

-- The words of the host and port fields as the parser sees them: one after the other.
def BrokerWords (form : BasicWebFormSubmission N) (h p : Str) : Prop :=
  words form.brokerHost ++ words form.brokerPort = [h, p]

theorem BrokerWords.isWord {form : BasicWebFormSubmission N} {h p : Str}
    (hwords : BrokerWords form h p)
    : IsWord h ∧ IsWord p := by
  unfold BrokerWords at hwords
  have hmem : ∀ w ∈ [h, p], IsWord w := by
    rw [← hwords]
    intro w hw
    rw [List.mem_append] at hw
    cases hw with
    | inl hw => exact isWord_of_mem hw
    | inr hw => exact isWord_of_mem hw
  exact ⟨hmem h (by simp), hmem p (by simp)⟩

theorem describes_of_steps {form : BasicWebFormSubmission N} (draft : BasicNodeConfig N)
    {h p : Str} {id port : Int} {addresses : Vector Int N} (hwords : BrokerWords form h p)
    (hid : DecimalInt form.nodeId id) (hport : parseInt p = some port)
    (haddresses : ∀ i : Fin N, ChannelText (form.channelTurnoutAddresses.get i) (addresses.get i))
    : Describes { form with brokerHost := h, brokerPort := p } draft
        {
          nodeId := id
          wifiSsid := form.wifiSsid
          wifiPassword :=
            if form.wifiPassword.isEmpty then draft.wifiPassword else form.wifiPassword
          brokerHost := h
          brokerPort := port
          channelTurnoutAddresses := addresses
        } := by
  rcases hwords.isWord with ⟨hh, hp⟩
  constructor
  . exact hid
  . rfl
  . rfl
  . dsimp only
    rw [trim_of_isWord hh]
    exact hh
  . dsimp only
    rw [trim_of_isWord hh]
  . rw [decimalInt_of_isWord hp]
    exact hport
  . exact haddresses

def saveAndReboot (s : BasicCommissioningSession N) : BasicCommissioningSession N × Str :=
  if (s.apply { kind := .Save }).2 ≠ "saved\n".toList then
    s.apply { kind := .Save }
  else
    (s.apply { kind := .Save }).1.apply { kind := .Reboot }

theorem saveAndReboot_cases (s : BasicCommissioningSession N)
    : (s.draft.validate = [] ∧ (s.store.save s.draft).1 ∧
          (saveAndReboot s).2 = "rebooting\n".toList ∧
          (saveAndReboot s).1.store.stored = s.draft ∧
          (saveAndReboot s).1.rebootRequested) ∨
        (¬(s.draft.validate = [] ∧ (s.store.save s.draft).1) ∧ Rejects s (saveAndReboot s)) := by
  unfold saveAndReboot
  rcases s.apply_save_cases with ⟨hvalid, haccepted, happly⟩ | ⟨hnot, hreply, hreply', hkept, hreboot⟩
  . left
    have hstored := BasicCommissioningSession.stored_of_saved (by rw [happly])
    rw [if_neg (by simp [happly])]
    exact ⟨hvalid, haccepted, rfl, hstored, rfl⟩
  . right
    rw [if_pos hreply]
    exact ⟨hnot, hreply', hkept, hreboot⟩

def submitRest (form : BasicWebFormSubmission N) (s : BasicCommissioningSession N)
    : BasicCommissioningSession N × Str :=
  if (submitChannels form (List.finRange N) s).2 ≠ "OK\n".toList then
    submitChannels form (List.finRange N) s
  else
    saveAndReboot (submitChannels form (List.finRange N) s).1

theorem submitRest_cases (hN : (N : Int) ≤ INT_MAX) (form : BasicWebFormSubmission N)
    (s : BasicCommissioningSession N)
    : (∃ addresses : Vector Int N,
          (∀ i : Fin N,
            ChannelText (form.channelTurnoutAddresses.get i) (addresses.get i)) ∧
          let config := { s.draft with channelTurnoutAddresses := addresses }
          config.validate = [] ∧ (s.store.save config).1 ∧
            (submitRest form s).2 = "rebooting\n".toList ∧
            (submitRest form s).1.store.stored = config ∧
            (submitRest form s).1.rebootRequested) ∨
        ((∀ addresses : Vector Int N,
            (∀ i : Fin N,
              ChannelText (form.channelTurnoutAddresses.get i) (addresses.get i)) →
            let config := { s.draft with channelTurnoutAddresses := addresses }
            ¬(config.validate = [] ∧ (s.store.save config).1)) ∧
          Rejects s (submitRest form s)) := by
  unfold submitRest
  rcases submitChannels_cases hN form (List.finRange N) s
    with ⟨addresses, hin, _, hsubmit⟩ | ⟨⟨i, hnone⟩, hfails⟩
  . have hin : ∀ i : Fin N,
        ChannelText (form.channelTurnoutAddresses.get i) (addresses.get i) := by
      intro i
      apply hin i (List.mem_finRange i)
    rw [hsubmit]
    rw [if_neg (by simp)]
    dsimp only
    rcases saveAndReboot_cases
        { s with draft := { s.draft with channelTurnoutAddresses := addresses } }
      with ⟨hvalid, haccepted, hsaved⟩ | ⟨hnot, hrejects⟩
    . left
      exact ⟨addresses, hin, hvalid, haccepted, hsaved⟩
    . right
      constructor
      . intro addresses' hin'
        have heq : addresses' = addresses := by
          apply channels_unique hin' hin
        rw [heq]
        exact hnot
      . apply hrejects.of_eq
        . rfl
        . rfl
  . right
    rw [if_pos hfails.not_ok]
    constructor
    . intro addresses hin
      exact (hnone _ (hin i)).elim
    . exact hfails.toRejects

def submitBroker (form : BasicWebFormSubmission N) (s : BasicCommissioningSession N)
    : BasicCommissioningSession N × Str :=
  let res := s.apply (parse ("broker ".toList ++ form.brokerHost ++ " ".toList ++ form.brokerPort))
  if res.2 ≠ "OK\n".toList then
    res
  else
    submitRest form res.1

-- `config` is `draft` with the broker and channels of `form`, `h` and `p` being its broker words.
structure EntersBroker (form : BasicWebFormSubmission N) (h p : Str) (draft config : BasicNodeConfig N)
    : Prop where
  words : BrokerWords form h p
  port : parseInt p = some config.brokerPort
  channels : ∀ i : Fin N,
    ChannelText (form.channelTurnoutAddresses.get i) (config.channelTurnoutAddresses.get i)
  config_eq : config
    =
  {
    draft with
    brokerHost := h
    brokerPort := config.brokerPort
    channelTurnoutAddresses := config.channelTurnoutAddresses
  }

theorem submitBroker_cases (hN : (N : Int) ≤ INT_MAX) (form : BasicWebFormSubmission N)
    (s : BasicCommissioningSession N)
    : (∃ h p config, EntersBroker form h p s.draft config ∧
          config.validate = [] ∧ (s.store.save config).1 ∧
            (submitBroker form s).2 = "rebooting\n".toList ∧
            (submitBroker form s).1.store.stored = config ∧
            (submitBroker form s).1.rebootRequested) ∨
        ((∀ h p config, EntersBroker form h p s.draft config →
            ¬(config.validate = [] ∧ (s.store.save config).1)) ∧
          Rejects s (submitBroker form s)) := by
  unfold submitBroker
  rcases apply_broker_cases s form.brokerHost form.brokerPort
    with ⟨h, p, port, hwords, hport, happly⟩ | ⟨hnone, hfails⟩
  . rw [happly]
    rw [if_neg (by simp)]
    dsimp only
    rcases submitRest_cases hN form { s with draft := s.draft.withBroker h port }
      with ⟨addresses, hin, hsubmitted⟩ | ⟨hnot, hrejects⟩
    . left
      exact ⟨h, p, _, ⟨hwords, hport, hin, rfl⟩, hsubmitted⟩
    . right
      constructor
      . intro h' p' config henters
        have hwords' := henters.words
        unfold BrokerWords at hwords'
        rw [hwords] at hwords'
        simp only [List.cons.injEq, and_true] at hwords'
        have hport' := henters.port
        rw [← hwords'.2, hport, Option.some.injEq] at hport'
        have hconfig := henters.config_eq
        rw [← hwords'.1, ← hport'] at hconfig
        rw [hconfig]
        apply hnot _ henters.channels
      . apply hrejects.of_eq
        . rfl
        . rfl
  . right
    rw [if_pos hfails.not_ok]
    constructor
    . intro h p config henters
      exact (hnone h p _ henters.words henters.port).elim
    . exact hfails.toRejects

-- Submitting a form does one of two things: store and reboot with what the form describes once the first
-- of the broker words is taken for the host and the second for the port, or nothing of it.
theorem submit_cases (hN : (N : Int) ≤ INT_MAX) (s : BasicCommissioningSession N)
    (form : BasicWebFormSubmission N)
    : (∃ h p config, BrokerWords form h p ∧
          Acceptable s { form with brokerHost := h, brokerPort := p } config ∧
          (submit s form).2 = "rebooting\n".toList ∧
          (submit s form).1.store.stored = config ∧
          (submit s form).1.rebootRequested) ∨
        ((∀ h p config, BrokerWords form h p →
            ¬Acceptable s { form with brokerHost := h, brokerPort := p } config) ∧
          Rejects s (submit s form)) := by
  unfold submit
  rw [parse_save, parse_reboot]
  dsimp only
  rcases apply_id_cases s form.nodeId with ⟨id, hid, happly⟩ | ⟨hnone, hfails⟩
  . rw [happly]
    rw [if_neg (by simp)]
    dsimp only
    rw [BasicCommissioningSession.apply_wifi]
    rw [if_neg (by simp)]
    rw [← saveAndReboot]
    rw [← submitRest]
    rw [← submitBroker]
    dsimp only
    generalize hs : BasicCommissioningSession.mk s.store _ s.rebootRequested = s₁
    have hstore : s₁.store = s.store := by
      rw [← hs]
    have hreboot : s₁.rebootRequested = s.rebootRequested := by
      rw [← hs]
    rcases submitBroker_cases hN form s₁
      with ⟨h, p, config, henters, hvalid, haccepted, hsaved⟩ | ⟨hnot, hrejects⟩
    . left
      refine ⟨h, p, config, henters.words, ⟨?_, hvalid, hstore ▸ haccepted⟩, hsaved⟩
      rw [henters.config_eq, ← hs]
      apply describes_of_steps s.draft henters.words hid henters.port henters.channels
    . right
      constructor
      . intro h p config hwords hacceptable
        have hdescribes := hacceptable.describes
        have hport : parseInt p = some config.brokerPort := by
          rw [← decimalInt_of_isWord hwords.isWord.2]
          exact hdescribes.brokerPort
        have heq := describes_unique hdescribes
          (describes_of_steps s.draft hwords hid hport hdescribes.channels)
        have henters : EntersBroker form h p s₁.draft config := by
          refine ⟨hwords, hport, hdescribes.channels, ?_⟩
          rw [← hs]
          exact heq
        apply hnot h p config henters
        rw [hstore]
        exact ⟨hacceptable.valid, hacceptable.saved⟩
      . apply hrejects.of_eq hstore hreboot
  . right
    rw [if_pos hfails.not_ok]
    constructor
    . intro h p config _ hacceptable
      exact hnone _ hacceptable.describes.nodeId
    . exact hfails.toRejects

-- `submit` judges every field on its own: it reboots exactly with the forms that describe an acceptable
-- configuration, and stores that configuration then and nothing otherwise.
structure SubmitsFieldByField (s : BasicCommissioningSession N) (form : BasicWebFormSubmission N)
    : Prop where
  rebooting_iff : (submit s form).2 = "rebooting\n".toList ↔ ∃ config, Acceptable s form config
  stored : ∀ config, Acceptable s form config →
    (submit s form).1.store.stored = config ∧ (submit s form).1.rebootRequested
  rejected : (¬∃ config, Acceptable s form config) →
    (submit s form).1.store.stored = s.store.stored ∧
      (submit s form).1.rebootRequested = s.rebootRequested

-- One of the host and port fields is blank, the other one has two words, and the form would be acceptable
-- with the first of them as host and the second as port.
def Bleeds (s : BasicCommissioningSession N) (form : BasicWebFormSubmission N) : Prop :=
  ∃ h p config, (words form.brokerHost = [] ∨ words form.brokerPort = []) ∧
    BrokerWords form h p ∧ Acceptable s { form with brokerHost := h, brokerPort := p } config

theorem Acceptable.words {s : BasicCommissioningSession N} {form : BasicWebFormSubmission N}
    {config : BasicNodeConfig N} (h : Acceptable s form config)
    : ∃ p, Words.words form.brokerHost = [trim form.brokerHost] ∧
        Words.words form.brokerPort = [p] := by
  rcases (decimalInt_iff _ _).mp h.describes.brokerPort with ⟨p, hport, _⟩
  refine ⟨p, ?_, hport⟩
  rw [words_eq_singleton_iff]
  exact ⟨rfl, h.describes.hostIsWord⟩

theorem acceptable_iff_of_words {form : BasicWebFormSubmission N} {h p : Str}
    (hhost : words form.brokerHost = [h]) (hport : words form.brokerPort = [p])
    (s : BasicCommissioningSession N) (config : BasicNodeConfig N)
    : Acceptable s { form with brokerHost := h, brokerPort := p } config
        ↔
      Acceptable s form config := by
  rcases (words_eq_singleton_iff _ _).mp hhost with ⟨htrimHost, hwordHost⟩
  rcases (words_eq_singleton_iff _ _).mp hport with ⟨htrimPort, hwordPort⟩
  have hport' : ∀ v, DecimalInt p v ↔ DecimalInt form.brokerPort v := by
    intro v
    unfold DecimalInt
    rw [htrimPort, trim_of_isWord hwordPort]
  constructor
  . intro ⟨hdescribes, hvalid, hsaved⟩
    refine ⟨⟨hdescribes.nodeId, hdescribes.wifiSsid, hdescribes.wifiPassword, ?_, ?_, ?_,
      hdescribes.channels⟩, hvalid, hsaved⟩
    . rwa [htrimHost]
    . rw [htrimHost, hdescribes.brokerHost]
      apply trim_of_isWord hwordHost
    . exact (hport' _).mp hdescribes.brokerPort
  . intro ⟨hdescribes, hvalid, hsaved⟩
    refine ⟨⟨hdescribes.nodeId, hdescribes.wifiSsid, hdescribes.wifiPassword, ?_, ?_, ?_,
      hdescribes.channels⟩, hvalid, hsaved⟩
    . dsimp only
      rwa [trim_of_isWord hwordHost]
    . dsimp only
      rw [trim_of_isWord hwordHost, ← htrimHost]
      exact hdescribes.brokerHost
    . exact (hport' _).mpr hdescribes.brokerPort

theorem brokerWords_cases {form : BasicWebFormSubmission N} {h p : Str}
    (hwords : BrokerWords form h p)
    : (words form.brokerHost = [] ∨ words form.brokerPort = []) ∨
        (words form.brokerHost = [h] ∧ words form.brokerPort = [p]) := by
  unfold BrokerWords at hwords
  cases hhost : words form.brokerHost with
  | nil => left; left; rfl
  | cons w rest =>
    rw [hhost] at hwords
    simp only [List.cons_append, List.cons.injEq] at hwords
    cases rest with
    | nil =>
      right
      rw [hwords.1]
      exact ⟨rfl, hwords.2⟩
    | cons w' rest =>
      left; right
      simp only [List.cons_append, List.cons.injEq, List.append_eq_nil_iff] at hwords
      exact hwords.2.2.2

/--
`submit` judges every field on its own but for the host and the port, which are put on one line: if one
of them is blank the two words of the other are taken for both.
-/
theorem submitsFieldByField_iff (hN : (N : Int) ≤ INT_MAX) (s : BasicCommissioningSession N)
    (form : BasicWebFormSubmission N)
    : SubmitsFieldByField s form ↔ ¬Bleeds s form := by
  constructor
  . intro h ⟨host, port, config, hblank, hwords, hacceptable⟩
    rcases submit_cases hN s form with ⟨_, _, _, _, _, hreply, _⟩ | ⟨hnone, _⟩
    . rcases h.rebooting_iff.mp hreply with ⟨config', hacceptable'⟩
      rcases hacceptable'.words with ⟨p, hhost, hport⟩
      simp [hhost, hport] at hblank
    . exact hnone host port config hwords hacceptable
  . intro hnot
    rcases submit_cases hN s form
      with ⟨host, port, config, hwords, hacceptable, hreply, hstored, hreboot⟩ | ⟨hnone, hrejects⟩
    . rcases brokerWords_cases hwords with hblank | ⟨hhost, hport⟩
      . exact (hnot ⟨host, port, config, hblank, hwords, hacceptable⟩).elim
      . rw [acceptable_iff_of_words hhost hport] at hacceptable
        constructor
        . simp only [hreply, true_iff]
          exact ⟨config, hacceptable⟩
        . intro config' hacceptable'
          rw [describes_unique hacceptable'.describes hacceptable.describes]
          exact ⟨hstored, hreboot⟩
        . intro hnone
          exact (hnone ⟨config, hacceptable⟩).elim
    . have hnone : ¬∃ config, Acceptable s form config := by
        intro ⟨config, hacceptable⟩
        rcases hacceptable.words with ⟨p, hhost, hport⟩
        rw [← acceptable_iff_of_words hhost hport] at hacceptable
        refine hnone _ _ config ?_ hacceptable
        unfold BrokerWords
        rw [hhost, hport]
        rfl
      constructor
      . simp only [hrejects.not_rebooting, false_iff]
        exact hnone
      . intro config hacceptable
        exact (hnone ⟨config, hacceptable⟩).elim
      . intro _
        exact ⟨hrejects.stored, hrejects.rebootRequested⟩

def filledForm : BasicWebFormSubmission 12 where
  nodeId := "7".toList
  wifiSsid := "layout".toList
  wifiPassword := "secret".toList
  brokerHost := " broker".toList
  brokerPort := "1883 ".toList
  channelTurnoutAddresses := (Vector.replicate 12 []).set 0 "101".toList

theorem submitsFieldByField_iff_filled_form
    : (submit newNode filledForm).2 = "rebooting\n".toList ∧ SubmitsFieldByField newNode filledForm := by
  refine ⟨by decide +kernel, (submitsFieldByField_iff (by decide) newNode filledForm).mpr ?_⟩
  intro ⟨_, _, _, hblank, _⟩
  exact absurd hblank (by decide)

theorem not_submitsFieldByField_blank_port
    : ¬SubmitsFieldByField newNode {
        nodeId := "5".toList
        wifiSsid := "layout".toList
        brokerHost := "10.0.0.5 1883".toList
      } := by
  intro h
  have hreply := h.rebooting_iff.mp (by decide +kernel)
  rcases hreply with ⟨config, hacceptable⟩
  rcases hacceptable.words with ⟨p, _, hport⟩
  simp at hport

end BasicWebFormCommissioningAdapter

end Maltbee
