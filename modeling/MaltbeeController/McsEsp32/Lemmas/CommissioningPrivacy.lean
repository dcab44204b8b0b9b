import MaltbeeController.McsEsp32.Impl.SerialCommissioningAdapter
import MaltbeeController.McsEsp32.Impl.SetupFormRenderer

/-!
This module contains the proof that the WiFi password of a node does not leave it through the
commissioning: nothing that is shown depends on which password is stored.
-/

namespace Maltbee

variable {N : Nat}

namespace BasicNodeConfig

def withoutPassword (config : BasicNodeConfig N) : BasicNodeConfig N :=
  { config with wifiPassword := [] }

theorem withoutPassword_withNodeId (config : BasicNodeConfig N) (id : Int)
    : (config.withNodeId id).withoutPassword = config.withoutPassword.withNodeId id := by
  rfl

theorem withoutPassword_withWifi (config : BasicNodeConfig N) (ssid password : Str)
    : (config.withWifi ssid password).withoutPassword = config.withoutPassword.withWifi ssid [] := by
  rfl

theorem withoutPassword_withBroker (config : BasicNodeConfig N) (host : Str) (port : Int)
    : (config.withBroker host port).withoutPassword
        =
      config.withoutPassword.withBroker host port := by
  rfl

theorem withoutPassword_withChannelAddress (config : BasicNodeConfig N) (channel address : Int)
    : (config.withChannelAddress channel address).withoutPassword
        =
      config.withoutPassword.withChannelAddress channel address := by
  unfold withChannelAddress
  split
  . rfl
  . rfl

end BasicNodeConfig

-- Two sessions that differ in nothing but passwords: those of the draft, of the store and of what the
-- store has been given before. Their stores accept and refuse the same calls of `save` from now on.
structure SameButPassword (s s' : BasicCommissioningSession N) : Prop where
  draft : s.draft.withoutPassword = s'.draft.withoutPassword
  stored : s.store.stored.withoutPassword = s'.store.stored.withoutPassword
  accepts (n : Nat)
    : s.store.accepts (s.store.saves.length + n) = s'.store.accepts (s'.store.saves.length + n)
  rebootRequested : s.rebootRequested = s'.rebootRequested

structure SameResult (res res' : BasicCommissioningSession N × Str) : Prop where
  session : SameButPassword res.1 res'.1
  reply : res.2 = res'.2

namespace SameButPassword

variable {s s' : BasicCommissioningSession N}

theorem withDraft (h : SameButPassword s s') {draft draft' : BasicNodeConfig N}
    (hdraft : draft.withoutPassword = draft'.withoutPassword)
    : SameButPassword { s with draft := draft } { s' with draft := draft' } where
  draft := hdraft
  stored := h.stored
  accepts := h.accepts
  rebootRequested := h.rebootRequested

theorem validate (h : SameButPassword s s') : s.draft.validate = s'.draft.validate := by
  calc s.draft.validate
    _ = s.draft.withoutPassword.validate := rfl
    _ = s'.draft.withoutPassword.validate := by rw [h.draft]
    _ = s'.draft.validate := rfl

theorem formatShow (h : SameButPassword s s') : s.formatShow = s'.formatShow := by
  calc s.formatShow
    _ = { s with draft := s.draft.withoutPassword }.formatShow := rfl
    _ = { s with draft := s'.draft.withoutPassword }.formatShow := by rw [h.draft]
    _ = s'.formatShow := rfl

open BasicWebFormCommissioningAdapter in
theorem currentValues_eq (h : SameButPassword s s') : currentValues s = currentValues s' := by
  calc currentValues s
    _ = currentValues { s with draft := s.draft.withoutPassword } := rfl
    _ = currentValues { s with draft := s'.draft.withoutPassword } := by rw [h.draft]
    _ = currentValues s' := rfl

theorem save (h : SameButPassword s s')
    : (s.store.save s.draft).1 = (s'.store.save s'.draft).1
        ∧
      SameButPassword { s with store := (s.store.save s.draft).2 }
        { s' with store := (s'.store.save s'.draft).2 } := by
  have haccepted : s.store.accepts s.store.saves.length = s'.store.accepts s'.store.saves.length :=
    h.accepts 0
  refine ⟨haccepted, h.draft, ?_, ?_, h.rebootRequested⟩
  . unfold BasicConfigStore.save
    dsimp only
    rw [haccepted]
    split
    . exact h.draft
    . exact h.stored
  . intro n
    have := h.accepts (1 + n)
    simpa [BasicConfigStore.save, Nat.add_assoc] using this

theorem reboot (h : SameButPassword s s')
    : SameButPassword { s with rebootRequested := true } { s' with rebootRequested := true } where
  draft := h.draft
  stored := h.stored
  accepts := h.accepts
  rebootRequested := rfl

-- The two commands may even set different passwords.
theorem applyWifi (h : SameButPassword s s') (ssid password password' : Str)
    : SameResult (s.apply { kind := .Wifi, stringArg1 := ssid, stringArg2 := password })
        (s'.apply { kind := .Wifi, stringArg1 := ssid, stringArg2 := password' }) := by
  constructor
  . apply h.withDraft
    rw [BasicNodeConfig.withoutPassword_withWifi, BasicNodeConfig.withoutPassword_withWifi]
    rw [h.draft]
  . rfl

theorem apply (h : SameButPassword s s') (command : ParsedCommand)
    : SameResult (s.apply command) (s'.apply command) := by
  unfold BasicCommissioningSession.apply
  split
  . constructor
    . apply h.withDraft
      rw [BasicNodeConfig.withoutPassword_withNodeId, BasicNodeConfig.withoutPassword_withNodeId]
      rw [h.draft]
    . rfl
  . apply h.applyWifi
  . constructor
    . apply h.withDraft
      rw [BasicNodeConfig.withoutPassword_withBroker, BasicNodeConfig.withoutPassword_withBroker]
      rw [h.draft]
    . rfl
  . split
    . exact ⟨h, rfl⟩
    . constructor
      . apply h.withDraft
        rw [BasicNodeConfig.withoutPassword_withChannelAddress]
        rw [BasicNodeConfig.withoutPassword_withChannelAddress]
        rw [h.draft]
      . rfl
  . exact ⟨h, h.formatShow⟩
  . dsimp only
    rw [h.validate]
    split
    . exact ⟨h, rfl⟩
    . have ⟨haccepted, hsaved⟩ := h.save
      rw [haccepted]
      split
      . exact ⟨hsaved, rfl⟩
      . exact ⟨hsaved, rfl⟩
  . exact ⟨h.reboot, rfl⟩
  . exact ⟨h, rfl⟩

end SameButPassword

theorem SameResult.unless {res res' next next' : BasicCommissioningSession N × Str}
    (h : SameResult res res') (hnext : SameResult next next') (reply : Str)
    : SameResult (if res.2 ≠ reply then res else next) (if res'.2 ≠ reply then res' else next') := by
  rw [h.reply]
  split
  . exact h
  . exact hnext

namespace SameButPassword

open BasicWebFormCommissioningAdapter

variable {s s' : BasicCommissioningSession N}

theorem submitChannels (h : SameButPassword s s') (form : BasicWebFormSubmission N)
    (channels : List (Fin N))
    : SameResult (submitChannels form channels s) (submitChannels form channels s') := by
  induction channels generalizing s s' with
  | nil => exact ⟨h, rfl⟩
  | cons i channels ih =>
    unfold BasicWebFormCommissioningAdapter.submitChannels
    dsimp only
    apply SameResult.unless
    . apply h.apply
    . apply ih
      exact (h.apply _).session

theorem submit (h : SameButPassword s s') (form : BasicWebFormSubmission N)
    : SameResult (submit s form) (submit s' form) := by
  have hid := h.apply (CommandLineParser.parse ("id ".toList ++ form.nodeId))
  -- With a blank password each session goes on with its own one.
  have hwifi (password password' : Str) :=
    hid.session.applyWifi form.wifiSsid password password'
  have hbroker (password password' : Str) := (hwifi password password').session.apply
    (CommandLineParser.parse ("broker ".toList ++ form.brokerHost ++ " ".toList ++ form.brokerPort))
  have hchannels (password password' : Str) :=
    (hbroker password password').session.submitChannels form (List.finRange N)
  have hsave (password password' : Str) :=
    (hchannels password password').session.apply (CommandLineParser.parse "save".toList)
  have hreboot (password password' : Str) :=
    (hsave password password').session.apply (CommandLineParser.parse "reboot".toList)
  apply hid.unless
  apply (hwifi _ _).unless
  apply (hbroker _ _).unless
  apply (hchannels _ _).unless
  apply (hsave _ _).unless
  apply hreboot

end SameButPassword

-- What comes to a node that is commissioned: a character from the serial port, a command, a form, or a
-- request for the setup page when these networks have been found.
inductive CommissioningInput (N : Nat) where
  | receive (c : Char)
  | apply (command : ParsedCommand)
  | submit (form : BasicWebFormSubmission N)
  | render (networks : List ScannedNetwork)

structure CommissioningOutput where
  shown : List Str
  rebootRequested : Bool
  deriving DecidableEq, Repr

open BasicWebFormCommissioningAdapter in
def commission (a : BasicSerialCommissioningAdapter N) (input : CommissioningInput N)
    : BasicSerialCommissioningAdapter N × List CommissioningOutput :=
  match input with
  | .receive c =>
    let res := a.receive c
    (res.1, [⟨res.2.map Execution.written, res.1.session.rebootRequested⟩])
  | .apply command =>
    let res := a.session.apply command
    ({ a with session := res.1 }, [⟨[res.2], res.1.rebootRequested⟩])
  | .submit form =>
    let res := submit a.session form
    ({ a with session := res.1 }, [⟨[res.2], res.1.rebootRequested⟩])
  | .render networks =>
    let page := SetupFormRenderer.render (currentValues a.session) networks
    (a, [⟨[page], a.session.rebootRequested⟩])

structure SameConsole (a a' : BasicSerialCommissioningAdapter N) : Prop where
  session : SameButPassword a.session a'.session
  lineBuffer : a.lineBuffer = a'.lineBuffer

namespace SameConsole

variable {a a' : BasicSerialCommissioningAdapter N}

theorem receive (h : SameConsole a a') (c : Char)
    : SameConsole (a.receive c).1 (a'.receive c).1 ∧ (a.receive c).2 = (a'.receive c).2 := by
  unfold BasicSerialCommissioningAdapter.receive
  rw [h.lineBuffer]
  split
  . have hres := h.session.apply
      (CommandLineParser.parse (BasicSerialCommissioningAdapter.dropCR a'.lineBuffer))
    dsimp only
    rw [hres.reply]
    exact ⟨⟨hres.session, rfl⟩, rfl⟩
  . split
    . exact ⟨⟨h.session, rfl⟩, rfl⟩
    . exact ⟨⟨h.session, rfl⟩, rfl⟩

theorem commission (h : SameConsole a a') (input : CommissioningInput N)
    : SameConsole (commission a input).1 (commission a' input).1
        ∧
      (commission a input).2 = (commission a' input).2 := by
  cases input with
  | receive c =>
    have ⟨hnext, hwritten⟩ := h.receive c
    refine ⟨hnext, ?_⟩
    simp only [Maltbee.commission]
    rw [hwritten, hnext.session.rebootRequested]
  | apply command =>
    have hres := h.session.apply command
    refine ⟨⟨hres.session, h.lineBuffer⟩, ?_⟩
    simp only [Maltbee.commission]
    rw [hres.reply, hres.session.rebootRequested]
  | submit form =>
    have hres := h.session.submit form
    refine ⟨⟨hres.session, h.lineBuffer⟩, ?_⟩
    simp only [Maltbee.commission]
    rw [hres.reply, hres.session.rebootRequested]
  | render networks =>
    refine ⟨h, ?_⟩
    simp only [Maltbee.commission]
    rw [h.session.currentValues_eq, h.session.rebootRequested]

end SameConsole

/--
Which WiFi password is stored makes no difference to anything that is shown, whatever is sent to the
node.
-/
theorem password_not_shown {a a' : BasicSerialCommissioningAdapter N}
    (hsession : SameButPassword a.session a'.session) (hline : a.lineBuffer = a'.lineBuffer)
    (inputs : List (CommissioningInput N))
    : (StepRun.run commission a inputs).2 = (StepRun.run commission a' inputs).2 := by
  have hsame : SameConsole a a' := ⟨hsession, hline⟩
  have := StepRun.run_indistinguishable commission (fun _ _ input h => h.commission input) hsame inputs
  exact this.2

def consoleWith (password : Str) : BasicSerialCommissioningAdapter 1 where
  session := .new {
    stored := { nodeId := 7, wifiSsid := "layout".toList, wifiPassword := password }
    accepts := fun n => n = 1
  }

theorem password_not_shown_blank
    : (StepRun.run commission (consoleWith "secret".toList)
        [
          .submit {
            nodeId := "7".toList
            wifiSsid := "layout".toList
            brokerHost := "broker".toList
            brokerPort := "1883".toList
          },
          .render [],
          .apply { kind := .Save }
        ]).2
        =
      (StepRun.run commission (consoleWith "guess".toList)
        [
          .submit {
            nodeId := "7".toList
            wifiSsid := "layout".toList
            brokerHost := "broker".toList
            brokerPort := "1883".toList
          },
          .render [],
          .apply { kind := .Save }
        ]).2 := by
  apply password_not_shown
  . exact ⟨rfl, rfl, fun _ => rfl, rfl⟩
  . rfl

end Maltbee
