import MaltbeeController.Lib.StepRun
import MaltbeeController.McsEsp32.Impl.CommissioningSession

/-!
This module contains the theory of the commissioning session: what one command can do to the draft and
to the store, and from it what is in the store after any number of commands.
-/

namespace Maltbee

namespace BasicCommissioningSession

open StepRun

variable {N : Nat}

def LeavesDraft (N : Nat) (c : ParsedCommand) : Prop :=
  match c.kind with
  | .Id | .Wifi | .Broker => False
  | .TurnoutAddress => c.intArg < 1 ∨ c.intArg > N
  | .Show | .Save | .Reboot | .Invalid => True

-- `draft'` is `draft` with the fields that the command names set to what it says.
def NamedEdit (c : ParsedCommand) (draft draft' : BasicNodeConfig N) : Prop :=
  match c.kind with
  | .Id => draft' = { draft with nodeId := c.intArg }
  | .Wifi => draft' = { draft with wifiSsid := c.stringArg1, wifiPassword := c.stringArg2 }
  | .Broker => draft' = { draft with brokerHost := c.stringArg1, brokerPort := c.intArg2 }
  | .TurnoutAddress =>
    ∃ channel : Fin N, c.intArg = channel + 1 ∧
      draft' = { draft with
        channelTurnoutAddresses := draft.channelTurnoutAddresses.set channel c.intArg2 channel.isLt }
  | .Show | .Save | .Reboot | .Invalid => False

theorem formatShow_head? (s : BasicCommissioningSession N) : s.formatShow.head? = some 'i' := by
  rfl

theorem formatErrors_head? (errors : List Str) : (formatErrors errors).head? = some 'i' := by
  rfl

theorem ne_of_head? {reply reply' : Str} (h : reply.head? ≠ reply'.head?) : reply ≠ reply' := by
  intro heq
  rw [heq] at h
  contradiction

theorem apply_saved_iff (s : BasicCommissioningSession N) (c : ParsedCommand)
    : (s.apply c).2 = "saved\n".toList
        ↔
      c.kind = .Save ∧ s.draft.validate = [] ∧ (s.store.save s.draft).1 := by
  unfold apply
  split
  . next hkind => simp [hkind]
  . next hkind => simp [hkind]
  . next hkind => simp [hkind]
  . next hkind =>
    split
    . simp [hkind]
    . simp [hkind]
  . next hkind =>
    have : s.formatShow ≠ "saved\n".toList := by
      apply ne_of_head?
      rw [formatShow_head?]
      decide
    apply iff_of_false this
    simp [hkind]
  . next hkind =>
    dsimp only
    split
    . next herrors =>
      have : formatErrors s.draft.validate ≠ "saved\n".toList := by
        apply ne_of_head?
        rw [formatErrors_head?]
        decide
      apply iff_of_false this
      simp_all
    . next herrors =>
      simp only [List.isEmpty_iff, Bool.not_eq_true', Bool.not_eq_false] at herrors
      split
      . next hfailed => simp_all
      . next haccepted => simp_all
  . next hkind => simp [hkind]
  . next hkind => simp [hkind]

theorem apply_wifi (s : BasicCommissioningSession N) (ssid password : Str)
    : s.apply { kind := .Wifi, stringArg1 := ssid, stringArg2 := password }
        =
      ({ s with draft := s.draft.withWifi ssid password }, "OK\n".toList) := by
  rfl

theorem apply_save_cases (s : BasicCommissioningSession N)
    : (s.draft.validate = [] ∧ (s.store.save s.draft).1 ∧
          s.apply { kind := .Save } =
            ({ s with store := (s.store.save s.draft).2 }, "saved\n".toList)) ∨
        (¬(s.draft.validate = [] ∧ (s.store.save s.draft).1) ∧
          (s.apply { kind := .Save }).2 ≠ "saved\n".toList ∧
          (s.apply { kind := .Save }).2 ≠ "rebooting\n".toList ∧
          (s.apply { kind := .Save }).1.store.stored = s.store.stored ∧
          (s.apply { kind := .Save }).1.rebootRequested = s.rebootRequested) := by
  unfold apply
  dsimp only
  split
  . next herrors =>
    right
    refine ⟨?_, ?_, ?_, rfl, rfl⟩
    . simp_all
    . apply ne_of_head?
      rw [formatErrors_head?]
      decide
    . apply ne_of_head?
      rw [formatErrors_head?]
      decide
  . next herrors =>
    split
    . next hfailed =>
      right
      have hkept : (s.store.save s.draft).2.stored = s.store.stored := by
        unfold BasicConfigStore.save at *
        simp_all
      refine ⟨?_, ?_, ?_, hkept, rfl⟩
      . simp_all
      . simp
      . simp
    . next haccepted =>
      left
      refine ⟨?_, ?_, rfl⟩
      . simpa using herrors
      . simpa using haccepted

theorem apply_store (s : BasicCommissioningSession N) (c : ParsedCommand)
    : (s.apply c).1.store = s.store ∨
        (s.draft.validate = [] ∧ (s.apply c).1.store = (s.store.save s.draft).2) := by
  unfold apply
  split
  . left; rfl
  . left; rfl
  . left; rfl
  . left
    split
    . rfl
    . rfl
  . left; rfl
  . dsimp only
    split
    . left; rfl
    . next herrors =>
      right
      simp only [List.isEmpty_iff, Bool.not_eq_true', Bool.not_eq_false] at herrors
      split
      . exact ⟨herrors, rfl⟩
      . exact ⟨herrors, rfl⟩
  . left; rfl
  . left; rfl

theorem stored_of_saved {s : BasicCommissioningSession N} {c : ParsedCommand}
    (h : (s.apply c).2 = "saved\n".toList)
    : (s.apply c).1.store.stored = s.draft := by
  rcases (apply_saved_iff s c).mp h with ⟨hkind, hvalid, haccepted⟩
  have hstored : (s.store.save s.draft).2.stored = s.draft := by
    unfold BasicConfigStore.save at *
    dsimp only at *
    simp [haccepted]
  unfold apply
  simp only [hkind, hvalid, List.isEmpty_nil, Bool.not_true, Bool.false_eq_true, ↓reduceIte,
    haccepted]
  exact hstored

theorem apply_leavesDraft {s : BasicCommissioningSession N} {c : ParsedCommand}
    (h : LeavesDraft N c)
    : (s.apply c).1.draft = s.draft := by
  unfold LeavesDraft at h
  unfold apply
  split
  . next hkind => simp [hkind] at h
  . next hkind => simp [hkind] at h
  . next hkind => simp [hkind] at h
  . next hkind =>
    rw [hkind] at h
    rw [if_pos h]
  . rfl
  . dsimp only
    split
    . rfl
    . split
      . rfl
      . rfl
  . rfl
  . rfl

theorem withChannelAddress_eq (draft : BasicNodeConfig N) (channel : Fin N) (address : Int)
    : draft.withChannelAddress (channel + 1) address
        =
      { draft with
        channelTurnoutAddresses := draft.channelTurnoutAddresses.set channel address channel.isLt } := by
  have := channel.isLt
  unfold BasicNodeConfig.withChannelAddress
  rw [dif_pos (by omega)]
  simp

theorem apply_namedEdit {s : BasicCommissioningSession N} {c : ParsedCommand}
    (h : (s.apply c).2 = "OK\n".toList)
    : NamedEdit c s.draft (s.apply c).1.draft := by
  simp only [NamedEdit]
  cases hkind : c.kind with
  | Id => simp [apply, hkind, BasicNodeConfig.withNodeId]
  | Wifi => simp [apply, hkind, BasicNodeConfig.withWifi]
  | Broker => simp [apply, hkind, BasicNodeConfig.withBroker]
  | TurnoutAddress =>
    simp only [apply, hkind] at h ⊢
    split at h
    . simp at h
    . next hrange =>
      rw [if_neg hrange]
      exists ⟨(c.intArg - 1).toNat, by omega⟩
      have heq : c.intArg = ((c.intArg - 1).toNat : Int) + 1 := by omega
      refine ⟨heq, ?_⟩
      rw [← withChannelAddress_eq]
      dsimp only
      rw [← heq]
  | Show =>
    simp only [apply, hkind] at h
    exact absurd h (ne_of_head? (by rw [formatShow_head?]; decide))
  | Save =>
    simp only [apply, hkind] at h
    split at h
    . exact absurd h (ne_of_head? (by rw [formatErrors_head?]; decide))
    . split at h
      . simp at h
      . simp at h
  | Reboot => simp [apply, hkind] at h
  | Invalid => simp [apply, hkind] at h

theorem apply_accepts (s : BasicCommissioningSession N) (c : ParsedCommand)
    : (s.apply c).1.store.accepts = s.store.accepts := by
  rcases apply_store s c with hkept | ⟨_, hsaved⟩
  . rw [hkept]
  . rw [hsaved]
    rfl

structure StoreValid (config : BasicNodeConfig N) (store : BasicConfigStore N) : Prop where
  saves : ∀ saved ∈ store.saves, saved.validate = []
  stored : store.stored = config ∨ store.stored.validate = []

theorem apply_storeValid {config : BasicNodeConfig N} {s : BasicCommissioningSession N}
    (h : StoreValid config s.store) (c : ParsedCommand)
    : StoreValid config (s.apply c).1.store := by
  rcases apply_store s c with hkept | ⟨hvalid, hsaved⟩
  . rw [hkept]
    exact h
  . rw [hsaved]
    constructor
    . simp only [BasicConfigStore.save, List.mem_append, List.mem_singleton]
      intro saved hmem
      cases hmem with
      | inl hold => exact h.saves saved hold
      | inr hnew =>
        rw [hnew]
        exact hvalid
    . simp only [BasicConfigStore.save]
      split
      . right
        exact hvalid
      . exact h.stored

def after (config : BasicNodeConfig N) (accepts : Nat → Bool) (commands : List ParsedCommand)
    : BasicCommissioningSession N × List Str :=
  run call (new { stored := config, accepts }) commands

theorem after_storeValid (config : BasicNodeConfig N) (accepts : Nat → Bool)
    (commands : List ParsedCommand)
    : StoreValid config (after config accepts commands).1.store := by
  apply run_invariant (P := fun s : BasicCommissioningSession N => StoreValid config s.store)
  . constructor
    . simp [new]
    . left; rfl
  . intro s c h
    apply apply_storeValid h c

theorem after_accepts (config : BasicNodeConfig N) (accepts : Nat → Bool)
    (commands : List ParsedCommand)
    : (after config accepts commands).1.store.accepts = accepts := by
  apply run_invariant (P := fun s : BasicCommissioningSession N => s.store.accepts = accepts)
  . rfl
  . intro s c h
    rw [← h]
    apply apply_accepts s c

theorem stored_valid_of_saved (config : BasicNodeConfig N) (accepts : Nat → Bool)
    (commands : List ParsedCommand) (h : "saved\n".toList ∈ (after config accepts commands).2)
    : (after config accepts commands).1.store.stored.validate = [] := by
  apply run_induction call (new { stored := config, accepts })
    (P := fun _ s replies => "saved\n".toList ∈ replies → s.store.stored.validate = [])
  . simp
  . intro _ c s replies _ ih hmem
    rw [List.mem_append] at hmem
    dsimp only [call] at hmem ⊢
    rcases apply_store s c with hkept | ⟨hvalid, hsaved⟩
    . rw [hkept]
      cases hmem with
      | inl hold => exact ih hold
      | inr hnew =>
        rw [List.mem_singleton] at hnew
        have hstored := stored_of_saved hnew.symm
        rw [hkept] at hstored
        rw [hstored]
        exact ((apply_saved_iff s c).mp hnew.symm).2.1
    . rw [hsaved]
      simp only [BasicConfigStore.save]
      split
      . exact hvalid
      . next hfailed =>
        cases hmem with
        | inl hold => exact ih hold
        | inr hnew =>
          rw [List.mem_singleton] at hnew
          exact absurd ((apply_saved_iff s c).mp hnew.symm).2.2 hfailed
  . exact h

/--
The commissioning session saves nothing but valid configurations and says `saved` only when the store
has taken the draft; commands change what they name; and a node that said `saved` boots normally.
-/
theorem commissioning (config : BasicNodeConfig N) (accepts : Nat → Bool)
    (commands : List ParsedCommand)
    : let s := (after config accepts commands).1
      StoreValid config s.store ∧
        (∀ c, (s.apply c).2 = "saved\n".toList ↔
          c.kind = .Save ∧ s.draft.validate = [] ∧ accepts s.store.saves.length) ∧
        (∀ c, (s.apply c).2 = "saved\n".toList → (s.apply c).1.store.load = s.draft) ∧
        (∀ c, LeavesDraft N c → (s.apply c).1.draft = s.draft) ∧
        (∀ c, (s.apply c).2 = "OK\n".toList → NamedEdit c s.draft (s.apply c).1.draft) ∧
        ("saved\n".toList ∈ (after config accepts commands).2 →
          BootModeSelector.select s.store.load false = .Normal) := by
  intro s
  refine ⟨after_storeValid config accepts commands, ?_, ?_, ?_, ?_, ?_⟩
  . intro c
    rw [apply_saved_iff]
    simp only [BasicConfigStore.save]
    rw [after_accepts]
  . intro c h
    apply stored_of_saved h
  . intro c h
    apply apply_leavesDraft h
  . intro c h
    apply apply_namedEdit h
  . intro h
    have := stored_valid_of_saved config accepts commands h
    simp [BootModeSelector.select, BasicConfigStore.load, s, this]

end BasicCommissioningSession

end Maltbee
