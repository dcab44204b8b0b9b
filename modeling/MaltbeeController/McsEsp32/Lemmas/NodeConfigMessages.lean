import Mathlib.Data.List.Count
import Mathlib.Logic.Equiv.Defs
import MaltbeeController.McsEsp32.Lemmas.NodeConfig

/-!
This module contains what the messages of `validate` say about the channels: one message for each pair of
channels that share an address, whatever the order of the channels is.
-/

theorem List.count_flatMap_of_unique {α : Type u} {β : Type v} [BEq β] [LawfulBEq β] {l : List α}
    (hl : l.Nodup) {f : α → List β} {k : α} (hk : k ∈ l) {x : β}
    (h : ∀ k' ∈ l, k' ≠ k → x ∉ f k')
    : (l.flatMap f).count x = (f k).count x := by
  rcases List.append_of_mem hk with ⟨before, after, hsplit⟩
  rw [hsplit] at hl h
  rw [List.nodup_append, List.nodup_cons] at hl
  have hbefore : x ∉ before.flatMap f := by
    rw [List.mem_flatMap]
    intro ⟨k', hk', hx⟩
    apply h k' (by simp [hk']) _ hx
    intro heq
    exact hl.2.2 k' hk' k (by simp) heq
  have hafter : x ∉ after.flatMap f := by
    rw [List.mem_flatMap]
    intro ⟨k', hk', hx⟩
    apply h k' (by simp [hk']) _ hx
    intro heq
    exact hl.2.1.1 (heq ▸ hk')
  rw [hsplit, List.flatMap_append, List.flatMap_cons]
  rw [List.count_append, List.count_append]
  rw [List.count_eq_zero_of_not_mem hbefore, List.count_eq_zero_of_not_mem hafter]
  omega

namespace Maltbee

namespace BasicNodeConfig

variable {N : Nat}

def duplicateMessage (i j : Fin N) (address : Int) : Str :=
  "channels ".toList ++ to_string (i.val + 1) ++ " and ".toList ++ to_string (j.val + 1) ++
    " both claim turnout address ".toList ++ to_string address

theorem duplicateMessage_inj {i j i' j' : Fin N} {address address' : Int}
    (h : duplicateMessage i j address = duplicateMessage i' j' address')
    : i = i' ∧ j = j' ∧ address = address' := by
  have hblank (w rest : Str) : ∀ c ∈ (' ' :: w ++ rest).head?, c.isDigit = false := by
    intro c hc
    rw [List.cons_append, List.head?_cons, Option.mem_some_iff] at hc
    rw [← hc]
    rfl
  unfold duplicateMessage to_string at h
  simp only [List.append_assoc] at h
  have hi := Decimal.numeral_append_inj (Decimal.numeral_print _) (Decimal.numeral_print _)
    (hblank _ _) (hblank _ _) (List.append_cancel_left h)
  have hj := Decimal.numeral_append_inj (Decimal.numeral_print _) (Decimal.numeral_print _)
    (hblank _ _) (hblank _ _) (List.append_cancel_left hi.2)
  have haddress := Decimal.print_injective (List.append_cancel_left hj.2)
  refine ⟨?_, ?_, haddress⟩
  . apply Fin.ext
    omega
  . apply Fin.ext
    omega

-- The message about a shared address is told from all others by its eighth character.
theorem getElem?_duplicateMessage (i j : Fin N) (address : Int)
    : (duplicateMessage i j address)[7]? = some 's' := by
  unfold duplicateMessage
  simp only [List.append_assoc]
  rfl

def rangeMessage (i : Fin N) : Str :=
  "channel ".toList ++ to_string (i.val + 1) ++ " address must be between ".toList ++
    to_string kMinTurnoutAddress ++ " and ".toList ++ to_string kMaxTurnoutAddress

theorem duplicateMessage_not_mem (i j : Fin N) (address : Int) {message : Str}
    (h : message[7]? ≠ some 's') (c : Prop) [Decidable c]
    : duplicateMessage i j address ∉ if c then [message] else [] := by
  split
  . rw [List.mem_singleton]
    intro heq
    apply h
    rw [← heq]
    apply getElem?_duplicateMessage
  . simp

theorem getElem?_rangeMessage (i : Fin N) : (rangeMessage i)[7]? ≠ some 's' := by
  unfold rangeMessage
  simp only [List.append_assoc]
  intro h
  cases h

variable (config : BasicNodeConfig N)

theorem channelErrors_eq (i : Fin N)
    : config.channelErrors i
        =
      if config.channelTurnoutAddresses.get i = 0 then
        []
      else
        (if config.channelTurnoutAddresses.get i < kMinTurnoutAddress ∨
            config.channelTurnoutAddresses.get i > kMaxTurnoutAddress then
          [rangeMessage i]
        else
          []) ++
        ((List.finRange N).filter (i < ·)).flatMap fun (j : Fin N) =>
          if config.channelTurnoutAddresses.get j = config.channelTurnoutAddresses.get i then
            [duplicateMessage i j (config.channelTurnoutAddresses.get i)]
          else
            [] := by
  rfl

theorem not_mem_channelErrors {i k : Fin N} (hne : k ≠ i) (j : Fin N) (address : Int)
    : duplicateMessage i j address ∉ config.channelErrors k := by
  rw [channelErrors_eq]
  split
  . simp
  . rw [List.mem_append, List.mem_flatMap]
    intro h
    rcases h with hrange | ⟨l, _, hdup⟩
    . exact duplicateMessage_not_mem i j address (getElem?_rangeMessage k) _ hrange
    . split at hdup
      . rw [List.mem_singleton] at hdup
        exact hne (duplicateMessage_inj hdup).1.symm
      . contradiction

-- Channel `i` and channel `j` behind it have the same address, which is not `0`.
def Share (i j : Fin N) (address : Int) : Prop :=
  address ≠ 0 ∧ config.channelTurnoutAddresses.get i = address ∧
    config.channelTurnoutAddresses.get j = address

instance (i j : Fin N) (address : Int) : Decidable (config.Share i j address) :=
  inferInstanceAs (Decidable (_ ∧ _ ∧ _))

theorem count_duplicates {i j : Fin N} (hij : i < j) (address : Int)
    : (((List.finRange N).filter (i < ·)).flatMap fun (j : Fin N) =>
          if config.channelTurnoutAddresses.get j = config.channelTurnoutAddresses.get i then
            [duplicateMessage i j (config.channelTurnoutAddresses.get i)]
          else
            []).count (duplicateMessage i j address)
        =
      if config.channelTurnoutAddresses.get i = address ∧
          config.channelTurnoutAddresses.get j = address then
        1
      else
        0 := by
  have hnodup : ((List.finRange N).filter (i < ·)).Nodup := (List.nodup_finRange N).filter _
  rw [List.count_flatMap_of_unique hnodup (k := j) (by simp [hij])]
  . split
    . next hshared =>
      simp only [hshared, and_self]
      split
      . next haddress =>
        rw [haddress]
        apply List.count_singleton_self
      . next haddress =>
        apply List.count_eq_zero_of_not_mem
        rw [List.mem_singleton]
        intro heq
        exact haddress (duplicateMessage_inj heq).2.2.symm
    . next hdistinct =>
      rw [if_neg]
      . rfl
      . intro ⟨hi, hj⟩
        apply hdistinct
        rw [hi, hj]
  . intro l _ hne hmem
    split at hmem
    . rw [List.mem_singleton] at hmem
      exact hne (duplicateMessage_inj hmem).2.1.symm
    . contradiction

theorem count_channelErrors {i j : Fin N} (hij : i < j) (address : Int)
    : (config.channelErrors i).count (duplicateMessage i j address)
        =
      if config.Share i j address then 1 else 0 := by
  rw [channelErrors_eq]
  split
  . next hzero =>
    rw [if_neg]
    . rfl
    . intro h
      apply h.1
      rw [← h.2.1, hzero]
  . next hnonzero =>
    rw [List.count_append]
    rw [List.count_eq_zero_of_not_mem
      (duplicateMessage_not_mem i j address (getElem?_rangeMessage i) _)]
    rw [Nat.zero_add]
    rw [config.count_duplicates hij]
    have hshare : config.Share i j address
        ↔
      config.channelTurnoutAddresses.get i = address ∧
        config.channelTurnoutAddresses.get j = address := by
      apply and_iff_right_of_imp
      intro h
      rw [← h.1]
      exact hnonzero
    simp only [hshare]

theorem count_validate {i j : Fin N} (hij : i < j) (address : Int)
    : config.validate.count (duplicateMessage i j address)
        =
      if config.Share i j address then 1 else 0 := by
  have hfixed {message : Str} (h : message[7]? ≠ some 's') (c : Prop) [Decidable c] :=
    List.count_eq_zero_of_not_mem (duplicateMessage_not_mem i j address h c)
  unfold validate
  simp only [List.count_append]
  rw [hfixed (by decide +kernel), hfixed (by decide +kernel), hfixed (by decide +kernel),
    hfixed (by decide +kernel)]
  rw [List.count_flatMap_of_unique (List.nodup_finRange N) (List.mem_finRange i)]
  . rw [config.count_channelErrors hij]
    omega
  . intro k _ hne
    apply config.not_mem_channelErrors hne

-- What `validate` checks, without the order in which it looks at the channels.
structure Acceptable : Prop where
  nodeId : 1 ≤ config.nodeId ∧ config.nodeId ≤ 99
  wifiSsid : config.wifiSsid ≠ []
  brokerHost : config.brokerHost ≠ []
  brokerPort : 1 ≤ config.brokerPort ∧ config.brokerPort ≤ 65535
  inRange : ∀ i, config.channelTurnoutAddresses.get i ≠ 0 →
    1 ≤ config.channelTurnoutAddresses.get i ∧ config.channelTurnoutAddresses.get i ≤ 2048
  distinct : ∀ i j, i ≠ j → config.channelTurnoutAddresses.get i ≠ 0 →
    config.channelTurnoutAddresses.get i ≠ config.channelTurnoutAddresses.get j

theorem acceptable_iff_valid : config.Acceptable ↔ config.Valid := by
  constructor
  . intro h
    refine ⟨h.nodeId, h.wifiSsid, h.brokerHost, h.brokerPort, ?_⟩
    intro i
    constructor
    . exact h.inRange i
    . intro hi j hij heq
      exact h.distinct i j (Fin.ne_of_lt hij) hi heq.symm
  . intro h
    refine ⟨h.nodeId, h.wifiSsid, h.brokerHost, h.brokerPort, ?_, ?_⟩
    . intro i
      exact (h.channels i).inRange
    . intro i j hne hi heq
      have hj : config.Configured j := by
        unfold Configured
        rw [← heq]
        exact hi
      exact h.addresses_ne hi hj hne heq

def permute (σ : Equiv.Perm (Fin N)) : BasicNodeConfig N :=
  { config with
    channelTurnoutAddresses := .ofFn fun i => config.channelTurnoutAddresses.get (σ i)
  }

theorem get_permute (σ : Equiv.Perm (Fin N)) (i : Fin N)
    : (config.permute σ).channelTurnoutAddresses.get i
        =
      config.channelTurnoutAddresses.get (σ i) := by
  exact Vector.getElem_ofFn i.isLt

variable {config}

theorem Acceptable.permute (h : config.Acceptable) (σ : Equiv.Perm (Fin N))
    : (config.permute σ).Acceptable := by
  refine ⟨h.nodeId, h.wifiSsid, h.brokerHost, h.brokerPort, ?_, ?_⟩
  . intro i
    rw [get_permute]
    exact h.inRange (σ i)
  . intro i j hne
    rw [get_permute, get_permute]
    apply h.distinct
    exact σ.injective.ne hne

theorem Acceptable.of_permute {σ : Equiv.Perm (Fin N)} (h : (config.permute σ).Acceptable)
    : config.Acceptable := by
  refine ⟨h.nodeId, h.wifiSsid, h.brokerHost, h.brokerPort, ?_, ?_⟩
  . intro i
    have := h.inRange (σ.symm i)
    rw [get_permute, σ.apply_symm_apply] at this
    exact this
  . intro i j hne
    have := h.distinct (σ.symm i) (σ.symm j) (σ.symm.injective.ne hne)
    rw [get_permute, get_permute, σ.apply_symm_apply, σ.apply_symm_apply] at this
    exact this

/--
A configuration passes exactly if it is acceptable, each pair of channels that share an address is named
once, and the order of the channels does not matter.
-/
theorem validate_reports (config : BasicNodeConfig N)
    : (config.validate = [] ↔ config.Acceptable) ∧
        (∀ i j, i < j → ∀ address, config.validate.count (duplicateMessage i j address)
          = if config.Share i j address then 1 else 0) ∧
        ∀ σ, (config.permute σ).validate = [] ↔ config.validate = [] := by
  have haccepts (config : BasicNodeConfig N) : config.validate = [] ↔ config.Acceptable := by
    rw [validate_eq_nil_iff, acceptable_iff_valid]
  refine ⟨haccepts config, ?_, ?_⟩
  . intro i j hij address
    apply config.count_validate hij
  . intro σ
    rw [haccepts, haccepts]
    exact ⟨fun h => h.of_permute, fun h => h.permute σ⟩

end BasicNodeConfig

end Maltbee
