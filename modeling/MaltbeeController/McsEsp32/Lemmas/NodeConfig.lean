import MaltbeeController.McsEsp32.Impl.NodeConfig

/-!
This module contains what a configuration that passes `validate` is.
-/

namespace Maltbee

theorem to_string_injective : Function.Injective to_string :=
  Decimal.print_injective

attribute [ext] BasicNodeConfig

namespace BasicNodeConfig

variable {N : Nat} (config : BasicNodeConfig N)

def Configured (i : Fin N) : Prop :=
  config.channelTurnoutAddresses.get i ≠ 0

instance (i : Fin N) : Decidable (config.Configured i) :=
  inferInstanceAs (Decidable (_ ≠ _))

structure ChannelValid (i : Fin N) : Prop where
  inRange : config.Configured i →
    kMinTurnoutAddress ≤ config.channelTurnoutAddresses.get i ∧
      config.channelTurnoutAddresses.get i ≤ kMaxTurnoutAddress
  distinct : config.Configured i → ∀ j, i < j →
    config.channelTurnoutAddresses.get j ≠ config.channelTurnoutAddresses.get i

theorem channelErrors_eq_nil_iff (i : Fin N)
    : config.channelErrors i = [] ↔ config.ChannelValid i := by
  unfold channelErrors
  dsimp only
  split
  . next hunconfigured =>
    simp only [true_iff]
    constructor
    . intro h
      contradiction
    . intro h
      contradiction
  . next hconfigured =>
    rw [List.append_eq_nil_iff, List.flatMap_eq_nil_iff]
    constructor
    . intro ⟨hrange, hdistinct⟩
      constructor
      . intro _
        split at hrange
        . contradiction
        . omega
      . intro _ j hij heq
        have := hdistinct j (by simp [hij])
        rw [if_pos heq] at this
        contradiction
    . intro h
      have hrange := h.inRange hconfigured
      constructor
      . rw [if_neg]
        omega
      . intro j hj
        simp only [List.mem_filter, List.mem_finRange, true_and, decide_eq_true_eq] at hj
        rw [if_neg]
        apply h.distinct hconfigured j hj

structure Valid : Prop where
  nodeId : kMinNodeId ≤ config.nodeId ∧ config.nodeId ≤ kMaxNodeId
  wifiSsid : config.wifiSsid ≠ []
  brokerHost : config.brokerHost ≠ []
  brokerPort : kMinBrokerPort ≤ config.brokerPort ∧ config.brokerPort ≤ kMaxBrokerPort
  channels : ∀ i, config.ChannelValid i

theorem validate_eq_nil_iff : config.validate = [] ↔ config.Valid := by
  have hite (c : Prop) [Decidable c] (error : Str)
      : (if c then [error] else []) = [] ↔ ¬c := by
    split
    . next h => simp [h]
    . next h => simp [h]
  unfold validate
  simp only [List.append_eq_nil_iff, hite, List.flatMap_eq_nil_iff, List.mem_finRange, true_implies,
    channelErrors_eq_nil_iff, List.isEmpty_iff]
  constructor
  . intro ⟨⟨⟨⟨hid, hssid⟩, hhost⟩, hport⟩, hchannels⟩
    constructor
    . omega
    . exact hssid
    . exact hhost
    . omega
    . exact hchannels
  . intro ⟨hid, hssid, hhost, hport, hchannels⟩
    refine ⟨⟨⟨⟨?_, hssid⟩, hhost⟩, ?_⟩, hchannels⟩
    . omega
    . omega

variable {config}

theorem Valid.addresses_ne (h : config.Valid) {i j : Fin N} (hi : config.Configured i)
    (hj : config.Configured j) (hne : i ≠ j)
    : config.channelTurnoutAddresses.get i ≠ config.channelTurnoutAddresses.get j := by
  rcases Fin.lt_or_lt_of_ne hne with hlt | hgt
  . have := (h.channels i).distinct hi j hlt
    exact this.symm
  . exact (h.channels j).distinct hj i hgt

end BasicNodeConfig

end Maltbee
