import MaltbeeController.McsEsp32.Impl.NvsConfigStore
import MaltbeeController.McsEsp32.Lemmas.NodeConfig

/-!
This module contains what the flash of a node holds after a `save`, whichever of its writes fail, and what
`save` says about it.
-/

namespace Maltbee

namespace Preferences

variable {prefs prefs' : Preferences} {key : Str}

theorem getInt_of_put {value : Int} (defaultValue : Int) {accepted : Bool}
    (h : prefs'.stored key = if accepted then some (.int value) else prefs.stored key)
    : prefs'.getInt key defaultValue
        =
      if accepted then value else prefs.getInt key defaultValue := by
  unfold getInt
  rw [h]
  cases accepted with
  | true => rfl
  | false => rfl

theorem getString_of_put {value : Str} (defaultValue : Str) {accepted : Bool}
    (h : prefs'.stored key = if accepted then some (.string value) else prefs.stored key)
    : prefs'.getString key defaultValue
        =
      if accepted then value else prefs.getString key defaultValue := by
  unfold getString
  rw [h]
  cases accepted with
  | true => rfl
  | false => rfl

theorem putInt_pos_iff (prefs : Preferences) (key : Str) (value : Int)
    : (prefs.putInt key value).1 > 0 ↔ prefs.accepts prefs.calls = true := by
  by_cases h : prefs.accepts prefs.calls
  . simp [putInt, FlakyStore.put, FlakyStore.call, h]
  . simp [putInt, FlakyStore.put, FlakyStore.call, h]

end Preferences

namespace BasicNvsConfigStore

variable {N : Nat} (prefs : Preferences) (config : BasicNodeConfig N)

theorem channelKey_injective : Function.Injective (channelKey (N := N)) := by
  intro i j h
  have := to_string_injective (List.append_cancel_left h)
  omega

def writes (config : BasicNodeConfig N) : List (Str × NvsValue) :=
  [
    (kKeyNodeId, .int config.nodeId),
    (kKeyWifiSsid, .string (FixedString32.untilTerminator config.wifiSsid)),
    (kKeyWifiPassword, .string (FixedString32.untilTerminator config.wifiPassword)),
    (kKeyBrokerHost, .string (FixedString32.untilTerminator config.brokerHost)),
    (kKeyBrokerPort, .int config.brokerPort)
  ] ++
  (List.finRange N).map fun i => (channelKey i, .int (config.channelTurnoutAddresses.get i))

theorem channelKey_ne {key : Str} (h : key.head? ≠ some 'c') (i : Fin N) : key ≠ channelKey i := by
  intro heq
  rw [heq] at h
  exact h rfl

theorem writes_nodup : ((writes config).map (·.1)).Nodup := by
  have hchannels : (List.map (channelKey (N := N)) (List.finRange N)).Nodup :=
    (List.nodup_finRange N).map channelKey_injective
  have hkeys : [kKeyNodeId, kKeyWifiSsid, kKeyWifiPassword, kKeyBrokerHost, kKeyBrokerPort].Nodup := by
    decide
  have hheads : ∀ key ∈ [kKeyNodeId, kKeyWifiSsid, kKeyWifiPassword, kKeyBrokerHost, kKeyBrokerPort],
      key.head? ≠ some 'c' := by
    decide
  have hmap
      : (writes config).map (·.1)
          =
        [kKeyNodeId, kKeyWifiSsid, kKeyWifiPassword, kKeyBrokerHost, kKeyBrokerPort] ++
          (List.finRange N).map channelKey := by
    simp [writes, Function.comp_def]
  rw [hmap, List.nodup_append]
  refine ⟨hkeys, hchannels, ?_⟩
  intro key hkey key' hkey'
  rcases List.mem_map.mp hkey' with ⟨i, _, rfl⟩
  apply channelKey_ne (hheads key hkey)

theorem foldl_saveChannel (is : List (Fin N)) (acc : Bool × Preferences)
    : (is.foldl (saveChannel config) acc).2
        =
      acc.2.putAll (is.map fun i => (channelKey i, .int (config.channelTurnoutAddresses.get i)))
        ∧
      ((is.foldl (saveChannel config) acc).1 = true
        ↔
      acc.1 = true ∧ ∀ n < is.length, acc.2.accepts (acc.2.calls + n) = true) := by
  induction is generalizing acc with
  | nil => simp
  | cons i is ih =>
    rcases ih (saveChannel config acc i) with ⟨hstore, hok⟩
    constructor
    . rw [List.foldl_cons, hstore]
      rfl
    . have hfirst
          : (saveChannel config acc i).1 = true
              ↔
            acc.2.accepts acc.2.calls = true ∧ acc.1 = true := by
        simp [saveChannel, Preferences.putInt_pos_iff]
      have haccepts : (saveChannel config acc i).2.accepts = acc.2.accepts := rfl
      have hcalls : (saveChannel config acc i).2.calls = acc.2.calls + 1 := rfl
      rw [List.foldl_cons, hok, hfirst, haccepts, hcalls, List.length_cons, Nat.forall_lt_succ_left]
      simp only [Nat.add_zero, Nat.add_assoc, Nat.add_comm 1]
      tauto

theorem save_snd : (save prefs config).2 = (prefs.begin.2).putAll (writes config) := by
  unfold save
  dsimp only
  rw [(foldl_saveChannel config _ _).1, writes, FlakyStore.putAll_append]
  rfl

theorem save_fst_iff
    : (save prefs config).1 = true
        ↔
      prefs.accepts prefs.calls = true ∧ prefs.accepts (prefs.calls + 1) = true ∧
        prefs.accepts (prefs.calls + 5) = true ∧
        ∀ i : Fin N, prefs.accepts (prefs.calls + 6 + i) = true := by
  unfold save
  dsimp only
  rw [(foldl_saveChannel config _ _).2]
  simp only [Bool.and_eq_true, decide_eq_true_eq, Preferences.putInt_pos_iff, List.length_finRange]
  constructor
  . intro ⟨⟨hport, hid, hbegin⟩, hchannels⟩
    exact ⟨hbegin, hid, hport, fun i => hchannels i i.isLt⟩
  . intro ⟨hbegin, hid, hport, hchannels⟩
    exact ⟨⟨hport, hid, hbegin⟩, fun n hn => hchannels ⟨n, hn⟩⟩

theorem stored_save {n : Nat} {key : Str} {value : NvsValue} (h : (writes config)[n]? = some (key, value))
    : (save prefs config).2.stored key
        =
      if prefs.accepts (prefs.calls + 1 + n) then some value else prefs.stored key := by
  rw [save_snd]
  apply FlakyStore.stored_putAll _ (writes_nodup config) h

theorem contents_empty {accepts : Nat → Bool} {calls : Nat}
    : contents (N := N) { stored := fun _ => none, accepts, calls } = .factoryDefault := by
  apply BasicNodeConfig.ext
  . rfl
  . rfl
  . rfl
  . rfl
  . rfl
  . apply Vector.ext
    intro i hi
    simp [contents, Preferences.getInt, BasicNodeConfig.factoryDefault]

theorem load_spec
    : (load (N := N) prefs).1
          = (if prefs.accepts prefs.calls then contents prefs else .factoryDefault)
        ∧
      (load (N := N) prefs).2 = { prefs with calls := prefs.calls + 1 } := by
  refine ⟨?_, rfl⟩
  unfold load Preferences.begin FlakyStore.call
  dsimp only
  split
  . rfl
  . apply contents_empty

theorem load_of_begin (h : prefs.accepts prefs.calls = true)
    : (load (N := N) prefs).1 = contents prefs := by
  rw [(load_spec prefs).1, if_pos h]

theorem contents_channel (i : Fin N)
    : (contents (N := N) prefs).channelTurnoutAddresses.get i = prefs.getInt (channelKey i) 0 := by
  apply Vector.getElem_ofFn

theorem writes_channel (i : Fin N)
    : (writes config)[5 + i.val]?
        =
      some (channelKey i, .int (config.channelTurnoutAddresses.get i)) := by
  unfold writes
  rw [List.getElem?_append_right (by simp)]
  simp

/-
What `save` answers and what is stored after it. The first call that can fail is `begin`, then come
the writes one by one.
-/
structure Saved (prefs : Preferences) (config : BasicNodeConfig N) (res : Bool × Preferences)
    : Prop where
  ok_iff : res.1 = true
      ↔
    prefs.accepts prefs.calls = true ∧ prefs.accepts (prefs.calls + 1) = true ∧
      prefs.accepts (prefs.calls + 5) = true ∧
      ∀ i : Fin N, prefs.accepts (prefs.calls + 6 + i) = true
  nodeId : (contents (N := N) res.2).nodeId
      =
    if prefs.accepts (prefs.calls + 1) then config.nodeId else (contents (N := N) prefs).nodeId
  wifiSsid : (contents (N := N) res.2).wifiSsid
      =
    if prefs.accepts (prefs.calls + 2) then config.wifiSsid else (contents (N := N) prefs).wifiSsid
  wifiPassword : (contents (N := N) res.2).wifiPassword
      =
    if prefs.accepts (prefs.calls + 3) then
      config.wifiPassword
    else
      (contents (N := N) prefs).wifiPassword
  brokerHost : (contents (N := N) res.2).brokerHost
      =
    if prefs.accepts (prefs.calls + 4) then config.brokerHost else (contents (N := N) prefs).brokerHost
  brokerPort : (contents (N := N) res.2).brokerPort
      =
    if prefs.accepts (prefs.calls + 5) then config.brokerPort else (contents (N := N) prefs).brokerPort
  channel : ∀ i : Fin N, (contents (N := N) res.2).channelTurnoutAddresses.get i
      =
    if prefs.accepts (prefs.calls + 6 + i) then
      config.channelTurnoutAddresses.get i
    else
      (contents (N := N) prefs).channelTurnoutAddresses.get i

variable {config}

theorem untilTerminator_eq_self {s : Str} (h : '\x00' ∉ s) : FixedString32.untilTerminator s = s := by
  unfold FixedString32.untilTerminator
  rw [List.takeWhile_eq_self_iff]
  intro c hc
  simp only [decide_eq_true_eq]
  intro heq
  rw [heq] at hc
  exact h hc

theorem string_save {n : Nat} {key value : Str} (hnul : '\x00' ∉ value)
    (h : (writes config)[n]? = some (key, .string (FixedString32.untilTerminator value)))
    : FixedString32.untilTerminator ((save prefs config).2.getString key [])
        =
      if prefs.accepts (prefs.calls + 1 + n) then
        value
      else
        FixedString32.untilTerminator (prefs.getString key []) := by
  rw [Preferences.getString_of_put [] (stored_save prefs config h)]
  rw [apply_ite FixedString32.untilTerminator]
  rw [untilTerminator_eq_self hnul, untilTerminator_eq_self hnul]

theorem saved (hssid : '\x00' ∉ config.wifiSsid) (hpassword : '\x00' ∉ config.wifiPassword)
    (hhost : '\x00' ∉ config.brokerHost)
    : Saved prefs config (save prefs config) := by
  constructor
  . apply save_fst_iff
  . apply Preferences.getInt_of_put
    apply stored_save prefs config (n := 0) rfl
  . apply string_save prefs (n := 1) hssid rfl
  . apply string_save prefs (n := 2) hpassword rfl
  . apply string_save prefs (n := 3) hhost rfl
  . apply Preferences.getInt_of_put
    apply stored_save prefs config (n := 4) rfl
  . intro i
    have h := Preferences.getInt_of_put 0 (stored_save prefs config (writes_channel config i))
    have hcall : prefs.calls + 1 + (5 + i.val) = prefs.calls + 6 + i := by omega
    rw [hcall] at h
    rw [contents_channel, contents_channel]
    exact h

variable {prefs} {res : Bool × Preferences}

theorem Saved.channels (h : Saved prefs config res)
    (haccepted : ∀ i : Fin N, prefs.accepts (prefs.calls + 6 + i) = true)
    : (contents (N := N) res.2).channelTurnoutAddresses = config.channelTurnoutAddresses := by
  apply Vector.ext
  intro i hi
  have := h.channel ⟨i, hi⟩
  rwa [if_pos (haccepted ⟨i, hi⟩)] at this

theorem Saved.numbers (h : Saved prefs config res) (hok : res.1 = true)
    : (contents (N := N) res.2).nodeId = config.nodeId ∧
        (contents (N := N) res.2).brokerPort = config.brokerPort ∧
        (contents (N := N) res.2).channelTurnoutAddresses = config.channelTurnoutAddresses := by
  rcases h.ok_iff.mp hok with ⟨_, hid, hport, hchannels⟩
  refine ⟨?_, ?_, h.channels hchannels⟩
  . rw [h.nodeId, if_pos hid]
  . rw [h.brokerPort, if_pos hport]

theorem Saved.complete (h : Saved prefs config res)
    (haccepted : ∀ n ≤ N + 5, prefs.accepts (prefs.calls + n) = true)
    : res.1 = true ∧ contents res.2 = config := by
  have hchannels (i : Fin N) : prefs.accepts (prefs.calls + 6 + i) = true := by
    rw [Nat.add_assoc]
    exact haccepted (6 + i) (by omega)
  constructor
  . rw [h.ok_iff]
    exact ⟨haccepted 0 (by omega), haccepted 1 (by omega), haccepted 5 (by omega), hchannels⟩
  . apply BasicNodeConfig.ext
    . rw [h.nodeId, if_pos (haccepted 1 (by omega))]
    . rw [h.wifiSsid, if_pos (haccepted 2 (by omega))]
    . rw [h.wifiPassword, if_pos (haccepted 3 (by omega))]
    . rw [h.brokerHost, if_pos (haccepted 4 (by omega))]
    . rw [h.brokerPort, if_pos (haccepted 5 (by omega))]
    . exact h.channels hchannels

theorem Saved.untouched (h : Saved prefs config res)
    (hrefused : ∀ n, 1 ≤ n → n ≤ N + 5 → prefs.accepts (prefs.calls + n) = false)
    : res.1 = false ∧ contents (N := N) res.2 = contents prefs := by
  have hwrite (n : Nat) (hn : 1 ≤ n ∧ n ≤ N + 5) : ¬prefs.accepts (prefs.calls + n) = true := by
    simp [hrefused n hn.1 hn.2]
  constructor
  . rw [Bool.eq_false_iff, ne_eq, h.ok_iff]
    intro ⟨_, hid, _⟩
    exact hwrite 1 (by omega) hid
  . apply BasicNodeConfig.ext
    . rw [h.nodeId, if_neg (hwrite 1 (by omega))]
    . rw [h.wifiSsid, if_neg (hwrite 2 (by omega))]
    . rw [h.wifiPassword, if_neg (hwrite 3 (by omega))]
    . rw [h.brokerHost, if_neg (hwrite 4 (by omega))]
    . rw [h.brokerPort, if_neg (hwrite 5 (by omega))]
    . apply Vector.ext
      intro i hi
      have := h.channel ⟨i, hi⟩
      rwa [Nat.add_assoc, if_neg (hwrite (6 + i) (by omega))] at this

variable (prefs)

/--
Each field that the next `load` returns is the new one if its own write succeeded and the old one
otherwise, as far as `load` opens the namespace. `save` says whether the namespace was open and all numbers
were written; it says nothing about the strings.
-/
theorem save_outcome (hssid : '\x00' ∉ config.wifiSsid) (hpassword : '\x00' ∉ config.wifiPassword)
    (hhost : '\x00' ∉ config.brokerHost)
    : Saved prefs config (save prefs config)
        ∧
      ((save prefs config).1 = true →
        (contents (N := N) (save prefs config).2).nodeId = config.nodeId ∧
          (contents (N := N) (save prefs config).2).brokerPort = config.brokerPort ∧
          (contents (N := N) (save prefs config).2).channelTurnoutAddresses
            = config.channelTurnoutAddresses)
        ∧
      ((∀ n ≤ N + 5, prefs.accepts (prefs.calls + n) = true) →
        (save prefs config).1 = true ∧ contents (save prefs config).2 = config)
        ∧
      ((∀ n, 1 ≤ n → n ≤ N + 5 → prefs.accepts (prefs.calls + n) = false) →
        (save prefs config).1 = false ∧
          contents (N := N) (save prefs config).2 = contents prefs)
        ∧
      ∀ prefs : Preferences,
        (load (N := N) prefs).1
            = (if prefs.accepts prefs.calls then contents prefs else .factoryDefault)
          ∧
        (load (N := N) prefs).2 = { prefs with calls := prefs.calls + 1 } := by
  have h := saved prefs hssid hpassword hhost
  exact ⟨h, h.numbers, h.complete, h.untouched, load_spec⟩

section Runs

def newConfig : BasicNodeConfig 4 where
  nodeId := 7
  wifiSsid := "layout".toList
  brokerHost := "broker".toList
  brokerPort := 1884
  channelTurnoutAddresses := #v[12, 13, 0, 15]

-- An empty namespace in which call number `n` fails.
def failing (n : Nat) : Preferences where
  stored := fun _ => none
  accepts := fun call => decide (call ≠ n)

theorem save_outcome_without_ssid
    : (save (failing 2) newConfig).1 = true
        ∧
      (load (N := 4) (save (failing 2) newConfig).2).1.nodeId = 7
        ∧
      (load (N := 4) (save (failing 2) newConfig).2).1.wifiSsid = [] := by
  have ⟨hsaved, hnumbers, _, _, hload⟩ :=
    @save_outcome 4 (failing 2) newConfig (by decide) (by decide) (by decide)
  have hok : (save (failing 2) newConfig).1 = true := by decide +kernel
  rw [(hload _).1, if_pos (by decide +kernel)]
  refine ⟨hok, (hnumbers hok).1, ?_⟩
  rw [hsaved.wifiSsid]
  decide +kernel

-- Without its SSID a configuration is reported as saved, and one without its port is not but has changed
-- what is loaded. The first call is the `begin` of a `load` before.
theorem not_all_or_nothing
    : let loaded := load (N := 4) (failing 3)
      let withoutSsid := save loaded.2 newConfig
      let loaded' := load (N := 4) (failing 6)
      let withoutPort := save loaded'.2 newConfig
      newConfig.validate = []
        ∧
      (withoutSsid.1 = true ∧ (load withoutSsid.2).1 ≠ newConfig)
        ∧
      (withoutPort.1 = false ∧ (load withoutPort.2).1 ≠ loaded'.1) := by
  decide +kernel

end Runs

end BasicNvsConfigStore

end Maltbee
