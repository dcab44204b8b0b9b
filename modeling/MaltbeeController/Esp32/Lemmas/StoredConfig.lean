import MaltbeeController.Esp32.Lemmas.Life
import MaltbeeController.McsEsp32.Lemmas.StorableConfigs

/-!
This module contains what the flash of an ESP32 board holds after any number of lives: whatever writes
fail, each field passes its own check once it does, and with a flash that works the board boots with what
has been saved last.
-/

namespace Maltbee

namespace Esp32

namespace Flash

open BasicNodeConfig BasicNvsConfigStore

variable {N : Nat} (prefs : Preferences)

theorem saveAll_concat (configs : List (BasicNodeConfig N)) (config : BasicNodeConfig N)
    : saveAll prefs (configs ++ [config]) = (save (saveAll prefs configs) config).2 := by
  unfold saveAll
  rw [List.foldl_append]
  rfl

theorem saveAll_append (configs more : List (BasicNodeConfig N))
    : saveAll prefs (configs ++ more) = saveAll (saveAll prefs configs) more := by
  apply List.foldl_append

theorem save_calls (config : BasicNodeConfig N)
    : (save prefs config).2.accepts = prefs.accepts ∧
        (save prefs config).2.calls = prefs.calls + (N + 6) := by
  rw [save_snd, FlakyStore.accepts_putAll, FlakyStore.calls_putAll]
  refine ⟨rfl, ?_⟩
  have hlength : (writes config).length = N + 5 := by
    simp [writes]
  rw [hlength]
  unfold Preferences.begin FlakyStore.call
  dsimp only
  omega

theorem saveAll_calls (configs : List (BasicNodeConfig N))
    : (saveAll prefs configs).accepts = prefs.accepts ∧
        (saveAll prefs configs).calls = prefs.calls + configs.length * (N + 6) := by
  induction configs using List.reverseRecOn with
  | nil =>
    rw [List.length_nil, Nat.zero_mul]
    exact ⟨rfl, rfl⟩
  | append_singleton configs config ih =>
    have ⟨haccepts, hcalls⟩ := save_calls (saveAll prefs configs) config
    rw [saveAll_concat, haccepts, hcalls, ih.1, ih.2, List.length_append, List.length_singleton]
    refine ⟨rfl, ?_⟩
    rw [Nat.add_mul, Nat.one_mul, Nat.add_assoc]

theorem loadRunningConfig_spec
    : (loadRunningConfig (N := N) prefs).1
          = (if prefs.accepts (prefs.calls + 1) then contents prefs else .factoryDefault)
        ∧
      (loadRunningConfig (N := N) prefs).2 = { prefs with calls := prefs.calls + 2 } := by
  unfold loadRunningConfig
  rw [(load_spec prefs).2]
  apply load_spec

theorem loadRunningConfig_of_begin (h : (load (N := N) prefs).2.begin.1 = true)
    : (loadRunningConfig (N := N) prefs).1 = contents prefs := by
  rw [(loadRunningConfig_spec prefs).1]
  exact if_pos h

variable {prefs}

theorem contents_nulFree : (contents (N := N) prefs).NulFree := by
  have hcut (s : Str) : '\x00' ∉ FixedString32.untilTerminator s := by
    intro h
    have := List.mem_takeWhile_imp h
    simp at this
  exact ⟨hcut _, hcut _, hcut _⟩

theorem load_nulFree : (load (N := N) prefs).1.NulFree := by
  unfold load
  apply contents_nulFree

theorem contents_save (hworks : ∀ n, prefs.accepts n = true) {config : BasicNodeConfig N}
    (hconfig : config.Storable)
    : contents (save prefs config).2 = config := by
  have hnul := hconfig.nulFree
  have h := saved prefs hnul.wifiSsid hnul.wifiPassword hnul.brokerHost
  apply (h.complete _).2
  intro n _
  apply hworks

-- When no call fails, what the session takes to be stored is what the flash holds.
theorem contents_saveAll (hworks : ∀ n, prefs.accepts n = true) {configs : List (BasicNodeConfig N)}
    (hconfigs : ∀ config ∈ configs, config.Storable)
    : contents (saveAll prefs configs) = configs.getLast?.getD (contents prefs) := by
  induction configs using List.reverseRecOn with
  | nil => rfl
  | append_singleton configs config _ =>
    rw [saveAll_concat, List.getLast?_concat, Option.getD_some]
    apply contents_save _ (hconfigs config (by simp))
    intro n
    rw [(saveAll_calls prefs configs).1]
    apply hworks

theorem configStore_works (hworks : ∀ n, prefs.accepts n = true) (n : Nat)
    : (configStore (N := N) prefs).accepts n = true := by
  unfold configStore
  dsimp only
  rw [save_fst_iff]
  exact ⟨hworks _, hworks _, hworks _, fun _ => hworks _⟩

end Flash

-- What the portal reads of a form ends at the first NUL, and nobody types one.
structure LoopInput.NulFree {N : Nat} (input : LoopInput N) : Prop where
  serial : '\x00' ∉ input.serial
  submissions : ∀ form ∈ input.submissions, form.NulFree

namespace Commissioning

open BasicCommissioningSession BasicSerialCommissioningAdapter

variable {N : Nat} {c : Commissioning N} {store : BasicConfigStore N} {input : LoopInput N}

theorem serve_savesStorable {session : BasicCommissioningSession N}
    {submissions : List (BasicWebFormSubmission N)} (hforms : ∀ form ∈ submissions, form.NulFree)
    (h : SavesStorable store session)
    : SavesStorable store (serve session submissions) := by
  unfold serve
  induction submissions generalizing session with
  | nil => exact h
  | cons form submissions ih =>
    apply ih
    . intro form hform
      exact hforms form (List.mem_cons_of_mem _ hform)
    . apply BasicWebFormCommissioningAdapter.submit_savesStorable _ h
      apply hforms
      apply List.mem_cons_self

theorem session_savesStorable (hinput : input.NulFree)
    (h : KeepsStorable store c.serialCommissioningAdapter)
    : SavesStorable store (c.session input) := by
  have hpolled : SavesStorable store (c.polled input).session := (h.poll hinput.serial).session
  unfold Commissioning.session
  dsimp only
  split
  . exact serve_savesStorable hinput.submissions hpolled
  . exact hpolled

end Commissioning

namespace Firmware

open BasicNodeConfig BasicNvsConfigStore BasicCommissioningSession BasicSerialCommissioningAdapter

variable {N : Nat} {σ : Type u} (f : Firmware N σ) (flash : Flash)

-- The flash holds what has been saved since the boot, and the session knows it.
structure Stores (configs : List (BasicNodeConfig N)) (b : Board σ) : Prop where
  storable : ∀ config ∈ configs, config.Storable
  flash_eq : b.flash.mcsnode
      =
    Flash.saveAll (Flash.loadRunningConfig (N := N) flash.mcsnode).2 configs
  lineBuffer : ∀ s ∈ b.program, '\x00' ∉ (f.commissioning s).serialCommissioningAdapter.lineBuffer
  draft : ∀ s ∈ b.program, (f.commissioning s).serialCommissioningAdapter.session.draft.NulFree
  store_eq : ∀ s ∈ b.program, (f.commissioning s).serialCommissioningAdapter.session.store
      =
    (Flash.configStore flash.mcsnode).saveAll configs

variable {f flash} {configs : List (BasicNodeConfig N)} {b : Board σ} {input : LoopInput N}

theorem Stores.switchOn : Stores f flash [] (f.switchOn flash) := by
  constructor
  . exact List.forall_mem_nil _
  . rfl
  . intro s hs
    rw [switchOn_commissioning hs]
    exact List.not_mem_nil
  . intro s hs
    rw [switchOn_commissioning hs]
    exact Flash.load_nulFree
  . intro s hs
    rw [switchOn_commissioning hs]
    rfl

theorem iterate_mcsnode {s : σ} (hprogram : b.program = some s) {more : List (BasicNodeConfig N)}
    (hmore : ((f.commissioning s).session input).store
        =
      (f.commissioning s).serialCommissioningAdapter.session.store.saveAll more)
    : (f.iterate b input).1.flash.mcsnode = Flash.saveAll b.flash.mcsnode more := by
  unfold Firmware.iterate
  rw [hprogram]
  dsimp only
  rw [hmore, BasicConfigStore.saves_saveAll, List.drop_left]

theorem Stores.keepsStorable (h : Stores f flash configs b) {s : σ} (hs : s ∈ b.program)
    : KeepsStorable (f.commissioning s).serialCommissioningAdapter.session.store
        (f.commissioning s).serialCommissioningAdapter :=
  ⟨⟨h.draft s hs, [], List.forall_mem_nil _, rfl⟩, h.lineBuffer s hs⟩

theorem Stores.iterate (h : Stores f flash configs b) (hinput : input.NulFree)
    : ∃ configs', Stores f flash configs' (f.iterate b input).1 := by
  cases hprogram : b.program with
  | none =>
    refine ⟨configs, ?_⟩
    rw [iterate_of_none hprogram]
    exact h
  | some s =>
    have hkeeps := h.keepsStorable hprogram
    have hsession := Commissioning.session_savesStorable hinput hkeeps
    rcases hsession.store with ⟨more, hmore, hstore⟩
    refine ⟨configs ++ more, ?_, ?_, ?_, ?_, ?_⟩
    . intro config hmem
      rcases List.mem_append.mp hmem with hold | hnew
      . exact h.storable config hold
      . exact hmore config hnew
    . rw [iterate_mcsnode hprogram hstore, h.flash_eq, Flash.saveAll_append]
    . intro s' hs'
      rw [(iterate_follows hprogram hs').adapter]
      exact (hkeeps.poll hinput.serial).lineBuffer
    . intro s' hs'
      rw [(iterate_follows hprogram hs').adapter]
      exact hsession.draft
    . intro s' hs'
      rw [(iterate_follows hprogram hs').adapter]
      dsimp only
      rw [hstore, h.store_eq s hprogram]
      exact List.foldl_append.symm

theorem life_stores {inputs : List (LoopInput N)} (hinputs : ∀ input ∈ inputs, input.NulFree)
    : ∃ configs, Stores f flash configs (f.life flash inputs) := by
  induction inputs using List.reverseRecOn with
  | nil => exact ⟨[], .switchOn⟩
  | append_singleton inputs input ih =>
    have ⟨configs, hstores⟩ := ih fun i hi => hinputs i (List.mem_append_left _ hi)
    rw [life_concat]
    exact hstores.iterate (hinputs input (by simp))

end Firmware

namespace Firmware

open BasicNodeConfig BasicNvsConfigStore

variable {N : Nat} {σ : Type u} {f : Firmware N σ} {flash : Flash} {input : LoopInput N}

theorem loadRunningConfig_life (hworks : ∀ n, flash.mcsnode.accepts n = true)
    {configs : List (BasicNodeConfig N)} (hconfigs : ∀ config ∈ configs, config.Storable) {b : Board σ}
    (hflash : b.flash.mcsnode
        =
      Flash.saveAll (Flash.loadRunningConfig (N := N) flash.mcsnode).2 configs)
    : (Flash.loadRunningConfig b.flash.mcsnode).1
        =
      ((Flash.configStore flash.mcsnode).saveAll configs).load := by
  have hloaded : ∀ n, (Flash.loadRunningConfig (N := N) flash.mcsnode).2.accepts n = true := hworks
  have haccepts : b.flash.mcsnode.accepts = flash.mcsnode.accepts := by
    rw [hflash, (Flash.saveAll_calls _ _).1]
    rfl
  have hstored : (Flash.configStore (N := N) flash.mcsnode).stored = contents flash.mcsnode :=
    load_of_begin _ (hworks _)
  rw [Flash.loadRunningConfig_of_begin]
  . unfold BasicConfigStore.load
    rw [hflash, Flash.contents_saveAll hloaded hconfigs]
    rw [BasicConfigStore.stored_saveAll (Flash.configStore_works hworks), hstored]
    rfl
  . apply (congrFun haccepts _).trans
    apply hworks

theorem life_follows_session (hworks : ∀ n, flash.mcsnode.accepts n = true)
    {inputs : List (LoopInput N)} (hinputs : ∀ i ∈ inputs, i.NulFree) (hinput : input.NulFree)
    {s : σ} (hs : s ∈ (f.life flash inputs).program)
    : (Flash.loadRunningConfig (f.life flash (inputs ++ [input])).flash.mcsnode).1
        =
      ((f.commissioning s).session input).store.load := by
  have ⟨configs, h⟩ := @life_stores N σ f flash inputs hinputs
  have hsession := Commissioning.session_savesStorable hinput (h.keepsStorable hs)
  rcases hsession.store with ⟨more, hmore, hstore⟩
  have hall : ∀ config ∈ configs ++ more, config.Storable := by
    intro config hmem
    rcases List.mem_append.mp hmem with hold | hnew
    . exact h.storable config hold
    . exact hmore config hnew
  rw [hstore, h.store_eq s hs, ← BasicConfigStore.saveAll_append, life_concat]
  apply loadRunningConfig_life hworks hall
  rw [iterate_mcsnode hs hstore, h.flash_eq, Flash.saveAll_append]

end Firmware

end Esp32

end Maltbee
