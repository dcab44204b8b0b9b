import MaltbeeController.Esp32.Lemmas.Presses
import MaltbeeController.McsEsp32.Lemmas.MatrixScanner

/-!
This module contains the proof that the panel takes no key of its matrix for another one: behind each command
is a column that was active while the row of the very key was driven.
-/

namespace Maltbee

open MatrixScanner (kRowCount kColumnCount)
open StepRun (run run_concat halting)

namespace MatrixBoard

-- A cell of the cache is from the last time its row was driven, at most three updates ago.
theorem recent_of_isActive {inputs : List Columns} {row : Fin kRowCount} {col : Fin kColumnCount}
    (h : (run update {} inputs).1.scanner.isActive row col = true)
    : ∃ (n : Nat) (columns : Columns) (rows : Fin kRowCount → Bool),
        inputs[n]? = some columns ∧ inputs.length ≤ n + 3 ∧
          row.val = n % kRowCount ∧ columns rows col = true := by
  have hinv := inv_run inputs
  have hscans := Scans.of_inv hinv
  rw [hscans.isActive] at h
  cases hlast : lastScan (run update {} inputs).2 row with
  | none => simp [hlast] at h
  | some scan =>
    rw [hlast, Option.map_some, Option.getD_some] at h
    have ⟨n, hscan, hrecent⟩ := hscans.exists_getElem?_of_lastScan hinv.length hlast
    have hdriven := (rows_of_lastScan hlast).1
    rw [hscans.rows n scan hscan, decide_eq_true_iff] at hdriven
    have ⟨columns, hcolumns, hread⟩ := hscans.read n scan hscan
    rw [hread] at h
    exact ⟨n, columns, scan.rows, hcolumns, hrecent, hdriven, h⟩

theorem nextRow_run (inputs : List Columns)
    : (run update {} inputs).1.scanner.nextRow = ⟨inputs.length % kRowCount, Nat.mod_lt _ (by decide)⟩ := by
  have hinv := inv_run inputs
  have hnext := nextRow_eq hinv.currentRow
  rw [hnext, Fin.mk.injEq, hinv.length]

end MatrixBoard

namespace Esp32

open Round (replay replay_concat)

variable {β : Type u} {δ : Type v} [LedPairStation δ]

theorem replay_button (i : Nat) (u : StationUnit β δ) (rounds : List Round)
    : (replay i u rounds).button = u.button := by
  induction rounds using List.reverseRecOn with
  | nil => rfl
  | append_singleton rounds r ih =>
    rw [replay_concat, ← ih]
    exact r.prepare_button i _

namespace Panel

variable {N : Nat}

def columns (input : LoopInput N) : Columns :=
  fun _ col => (matrixColumn col).isActive input.digitalRead

theorem loop_matrixScanner {p p' : Panel N} {input : LoopInput N}
    (hmode : p.node.bootMode ≠ .WirelessSetup) (hp' : p' ∈ (p.loop input).1)
    : p'.matrixScanner = p.scan input := by
  have hmode : (p.node.pollSerial input).1.bootMode ≠ .WirelessSetup := hmode
  unfold loop at hp'
  dsimp only at hp'
  split at hp'
  . contradiction
  . split at hp'
    . contradiction
    . rw [← Option.mem_some_iff.mp hp']
      rfl

theorem run_matrixScanner {p : Panel N} (hnew : p.matrixScanner = {})
    (hmode : p.node.bootMode ≠ .WirelessSetup) (inputs : List (LoopInput N))
    : ∀ p' ∈ (run (halting Panel.loop) (some p) inputs).1,
        p'.matrixScanner = (run MatrixBoard.update {} (inputs.map columns)).1.scanner := by
  induction inputs using List.reverseRecOn with
  | nil =>
    intro p' hp'
    rw [← Option.mem_some_iff.mp hp']
    exact hnew
  | append_singleton inputs input ih =>
    intro p' hp'
    rw [run_concat] at hp'
    cases hbefore : (run (halting Panel.loop) (some p) inputs).1 with
    | none =>
      rw [hbefore] at hp'
      contradiction
    | some p₁ =>
      rw [hbefore] at hp'
      have hmode₁ : p₁.node.bootMode ≠ .WirelessSetup := by
        rw [playsRounds.run_bootMode p inputs p₁ hbefore]
        exact hmode
      rw [loop_matrixScanner hmode₁ hp', List.map_append, List.map_singleton, run_concat]
      unfold scan
      rw [ih p₁ hbefore]
      rfl

theorem drive_mem_loop {p p' : Panel N} {input : LoopInput N} (hmode : p.node.bootMode ≠ .WirelessSetup)
    (hp' : p' ∈ (p.loop input).1)
    : .drive ⟨p.matrixScanner.nextRow, true⟩ ∈ (p.loop input).2 := by
  have hmode : (p.node.pollSerial input).1.bootMode ≠ .WirelessSetup := hmode
  unfold loop at hp' ⊢
  dsimp only at hp' ⊢
  split at hp'
  . contradiction
  . next hreboot =>
    rw [if_neg hreboot, if_neg hmode]
    rw [MatrixScanner.update_writes]
    split
    . simp
    . simp

theorem drive_mem_run {p : Panel N} (hnew : p.matrixScanner = {}) (hmode : p.node.bootMode ≠ .WirelessSetup)
    {inputs : List (LoopInput N)} {p' : Panel N}
    (hp' : p' ∈ (run (halting Panel.loop) (some p) inputs).1) {n : Nat} {scanned : LoopInput N}
    (hn : inputs[n]? = some scanned)
    : ∃ p₁ ∈ (run (halting Panel.loop) (some p) (inputs.take n)).1,
        .drive ⟨⟨n % kRowCount, Nat.mod_lt _ (by decide)⟩, true⟩ ∈ (p₁.loop scanned).2 := by
  have ⟨hlt, hget⟩ := List.getElem?_eq_some_iff.mp hn
  have hsplit : inputs = inputs.take n ++ scanned :: inputs.drop (n + 1) := by
    rw [← hget, List.getElem_cons_drop, List.take_append_drop]
  rw [hsplit] at hp'
  have ⟨p₁, hp₁, p₂, hp₂⟩ := StepRun.exists_of_run_halting hp'
  refine ⟨p₁, hp₁, ?_⟩
  have hmode₁ : p₁.node.bootMode ≠ .WirelessSetup := by
    rw [playsRounds.run_bootMode p _ p₁ hp₁]
    exact hmode
  have hdrive := drive_mem_loop hmode₁ hp₂
  rw [run_matrixScanner hnew hmode _ p₁ hp₁, MatrixBoard.nextRow_run] at hdrive
  simp only [List.length_map, List.length_take, Nat.min_eq_left hlt.le] at hdrive
  exact hdrive

theorem exists_of_mem_commands {p : Panel N} {wirings : List (MatrixDigitalInput × Int × List Char)}
    {bootMode : BootMode} {now : Nat → Nat → Millis}
    (hunits : p.node.units = wirings.mapIdx (Node.bootUnit bootMode now)) {inputs : List (LoopInput N)}
    {p' : Panel N} (hp' : p' ∈ (run (halting Panel.loop) (some p) inputs).1) {input : LoopInput N}
    {command : TurnoutCommand} (hcommand : command ∈ commands (p'.loop input).2)
    : p.node.bootMode ≠ .WirelessSetup ∧ (∃ p'', p'' ∈ (p'.loop input).1) ∧
        ∃ (i : Nat) (wiring : MatrixDigitalInput × Int × List Char), wirings[i]? = some wiring ∧
          wiring.2.1 = command.address ∧ wiring.1.isActive (p'.scan input) = true := by
  have hbootMode := playsRounds.run_bootMode p inputs p' hp'
  by_cases hmode : p.node.bootMode = .WirelessSetup
  . rw [(playsRounds.served p' input (hbootMode.trans hmode)).1] at hcommand
    contradiction
  refine ⟨hmode, ?_⟩
  cases hnext : (p'.loop input).1 with
  | none =>
    rw [playsRounds.restarted p' input hnext] at hcommand
    contradiction
  | some p'' =>
    refine ⟨⟨p'', rfl⟩, ?_⟩
    have hattended := playsRounds.attended p' input (hbootMode ▸ hmode) p'' hnext
    have hunits' := (playsRounds.history_eq_log p hmode inputs).2 p' hp'
    have hsent : commands (p'.loop input).2
        = (Round.playAll _ _ p'.node.units (p'.round input)).2 := congrArg Prod.snd hattended
    rw [hsent, hunits'] at hcommand
    have ⟨i, u, hu, hmem⟩ := exists_of_mem_playAll hcommand
    have hunit := Round.run_playAll_component p.node.units
      ((history Panel.loop Panel.node Panel.round p inputs).map (·.1)) i
    rw [← hunits', hu, Option.map_some] at hunit
    rw [hunits, List.getElem?_mapIdx, Option.map_eq_some_iff] at hu
    have ⟨wiring, hwiring, hboot⟩ := hu
    have hnew := Node.bootUnit_new (δ := LedPairDriver) bootMode now i wiring
    have hbutton : u.button = wiring.1 := by
      rw [← hboot]
      rfl
    rw [hboot] at hnew
    have hknows := replay_knows (i := i) hnew
      ((history Panel.loop Panel.node Panel.round p inputs).map (·.1))
    have hclosed := (p'.round input).closed_of_mem_play i hknows hmem
    refine ⟨i, wiring, hwiring, ?_, ?_⟩
    . rw [← hknows.address]
      exact ((p'.round input).address_of_mem_play i _ command hmem).symm
    . unfold Round.closed at hclosed
      rw [Bool.and_eq_true] at hclosed
      have hpressed : (p'.node.units[i]?.any fun u => u.button.isActive (p'.scan input)) = true :=
        hclosed.2
      rw [hunit, Option.any_some, replay_button, hbutton] at hpressed
      exact hpressed

/--
The panel sends a command only if the column of the key of its station has been active in this iteration or
one of the two before it, and that iteration has driven the row of this very key.
-/
theorem commands_scanned (ownMac : MacAddress) (configStore : BasicConfigStore 12)
    (runningConfig : BasicNodeConfig 12) (wirelessSetupRequested : Bool) (now : Nat → Nat → Millis)
    (inputs : List (LoopInput 12))
    : let p := Panel.boot ownMac configStore runningConfig wirelessSetupRequested now
      ∀ p' ∈ (run (halting Panel.loop) (some p) inputs).1, ∀ input,
        ∀ command ∈ commands (p'.loop input).2,
          ∃ config ∈ TURNOUT_CONFIGS, config.2.1 = command.address ∧
            ∃ (n : Nat) (scanned : LoopInput 12), (inputs ++ [input])[n]? = some scanned ∧
              inputs.length ≤ n + 2 ∧ config.1.row.val = n % kRowCount ∧
                (matrixColumn config.1.col).isActive scanned.digitalRead = true ∧
                ∃ p₁ ∈ (run (halting Panel.loop) (some p) ((inputs ++ [input]).take n)).1,
                  .drive ⟨config.1.row, true⟩ ∈ (p₁.loop scanned).2 := by
  intro p p' hp' input command hcommand
  have ⟨hmode, ⟨p'', hp''⟩, i, config, hconfig, haddress, hactive⟩ :=
    exists_of_mem_commands rfl hp' hcommand
  have hscanner := run_matrixScanner (p := p) rfl hmode inputs p' hp'
  have hscan
      : p'.scan input
          =
        (run MatrixBoard.update {} ((inputs ++ [input]).map columns)).1.scanner := by
    unfold scan
    rw [hscanner, List.map_append, List.map_singleton, run_concat]
    rfl
  unfold MatrixDigitalInput.isActive at hactive
  rw [hscan] at hactive
  have ⟨n, column, rows, hcolumn, hrecent, hrow, hread⟩ := MatrixBoard.recent_of_isActive hactive
  rw [List.getElem?_map, Option.map_eq_some_iff] at hcolumn
  have ⟨scanned, hscanned, hcolumns⟩ := hcolumn
  rw [← hcolumns] at hread
  have hlast : p'' ∈ (run (halting Panel.loop) (some p) (inputs ++ [input])).1 := by
    rw [run_concat, Option.mem_def.mp hp']
    exact hp''
  have ⟨p₁, hp₁, hdrive⟩ := drive_mem_run rfl hmode hlast hscanned
  refine ⟨config, List.mem_of_getElem? hconfig, haddress, n, scanned, hscanned, ?_, hrow, hread, p₁, hp₁,
    ?_⟩
  . rw [List.length_map, List.length_append, List.length_singleton] at hrecent
    omega
  . rw [show config.1.row = ⟨n % kRowCount, Nat.mod_lt _ (by decide)⟩ from Fin.ext hrow]
    exact hdrive

theorem commands_scanned_held
    : ∃ p' ∈ (run (halting Panel.loop) (some panel) [held 12 0 []]).1,
        ⟨1, .thrown⟩ ∈ commands (p'.loop (held 12 30 [])).2 ∧
          ∃ config ∈ TURNOUT_CONFIGS, config.2.1 = 1 ∧
            ∃ (n : Nat) (scanned : LoopInput 12),
              ([held 12 0 []] ++ [held 12 30 []])[n]? = some scanned ∧ 1 ≤ n + 2 ∧
                config.1.row.val = n % kRowCount ∧
                  (matrixColumn config.1.col).isActive scanned.digitalRead = true ∧
                  ∃ p₁ ∈ (run (halting Panel.loop) (some panel)
                      (([held 12 0 []] ++ [held 12 30 []]).take n)).1,
                    .drive ⟨config.1.row, true⟩ ∈ (p₁.loop scanned).2 := by
  have hsent : ((run (halting Panel.loop) (some panel) [held 12 0 []]).1.any fun p' =>
      decide (⟨1, .thrown⟩ ∈ commands (p'.loop (held 12 30 [])).2)) = true := by
    decide +kernel
  have ⟨p', hp', hcommand⟩ := (Option.any_eq_true _ _).mp hsent
  rw [decide_eq_true_iff] at hcommand
  exact ⟨p', hp', hcommand,
    commands_scanned mac (configured 12) _ false _ [held 12 0 []] p' hp' _ _ hcommand⟩

end Panel

end Esp32

end Maltbee
