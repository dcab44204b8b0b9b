import MaltbeeController.Lib.BoundedArray
import MaltbeeController.Lib.StepRun
import MaltbeeController.McsEsp32.Impl.MatrixScanner

/-!
This module contains the proof that the scanner of the key matrix drives one row at a time and remembers
for each row what the columns read when it was driven last, so that no key shows up in another row.
-/

namespace Maltbee

open StepRun (run run_induction)

namespace MatrixScanner

-- The level of each row after some writes to them. At the start no row is driven.
def driven (written : List RowWrite) (row : Fin kRowCount) : Bool :=
  written.foldl (fun level write => if write.row = row then write.active else level) false

@[simp]
theorem driven_nil (row : Fin kRowCount) : driven [] row = false := by
  rfl

theorem driven_concat (written : List RowWrite) (write : RowWrite) (row : Fin kRowCount)
    : driven (written ++ [write]) row
        =
      if write.row = row then write.active else driven written row := by
  simp [driven]

def Exclusive (rows : Fin kRowCount → Bool) : Prop :=
  ∀ row row', rows row → rows row' → row = row'

theorem Exclusive.of_eq_decide {rows : Fin kRowCount → Bool} {n : Nat}
    (h : ∀ row, rows row = decide (row.val = n))
    : Exclusive rows := by
  intro row row' hrow hrow'
  rw [h, decide_eq_true_iff] at hrow hrow'
  apply Fin.ext
  rw [hrow, hrow']

theorem update_writes (s : MatrixScanner) (column : Fin kColumnCount → Bool)
    : (s.update column).2 = (s.currentRow.map (⟨·, false⟩)).toList ++ [⟨s.nextRow, true⟩] := by
  unfold update
  cases s.currentRow with
  | none => rfl
  | some row => rfl

theorem isActive_update (s : MatrixScanner) (column : Fin kColumnCount → Bool)
    (row : Fin kRowCount) (col : Fin kColumnCount)
    : (s.update column).1.isActive row col
        =
      if s.nextRow = row then column col else s.isActive row col := by
  simp only [update, isActive]
  rw [Vector.get_set_fin]
  split
  . exact Vector.getElem_ofFn col.isLt
  . rfl

end MatrixScanner

open MatrixScanner (kRowCount kColumnCount driven)

-- What the columns read depends on which rows are driven, and may be different at each update.
abbrev Columns : Type :=
  (Fin kRowCount → Bool) → Fin kColumnCount → Bool

structure MatrixBoard where
  scanner : MatrixScanner := {}
  written : List RowWrite := []

-- One `update`: what it wrote, the rows that were driven then and what the columns read.
structure Scan where
  writes : List RowWrite
  rows : Fin kRowCount → Bool
  columns : Fin kColumnCount → Bool

namespace MatrixBoard

-- The columns are read after the writes, which depend on the scanner alone.
def update (b : MatrixBoard) (columns : Columns) : MatrixBoard × List Scan :=
  let rows := driven (b.written ++ (b.scanner.update fun _ => false).2)
  let res := b.scanner.update (columns rows)
  let written := b.written ++ res.2
  (
    { scanner := res.1, written },
    [{ writes := res.2, rows := driven written, columns := columns rows }]
  )

def lastScan (log : List Scan) (row : Fin kRowCount) : Option Scan :=
  log.reverse.find? (·.rows row)

def rowAfter (n : Nat) : Option (Fin kRowCount) :=
  match n with
  | 0 => none
  | n + 1 => some ⟨n % kRowCount, Nat.mod_lt _ (by decide)⟩

structure Inv (inputs : List Columns) (b : MatrixBoard) (log : List Scan) : Prop where
  length : log.length = inputs.length
  written : b.written = log.flatMap (·.writes)
  currentRow : b.scanner.currentRow = rowAfter log.length
  level : ∀ row, driven b.written row = decide (b.scanner.currentRow = some row)
  exclusive : ∀ written, written <+: b.written → MatrixScanner.Exclusive (driven written)
  rows : ∀ (n : Nat) (scan : Scan), log[n]? = some scan →
    ∀ row, scan.rows row = decide (row.val = n % kRowCount)
  read : ∀ (n : Nat) (scan : Scan), log[n]? = some scan →
    ∃ columns, inputs[n]? = some columns ∧ scan.columns = columns scan.rows
  isActive : ∀ row col, b.scanner.isActive row col
    = ((lastScan log row).map (·.columns col)).getD false

variable {inputs : List Columns} {b : MatrixBoard} {log : List Scan}

theorem nextRow_eq (h : b.scanner.currentRow = rowAfter n)
    : b.scanner.nextRow = ⟨n % kRowCount, Nat.mod_lt _ (by decide)⟩ := by
  unfold MatrixScanner.nextRow
  rw [h]
  cases n with
  | zero => rfl
  | succ n =>
    apply Fin.ext
    simp only [rowAfter]
    exact Nat.mod_add_mod n kRowCount 1

-- An update first takes the row that is driven off, so that nothing is driven, and then drives the next.
theorem driven_release
    (hdriven : ∀ row, driven b.written row = decide (b.scanner.currentRow = some row))
    (row : Fin kRowCount)
    : driven (b.written ++ (b.scanner.currentRow.map (⟨·, false⟩)).toList) row = false := by
  cases hcurrent : b.scanner.currentRow with
  | none =>
    rw [Option.map_none, Option.toList_none, List.append_nil]
    rw [hdriven, hcurrent]
    rfl
  | some current =>
    rw [Option.map_some, Option.toList_some, MatrixScanner.driven_concat]
    split
    . rfl
    . next hne =>
      rw [hdriven, hcurrent]
      simpa using hne

theorem driven_update
    (hdriven : ∀ row, driven b.written row = decide (b.scanner.currentRow = some row))
    (column : Fin kColumnCount → Bool) (row : Fin kRowCount)
    : driven (b.written ++ (b.scanner.update column).2) row = decide (row = b.scanner.nextRow) := by
  rw [MatrixScanner.update_writes]
  rw [← List.append_assoc]
  rw [MatrixScanner.driven_concat]
  rw [driven_release hdriven]
  split
  . next h =>
    subst h
    simp
  . next h =>
    symm
    rw [decide_eq_false_iff_not]
    intro heq
    exact h heq.symm

theorem exclusive_update
    (hdriven : ∀ row, driven b.written row = decide (b.scanner.currentRow = some row))
    (hexclusive : ∀ written, written <+: b.written → MatrixScanner.Exclusive (driven written))
    (column : Fin kColumnCount → Bool) (written : List RowWrite)
    (h : written <+: b.written ++ (b.scanner.update column).2)
    : MatrixScanner.Exclusive (driven written) := by
  rw [MatrixScanner.update_writes] at h
  rw [← List.append_assoc] at h
  rcases List.prefix_concat_iff.mp h with heq | hrelease
  . apply MatrixScanner.Exclusive.of_eq_decide (n := b.scanner.nextRow.val)
    intro row
    simp only [← Fin.ext_iff]
    rw [heq, List.append_assoc]
    rw [← MatrixScanner.update_writes b.scanner column]
    exact driven_update hdriven column row
  . cases hcurrent : b.scanner.currentRow with
    | none =>
      rw [hcurrent, Option.map_none, Option.toList_none, List.append_nil] at hrelease
      exact hexclusive written hrelease
    | some current =>
      have hnone := driven_release hdriven
      rw [hcurrent, Option.map_some, Option.toList_some] at hrelease hnone
      rcases List.prefix_concat_iff.mp hrelease with heq | hbefore
      . intro row _ hrow
        rw [heq, hnone] at hrow
        contradiction
      . exact hexclusive written hbefore

theorem lastScan_concat (log : List Scan) (scan : Scan) (row : Fin kRowCount)
    : lastScan (log ++ [scan]) row = if scan.rows row then some scan else lastScan log row := by
  unfold lastScan
  rw [List.reverse_append, List.reverse_singleton, List.singleton_append, List.find?_cons]
  cases scan.rows row with
  | true => rfl
  | false => rfl

theorem of_getElem?_concat {scan scan' : Scan} {n : Nat} (h : (log ++ [scan])[n]? = some scan')
    : log[n]? = some scan' ∨ n = log.length ∧ scan' = scan := by
  rw [List.getElem?_append] at h
  split at h
  . left
    exact h
  . right
    rw [List.getElem?_singleton] at h
    split at h
    . next hn =>
      rw [Option.some_inj] at h
      exact ⟨by omega, h.symm⟩
    . contradiction

theorem Inv.update (h : Inv inputs b log) (columns : Columns)
    : Inv (inputs ++ [columns]) (b.update columns).1 (log ++ (b.update columns).2) := by
  have hnext := nextRow_eq h.currentRow
  have hdriven := driven_update h.level
  constructor
  . simp [MatrixBoard.update, h.length]
  . simp [MatrixBoard.update, h.written]
  . rw [List.length_append]
    exact congrArg some hnext
  . intro row
    unfold MatrixBoard.update
    dsimp only
    rw [hdriven]
    rw [Bool.eq_iff_iff, decide_eq_true_iff, decide_eq_true_iff]
    exact ⟨fun heq => congrArg some heq.symm, fun heq => (Option.some.inj heq).symm⟩
  . exact exclusive_update h.level h.exclusive _
  . intro n scan hscan row
    rcases of_getElem?_concat hscan with hold | ⟨hn, hnew⟩
    . exact h.rows n scan hold row
    . rw [hnew, hn]
      dsimp only
      rw [hdriven, hnext]
      simp only [Fin.ext_iff]
  . intro n scan hscan
    rcases of_getElem?_concat hscan with hold | ⟨hn, hnew⟩
    . rcases h.read n scan hold with ⟨columns', hinput, hread⟩
      refine ⟨columns', ?_, hread⟩
      rw [List.getElem?_append_left (List.getElem?_eq_some_iff.mp hinput).1]
      exact hinput
    . rw [hnew, hn]
      refine ⟨columns, by simp [h.length], ?_⟩
      dsimp only
      rw [MatrixScanner.update_writes, MatrixScanner.update_writes]
  . intro row col
    unfold MatrixBoard.update
    dsimp only
    rw [lastScan_concat]
    simp only [hdriven, MatrixScanner.isActive_update]
    by_cases heq : b.scanner.nextRow = row
    . rw [if_pos heq, if_pos (decide_eq_true heq.symm)]
      rfl
    . rw [if_neg heq, if_neg (by simpa using fun h => heq h.symm)]
      exact h.isActive row col

theorem inv_run (inputs : List Columns)
    : Inv inputs (run update {} inputs).1 (run update {} inputs).2 := by
  apply run_induction update {} (P := Inv)
  . constructor
    . rfl
    . rfl
    . rfl
    . intro row
      rfl
    . intro written hwritten row _ hrow
      rw [List.prefix_nil.mp hwritten] at hrow
      contradiction
    . intro n scan hscan
      contradiction
    . intro n scan hscan
      contradiction
    . decide
  . intro inputs columns b log _ h
    exact h.update columns

theorem rows_of_lastScan {row : Fin kRowCount} {scan : Scan} (h : lastScan log row = some scan)
    : scan.rows row ∧ scan ∈ log := by
  unfold lastScan at h
  have hmem := List.mem_of_find?_eq_some h
  have hrows := List.find?_some h
  exact ⟨hrows, List.mem_reverse.mp hmem⟩

theorem Inv.lastScan_mem_drop (h : Inv inputs b log) (hlength : 3 ≤ log.length)
    (row : Fin kRowCount)
    : ∃ scan ∈ log.drop (log.length - 3), lastScan log row = some scan := by
  have hrow : row.val < 3 := row.isLt
  let n := log.length - 1 - (log.length - 1 - row.val) % 3
  have hn : n < log.length := by omega
  have hrecent : log.length - 3 ≤ n := by omega
  have hdrives : log[n].rows row := by
    rw [h.rows n _ (List.getElem?_eq_getElem hn), decide_eq_true_iff]
    change row.val = n % 3
    omega
  have hsome : ((log.drop (log.length - 3)).reverse.find? (·.rows row)).isSome := by
    rw [List.find?_isSome]
    refine ⟨log[n], ?_, hdrives⟩
    rw [List.mem_reverse, List.mem_drop_iff_getElem]
    exact ⟨n - (log.length - 3), by omega, by congr 1; omega⟩
  rcases Option.isSome_iff_exists.mp hsome with ⟨scan, hscan⟩
  refine ⟨scan, List.mem_reverse.mp (List.mem_of_find?_eq_some hscan), ?_⟩
  unfold lastScan
  conv => lhs; rw [← List.take_append_drop (log.length - 3) log]
  rw [List.reverse_append, List.find?_append]
  rw [hscan]
  rfl

structure Scans (inputs : List Columns) (b : MatrixBoard) (log : List Scan) : Prop where
  written : b.written = log.flatMap (·.writes)
  exclusive : ∀ written, written <+: log.flatMap (·.writes) →
    MatrixScanner.Exclusive (driven written)
  cyclic : ∀ n, inputs.length = n + 1 →
    ∀ row, driven (log.flatMap (·.writes)) row = decide (row.val = n % kRowCount)
  rows : ∀ (n : Nat) (scan : Scan), log[n]? = some scan →
    ∀ row, scan.rows row = decide (row.val = n % kRowCount)
  read : ∀ (n : Nat) (scan : Scan), log[n]? = some scan →
    ∃ columns, inputs[n]? = some columns ∧ scan.columns = columns scan.rows
  isActive : ∀ row col, b.scanner.isActive row col
    = ((lastScan log row).map (·.columns col)).getD false
  recent : 3 ≤ inputs.length →
    ∀ row, ∃ scan ∈ log.drop (log.length - 3), lastScan log row = some scan

theorem Scans.of_inv (h : Inv inputs b log) : Scans inputs b log := by
  constructor
  . exact h.written
  . rw [← h.written]
    exact h.exclusive
  . intro n hn row
    rw [← h.written]
    rw [h.level, h.currentRow, h.length, hn]
    simp only [rowAfter, Option.some_inj, Fin.ext_iff, eq_comm]
  . exact h.rows
  . exact h.read
  . exact h.isActive
  . rw [← h.length]
    exact h.lastScan_mem_drop

-- A column of the matrix reads the keys of the driven row.
def wired (pressed : Fin kRowCount → Fin kColumnCount → Bool) : Columns :=
  fun rows col => (List.finRange kRowCount).any fun row => rows row && pressed row col

theorem wired_of_driven {rows : Fin kRowCount → Bool} (h : MatrixScanner.Exclusive rows)
    {row : Fin kRowCount} (hrow : rows row) (pressed : Fin kRowCount → Fin kColumnCount → Bool)
    (col : Fin kColumnCount)
    : wired pressed rows col = pressed row col := by
  unfold wired
  rw [Bool.eq_iff_iff, List.any_eq_true]
  constructor
  . intro ⟨row', _, h'⟩
    rw [Bool.and_eq_true] at h'
    rw [h row row' hrow h'.1]
    exact h'.2
  . intro hpressed
    exact ⟨row, List.mem_finRange row, by simp [hrow, hpressed]⟩

theorem Scans.exists_getElem?_of_lastScan (h : Scans inputs b log)
    (hlength : log.length = inputs.length) {row : Fin kRowCount} {scan : Scan}
    (hlast : lastScan log row = some scan)
    : ∃ n, log[n]? = some scan ∧ inputs.length ≤ n + 3 := by
  by_cases hthree : 3 ≤ inputs.length
  . rcases h.recent hthree row with ⟨scan', hmem, hlast'⟩
    rw [hlast, Option.some_inj] at hlast'
    subst hlast'
    rcases List.getElem?_of_mem hmem with ⟨i, hi⟩
    rw [List.getElem?_drop] at hi
    exact ⟨log.length - 3 + i, hi, by omega⟩
  . rcases List.getElem?_of_mem (rows_of_lastScan hlast).2 with ⟨n, hn⟩
    exact ⟨n, hn, by omega⟩

theorem Scans.pressed_of_isActive {keys : List (Fin kRowCount → Fin kColumnCount → Bool)}
    (h : Scans (keys.map wired) b log) (hlength : log.length = keys.length) {row : Fin kRowCount}
    {col : Fin kColumnCount} (hactive : b.scanner.isActive row col)
    : ∃ n pressed, keys[n]? = some pressed ∧ row.val = n % kRowCount ∧ keys.length ≤ n + 3 ∧
        pressed row col := by
  rw [h.isActive] at hactive
  cases hlast : lastScan log row with
  | none => simp [hlast] at hactive
  | some scan =>
    rw [hlast, Option.map_some, Option.getD_some] at hactive
    have hdriven := (rows_of_lastScan hlast).1
    rcases h.exists_getElem?_of_lastScan (by simpa using hlength) hlast with ⟨n, hscan, hrecent⟩
    have hrows := h.rows n scan hscan
    rcases h.read n scan hscan with ⟨columns, hcolumns, hread⟩
    rw [List.getElem?_map, Option.map_eq_some_iff] at hcolumns
    rcases hcolumns with ⟨pressed, hpressed, hwired⟩
    refine ⟨n, pressed, hpressed, ?_, by simpa using hrecent, ?_⟩
    . rw [hrows, decide_eq_true_iff] at hdriven
      exact hdriven
    . rw [hread, ← hwired] at hactive
      rw [wired_of_driven (.of_eq_decide hrows) hdriven] at hactive
      exact hactive

/--
The rows are driven one at a time and in turn, and each cell of the cache is the last reading of its own
row. On a matrix whose columns read the keys of the driven row no key is reported in another row.
-/
theorem scans (inputs : List Columns) (keys : List (Fin kRowCount → Fin kColumnCount → Bool))
    : Scans inputs (run update {} inputs).1 (run update {} inputs).2 ∧
        ∀ row col, (run update {} (keys.map wired)).1.scanner.isActive row col →
          ∃ n pressed, keys[n]? = some pressed ∧ row.val = n % kRowCount ∧ keys.length ≤ n + 3 ∧
            pressed row col := by
  constructor
  . exact .of_inv (inv_run inputs)
  . intro row col hactive
    have h := inv_run (keys.map wired)
    apply (Scans.of_inv h).pressed_of_isActive _ hactive
    rw [h.length, List.length_map]

end MatrixBoard

end Maltbee
