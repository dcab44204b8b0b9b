import MaltbeeController.McsCore.Impl.DigitalPins

/-!
This module contains the scanner of the key matrix of the panel: each update drives the next row and
reads the columns.
-/

namespace Maltbee

namespace MatrixScanner

abbrev kRowCount : Nat := 3
abbrev kColumnCount : Nat := 4

end MatrixScanner

open MatrixScanner (kRowCount kColumnCount)

structure RowWrite where
  row : Fin kRowCount
  active : Bool
  deriving DecidableEq, Repr

-- `currentRow` is `none` where the source has `-1`.
structure MatrixScanner where
  cache : Vector (Vector Bool kColumnCount) kRowCount :=
    .replicate kRowCount (.replicate kColumnCount false)
  currentRow : Option (Fin kRowCount) := none
  deriving DecidableEq, Repr

namespace MatrixScanner

def nextRow (s : MatrixScanner) : Fin kRowCount :=
  match s.currentRow with
  | none => ⟨0, by decide⟩
  | some row => ⟨(row.val + 1) % kRowCount, Nat.mod_lt _ (by decide)⟩

-- `column` is what the columns read once the row is driven. The writes come in order.
def update (s : MatrixScanner) (column : Fin kColumnCount → Bool) : MatrixScanner × List RowWrite :=
  let row := s.nextRow
  (
    {
      cache := s.cache.set row (.ofFn column) row.isLt
      currentRow := some row
    },
    (match s.currentRow with
      | none => []
      | some row => [⟨row, false⟩]) ++
      [⟨row, true⟩]
  )

def isActive (s : MatrixScanner) (row : Fin kRowCount) (col : Fin kColumnCount) : Bool :=
  (s.cache.get row).get col

end MatrixScanner

structure MatrixDigitalInput where
  row : Fin kRowCount
  col : Fin kColumnCount
  deriving DecidableEq, Repr

namespace MatrixDigitalInput

def isActive (i : MatrixDigitalInput) (scanner : MatrixScanner) : Bool :=
  scanner.isActive i.row i.col

end MatrixDigitalInput

end Maltbee
