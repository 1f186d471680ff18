import JarLauncher.Tool.Listing.Entry

/-! Names laid out in columns, or one behind another with commas between them. -/

namespace JarLauncher.Tool.Listing

open Shell (newline)

/-- the least width of a column -/
def leastWidth : Nat := 3

/-- a name with all that stands beside it, and how wide that is -/
structure Cell where
  signs : Bytes
  width : Nat

/-- the column of a name -/
def columnOf (count total : Nat) (across : Bool) (i : Nat) : Nat :=
  if across then i % count else i / ((total + count - 1) / count)

/-- the widths of so many columns, with two blanks behind all but the last one -/
def columnWidths (cells : List Cell) (across : Bool) (count : Nat) : List Nat :=
  (List.range count).map fun c =>
    let mine := cells.zipIdx.filter fun (_, i) => columnOf count cells.length across i = c
    let gap := if c + 1 = count then 0 else 2
    (mine.map fun (cell, _) => cell.width + gap).foldl max leastWidth

/-- the most columns that fit on a line, at least one -/
def arrange (cells : List Cell) (across : Bool) (lineWidth : Nat) : List Nat :=
  let most := min ((lineWidth + leastWidth - 1) / leastWidth) cells.length
  let fits (count : Nat) : Bool :=
    (columnWidths cells across count).foldl (· + ·) 0 < lineWidth
  let count := ((List.range most).reverse.map (· + 1)).find? fun count => count = 1 || fits count
  columnWidths cells across (count.getD 1)

/-- blanks from one column to another, tabs where they reach -/
def indent (tab : Nat) : Nat → Nat → Nat → Bytes
  | 0, _, _ => []
  | fuel + 1, at_, goal =>
    if goal ≤ at_ then []
    else if tab ≠ 0 ∧ (at_ + 1) / tab < goal / tab then
      9 :: indent tab fuel (at_ + tab - at_ % tab) goal
    else 32 :: indent tab fuel (at_ + 1) goal

/-- the cells of one row, each in its column -/
def rowOf (tab : Nat) (cells : List (Cell × Nat)) : Bytes :=
  (cells.foldl (fun (line, at_, start) (cell, width) =>
    (line ++ indent tab (start - at_) at_ start ++ cell.signs, start + cell.width, start + width))
    (([] : Bytes), 0, 0)).1

/-- rows of names, filled down or across -/
def inColumns (cells : List Cell) (across : Bool) (lineWidth tab : Nat) : List Bytes :=
  let widths := arrange cells across lineWidth
  let count := widths.length
  let rows := (cells.length + count - 1) / count
  (List.range rows).map fun r =>
    let places := (List.range count).filterMap fun c =>
      (cells[if across then r * count + c else c * rows + r]?).map fun cell =>
        (cell, widths.getD c 0)
    rowOf tab places

/-- names one behind another, on a new line where there is no room; all on one if it has no end -/
def separated (sep ending : UInt8) (lineWidth : Nat) (cells : List Cell) : Bytes :=
  let (line, _) := cells.zipIdx.foldl (fun ((line, at_) : Bytes × Nat) (cell, i) =>
    let width := if lineWidth = 0 then 0 else cell.width
    if i = 0 then (cell.signs, width)
    else if lineWidth = 0 ∨ at_ + width + 2 < lineWidth then
      (line ++ [sep, 32] ++ cell.signs, at_ + 2 + width)
    else (line ++ [sep, ending] ++ cell.signs, width)) ([], 0)
  line

end JarLauncher.Tool.Listing
