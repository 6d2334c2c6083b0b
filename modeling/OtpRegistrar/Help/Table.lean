/-
Tables of texts in columns.

A column is as wide as the widest line of its cells reaches. Tabs fill up to the next multiple of
eight symbols of their line. Every cell is padded to the width of its column and one blank more, and
a cell with fewer lines than its neighbours goes on with blanks.
-/
import OtpRegistrar.Text.Extent
namespace OtpRegistrar.Help

/-- The lines of a cell, without tabs. -/
def cellLines (cell : Text) : List Text :=
  Text.splitOn (.char '\n') (Text.expandTabs 0 cell)

/-- The width of the widest of several lines. -/
def widest (lines : List Text) : Nat := (lines.map Text.extent).foldl max 0

/-- A line padded to a width, and one blank more. -/
def padded (width : Nat) (line : Text) : Text := line ++ Text.blanks (width - line.extent + 1)

/-- A row of two cells. -/
abbrev Row := Text × Text

/-- The lines of a row; there are as many as the higher of its cells has. -/
def rowLines (left right : Nat) (row : Row) : List Text :=
  let ls := cellLines row.1
  let rs := cellLines row.2
  (List.range (max ls.length rs.length)).map fun n =>
    padded left (ls.getD n []) ++ padded right (rs.getD n [])

/-- A table of two columns. -/
def table (rows : List Row) : Text :=
  let left := widest (rows.flatMap fun r => cellLines r.1)
  let right := widest (rows.flatMap fun r => cellLines r.2)
  Text.join Text.newline (rows.flatMap (rowLines left right))

end OtpRegistrar.Help
