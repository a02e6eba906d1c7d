import RegisterPlane.Text.Width

namespace RegisterPlane.CommandLine

structure Table where
  header : List String
  rows : List (List String)
  deriving DecidableEq, Repr

namespace Table

def widen (widths : List Nat) (row : List String) : List Nat :=
  List.zipWith max widths (row.map Text.width)

def widths (t : Table) : List Nat := t.rows.foldl widen (t.header.map Text.width)

def rule (left joint right : String) (widths : List Nat) : String :=
  left ++ joint.intercalate (widths.map fun n => String.ofList (List.replicate (n + 2) '─')) ++ right

def cell (n : Nat) (text : String) : String :=
  " " ++ text ++ String.ofList (List.replicate (n - Text.width text) ' ') ++ " "

def line (widths : List Nat) (row : List String) : String :=
  "│" ++ "│".intercalate (List.zipWith cell widths row) ++ "│"

def lines (t : Table) : List String :=
  let widths := t.widths
  [rule "╭" "┬" "╮" widths, line widths t.header, rule "├" "┼" "┤" widths] ++ t.rows.map (line widths) ++
    if t.rows.isEmpty then [] else [rule "╰" "┴" "╯" widths]

def render (t : Table) : String := String.join (t.lines.map (· ++ "\n"))

end Table

end RegisterPlane.CommandLine
