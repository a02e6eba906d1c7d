namespace RegisterPlane.Text

variable {α : Type} [DecidableEq α]

/-- The complete lines up to the last line feed, and what follows it. -/
def cutLines (feed : α) : List α → List (List α) × List α
  | [] => ([], [])
  | x :: xs =>
    let (lines, rest) := cutLines feed xs
    if x = feed then ([] :: lines, rest)
    else
      match lines with
      | [] => ([], x :: rest)
      | line :: lines => ((x :: line) :: lines, rest)

/-- A complete line without one carriage return at its end. -/
def dropReturn (return' : α) (line : List α) : List α :=
  if line.getLast? = some return' then line.dropLast else line

def lines (feed return' : α) (xs : List α) : List (List α) :=
  let (complete, rest) := cutLines feed xs
  complete.map (dropReturn return') ++ if rest = [] then [] else [rest]

end RegisterPlane.Text
