namespace RegisterPlane.Program

/-- A part of a word. What quoted parts expand to is not split into fields. -/
inductive Part where
  | text (quoted : Bool) (text : String)
  | parameter (quoted : Bool) (name : String)
  /-- `${name-word}` and its kin: the word stands in for a variable that is unset, or set and not wanted.
  With `orEmpty` an empty variable counts as unset. -/
  | replaced (quoted : Bool) (name : String) (orEmpty : Bool) (operator : Char) (word : List Part)
  | arithmetic (quoted : Bool) (expression : List Part)
  | output (quoted : Bool) (script : String)

abbrev Word := List Part

inductive Target where
  | copy (descriptor : Nat)
  | closed
  | file (path : Word)

structure Redirection where
  descriptor : Nat
  target : Target

inductive Script where
  | nothing
  | simple (assignments : List (String × Word)) (words : List Word) (redirections : List Redirection)
  | sequence (first second : Script)
  /-- The second command runs if the success of the first is `wanted`. -/
  | after (wanted : Bool) (first second : Script)
  | negated (body : Script)
  | background (body : Script)
  | pipe (first second : Script)
  | branch (condition yes no : Script)
  | loop (wanted : Bool) (condition body : Script)
  | each (name : String) (words : List Word) (body : Script)
  | choose (word : Word) (arms : List (List Word × Script))
  | grouped (body : Script) (redirections : List Redirection)
  | subshell (body : Script) (redirections : List Redirection)
  | define (name : String) (body : Script)

end RegisterPlane.Program
