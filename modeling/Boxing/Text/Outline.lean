/-!
# Outlines of values

An outline names a value and its parts. `Outline.flat` writes it on one line, `Outline.tall` with
one part per line, each part indented by four spaces more than its whole and followed by a comma.
-/

set_option autoImplicit false

namespace Boxing.Text

/-- What a value is made of. -/
inductive Outline where
  /-- A value written as it stands. -/
  | atom (text : String)
  /-- A value of one part without a name. -/
  | wrapped (name : String) (content : Outline)
  /-- A value of named parts. -/
  | record (name : String) (parts : List (String × Outline))

namespace Outline

mutual

/-- The outline on one line. -/
def flat : Outline → String
  | .atom text => text
  | .wrapped name content => name ++ "(" ++ content.flat ++ ")"
  | .record name [] => name
  | .record name ((label, part) :: rest) =>
    name ++ " \x7b " ++ label ++ ": " ++ part.flat ++ flatRest rest ++ " \x7d"

/-- The parts after the first, each after a comma. -/
def flatRest : List (String × Outline) → String
  | [] => ""
  | (label, part) :: rest => ", " ++ label ++ ": " ++ part.flat ++ flatRest rest

end

/-- The start of a line at the given depth. -/
def margin (depth : Nat) : String := String.ofList (List.replicate (4 * depth) ' ')

mutual

/-- The outline with one part per line, at the given depth. -/
def tallAt (depth : Nat) : Outline → String
  | .atom text => text
  | .wrapped name content =>
    name ++ "(\n" ++ margin (depth + 1) ++ content.tallAt (depth + 1) ++ ",\n" ++
      margin depth ++ ")"
  | .record name [] => name
  | .record name (part :: rest) =>
    name ++ " \x7b\n" ++ tallParts (depth + 1) (part :: rest) ++ margin depth ++ "\x7d"

/-- Named parts, one per line at the given depth. -/
def tallParts (depth : Nat) : List (String × Outline) → String
  | [] => ""
  | (label, part) :: rest =>
    margin depth ++ label ++ ": " ++ part.tallAt depth ++ ",\n" ++ tallParts depth rest

end

/-- The outline with one part per line. -/
def tall (o : Outline) : String := o.tallAt 0

end Outline

end Boxing.Text
