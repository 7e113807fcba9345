/-!
Positions in YAML texts and what can be wrong with such a text.
-/

namespace Runbook.Yaml

/-- A position: characters before it, and line and column, all counted from zero. -/
structure Mark where
  index : Nat
  line : Nat
  column : Nat
deriving DecidableEq, Inhabited

inductive Fault
  | malformed (problem : String) (mark : Mark)
  | forbiddenCharacter
  | unknownAnchor (mark : Mark)
  /-- A collection inside 128 others. -/
  | tooDeep (mark : Mark)
  /-- A node that is well-formed but has no value. -/
  | badValue (problem : String) (mark : Mark)
  | tooManyAliases
  | severalDocuments
  | unfinished

namespace Fault

/-- Line and column from one, where a place in the text is at fault. -/
def location? : Fault → Option (Nat × Nat)
  | .malformed _ m | .unknownAnchor m | .tooDeep m | .badValue _ m =>
      some (m.line + 1, m.column + 1)
  | .forbiddenCharacter => some (1, 1)
  | .tooManyAliases | .severalDocuments | .unfinished => none

def problem : Fault → String
  | .malformed problem _ => problem
  | .forbiddenCharacter => "control characters are not allowed"
  | .unknownAnchor _ => "unknown anchor"
  | .tooDeep _ => "recursion limit exceeded"
  | .badValue problem _ => problem
  | .tooManyAliases => "repetition limit exceeded"
  | .severalDocuments => "more than one document"
  | .unfinished => "unexpected end of the document"

def message (f : Fault) : String :=
  match f.location? with
  | some (line, column) =>
      f.problem ++ " at line " ++ toString line ++ " column " ++ toString column
  | none => f.problem

end Fault

end Runbook.Yaml
