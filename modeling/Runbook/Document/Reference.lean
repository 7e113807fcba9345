import Runbook.Table

/-!
References to parameters: a name in double braces, without anything between the name and the
braces. A name begins with a letter or an underscore and goes on with letters, digits,
underscores, dots and hyphens.
-/

namespace Runbook.Document

def isBrace (c : Char) : Bool := c == '\x7b' || c == '\x7d'

def isParameterName : List Char → Bool
  | [] => false
  | c :: rest =>
      (c.isAlpha || c == '_') &&
        rest.all fun c => c.isAlphanum || c == '_' || c == '.' || c == '-'

def braced? : List Char → Option (List Char)
  | '\x7b' :: '\x7b' :: rest =>
      match rest.dropWhile fun c => !isBrace c with
      | '\x7d' :: '\x7d' :: _ => some (rest.takeWhile fun c => !isBrace c)
      | _ => none
  | _ => none

/-- The parameter names referred to, in the order of the text and with repetitions. -/
def parameterNames : List Char → List (List Char)
  | [] => []
  | c :: rest =>
      match braced? (c :: rest) with
      | some name =>
          if isParameterName name then name :: parameterNames rest else parameterNames rest
      | none => parameterNames rest

def parameterReferences (text : List Char) : Names :=
  .ofList ((parameterNames text).map .ofList)

end Runbook.Document
