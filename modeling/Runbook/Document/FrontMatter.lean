import Runbook.Text.Blank

/-!
The header and the body of a document. A header stands between a line `---`, which only white
space may precede, and the next line of three or more dashes; white space at the end of either
line does not count. A document without such a pair of lines is all body.
-/

namespace Runbook

structure FrontMatter where
  header : Option String
  body : String
  /-- The line that the header begins on, counted from one; zero without a header. -/
  headerLine : Nat
  bodyLine : Nat

namespace FrontMatter

open Text

def isOpening (line : List Char) : Bool :=
  trimEnd line == ['-', '-', '-'] && line.getLast? == some '\n'

def isClosing (line : List Char) : Bool :=
  3 ≤ (trimEnd line).length && (trimEnd line).all (· == '-')

/-- The lines before the first closing line, and those after it. -/
def cut? : List (List Char) → Option (List (List Char) × List (List Char))
  | [] => none
  | line :: rest =>
      if isClosing line then some ([], rest)
      else (cut? rest).map fun (header, body) => (line :: header, body)

def parts? (text : List Char) : Option (List (List Char) × List (List Char)) :=
  match splitLines text with
  | first :: rest => if isOpening first then cut? rest else none
  | [] => none

def split (text : String) : FrontMatter :=
  let s := text.toList
  let skipped := lineFeeds (s.takeWhile isBlank)
  match parts? (trimStart s) with
  | none => ⟨none, text, 0, 1⟩
  | some (header, body) =>
      ⟨some (.ofList header.flatten), .ofList body.flatten, skipped + 2,
        skipped + header.length + 3⟩

def hasHeader (f : FrontMatter) : Bool := f.header.isSome

end FrontMatter

end Runbook
