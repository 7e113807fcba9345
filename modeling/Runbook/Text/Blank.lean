/-!
White space in the sense of the Unicode property `White_Space`, trimming, and lines.
Trimming removes white space and nothing else; splitting a text into lines that keep their
line feed loses nothing (`flatten_splitLines`).
-/

namespace Runbook.Text

def isBlank (c : Char) : Bool :=
  let n := c.toNat
  (9 ≤ n && n ≤ 13) || n == 0x20 || n == 0x85 || n == 0xa0 || n == 0x1680 ||
    (0x2000 ≤ n && n ≤ 0x200a) || n == 0x2028 || n == 0x2029 || n == 0x202f || n == 0x205f ||
    n == 0x3000

def trimStart (s : List Char) : List Char := s.dropWhile isBlank

def trimEnd (s : List Char) : List Char := (s.reverse.dropWhile isBlank).reverse

def trim (s : List Char) : List Char := trimEnd (trimStart s)

def isBlankText (s : List Char) : Bool := s.all isBlank

/-- Cuts after every line feed; only the last piece may lack one. -/
def splitLines : List Char → List (List Char)
  | [] => []
  | c :: rest =>
      if c = '\n' then [c] :: splitLines rest
      else match splitLines rest with
        | [] => [[c]]
        | line :: lines => (c :: line) :: lines

/-- A line without its line feed and without one carriage return before that. -/
def chomp (line : List Char) : List Char :=
  match line.reverse with
  | '\n' :: '\r' :: rest => rest.reverse
  | '\n' :: rest => rest.reverse
  | _ => line

def lines (s : List Char) : List (List Char) := (splitLines s).map chomp

def lineFeeds (s : List Char) : Nat := s.count '\n'

theorem flatten_splitLines (s : List Char) : (splitLines s).flatten = s := by
  induction s with
  | nil => rfl
  | cons c rest ih =>
    simp only [splitLines]
    split
    · simp [ih]
    · cases h : splitLines rest with
      | nil => rw [h] at ih; simp only [List.flatten_nil] at ih; simp [← ih]
      | cons line more => rw [h] at ih; simp only [List.flatten_cons] at ih ⊢; simp [ih]

def lowerAscii (s : List Char) : List Char := s.map Char.toLower

def stripPrefix? (start : List Char) (s : List Char) : Option (List Char) :=
  if start.isPrefixOf s then some (s.drop start.length) else none

def trimmed (s : String) : String := .ofList (trim s.toList)

def isBlankString (s : String) : Bool := isBlankText s.toList

def lowered (s : String) : String := .ofList (lowerAscii s.toList)

end Runbook.Text
