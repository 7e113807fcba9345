import Runbook.Number
import Runbook.Text.Digits
import Runbook.Time.Instant
import Runbook.Toml

/-!
The scalars of TOML texts. Readers take a value off the front of a text and return the rest.
-/

namespace Runbook.Toml

/-- The characters of comments and of one-line texts, the quote marks aside. -/
def isPlain (c : Char) : Bool := c == '\t' || (' ' ≤ c && c ≤ '~') || 0x80 ≤ c.toNat

def isSpace (c : Char) : Bool := c == ' ' || c == '\t'

def skipSpace (s : List Char) : List Char := s.dropWhile isSpace

def readNewline : List Char → Option (List Char)
  | '\n' :: rest => some rest
  | '\r' :: '\n' :: rest => some rest
  | _ => none

def readCodePoint (count : Nat) (s : List Char) : Option (Char × List Char) := do
  let digits := s.take count
  guard (digits.length = count)
  let n ← Text.digits? 16 digits
  guard (n < 0xd800 || (0xdfff < n && n < 0x110000))
  return (Char.ofNat n, s.drop count)

def readEscape : List Char → Option (Char × List Char)
  | 'b' :: rest => some ('\x08', rest)
  | 't' :: rest => some ('\t', rest)
  | 'n' :: rest => some ('\n', rest)
  | 'f' :: rest => some ('\x0c', rest)
  | 'r' :: rest => some ('\r', rest)
  | '"' :: rest => some ('"', rest)
  | '\\' :: rest => some ('\\', rest)
  | 'u' :: rest => readCodePoint 4 rest
  | 'U' :: rest => readCodePoint 8 rest
  | _ => none

def skipLines : Nat → List Char → List Char
  | 0, s => s
  | fuel + 1, s =>
      let s := skipSpace s
      match readNewline s with
      | some rest => skipLines fuel rest
      | none => s

def readBasic : Nat → List Char → Option (List Char × List Char)
  | 0, _ => none
  | fuel + 1, s =>
      match s with
      | '"' :: rest => some ([], rest)
      | '\\' :: rest => do
          let (c, rest) ← readEscape rest
          let (inside, rest) ← readBasic fuel rest
          return (c :: inside, rest)
      | c :: rest => do
          guard (isPlain c)
          let (inside, rest) ← readBasic fuel rest
          return (c :: inside, rest)
      | [] => none

/-- The end of a text over several lines: three quote marks, and up to two before them that
belong to the text. -/
def closing? (mark : Char) (s : List Char) : Option (List Char × List Char) :=
  let marks := (s.takeWhile (· == mark)).length
  if marks < 3 then none
  else
    let inside := min (marks - 3) 2
    some (List.replicate inside mark, s.drop (inside + 3))

/-- The rest of a text in double quotes over several lines. A backslash at the end of a line
joins it to what follows the white space after it. -/
def readBasicLines : Nat → List Char → Option (List Char × List Char)
  | 0, _ => none
  | fuel + 1, s =>
      match closing? '"' s with
      | some (inside, rest) => some (inside, rest)
      | none =>
          match s with
          | '\\' :: rest =>
              match readNewline (skipSpace rest) with
              | some next => readBasicLines fuel (skipLines (next.length + 1) next)
              | none => do
                  let (c, rest) ← readEscape rest
                  let (inside, rest) ← readBasicLines fuel rest
                  return (c :: inside, rest)
          | c :: next => do
              let (c, next) ← match readNewline s with
                | some next => some ('\n', next)
                | none => if isPlain c then some (c, next) else none
              let (inside, rest) ← readBasicLines fuel next
              return (c :: inside, rest)
          | [] => none

def readLiteralLines : Nat → List Char → Option (List Char × List Char)
  | 0, _ => none
  | fuel + 1, s =>
      match closing? '\x27' s with
      | some (inside, rest) => some (inside, rest)
      | none =>
          match s with
          | c :: next => do
              let (c, next) ← match readNewline s with
                | some next => some ('\n', next)
                | none => if isPlain c then some (c, next) else none
              let (inside, rest) ← readLiteralLines fuel next
              return (c :: inside, rest)
          | [] => none

def readLiteral (s : List Char) : Option (List Char × List Char) := do
  let inside := s.takeWhile (· ≠ '\x27')
  guard (inside.all isPlain)
  match s.dropWhile (· ≠ '\x27') with
  | _ :: rest => return (inside, rest)
  | [] => none

/-- A line end right after the opening marks does not count. -/
def dropFirstNewline (s : List Char) : List Char := (readNewline s).getD s

def readText (s : List Char) : Option (List Char × List Char) :=
  match s with
  | '"' :: '"' :: '"' :: rest => readBasicLines (rest.length + 1) (dropFirstNewline rest)
  | '"' :: rest => readBasic (rest.length + 1) rest
  | '\x27' :: '\x27' :: '\x27' :: rest =>
      readLiteralLines (rest.length + 1) (dropFirstNewline rest)
  | '\x27' :: rest => readLiteral rest
  | _ => none

/-- More digits, where single underscores may stand between two of them. -/
def moreDigits (ok : Char → Bool) : List Char → Option (List Char × List Char)
  | '_' :: c :: rest => do
      guard (ok c)
      let (digits, rest) ← moreDigits ok rest
      return (c :: digits, rest)
  | ['_'] => none
  | c :: rest =>
      if ok c then (moreDigits ok rest).map fun (digits, rest) => (c :: digits, rest)
      else some ([], c :: rest)
  | [] => some ([], [])

def readDigits (ok : Char → Bool) : List Char → Option (List Char × List Char)
  | c :: rest => do
      guard (ok c)
      let (digits, rest) ← moreDigits ok rest
      return (c :: digits, rest)
  | [] => none

/-- Decimal digits without a needless zero in front. -/
def readDecimal : List Char → Option (List Char × List Char)
  | '0' :: rest => some (['0'], rest)
  | s => readDigits Char.isDigit s

def readRadix (radix : Nat) (s : List Char) : Option (Toml × List Char) := do
  let (digits, rest) ← readDigits (fun c => (Text.digitIn? radix c).isSome) s
  let n ← Text.digits? radix digits
  guard (isInt64 n)
  return (.int n, rest)

def readExponent (s : List Char) : Option (Option Int × List Char) :=
  match s with
  | 'e' :: rest | 'E' :: rest => do
      let (down, rest) := match rest with
        | '-' :: rest => (true, rest)
        | '+' :: rest => (false, rest)
        | _ => (false, rest)
      let (digits, rest) ← readDigits Char.isDigit rest
      let n : Int := Text.decimal digits
      return (some (if down then -n else n), rest)
  | _ => some (none, s)

/-- An unsigned number. A floating-point number above the largest one is refused. -/
def readUnsigned (negative : Bool) (s : List Char) : Option (Toml × List Char) :=
  match s with
  | 'i' :: 'n' :: 'f' :: rest => some (.float (.infinity negative), rest)
  | 'n' :: 'a' :: 'n' :: rest => some (.float .nan, rest)
  | _ => do
      let (whole, rest) ← readDecimal s
      let (fraction, rest) ← match rest with
        | '.' :: rest => (readDigits Char.isDigit rest).map fun (ds, rest) => (some ds, rest)
        | _ => some (none, rest)
      let (exponent, rest) ← readExponent rest
      if fraction.isNone && exponent.isNone then
        let n : Int := if negative then -(Text.decimal whole : Int) else Text.decimal whole
        guard (isInt64 n)
        return (.int n, rest)
      else
        let digits := fraction.getD []
        let x := Binary64.ofDecimal negative (Text.decimal (whole ++ digits))
          (exponent.getD 0 - digits.length)
        guard (negative || x.isFinite)
        return (.float x, rest)

def readNumber (s : List Char) : Option (Toml × List Char) :=
  match s with
  | '0' :: 'x' :: rest => readRadix 16 rest
  | '0' :: 'o' :: rest => readRadix 8 rest
  | '0' :: 'b' :: rest => readRadix 2 rest
  | '+' :: rest => readUnsigned false rest
  | '-' :: rest => readUnsigned true rest
  | _ => readUnsigned false s

def readField (count low high : Nat) (s : List Char) : Option (Nat × List Char) := do
  let digits := s.take count
  guard (digits.length = count && digits.all Char.isDigit)
  let n := Text.decimal digits
  guard (low ≤ n && n ≤ high)
  return (n, s.drop count)

def readMark (mark : Char) : List Char → Option (List Char)
  | c :: rest => if c = mark then some rest else none
  | [] => none

def readDate (s : List Char) : Option (List Char) := do
  let (year, s) ← readField 4 0 9999 s
  let (month, s) ← readField 2 1 12 (← readMark '-' s)
  let (_, s) ← readField 2 1 (Date.daysInMonth year month) (← readMark '-' s)
  return s

def readTime (s : List Char) : Option (List Char) := do
  let (_, s) ← readField 2 0 23 s
  let (_, s) ← readField 2 0 59 (← readMark ':' s)
  let (_, s) ← readField 2 0 60 (← readMark ':' s)
  match s with
  | '.' :: rest =>
      let digits := rest.takeWhile Char.isDigit
      if digits.isEmpty then none else return rest.dropWhile Char.isDigit
  | _ => return s

def readOffset (s : List Char) : Option (List Char) := do
  match s with
  | 'Z' :: rest | 'z' :: rest => return rest
  | '+' :: rest | '-' :: rest =>
      let (_, s) ← readField 2 0 23 rest
      let (_, s) ← readField 2 0 59 (← readMark ':' s)
      return s
  | _ => return s

/-- What is left after a date, a time or both. A time belongs to the date when a `T` or a space
stands between them. -/
def afterDatetime (s : List Char) : Option (List Char) :=
  match readDate s with
  | none => readTime s
  | some rest =>
      match rest with
      | c :: next =>
          if c = 'T' || c = 't' || c = ' ' then
            match readTime next with
            | some rest => readOffset rest
            | none => some rest
          else some rest
      | [] => some rest

def readDatetime (s : List Char) : Option (Toml × List Char) := do
  let rest ← afterDatetime s
  return (.datetime (.ofList (s.take (s.length - rest.length))), rest)

/-- A value that is neither an array nor a table. -/
def readScalar (s : List Char) : Option (Toml × List Char) :=
  match s with
  | '"' :: _ | '\x27' :: _ => (readText s).map fun (inside, rest) => (.text (.ofList inside), rest)
  | 't' :: 'r' :: 'u' :: 'e' :: rest => some (.bool true, rest)
  | 'f' :: 'a' :: 'l' :: 's' :: 'e' :: rest => some (.bool false, rest)
  | _ => readDatetime s <|> readNumber s

end Runbook.Toml
