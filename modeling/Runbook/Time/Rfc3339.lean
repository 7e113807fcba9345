import Runbook.Text.Blank
import Runbook.Text.Digits
import Runbook.Time.Instant

/-!
Timestamps as text. Written ones follow RFC 3339 in UTC, with no more digits of the second's
fraction than the value needs in groups of three. Reading is more lenient: single-digit fields,
white space between the fields, a space for the `T`, any offset, and `UTC` for `Z`.
-/

namespace Runbook.Instant

open Text

def padded (width : Nat) (n : Nat) : String :=
  .ofList (padZeros width (Nat.toDigits 10 n))

def renderYear (year : Int) : String :=
  if 0 ≤ year && year ≤ 9999 then padded 4 year.toNat
  else (if year < 0 then "-" else "+") ++ padded 4 year.natAbs

def renderFraction (nanos : Nat) : String :=
  if nanos = 0 then ""
  else if nanos % 1000000 = 0 then "." ++ padded 3 (nanos / 1000000)
  else if nanos % 1000 = 0 then "." ++ padded 6 (nanos / 1000)
  else "." ++ padded 9 nanos

def renderDate (t : Instant) : String :=
  renderYear t.date.year ++ "-" ++ padded 2 t.date.month ++ "-" ++ padded 2 t.date.day

def renderClock (t : Instant) : String :=
  padded 2 t.hour ++ ":" ++ padded 2 t.minute ++ ":" ++ padded 2 t.second

def render (t : Instant) : String :=
  t.renderDate ++ "T" ++ t.renderClock ++ renderFraction t.fraction ++ "Z"

/-- Takes at most `limit` digits off the front, at least one. -/
def readDigits (limit : Nat) (s : List Char) : Option (Nat × Nat × List Char) :=
  let digits := (s.takeWhile Char.isDigit).take limit
  if digits.isEmpty then none
  else some (decimal digits, digits.length,
    s.drop digits.length)

/-- A field of up to two digits after optional white space. -/
def readField (s : List Char) : Option (Nat × List Char) := do
  let (n, _, rest) ← readDigits 2 (trimStart s)
  return (n, rest)

/-- A year has up to four digits, or any number of them after a sign. -/
def readYear (s : List Char) : Option (Int × List Char) := do
  match trimStart s with
  | '-' :: rest =>
      let (n, _, rest) ← readDigits rest.length rest
      return (-(n : Int), rest)
  | '+' :: rest =>
      let (n, _, rest) ← readDigits rest.length rest
      return ((n : Int), rest)
  | rest =>
      let (n, _, rest) ← readDigits 4 rest
      return ((n : Int), rest)

def readMark (mark : Char) (s : List Char) : Option (List Char) :=
  match trimStart s with
  | c :: rest => if c = mark then some rest else none
  | [] => none

/-- Digits beyond the ninth are dropped. -/
def readFraction (s : List Char) : Option (Nat × List Char) :=
  match s with
  | '.' :: rest => do
      let (n, count, rest) ← readDigits 9 rest
      return (n * tenTo (9 - count), rest.dropWhile Char.isDigit)
  | _ => some (0, s)

def readOffsetSize (s : List Char) : Option (Int × List Char) := do
  match s with
  | a :: b :: rest =>
      guard (a.isDigit && b.isDigit)
      let hours := decimal [a, b]
      match rest.dropWhile fun c => c == ':' || isBlank c with
      | c :: d :: rest =>
          guard (c.isDigit && c ≤ '5' && d.isDigit)
          let minutes := decimal [c, d]
          return (((hours * 3600 + minutes * 60 : Nat) : Int), rest)
      | _ => none
  | _ => none

def readOffset (s : List Char) : Option (Int × List Char) := do
  if lowerAscii (s.take 3) = ['u', 't', 'c'] then return (0, s.drop 3)
  match s with
  | 'Z' :: rest | 'z' :: rest => return (0, rest)
  | '+' :: rest => readOffsetSize rest
  | '-' :: rest | '\u2212' :: rest =>
      let (n, rest) ← readOffsetSize rest
      return (-n, rest)
  | _ => none

/-- Reads a timestamp; `none` when it is malformed or names a time that does not exist. -/
def read (text : String) : Option Instant := do
  let (year, s) ← readYear text.toList
  let (month, s) ← readField (← readMark '-' s)
  let (day, s) ← readField (← readMark '-' s)
  let s ← match s with
    | 't' :: rest | 'T' :: rest | ' ' :: rest => some rest
    | _ => none
  let (hour, s) ← readField s
  let (minute, s) ← readField (← readMark ':' s)
  let (second, s) ← readField (← readMark ':' s)
  let (fraction, s) ← readFraction s
  let (offset, s) ← readOffset (trimStart s)
  guard (isBlankText s)
  let date : Date := ⟨year, month, day⟩
  guard (yearInRange year && date.isValid && hour ≤ 23 && minute ≤ 59 && second ≤ 60)
  guard (-86400 < offset && offset < 86400)
  let leap := second = 60
  let stamp := ofDate date hour minute (if leap then 59 else second)
    (fraction + if leap then 1000000000 else 0)
  let t := stamp.addSeconds (-offset)
  guard t.inRange
  return t

end Runbook.Instant
