import Runbook.Json.Source
import Runbook.Text.Digits

/-!
Reading JSON texts. Readers take a value off the front of a text and return the rest.

A number without fraction and exponent that fits 64 bits is an integer. Any other number is
read as an integer significand of at most 64 bits, whose surplus digits are dropped, scaled by
a power of ten in floating-point arithmetic; the result can differ from the nearest number in
the last place.
-/

namespace Runbook.Json

def isSpace (c : Char) : Bool := c == ' ' || c == '\n' || c == '\t' || c == '\r'

def skipSpace (s : List Char) : List Char := s.dropWhile isSpace

def digitValue (c : Char) : Nat := c.toNat - 48

/-- Appends digits to a significand as long as it stays below `2 ^ 64`; also how many digits
were taken. -/
def absorb (significand : Nat) : List Char → Nat × Nat
  | [] => (significand, 0)
  | c :: rest =>
      let next := 10 * significand + digitValue c
      if next < twoTo 64 then
        let (n, taken) := absorb next rest
        (n, taken + 1)
      else (significand, 0)

def powerOfTen (n : Nat) : Binary64 := .ofDecimal false 1 n

/-- `x * 10 ^ e`, in steps of at most 308 places; `none` beyond the largest number. -/
def scaleTen (x : Binary64) (e : Int) : Nat → Option Binary64
  | 0 => some (.zero false)
  | fuel + 1 =>
      if e.natAbs ≤ 308 then
        if 0 ≤ e then
          let y := x.mul (powerOfTen e.natAbs)
          if y.isInfinite then none else some y
        else some (x.div (powerOfTen e.natAbs))
      else if x.isZero then some x
      else if 0 ≤ e then none
      else scaleTen (x.div (powerOfTen 308)) (e + 308) fuel

def scaled (negative : Bool) (significand : Nat) (e : Int) : Option Number :=
  (scaleTen (.ofInt significand) e 5).map fun x => .float (if negative then x.negate else x)

def clampInt32 (e : Int) : Int := max (-2147483648) (min 2147483647 e)

/-- A number with an exponent part. An exponent of more than 31 bits is decided by its sign. -/
def withExponent (negative : Bool) (significand : Nat) (start : Int) (down : Bool)
    (digits : List Char) : Option Number :=
  let e := Text.decimal digits
  if e < twoTo 31 then
    scaled negative significand (clampInt32 (if down then start - e else start + e))
  else if significand ≠ 0 && !down then none
  else some (.float (.zero negative))

structure Numeral where
  negative : Bool
  whole : List Char
  fraction : Option (List Char)
  exponent : Option (Bool × List Char)

def Numeral.value (n : Numeral) : Option Number :=
  let (significand, taken) := absorb 0 n.whole
  let dropped := n.whole.length - taken
  let (significand, start) : Nat × Int := match n.fraction with
    | none => (significand, dropped)
    | some digits =>
        let (significand, taken) := absorb significand digits
        (significand, (dropped : Int) - taken)
  match n.exponent with
  | some (down, digits) => withExponent n.negative significand start down digits
  | none =>
      if n.fraction.isSome || dropped ≠ 0 then scaled n.negative significand start
      else if !n.negative then some (.int significand)
      else if significand = 0 || twoTo 63 < significand then
        some (.float (Binary64.ofInt significand).negate)
      else some (.int (-significand))

def readFraction (s : List Char) : Option (Option (List Char) × List Char) :=
  match s with
  | '.' :: rest =>
      let digits := rest.takeWhile Char.isDigit
      if digits.isEmpty then none else some (some digits, rest.dropWhile Char.isDigit)
  | _ => some (none, s)

def readExponent (s : List Char) : Option (Option (Bool × List Char) × List Char) :=
  match s with
  | 'e' :: rest | 'E' :: rest =>
      let (down, rest) := match rest with
        | '+' :: rest => (false, rest)
        | '-' :: rest => (true, rest)
        | _ => (false, rest)
      let digits := rest.takeWhile Char.isDigit
      if digits.isEmpty then none else some (some (down, digits), rest.dropWhile Char.isDigit)
  | _ => some (none, s)

/-- Reads an unsigned number: no leading zero before another digit. -/
def readNumeral (negative : Bool) (s : List Char) : Option (Option Number × List Char) := do
  let whole := s.takeWhile Char.isDigit
  guard !whole.isEmpty
  guard (whole.length = 1 || whole.head? ≠ some '0')
  let (fraction, rest) ← readFraction (s.dropWhile Char.isDigit)
  let (exponent, rest) ← readExponent rest
  return (Numeral.value ⟨negative, whole, fraction, exponent⟩, rest)

def readHex4 (s : List Char) : Option (Nat × List Char) :=
  match s with
  | a :: b :: c :: d :: rest => (Text.digits? 16 [a, b, c, d]).map fun n => (n, rest)
  | _ => none

def isHighSurrogate (n : Nat) : Bool := 0xd800 ≤ n && n < 0xdc00

def isLowSurrogate (n : Nat) : Bool := 0xdc00 ≤ n && n < 0xe000

def simpleEscape? (c : Char) : Option Char :=
  match c with
  | '"' => some '"'
  | '\\' => some '\\'
  | '/' => some '/'
  | 'b' => some '\x08'
  | 'f' => some '\x0c'
  | 'n' => some '\n'
  | 'r' => some '\r'
  | 't' => some '\t'
  | _ => none

/-- What an escape by number stands for, given the four digits and what follows: a character, or
nothing when it is half a pair. -/
def unicodeEscape (n : Nat) (rest : List Char) : Option (Option Char × List Char) :=
  if isLowSurrogate n then some (none, rest)
  else if isHighSurrogate n then
    match rest with
    | '\\' :: 'u' :: more => do
        let (low, after) ← readHex4 more
        if isLowSurrogate low then
          return (some (Char.ofNat (0x10000 + (n - 0xd800) * 0x400 + (low - 0xdc00))), after)
        else return (none, rest)
    | _ => some (none, rest)
  else some (some (Char.ofNat n), rest)

def readChar (s : List Char) : Option (Option Char × List Char) :=
  match s with
  | '\\' :: 'u' :: rest => do
      let (n, rest) ← readHex4 rest
      unicodeEscape n rest
  | '\\' :: c :: rest => (simpleEscape? c).map fun c => (some c, rest)
  | c :: rest => if c.toNat < 0x20 || c = '\\' then none else some (some c, rest)
  | [] => none

/-- The characters up to the closing quote; `none` in front of the rest when one of them is not a
character. -/
def readString (acc : Option (List Char)) :
    Nat → List Char → Option (Option String × List Char)
  | 0, _ => none
  | _ + 1, '"' :: rest => some (acc.map fun cs => .ofList cs.reverse, rest)
  | fuel + 1, s => do
      let (c, rest) ← readChar s
      readString (do return (← c) :: (← acc)) fuel rest

def readText (s : List Char) : Option (Option String × List Char) :=
  readString (some []) (s.length + 1) s

mutual

def readValue : Nat → List Char → Option (Source × List Char)
  | 0, _ => none
  | fuel + 1, s =>
      match skipSpace s with
      | 'n' :: 'u' :: 'l' :: 'l' :: rest => some (.null, rest)
      | 't' :: 'r' :: 'u' :: 'e' :: rest => some (.bool true, rest)
      | 'f' :: 'a' :: 'l' :: 's' :: 'e' :: rest => some (.bool false, rest)
      | '"' :: rest => (readText rest).map fun (t, rest) => (.text t, rest)
      | '-' :: rest => (readNumeral true rest).map fun (n, rest) => (.number n, rest)
      | '[' :: rest =>
          match skipSpace rest with
          | ']' :: rest => some (.array [], rest)
          | rest => (readItems fuel rest).map fun (items, rest) => (.array items, rest)
      | '\x7b' :: rest =>
          match skipSpace rest with
          | '\x7d' :: rest => some (.object [], rest)
          | rest => (readMembers fuel rest).map fun (members, rest) => (.object members, rest)
      | rest => (readNumeral false rest).map fun (n, rest) => (.number n, rest)

def readItems : Nat → List Char → Option (List Source × List Char)
  | 0, _ => none
  | fuel + 1, s => do
      let (item, rest) ← readValue fuel s
      match skipSpace rest with
      | ',' :: rest =>
          let (items, rest) ← readItems fuel rest
          return (item :: items, rest)
      | ']' :: rest => return ([item], rest)
      | _ => none

def readMembers : Nat → List Char → Option (List (Option String × Source) × List Char)
  | 0, _ => none
  | fuel + 1, s =>
      match skipSpace s with
      | '"' :: rest => do
          let (key, rest) ← readText rest
          match skipSpace rest with
          | ':' :: rest =>
              let (value, rest) ← readValue fuel rest
              match skipSpace rest with
              | ',' :: rest =>
                  let (members, rest) ← readMembers fuel rest
                  return ((key, value) :: members, rest)
              | '\x7d' :: rest => return ([(key, value)], rest)
              | _ => none
          | _ => none
      | _ => none

end

end Runbook.Json

namespace Runbook

/-- Reads a whole text: one value with nothing but white space around it. -/
def Source.read (text : String) : Option Source := do
  let s := text.toList
  let (source, rest) ← Json.readValue (s.length + 1) s
  guard (Json.skipSpace rest).isEmpty
  return source

/-- Arrays and objects nest less than 128 deep in a text that is read. -/
def Json.maxLevels : Nat := 127

def Json.read (text : String) : Option Json := do
  (← Source.read text).toJson? Json.maxLevels

end Runbook
