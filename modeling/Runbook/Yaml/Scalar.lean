import Runbook.Text.Digits
import Runbook.Yaml

/-!
The values of plain scalars. Null and the truth values have three spellings each; a run of
digits with a leading zero is a text; integers fit into 64 bits, and one that needs more is
refused up to 128 bits and a floating-point number beyond; what is none of these is a text.
-/

namespace Runbook.Yaml

open Text (natural?)

def isNull (s : String) : Bool := s == "null" || s == "Null" || s == "NULL" || s == "~"

def truth? (s : String) : Option Bool :=
  if s == "true" || s == "True" || s == "TRUE" then some true
  else if s == "false" || s == "False" || s == "FALSE" then some false
  else none

def dropSign (s : List Char) : List Char :=
  match s with
  | '+' :: rest | '-' :: rest => rest
  | _ => s

/-- Digits after a leading zero, signed or not, are no number. -/
def isZeroPadded (s : List Char) : Bool :=
  match dropSign s with
  | '0' :: c :: rest => (c :: rest).all Char.isDigit
  | _ => false

def radixMark? (s : List Char) : Option (Nat × List Char) :=
  match s with
  | '0' :: 'x' :: rest => some (16, rest)
  | '0' :: 'o' :: rest => some (8, rest)
  | '0' :: 'b' :: rest => some (2, rest)
  | _ => none

def digits? (s : List Char) : Option Nat :=
  match radixMark? s with
  | some (radix, digits) => natural? radix digits
  | none => if isZeroPadded s then none else natural? 10 s

def integer? (s : List Char) : Option Int :=
  match s with
  | '-' :: rest => (digits? rest).map fun n => -(n : Int)
  | '+' :: rest => (digits? rest).map fun n => (n : Int)
  | _ => (digits? s).map fun n => (n : Int)

/-- An integer of at most 64 bits, signed or unsigned. -/
def isWide (n : Int) : Bool := !(isInt64 n || isNat64 n)

def isHuge (n : Int) : Bool := n < -(twoTo 127 : Int) || (twoTo 128 : Int) ≤ n

/-- Digits around an optional point, at least one of them, and an optional exponent. -/
def decimal? (negative : Bool) (s : List Char) : Option Binary64 := do
  let whole := s.takeWhile Char.isDigit
  let (fraction, rest) : List Char × List Char := match s.dropWhile Char.isDigit with
    | '.' :: rest => (rest.takeWhile Char.isDigit, rest.dropWhile Char.isDigit)
    | rest => ([], rest)
  let digits ← natural? 10 (whole ++ fraction)
  let exponent ← match rest with
    | [] => some 0
    | 'e' :: rest | 'E' :: rest =>
        match rest with
        | '-' :: rest => (natural? 10 rest).map fun n => -(n : Int)
        | '+' :: rest => (natural? 10 rest).map fun n => (n : Int)
        | _ => (natural? 10 rest).map fun n => (n : Int)
    | _ => none
  let x := Binary64.ofDecimal negative digits (exponent - fraction.length)
  if x.isFinite then some x else none

def isInfinity (s : List Char) : Bool :=
  s == ".inf".toList || s == ".Inf".toList || s == ".INF".toList

def float? (s : List Char) : Option Binary64 :=
  match s with
  | '-' :: rest => if isInfinity rest then some (.infinity true) else decimal? true rest
  | '+' :: rest => if isInfinity rest then some (.infinity false) else decimal? false rest
  | _ =>
      if isInfinity s then some (.infinity false)
      else if s == ".nan".toList || s == ".NaN".toList || s == ".NAN".toList then some .nan
      else decimal? false s

/-- What a plain scalar stands for; `none` for an integer that is too wide. -/
def plain? (s : String) : Option Yaml :=
  if s.isEmpty || isNull s then some .null
  else match truth? s with
    | some b => some (.bool b)
    | none =>
        match integer? s.toList with
        | some n =>
            if !isWide n then some (.number (.int n))
            else if !isHuge n then none
            else match float? s.toList with
              | some x => some (.number (.float x))
              | none => some (.text s)
        | none =>
            match if isZeroPadded s.toList then none else float? s.toList with
            | some x => some (.number (.float x))
            | none => some (.text s)

/-- What a scalar under a core tag stands for; `none` when tag and text do not fit. -/
def core? (tag : String) (s : String) : Option (Option Yaml) :=
  if tag = "tag:yaml.org,2002:bool" then some ((truth? s).map .bool)
  else if tag = "tag:yaml.org,2002:int" then
    some ((integer? s.toList).bind fun n =>
      if isWide n then none else some (.number (.int n)))
  else if tag = "tag:yaml.org,2002:float" then
    some ((float? s.toList).map fun x => .number (.float x))
  else if tag = "tag:yaml.org,2002:null" then some (if isNull s then some .null else none)
  else none

end Runbook.Yaml
