import Runbook.Text.Digits
import Runbook.Text.Ranges

/-!
Quoted texts for diagnostics. A character stands for itself when it is visible and does not
combine with the one before it; a backslash and the surrounding quote mark are escaped, the
common controls have short escapes, and all else is written by code point.
-/

namespace Runbook.Text

def isHidden (c : Char) : Bool :=
  let n := c.toNat
  if n < 127 then n < 32 else inRanges hiddenRanges n

def isExtending (c : Char) : Bool :=
  c.toNat ≥ 0x300 && inRanges extendRanges c.toNat

/-- One character inside quotes made with `mark`. -/
def escape (mark : Char) (c : Char) : List Char :=
  if c = '\x00' then ['\\', '0']
  else if c = '\t' then ['\\', 't']
  else if c = '\r' then ['\\', 'r']
  else if c = '\n' then ['\\', 'n']
  else if c = mark || c = '\\' then ['\\', c]
  else if isExtending c || isHidden c then
    ['\\', 'u', '\x7b'] ++ hex c.toNat ++ ['\x7d']
  else [c]

def quote (mark : Char) (s : List Char) : List Char :=
  mark :: s.flatMap (escape mark) ++ [mark]

def quoteChar (c : Char) : String := .ofList (quote '\x27' [c])

def quoteText (s : String) : String := .ofList (quote '"' s.toList)

end Runbook.Text
