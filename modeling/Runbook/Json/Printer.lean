import Runbook.Json
import Runbook.Text.Digits

/-!
JSON texts. The indented form puts every item on a line of its own, two spaces deeper than what
holds it; empty arrays and objects stay on one line. The compact form has no white space.
-/

namespace Runbook.Json

/-- Quotes, backslashes and control characters are escaped and nothing else is. -/
def escapeChar (c : Char) : List Char :=
  if c = '"' then ['\\', '"']
  else if c = '\\' then ['\\', '\\']
  else if c = '\x08' then ['\\', 'b']
  else if c = '\x0c' then ['\\', 'f']
  else if c = '\n' then ['\\', 'n']
  else if c = '\r' then ['\\', 'r']
  else if c = '\t' then ['\\', 't']
  else if c.toNat < 0x20 then '\\' :: 'u' :: Text.padZeros 4 (Text.hex c.toNat)
  else [c]

def quote (s : String) : List Char := '"' :: s.toList.flatMap escapeChar ++ ['"']

def renderNumber (n : Number) : List Char := (n.render .snapshot).toList

def newline (depth : Nat) : List Char := '\n' :: List.replicate (2 * depth) ' '

mutual

/-- The indented form, for a value that starts `depth` levels deep. -/
def indented (depth : Nat) : Json → List Char
  | .null => "null".toList
  | .bool true => "true".toList
  | .bool false => "false".toList
  | .number n => renderNumber n
  | .text s => quote s
  | .array [] => ['[', ']']
  | .array (j :: rest) =>
      '[' :: newline (depth + 1) ++ indented (depth + 1) j ++ indentedItems (depth + 1) rest ++
        newline depth ++ [']']
  | .object [] => ['\x7b', '\x7d']
  | .object ((k, j) :: rest) =>
      '\x7b' :: newline (depth + 1) ++ quote k ++ [':', ' '] ++ indented (depth + 1) j ++
        indentedMembers (depth + 1) rest ++ newline depth ++ ['\x7d']

def indentedItems (depth : Nat) : List Json → List Char
  | [] => []
  | j :: rest => ',' :: newline depth ++ indented depth j ++ indentedItems depth rest

def indentedMembers (depth : Nat) : List (String × Json) → List Char
  | [] => []
  | (k, j) :: rest =>
      ',' :: newline depth ++ quote k ++ [':', ' '] ++ indented depth j ++
        indentedMembers depth rest

end

mutual

def compactChars : Json → List Char
  | .null => "null".toList
  | .bool true => "true".toList
  | .bool false => "false".toList
  | .number n => renderNumber n
  | .text s => quote s
  | .array [] => ['[', ']']
  | .array (j :: rest) => '[' :: compactChars j ++ compactItems rest ++ [']']
  | .object [] => ['\x7b', '\x7d']
  | .object ((k, j) :: rest) =>
      '\x7b' :: quote k ++ [':'] ++ compactChars j ++ compactMembers rest ++ ['\x7d']

def compactItems : List Json → List Char
  | [] => []
  | j :: rest => ',' :: compactChars j ++ compactItems rest

def compactMembers : List (String × Json) → List Char
  | [] => []
  | (k, j) :: rest => ',' :: quote k ++ [':'] ++ compactChars j ++ compactMembers rest

end

def render (j : Json) : String := .ofList (indented 0 j)

def compact (j : Json) : String := .ofList (compactChars j)

end Runbook.Json
