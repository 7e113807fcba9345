import Runbook.Toml.Scalar

/-!
Reading TOML documents: headers, keys with values, and comments, one a line. Arrays and tables
in braces nest less than 80 deep, and keys have fewer than 80 parts.
-/

namespace Runbook.Toml

def maxDepth : Nat := 80

def isKeyChar (c : Char) : Bool := c.isAlphanum || c == '_' || c == '-'

def readKeyPart (s : List Char) : Option (String × List Char) :=
  match s with
  | '"' :: rest => (readBasic (rest.length + 1) rest).map fun (k, rest) => (.ofList k, rest)
  | '\x27' :: rest => (readLiteral rest).map fun (k, rest) => (.ofList k, rest)
  | _ =>
      let part := s.takeWhile isKeyChar
      if part.isEmpty then none else some (.ofList part, s.dropWhile isKeyChar)

def readKeyParts : Nat → List Char → Option (List String × List Char)
  | 0, _ => none
  | fuel + 1, s => do
      let (part, rest) ← readKeyPart (skipSpace s)
      match skipSpace rest with
      | '.' :: rest =>
          let (parts, rest) ← readKeyParts fuel rest
          return (part :: parts, rest)
      | rest => return ([part], rest)

/-- A key as the path to a table and the key within it. -/
structure Key where
  path : List String
  last : String

def Key.parts (k : Key) : List String := k.path ++ [k.last]

def readKey (s : List Char) : Option (Key × List Char) := do
  let (parts, rest) ← readKeyParts maxDepth s
  guard (parts.length < maxDepth)
  let last ← parts.getLast?
  return (⟨parts.dropLast, last⟩, rest)

def skipComment (s : List Char) : List Char :=
  match s with
  | '#' :: rest => rest.dropWhile isPlain
  | _ => s

def skipBlank : Nat → List Char → List Char
  | 0, s => s
  | fuel + 1, s =>
      let s := skipComment (skipSpace s)
      match readNewline s with
      | some rest => skipBlank fuel rest
      | none => s

/-- What may stand between the values of an array; a comment there ends with its line. -/
def readBlank (s : List Char) : Option (List Char) :=
  let rest := skipBlank (s.length + 1) s
  if rest.isEmpty then none else some rest

mutual

/-- Reads a value with at most `levels` arrays and tables within each other. -/
def readValue : Nat → Nat → List Char → Option (Toml × List Char)
  | 0, _, _ => none
  | fuel + 1, levels, s =>
      match s with
      | '[' :: rest => do
          guard (levels ≠ 0)
          let (items, rest) ← readItems fuel (levels - 1) rest
          return (.array items, rest)
      | '\x7b' :: rest => do
          guard (levels ≠ 0)
          match skipSpace rest with
          | '\x7d' :: rest => return (.table [], rest)
          | rest =>
              let (entries, rest) ← readPairs fuel (levels - 1) [] rest
              return (.table (Draft.finishEntries entries), rest)
      | _ => readScalar s

def readItems : Nat → Nat → List Char → Option (List Toml × List Char)
  | 0, _, _ => none
  | fuel + 1, levels, s => do
      match ← readBlank s with
      | ']' :: rest => return ([], rest)
      | s =>
          let (item, rest) ← readValue fuel levels s
          match ← readBlank rest with
          | ',' :: rest =>
              let (items, rest) ← readItems fuel levels rest
              return (item :: items, rest)
          | ']' :: rest => return ([item], rest)
          | _ => none

def readPairs : Nat → Nat → Table Draft → List Char → Option (Table Draft × List Char)
  | 0, _, _, _ => none
  | fuel + 1, levels, entries, s => do
      let (key, rest) ← readKey s
      let rest ← readMark '=' rest
      let (value, rest) ← readValue fuel levels (skipSpace rest)
      let entries ← Draft.assign entries key.path key.last value
      match skipSpace rest with
      | ',' :: rest => readPairs fuel levels entries rest
      | '\x7d' :: rest => return (entries, rest)
      | _ => none

end

def readLineEnd (s : List Char) : Option (List Char) :=
  let rest := skipComment (skipSpace s)
  if rest.isEmpty then some [] else readNewline rest

/-- A document while it is read: the tables so far, and the header that holds. -/
structure Progress where
  root : Table Draft
  header : List String

def readHeader (p : Progress) (s : List Char) : Option (Progress × List Char) := do
  match s with
  | '[' :: rest =>
      let (key, rest) ← readKey rest
      let rest ← readMark ']' (← readMark ']' rest)
      let root ← Draft.openItem p.root key.path key.last
      return (⟨root, key.parts⟩, rest)
  | _ =>
      let (key, rest) ← readKey s
      let rest ← readMark ']' rest
      let root ← Draft.openTable p.root key.path key.last
      return (⟨root, key.parts⟩, rest)

def readPair (p : Progress) (s : List Char) : Option (Progress × List Char) := do
  let (key, rest) ← readKey s
  let rest ← readMark '=' rest
  let (value, rest) ← readValue (rest.length + 1) (maxDepth - 1) (skipSpace rest)
  let root ← Draft.within p.root p.header fun table => Draft.assign table key.path key.last value
  return (⟨root, p.header⟩, rest)

def readLines : Nat → Progress → List Char → Option Progress
  | 0, _, _ => none
  | fuel + 1, p, s =>
      match skipSpace s with
      | [] => some p
      | '#' :: rest => do readLines fuel p (← readLineEnd ('#' :: rest))
      | '[' :: rest => do
          let (p, rest) ← readHeader p rest
          readLines fuel p (← readLineEnd rest)
      | c :: rest =>
          match readNewline (c :: rest) with
          | some rest => readLines fuel p rest
          | none => do
              let (p, rest) ← readPair p (c :: rest)
              readLines fuel p (← readLineEnd rest)

/-- A byte order mark at the start does not count. -/
def dropMark : List Char → List Char
  | '\ufeff' :: rest => rest
  | s => s

def read (text : String) : Option (Table Toml) := do
  let s := dropMark text.toList
  let p ← readLines (s.length + 1) ⟨[], []⟩ s
  return Draft.finishEntries p.root

end Runbook.Toml
