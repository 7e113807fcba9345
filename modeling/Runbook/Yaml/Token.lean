import Runbook.Text.Digits
import Runbook.Yaml.Fault

/-!
The tokens of a YAML text: indicators, scalars with their escapes and folds resolved, and the
starts and ends of block collections, which show only in the indentation.

Whether a scalar or a collection is the key of a mapping is known only when the colon after it
is met. Until then it is a candidate, one per open flow collection; the colon puts a key token,
and if need be the start of a block mapping, in front of it.
-/

namespace Runbook.Yaml

inductive Style
  | plain
  | quoted
deriving DecidableEq

inductive TokenKind
  | streamStart
  | streamEnd
  | version (major minor : Nat)
  | tagDirective (handle replacement : String)
  | documentStart
  | documentEnd
  | blockSequenceStart
  | blockMappingStart
  | blockEnd
  | flowSequenceStart
  | flowSequenceEnd
  | flowMappingStart
  | flowMappingEnd
  | blockEntry
  | flowEntry
  | key
  | value
  | alias (name : String)
  | anchor (name : String)
  | tag (handle suffix : String)
  | scalar (text : String) (style : Style)
deriving DecidableEq

structure Token where
  kind : TokenKind
  start : Mark
  stop : Mark

def isBreak (c : Char) : Bool :=
  c == '\r' || c == '\n' || c == '\x85' || c == '\u2028' || c == '\u2029'

def isBlank (c : Char) : Bool := c == ' ' || c == '\t'

def isNameChar (c : Char) : Bool := c.isAlphanum || c == '_' || c == '-'

def isAllowed (c : Char) : Bool :=
  let n := c.toNat
  n == 9 || n == 0xa || n == 0xd || (0x20 ≤ n && n ≤ 0x7e) || n == 0x85 ||
    (0xa0 ≤ n && n ≤ 0xd7ff) || (0xe000 ≤ n && n ≤ 0xfffd) || 0x10000 ≤ n

/-- A place where a key may have started. -/
structure Candidate where
  possible : Bool
  /-- A block mapping goes on here, so that nothing but a key will do. -/
  required : Bool
  /-- How many tokens stand in front of it. -/
  position : Nat
  mark : Mark
deriving Inhabited

structure Scanner where
  rest : List Char
  mark : Mark
  flow : Nat
  /-- The column of the innermost block collection, -1 outside all of them. -/
  indent : Int
  outer : List Int
  keyAllowed : Bool
  candidates : List Candidate
  tokens : Array Token
  ended : Bool

namespace Scanner

def noCandidate : Candidate := ⟨false, false, 0, ⟨0, 0, 0⟩⟩

def start (text : List Char) : Scanner :=
  { rest := text, mark := ⟨0, 0, 0⟩, flow := 0, indent := -1, outer := [], keyAllowed := true,
    candidates := [noCandidate], tokens := #[⟨.streamStart, ⟨0, 0, 0⟩, ⟨0, 0, 0⟩⟩],
    ended := false }

abbrev Result := Except Fault Scanner

def fail {α : Type} (s : Scanner) (problem : String) : Except Fault α :=
  .error (.malformed problem s.mark)

def test (s : Scanner) (i : Nat) (p : Char → Bool) : Bool :=
  match s.rest[i]? with
  | some c => p c
  | none => false

def has (s : Scanner) (i : Nat) (c : Char) : Bool := s.test i (· == c)

def atEnd (s : Scanner) (i : Nat) : Bool := s.rest.length ≤ i

def endsWord (s : Scanner) (i : Nat) : Bool :=
  match s.rest[i]? with
  | some c => isBlank c || isBreak c
  | none => true

def endsLine (s : Scanner) (i : Nat) : Bool :=
  match s.rest[i]? with
  | some c => isBreak c
  | none => true

def skip (s : Scanner) (n : Nat) : Scanner :=
  { s with
    rest := s.rest.drop n,
    mark := ⟨s.mark.index + n, s.mark.line, s.mark.column + n⟩ }

def skipBreak (s : Scanner) : Scanner :=
  match s.rest with
  | '\r' :: '\n' :: rest => { s with rest, mark := ⟨s.mark.index + 2, s.mark.line + 1, 0⟩ }
  | c :: rest =>
      if isBreak c then { s with rest, mark := ⟨s.mark.index + 1, s.mark.line + 1, 0⟩ } else s
  | [] => s

def breakText (s : Scanner) : List Char :=
  match s.rest with
  | c :: _ => if c = '\u2028' || c = '\u2029' then [c] else if isBreak c then ['\n'] else []
  | [] => []

def skipWhile (s : Scanner) (p : Char → Bool) : Scanner :=
  s.skip (s.rest.takeWhile p).length

def skipComment (s : Scanner) : Scanner :=
  if s.has 0 '#' then s.skipWhile (! isBreak ·) else s

/-- `---` or `...` alone at the start of a line. -/
def atDocumentMark (s : Scanner) (c : Char) : Bool :=
  s.mark.column == 0 && s.has 0 c && s.has 1 c && s.has 2 c && s.endsWord 3

def add (s : Scanner) (kind : TokenKind) (start stop : Mark) : Scanner :=
  { s with tokens := s.tokens.push ⟨kind, start, stop⟩ }

def insertAt (s : Scanner) (position : Nat) (kind : TokenKind) (mark : Mark) : Scanner :=
  { s with tokens := s.tokens.insertIdxIfInBounds position ⟨kind, mark, mark⟩ }

def closeBlocks (column : Int) (s : Scanner) : List Int → Scanner
  | [] => s
  | next :: outer =>
      if s.flow = 0 && column < s.indent then
        closeBlocks column
          { s.add .blockEnd s.mark s.mark with indent := next, outer } outer
      else s

def unroll (s : Scanner) (column : Int) : Scanner := closeBlocks column s s.outer

/-- Opens a block collection at `column` when that is deeper than the innermost one; its token
goes in front of the one at `position`, if given. -/
def roll (s : Scanner) (column : Nat) (position : Option Nat) (kind : TokenKind) (mark : Mark) :
    Scanner :=
  if s.flow = 0 && s.indent < column then
    let s := { s with outer := s.indent :: s.outer, indent := column }
    match position with
    | none => s.add kind mark mark
    | some position => s.insertAt position kind mark
  else s

def candidate (s : Scanner) : Candidate := s.candidates.headD noCandidate

def setCandidate (s : Scanner) (c : Candidate) : Scanner :=
  { s with candidates := c :: s.candidates.drop 1 }

def missingColon : String := "could not find expected ':'"

def dropCandidate (s : Scanner) : Result :=
  let c := s.candidate
  if c.possible && c.required then s.fail missingColon
  else .ok (s.setCandidate { c with possible := false })

def saveCandidate (s : Scanner) : Result := do
  if s.keyAllowed then
    let required := s.flow = 0 && s.indent = s.mark.column
    let s ← s.dropCandidate
    return s.setCandidate ⟨true, required, s.tokens.size, s.mark⟩
  else return s

def isStale (s : Scanner) (c : Candidate) : Bool :=
  c.possible && (c.mark.line < s.mark.line || c.mark.index + 1024 < s.mark.index)

/-- A key ends on the line that it starts on, after at most 1024 characters. -/
def dropStale (s : Scanner) : Result :=
  if s.candidates.any fun c => s.isStale c && c.required then s.fail missingColon
  else .ok { s with
    candidates := s.candidates.map fun c =>
      if s.isStale c then { c with possible := false } else c }

/-- Goes over white space, comments and line breaks. Tabs do not count as indentation. -/
def skipToToken (s : Scanner) : Nat → Scanner
  | 0 => s
  | fuel + 1 =>
      let s := if s.mark.index = 0 && s.has 0 '\ufeff' then s.skip 1 else s
      let s := s.skipWhile fun c => c == ' ' || (c == '\t' && (s.flow ≠ 0 || !s.keyAllowed))
      let s := s.skipComment
      if s.test 0 isBreak then
        let s := s.skipBreak
        skipToToken (if s.flow = 0 then { s with keyAllowed := true } else s) fuel
      else s

/-- White space inside a scalar: blanks on one line, or the first break and the breaks after. -/
structure Gap where
  folded : Bool
  blanks : List Char
  first : List Char
  more : List Char

def Gap.none : Gap := ⟨false, [], [], []⟩

/-- A single line break is a space; of several, all but the first are kept. -/
def Gap.text (g : Gap) : List Char :=
  if !g.folded then g.blanks
  else if g.first = ['\n'] then if g.more.isEmpty then [' '] else g.more
  else g.first ++ g.more

/-- Takes the white space in front; with a limit, no tab may stand left of that column. -/
def takeGap (limit : Option Int) (g : Gap) (s : Scanner) : Nat → Except Fault (Gap × Scanner)
  | 0 => .ok (g, s)
  | fuel + 1 =>
      match s.rest with
      | [] => .ok (g, s)
      | c :: _ =>
          if isBlank c then
            if g.folded then
              if c = '\t' && (limit.any fun limit => (s.mark.column : Int) < limit) then
                s.fail "found a tab character that violates indentation"
              else takeGap limit g (s.skip 1) fuel
            else takeGap limit { g with blanks := g.blanks ++ [c] } (s.skip 1) fuel
          else if isBreak c then
            if g.folded then
              takeGap limit { g with more := g.more ++ s.breakText } s.skipBreak fuel
            else takeGap limit ⟨true, [], s.breakText, g.more⟩ s.skipBreak fuel
          else .ok (g, s)

def isFlowMark (c : Char) : Bool :=
  c == ',' || c == '[' || c == ']' || c == '\x7b' || c == '\x7d'

/-- The characters of a plain scalar up to a blank or an indicator, and whether they end at a
colon that must not stand there. -/
def plainRun (inFlow : Bool) : List Char → List Char × Bool
  | [] => ([], false)
  | c :: rest =>
      if isBlank c || isBreak c then ([], false)
      else if c = ':' then
        match rest with
        | [] => ([], false)
        | d :: _ =>
            if inFlow && (isFlowMark d || d == '?') then ([], true)
            else if isBlank d || isBreak d then ([], false)
            else
              let (run, bad) := plainRun inFlow rest
              (c :: run, bad)
      else if inFlow && isFlowMark c then ([], false)
      else
        let (run, bad) := plainRun inFlow rest
        (c :: run, bad)

/-- Text (reversed), end and following white space of a plain scalar. -/
def plainText (gap : Gap) (out : List Char) (stop : Mark) (s : Scanner) :
    Nat → Except Fault (List Char × Mark × Gap × Scanner)
  | 0 => .ok (out, stop, gap, s)
  | fuel + 1 =>
      if s.atDocumentMark '-' || s.atDocumentMark '.' || s.has 0 '#' then
        .ok (out, stop, gap, s)
      else
        let (run, bad) := plainRun (s.flow ≠ 0) s.rest
        let s := s.skip run.length
        let (out, stop, gap) :=
          if run.isEmpty then (out, stop, gap)
          else (run.reverse ++ (gap.text.reverse ++ out), s.mark, Gap.none)
        if bad then s.fail "found unexpected ':'"
        else if s.endsWord 0 && !s.atEnd 0 then do
          let (gap, s) ← takeGap (some (s.indent + 1)) gap s (s.rest.length + 1)
          if s.flow = 0 && (s.mark.column : Int) < s.indent + 1 then return (out, stop, gap, s)
          else plainText gap out stop s fuel
        else .ok (out, stop, gap, s)

def scanPlain (s : Scanner) : Result := do
  let start := s.mark
  let (out, stop, gap, s) ← plainText Gap.none [] start s (s.rest.length + 1)
  let s := s.add (.scalar (.ofList out.reverse) .plain) start stop
  return if gap.folded then { s with keyAllowed := true } else s

def escapes : List (Char × Char) :=
  [('0', '\x00'), ('a', '\x07'), ('b', '\x08'), ('t', '\t'), ('\t', '\t'), ('n', '\n'),
    ('v', '\x0b'), ('f', '\x0c'), ('r', '\r'), ('e', '\x1b'), (' ', ' '), ('"', '"'),
    ('/', '/'), ('\\', '\\'), ('N', '\x85'), ('_', '\xa0'), ('L', '\u2028'), ('P', '\u2029')]

def escaped (s : Scanner) : Except Fault (Char × Scanner) :=
  match s.rest[1]? with
  | none => s.fail "found unknown escape character"
  | some c =>
      match escapes.lookup c with
      | some d => .ok (d, s.skip 2)
      | none =>
          let width := if c = 'x' then 2 else if c = 'u' then 4 else if c = 'U' then 8 else 0
          if width = 0 then s.fail "found unknown escape character"
          else
            let s := s.skip 2
            let digits := s.rest.take width
            match Text.digits? 16 digits with
            | none => s.fail "did not find expected hexdecimal number"
            | some n =>
                if digits.length < width then s.fail "did not find expected hexdecimal number"
                else if (0xd800 ≤ n && n ≤ 0xdfff) || 0x10ffff < n then
                  s.fail "found invalid Unicode character escape code"
                else .ok (Char.ofNat n, s.skip width)

/-- The characters of a quoted scalar (put in front of `out`, reversed) up to white space or the
closing quote, and whether they end in an escaped line break. -/
def quotedRun (quote : Char) (out : List Char) (s : Scanner) :
    Nat → Except Fault (List Char × Bool × Scanner)
  | 0 => .ok (out, false, s)
  | fuel + 1 =>
      match s.rest with
      | [] => .ok (out, false, s)
      | c :: _ =>
          if isBlank c || isBreak c then .ok (out, false, s)
          else if c = quote then
            if quote = '\x27' && s.has 1 quote then quotedRun quote (c :: out) (s.skip 2) fuel
            else .ok (out, false, s)
          else if quote = '"' && c = '\\' then
            if s.test 1 isBreak then .ok (out, true, (s.skip 1).skipBreak)
            else do
              let (d, s) ← s.escaped
              quotedRun quote (d :: out) s fuel
          else quotedRun quote (c :: out) (s.skip 1) fuel

def quotedText (quote : Char) (out : List Char) (s : Scanner) :
    Nat → Except Fault (List Char × Scanner)
  | 0 => s.fail "found unexpected end of stream"
  | fuel + 1 => do
      if s.atDocumentMark '-' || s.atDocumentMark '.' then
        s.fail "found unexpected document indicator"
      else if s.atEnd 0 then s.fail "found unexpected end of stream"
      else
        let (out, escapedBreak, s) ← quotedRun quote out s (s.rest.length + 1)
        if s.has 0 quote then return (out, s.skip 1)
        else
          let (gap, s) ← takeGap none { Gap.none with folded := escapedBreak } s
            (s.rest.length + 1)
          quotedText quote (gap.text.reverse ++ out) s fuel

def scanQuoted (s : Scanner) (quote : Char) : Result := do
  let start := s.mark
  let s := s.skip 1
  let (out, s) ← quotedText quote [] s (s.rest.length + 2)
  return s.add (.scalar (.ofList out.reverse) .quoted) start s.mark

/-- Indentation and empty lines in front of a line of a block scalar: the breaks, and the deepest
column met. -/
def blockBreaks (indent : Int) (breaks : List Char) (deepest : Nat) (s : Scanner) :
    Nat → Except Fault (List Char × Nat × Scanner)
  | 0 => .ok (breaks, deepest, s)
  | fuel + 1 =>
      let free := (s.rest.takeWhile (· == ' ')).length
      let room := if indent = 0 then free else min free (indent - s.mark.column).toNat
      let s := s.skip room
      let deepest := max deepest s.mark.column
      if (indent = 0 || (s.mark.column : Int) < indent) && s.has 0 '\t' then
        s.fail "found a tab character where an indentation space is expected"
      else if s.test 0 isBreak then
        blockBreaks indent (breaks ++ s.breakText) deepest s.skipBreak fuel
      else .ok (breaks, deepest, s)

/-- The lines of a block scalar: text (reversed), the break after the last line, and the breaks
after that. -/
def blockLines (literal : Bool) (indent : Int) (out lineBreak breaks : List Char)
    (afterBlank : Bool) (s : Scanner) :
    Nat → Except Fault (List Char × List Char × List Char × Scanner)
  | 0 => .ok (out, lineBreak, breaks, s)
  | fuel + 1 =>
      if (s.mark.column : Int) = indent && !s.atEnd 0 then do
        let startsBlank := s.test 0 isBlank
        let out :=
          if !literal && lineBreak = ['\n'] && !afterBlank && !startsBlank then
            if breaks.isEmpty then ' ' :: out else out
          else lineBreak.reverse ++ out
        let out := breaks.reverse ++ out
        let line := s.rest.takeWhile (! isBreak ·)
        let s := s.skip line.length
        let out := line.reverse ++ out
        let lineBreak := s.breakText
        let s := s.skipBreak
        let (breaks, _, s) ← blockBreaks indent [] 0 s (s.rest.length + 1)
        blockLines literal indent out lineBreak breaks startsBlank s fuel
      else .ok (out, lineBreak, breaks, s)

inductive Chomping
  | strip
  | clip
  | keep
deriving DecidableEq

def chomping? (s : Scanner) : Option Chomping :=
  if s.has 0 '+' then some .keep else if s.has 0 '-' then some .strip else none

def increment? (s : Scanner) : Except Fault (Nat × Scanner) :=
  match s.rest with
  | c :: _ =>
      if c.isDigit then
        if c = '0' then s.fail "found an indentation indicator equal to 0"
        else .ok (c.toNat - 48, s.skip 1)
      else .ok (0, s)
  | [] => .ok (0, s)

def blockHead (s : Scanner) : Except Fault (Chomping × Nat × Scanner) :=
  match s.chomping? with
  | some chomping => do
      let (increment, s) ← (s.skip 1).increment?
      return (chomping, increment, s)
  | none => do
      let (increment, s) ← s.increment?
      if increment = 0 then return (.clip, 0, s)
      match s.chomping? with
      | some chomping => return (chomping, increment, s.skip 1)
      | none => return (.clip, increment, s)

def scanBlock (s : Scanner) (literal : Bool) : Result := do
  let start := s.mark
  let (chomping, increment, s) ← (s.skip 1).blockHead
  let s := (s.skipWhile isBlank).skipComment
  if !s.endsLine 0 then s.fail "did not find expected comment or line break"
  else
    let s := s.skipBreak
    let known : Int :=
      if increment = 0 then 0 else if 0 ≤ s.indent then s.indent + increment else increment
    let (breaks, deepest, s) ← blockBreaks known [] 0 s (s.rest.length + 1)
    let indent := if known = 0 then max (max (deepest : Int) (s.indent + 1)) 1 else known
    let (out, lineBreak, breaks, s) ←
      blockLines literal indent [] [] breaks false s (s.rest.length + 1)
    let out := if chomping = .strip then out else lineBreak.reverse ++ out
    let out := if chomping = .keep then breaks.reverse ++ out else out
    return s.add (.scalar (.ofList out.reverse) .quoted) start s.mark

def scanName (s : Scanner) (toKind : String → TokenKind) : Result :=
  let start := s.mark
  let s := s.skip 1
  let name := s.rest.takeWhile isNameChar
  let s := s.skip name.length
  if name.isEmpty || !(s.endsWord 0 || s.test 0 fun c =>
      "?:,]%@".toList.contains c || c == '\x60' || c == '\x7d') then
    s.fail "did not find expected alphabetic or numeric character"
  else .ok (s.add (toKind (.ofList name)) start s.mark)

def isTagChar (verbatim : Bool) (c : Char) : Bool :=
  isNameChar c || ";/?:@&=+$.%!~*()".toList.contains c || c == '\x27' ||
    (verbatim && (c == ',' || c == '[' || c == ']'))

/-- The number of bytes in the UTF-8 form of a character, by its first byte. -/
def sequenceLength (first : Nat) : Nat :=
  if first < 0x80 then 1
  else if 0xc0 ≤ first && first < 0xe0 then 2
  else if 0xe0 ≤ first && first < 0xf0 then 3
  else if 0xf0 ≤ first && first < 0xf8 then 4
  else 0

def escapedByte (s : Scanner) : Except Fault (Nat × Scanner) :=
  match s.rest with
  | '%' :: a :: b :: _ =>
      match Text.digits? 16 [a, b] with
      | some n => .ok (n, s.skip 3)
      | none => s.fail "did not find URI escaped octet"
  | _ => s.fail "did not find URI escaped octet"

def followingBytes (n : Nat) (s : Scanner) : Nat → Except Fault (Nat × Scanner)
  | 0 => .ok (n, s)
  | count + 1 => do
      let (byte, next) ← s.escapedByte
      if byte < 0x80 || 0xc0 ≤ byte then s.fail "found an incorrect trailing UTF-8 octet"
      else followingBytes (64 * n + byte % 64) next count

def escapedChar (s : Scanner) : Except Fault (Char × Scanner) := do
  let (first, next) ← s.escapedByte
  match sequenceLength first with
  | 0 => s.fail "found an incorrect leading UTF-8 octet"
  | 1 => return (Char.ofNat first, next)
  | width =>
      let (n, s) ← followingBytes (first % twoTo (7 - width)) next (width - 1)
      return (Char.ofNat n, s)

/-- The characters of a tag, put in front of `out` in reverse. -/
def tagText (verbatim : Bool) (out : List Char) (s : Scanner) :
    Nat → Except Fault (List Char × Scanner)
  | 0 => .ok (out, s)
  | fuel + 1 =>
      match s.rest with
      | [] => .ok (out, s)
      | c :: _ =>
          if c = '%' then do
            let (d, s) ← s.escapedChar
            tagText verbatim (d :: out) s fuel
          else if isTagChar verbatim c then tagText verbatim (c :: out) (s.skip 1) fuel
          else .ok (out, s)

/-- The rest of a tag after `head`; head and rest together must not be empty. -/
def tagRest (verbatim : Bool) (head : List Char) (s : Scanner) :
    Except Fault (String × Scanner) := do
  let (out, s') ← tagText verbatim (head.drop 1).reverse s (s.rest.length + 1)
  if head.isEmpty && s'.mark.index = s.mark.index then s'.fail "did not find expected tag URI"
  else return (.ofList out.reverse, s')

/-- `!`, `!name` or `!name!`. -/
def tagHandle (s : Scanner) : List Char × Scanner :=
  let name := (s.rest.drop 1).takeWhile isNameChar
  let closed := s.has (name.length + 1) '!'
  let handle := '!' :: name ++ if closed then ['!'] else []
  (handle, s.skip handle.length)

def scanTag (s : Scanner) : Result := do
  let start := s.mark
  let (handle, suffix, s) ←
    if s.has 1 '<' then do
      let (suffix, s) ← tagRest true [] (s.skip 2)
      if s.has 0 '>' then pure ("", suffix, s.skip 1)
      else s.fail "did not find the expected '>'"
    else do
      let (handle, s) := s.tagHandle
      if 1 < handle.length && handle.getLast? = some '!' then
        let (suffix, s) ← tagRest false [] s
        pure (String.ofList handle, suffix, s)
      else
        let (suffix, s) ← tagRest false handle s
        pure (if suffix.isEmpty then ("", "!", s) else ("!", suffix, s))
  if s.endsWord 0 || (s.flow ≠ 0 && s.has 0 ',') then
    return s.add (.tag handle suffix) start s.mark
  else s.fail "did not find expected whitespace or line break"

def versionNumber (s : Scanner) : Except Fault (Nat × Scanner) :=
  let digits := s.rest.takeWhile Char.isDigit
  if 9 < digits.length then (s.skip 9).fail "found extremely long version number"
  else if digits.isEmpty then s.fail "did not find expected version number"
  else .ok (Text.decimal digits, s.skip digits.length)

def versionDirective (s : Scanner) : Except Fault (TokenKind × Scanner) := do
  let (major, s) ← (s.skipWhile isBlank).versionNumber
  if s.has 0 '.' then
    let (minor, s) ← (s.skip 1).versionNumber
    return (.version major minor, s)
  else s.fail "did not find expected digit or '.' character"

def tagDirective (s : Scanner) : Except Fault (TokenKind × Scanner) := do
  let s := s.skipWhile isBlank
  if !s.has 0 '!' then s.fail "did not find expected '!'"
  else
    let (handle, s) := s.tagHandle
    if handle ≠ ['!'] && handle.getLast? ≠ some '!' then s.fail "did not find expected '!'"
    else if !s.test 0 isBlank then s.fail "did not find expected whitespace"
    else
      let (replacement, s) ← tagRest true [] (s.skipWhile isBlank)
      if s.endsWord 0 then return (.tagDirective (.ofList handle) replacement, s)
      else s.fail "did not find expected whitespace or line break"

def scanDirective (s : Scanner) : Result := do
  let start := s.mark
  let s := s.skip 1
  let name := s.rest.takeWhile isNameChar
  let s := s.skip name.length
  if name.isEmpty then s.fail "could not find expected directive name"
  else if !s.endsWord 0 then s.fail "found unexpected non-alphabetical character"
  else
    let (kind, s) ←
      if name = "YAML".toList then s.versionDirective
      else if name = "TAG".toList then s.tagDirective
      else s.fail "found unknown directive name"
    let s := s.add kind start s.mark
    let s := (s.skipWhile isBlank).skipComment
    if s.endsLine 0 then return s.skipBreak
    else s.fail "did not find expected comment or line break"

def indicator (s : Scanner) (kind : TokenKind) (width : Nat) : Scanner :=
  let next := s.skip width
  next.add kind s.mark next.mark

def fetchStreamEnd (s : Scanner) : Result := do
  let s := if s.mark.column = 0 then s
    else { s with mark := ⟨s.mark.index, s.mark.line + 1, 0⟩ }
  let s ← (s.unroll (-1)).dropCandidate
  return { s.add .streamEnd s.mark s.mark with keyAllowed := false, ended := true }

def fetchDirective (s : Scanner) : Result := do
  let s ← (s.unroll (-1)).dropCandidate
  scanDirective { s with keyAllowed := false }

def fetchDocumentMark (s : Scanner) (kind : TokenKind) : Result := do
  let s ← (s.unroll (-1)).dropCandidate
  return { s with keyAllowed := false }.indicator kind 3

def fetchFlowStart (s : Scanner) (kind : TokenKind) : Result := do
  let s ← s.saveCandidate
  let s := { s with flow := s.flow + 1, candidates := noCandidate :: s.candidates }
  return { s with keyAllowed := true }.indicator kind 1

def fetchFlowEnd (s : Scanner) (kind : TokenKind) : Result := do
  let s ← s.dropCandidate
  let s := if s.flow = 0 then s
    else { s with flow := s.flow - 1, candidates := s.candidates.drop 1 }
  return { s with keyAllowed := false }.indicator kind 1

def fetchFlowEntry (s : Scanner) : Result := do
  let s ← s.dropCandidate
  return { s with keyAllowed := true }.indicator .flowEntry 1

def fetchBlockEntry (s : Scanner) : Result := do
  if s.flow = 0 && !s.keyAllowed then
    s.fail "block sequence entries are not allowed in this context"
  else
    let s ← (s.roll s.mark.column none .blockSequenceStart s.mark).dropCandidate
    return { s with keyAllowed := true }.indicator .blockEntry 1

def fetchKey (s : Scanner) : Result := do
  if s.flow = 0 && !s.keyAllowed then s.fail "mapping keys are not allowed in this context"
  else
    let s ← (s.roll s.mark.column none .blockMappingStart s.mark).dropCandidate
    return { s with keyAllowed := s.flow = 0 }.indicator .key 1

def fetchValue (s : Scanner) : Result :=
  let c := s.candidate
  if c.possible then
    let s := s.insertAt c.position .key c.mark
    let s := s.roll c.mark.column (some c.position) .blockMappingStart c.mark
    let s := s.setCandidate { c with possible := false }
    .ok ({ s with keyAllowed := false }.indicator .value 1)
  else if s.flow = 0 && !s.keyAllowed then
    s.fail "mapping values are not allowed in this context"
  else
    let s := s.roll s.mark.column none .blockMappingStart s.mark
    .ok ({ s with keyAllowed := s.flow = 0 }.indicator .value 1)

/-- Takes a candidate, then goes on with `scan`; no other key may start in between. -/
def fetchNode (s : Scanner) (scan : Scanner → Result) : Result := do
  let s ← s.saveCandidate
  scan { s with keyAllowed := false }

def fetchBlockScalar (s : Scanner) (literal : Bool) : Result := do
  let s ← s.dropCandidate
  scanBlock { s with keyAllowed := true } literal

def indicators : List Char :=
  ['-', '?', ':', ',', '[', ']', '\x7b', '\x7d', '#', '&', '*', '!', '|', '>', '\x27', '"', '%',
    '@', '\x60']

def startsPlain (s : Scanner) : Bool :=
  match s.rest with
  | [] => false
  | c :: _ =>
      !(isBlank c || isBreak c || indicators.contains c) ||
        (c == '-' && !s.test 1 isBlank) ||
        (s.flow == 0 && (c == '?' || c == ':') && !s.endsWord 1)

def fetch (s : Scanner) : Result := do
  let s ← (s.skipToToken (s.rest.length + 1)).dropStale
  let s := s.unroll s.mark.column
  match s.rest with
  | [] => s.fetchStreamEnd
  | c :: _ =>
      if s.mark.column = 0 && c = '%' then s.fetchDirective
      else if s.atDocumentMark '-' then s.fetchDocumentMark .documentStart
      else if s.atDocumentMark '.' then s.fetchDocumentMark .documentEnd
      else if c = '[' then s.fetchFlowStart .flowSequenceStart
      else if c = '\x7b' then s.fetchFlowStart .flowMappingStart
      else if c = ']' then s.fetchFlowEnd .flowSequenceEnd
      else if c = '\x7d' then s.fetchFlowEnd .flowMappingEnd
      else if c = ',' then s.fetchFlowEntry
      else if c = '-' && s.endsWord 1 then s.fetchBlockEntry
      else if c = '?' && (s.flow ≠ 0 || s.endsWord 1) then s.fetchKey
      else if c = ':' && (s.flow ≠ 0 || s.endsWord 1) then s.fetchValue
      else if c = '*' then s.fetchNode fun s => s.scanName .alias
      else if c = '&' then s.fetchNode fun s => s.scanName .anchor
      else if c = '!' then s.fetchNode scanTag
      else if c = '|' && s.flow = 0 then s.fetchBlockScalar true
      else if c = '>' && s.flow = 0 then s.fetchBlockScalar false
      else if c = '\x27' || c = '"' then s.fetchNode fun s => s.scanQuoted c
      else if s.startsPlain then s.fetchNode scanPlain
      else s.fail "found character that cannot start any token"

/-- How many tokens are settled: one that may yet become a key is not. -/
def settled (s : Scanner) : Nat :=
  s.candidates.foldl (fun n c => if c.possible then min n c.position else n) s.tokens.size

end Scanner

/-- The tokens of a text, as far as they can be told, and what stops the reading after them. -/
structure Tokens where
  tokens : Array Token
  fault : Option Fault

/-- Every step but the last takes at least one character. -/
def Tokens.scan (s : Scanner) : Nat → Tokens
  | 0 => ⟨s.tokens, none⟩
  | fuel + 1 =>
      if s.ended then ⟨s.tokens, none⟩
      else match s.fetch >>= Scanner.dropStale with
        | .ok next => scan next fuel
        | .error fault => ⟨s.tokens.extract 0 s.settled, some fault⟩

def Tokens.ofText (text : List Char) : Tokens :=
  if text.all isAllowed then scan (.start text) (text.length + 2)
  else ⟨#[⟨.streamStart, ⟨0, 0, 0⟩, ⟨0, 0, 0⟩⟩], some .forbiddenCharacter⟩

end Runbook.Yaml
