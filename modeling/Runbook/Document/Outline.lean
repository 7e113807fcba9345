import Runbook.Table
import Runbook.Text.Blank

/-!
What the lines of a body say: headings, fenced blocks, and quoted lines that run another
workflow with parameters. Lines are read one after the other; inside a fenced block they say
nothing. A line that does not go on with the parameters of a reference is read once more, as a
line of its own. What has been found is kept with the last find in front.
-/

namespace Runbook

structure Heading where
  level : Nat
  text : String
  line : Nat
deriving DecidableEq

structure SubWorkflowReference where
  path : String
  parameters : Table String
  line : Nat
deriving DecidableEq

namespace Document

open Text

def quoted? (line : List Char) : Option (List Char) :=
  match trimStart line with
  | '>' :: rest => some (trimStart rest)
  | _ => none

def executePath? (line : List Char) : Option (List Char) := do
  return trim (← stripPrefix? "Execute:".toList (← quoted? line))

def isBlankQuote (line : List Char) : Bool := quoted? line == some []

def isParametersLine (line : List Char) : Bool :=
  ((quoted? line).bind (stripPrefix? "Parameters:".toList)).isSome

/-- The key in front of a colon. Where nothing but white space stands there, the last character
of it is the key. -/
def parameterKey? (before : List Char) : Option (List Char) :=
  if isBlankText before then before.getLast?.map fun c => [c] else some (trim before)

def unquote (value : List Char) : List Char :=
  let strip (mark : Char) : Option (List Char) :=
    match value with
    | c :: rest => if c = mark && rest.getLast? = some mark then some rest.dropLast else none
    | [] => none
  match strip '"' with
  | some inner => inner
  | none => (strip '\x27').getD value

def parameter? (line : List Char) : Option (List Char × List Char) := do
  let entry ← stripPrefix? ['-'] (← quoted? line)
  match entry.dropWhile (· ≠ ':') with
  | _ :: value =>
      let key ← parameterKey? (entry.takeWhile (· ≠ ':'))
      return (key, unquote (trim value))
  | [] => none

/-- The text of a heading without the hashes that may close it. -/
def headingText (text : List Char) : List Char :=
  let core := trimEnd ((trimEnd text).reverse.dropWhile (· == '#')).reverse
  if core.isEmpty then text.take 1 else core

/-- Level and text of a heading: up to six hashes, white space, and something more. -/
def heading? (line : List Char) : Option (Nat × List Char) :=
  let level := (line.takeWhile (· == '#')).length
  let rest := line.drop level
  let space := rest.takeWhile isBlank
  let text := rest.dropWhile isBlank
  if level = 0 || 6 < level || space.isEmpty then none
  else if text.isEmpty then
    if space.length = 1 then none else some (level, space.drop (space.length - 1))
  else some (level, headingText text)

def isFence (line : List Char) : Bool :=
  "```".toList.isPrefixOf (trimStart line) || "~~~".toList.isPrefixOf (trimStart line)

inductive Mode
  | scanning
  | awaiting
  | parameters
deriving DecidableEq

structure Scan where
  rest : List (List Char)
  /-- The number of the line that `rest` begins with. -/
  line : Nat
  mode : Mode
  fenced : Bool
  codeBlocks : Nat
  headings : List Heading
  references : List SubWorkflowReference

namespace Scan

def start (lines : List (List Char)) (line : Nat) : Scan :=
  ⟨lines, line, .scanning, false, 0, [], []⟩

def advance (s : Scan) : Scan := { s with rest := s.rest.tail, line := s.line + 1 }

def addParameter (s : Scan) (key value : List Char) : Scan :=
  match s.references with
  | [] => s
  | r :: rest =>
      { s with references :=
          { r with parameters := r.parameters.insert (.ofList key) (.ofList value) } :: rest }

def readLine (s : Scan) (line : List Char) : Scan :=
  match executePath? line with
  | some [] => s.advance
  | some path =>
      { s.advance with
        mode := .awaiting
        references := ⟨.ofList path, [], s.line⟩ :: s.references }
  | none =>
      match heading? line with
      | some (level, text) =>
          { s.advance with headings := ⟨level, .ofList text, s.line⟩ :: s.headings }
      | none => s.advance

/-- One step: the first line is read, or put off until the mode is `scanning`. -/
def step (s : Scan) : Scan :=
  match s.rest with
  | [] => s
  | line :: _ =>
      if s.fenced then { s.advance with fenced := !isFence line }
      else if isFence line then
        { s.advance with fenced := true, codeBlocks := s.codeBlocks + 1, mode := .scanning }
      else match s.mode with
        | .scanning => s.readLine line
        | .awaiting =>
            if isBlankQuote line then s.advance
            else if isParametersLine line then { s.advance with mode := .parameters }
            else { s with mode := .scanning }
        | .parameters =>
            match parameter? line, s.references with
            | some (key, value), _ :: _ => (s.addParameter key value).advance
            | _, _ => { s with mode := .scanning }

/-- What is left to do: two steps for every line, less the one that a mode spares. -/
def size (s : Scan) : Nat :=
  2 * s.rest.length + if s.mode = .scanning then 0 else 1

theorem rest_advance (s : Scan) : s.advance.rest = s.rest.tail := rfl

theorem rest_addParameter (s : Scan) (key value : List Char) :
    (s.addParameter key value).rest = s.rest := by
  unfold addParameter
  split <;> rfl

theorem rest_readLine (s : Scan) (line : List Char) : (s.readLine line).rest = s.rest.tail := by
  unfold readLine
  split
  · rfl
  · rfl
  · split <;> rfl

theorem size_step (s : Scan) (h : s.rest ≠ []) : s.step.size < s.size := by
  unfold step
  split
  · contradiction
  · rename_i line lines hrest
    have bound : ∀ t : Scan, t.rest = s.rest.tail → t.size < s.size := by
      intro t ht
      simp only [size, ht, hrest, List.tail_cons, List.length_cons]
      split <;> split <;> omega
    have back (hmode : s.mode ≠ .scanning) :
        ({ s with mode := .scanning } : Scan).size < s.size := by
      simp [size, hmode]
    split
    · exact bound _ rfl
    · split
      · exact bound _ rfl
      · split
        · exact bound _ (rest_readLine s line)
        · rename_i hmode
          split
          · exact bound _ rfl
          · split
            · exact bound _ rfl
            · exact back (by simp [hmode])
        · rename_i hmode
          split
          · exact bound _ (by rw [rest_advance, rest_addParameter])
          · exact back (by simp [hmode])

def finish (s : Scan) : Scan :=
  if s.rest = [] then s else s.step.finish
termination_by s.size
decreasing_by exact s.size_step ‹_›

end Scan

def scan (body : List Char) (line : Nat) : Scan := (Scan.start (lines body) line).finish

end Document

end Runbook
