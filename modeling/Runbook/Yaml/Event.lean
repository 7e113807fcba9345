import Runbook.Yaml.Token

/-!
The events of a YAML text: where documents, sequences and mappings begin and end, and the
scalars and aliases between. Every node that the text leaves out is there as an empty scalar,
and tags are written out in full.
-/

namespace Runbook.Yaml

inductive EventKind
  | streamStart
  | streamEnd
  | documentStart
  | documentEnd
  | alias (name : String)
  | scalar (anchor tag : Option String) (text : String) (style : Style)
  | sequenceStart (anchor tag : Option String)
  | sequenceEnd
  | mappingStart (anchor tag : Option String)
  | mappingEnd

structure Event where
  kind : EventKind
  mark : Mark

inductive Goal
  | streamStart
  | documentStart (first : Bool)
  | documentContent
  | documentEnd
  | blockNode
  | blockSequenceEntry
  /-- An entry of a sequence that is indented no deeper than the mapping around it. -/
  | indentlessEntry
  | blockMappingKey
  | blockMappingValue
  | flowSequenceEntry (first : Bool)
  | flowPairKey
  | flowPairValue
  | flowPairEnd
  | flowMappingKey (first : Bool)
  | flowMappingValue
  | flowMappingEmptyValue
  | done

structure Parser where
  tokens : Array Token
  fault : Option Fault
  position : Nat
  goal : Goal
  pending : List Goal
  tags : List (String × String)

namespace Parser

abbrev Step := Except Fault (Event × Parser)

def fail {α : Type} (problem : String) (mark : Mark) : Except Fault α :=
  .error (.malformed problem mark)

def token (p : Parser) : Except Fault Token :=
  match p.tokens[p.position]? with
  | some t => .ok t
  | none => .error (p.fault.getD .unfinished)

def advance (p : Parser) : Parser := { p with position := p.position + 1 }

def want (p : Parser) (goal : Goal) : Parser := { p with goal }

def push (p : Parser) (goal : Goal) : Parser := { p with pending := goal :: p.pending }

def pop (p : Parser) : Parser :=
  match p.pending with
  | [] => { p with goal := .done }
  | goal :: pending => { p with goal, pending }

def emptyScalar (p : Parser) (mark : Mark) : Step :=
  .ok (⟨.scalar none none "" .plain, mark⟩, p)

def coreTags : List (String × String) := [("!", "!"), ("!!", "tag:yaml.org,2002:")]

def directives (p : Parser) (version : Bool) (seen : List (String × String)) :
    Nat → Except Fault Parser
  | 0 => .ok p
  | fuel + 1 => do
      let t ← p.token
      match t.kind with
      | .version major minor =>
          if version then fail "found duplicate %YAML directive" t.start
          else if major ≠ 1 || (minor ≠ 1 && minor ≠ 2) then
            fail "found incompatible YAML document" t.start
          else directives p.advance true seen fuel
      | .tagDirective handle replacement =>
          if seen.any (·.1 = handle) then fail "found duplicate %TAG directive" t.start
          else directives p.advance version (seen ++ [(handle, replacement)]) fuel
      | _ =>
          return { p with
            tags := seen ++ coreTags.filter fun tag => !seen.any (·.1 = tag.1) }

def documentStart (p : Parser) (first : Bool) : Step := do
  let ended := if first then 0 else
    ((p.tokens.toList.drop p.position).takeWhile (·.kind = .documentEnd)).length
  let p := { p with position := p.position + ended }
  let t ← p.token
  let explicit := match t.kind with
    | .version _ _ | .tagDirective _ _ | .documentStart => true
    | _ => false
  if t.kind = .streamEnd then return (⟨.streamEnd, t.start⟩, p.advance.want .done)
  else if first && !explicit then
    let p := { p with tags := coreTags }
    return (⟨.documentStart, t.start⟩, (p.push .documentEnd).want .blockNode)
  else
    let p ← p.directives false [] (p.tokens.size + 1)
    let start ← p.token
    if start.kind = .documentStart then
      return (⟨.documentStart, t.start⟩, (p.advance.push .documentEnd).want .documentContent)
    else fail "did not find expected <document start>" start.start

structure Properties where
  anchor : Option String
  tag : Option (String × String)
  start : Mark

def anchorOf (t : Token) : Option String :=
  match t.kind with
  | .anchor name => some name
  | _ => none

def tagOf (t : Token) : Option (String × String) :=
  match t.kind with
  | .tag handle suffix => some (handle, suffix)
  | _ => none

def properties (p : Parser) : Except Fault (Properties × Parser) := do
  let t ← p.token
  match t.kind with
  | .anchor name =>
      let p := p.advance
      let u ← p.token
      let p := if (tagOf u).isSome then p.advance else p
      return (⟨some name, tagOf u, t.start⟩, p)
  | .tag handle suffix =>
      let p := p.advance
      let u ← p.token
      let p := if (anchorOf u).isSome then p.advance else p
      return (⟨anchorOf u, some (handle, suffix), t.start⟩, p)
  | _ => return (⟨none, none, t.start⟩, p)

def resolveTag (p : Parser) (start : Mark) : Option (String × String) →
    Except Fault (Option String)
  | none => .ok none
  | some ("", suffix) => .ok (some suffix)
  | some (handle, suffix) =>
      match p.tags.lookup handle with
      | some replacement => .ok (some (replacement ++ suffix))
      | none => fail "found undefined tag handle" start

def node (p : Parser) (block indentless : Bool) : Step := do
  let t ← p.token
  match t.kind with
  | .alias name => return (⟨.alias name, t.start⟩, p.advance.pop)
  | _ =>
      let (properties, p) ← p.properties
      let start := properties.start
      let tag ← p.resolveTag start properties.tag
      let anchor := properties.anchor
      let t ← p.token
      match t.kind, block with
      | .blockEntry, _ =>
          if indentless then
            return (⟨.sequenceStart anchor tag, start⟩, p.want .indentlessEntry)
          else absent p anchor tag start t
      | .scalar value style, _ =>
          let tag := if tag = some "!" then none else tag
          return (⟨.scalar anchor tag value style, start⟩, p.advance.pop)
      | .flowSequenceStart, _ =>
          return (⟨.sequenceStart anchor tag, start⟩, p.advance.want (.flowSequenceEntry true))
      | .flowMappingStart, _ =>
          return (⟨.mappingStart anchor tag, start⟩, p.advance.want (.flowMappingKey true))
      | .blockSequenceStart, true =>
          return (⟨.sequenceStart anchor tag, start⟩, p.advance.want .blockSequenceEntry)
      | .blockMappingStart, true =>
          return (⟨.mappingStart anchor tag, start⟩, p.advance.want .blockMappingKey)
      | _, _ => absent p anchor tag start t
where
  /-- A node of which only anchor or tag is written. -/
  absent (p : Parser) (anchor tag : Option String) (start : Mark) (t : Token) : Step :=
    if anchor.isSome || tag.isSome then .ok (⟨.scalar anchor tag "" .plain, start⟩, p.pop)
    else fail "did not find expected node content" t.start

def documentContent (p : Parser) : Step := do
  let t ← p.token
  match t.kind with
  | .version _ _ | .tagDirective _ _ | .documentStart | .documentEnd | .streamEnd =>
      p.pop.emptyScalar t.start
  | _ => p.node true false

def documentEnd (p : Parser) : Step := do
  let t ← p.token
  let p := if t.kind = .documentEnd then p.advance else p
  return (⟨.documentEnd, t.start⟩, p.want (.documentStart false))

def blockSequenceEntry (p : Parser) : Step := do
  let t ← p.token
  match t.kind with
  | .blockEntry =>
      let p := p.advance
      match (← p.token).kind with
      | .blockEntry | .blockEnd => (p.want .blockSequenceEntry).emptyScalar t.stop
      | _ => (p.push .blockSequenceEntry).node true false
  | .blockEnd => return (⟨.sequenceEnd, t.start⟩, p.advance.pop)
  | _ => fail "did not find expected '-' indicator" t.start

def indentlessEntry (p : Parser) : Step := do
  let t ← p.token
  match t.kind with
  | .blockEntry =>
      let p := p.advance
      match (← p.token).kind with
      | .blockEntry | .key | .value | .blockEnd =>
          (p.want .indentlessEntry).emptyScalar t.stop
      | _ => (p.push .indentlessEntry).node true false
  | _ => return (⟨.sequenceEnd, t.start⟩, p.pop)

def blockMappingKey (p : Parser) : Step := do
  let t ← p.token
  match t.kind with
  | .key =>
      let p := p.advance
      match (← p.token).kind with
      | .key | .value | .blockEnd => (p.want .blockMappingValue).emptyScalar t.stop
      | _ => (p.push .blockMappingValue).node true true
  | .blockEnd => return (⟨.mappingEnd, t.start⟩, p.advance.pop)
  | _ => fail "did not find expected key" t.start

def blockMappingValue (p : Parser) : Step := do
  let t ← p.token
  match t.kind with
  | .value =>
      let p := p.advance
      match (← p.token).kind with
      | .key | .value | .blockEnd => (p.want .blockMappingKey).emptyScalar t.stop
      | _ => (p.push .blockMappingKey).node true true
  | _ => (p.want .blockMappingKey).emptyScalar t.start

def overComma (p : Parser) (first : Bool) (closing : TokenKind) (problem : String) :
    Except Fault Parser := do
  let t ← p.token
  if first || t.kind = closing then return p
  else if t.kind = .flowEntry then return p.advance
  else fail problem t.start

def flowSequenceEntry (p : Parser) (first : Bool) : Step := do
  let p ← p.overComma first .flowSequenceEnd "did not find expected ',' or ']'"
  let t ← p.token
  match t.kind with
  | .flowSequenceEnd => return (⟨.sequenceEnd, t.start⟩, p.advance.pop)
  | .key => return (⟨.mappingStart none none, t.start⟩, p.advance.want .flowPairKey)
  | _ => (p.push (.flowSequenceEntry false)).node false false

/-- A pair without a key loses the token after the key mark. -/
def flowPairKey (p : Parser) : Step := do
  let t ← p.token
  match t.kind with
  | .value | .flowEntry | .flowSequenceEnd =>
      (p.advance.want .flowPairValue).emptyScalar t.stop
  | _ => (p.push .flowPairValue).node false false

def flowPairValue (p : Parser) : Step := do
  let t ← p.token
  if t.kind = .value then
    let p := p.advance
    let u ← p.token
    match u.kind with
    | .flowEntry | .flowSequenceEnd => (p.want .flowPairEnd).emptyScalar u.start
    | _ => (p.push .flowPairEnd).node false false
  else (p.want .flowPairEnd).emptyScalar t.start

def flowPairEnd (p : Parser) : Step := do
  let t ← p.token
  return (⟨.mappingEnd, t.start⟩, p.want (.flowSequenceEntry false))

def flowMappingKey (p : Parser) (first : Bool) : Step := do
  let p ← p.overComma first .flowMappingEnd "did not find expected ',' or '\x7d'"
  let t ← p.token
  match t.kind with
  | .flowMappingEnd => return (⟨.mappingEnd, t.start⟩, p.advance.pop)
  | .key =>
      let p := p.advance
      let u ← p.token
      match u.kind with
      | .value | .flowEntry | .flowMappingEnd => (p.want .flowMappingValue).emptyScalar u.start
      | _ => (p.push .flowMappingValue).node false false
  | _ => (p.push .flowMappingEmptyValue).node false false

def flowMappingValue (p : Parser) : Step := do
  let t ← p.token
  if t.kind = .value then
    let p := p.advance
    let u ← p.token
    match u.kind with
    | .flowEntry | .flowMappingEnd => (p.want (.flowMappingKey false)).emptyScalar u.start
    | _ => (p.push (.flowMappingKey false)).node false false
  else (p.want (.flowMappingKey false)).emptyScalar t.start

def step (p : Parser) : Step :=
  match p.goal with
  | .streamStart => do
      let t ← p.token
      return (⟨.streamStart, t.start⟩, p.advance.want (.documentStart true))
  | .documentStart first => p.documentStart first
  | .documentContent => p.documentContent
  | .documentEnd => p.documentEnd
  | .blockNode => p.node true false
  | .blockSequenceEntry => p.blockSequenceEntry
  | .indentlessEntry => p.indentlessEntry
  | .blockMappingKey => p.blockMappingKey
  | .blockMappingValue => p.blockMappingValue
  | .flowSequenceEntry first => p.flowSequenceEntry first
  | .flowPairKey => p.flowPairKey
  | .flowPairValue => p.flowPairValue
  | .flowPairEnd => p.flowPairEnd
  | .flowMappingKey first => p.flowMappingKey first
  | .flowMappingValue => p.flowMappingValue
  | .flowMappingEmptyValue => do
      let t ← p.token
      (p.want (.flowMappingKey false)).emptyScalar t.start
  | .done => .error .unfinished

def ofTokens (t : Tokens) : Parser :=
  { tokens := t.tokens, fault := t.fault, position := 0, goal := .streamStart, pending := [],
    tags := [] }

end Parser

structure Events where
  events : List Event
  fault : Option Fault

def Events.ofParser (p : Parser) : Nat → Events
  | 0 => ⟨[], none⟩
  | fuel + 1 =>
      match p.goal with
      | .done => ⟨[], none⟩
      | _ =>
          match p.step with
          | .error fault => ⟨[], some fault⟩
          | .ok (event, next) =>
              let rest := ofParser next fuel
              ⟨event :: rest.events, rest.fault⟩

/-- No token gives rise to more than four events. -/
def Events.ofText (text : String) : Events :=
  let tokens := Tokens.ofText text.toList
  ofParser (.ofTokens tokens) (4 * tokens.tokens.size + 8)

end Runbook.Yaml
