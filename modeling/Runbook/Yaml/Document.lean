import Runbook.Table
import Runbook.Yaml.Event
import Runbook.Yaml.Scalar

/-!
Reading the one document of a YAML text. Its events are collected up to the first fault of the
text, and the value is made from them; the fault counts only when the value needs an event that
is missing, or when the value is complete. An alias is the value at its anchor read again, so
how deep collections nest and how often aliases are followed is limited.
-/

namespace Runbook.Yaml

inductive Piece
  /-- Aliases go by the number of their anchor. -/
  | alias (anchor : Nat)
  | scalar (tag : Option String) (text : String) (style : Style)
  | sequenceStart (tag : Option String)
  | mappingStart (tag : Option String)
  | collectionEnd
  | nothing

structure Document where
  pieces : Array (Piece × Mark)
  /-- Where the nodes with anchors begin, by the number of the anchor, last one first. -/
  places : List (Nat × Nat)
  fault : Option Fault

namespace Document

def empty : Document := ⟨#[], [], none⟩

def add (d : Document) (piece : Piece) (mark : Mark) : Document :=
  { d with pieces := d.pieces.push (piece, mark) }

/-- An anchor's number is the number of different anchor names before it. -/
def anchor (d : Document) (names : Table Nat) : Option String → Document × Table Nat
  | none => (d, names)
  | some name =>
      ({ d with places := (names.length, d.pieces.size) :: d.places },
        names.insert name names.length)

/-- Collects the first document; also whether anything follows it. -/
def collect (d : Document) (names : Table Nat) (fault : Option Fault) :
    List Event → Document × Bool
  | [] => ({ d with fault }, false)
  | ⟨kind, mark⟩ :: rest =>
      match kind with
      | .streamStart | .documentStart => collect d names fault rest
      | .streamEnd => (d.add .nothing mark, false)
      | .documentEnd =>
          match rest with
          | ⟨.streamEnd, _⟩ :: _ => (d, false)
          | _ => (d, true)
      | .alias name =>
          match names.find? name with
          | some anchor => collect (d.add (.alias anchor) mark) names fault rest
          | none => ({ d with fault := some (.unknownAnchor mark) }, false)
      | .scalar name tag content style =>
          let (d, names) := d.anchor names name
          collect (d.add (.scalar tag content style) mark) names fault rest
      | .sequenceStart name tag =>
          let (d, names) := d.anchor names name
          collect (d.add (.sequenceStart tag) mark) names fault rest
      | .mappingStart name tag =>
          let (d, names) := d.anchor names name
          collect (d.add (.mappingStart tag) mark) names fault rest
      | .sequenceEnd | .mappingEnd => collect (d.add .collectionEnd mark) names fault rest

end Document

/-- A tag of the document's own, without its mark; core tags and foreign ones give `none`. -/
def ownTag? (tag : Option String) : Option String :=
  match tag.map String.toList with
  | some ['!'] => some "!"
  | some ['!', '!'] => some "!"
  | some ('!' :: '!' :: rest) => some (.ofList rest)
  | some ('!' :: rest) => some (.ofList rest)
  | _ => none

def Piece.tag : Piece → Option String
  | .scalar tag _ _ | .sequenceStart tag | .mappingStart tag => tag
  | _ => none

structure Cursor where
  position : Nat
  jumps : Nat

def Cursor.advance (c : Cursor) : Cursor := { c with position := c.position + 1 }

def maxDepth : Nat := 128

namespace Document

def piece (d : Document) (c : Cursor) : Except Fault (Piece × Mark) :=
  match d.pieces[c.position]? with
  | some entry => .ok entry
  | none => .error (d.fault.getD .unfinished)

/-- The value of a scalar; a tag of the document's own does not count any more. -/
def scalar (own : Bool) (tag : Option String) (content : String) (style : Style) (mark : Mark) :
    Except Fault Yaml :=
  let value := match tag with
    | none => if style = .plain then plain? content else some (.text content)
    | some tag =>
        if own then if style = .plain then plain? content else some (.text content)
        else (core? tag content).getD (some (.text content))
  match value with
  | some v => .ok v
  | none => .error (.badValue "invalid value" mark)

def jump (d : Document) (anchor : Nat) (c : Cursor) : Except Fault Cursor :=
  if d.pieces.size * 100 < c.jumps + 1 then .error .tooManyAliases
  else match d.places.lookup anchor with
    | some place => .ok ⟨place, c.jumps + 1⟩
    | none => .error .unfinished

mutual

/-- Reads one node. `levels` says how many collections may still nest here, and `own` that the
node's own tag has been dealt with. -/
def value (d : Document) : Nat → Nat → Bool → Cursor → Except Fault (Yaml × Cursor)
  | 0, _, _, _ => .error .unfinished
  | fuel + 1, levels, own, c => do
      let (piece, mark) ← d.piece c
      match if own then none else ownTag? (Piece.tag piece) with
      | some tag =>
          let (v, c) ← d.value fuel levels true c
          return (.tagged tag v, c)
      | none =>
          match piece with
          | .nothing | .collectionEnd => return (.null, c.advance)
          | .alias anchor =>
              let (v, inner) ← d.value fuel levels false (← d.jump anchor c)
              return (v, { c.advance with jumps := inner.jumps })
          | .scalar tag content style =>
              return (← scalar own tag content style mark, c.advance)
          | .sequenceStart _ =>
              if levels = 0 then .error (.tooDeep mark)
              else do
                let (items, c) ← d.items fuel (levels - 1) c.advance
                return (.list items, c)
          | .mappingStart _ =>
              if levels = 0 then .error (.tooDeep mark)
              else do
                let (entries, c) ← d.entries fuel (levels - 1) mark [] c.advance
                return (.map entries, c)

def items (d : Document) : Nat → Nat → Cursor → Except Fault (List Yaml × Cursor)
  | 0, _, _ => .error .unfinished
  | fuel + 1, levels, c => do
      match ← d.piece c with
      | (.collectionEnd, _) => return ([], c.advance)
      | _ =>
          let (v, c) ← d.value fuel levels false c
          let (rest, c) ← d.items fuel levels c
          return (v :: rest, c)

/-- A key that is there already is a fault of the whole mapping. -/
def entries (d : Document) : Nat → Nat → Mark → List (Yaml × Yaml) → Cursor →
    Except Fault (List (Yaml × Yaml) × Cursor)
  | 0, _, _, _, _ => .error .unfinished
  | fuel + 1, levels, start, seen, c => do
      match ← d.piece c with
      | (.collectionEnd, _) => return (seen.reverse, c.advance)
      | _ =>
          let (key, c) ← d.value fuel levels false c
          if hasKey key seen then .error (.badValue "duplicate entry" start)
          else do
            let (v, c) ← d.value fuel levels false c
            d.entries fuel levels start ((key, v) :: seen) c

end

end Document

def read (source : String) : Except Fault Yaml := do
  let ⟨events, fault⟩ := Events.ofText source
  let (document, more) := Document.empty.collect [] fault events
  let fuel := 2 * (maxDepth + 2) * (document.pieces.size + 2)
  let (v, _) ← document.value fuel maxDepth false ⟨0, 0⟩
  match document.fault with
  | some fault => .error fault
  | none => if more then .error .severalDocuments else .ok v

end Runbook.Yaml
