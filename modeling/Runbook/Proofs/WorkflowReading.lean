import Runbook.Workflow

/-!
The reading of a workflow taken apart: a document that is not blank gives the workflow of its
header and its body as soon as the header can be read.
-/

namespace Runbook.Workflow

/-- The header that a document is split into, read. -/
def readHeader (front : FrontMatter) : Except Error Header :=
  match front.header with
  | some header => Header.read header front.headerLine
  | none => .ok .empty

/-- The workflow of a document whose header has been read. -/
def ofHeader (text : String) (sourcePath : Option String) (header : Header) : Workflow :=
  { header, sourcePath
    headerText := (FrontMatter.split text).header
    content := .ofBody (FrontMatter.split text).body (FrontMatter.split text).bodyLine
    contentHash := Runbook.contentHash text }

theorem read_of_blank {text : String} (h : Text.isBlankString text = true)
    (path : Option String) : Workflow.read text path = .error .emptyDocument := by
  simp [Workflow.read, h, bind, Except.bind, throw, throwThe, MonadExceptOf.throw]

theorem read_of_not_blank {text : String} (h : Text.isBlankString text = false)
    (path : Option String) :
    Workflow.read text path = (readHeader (FrontMatter.split text)).map (ofHeader text path) := by
  simp only [Workflow.read, h, bind, Except.bind, pure, Except.pure, Bool.false_eq_true, if_false,
    readHeader]
  cases hheader : (FrontMatter.split text).header with
  | none => simp only [Except.map, ofHeader, hheader]
  | some header =>
    cases Header.read header (FrontMatter.split text).headerLine <;>
      simp only [Except.map, ofHeader, hheader]

theorem read_eq_ok_iff {text : String} {path : Option String} {w : Workflow} :
    Workflow.read text path = .ok w ↔ Text.isBlankString text = false ∧
      ∃ header, readHeader (FrontMatter.split text) = .ok header ∧ w = ofHeader text path header := by
  cases hblank : Text.isBlankString text with
  | true => simp [read_of_blank hblank]
  | false =>
    rw [read_of_not_blank hblank]
    cases readHeader (FrontMatter.split text) with
    | error e => simp [Except.map]
    | ok header => simp [Except.map, eq_comm]

end Runbook.Workflow
