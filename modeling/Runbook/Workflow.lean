import Runbook.Digest
import Runbook.Document.Content
import Runbook.Document.FrontMatter
import Runbook.Header
import Runbook.Path
import Runbook.Workspace

/-!
Workflow documents: the header with its typed parts, the body with what is found in it, and a
digest of the whole text; and the documents in the files of a workspace.
-/

namespace Runbook

structure Workflow where
  header : Header
  headerText : Option String
  sourcePath : Option String
  content : Content
  contentHash : String

namespace Workflow

def hasHeader (w : Workflow) : Bool := w.headerText.isSome

def read (text : String) (sourcePath : Option String) : Except Error Workflow := do
  if Text.isBlankString text then throw .emptyDocument
  let front := FrontMatter.split text
  let header ← match front.header with
    | some header => Header.read header front.headerLine
    | none => pure .empty
  return {
    header, sourcePath
    headerText := front.header
    content := .ofBody front.body front.bodyLine
    contentHash := Runbook.contentHash text }

/-- The declared name, else the name of the file without its suffix. -/
def displayName (w : Workflow) : String :=
  match w.header.name.filter fun name => !Text.isBlankString name with
  | some name => name
  | none =>
      match w.sourcePath.bind Path.fileName? with
      | some name => Path.withoutSuffix name
      | none => "<unnamed>"

def checkFileType (path : String) : Except Error Unit :=
  if Path.isWorkflow path then .ok () else .error (.unsupportedFile path)

end Workflow

namespace Workspace

/-- The text of a document, whatever its name. -/
def text (w : Workspace) (path : String) : Except Error String :=
  match w.readText path with
  | .ok text => .ok text
  | .error .missing => .error (.workflowNotFound path)
  | .error .unusable => .error (.io "the file cannot be read as text")

def document (w : Workspace) (path : String) : Except Error (String × Workflow) := do
  Workflow.checkFileType path
  let text ← w.text path
  return (text, ← Workflow.read text (some path))

def workflow (w : Workspace) (path : String) : Except Error Workflow := do
  return (← w.document path).2

end Workspace

end Runbook
