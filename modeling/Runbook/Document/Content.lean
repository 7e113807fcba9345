import Runbook.Document.Outline
import Runbook.Document.Reference
import Runbook.Registry

/-!
The body of a document with what is found in it. All line numbers are those of the document.
-/

namespace Runbook

structure Content where
  body : String
  bodyLine : Nat
  headings : List Heading
  codeBlocks : Nat
  parameterReferences : Names
  subWorkflowReferences : List SubWorkflowReference
  toolReferences : Names

namespace Content

def ofBody (body : String) (line : Nat) : Content :=
  let line := max line 1
  let s := body.toList
  let scan := Document.scan s line
  { body
    bodyLine := line
    headings := scan.headings.reverse
    codeBlocks := scan.codeBlocks
    parameterReferences := Document.parameterReferences s
    subWorkflowReferences := scan.references.reverse
    toolReferences := .ofList (Registry.toolMentions body) }

def hasText (c : Content) : Bool := !Text.isBlankString c.body

/-- The line of the first reference to a parameter. -/
def parameterLine? (c : Content) (name : String) : Option Nat :=
  ((Text.lines c.body.toList).findIdx? fun line =>
    (Document.parameterReferences line).contains name).map (c.bodyLine + ·)

end Content

end Runbook
