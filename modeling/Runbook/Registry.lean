import Runbook.Text.Blank
import Runbook.Text.Ranges

/-!
The tools that come with the program and the header keys that it reserves. Tool names are
compared without regard to letter case, to `_` or `-` between words, and to white space around
them; a text mentions a tool where its name stands as a word of its own.
-/

namespace Runbook.Registry

def builtinTools : List String := ["project-analysis", "build-test", "file-system"]

def mcpKey : String := "markflow.mcp"

def subWorkflowsKey : String := "markflow.sub-workflows"

def resumeKey : String := "markflow.resume"

def errorHandlingKey : String := "markflow.error-handling"

def knownExtensions : List String := [mcpKey, subWorkflowsKey, resumeKey, errorHandlingKey]

def isExtensionKey (key : String) : Bool := "markflow.".toList.isPrefixOf key.toList

def isKnownExtension (key : String) : Bool := knownExtensions.contains key

def hyphenated (c : Char) : Char := if c = '_' then '-' else c

def normalForm (name : String) : String :=
  .ofList ((Text.lowerAscii (Text.trim name.toList)).map hyphenated)

def isBuiltin (name : String) : Bool := builtinTools.contains (normalForm name)

/-- Whether a character of a text stands for one of a tool's name. A long s folds to `s`, and a
Kelvin sign to `k`. -/
def spells (name c : Char) : Bool :=
  if name = '-' then c == '-' || c == '_'
  else c.toLower == name || (name == 's' && c == '\u017f') || (name == 'k' && c == '\u212a')

def spelled? : List Char → List Char → Option (List Char)
  | [], s => some s
  | _ :: _, [] => none
  | n :: name, c :: s => if spells n c then spelled? name s else none

def startsWord (s : List Char) : Bool :=
  match s with
  | c :: _ => Text.isWord c
  | [] => false

/-- Whether `name` stands as a word of its own in a text; `afterWord` tells of the character in
front of the text. -/
def mentions (name : List Char) (afterWord : Bool) : List Char → Bool
  | [] => false
  | c :: s =>
      let here := !afterWord && match spelled? name (c :: s) with
        | some rest => !startsWord rest
        | none => false
      here || mentions name (Text.isWord c) s

def toolMentions (text : String) : List String :=
  builtinTools.filter fun tool => mentions tool.toList false text.toList

end Runbook.Registry
