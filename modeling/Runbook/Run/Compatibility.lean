import Runbook.Digest
import Runbook.Run.Snapshot

/-!
Whether a run may go on with a document: only with the text that its snapshot was made from,
unless the snapshot does not say which that was.
-/

namespace Runbook

inductive Compatibility
  /-- There is no snapshot. -/
  | firstRun
  | noStoredHash
  | agrees
  | differs (stored current : String)
deriving DecidableEq

namespace Compatibility

def isCompatible : Compatibility → Bool
  | differs _ _ => false
  | _ => true

def check (snapshot : Option Snapshot) (text : String) : Compatibility :=
  match snapshot with
  | none => firstRun
  | some s =>
      match s.contentHash with
      | none => noStoredHash
      | some stored =>
          let current := contentHash text
          if stored = current then agrees else differs stored current

end Compatibility

end Runbook
