import Runbook.Command
import Std.Time.DateTime.Timestamp

/-!
The command line. The files that a command may look at are brought into a workspace; the command
works on that; its lines are printed, and the files that it has removed from the workspace are
removed from the disk.
-/

namespace Runbook.CommandLine

/-- Brings a file into the workspace. What is there but cannot be read has no text. -/
def loadFile (w : Workspace) (path : String) (modified : Instant) : IO Workspace := do
  try
    let bytes ← IO.FS.readBinFile path
    return (w.putFile path (String.fromUTF8? bytes) modified).getD w
  catch
    | .noFileOrDirectory .. => return w
    | _ => return (w.putFile path none modified).getD w

def loadFolder (w : Workspace) (path : String) : IO Workspace := do
  let top : IO.FS.DirEntry := ⟨path, ""⟩
  try
    let entries ← top.root.readDir
    let mut w := ((w.makeFolder path).map (·.1)).getD w
    for entry in entries do
      let inner := Path.join path entry.fileName
      let info ← entry.path.metadata
      match info.type with
      | .dir => w := ((w.makeFolder inner).map (·.1)).getD w
      | _ => w ← loadFile w inner ⟨info.modified.sec, info.modified.nsec.toNat⟩
    return w
  catch
    | .noFileOrDirectory .. => return w
    | _ => return (w.putFile path none ⟨0, 0⟩).getD w

def load (w : Workspace) (args : List String) (configPath : String) (env : Environment) :
    IO Workspace := do
  let w ← loadFile w configPath ⟨0, 0⟩
  match Command.ofArguments args, Command.settings w configPath env with
  | .ok command, .ok c =>
      let w ← match command.file? with
        | some file => loadFile w file ⟨0, 0⟩
        | none => pure w
      if command.usesStore && c.backend = .file then loadFolder w c.stateDir else return w
  | _, _ => return w

def names (w : Workspace) (path : String) : List String :=
  match w.site path with
  | .folder entries => entries.keys
  | _ => []

def removeGone (before after : Workspace) (path : String) : IO Unit := do
  let left := names after path
  for name in names before path do
    if !left.contains name then IO.FS.removeFile (Path.join path name)

def configPath : IO String := do
  let home := (← IO.getEnv "HOME").getD ""
  let base := match (← IO.getEnv "XDG_CONFIG_HOME").filter Path.isAbsolute with
    | some dir => dir
    | none => if home.isEmpty then "." else Path.join home ".config"
  return Path.join (Path.join base "markflow") "config.toml"

def now : IO Instant := do
  let t := (← Std.Time.Timestamp.now).toNanosecondsSinceUnixEpoch.val
  return ⟨t / 1000000000, (t % 1000000000).toNat⟩

def report (e : Error) : IO Unit := do
  IO.eprintln ("Error: " ++ e.message)
  match e.fix? with
  | some fix => IO.eprintln ("  Fix: " ++ fix)
  | none => return

def run (args : List String) : IO UInt32 := do
  let home := Path.parts (← IO.currentDir).toString
  let empty : Workspace := ⟨((Folder.put (.folder []) [] home)).getD [], home⟩
  let configPath ← configPath
  let env : Environment :=
    ⟨← IO.getEnv "MARKFLOW_STATE_DIR", ← IO.getEnv "MARKFLOW_RESUME_BACKEND"⟩
  let before ← load empty args configPath env
  let (transcript, after) := Command.carryOut args configPath env before (← now)
  match Command.settings before configPath env with
  | .ok c => removeGone before after c.stateDir
  | .error _ => pure ()
  IO.print transcript.output
  match transcript.ending with
  | .success => pure ()
  | .failure e => report e
  | .crash => IO.eprintln "a value in the header has no JSON form"
  | .misuse => IO.eprintln ("\n".intercalate Command.helpLines)
  return transcript.ending.status.toUInt32

end Runbook.CommandLine

def main (args : List String) : IO UInt32 := Runbook.CommandLine.run args
