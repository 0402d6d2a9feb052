import ProseLinter.CommandLine.Run

/-!
# The command line

The program takes a snapshot of the files that a run may need, runs on the snapshot, and carries
out what the run wrote and printed.
-/

namespace ProseLinter.CommandLine

/-- How deep directories are read: deep enough for every place in which a rule, a plugin or a
manifest is looked for below a directory. -/
def snapshotDepth : Nat := 4

/-- The entry of a path and, up to a depth, of what is below it. -/
def snapshotBelow (path : String) : (depth : Nat) → IO (List (Location × Entry))
  | 0 => return []
  | depth + 1 => do
    let at_ := (← IO.currentDir) / path
    let loc := (Path.mk path).parts.filter (· != "")
    if ← at_.isDir then
      let names := (← at_.readDir).toList.map (·.fileName)
      let inner ← names.mapM fun name => snapshotBelow (path ++ "/" ++ name) depth
      return (loc, .directory) :: inner.flatten
    else if ← at_.pathExists then
      return [(loc, .file (← IO.FS.readBinFile at_))]
    else return []

/-- The tree of the given paths, with the directories above them. -/
def snapshot (here : Location) (paths : List Path) : IO FileTree := do
  let mut tree : FileTree := ⟨[], here⟩
  for path in paths do
    let full := (Path.ofLocation here).join path
    let found ← snapshotBelow (String.intercalate "/" (full.parts.filter (· != "."))) snapshotDepth
    for (loc, entry) in found do
      tree := (tree.putDirectories loc.dropLast).put loc entry
  return tree.putDirectories here

/-- The paths that arguments and a configuration name. -/
def pathsOf (a : Arguments) (o : ConfigOptions) : List Path :=
  a.files ++ a.outputFile.toList ++ (o.rules.getD []).map Path.mk ++ o.rulePaths.getD []
    ++ (o.plugins.getD []).map Path.mk ++ o.rulesBaseDirectory.toList
    ++ o.formatterName.toList.map Path.mk

/-- The paths at which a run begins to look: the file of the configuration and the user's own
directory. -/
def startPaths (here : Location) (home : Path) (a : Arguments) : List Path :=
  let above := (Path.ofLocation here).ancestors
  home :: a.config.toList
    ++ above.flatMap fun dir => Config.fileNames.map fun name => dir.join ⟨name⟩

/-- The snapshot that a run with the given arguments needs. -/
def snapshotFor (here : Location) (home : Path) (args : List String) : IO FileTree := do
  match Arguments.parse args with
  | .ok (.lint a) =>
    let start := startPaths here home a
    let tree ← snapshot here start
    match configure tree a with
    | .ok o => snapshot here (start ++ pathsOf a o)
    | .error _ => return tree
  | _ => return ⟨[], here⟩

/-- Writes what a run has put into the tree. -/
def writeChanges (before after : FileTree) : IO Unit := do
  for (loc, entry) in after.entries do
    let path := (Path.ofLocation loc).text
    match entry, before.entry? loc with
    | .directory, none => IO.FS.createDirAll path
    | .file content, some (.file old) =>
      if content != old then IO.FS.writeBinFile path content
    | .file content, none => IO.FS.writeBinFile path content
    | _, _ => pure ()

/-- Lints what the arguments name, on the files of the system. -/
def start (args : List String) : IO UInt32 := do
  let here := (Path.mk (← IO.currentDir).toString).parts.filter (· != "")
  let home := (Path.mk ((← IO.getEnv "HOME").getD "/")).join ⟨".kotolint"⟩
  let files ← snapshotFor here home args
  let stdin : Input ←
    if args.contains "--stdin" then
      try pure (.bytes (← (← IO.getStdin).readBinToEnd))
      catch e => pure (.failing (toString e))
    else pure (.bytes ByteArray.empty)
  let outcome := run files home args stdin
  try writeChanges files outcome.files
  catch e =>
    IO.eprintln (toString e)
    return 1
  let outcome ←
    try
      IO.print outcome.stdout
      pure outcome
    catch e => pure (run files home args stdin (.failing 0 (toString e)))
  match outcome.complaint with
  | some text => IO.eprintln text
  | none => pure ()
  return outcome.code.toUInt32

end ProseLinter.CommandLine

/-- Lints what the arguments name. -/
def main (args : List String) : IO UInt32 :=
  ProseLinter.CommandLine.start args
