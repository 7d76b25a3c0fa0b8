import WebBaseline.Command

/-!
# The executable

Takes a picture of the working folder and the folders above it, runs the program on it and prints
what it says, on a terminal as wide as the environment tells.
-/

open WebBaseline

/-- One entry of a folder.  A link to a file is taken as the file; others lead to themselves. -/
partial def entryTree (path : String) : IO FileTree := do
  let here := System.mkFilePath [path]
  let kind := (← here.symlinkMetadata).type
  match kind with
  | .dir =>
      let entries ← here.readDir
      let trees ← entries.toList.mapM fun e ↦ do
        return (e.fileName, ← entryTree (path ++ "/" ++ e.fileName))
      return .folder trees
  | .file => return .file (← IO.FS.readBinFile here).toList
  | _ =>
      if (← here.pathExists) && !(← here.isDir) then
        return .file (← IO.FS.readBinFile here).toList
      else return .link (here.fileName.getD ".")

/-- The width that the environment gives, eighty without one. -/
def terminalWidth : IO Nat := do
  return ((← IO.getEnv "COLUMNS").bind String.toNat?).getD 80

def main (args : List String) : IO UInt32 := do
  let here := (Path.ofText (← IO.currentDir).toString).parts
  let folder ← entryTree "."
  let top := here.foldr (fun name below ↦ FileTree.folder [(name, below)]) folder
  let run := Command.run (.ofFiles { top, here } (← terminalWidth)) args
  for note in run.notes do
    IO.eprintln (note.level.label ++ " " ++ note.origin.name ++ ": " ++ note.message)
  IO.print run.ending.output
  IO.eprint run.ending.complaint
  return run.ending.exitCode.toUInt32
