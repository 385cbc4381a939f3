import StaleBuild.Command.Perform
import StaleBuild.Command.Picture
import StaleBuild.Installation.Launch

/-!
The program. It works on a picture of the files that it reads from its input, with the contents of
the files as they are on disk, and changes nothing there: what it prints is what a run on those files
would print.
-/

open StaleBuild StaleBuild.Command

/-- The variables of the environment that matter. -/
def knownVariables : List String :=
  ["HOME", destinationVariable, compilerVariable, jsonVariable]

/-- The environment of this process. -/
def processEnvironment : IO Environment := do
  let mut bindings : List (String × Bytes) := []
  for name in knownVariables do
    if let some value ← IO.getEnv name then
      bindings := bindings ++ [(name, Utf8.encode value)]
  return ⟨bindings, .ofString "/root"⟩

/-- The lines of a stream that belong to a picture. -/
partial def pictureLines (input : IO.FS.Stream) : IO (List PictureLine) := do
  let line ← input.getLine
  if line.isEmpty then return []
  let rest ← pictureLines input
  let text := String.ofList (line.toList.filter (· ≠ '\n'))
  return (PictureLine.read? text).toList ++ rest

/-- An entry with its contents. -/
def withContents : PictureLine → IO PlannedEntry
  | .other e => return e
  | .file path modified => do
    let contents ← IO.FS.readBinFile path.text
    return .file path contents.toList modified

/-- Do what the arguments ask for. -/
def main (args : List String) : IO UInt32 := do
  let env ← processEnvironment
  let lines ← pictureLines (← IO.getStdin)
  let entries ← lines.mapM withContents
  let current := Path.ofString (toString (← IO.currentDir))
  let (response, _) := perform (Installation.launcher env) env args (worldOf current (behind lines) entries)
  IO.print response.output
  IO.eprint response.errors
  return response.status.toUInt32
