import FlowScript.Command.Run

/-!
# The program

The outer layer of the command. It takes a picture of the part of the disk that
the arguments name, lets `Command.run` decide, and carries out what has changed
in the picture.
-/

namespace FlowScript.Main

/-- The path of a location. -/
def locationPath (l : Location) : String :=
  String.ofList ('/' :: Text.join ['/'] l)

/-- The names in a folder of the real disk; none if it is no folder. -/
def namesIn? (l : Location) : IO (Option (List Text)) := do
  let path := (← IO.currentDir) / locationPath l
  if ← path.isDir then
    return some ((← path.readDir).toList.map fun e => e.fileName.toList)
  else
    return none

/-- What stands at a location of the real disk. -/
def probe (l : Location) : IO (Option DiskEntry) := do
  if (← namesIn? l).isSome then
    return some .folder
  try
    return some (.file (← IO.FS.readBinFile (locationPath l)).toList)
  catch _ =>
    return none

/-- The locations that a path leads through from `start`. -/
def wayFrom (start : Location) : List Text → List Location
  | [] => [start]
  | part :: rest =>
    start :: wayFrom (if part = ['.', '.'] then start.dropLast else start ++ [part]) rest

/-- The locations that a path leads through, and those in the folder that it
    leads to. -/
def surroundings (here : Location) (p : Path) : IO (List Location) := do
  let way := wayFrom (if p.root.isEmpty then here else []) p.parts
  let last := way.getLast?.getD []
  let inside := ((← namesIn? last).getD []).map fun name => last ++ [name]
  return way ++ inside

/-- The picture of the disk at the locations that the settings lead to. -/
def picture (here : Location) (s : Options.Settings) : IO Disk := do
  let input := wayFrom (if (Path.ofText s.input).root.isEmpty then here else [])
    (Path.ofText s.input).parts
  let output ←
    match s.stdout, s.output with
    | false, some output => surroundings here (Path.ofText output)
    | _, _ => pure []
  let mut disk : Disk := ⟨[(here, .folder)], here⟩
  for l in input ++ output do
    if let some e ← probe l then
      disk := disk.put l e
  return disk

/-- Makes the folders and writes the files that are new or other than before. -/
def carryOut (before after : Disk) : IO Unit := do
  for (l, e) in after.entries do
    if before.entry? l ≠ some e then
      match e with
      | .folder => IO.FS.createDirAll (locationPath l)
      | .file bytes => IO.FS.writeBinFile (locationPath l) ⟨bytes.toArray⟩

/-- The names in the path of the folder in which paths start. -/
def currentLocation : IO Location := do
  return (Path.ofText (← IO.currentDir).toString.toList).parts

end FlowScript.Main

open FlowScript in
/-- Runs the command with the given arguments. -/
def main (arguments : List String) : IO UInt32 := do
  let arguments := arguments.map String.toList
  let here ← Main.currentLocation
  let (disk, stdin) ←
    match Options.parse arguments with
    | .ok s => do
      let stdin ←
        if s.input = ['-'] then (← IO.getStdin).readBinToEnd else pure ByteArray.empty
      pure (← Main.picture here s, stdin.toList)
    | .error _ => pure (⟨[], here⟩, [])
  let threshold := (← IO.getEnv "FLOWTEXT_LOG_LEVEL").map String.toList
  let report := Command.run { arguments, stdin, disk, threshold }
  Main.carryOut disk report.disk
  for line in report.log do
    IO.eprintln (String.ofList line)
  IO.eprint (String.ofList report.stderr)
  IO.print (String.ofList report.stdout)
  match report.outcome with
  | .ok code => return UInt32.ofNat code
  | .error fault =>
    IO.eprintln (String.ofList fault.message)
    return 1
