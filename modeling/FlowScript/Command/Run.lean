import FlowScript.Command.Disk
import FlowScript.Command.Options
import FlowScript.Document.Trace

/-!
# The command

One run of the command as a function: from the arguments, the standard input,
the disk and the threshold of the log that the surroundings name, to the exit
code, what is printed, the disk afterwards and the log.

The input is read as UTF-8, and any of the usual line ends becomes a line feed.
That goes for the standard input as for files, whatever the locale: bytes that
are not UTF-8 are a trouble, and never come through as something else. Arguments
are texts of whole characters.

A trouble with the input or with the file that is written is reported and ends
the run with code 1; one with the folder that the file goes into is a fault, and
so is a folder or a format that has no setting.
-/

namespace FlowScript.Command

/-- What a run starts from. -/
structure Request where
  /-- The arguments, without the name of the command. -/
  arguments : List Text
  /-- The bytes of the standard input. -/
  stdin : List UInt8
  /-- The disk. -/
  disk : Disk
  /-- The threshold of the log that the surroundings name. -/
  threshold : Option Text

/-- What a run comes to. -/
structure Report where
  /-- The exit code, or the fault that the run ends with. -/
  outcome : Except Fault Nat
  /-- What is printed. -/
  stdout : Text := []
  /-- What is printed as errors and warnings. -/
  stderr : Text := []
  /-- The disk afterwards. -/
  disk : Disk
  /-- The lines of the log. -/
  log : List Text := []

/-! ## Input -/

/-- The text with each line end, `\r\n` or `\r`, as a line feed. -/
def unifyLineEnds : Text → Text
  | [] => []
  | '\r' :: '\n' :: rest => '\n' :: unifyLineEnds rest
  | c :: rest => (if c = '\r' then '\n' else c) :: unifyLineEnds rest

/-- A named text. -/
structure Input where
  /-- The name for the document. -/
  name : Text
  /-- The text. -/
  text : Text

/-- Why there is no input. -/
inductive InputError where
  /-- Nothing is at the path. -/
  | missing (path : Path)
  /-- There is a folder at the path. -/
  | notAFile (path : Path)
  /-- The path cannot be followed. -/
  | trouble (what : FileTrouble) (path : Path)
  /-- The bytes are no text. -/
  | notText (argument : Text) (flaw : Text.Utf8.Flaw) (start : Nat)

/-- The error in words. -/
def InputError.message : InputError → Text
  | missing path => "File not found: ".toList ++ path.text
  | notAFile path => "Not a file: ".toList ++ path.text
  | trouble what path => (Fault.file what path.text).message
  | notText argument flaw start =>
    argument ++ " is not valid UTF-8 text (".toList ++ flaw.message ++ " at byte ".toList
      ++ Text.ofNat start ++ [')']

/-- The text of bytes that came from the argument. -/
def decode (argument name : Text) (bytes : List UInt8) : Except InputError Input :=
  match Text.Utf8.decode bytes with
  | .ok s => .ok ⟨name, unifyLineEnds s⟩
  | .error (flaw, start) => .error (.notText argument flaw start)

/-- The input that the argument names: a dash is the standard input. -/
def readInput (r : Request) (argument : Text) : Except InputError Input :=
  if argument = ['-'] then decode argument "stdin".toList r.stdin
  else
    let path := Path.ofText argument
    if path.hasNull then .error (.missing path)
    else
      match r.disk.look path with
      | .ok (.file bytes) => decode argument path.stem bytes
      | .ok .folder => .error (.notAFile path)
      | .error .nameTooLong => .error (.trouble .nameTooLong path)
      | .error _ => .error (.missing path)

/-! ## Output -/

/-- The line of a warning. -/
def warningLine (message : Text) : Text :=
  "Warning: ".toList ++ message ++ ['\n']

/-- The warnings on a text and its reading. -/
def warnings (s : Text) : Reading → Text
  | .recognized _ _ notes => notes.flatMap fun n => warningLine n.message
  | .notApplicable reason =>
    if Text.isBlankText s then []
    else warningLine ("input not recognized (".toList ++ reason.message ++ [')'])

/-- Why a document is not written. -/
inductive ExportError where
  /-- The document has no form in the format. -/
  | fault (f : Fault)
  /-- The file cannot be written. -/
  | trouble (what : FileTrouble) (path : Path)

/-- The disk with the document in a file in a folder, and the path of the
    file. -/
def exportDocument (d : Document) (f : Format) (folder : Path) (disk : Disk) :
    Except ExportError (Disk × Path) := do
  let content ← (f.fileText d).mapError .fault
  let name ← (f.fileName d).mapError .fault
  let path := folder.child name
  let disk ← (disk.write path (Text.Utf8.encode content)).mapError fun what => .trouble what path
  return (disk, path)

/-- The events of writing a document in a format. -/
def writingEvents (d : Document) : Format → List Event
  | .auto => Trace.written d.chart
  | _ => []

/-- The format that is set. Without a setting there is an empty list in its
    place, which is the name of no format. -/
def chosenFormat (s : Options.Settings) : Except Fault Format :=
  match s.format with
  | some f => .ok f
  | none => Format.ofName ['[', ']']

/-- The disk with the folder that is set, and its path. -/
def provideOutput (s : Options.Settings) (disk : Disk) : Disk × Except Fault Path :=
  match s.output with
  | none => (disk, .error .noFolder)
  | some output =>
    let folder := Path.ofText output
    match disk.provideFolders folder with
    | (disk, none) => (disk, .ok folder)
    | (disk, some fault) => (disk, .error fault)

/-! ## Running -/

/-- The event of a document that is built from an input. -/
def builtEvent (name : Text) (c : Chart) : Event :=
  ⟨.info, "flowtext.cli".toList, "Built ".toList ++ name ++ " with ".toList
    ++ Text.ofNat c.nodes.length ++ " nodes and ".toList ++ Text.ofNat c.edges.length
    ++ " edges".toList⟩

/-- The report of the last stage, which prints the document or writes it. -/
def deliver (s : Options.Settings) (disk : Disk) (d : Document) (name warned : Text) : Report :=
  if s.stdout then
    match chosenFormat s >>= fun f => f.render d with
    | .error fault => { outcome := .error fault, stderr := warned, disk }
    | .ok content => { outcome := .ok 0, stdout := content ++ ['\n'], stderr := warned, disk }
  else
    match provideOutput s disk with
    | (disk, .error fault) => { outcome := .error fault, stderr := warned, disk }
    | (disk, .ok folder) =>
      let written : Except ExportError (Disk × Path) := do
        let f ← (chosenFormat s).mapError .fault
        exportDocument d f folder disk
      match written with
      | .error (.fault fault) => { outcome := .error fault, stderr := warned, disk }
      | .error (.trouble what path) =>
        { outcome := .ok 1, disk
          stderr := warned ++ "Error exporting ".toList ++ name ++ ": ".toList
            ++ (Fault.file what path.text).message ++ ['\n'] }
      | .ok (disk, path) =>
        let line :=
          if s.verbose then "Exported '".toList ++ name ++ "' -> ".toList ++ path.text
          else path.text
        { outcome := .ok 0, stdout := line ++ ['\n'], stderr := warned, disk }

/-- The events of the last stage: those of writing the document in the format
    that is set, if it gets as far. -/
def deliveryEvents (s : Options.Settings) (disk : Disk) (d : Document) : List Event :=
  match s.stdout, provideOutput s disk, s.format with
  | false, (_, .error _), _ | _, _, none => []
  | _, _, some f => writingEvents d f

/-- The report of a run with the given settings. -/
def convert (s : Options.Settings) (r : Request) : Report :=
  let threshold := Log.choose (if s.verbose then some "DEBUG".toList else none) r.threshold
  let started := Log.started threshold
  match readInput r s.input with
  | .error e =>
    { outcome := .ok 1, stderr := "Error: ".toList ++ e.message ++ ['\n'], disk := r.disk
      log := Log.kept threshold [started] }
  | .ok input =>
    let blank := Document.new (some input.name) {}
    let building := started :: Trace.build blank input.text
    match blank.build input.text with
    | (_, some fault) =>
      { outcome := .error fault, disk := r.disk, log := Log.kept threshold building }
    | (d, none) =>
      let warned := warnings input.text (d.reading.getD (.notApplicable .emptyInput))
      let delivery := deliveryEvents s r.disk d
      { deliver s r.disk d input.name warned with
        log := Log.kept threshold (building ++ builtEvent input.name d.chart :: delivery) }

/-- The report of a run. -/
def run (r : Request) : Report :=
  match Options.parse r.arguments with
  | .ok s => convert s r
  | .error .help => { outcome := .ok 0, stdout := Options.help, disk := r.disk }
  | .error (.wrong e) => { outcome := .ok 2, stderr := e.report, disk := r.disk }

end FlowScript.Command
