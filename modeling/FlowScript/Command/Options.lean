import FlowScript.Format
import FlowScript.Text.Digit

/-!
# Command line arguments

The command takes one input, and options that may stand anywhere before a `--`.
A long option may be shortened as long as no other one begins in the same way,
and may have its value after an equals sign; short options may be joined, and
joined to a value. What starts with a dash and is no option is one that is not
known, unless it is a negative number or has a space in it. A value that is
joined to its option and is itself `--` counts as an empty list of values, and
leaves the option without a setting.

All arguments are sorted into options and others before any of them takes
effect, so an ambiguous one is reported first.
-/

namespace FlowScript.Options

/-! ## Options -/

/-- An option. -/
inductive Switch where
  /-- Show how the command is used. -/
  | help
  /-- The folder to write to. -/
  | output
  /-- The format to write in. -/
  | format
  /-- Print instead of writing a file. -/
  | stdout
  /-- Say more. -/
  | verbose
  deriving DecidableEq

/-- The option takes a value. -/
def Switch.takesValue : Switch → Bool
  | output | format => true
  | help | stdout | verbose => false

/-- The option as it is called in messages. -/
def Switch.title : Switch → Text
  | help => "-h/--help".toList
  | output => "-o/--output".toList
  | format => "-f/--format".toList
  | stdout => "--stdout".toList
  | verbose => "-v/--verbose".toList

/-- All names of options. -/
def spellings : List (Text × Switch) :=
  [("-h".toList, .help), ("--help".toList, .help), ("-o".toList, .output),
    ("--output".toList, .output), ("-f".toList, .format), ("--format".toList, .format),
    ("--stdout".toList, .stdout), ("-v".toList, .verbose), ("--verbose".toList, .verbose)]

/-- The option of a name. -/
def switch? (name : Text) : Option Switch :=
  spellings.lookup name

/-! ## Complaints -/

/-- What is wrong with the arguments. -/
inductive UsageError where
  /-- An option is shortened so much that several are meant. -/
  | ambiguous (argument : Text) (candidates : List Text)
  /-- An option has no value. -/
  | missingValue (s : Switch)
  /-- An option has a value that it does not take. -/
  | uselessValue (s : Switch) (value : Text)
  /-- There is no format of the name. -/
  | unknownFormat (value : Text)
  /-- There is no input. -/
  | missingInput
  /-- Arguments are left over. -/
  | unrecognized (arguments : List Text)
  deriving DecidableEq

/-- A complaint about an option. -/
def aboutSwitch (s : Switch) (message : Text) : Text :=
  "argument ".toList ++ s.title ++ ": ".toList ++ message

/-- The complaint in words. -/
def UsageError.message : UsageError → Text
  | ambiguous argument candidates =>
    "ambiguous option: ".toList ++ argument ++ " could match ".toList
      ++ Text.join [',', ' '] candidates
  | missingValue s => aboutSwitch s "expected one argument".toList
  | uselessValue s value =>
    aboutSwitch s ("ignored explicit argument ".toList ++ Text.quoted value)
  | unknownFormat value =>
    aboutSwitch .format ("invalid choice: ".toList ++ Text.quoted value ++ " (choose from ".toList
      ++ Text.join [',', ' '] (Format.names.map fun f => Text.quoted f.1) ++ [')'])
  | missingInput => "the following arguments are required: input".toList
  | unrecognized arguments =>
    "unrecognized arguments: ".toList ++ Text.join [' '] arguments

/-! ## Sorting the arguments -/

/-- What an argument is. -/
inductive Word where
  /-- No option: the input or the value of an option. -/
  | plain
  /-- The mark after which there are no options. -/
  | endOfOptions
  /-- An option that is known, with what is written together with it. -/
  | option (s : Switch) (isShort : Bool) (attached : Option Text)
  /-- An option that is not known. -/
  | unknown
  deriving DecidableEq

/-- A way to read an argument as an option: the name that is meant, the option
    and its value. -/
structure Guess where
  /-- The full name of the option. -/
  name : Text
  /-- The option. -/
  switch : Switch
  /-- What is written together with it. -/
  attached : Option Text

/-- The name of a single-dash option has one letter. -/
def isShortName (name : Text) : Bool :=
  name.drop 1 |>.head? |>.any (· != '-')

/-- The argument as an option, by the guess. -/
def Guess.word (g : Guess) : Word :=
  .option g.switch (isShortName g.name) g.attached

/-- The ways to read an argument with two dashes: all long options that begin
    with what stands in front of an equals sign. -/
def longGuesses (argument : Text) : List Guess :=
  let (name, attached) : Text × Option Text :=
    match Text.cut? '=' argument with
    | some (name, value) => (name, some value)
    | none => (argument, none)
  (spellings.filter fun s => Text.startsWith name s.1).map fun s => ⟨s.1, s.2, attached⟩

/-- The ways to read an argument with one dash: the short option of its first
    letter, joined to the rest. -/
def shortGuesses (argument : Text) : List Guess :=
  (spellings.filter fun s => s.1 = argument.take 2).map fun s =>
    ⟨s.1, s.2, some (argument.drop 2)⟩

/-- The argument is a minus sign and a decimal number, or that and one last line
    feed. -/
def isNegativeNumber : Text → Bool
  | '-' :: rest =>
    let (whole, rest) := Text.spanDigits rest
    match rest with
    | '.' :: rest =>
      let (fraction, rest) := Text.spanDigits rest
      !fraction.isEmpty && (rest == [] || rest == ['\n'])
    | rest => !whole.isEmpty && (rest == [] || rest == ['\n'])
  | _ => false

/-- What an argument with a dash in front is, by its possible readings. -/
def wordOfGuesses (argument : Text) : List Guess → Except UsageError Word
  | [] => .ok (if isNegativeNumber argument || argument.contains ' ' then .plain else .unknown)
  | [g] => .ok g.word
  | guesses => .error (.ambiguous argument (guesses.map Guess.name))

/-- What an argument in front of a `--` is. -/
def wordOf (argument : Text) : Except UsageError Word :=
  match argument with
  | '-' :: second :: _ =>
    match switch? argument with
    | some s => .ok (.option s (isShortName argument) none)
    | none =>
      let named := (Text.cut? '=' argument).bind fun (name, value) =>
        (switch? name).map fun s => Guess.mk name s (some value)
      match named with
      | some g => .ok g.word
      | none =>
        wordOfGuesses argument
          (if second = '-' then longGuesses argument else shortGuesses argument)
  | _ => .ok .plain

/-- All arguments with what they are. -/
def sort : List Text → Except UsageError (List (Text × Word))
  | [] => .ok []
  | argument :: rest =>
    if argument = ['-', '-'] then
      .ok ((argument, .endOfOptions) :: rest.map fun a => (a, .plain))
    else do
      let w ← wordOf argument
      return (argument, w) :: (← sort rest)

/-! ## Taking effect -/

/-- What the command is to do. -/
structure Settings where
  /-- The path of the input, or a dash. -/
  input : Text
  /-- The path of the folder to write to, unless the option has no setting. -/
  output : Option Text
  /-- The format to write in, unless the option has no setting. -/
  format : Option Format
  /-- Print instead of writing a file. -/
  stdout : Bool
  /-- Say more. -/
  verbose : Bool

/-- What has been gathered from the arguments so far. -/
structure Gathered where
  /-- The path of the input. -/
  input : Option Text := none
  /-- The path of the folder to write to. -/
  output : Option Text := some ['.']
  /-- The format to write in. -/
  format : Option Format := some .auto
  /-- Print instead of writing a file. -/
  stdout : Bool := false
  /-- Say more. -/
  verbose : Bool := false
  /-- The arguments that are left over. -/
  extra : List Text := []

/-- Why gathering stops. -/
inductive Stop where
  /-- Help is asked for. -/
  | help
  /-- The arguments are wrong. -/
  | wrong (e : UsageError)

/-- An option that is to take effect, with its value if it has one. -/
structure Effect where
  /-- The option. -/
  switch : Switch
  /-- Its value. -/
  value : Option Text := none

/-- The option with a value. A `--` is no value. -/
def Effect.valued (s : Switch) (value : Text) : Effect :=
  ⟨s, if value = ['-', '-'] then none else some value⟩

/-- The options that are joined in an argument, and the last of them if its value
    is still to come: `s`, and in what is joined to it more short options while
    they take no value. -/
def joined (s : Switch) (isShort : Bool) :
    Text → Except UsageError (List Effect × Option Switch)
  | [] => if s.takesValue then .ok ([.valued s []], none) else .error (.uselessValue s [])
  | letter :: rest =>
    if s.takesValue then .ok ([.valued s (letter :: rest)], none)
    else if !isShort then .error (.uselessValue s (letter :: rest))
    else
      match switch? ['-', letter], rest with
      | none, _ => .error (.uselessValue s (letter :: rest))
      | some next, [] => .ok (if next.takesValue then ([⟨s, none⟩], some next)
          else ([⟨s, none⟩, ⟨next, none⟩], none))
      | some next, c :: more => do
        let (effects, last) ← joined next true (c :: more)
        return (⟨s, none⟩ :: effects, last)

/-- The options of one argument, and the last of them if its value is still to
    come. -/
def expand (s : Switch) (isShort : Bool) :
    Option Text → Except UsageError (List Effect × Option Switch)
  | none => .ok (if s.takesValue then ([], some s) else ([⟨s, none⟩], none))
  | some attached => joined s isShort attached

/-- What is gathered after an option takes effect. -/
def Gathered.take (g : Gathered) (e : Effect) : Except Stop Gathered :=
  match e.switch, e.value with
  | .help, _ => .error .help
  | .output, value => .ok { g with output := value }
  | .stdout, _ => .ok { g with stdout := true }
  | .verbose, _ => .ok { g with verbose := true }
  | .format, none => .ok { g with format := none }
  | .format, some name =>
    match Format.ofName name with
    | .ok format => .ok { g with format := some format }
    | .error _ => .error (.wrong (.unknownFormat name))

/-- What is gathered after options take effect, one after the other. -/
def Gathered.takeAll (g : Gathered) : List Effect → Except Stop Gathered
  | [] => .ok g
  | e :: rest => do (← g.take e).takeAll rest

/-- What is gathered from sorted arguments. The input is the first argument that
    is no option and no value; it may have a `--` on one side. -/
def gather (g : Gathered) : List (Text × Word) → Except Stop Gathered
  | [] => .ok g
  | (argument, .unknown) :: rest => gather { g with extra := g.extra ++ [argument] } rest
  | (_, .option s isShort attached) :: rest =>
    match expand s isShort attached, rest with
    | .error e, _ => .error (.wrong e)
    | .ok (effects, none), rest => do gather (← g.takeAll effects) rest
    | .ok (effects, some s), (value, .plain) :: rest => do
      gather (← g.takeAll (effects ++ [.valued s value])) rest
    | .ok (_, some s), _ => .error (.wrong (.missingValue s))
  | (argument, .plain) :: rest =>
    match g.input, rest with
    | some _, rest => gather { g with extra := g.extra ++ [argument] } rest
    | none, (_, .endOfOptions) :: rest => gather { g with input := some argument } rest
    | none, rest => gather { g with input := some argument } rest
  | (mark, .endOfOptions) :: rest =>
    match g.input, rest with
    | none, (argument, _) :: rest => gather { g with input := some argument } rest
    | _, rest => gather { g with extra := g.extra ++ [mark] } rest

/-- The settings that have been gathered. An input has to be there, and nothing
    may be left over. -/
def Gathered.settings (g : Gathered) : Except Stop Settings :=
  match g.input with
  | none => .error (.wrong .missingInput)
  | some input =>
    if g.extra.isEmpty then .ok ⟨input, g.output, g.format, g.stdout, g.verbose⟩
    else .error (.wrong (.unrecognized g.extra))

/-- The settings that the arguments ask for. -/
def parse (arguments : List Text) : Except Stop Settings := do
  let words ← (sort arguments).mapError .wrong
  (← gather {} words).settings

/-! ## Help -/

/-- The name of the command. -/
def program : Text := "flowtext".toList

/-- How the command is called. -/
def usage : Text :=
  "usage: flowtext [-h] [-o OUTPUT]
                [-f \x7bauto,dsl,chain,mermaid,graphviz,dot,json\x7d] [--stdout]
                [-v]
                input
".toList

/-- How the command is called and what its arguments mean. -/
def help : Text :=
  usage ++ "
Convert flow text between the DSL, chain shorthand and diagram formats.

positional arguments:
  input                 Flow text file, or '-' to read standard input

options:
  -h, --help            show this help message and exit
  -o OUTPUT, --output OUTPUT
                        Output directory (default: current directory)
  -f \x7bauto,dsl,chain,mermaid,graphviz,dot,json\x7d, --format \x7bauto,dsl,chain,mermaid,graphviz,dot,json\x7d
                        Output format (default: auto, the text form the
                        graph's ids call for)
  --stdout              Print the result instead of writing a file
  -v, --verbose         Verbose output

Example: flowtext ./examples/order.flow -f mermaid --stdout
".toList

/-- What is printed about arguments that are wrong. -/
def UsageError.report (e : UsageError) : Text :=
  usage ++ program ++ ": error: ".toList ++ e.message ++ ['\n']

end FlowScript.Options
