import FlowScript.Command.Path
import FlowScript.Fault
import FlowScript.Text.Utf8

/-!
# Disks

Folders and files by where they are: a location is the list of names that leads
from the root to it. A path is followed name by name, and every name before the
last has to be that of a folder. Names of more than 255 bytes are refused, and
so are paths of 4096 or more.

These are all the troubles there are (`FileTrouble`). Everybody may read and
write everything, the disk never gets full, and nobody else changes it. Writing is
atomic: a file gets all its bytes, or the disk is as it was.
-/

namespace FlowScript

/-- The names that lead from the root to a file or a folder. -/
abbrev Location := List Text

/-- What stands at a location. -/
inductive DiskEntry where
  /-- A folder. -/
  | folder
  /-- A file and its bytes. -/
  | file (content : List UInt8)
  deriving DecidableEq

/-- Files and folders, and the folder in which paths start. -/
structure Disk where
  /-- What stands where; the root need not be listed. -/
  entries : List (Location × DiskEntry)
  /-- The folder in which paths start. -/
  here : Location

namespace Disk

/-- What stands at a location. -/
def entry? (d : Disk) (l : Location) : Option DiskEntry :=
  if l = [] then some .folder else (d.entries.find? fun e => e.1 = l).map Prod.snd

/-- The disk with something at a location, in the place of what was there. -/
def put (d : Disk) (l : Location) (e : DiskEntry) : Disk :=
  { d with entries := d.entries.filter (fun old => old.1 ≠ l) ++ [(l, e)] }

/-- The most bytes that a name may have. -/
def nameLimit : Nat := 255

/-- The number of bytes from which on a path is too long. -/
def pathLimit : Nat := 4096

/-- The number of bytes of a text. -/
def byteLength (s : Text) : Nat :=
  (Text.Utf8.encode s).length

/-- The location that names lead to from a location. -/
def walk (d : Disk) : Location → List Text → Except FileTrouble Location
  | l, [] => .ok l
  | l, part :: rest =>
    match d.entry? l with
    | none => .error .missing
    | some (.file _) => .error .notAFolder
    | some .folder =>
      if part = ['.', '.'] then d.walk l.dropLast rest
      else if nameLimit < byteLength part then .error .nameTooLong
      else d.walk (l ++ [part]) rest

/-- The location of a path. Something need not stand there. -/
def locate (d : Disk) (p : Path) : Except FileTrouble Location :=
  if pathLimit ≤ byteLength p.text then .error .nameTooLong
  else d.walk (if p.root.isEmpty then d.here else []) p.parts

/-- What stands at a path. -/
def look (d : Disk) (p : Path) : Except FileTrouble DiskEntry := do
  match d.entry? (← d.locate p) with
  | none => throw .missing
  | some e => return e

/-- There is a folder at the path. -/
def isFolder (d : Disk) (p : Path) : Bool :=
  match d.look p with
  | .ok .folder => true
  | _ => false

/-- The disk with a new folder at a path. -/
def makeFolder (d : Disk) (p : Path) : Except FileTrouble Disk := do
  let l ← d.locate p
  match d.entry? l with
  | some _ => throw .taken
  | none => return d.put l .folder

/-- The disk with a folder at a path, which may be there already; a trouble
    comes with the path. -/
def provideFolder (d : Disk) (p : Path) : Disk × Option Fault :=
  match d.makeFolder p with
  | .ok d => (d, none)
  | .error trouble => if d.isFolder p then (d, none) else (d, some (.file trouble p.text))

/-- The disk with a folder at the path of a root and names, which are given last
    name first, and with the folders that it is in. -/
def provideFoldersTo (d : Disk) (root : Text) : List Text → Disk × Option Fault
  | [] => d.provideFolder ⟨root, []⟩
  | name :: outer =>
    let p : Path := ⟨root, (name :: outer).reverse⟩
    match d.makeFolder p with
    | .error .missing =>
      match d.provideFoldersTo root outer with
      | (d, none) => d.provideFolder p
      | (d, some fault) => (d, some fault)
    | _ => d.provideFolder p

/-- The disk with a folder at a path, and with the folders that it is in. A
    fault may come after some of them have been made. -/
def provideFolders (d : Disk) (p : Path) : Disk × Option Fault :=
  if p.hasNull then (d, some .nullInPath) else d.provideFoldersTo p.root p.parts.reverse

/-- The disk with a file of the given bytes at a path, in the place of a file
    that is there. It is written whole or not at all. -/
def write (d : Disk) (p : Path) (content : List UInt8) : Except FileTrouble Disk := do
  let l ← d.locate p
  match d.entry? l with
  | some .folder => throw .isAFolder
  | _ => return d.put l (.file content)

end Disk

end FlowScript
