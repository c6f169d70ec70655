import GantryCode.MachineFile
import GantryCode.Path
import GantryCode.Platform
import GantryCode.Text.Utf8

namespace GantryCode

/-! What a run needs of the machine that it runs on.

Opening a file for reading and reading it are two steps, since another file may be
created in between that is the same. A file that was created is written into bit by
bit, and closed. Whatever is written may be refused, there and then or when the file
is closed.
-/

/-- Why a stream that is open takes or gives no more. -/
structure StreamFault where
  message : String
deriving DecidableEq, Repr

/-- A file that is in use, or none for a standard stream. -/
abbrev Stream := Option String

/-- Files are opened and created by their paths, and used by the same. -/
structure Host (m : Type → Type) where
  platform : Platform
  /-- What a machine file holds. -/
  load : Loader
  readFile : String → m (Except FileFault (List UInt8))
  openFile : String → m (Except FileFault Unit)
  createFile : String → m (Except FileFault Unit)
  openLog : String → m (Except FileFault Unit)
  appendLog : String → String → m Unit
  /-- The bytes of the lines that could be read, and why no more could be. -/
  readStream : Stream → m (List UInt8 × Option StreamFault)
  writeStream : Stream → String → m (Except StreamFault Unit)
  closeFile : String → m (Except StreamFault Unit)
  printError : String → m Unit
  /-- The home directory of a user, named as in the part of a path that stands for
  it. -/
  home? : String → m (Option String)
  stamp : m String
  elapsed : m String

/-- The files of one directory, and what was printed, instead of a machine. Every file
is given by its path from there; the directories in between are those of the
files. What is written into a file waits until there is a block of it. -/
structure Desk where
  files : List (String × List UInt8) := []
  input : List UInt8 := []
  out : String := ""
  errors : String := ""
  stamp : String
  /-- Directories outside. What is written there is lost. -/
  outside : List String := []
  homes : List (String × String) := []
  /-- How many bytes have reached the file that was created last, and what waits. -/
  delivered : Nat := 0
  waiting : String := ""

inductive Place where
  | directory
  | file (name : String)
  /-- Where a file can be created: under a name, or outside. -/
  | vacant (name : Option String)
  /-- The file that is always empty, and the one that is always full. -/
  | sink
  | full
  | nowhere (reason : FileReason)
deriving DecidableEq, Repr

namespace Desk

def parents (path : List (List Char)) : List (List (List Char)) :=
  (List.range path.length).map (path.take ·)

def joined (parts : List (List Char)) : String :=
  String.ofList (['/'].intercalate parts)

def isFile (desk : Desk) (name : String) : Bool :=
  (desk.files.lookup name).isSome

def isDirectory (desk : Desk) (parts : List (List Char)) : Bool :=
  desk.files.any fun (other, _) => (parents (Path.parts other.toList)).contains parts

def isTooLong (part : List Char) : Bool :=
  Path.partLimit ≤ (String.ofList part).utf8ByteSize

/-- What the parts lead to from a directory, which is none of the desk's if it is not
given. -/
def walk (desk : Desk) : Option (List (List Char)) → List (List Char) → Place
  | _, [] => .directory
  | here, part :: rest =>
      if isTooLong part then .nowhere .nameTooLong
      else if part = ['.', '.'] then
        walk desk (here.bind fun path => if path.isEmpty then none else some path.dropLast) rest
      else
        match here with
        | none => if rest.isEmpty then .vacant none else .nowhere .missing
        | some path =>
            let path := path ++ [part]
            if desk.isFile (joined path) then
              if rest.isEmpty then .file (joined path) else .nowhere .notADirectory
            else if desk.isDirectory path then walk desk (some path) rest
            else if rest.isEmpty then .vacant (some (joined path))
            else .nowhere .missing

/-- The devices among the files outside. -/
def device? : String → Option Place
  | "/dev/null" => some .sink
  | "/dev/full" => some .full
  | _ => none

def walkOutside (desk : Desk) : String → List (List Char) → Place
  | _, [] => .directory
  | here, part :: rest =>
      let name := here ++ "/" ++ String.ofList part
      if isTooLong part then .nowhere .nameTooLong
      else
        match device? name with
        | some device => if rest.isEmpty then device else .nowhere .notADirectory
        | none =>
            if desk.outside.contains name then walkOutside desk name rest
            else if rest.isEmpty then .vacant none
            else .nowhere .missing

def place (desk : Desk) (path : String) : Place :=
  if Path.lengthLimit ≤ path.utf8ByteSize then .nowhere .nameTooLong
  else if (Path.root path.toList).isEmpty then walk desk (some []) (Path.parts path.toList)
  else walkOutside desk "" (Path.parts path.toList)

def fault {α : Type} (path : String) (reason : FileReason) : Except FileFault α :=
  .error { reason, path }

def content (desk : Desk) (path : String) : Except FileFault (List UInt8) :=
  match desk.place path with
  | .file name => .ok ((desk.files.lookup name).getD [])
  | .sink | .full => .ok []
  | .directory => fault path .isADirectory
  | .vacant _ => fault path .missing
  | .nowhere reason => fault path reason

def writable (desk : Desk) (path : String) : Except FileFault (Option String) :=
  match desk.place path with
  | .file name => .ok (some name)
  | .vacant name => .ok name
  | .sink | .full => .ok none
  | .directory => fault path .isADirectory
  | .nowhere reason => fault path reason

def setFile (desk : Desk) (name : String) (bytes : List UInt8) : Desk :=
  { desk with files := setField name bytes desk.files }

def bytesOf (text : String) : List UInt8 :=
  text.toUTF8.data.toList

/-- Opens a file for writing, and changes what it holds if it is one of the desk. -/
def opening (change : List UInt8 → List UInt8) (path : String) (desk : Desk) :
    Except FileFault Unit × Desk :=
  match desk.writable path with
  | .ok (some name) =>
      (.ok (), desk.setFile name (change ((desk.files.lookup name).getD [])))
  | .ok none => (.ok (), desk)
  | .error fault => (.error fault, desk)

def create (path : String) (desk : Desk) : Except FileFault Unit × Desk :=
  match opening (fun _ => []) path desk with
  | (.ok (), desk) => (.ok (), { desk with delivered := 0, waiting := "" })
  | refused => refused

def openLog (path : String) (desk : Desk) : Except FileFault Unit × Desk :=
  opening id path desk

def append (path text : String) (desk : Desk) : Desk :=
  (opening (· ++ bytesOf text) path desk).2

/-- The bytes with others in their place from some position on. -/
def overwritten (position : Nat) (bytes held : List UInt8) : List UInt8 :=
  held.take position ++ bytes ++ held.drop (position + bytes.length)

def noSpace : StreamFault where
  message := "[Errno 28] No space left on device"

/-- What waits reaches the file. -/
def flush (path : String) (desk : Desk) : Except StreamFault Unit × Desk :=
  if desk.waiting = "" then (.ok (), desk)
  else if desk.place path = .full then (.error noSpace, desk)
  else
    let bytes := bytesOf desk.waiting
    let filled := (opening (overwritten desk.delivered bytes) path desk).2
    (.ok (), { filled with delivered := desk.delivered + bytes.length, waiting := "" })

def blockSize : Nat := 8192

def awaiting (desk : Desk) (text : String) : Desk :=
  { desk with waiting := desk.waiting ++ text }

def write (path text : String) (desk : Desk) : Except StreamFault Unit × Desk :=
  if (desk.awaiting text).waiting.utf8ByteSize < blockSize then (.ok (), desk.awaiting text)
  else flush path (desk.awaiting text)

def print (text : String) (desk : Desk) : Except StreamFault Unit × Desk :=
  (.ok (), { desk with out := desk.out ++ text })

def heard (desk : Desk) : Stream → List UInt8
  | none => desk.input
  | some path => (desk.content path).toOption.getD []

/-- A desk as a host. No time passes there. -/
def host : Host (StateM Desk) where
  platform := .usual
  load := Yaml.load
  readFile path := do return (← get).content path
  openFile path := do return ((← get).content path).map fun _ => ()
  createFile path := modifyGet (create path)
  openLog path := modifyGet (openLog path)
  appendLog path text := modify (append path text)
  readStream stream := do return ((← get).heard stream, none)
  writeStream
    | none, text => modifyGet (print text)
    | some path, text => modifyGet (write path text)
  closeFile path := modifyGet (flush path)
  printError text := modify fun desk => { desk with errors := desk.errors ++ text }
  home? part := do return (← get).homes.lookup part
  stamp := do return (← get).stamp
  elapsed := return "0:00:00"

end Desk

end GantryCode
