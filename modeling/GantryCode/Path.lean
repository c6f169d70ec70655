import GantryCode.Text.Quoted

namespace GantryCode

/-! Names of files, and why a file cannot be opened. -/

namespace Path

def isPart (part : List Char) : Bool :=
  part ≠ [] && part ≠ ['.']

/-- The parts of a path, without empty ones and those that stand for the directory
that they are in. -/
def parts (path : List Char) : List (List Char) :=
  (path.splitOn '/').filter isPart

/-- What an absolute path starts with. Two slashes, but not three, are kept. -/
def root (path : List Char) : List Char :=
  match path.takeWhile (· = '/') with
  | [] => []
  | ['/', '/'] => ['/', '/']
  | _ => ['/']

def normal (path : String) : String :=
  let chars := root path.toList ++ ['/'].intercalate (parts path.toList)
  if chars.isEmpty then "." else String.ofList chars

/-- Leaves out the parts that a part for the directory above takes back. -/
def stepBack (behind : List (List Char)) (part : List Char) : List (List Char) :=
  if part = ['.', '.'] && !behind.isEmpty && behind.getLast? ≠ some ['.', '.'] then
    behind.dropLast
  else behind ++ [part]

/-- The path without detours through directories that it leaves again. -/
def collapsed (path : String) : String :=
  let root := root path.toList
  let kept := (parts path.toList).foldl stepBack []
  let kept := if root.isEmpty then kept else kept.dropWhile (· = ['.', '.'])
  normal (String.ofList (root ++ ['/'].intercalate kept))

def hasNul (path : String) : Bool :=
  path.toList.contains '\x00'

/-- Bytes that suffice for no path and no part of one. -/
def lengthLimit : Nat := 4096

def partLimit : Nat := 256

/-- The part in front that stands for the home directory of a user. -/
def homePart? (path : String) : Option String :=
  match root path.toList, parts path.toList with
  | [], first :: _ => if first.head? = some '~' then some (String.ofList first) else none
  | _, _ => none

end Path

inductive FileReason where
  | missing
  | accessDenied
  | notADirectory
  | isADirectory
  | nameTooLong
  | other (number : Nat) (text : String)
deriving DecidableEq, Repr

namespace FileReason

def number : FileReason → Nat
  | .missing => 2
  | .accessDenied => 13
  | .notADirectory => 20
  | .isADirectory => 21
  | .nameTooLong => 36
  | .other number _ => number

def text : FileReason → String
  | .missing => "No such file or directory"
  | .accessDenied => "Permission denied"
  | .notADirectory => "Not a directory"
  | .isADirectory => "Is a directory"
  | .nameTooLong => "File name too long"
  | .other _ text => text

end FileReason

structure FileFault where
  reason : FileReason
  path : String
deriving DecidableEq, Repr

def FileFault.message (fault : FileFault) : String :=
  "[Errno " ++ String.ofList (Nat.toDigits 10 fault.reason.number) ++ "] " ++ fault.reason.text ++
    ": " ++ Text.quoted fault.path

end GantryCode
