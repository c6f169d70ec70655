import GantryCode.Run
import Std.Time

/-! The program itself: a run on the machine that it was started on. -/

namespace GantryCode.Main

def reasonOf (code : UInt32) : FileReason :=
  if code = 13 then .accessDenied
  else if code = 20 then .notADirectory
  else if code = 21 then .isADirectory
  else if code = 36 then .nameTooLong
  else .missing

def codeOf : IO.Error → UInt32
  | .noFileOrDirectory _ code _ => code
  | .permissionDenied _ code _ => code
  | .inappropriateType _ code _ => code
  | .invalidArgument _ code _ => code
  | _ => 0

def attempt {α : Type} (path : String) (action : IO α) : IO (Except FileFault α) := do
  try
    return .ok (← action)
  catch error =>
    return .error { reason := reasonOf (codeOf error), path }

/-- Refuses what is no file to read. A directory shows in that it holds itself. -/
def openFile (path : String) : IO (Except FileFault Unit) := do
  match ← attempt path (discard (IO.FS.Handle.mk path .read)) with
  | .error fault => return .error fault
  | .ok () =>
      match ← attempt path (discard (IO.FS.Handle.mk (path ++ "/.") .read)) with
      | .ok () => return .error { reason := .isADirectory, path }
      | .error _ => return .ok ()

def readFile (path : String) : IO (Except FileFault (List UInt8)) := do
  match ← openFile path with
  | .error fault => return .error fault
  | .ok () => attempt path (do return (← IO.FS.readBinFile path).toList)

/-- Does what may fail with a stream that is open. -/
def streaming {α : Type} (action : IO α) : IO (Except StreamFault α) := do
  try
    return .ok (← action)
  catch error =>
    return .error { message := error.toString }

partial def readAll (stream : IO.FS.Stream) (seen : ByteArray) : IO ByteArray := do
  let block ← stream.read 65536
  if block.isEmpty then return seen else readAll stream (seen ++ block)

def readStream (stream : Stream) : IO (List UInt8 × Option StreamFault) := do
  let bytes ← streaming do
    match stream with
    | none => readAll (← IO.getStdin) .empty
    | some path => IO.FS.readBinFile path
  match bytes with
  | .ok bytes => return (bytes.toList, none)
  | .error fault => return ([], some fault)

/-- Appends to a file that is closed again. -/
def append (path text : String) : IO Unit := do
  discard <| streaming do
    let file ← IO.FS.Handle.mk path .append
    file.putStr text

def stamp : IO String := do
  return (← Std.Time.DateTime.now).format "uuuu-MM-dd HH:mm:ssxxx"

/-- The home directory of the present user; those of others are not known. -/
def home? (part : String) : IO (Option String) := do
  if part = "~" then IO.getEnv "HOME" else return none

def twoDigits (n : Nat) : String :=
  (if n < 10 then "0" else "") ++ Text.decimal n

def showTime (micros : Nat) : String :=
  let seconds := micros / 1000000
  let places := Text.decimal (1000000 + micros % 1000000)
  Text.decimal (seconds / 3600) ++ ":" ++ twoDigits (seconds / 60 % 60) ++ ":" ++
    twoDigits (seconds % 60) ++ "." ++ (places.drop 1).toString

/-- The machine. The file that was created last is kept open until it is closed. -/
def host (start : Nat) (created : IO.Ref (Option IO.FS.Handle)) : Host IO where
  platform := .usual
  load := Yaml.load
  readFile := readFile
  openFile := openFile
  createFile path := do
    match ← attempt path (IO.FS.Handle.mk path .write) with
    | .error fault => return .error fault
    | .ok file =>
        created.set (some file)
        return .ok ()
  openLog path := attempt path (discard (IO.FS.Handle.mk path .append))
  appendLog := append
  readStream := readStream
  writeStream stream text := streaming do
    match stream, ← created.get with
    | some _, some file => file.putStr text
    | _, _ => (← IO.getStdout).putStr text
  closeFile _ := streaming do
    if let some file := ← created.get then file.flush
    created.set none
  printError text := do (← IO.getStderr).putStr text
  home? := home?
  stamp := stamp
  elapsed := do return showTime (((← IO.monoNanosNow) - start) / 1000)

end GantryCode.Main

def main (arguments : List String) : IO UInt32 := do
  let start ← IO.monoNanosNow
  let created ← IO.mkRef none
  match ← GantryCode.Run.run (GantryCode.Main.host start created) arguments with
  | .status code | .exit code => return code.toUInt32
  | .crash crash =>
      (← IO.getStderr).putStrLn crash.message
      return 1
