import GantryCode.Conversion
import GantryCode.MachineFile
import GantryCode.Options
import GantryCode.Settings

namespace GantryCode

/-! The command line and what it sets.

Arguments are told apart before any of them is used. One that starts with a dash is
an option, unless it looks like a negative number, holds a space or is the dash
alone. A long option may be cut short as long as it stays the only one that starts
so, and may have its value behind an equals sign. Two dashes end the options. Behind
an equals sign they are no value: what they set is empty.
-/

structure Setting where
  flag : String
  conversion : Conversion
  usual : Value

/-- The name of a setting: that of its option without the dashes in front, the
others as underscores. -/
def Setting.name (setting : Setting) : String :=
  (setting.flag.drop 2).toString.map fun c => if c = '-' then '_' else c

inductive Switch where
  | help
  | version
  | setting (setting : Setting)

namespace CommandLine

def program : String := "laserpost"

def usualOptions : Options := {}

def setting (flag : String) (conversion : Conversion) (usual : Value) : Switch :=
  .setting { flag, conversion, usual }

def numberSetting (flag : String) (usual : Quantity) : Switch :=
  setting flag .number usual.toValue

def flagSetting (flag : String) (usual : Bool) : Switch :=
  setting flag .flag (.bool usual)

/-- The words in the order in which they are explained, with what they stand for. -/
def switches : List (String × Switch) :=
  let named (entry : Switch) : List (String × Switch) :=
    match entry with
    | .setting given => [(given.flag, entry)]
    | _ => []
  let usual := usualOptions
  [("-h", .help), ("--help", .help)] ++
    [setting "--config" .path .null,
      setting "--output-path" .text (.text "-"),
      setting "--log-level" (.choice ["DEBUG", "INFO", "WARNING", "ERROR"]) (.text "WARNING"),
      setting "--log-filename" .text .null].flatMap named ++
    [("--version", .version)] ++
    [setting "--target" (.choice (Target.selectable.map Target.name)) (.text usual.target),
      flagSetting "--home-x-start" usual.homeXStart,
      flagSetting "--home-y-start" usual.homeYStart,
      flagSetting "--home-z-start" usual.homeZStart,
      flagSetting "--home-x-end" usual.homeXEnd,
      setting "--start-z" .optionalNumber (Options.optionalValue usual.startZ),
      setting "--end-z" .optionalNumber (Options.optionalValue usual.endZ),
      setting "--end-y" .optionalNumber (Options.optionalValue usual.endY),
      flagSetting "--beep-at-end" usual.beepAtEnd,
      numberSetting "--rapid-feed-xy" usual.rapidFeedXY,
      numberSetting "--rapid-feed-z" usual.rapidFeedZ,
      setting "--cutter-through" .text (.text usual.cutterThrough),
      setting "--cutter-etch" .text (.text usual.cutterEtch),
      setting "--cutter-vaporize" .text (.text usual.cutterVaporize),
      setting "--cutter-off" .text (.text usual.cutterOff),
      numberSetting "--offset-x" usual.toolOffset.x,
      numberSetting "--offset-y" usual.toolOffset.y,
      numberSetting "--offset-z" usual.toolOffset.z,
      numberSetting "--bed-x" usual.bedX,
      numberSetting "--bed-y" usual.bedY,
      numberSetting "--tolerance" usual.tolerance,
      setting "--arc-max-segments" .count (.int usual.arcMaxSegments),
      flagSetting "--show-comments" usual.showComments,
      flagSetting "--show-line-numbers" usual.showLineNumbers].flatMap named

/-- The settings, each with its name, conversion and usual value. The first is the
operand: the stream of events. -/
def settings : List (String × Conversion × Value) :=
  ("events", .text, .text "-") ::
    switches.filterMap fun (_, switch) =>
      match switch with
      | .setting given => some (given.name, given.conversion, given.usual)
      | _ => none

def settingNames : List String :=
  settings.map (·.1)

inductive UsageFault where
  | ambiguous (argument : String) (candidates : List String)
  | missingValue (option : String)
  | unwantedValue (option value : String)
  | badValue (option : String) (reason : ConversionFault)
  | unrecognized (arguments : List String)
deriving DecidableEq, Repr

def UsageFault.message : UsageFault → String
  | .ambiguous argument candidates =>
      "ambiguous option: " ++ argument ++ " could match " ++ ", ".intercalate candidates
  | .missingValue option => "argument " ++ option ++ ": expected one argument"
  | .unwantedValue option value =>
      "argument " ++ option ++ ": ignored explicit argument " ++ Text.quoted value
  | .badValue option reason => "argument " ++ option ++ ": " ++ reason.message
  | .unrecognized arguments => "unrecognized arguments: " ++ " ".intercalate arguments

inductive Stop where
  | help
  | version
  | usage (fault : UsageFault)
deriving DecidableEq, Repr

inductive Argument where
  | operand (text : String)
  | endOfOptions
  | option (switch : Switch) (value : Option String)
  /-- A switch of one letter with something behind it: a value or more letters. -/
  | cluster (switch : Switch) (others : List Char)
  | unknown (word : String)

def splitValue (argument : List Char) : List Char × Option (List Char) :=
  match argument.dropWhile (· ≠ '=') with
  | _ :: value => (argument.takeWhile (· ≠ '='), some value)
  | [] => (argument, none)

def isShort (word : List Char) : Bool :=
  word.length = 2 && word ≠ ['-', '-']

def isDigit (c : Char) : Bool :=
  (Text.digitValue? c).isSome

/-- Whether an argument looks like a negative number: digits, or digits around a
point that some follow. A newline at its end does not matter. -/
def isNegativeNumber (argument : List Char) : Bool :=
  match argument with
  | '-' :: rest =>
      let rest := if rest.getLast? = some '\n' then rest.dropLast else rest
      let whole := rest.takeWhile isDigit
      match rest.dropWhile isDigit with
      | [] => !whole.isEmpty
      | '.' :: places => !places.isEmpty && places.all isDigit
      | _ => false
  | _ => false

def switchOfLetter? (letter : Char) : Option Switch :=
  switches.lookup (String.ofList ['-', letter])

def candidates (argument : List Char) : List (String × Argument) :=
  match argument with
  | '-' :: '-' :: _ =>
      let (start, value) := splitValue argument
      (switches.filter fun (word, _) => start.isPrefixOf word.toList).map
        fun (word, switch) => (word, .option switch (value.map String.ofList))
  | '-' :: letter :: others =>
      (switchOfLetter? letter).toList.map fun switch =>
        (String.ofList ['-', letter], .cluster switch others)
  | _ => []

def classify (argument : String) : Except Stop Argument :=
  let chars := argument.toList
  match chars with
  | '-' :: _ :: _ =>
      let (start, value) := splitValue chars
      match switches.lookup argument, value, switches.lookup (String.ofList start) with
      | some switch, _, _ => .ok (.option switch none)
      | none, some value, some switch =>
          if isShort start then .ok (.cluster switch value)
          else .ok (.option switch (some (String.ofList value)))
      | _, _, _ =>
          match candidates chars with
          | [(_, meaning)] => .ok meaning
          | [] =>
              if isNegativeNumber chars || chars.contains ' ' then .ok (.operand argument)
              else .ok (.unknown argument)
          | several => .error (.usage (.ambiguous argument (several.map (·.1))))
  | _ => .ok (.operand argument)

/-- What the arguments are. All of them behind the end of the options are
operands. -/
def classifyAll : List String → Except Stop (List Argument)
  | [] => .ok []
  | argument :: rest =>
      if argument = "--" then .ok (.endOfOptions :: rest.map .operand)
      else do
        let first ← classify argument
        .ok (first :: (← classifyAll rest))

/-- What was read so far: the values given, whether the operand is still to come, and
the arguments that nothing was made of. -/
structure Reading where
  given : List (String × Value) := []
  awaitsOperand : Bool := true
  extras : List String := []

def Reading.give (reading : Reading) (name : String) (value : Value) : Reading :=
  { reading with given := setField name value reading.given }

def Reading.leave (reading : Reading) (argument : String) : Reading :=
  { reading with extras := reading.extras ++ [argument] }

def Reading.takeOperand (reading : Reading) (text : String) : Reading :=
  { reading.give "events" (.text text) with awaitsOperand := false }

def plainName : Switch → String
  | .help => "-h/--help"
  | .version => "--version"
  | .setting given => given.flag

def Argument.plainName : Argument → String
  | .option switch _ | .cluster switch _ => CommandLine.plainName switch
  | .operand text | .unknown text => text
  | .endOfOptions => "--"

def stopFor? : Switch → Option Stop
  | .help => some .help
  | .version => some .version
  | .setting _ => none

def unwanted (switch : Switch) (value : List Char) : Stop :=
  .usage (.unwantedValue (plainName switch) (String.ofList value))

/-- What the letters behind a switch of one letter make of its stop. Further switches
change nothing; from a letter on that is no switch they are an unwanted value. -/
def stopAtLetters (switch : Switch) (stop : Stop) : List Char → Stop
  | [] => stop
  | letter :: rest =>
      match switchOfLetter? letter with
      | some next => stopAtLetters next stop rest
      | none => unwanted switch (letter :: rest)

def stopOf? : Argument → Option Stop
  | .option switch value =>
      (stopFor? switch).map fun stop =>
        (value.map fun value => unwanted switch value.toList).getD stop
  | .cluster switch others =>
      (stopFor? switch).map fun stop =>
        if others.isEmpty then unwanted switch [] else stopAtLetters switch stop others
  | _ => none

def giveValue (given : Setting) (text : String) (reading : Reading) : Except Stop Reading :=
  match given.conversion.readGiven text with
  | .ok value => .ok (reading.give given.name value)
  | .error reason => .error (.usage (.badValue given.flag reason))

def giveJoined (given : Setting) (text : String) (reading : Reading) : Except Stop Reading :=
  if text = "--" then .ok (reading.give given.name (.list [])) else giveValue given text reading

/-- Takes the arguments in turn. The first operand is the stream of events; an end of
the options beside it belongs to it. -/
def readFrom : List Argument → Reading → Except Stop Reading
  | [], reading => .ok reading
  | .operand text :: .endOfOptions :: rest, reading =>
      if reading.awaitsOperand then readFrom rest (reading.takeOperand text)
      else readFrom rest ((reading.leave text).leave "--")
  | .operand text :: rest, reading =>
      readFrom rest (if reading.awaitsOperand then reading.takeOperand text else reading.leave text)
  | .endOfOptions :: .operand text :: rest, reading =>
      if reading.awaitsOperand then readFrom rest (reading.takeOperand text)
      else readFrom rest ((reading.leave "--").leave text)
  | .endOfOptions :: rest, reading =>
      readFrom rest (if reading.awaitsOperand then reading else reading.leave "--")
  | .unknown word :: rest, reading => readFrom rest (reading.leave word)
  | .option (.setting given) (some value) :: rest, reading => do
      readFrom rest (← giveJoined given value reading)
  | .option (.setting given) none :: .operand text :: rest, reading => do
      readFrom rest (← giveValue given text reading)
  | .cluster (.setting given) others :: rest, reading => do
      readFrom rest (← giveValue given (String.ofList others) reading)
  | argument :: _, _ => .error ((stopOf? argument).getD (.usage (.missingValue argument.plainName)))

def read (arguments : List String) : Except Stop Reading := do
  readFrom (← classifyAll arguments) {}

/-- The value of a setting: the one given, or the default, converted if it is a
text. -/
def settle (defaults : List (String × Value)) (reading : Reading) :
    List (String × Conversion × Value) → Except Stop (List (String × Value))
  | [] => .ok []
  | (name, conversion, usual) :: rest => do
      let value ←
        match reading.given.lookup name with
        | some value => .ok value
        | none =>
            (conversion.readDefault ((defaults.lookup name).getD usual)).mapError fun reason =>
              Stop.usage (.badValue ("--" ++ name.map fun c => if c = '_' then '-' else c) reason)
      .ok ((name, value) :: (← settle defaults reading rest))

def settled (defaults : List (String × Value)) (arguments : List String) :
    Except Stop (List (String × Value)) := do
  let reading ← read arguments
  let values ← settle defaults reading settings
  if reading.extras.isEmpty then .ok values
  else .error (.usage (.unrecognized reading.extras))

inductive Failure where
  | stop (stop : Stop)
  | machine (path : String) (fault : MachineFault)
  | crash (crash : MachineCrash)
deriving DecidableEq, Repr

/-- The machine file that the arguments name. Arguments that nothing can be made of
do not matter yet. -/
def machinePath? (arguments : List String) : Except Failure (Option String) := do
  match (← (read arguments).mapError Failure.stop).given.lookup "config" with
  | some (.text path) => .ok (some path)
  | some _ => .error (.crash .listAsPath)
  | none => .ok none

def unknownNames (options : List (String × Value)) : List String :=
  ((options.map (·.1)).filter fun name => !settingNames.contains name).mergeSort fun a b => a ≤ b

/-- The settings of the arguments over those of the machine file that they name, if
they name one. The file was read to `content`. -/
def withMachine (load : Loader) (depth : Nat) (arguments : List String) (path : String)
    (content : Except FileFault (List UInt8)) : Except Failure (List (String × Value)) :=
  match MachineFile.ofFile load depth content with
  | .error (.fault fault) => .error (.machine path fault)
  | .error (.crash crash) => .error (.crash crash)
  | .ok options =>
      match unknownNames options with
      | [] => (settled options arguments).mapError .stop
      | names => .error (.machine path (.unknownOptions names))

end CommandLine

end GantryCode
