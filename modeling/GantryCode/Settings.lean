import GantryCode.EventReader
import GantryCode.Options

namespace GantryCode.Options

/-! Options as named settings, the form in which users give them. -/

def optionalQuantity : Value → Option Quantity
  | .null => none
  | value => some (.ofValue value)

/-- A text that is set. What counts as no is as good as an empty text. -/
def textOf : Value → String
  | .text chars => chars
  | _ => ""

/-- The least integer that is not exceeded by fewer than the set number. -/
def limitOf : Value → Int
  | .int n => n
  | .bool flag => if flag then 1 else 0
  | .float x =>
      match Binary64.ceiling (-x) with
      | .ok n => -n
      | .error _ => if x < 0 then 0 else Nat.pow 2 1024
  | _ => 0

def setting (settings : List (String × Value)) (name : String) (usual : Value) : Value :=
  (settings.lookup name).getD usual

/-- The settings of the commands that are written for the laser. -/
def commandNames : List String :=
  ["cutter_through", "cutter_etch", "cutter_vaporize", "cutter_off"]

/-- Whether a value is neither a text nor as good as an empty one. -/
def isNoText (value : Value) : Bool :=
  value.isTruthy && !value.isText

def misfitsOf (settings : List (String × Value)) : List (String × String) :=
  commandNames.filterMap fun name =>
    ((settings.lookup name).filter isNoText).map fun value => (name, value.typeName)

def fromSettings (settings : List (String × Value)) : Options :=
  let usual : Options := {}
  let flag (name : String) (usual : Bool) : Bool :=
    ((settings.lookup name).map Value.isTruthy).getD usual
  let number (name : String) (usual : Quantity) : Quantity :=
    .ofValue (setting settings name usual.toValue)
  let height (name : String) : Option Quantity :=
    optionalQuantity (setting settings name .null)
  let text (name : String) (usual : String) : String :=
    textOf (setting settings name (.text usual))
  { homeXStart := flag "home_x_start" usual.homeXStart
    homeYStart := flag "home_y_start" usual.homeYStart
    homeZStart := flag "home_z_start" usual.homeZStart
    homeXEnd := flag "home_x_end" usual.homeXEnd
    startZ := height "start_z"
    endZ := height "end_z"
    endY := height "end_y"
    beepAtEnd := flag "beep_at_end" usual.beepAtEnd
    rapidFeedXY := number "rapid_feed_xy" usual.rapidFeedXY
    rapidFeedZ := number "rapid_feed_z" usual.rapidFeedZ
    cutterThrough := text "cutter_through" usual.cutterThrough
    cutterEtch := text "cutter_etch" usual.cutterEtch
    cutterVaporize := text "cutter_vaporize" usual.cutterVaporize
    cutterOff := text "cutter_off" usual.cutterOff
    toolOffset :=
      { x := number "offset_x" usual.toolOffset.x
        y := number "offset_y" usual.toolOffset.y
        z := number "offset_z" usual.toolOffset.z }
    bedX := number "bed_x" usual.bedX
    bedY := number "bed_y" usual.bedY
    target := text "target" usual.target
    tolerance := number "tolerance" usual.tolerance
    arcMaxSegments := limitOf (setting settings "arc_max_segments" (.int usual.arcMaxSegments))
    showComments := flag "show_comments" usual.showComments
    showLineNumbers := flag "show_line_numbers" usual.showLineNumbers
    misfits := misfitsOf settings }

def optionalValue (quantity : Option Quantity) : Value :=
  (quantity.map Quantity.toValue).getD .null

def toSettings (options : Options) : List (String × Value) :=
  [("home_x_start", .bool options.homeXStart), ("home_y_start", .bool options.homeYStart),
    ("home_z_start", .bool options.homeZStart), ("home_x_end", .bool options.homeXEnd),
    ("start_z", optionalValue options.startZ), ("end_z", optionalValue options.endZ),
    ("end_y", optionalValue options.endY), ("beep_at_end", .bool options.beepAtEnd),
    ("rapid_feed_xy", options.rapidFeedXY.toValue), ("rapid_feed_z", options.rapidFeedZ.toValue),
    ("cutter_through", .text options.cutterThrough), ("cutter_etch", .text options.cutterEtch),
    ("cutter_vaporize", .text options.cutterVaporize), ("cutter_off", .text options.cutterOff),
    ("offset_x", options.toolOffset.x.toValue), ("offset_y", options.toolOffset.y.toValue),
    ("offset_z", options.toolOffset.z.toValue), ("bed_x", options.bedX.toValue),
    ("bed_y", options.bedY.toValue), ("target", .text options.target),
    ("tolerance", options.tolerance.toValue), ("arc_max_segments", .int options.arcMaxSegments),
    ("show_comments", .bool options.showComments),
    ("show_line_numbers", .bool options.showLineNumbers)]

def names : List String :=
  (toSettings {}).map (·.1)

def taken (settings : List (String × Value)) : List (String × Value) :=
  settings.filter fun (name, _) => names.contains name

/-- Takes the options from settings. Settings of other names are left alone. What is no
number is of no use as a limit, and what is no text of none as a name, but whatever is
checked before comes first. -/
def ofSettings (settings : List (String × Value)) : Except Fault Options := do
  let options := fromSettings settings
  let limit := setting settings "arc_max_segments" (.int options.arcMaxSegments)
  let target := setting settings "target" (.text options.target)
  if !limit.isNumeric then
    options.checkNumbers
    throw (.wrongType .count limit.typeName)
  if !target.isText then
    options.checkNumbers
    options.checkLimit
    throw (.wrongType .name target.typeName)
  return options

end GantryCode.Options
