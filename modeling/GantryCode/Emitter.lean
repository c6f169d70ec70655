import GantryCode.Arc
import GantryCode.Binary64
import GantryCode.Notice
import GantryCode.Options
import GantryCode.Writer.Basic

namespace GantryCode

/-! The emitter: tool motion as G code for a gantry with a laser.

Positions are in millimetres in the coordinates of the caller; the tool offset is
added when they are written. Feed rates are in millimetres a minute.
-/

inductive JetMode where
  | through
  | etch
  | vaporize
deriving DecidableEq, Repr

def JetMode.ofInt? : Int → Option JetMode
  | 0 => some .through
  | 1 => some .etch
  | 2 => some .vaporize
  | _ => none

/-- The command that switches the laser on, and what is remarked beside it. -/
structure CuttingMode where
  command : String
  remark : String
deriving DecidableEq, Repr

structure Section where
  isFirst : Bool := false
  isJet : Bool := true
  jetMode : Int := 0
  comment : Option String := none
deriving DecidableEq, Repr

/-- An arc as the caller asks for it. Without a plane it lies in no principal plane
and needs an axis; without a start it starts where the tool is. -/
structure ArcMove where
  clockwise : Bool := false
  center : Coordinates Float
  finish : Coordinates Float
  feed : Option Float
  plane : Option Plane := some .xy
  start : Option (Coordinates Float) := none
  axis : Option (Coordinates Float) := none
deriving DecidableEq

structure Emitter where
  options : Options
  writer : Writer
  /-- How the laser is switched on in the current section. -/
  mode : CuttingMode
  /-- Where the tool was last sent, as far as that is known. -/
  position : Coordinates (Option Float) := ⟨none, none, none⟩
  notices : Array Notice := #[]

/-- Emitting can fail on the way; what was done until then stays done. -/
abbrev Emission := EStateM Fault Emitter

def version : String := "0.1.0"

namespace Emitter

def create (options : Options) (stamp : String) : Except Fault Emitter := do
  options.check
  let writer ← Writer.ofTargetName options.target stamp
  .ok
    { options
      writer :=
        { writer with
          showComments := options.showComments
          showLineNumbers := options.showLineNumbers }
      mode := ⟨options.cutterOff, "Cutting mode not set"⟩ }

def longestDwell : Float := 99999.999

def shortestDwell : Float := 0.001

def writing {α : Type} (action : Writing α) : Emission α := fun emitter =>
  match action emitter.writer with
  | .ok result writer => .ok result { emitter with writer }
  | .error fault writer => .error fault { emitter with writer }

def updateWriter (change : Writer → Writer) : Emission Unit :=
  modify fun emitter => { emitter with writer := change emitter.writer }

def notify (notice : Notice) : Emission Unit :=
  modify fun emitter => { emitter with notices := emitter.notices.push notice }

def fromResult {α : Type} (result : Except Fault α) : Emission α :=
  MonadExcept.ofExcept result

def amount (quantity : Quantity) : Emission Float :=
  fromResult (quantity.toFloat .text)

def command (tokens : List (Option String)) (remark : Option String := none) : Emission Unit :=
  updateWriter (·.command tokens remark)

def word (letter : Letter) (value : Option Float) (force : Bool := false) :
    Emission (Option String) :=
  writing (Writer.word letter value force)

def code (feature : Feature) : Emission (Option String) := do
  return (← get).writer.target.code? feature

def moved (position target : Coordinates (Option Float)) : Coordinates (Option Float) :=
  target.zipWith (fun new old => new <|> old) position

def updatePosition (target : Coordinates (Option Float)) : Emission Unit :=
  modify fun emitter => { emitter with position := moved emitter.position target }

def shifted (offset : Coordinates Quantity) (point : Coordinates Float) :
    Except Fault (Coordinates Float) := do
  return ⟨← offset.x.shift point.x, ← offset.y.shift point.y, ← offset.z.shift point.z⟩

/-- A target as the controller sees it. Only the axes that it has a value for are
shifted. -/
def shiftedTarget (offset : Coordinates Quantity) (target : Coordinates (Option Float)) :
    Except Fault (Coordinates (Option Float)) := do
  return ⟨← target.x.mapM offset.x.shift, ← target.y.mapM offset.y.shift,
    ← target.z.mapM offset.z.shift⟩

/-- Shows a text on the display of the machine, or as a comment if it has none. -/
def status (text : String) : Emission Unit := do
  match ← code .statusMessage with
  | some message => command [some message, some (Remark.clean text)]
  | none => updateWriter (·.remark text)

/-- Sends an axis home; after that its position is not known. -/
def home (axis : Axis) (feed : Option Quantity := none) : Emission Unit := do
  notify (.homing axis)
  let homeCode ← code .home
  let feedWord ← word .f (← feed.mapM amount) true
  command [homeCode, some axis.name, feedWord] (some ("Home " ++ axis.name))
  updateWriter (·.forget [axis.letter])
  modify fun emitter => { emitter with position := emitter.position.set axis none }

def rapidLine (words : List (Option String)) (feed : Quantity) (remark : Option String := none) :
    Emission Unit := do
  let feedWord ← word .f (some (← amount feed)) true
  command ([some "G0"] ++ words ++ [feedWord]) remark

def forcedMove (letter : Letter) (value feed : Quantity) (remark : Option String := none) :
    Emission Unit := do
  let axisWord ← word letter (some (← amount value)) true
  rapidLine [axisWord] feed remark

def startup : Emission Unit := do
  let options := (← get).options
  command [some options.cutterOff] (some "Laser off")
  command [← code .setUnitsMm] (some "Units are in millimeters")
  if options.homeXStart then home .x
  if options.homeYStart then home .y
  let planeCode ← writing (Writer.planeCode Plane.xy.code true)
  command [planeCode] (some "Circular interpolation: XY plane")
  command [← code .absolutePositioning] (some "Use absolute positioning")
  rapidLine [] options.rapidFeedXY (some "Rapid feed rate")
  if options.homeZStart then home .z (some options.rapidFeedZ)
  if let some height := options.startZ then
    forcedMove .z height options.rapidFeedZ (some "Start height")

/-- How the laser is switched on in a mode. In a mode that is not known it stays
off. -/
def cuttingMode (options : Options) (mode : Int) : CuttingMode :=
  match JetMode.ofInt? mode with
  | some .through => ⟨options.cutterThrough, "Laser on: through"⟩
  | some .etch => ⟨options.cutterEtch, "Laser on: etch"⟩
  | some .vaporize => ⟨options.cutterVaporize, "Laser on: vaporize"⟩
  | none => ⟨options.cutterOff, "Unknown jet mode " ++ Text.signedDecimal mode⟩

/-- A mode that is not known has to be shown. -/
def checkMode (mode : Int) : Except Fault Unit :=
  if (JetMode.ofInt? mode).isSome || Value.isShort mode then .ok ()
  else .error .integerTextTooLong

def selectMode (mode : Int) : Emission Unit := do
  fromResult (checkMode mode)
  if (JetMode.ofInt? mode).isNone then notify (.unknownJetMode mode)
  modify fun emitter => { emitter with mode := cuttingMode emitter.options mode }

/-- The words that show a point, in the order of the axes, each at the precision of
the writer. -/
def pointText (words : List (String × Quantity)) : Emission String := do
  let writer := (← get).writer
  let texts ← fromResult (words.mapM fun (name, quantity) => do
    return name ++ (← writer.valueText false (← quantity.toFloat .text)))
  return " ".intercalate texts

def isOffset (offset : Coordinates Quantity) : Bool :=
  offset.x.isNonzero || offset.y.isNonzero || offset.z.isNonzero

def addHeaderComment (text : String) : Emission Unit :=
  updateWriter (·.addHeaderComment (.text text))

def startRun (comment : Option String) : Emission Unit := do
  let options := (← get).options
  updateWriter (·.remark ("Generated by laserpost " ++ version))
  updateWriter fun writer => { writer with headerComments := [] }
  addHeaderComment ("Bed size: " ++ (← pointText [("X", options.bedX), ("Y", options.bedY)]))
  let offset := options.toolOffset
  if isOffset offset then
    addHeaderComment ("Tool offset: " ++
      (← pointText [("X", offset.x), ("Y", offset.y), ("Z", offset.z)]))
  updateWriter (·.header (comment.map .text))
  updateWriter Writer.forgetAll

def startSection (facts : Section) : Emission Unit := do
  if facts.isFirst then startup
  if facts.isJet then selectMode facts.jetMode
  match facts.comment with
  | none | some "" => pure ()
  | some text =>
      command [← code .finishMoves]
      status text

/-- Returns to the usual plane; the next move gives all coordinates. -/
def endSection : Emission Unit := do
  let planeCode ← writing (Writer.planeCode Plane.xy.code false)
  command [planeCode]
  updateWriter (·.forget [.x, .y, .z, .f])

def beep : Emission Unit := do
  match ← code .beep with
  | some sound => command [some sound] (some "Beep")
  | none => notify (.cannotBeep (← get).writer.target.name)

def endRun : Emission Unit := do
  let options := (← get).options
  command [← code .finishMoves] (some "Finish moves")
  command [some options.cutterOff] (some "Laser off")
  if let some height := options.endZ then forcedMove .z height options.rapidFeedZ
  rapidLine [] options.rapidFeedXY
  if options.homeXEnd then home .x
  if let some place := options.endY then forcedMove .y place options.rapidFeedXY
  if let some disable ← code .disableMotors then command [some disable] (some "Disable motors")
  if options.beepAtEnd then beep
  status "Finished"

/-- The dwell that is written, and what is told of a dwell out of bounds. -/
def clampDwell (seconds : Float) : Float × Option Notice :=
  if longestDwell < seconds then (longestDwell, some (.dwellTooLong seconds longestDwell))
  else if seconds < shortestDwell then (shortestDwell, some (.dwellTooShort seconds))
  else (seconds, none)

def dwell (seconds : Float) : Emission Unit := do
  let (seconds, notice) := clampDwell seconds
  if let some notice := notice then notify notice
  let name := (← code .dwellParam).getD ""
  let text ← fromResult ((← get).writer.valueText false seconds)
  command [← code .dwell, some (name ++ text)] (some "Dwell")

def power (on : Bool) : Emission Unit := do
  let emitter ← get
  if on then command [some emitter.mode.command] (some emitter.mode.remark)
  else command [some emitter.options.cutterOff] (some "Laser off")

/-- A rapid move. The height has a line of its own, since it has a feed rate of its
own. -/
def rapid (target : Coordinates (Option Float)) : Emission Unit := do
  updatePosition target
  let options := (← get).options
  let target ← fromResult (shiftedTarget options.toolOffset target)
  let xWord ← word .x target.x
  let yWord ← word .y target.y
  let zWord ← word .z target.z
  if xWord.isSome || yWord.isSome then rapidLine [xWord, yWord] options.rapidFeedXY
  if zWord.isSome then rapidLine [zWord] options.rapidFeedZ

/-- A straight cut. Every move gives the feed rate; where no axis moves, a new feed
rate is given alone. -/
def linear (target : Coordinates (Option Float)) (feed : Option Float) : Emission Unit := do
  updatePosition target
  let target ← fromResult (shiftedTarget (← get).options.toolOffset target)
  let xWord ← word .x target.x
  let yWord ← word .y target.y
  let zWord ← word .z target.z
  if xWord.isSome || yWord.isSome || zWord.isSome then
    let feedWord ← word .f feed true
    command [some "G1", xWord, yWord, zWord, feedWord]
  else
    let feedWord ← word .f feed
    if feedWord.isSome then command [some "G1", feedWord]

def linearThrough (feed : Option Float) : List (Coordinates Float) → Emission Unit
  | [] => pure ()
  | point :: rest => do
      linear (point.map some) feed
      linearThrough feed rest

def widestStep (radius : Float) (tolerance : Quantity) : Except Fault Float := do
  if tolerance.reaches radius then return Arc.quarterTurn
  Arc.stepWithin radius (← tolerance.toFloat .sum)

def segments (arc : Arc Float) (tolerance : Quantity) (limit : Int) : Except Fault Int := do
  Arc.stepCount (← widestStep arc.widestRadius tolerance) arc.sweep limit

def chords (geometry : Geometry Float) (start center finish axis : Coordinates Float)
    (clockwise : Bool) (tolerance : Quantity) (limit : Int) :
    EStateM Fault (Array Notice) (List (Coordinates Float)) := do
  let arc ← MonadExcept.ofExcept (Arc.between geometry start center finish axis clockwise)
  if arc.radiiDiffer geometry then modify (·.push (.radiiDiffer arc.radius arc.endRadius))
  let count ← MonadExcept.ofExcept (segments arc tolerance limit)
  modify (·.push (.arcDivided arc.radius (Scalar.toDegrees arc.sweep) count.toNat))
  return arc.points geometry count.toNat

def noticing {α : Type} (action : EStateM Fault (Array Notice) α) : Emission α := fun emitter =>
  match action emitter.notices with
  | .ok result notices => .ok result { emitter with notices }
  | .error fault notices => .error fault { emitter with notices }

def chordedArc (move : ArcMove) (start axis : Coordinates Float) : Emission Unit := do
  let options := (← get).options
  let points ← noticing (chords options.platform.geometry start move.center move.finish axis
    move.clockwise options.tolerance options.arcMaxSegments)
  notify (.arcOutsidePlanes points.length)
  linearThrough move.feed points

/-- The words of the center relative to the start. They are written in any case. -/
def offsetWords (offsets : Coordinates Float) : List Axis → Emission (List (Option String))
  | [] => pure []
  | axis :: rest => do
      let first ← word axis.offsetLetter (some (offsets.get axis)) true
      return first :: (← offsetWords offsets rest)

def planarArc (move : ArcMove) (start : Coordinates Float) (plane : Plane) : Emission Unit := do
  updatePosition (move.finish.map some)
  let offset := (← get).options.toolOffset
  let center ← fromResult (shifted offset move.center)
  let start ← fromResult (shifted offset start)
  let finish ← fromResult (shifted offset move.finish)
  let offsets := center.zipWith (· - ·) start
  let planeCode ← writing (Writer.planeCode plane.code false)
  let xWord ← word .x (some finish.x)
  let yWord ← word .y (some finish.y)
  let zWord ← word .z (some finish.z)
  let centerWords ← offsetWords offsets plane.axes
  let feedWord ← word .f move.feed true
  command ([planeCode, some (if move.clockwise then "G2" else "G3"), xWord, yWord, zWord] ++
    centerWords ++ [feedWord])

def startPoint (given : Option (Coordinates Float)) : Emission (Coordinates Float) := do
  match given <|> (← get).position.complete? with
  | some start => return start
  | none => throw .unknownPosition

def circular (move : ArcMove) : Emission Unit := do
  match move.plane, move.axis with
  | none, none => throw .missingAxis
  | none, some axis => chordedArc move (← startPoint move.start) axis
  | some plane, _ => planarArc move (← startPoint move.start) plane

def setPrecision (precision : Int) : Emission Unit :=
  updateWriter (·.setPrecision precision)

end Emitter

end GantryCode
