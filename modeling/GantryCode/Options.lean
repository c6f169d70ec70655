import GantryCode.Axis
import GantryCode.Fault
import GantryCode.Platform
import GantryCode.Quantity
import GantryCode.Target

namespace GantryCode

/-! Settings of the machine and of the output, fixed for a run, as is the platform that
it takes place on.
-/

structure Options where
  homeXStart : Bool := true
  homeYStart : Bool := true
  homeZStart : Bool := false
  homeXEnd : Bool := true
  startZ : Option Quantity := none
  endZ : Option Quantity := none
  endY : Option Quantity := none
  beepAtEnd : Bool := true
  rapidFeedXY : Quantity := .real 3000
  rapidFeedZ : Quantity := .real 300
  cutterThrough : String := "M3 S255"
  cutterEtch : String := "M3 S25"
  cutterVaporize : String := "M3 S100"
  cutterOff : String := "M5"
  /-- Added to every position before it is written. -/
  toolOffset : Coordinates Quantity := ⟨.real 0, .real 0, .real 0⟩
  bedX : Quantity := .real 200
  bedY : Quantity := .real 200
  target : String := "marlin"
  /-- How far a chord may be from its arc. -/
  tolerance : Quantity := .real 0.01
  arcMaxSegments : Int := 1000
  showComments : Bool := true
  showLineNumbers : Bool := false
  platform : Platform := .usual
  /-- The settings of commands that are set to no text, with the types of their values.
  A run comes to a halt where it is to write such a command. -/
  misfits : List (String × String) := []

namespace Options

def isSelectable (name : String) : Bool :=
  (Target.ofName? name).any Target.selectable.contains

def hasRapidFeeds (options : Options) : Except Fault Bool := do
  if ← options.rapidFeedXY.isAboveZero then options.rapidFeedZ.isAboveZero else .ok false

def require (condition : Bool) (reason : OptionFault) : Except Fault Unit :=
  if condition then .ok () else .error (.options reason)

def checkNumbers (options : Options) : Except Fault Unit := do
  require (← options.hasRapidFeeds) .rapidFeed
  require (← options.tolerance.isAboveZero) .tolerance

def checkLimit (options : Options) : Except Fault Unit :=
  require (1 ≤ options.arcMaxSegments) .segmentLimit

def check (options : Options) : Except Fault Unit := do
  options.checkNumbers
  options.checkLimit
  require (isSelectable options.target) (.target options.target)

end Options

end GantryCode
