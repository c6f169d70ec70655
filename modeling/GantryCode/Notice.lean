import GantryCode.Axis
import GantryCode.Decimal.Shortest

namespace GantryCode

/-! What the program tells its user beside the G code. -/

/-- Severities, with their places on the usual scale of a log. -/
inductive Level where
  | debug
  | info
  | warning
  | error
deriving DecidableEq, Repr

def Level.name : Level → String
  | .debug => "DEBUG"
  | .info => "INFO"
  | .warning => "WARNING"
  | .error => "ERROR"

def Level.severity : Level → Int
  | .debug => 10
  | .info => 20
  | .warning => 30
  | .error => 40

inductive Notice where
  | optionsTaken (shown : String)
  | dwellTooLong (seconds limit : Float)
  | dwellTooShort (seconds : Float)
  | homing (axis : Axis)
  | cannotBeep (target : String)
  | unknownJetMode (mode : Int)
  | radiiDiffer (start finish : Float)
  | arcDivided (radius degrees : Float) (segments : Nat)
  | arcOutsidePlanes (segments : Nat)
  | replayed (events : Nat)
  | finished (elapsed : String)
  | failure (message : String)
deriving DecidableEq

namespace Notice

def level : Notice → Level
  | .dwellTooLong .. | .unknownJetMode _ => .warning
  | .finished _ => .info
  | .failure _ => .error
  | _ => .debug

/-- The part of the program that a notice comes from, as a log names it. -/
def source : Notice → String
  | .radiiDiffer .. | .arcDivided .. => "laserpost.arcs"
  | .replayed _ => "laserpost.events"
  | .finished _ | .failure _ => "laserpost.laserpost"
  | _ => "laserpost.emitter"

def message : Notice → String
  | .optionsTaken shown => "emitter options: " ++ shown
  | .dwellTooLong seconds limit =>
      "Dwell of " ++ Decimal.shortest seconds ++ " seconds is out of range, using " ++
        Decimal.shortest limit ++ " seconds."
  | .dwellTooShort seconds =>
      "Dwell of " ++ Decimal.shortest seconds ++ " seconds raised to minimum"
  | .homing axis => "Home " ++ axis.name ++ " axis"
  | .cannotBeep target => "Target " ++ target ++ " cannot beep"
  | .unknownJetMode mode =>
      "Unknown jet mode " ++ Text.signedDecimal mode ++ ", the laser will stay off."
  | .radiiDiffer start finish =>
      "Mismatching arc radii: start radius = " ++ Decimal.fixed 6 start ++ ", end radius = " ++
        Decimal.fixed 6 finish
  | .arcDivided radius degrees segments =>
      "Linearize arc: radius=" ++ Decimal.fixed 6 radius ++ ", sweep=" ++
        Decimal.fixed 6 degrees ++ ", segments=" ++ Text.decimal segments
  | .arcOutsidePlanes segments =>
      "Arc not in a principal plane: " ++ Text.decimal segments ++ " segments"
  | .replayed events => Text.decimal events ++ " events processed"
  | .finished elapsed => "laserpost time: " ++ elapsed
  | .failure message => message

def logLine (notice : Notice) : String :=
  notice.level.name ++ " " ++ notice.source ++ ": " ++ notice.message

end Notice

end GantryCode
