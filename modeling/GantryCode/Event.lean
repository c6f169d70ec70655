import GantryCode.Emitter

namespace GantryCode

/-! Tool motion events, one for everything that an emitter can be asked to do. -/

inductive Event where
  | startRun (comment : Option String)
  | startSection (facts : Section)
  | endSection
  | dwell (seconds : Float)
  | power (on : Bool)
  | rapid (target : Coordinates (Option Float))
  | linear (target : Coordinates (Option Float)) (feed : Option Float)
  | circular (move : ArcMove)
  | endRun
deriving DecidableEq

def Emitter.perform : Event → Emission Unit
  | .startRun comment => startRun comment
  | .startSection facts => startSection facts
  | .endSection => endSection
  | .dwell seconds => dwell seconds
  | .power on => power on
  | .rapid target => rapid target
  | .linear target feed => linear target feed
  | .circular move => circular move
  | .endRun => endRun

end GantryCode
