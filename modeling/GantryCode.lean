import GantryCode.Angle
import GantryCode.Arc
import GantryCode.Axis
import GantryCode.Binary64
import GantryCode.CommandLine
import GantryCode.Conversion
import GantryCode.Decimal.Fixed
import GantryCode.Decimal.Reader
import GantryCode.Decimal.Shortest
import GantryCode.Emitter
import GantryCode.Event
import GantryCode.EventReader
import GantryCode.Fault
import GantryCode.Fields
import GantryCode.Host
import GantryCode.Json
import GantryCode.MachineFile
import GantryCode.Main
import GantryCode.Notice
import GantryCode.Options
import GantryCode.Path
import GantryCode.Platform
import GantryCode.Proofs.Agreement
import GantryCode.Proofs.AngleErrors
import GantryCode.Proofs.AngleOrder
import GantryCode.Proofs.Angles
import GantryCode.Proofs.ArcMoves
import GantryCode.Proofs.ArcPlanes
import GantryCode.Proofs.ArcStarts
import GantryCode.Proofs.Calls
import GantryCode.Proofs.ChordedArcs
import GantryCode.Proofs.Chords
import GantryCode.Proofs.Cleaning
import GantryCode.Proofs.Commands
import GantryCode.Proofs.Comparison
import GantryCode.Proofs.Completion
import GantryCode.Proofs.DecimalText
import GantryCode.Proofs.Decoration
import GantryCode.Proofs.Desks
import GantryCode.Proofs.Destinations
import GantryCode.Proofs.Dwells
import GantryCode.Proofs.Emission
import GantryCode.Proofs.Endings
import GantryCode.Proofs.EventFaults
import GantryCode.Proofs.EventSchema
import GantryCode.Proofs.ExactEmission
import GantryCode.Proofs.ExactValue
import GantryCode.Proofs.FreeText
import GantryCode.Proofs.Interruptions
import GantryCode.Proofs.Joining
import GantryCode.Proofs.Kinship
import GantryCode.Proofs.LaserMode
import GantryCode.Proofs.LaserSwitching
import GantryCode.Proofs.Layers
import GantryCode.Proofs.LineBreaks
import GantryCode.Proofs.Lines
import GantryCode.Proofs.Lockstep
import GantryCode.Proofs.Memory
import GantryCode.Proofs.ModalReading
import GantryCode.Proofs.Motion
import GantryCode.Proofs.MotionForms
import GantryCode.Proofs.MotionLines
import GantryCode.Proofs.MotionPhases
import GantryCode.Proofs.Moves
import GantryCode.Proofs.Nearest
import GantryCode.Proofs.NearestNumbers
import GantryCode.Proofs.NumberText
import GantryCode.Proofs.NumberWords
import GantryCode.Proofs.NumeralValue
import GantryCode.Proofs.Omission
import GantryCode.Proofs.Operations
import GantryCode.Proofs.Opposites
import GantryCode.Proofs.Pairing
import GantryCode.Proofs.Parking
import GantryCode.Proofs.Phases
import GantryCode.Proofs.Phrases
import GantryCode.Proofs.PlaneHistory
import GantryCode.Proofs.PositiveWhole
import GantryCode.Proofs.RapidFeeds
import GantryCode.Proofs.ReadValues
import GantryCode.Proofs.Refusals
import GantryCode.Proofs.Registers
import GantryCode.Proofs.Renditions
import GantryCode.Proofs.ReplayFaults
import GantryCode.Proofs.ReplayParts
import GantryCode.Proofs.Reuse
import GantryCode.Proofs.Rounding
import GantryCode.Proofs.RunHead
import GantryCode.Proofs.Scripts
import GantryCode.Proofs.SegmentCounts
import GantryCode.Proofs.ShortArcs
import GantryCode.Proofs.SignedZero
import GantryCode.Proofs.Signs
import GantryCode.Proofs.Silence
import GantryCode.Proofs.SlotTable
import GantryCode.Proofs.Stages
import GantryCode.Proofs.Standing
import GantryCode.Proofs.TableRequests
import GantryCode.Proofs.Telling
import GantryCode.Proofs.Tolerances
import GantryCode.Proofs.Traces
import GantryCode.Proofs.TrackedPosition
import GantryCode.Proofs.Translation
import GantryCode.Proofs.Uses
import GantryCode.Proofs.Views
import GantryCode.Proofs.Whereabouts
import GantryCode.Proofs.Winding
import GantryCode.Proofs.Wording
import GantryCode.Proofs.Words
import GantryCode.Proofs.WrittenNumbers
import GantryCode.Quantity
import GantryCode.Remark
import GantryCode.Run
import GantryCode.Scalar
import GantryCode.Settings
import GantryCode.Target
import GantryCode.Text.Blank
import GantryCode.Text.Digit
import GantryCode.Text.Lines
import GantryCode.Text.Printable
import GantryCode.Text.Quoted
import GantryCode.Text.Upper
import GantryCode.Text.Utf8
import GantryCode.Value
import GantryCode.Writer.Basic
import GantryCode.Writer.Line
import GantryCode.Writer.Named
import GantryCode.Writer.Slots
import GantryCode.Yaml.Document
import GantryCode.Yaml.Fault
import GantryCode.Yaml.Node
import GantryCode.Yaml.Scalar
import GantryCode.Yaml.Source
import GantryCode.Yaml.Token
