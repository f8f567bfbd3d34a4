import BuzzerScript.Main
import BuzzerScript.Proofs.Command.Outcome
import BuzzerScript.Proofs.Timeline.Merge
import BuzzerScript.Proofs.Timeline.Override
import BuzzerScript.Proofs.Timeline.Ranges
import BuzzerScript.Proofs.Timeline.Timetable
import BuzzerScript.Proofs.Token.Positions
import BuzzerScript.Proofs.Script.Trails
import BuzzerScript.Proofs.WholeNumber
import BuzzerScript.Proofs.Script.Melody
import BuzzerScript.Proofs.Script.Options
import BuzzerScript.Proofs.Script.LastAccepted
import BuzzerScript.Proofs.Token.Spacing
import BuzzerScript.Proofs.Script.Spacing
import BuzzerScript.Proofs.SumOrder
import BuzzerScript.Proofs.Timeline.TrackOrder
import BuzzerScript.Proofs.NoteSpelling
import BuzzerScript.Proofs.Script.Duration
import BuzzerScript.Proofs.Timeline.TempoLaw
import BuzzerScript.Proofs.OptionsFile.Lines
import BuzzerScript.Proofs.Timeline.LastEnd
import BuzzerScript.Proofs.Token.Offsets
import BuzzerScript.Proofs.Timeline.Listing
