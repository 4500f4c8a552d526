import Counsel.Main
import Counsel.Proofs.Dialogue.Announcements
import Counsel.Proofs.Dialogue.Catalogue
import Counsel.Proofs.Dialogue.Commuting
import Counsel.Proofs.Dialogue.Idleness
import Counsel.Proofs.Dialogue.InFlight
import Counsel.Proofs.Dialogue.Openers
import Counsel.Proofs.Dialogue.Outcomes
import Counsel.Proofs.Dialogue.Retention
import Counsel.Proofs.Dialogue.Routing
import Counsel.Proofs.Dialogue.Running
import Counsel.Proofs.Dialogue.Senders
import Counsel.Proofs.Dialogue.Shape
import Counsel.Proofs.Dialogue.Single
import Counsel.Screen.View
import Counsel.Proofs.Service.Recognition
import Counsel.Proofs.Json.Reading
import Counsel.Proofs.Json.Reordering
import Counsel.Proofs.Json.Decoding
import Counsel.Proofs.Session.Id
import Counsel.Proofs.Flow.Encoding
import Counsel.Proofs.Service.Wire
import Counsel.Proofs.Flow.Step
import Counsel.Proofs.Flow.Answer
import Counsel.Proofs.Flow.Asking
import Counsel.Proofs.Flow.Finishing
import Counsel.Proofs.Session.History
import Counsel.Proofs.Session.Title
import Counsel.Proofs.Dialogue.Arrival
import Counsel.Proofs.Dialogue.Errors
import Counsel.Proofs.Dialogue.Phases
import Counsel.Proofs.Dialogue.Returning
import Counsel.Proofs.Dialogue.Titles
import Counsel.Proofs.Flow.Greatest
import Counsel.Proofs.Flow.Help
import Counsel.Proofs.Flow.Loading
import Counsel.Proofs.Service.Opener
import Counsel.Proofs.Decimal.Shortest
import Counsel.Proofs.Json.Number
import Counsel.Proofs.Json.Parsing
import Counsel.Proofs.Dialogue.Leniency
import Counsel.Proofs.Navigation
import Counsel.Proofs.Screen.Transcript
import Counsel.Proofs.Screen.Measures
import Counsel.Proofs.Service.Counting
import Counsel.Proofs.Screen.Cursors
import Counsel.Proofs.Log.Pane
import Counsel.Proofs.Config
import Counsel.Proofs.Dialogue.Accord
