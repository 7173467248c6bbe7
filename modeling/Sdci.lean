import Sdci.Frame
import Sdci.Response
import Sdci.Link
import Sdci.Isdu.Segments
import Sdci.Isdu.Collector
import Sdci.Isdu.Acknowledgement
import Sdci.Session
import Sdci.Console.Program
import Sdci.Main
import Sdci.Proofs.Checksum.Burst
import Sdci.Proofs.Checksum.Flips
import Sdci.Proofs.Serial.Chunking
import Sdci.Proofs.Serial.Waits
import Sdci.Proofs.Text.Time
import Sdci.Proofs.Console.Session
import Sdci.Proofs.Console.Octets
import Sdci.Proofs.Console.Address
import Sdci.Proofs.SequenceType
import Sdci.Proofs.Geometry
import Sdci.Proofs.Master.Run
import Sdci.Proofs.Master.Actions
import Sdci.Proofs.Isdu.Feeding
import Sdci.Proofs.Isdu.Ending
import Sdci.Proofs.Isdu.Framing
import Sdci.Proofs.Isdu.Octets
import Sdci.Proofs.Master.Connection
import Sdci.Proofs.Master.History
import Sdci.Proofs.Dialogue.Loss
import Sdci.Proofs.Reply
import Sdci.Proofs.Response
import Sdci.Proofs.Frame
import Sdci.Proofs.Master.LostReply
import Sdci.Proofs.Master.Transfer
import Sdci.Proofs.Master.Calls
import Sdci.Proofs.Master.Failure
import Sdci.Proofs.Master.Layout
import Sdci.Proofs.Master.Refusal
import Sdci.Proofs.Master.Configuration
import Sdci.Proofs.Master.Silence
import Sdci.Proofs.Master.Startup
import Sdci.Proofs.Master.Faults
import Sdci.Proofs.Bounded.Session
import Sdci.Device
import Sdci.Proofs.Isdu.Answers
import Sdci.Proofs.Device.Assembly
import Sdci.Proofs.Device.Line
import Sdci.Proofs.Device.Quiet
import Sdci.Proofs.Device.Backlog
import Sdci.Proofs.Bounded.Octets
import Sdci.Proofs.Bounded.Transfers
import Sdci.Proofs.Bounded.Master
import Sdci.Proofs.Bounded.Limits
import Sdci.Proofs.Bounded.Segments
import Sdci.Proofs.Master.Log
