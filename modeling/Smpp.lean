import Smpp.Codec.Buffer
import Smpp.Codec.Decode
import Smpp.Codec.Encode
import Smpp.Scenario.Step
import Smpp.Text.Hex
import Smpp.Proofs.Codec.Bodies
import Smpp.Proofs.Codec.RoundTrip
import Smpp.Proofs.Codec.Buffers
import Smpp.Proofs.Stream.Framing
import Smpp.Proofs.Session.Tasks
import Smpp.Proofs.Session.Answers
import Smpp.Proofs.Session.Numbering
import Smpp.Proofs.Session.Retirement
import Smpp.Proofs.Message.Segmentation
import Smpp.Proofs.Message.PackedText
import Smpp.Proofs.Codec.Faithful
import Smpp.Proofs.Session.Correlation
import Smpp.Proofs.Stream.Emission
import Smpp.Proofs.Session.Lifecycle
import Smpp.Proofs.Session.Endings
import Smpp.Proofs.Session.Race
import Smpp.Proofs.Session.Closing
import Smpp.Proofs.Session.Delivery
import Smpp.Proofs.Session.Sending
import Smpp.Proofs.Session.Deadlines
import Smpp.Proofs.Session.Reporting
import Smpp.Proofs.Session.Binding
import Smpp.Proofs.Gsm.Mapping
import Smpp.Proofs.Message.References
import Smpp.Proofs.Codec.Safety
import Smpp.Proofs.Session.Pings
import Smpp.Proofs.Gsm.Alignment
import Smpp.Proofs.Message.Receipts
import Smpp.Proofs.Stream.Strictness
import Smpp.Proofs.Session.Search
import Smpp.Proofs.Codec.Exactness
