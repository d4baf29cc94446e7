import Realtime.Client.Run
import Realtime.Config
import Realtime.Payload.Scalar
import Realtime.Payload.Shape
import Realtime.Phase.Json
import Realtime.Proofs.Announced
import Realtime.Proofs.Client.Agreement
import Realtime.Proofs.Client.Boundaries
import Realtime.Proofs.Client.Buffers
import Realtime.Proofs.Client.Complaints
import Realtime.Proofs.Client.Crossing
import Realtime.Proofs.Client.Decisions
import Realtime.Proofs.Client.Dispatch
import Realtime.Proofs.Client.Entry
import Realtime.Proofs.Client.Fruitless
import Realtime.Proofs.Client.Idle
import Realtime.Proofs.Client.Intake
import Realtime.Proofs.Client.Itinerary
import Realtime.Proofs.Client.Losses
import Realtime.Proofs.Client.Queries
import Realtime.Proofs.Client.Recovery
import Realtime.Proofs.Client.Replay
import Realtime.Proofs.Client.Reports
import Realtime.Proofs.Client.Seclusion
import Realtime.Proofs.Client.Textual
import Realtime.Proofs.JsonText
import Realtime.Proofs.Language
import Realtime.Proofs.Readable
import Realtime.Proofs.Settings
import Realtime.Transport.Bench
import Realtime.Transport.Script
import Realtime.Transport.WebSocket
import Realtime.Url
import Realtime.Version
