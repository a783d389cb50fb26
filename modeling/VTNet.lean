import VTNet.Proofs.Agreement
import VTNet.Proofs.AuthenticationTrace
import VTNet.Proofs.ChatText
import VTNet.Proofs.Commutation
import VTNet.Proofs.DeviceLogin
import VTNet.Proofs.Downstream
import VTNet.Proofs.FailedLogin
import VTNet.Proofs.Insertion
import VTNet.Proofs.OfferAnswer
import VTNet.Proofs.PageFrames
import VTNet.Proofs.PageInRoom
import VTNet.Proofs.Quiescence
import VTNet.Proofs.Routing
import VTNet.Proofs.Serialization
import VTNet.Proofs.WireRoundTrip
import VTNet.Lib.Script
import VTNet.Proofs.PageInStep
import VTNet.Proofs.Reconnection
