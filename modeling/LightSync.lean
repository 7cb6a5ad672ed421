import LightSync.Bridge.Connection
import LightSync.Simulation.Action
import LightSync.Simulation.TaskPool
import LightSync.Simulation.Timetable
import LightSync.Proofs.Run
import LightSync.Proofs.Scene
import LightSync.Proofs.FailedStep
import LightSync.Proofs.SingleLoop
import LightSync.Proofs.Convergence
import LightSync.Proofs.Requests
import LightSync.Proofs.Fading
import LightSync.Proofs.Delivery
import LightSync.Proofs.RecordingHub
import LightSync.Proofs.Mirroring
import LightSync.Proofs.Direct
import LightSync.Proofs.Coalescing
import LightSync.Proofs.SafeValues
import LightSync.Proofs.Addressing
import LightSync.Proofs.Household
import LightSync.Proofs.Membership
import LightSync.Proofs.Tracking
import LightSync.Proofs.OffTimers
import LightSync.Proofs.LastListing
import LightSync.Proofs.Exclusion
import LightSync.Proofs.Wishes
import LightSync.Proofs.LoopAgreement
import LightSync.Proofs.Records
import LightSync.Proofs.RoundTrip
import LightSync.Proofs.Accounting
import LightSync.Proofs.Correspondence
import LightSync.Proofs.Reload
import LightSync.Proofs.KnownLights
import LightSync.Proofs.Readiness
import LightSync.Proofs.Following
import LightSync.Proofs.SetAlgebra
import LightSync.Proofs.AllOff
import LightSync.Proofs.Forwarding
import LightSync.Proofs.Dimming
import LightSync.Proofs.ListingOrder
import LightSync.Proofs.NumericOrder
import LightSync.Proofs.LoopStarts
import LightSync.Proofs.Pacing
import LightSync.Proofs.Waiting
import LightSync.Proofs.Motion
import LightSync.Proofs.CellHistory
import LightSync.Proofs.Fields
import LightSync.Proofs.ReplyGrammar
import LightSync.Proofs.Overlay
import LightSync.Proofs.PartialSettings
