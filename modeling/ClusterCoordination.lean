import ClusterCoordination.Archive.Words
import ClusterCoordination.Proofs.Archive.Lengths
import ClusterCoordination.Proofs.Calls.Answers
import ClusterCoordination.Proofs.Calls.ArgumentLists
import ClusterCoordination.Proofs.Calls.Beginnings
import ClusterCoordination.Proofs.Calls.CallFootprint
import ClusterCoordination.Proofs.Calls.Conservation
import ClusterCoordination.Proofs.Calls.Correlation
import ClusterCoordination.Proofs.Calls.Dispatching
import ClusterCoordination.Proofs.Calls.Groups
import ClusterCoordination.Proofs.Calls.LocationTransparency
import ClusterCoordination.Proofs.Calls.Neighbours
import ClusterCoordination.Proofs.Calls.NodeRuns
import ClusterCoordination.Proofs.Calls.Orphans
import ClusterCoordination.Proofs.Calls.Outcomes
import ClusterCoordination.Proofs.Calls.Pointwise
import ClusterCoordination.Proofs.Calls.Polling
import ClusterCoordination.Proofs.Calls.ResolvedOnce
import ClusterCoordination.Proofs.Cluster.Chatter
import ClusterCoordination.Proofs.Cluster.Honesty
import ClusterCoordination.Proofs.Cluster.Introductions
import ClusterCoordination.Proofs.Cluster.MessageOrder
import ClusterCoordination.Proofs.Cluster.Silence
import ClusterCoordination.Proofs.Lifecycle.Broadcasts
import ClusterCoordination.Proofs.Lifecycle.Bypassing
import ClusterCoordination.Proofs.Lifecycle.Departure
import ClusterCoordination.Proofs.Lifecycle.Following
import ClusterCoordination.Proofs.Lifecycle.Serving
import ClusterCoordination.Proofs.Lifecycle.Visits
import ClusterCoordination.Proofs.Membership.Convergence
import ClusterCoordination.Proofs.Membership.Departures
import ClusterCoordination.Proofs.Membership.Detection
import ClusterCoordination.Proofs.Membership.Differences
import ClusterCoordination.Proofs.Membership.History
import ClusterCoordination.Proofs.Membership.JoinOrder
import ClusterCoordination.Proofs.Membership.Mastership
import ClusterCoordination.Proofs.Membership.Notifications
import ClusterCoordination.Proofs.Membership.Overtaking
import ClusterCoordination.Proofs.Membership.Repetition
import ClusterCoordination.Proofs.Membership.Waiting
import ClusterCoordination.Proofs.Network.Consignments
import ClusterCoordination.Proofs.Network.Draining
import ClusterCoordination.Proofs.Network.ExactDelivery
import ClusterCoordination.Proofs.Network.Receipts
import ClusterCoordination.Proofs.Nodes.Acquaintance
import ClusterCoordination.Proofs.Nodes.Answering
import ClusterCoordination.Proofs.Nodes.DetectionRound
import ClusterCoordination.Proofs.Nodes.Faces
import ClusterCoordination.Proofs.Nodes.Footprint
import ClusterCoordination.Proofs.Nodes.Handing
import ClusterCoordination.Proofs.Nodes.Mailing
import ClusterCoordination.Proofs.Nodes.Members
import ClusterCoordination.Proofs.Nodes.Rejection
import ClusterCoordination.Proofs.Nodes.Running
import ClusterCoordination.Proofs.Nodes.Serving
import ClusterCoordination.Proofs.Wire.ControlFrames
import ClusterCoordination.Proofs.Wire.Damage
import ClusterCoordination.Proofs.Wire.DatagramCodec
import ClusterCoordination.Samples.Calculator
import ClusterCoordination.Samples.Recorder
import ClusterCoordination.Samples.Services
import ClusterCoordination.Simulation.Operations
import ClusterCoordination.Proofs.Network.Ownership
import ClusterCoordination.Proofs.Calls.Deadlines
