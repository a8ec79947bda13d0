import TurboP2P.Control.Restore
import TurboP2P.Lease.History
import TurboP2P.Flow.Snapshot
import TurboP2P.Flow.RuntimeOverrun
import TurboP2P.Raft.Committed
import TurboP2P.Namespace.ReadIndex
import TurboP2P.Object.RepairOutcome
import TurboP2P.Object.PutObjectOutcome
import TurboP2P.Gateway.ObjectOutcome
import TurboP2P.Replay.Requests
import TurboP2P.Mesh.ChunkCalls
import TurboP2P.SigV4.RoundTrip
import TurboP2P.Fabric.Forwarding
import TurboP2P.Fabric.Pair
import TurboP2P.Node.Admission
import TurboP2P.Controller.SyncCodec
import TurboP2P.Mgmt.ReplaySnapshot
import TurboP2P.Stream.Session
import TurboP2P.Stream.Data
import TurboP2P.Stream.Sources
import TurboP2P.Dht.Routing
