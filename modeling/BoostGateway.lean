import BoostGateway.Raft.Persistence
import BoostGateway.Match.Once
import BoostGateway.Router.Hysteresis
import BoostGateway.Service.Server
import BoostGateway.Gateway.Connections
import BoostGateway.Leaderboard.Stores
import BoostGateway.Match.MatchIds
import BoostGateway.Realtime.Lifecycle
import BoostGateway.Battle.Capacity
import BoostGateway.Battle.Settlement
import BoostGateway.Battle.Replay
import BoostGateway.Battle.Frames
import BoostGateway.Battle.Grace
import BoostGateway.Gateway.RouteWorkers
import BoostGateway.Gateway.BattleWire
import BoostGateway.Classic.GatewayServer
import BoostGateway.Runtime.CrossCore
import BoostGateway.Data.CachedDataStore
import BoostGateway.Persistence.ReplayStorage
import BoostGateway.Net.MessageSerializer
import BoostGateway.Raft.IndexOrder
import BoostGateway.Raft.CommitReads
import BoostGateway.Persistence.FileEventStore
import BoostGateway.Persistence.RedisEventStore
import BoostGateway.Leaderboard.Scores
import BoostGateway.Match.Selection
import BoostGateway.Login.TokenOwnership
import BoostGateway.Service.BackendConnection
import BoostGateway.Realtime.InputSequence
import BoostGateway.Battle.AttackGate
import BoostGateway.Battle.Shots
import BoostGateway.Battle.PendingInputs
import BoostGateway.Battle.Snapshot
import BoostGateway.Gateway.BattleClose
import BoostGateway.Gateway.Handover
import BoostGateway.Player.Lifecycle
import BoostGateway.Room.Ownership
import BoostGateway.Runtime.Timers
import BoostGateway.Ecs.BuildStages
import BoostGateway.Ecs.SimpleWorld
import BoostGateway.Aoi.SpatialGrid
import BoostGateway.Persistence.BlockingPush
import BoostGateway.Login.TokenRoundTrip
import BoostGateway.Login.TokenTypes
import BoostGateway.Data.ReplayFormat
import BoostGateway.Service.ErrorAnswers
import BoostGateway.Operator.Reconcile
import BoostGateway.Match.Status
import BoostGateway.Gateway.RoomBroadcast
import BoostGateway.Persistence.RedisConnectionPool
import BoostGateway.Data.LruNodes
import BoostGateway.Runtime.SpscRing
import BoostGateway.Login.HmacSha256
import BoostGateway.Sdk.Client
import BoostGateway.Raft.Durability
import BoostGateway.Tracing.OtlpExporter
import BoostGateway.Tank.Flight
import BoostGateway.Gateway.BackendPools
