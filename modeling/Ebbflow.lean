import Ebbflow.Config
import Ebbflow.Daemon
import Ebbflow.Health
import Ebbflow.Lib.HashTable
import Ebbflow.Lib.Hysteresis
import Ebbflow.Lib.Supervisor
import Ebbflow.Runner
import Ebbflow.RunnerConfig
import Ebbflow.RunnerReload
import Ebbflow.RunnerStatus
import Ebbflow.RunnerTasks
import Ebbflow.Lib.BigEndian
import Ebbflow.Lib.Cbor
import Ebbflow.Messaging
import Ebbflow.MessagingCbor
import Ebbflow.AwaitMessage
import Ebbflow.Framing
import Ebbflow.EstablishConnection
import Ebbflow.Handshake
import Ebbflow.LocalConnection
import Ebbflow.CopyBytes
import Ebbflow.RunConnection
import Ebbflow.Dialogue
import Ebbflow.ConnectionRun
import Ebbflow.HandshakeSafety
import Ebbflow.Tunnel
import Ebbflow.InnerRun
import Ebbflow.Lib.Tally
import Ebbflow.Permits
import Ebbflow.Accounting
import Ebbflow.PermitBalance
import Ebbflow.EndpointRun
import Ebbflow.Lifecycle
import Ebbflow.Limits
import Ebbflow.Lib.Text
import Ebbflow.Lib.Wakeup
import Ebbflow.ConfigFile
import Ebbflow.ConfigWatch
import Ebbflow.RunDaemon
import Ebbflow.RunnerKey
import Ebbflow.Reapply
import Ebbflow.ConfigCommands
import Ebbflow.Lib.KeyedList
import Ebbflow.ConfigRefinement
import Ebbflow.ConfigRace
import Ebbflow.IdleLimit
import Ebbflow.CreateArgs
import Ebbflow.RunnerSystem
import Ebbflow.KeyGating
import Ebbflow.HalfClose
import Ebbflow.HandshakeFlush
import Ebbflow.TornFiles
import Ebbflow.TornWrites
import Ebbflow.ConfigFailures
import Ebbflow.Decoding
import Ebbflow.HealthDirection
import Ebbflow.AwaitExact
import Ebbflow.Lib.Timed
import Ebbflow.Reachability
import Ebbflow.BlankKeys
import Ebbflow.Lib.WatchChannel
import Ebbflow.StopSignal
import Ebbflow.Lib.Duplex
import Ebbflow.MockEbb
import Ebbflow.ClientParty
import Ebbflow.MockRun
import Ebbflow.Protocol
import Ebbflow.ProtocolProgress
import Ebbflow.Console
import Ebbflow.Convergence
import Ebbflow.ServedMap
import Ebbflow.Settling
import Ebbflow.InfoServer
import Ebbflow.StatusAnswers
import Ebbflow.Lib.Population
import Ebbflow.WholeDaemon
import Ebbflow.ServingTasks
import Ebbflow.Lib.Pacing
import Ebbflow.TimedConnections
import Ebbflow.RateLimit
import Ebbflow.PermitReturn
import Ebbflow.ServedConfig
import Ebbflow.TimedEndpoint
import Ebbflow.Draining
import Ebbflow.DrainLimit
import Ebbflow.Failover
import Ebbflow.Flapping
import Ebbflow.KeyRotation
import Ebbflow.InitDialogue
import Ebbflow.LogLevel
import Ebbflow.PrintedConfig
import Ebbflow.EntryTasks
import Ebbflow.AskedTasks
