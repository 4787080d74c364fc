import Brainstem.Lib.Proc
import Brainstem.Lib.F32
import Brainstem.Lib.Word
import Brainstem.Lib.F64
import Brainstem.Lib.Cast
import Brainstem.Lib.Nearest
import Brainstem.Lib.Fifo
import Brainstem.Lib.Rounds
import Brainstem.Lib.Run
import Brainstem.Lib.Unwinding
import Brainstem.Lib.Latch
import Brainstem.Lib.Utf8
import Brainstem.Lib.Updates
import Brainstem.Lib.Split
import Brainstem.Lib.Exposition
import Brainstem.Lib.Permits
import Brainstem.Lib.Spaced
import Brainstem.Lib.HttpMessage
import Brainstem.Lib.Json
import Brainstem.Lib.JsonRead
import Brainstem.Runtime.Types
import Brainstem.Runtime.Durable
import Brainstem.Runtime.Harness
import Brainstem.Runtime.Rules
import Brainstem.Runtime.Effects
import Brainstem.Runtime.Replay
import Brainstem.Runtime.Json
import Brainstem.Runtime.Agreement
import Brainstem.Runtime.ExactlyOnce
import Brainstem.Runtime.FailClosed
import Brainstem.Runtime.RoundTrip
import Brainstem.Runtime.Matrix
import Brainstem.Health.Snapshot
import Brainstem.Health.Machine
import Brainstem.Health.Readiness
import Brainstem.Health.Consistency
import Brainstem.Health.Hysteresis
import Brainstem.Health.Metrics
import Brainstem.Health.Exposition
import Brainstem.Health.Handle
import Brainstem.Health.Report
import Brainstem.Control.Http
import Brainstem.Control.Reply
import Brainstem.Control.Server
import Brainstem.Control.Replies
import Brainstem.Control.Framing
import Brainstem.Ingress.Packet
import Brainstem.Ingress.Config
import Brainstem.Ingress.Queue
import Brainstem.Ingress.Ledger
import Brainstem.Ingress.Bounded
import Brainstem.Ingress.Handle
import Brainstem.Ingress.Lone
import Brainstem.Ingress.Threads
import Brainstem.Ingress.Conservation
import Brainstem.Ingress.Order
import Brainstem.Ingress.Parking
import Brainstem.Ingress.Waiting
import Brainstem.Ingress.Race
import Brainstem.Ingress.Closing
import Brainstem.Ingress.Calls
import Brainstem.Ingress.Isolation
import Brainstem.Ingress.OverflowLog
import Brainstem.Backend.Zmq
import Brainstem.Ingress.Corpus
import Brainstem.Backend.LatestWins
import Brainstem.Daemon.Config
import Brainstem.Daemon.Network
import Brainstem.Daemon.Limiter
import Brainstem.Daemon.Cadence
import Brainstem.Daemon.Tick
import Brainstem.Daemon.Effects
import Brainstem.Daemon.Entry
import Brainstem.Daemon.Drain
import Brainstem.Daemon.StepInput
import Brainstem.Daemon.Accounting
import Brainstem.Daemon.Emission
import Brainstem.Backend.SpikeSink
import Brainstem.Daemon.Egress
import Brainstem.Daemon.SensoryFate
import Brainstem.Daemon.BoundedAge
import Brainstem.Daemon.Pressure
import Brainstem.Daemon.Transparency
import Brainstem.Daemon.StandardPacket
import Brainstem.Daemon.Pipeline
import Brainstem.Daemon.DirectIngress
import Brainstem.Daemon.Lifecycle
import Brainstem.Daemon.Protocol
import Brainstem.Checkpoint.Files
import Brainstem.Checkpoint.Document
import Brainstem.Checkpoint.Restore
import Brainstem.Checkpoint.Acceptance
import Brainstem.Checkpoint.DecayRate
import Brainstem.Checkpoint.Hub
import Brainstem.Daemon.LiveGate
import Brainstem.Daemon.Script
import Brainstem.Daemon.Supervised
import Brainstem.Backend.Freshness
import Brainstem.Daemon.Registry
import Brainstem.Daemon.Endpoint
