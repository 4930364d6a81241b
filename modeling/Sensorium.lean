import Sensorium.Lib.Runs
import Sensorium.Bridge.Reserve
import Sensorium.Bridge.Ring
import Sensorium.Bridge.RingFifo
import Sensorium.Bridge.Drained
import Sensorium.Kernel.Request
import Sensorium.Kernel.RequestSteps
import Sensorium.Kernel.Lifecycle
import Sensorium.Kernel.Credits
import Sensorium.Kernel.Teardown
import Sensorium.Daemon.Routing
import Sensorium.Daemon.RoutingSteps
import Sensorium.Daemon.StaleRequests
import Sensorium.Daemon.RouteExclusion
import Sensorium.Inventory.Agreement
import Sensorium.Inventory.Rollback
import Sensorium.Inventory.Desync
import Sensorium.Inventory.FailedResync
import Sensorium.Inventory.Restorable
import Sensorium.Inventory.SavedSnapshot
import Sensorium.Daemon.BridgeThreads
import Sensorium.Daemon.ReplyOrDesync
import Sensorium.Kernel.Inventory
import Sensorium.Kernel.InventoryInvariant
import Sensorium.Kernel.UartQueue
import Sensorium.Kernel.UartTransmit
import Sensorium.Kernel.Transfer
import Sensorium.Kernel.TransferReply
import Sensorium.Daemon.TransferCodec
import Sensorium.Daemon.TemplateReplies
import Sensorium.Daemon.ServedTemplates
import Sensorium.Inventory.WireLimits
import Sensorium.Controllers.Ownership
import Sensorium.Controllers.Bookkeeping
import Sensorium.Controllers.FirstReply
import Sensorium.Workers.Degraded
import Sensorium.Workers.OwnWorker
import Sensorium.Rpc.Clients
import Sensorium.Rpc.Survival
import Sensorium.Rpc.Stalls
import Sensorium.Rpc.Framing
import Sensorium.Rpc.Ordering
import Sensorium.Rpc.StopEvent
import Sensorium.Daemon.TraceOrder
import Sensorium.Camera.FrozenMode
import Sensorium.Camera.Buffers
import Sensorium.Camera.Timestamps
import Sensorium.Model.Idempotence
import Sensorium.Kernel.UartReceive
import Sensorium.Kernel.AliasSmbus
import Sensorium.Daemon.AliasBank
import Sensorium.Daemon.RequestGrammar
import Sensorium.Bridge.KernelDrain
import Sensorium.Workers.Sessions
import Sensorium.Daemon.FailedChanges
import Sensorium.Daemon.KeptTemplates
import Sensorium.Daemon.SmbusBank
import Sensorium.Daemon.BankSplits
import Sensorium.Daemon.UartChunks
import Sensorium.Daemon.CountedFaults
import Sensorium.Workers.Framing
import Sensorium.Workers.Reader
import Sensorium.Workers.Restarts
import Sensorium.Daemon.TraceQueue
import Sensorium.Daemon.TraceBound
import Sensorium.Camera.Bayer
import Sensorium.Bridge.Layout
import Sensorium.Camera.Cadence
import Sensorium.Inventory.TtyNames
import Sensorium.Iio.Crossings
import Sensorium.EndToEnd.RemoteCalls
import Sensorium.EndToEnd.UartLine
import Sensorium.EndToEnd.SpiMessages
import Sensorium.Kernel.UartDrain
import Sensorium.Bridge.Doorbell
import Sensorium.Camera.FrameOrder
import Sensorium.Camera.Formats
import Sensorium.Controllers.Delivery
import Sensorium.ModelControl.Applies
import Sensorium.EndToEnd.ModemLines
import Sensorium.EndToEnd.BusTransfers
