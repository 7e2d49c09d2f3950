import Firecracker.Lib.AssocMap
import Firecracker.Lib.Cbpf
import Firecracker.Lib.Halves
import Firecracker.Lib.Run
import Firecracker.Lib.Wrapping
import Firecracker.Lib.Ring
import Firecracker.Lib.Ledger
import Firecracker.Lib.Loop
import Firecracker.Lib.NetBytes
import Firecracker.Lib.OnesComplement
import Firecracker.Seccomp.Backend
import Firecracker.Seccomp.Correct
import Firecracker.Virtio.Queue
import Firecracker.Virtio.Mmio
import Firecracker.Virtio.MmioFreeze
import Firecracker.Virtio.MmioFeatures
import Firecracker.Dumbo.Tcp
import Firecracker.Dumbo.Connection
import Firecracker.Dumbo.SendWindow
import Firecracker.Dumbo.RecvWindow
import Firecracker.Dumbo.Endpoint
import Firecracker.Dumbo.Response
import Firecracker.Dumbo.Retransmit
import Firecracker.Dumbo.Handler
import Firecracker.Dumbo.HandlerMaps
import Firecracker.Dumbo.Payload
import Firecracker.Dumbo.Pdu
import Firecracker.Virtio.Chain
import Firecracker.Virtio.Notify
import Firecracker.Net.IoVec
import Firecracker.Net.Rx
import Firecracker.Vsock.Packet
import Firecracker.Vsock.Csm
import Firecracker.Vsock.TxBufFifo
import Firecracker.Vsock.Connection
import Firecracker.Vsock.Muxer
import Firecracker.Balloon.Compact
import Firecracker.Balloon.Inflate
import Firecracker.Block.Request
import Firecracker.RateLimiter.Basic
import Firecracker.RateLimiter.Blocking
import Firecracker.RateLimiter.Refill
import Firecracker.IoUring
import Firecracker.Block.Engine
import Firecracker.Block.Device
import Firecracker.Block.Accounting
import Firecracker.Block.Charging
import Firecracker.Dumbo.TcpRoundTrip
import Firecracker.Vmm.MemorySnapshot
import Firecracker.Vsock.Flow
import Firecracker.Dumbo.Ipv4
import Firecracker.Lib.Runs
import Firecracker.Mmds.SanitizeUri
import Firecracker.Lib.SortedMap
import Firecracker.Mmds.JsonPatch
import Firecracker.Mmds.DataStore
import Firecracker.Lib.Regex
import Firecracker.Cpuid.FreqRegex
import Firecracker.Cpuid.BrandString
import Firecracker.Virtio.GuestMemory
import Firecracker.Virtio.QueueSpec
import Firecracker.Virtio.Virtqueue
import Firecracker.Dumbo.Frames
import Firecracker.Dumbo.PacketLen
import Firecracker.Mmds.Ns
import Firecracker.Net.Device
import Firecracker.RateLimiter.Undo
