import Geminifs.Theory.Persist
import Geminifs.Theory.Storage.Flush
import Geminifs.Theory.Storage.Durability
import Geminifs.Theory.Storage.Recovery
import Geminifs.Theory.Storage.Bounce
import Geminifs.Theory.Doorbells
import Geminifs.Theory.Striping
import Geminifs.Theory.Capacity
import Geminifs.Theory.Snvme.Events
import Geminifs.Theory.Files.CrashPrefix
import Geminifs.Theory.Files.GpuCrash
import Geminifs.Theory.Files.GpuHandles
import Geminifs.Theory.Files.Names
import Geminifs.Theory.TensorRegions
import Geminifs.Theory.TensorRegistry
import Geminifs.Theory.NvmeService.Heartbeats
import Geminifs.Theory.NvmeService.Liveness
import Geminifs.Theory.NvmeService.Views
import Geminifs.Theory.ServiceRegistry
import Geminifs.Theory.MemorySubsystem
import Geminifs.Theory.DmaMap
import Geminifs.Theory.Snvme.Exclusive
import Geminifs.Theory.QueueArray
import Geminifs.Theory.Snvme.Placement
import Geminifs.Theory.Snvme.LateUnwind
import Geminifs.Theory.Snvme.MapFailure
import Geminifs.Theory.Snvme.OldQueues
import Geminifs.Theory.Snvme.Unmap
import Geminifs.Theory.Storage.Failures
