import GsKernel.Acpm.IpcRuns
import GsKernel.Aoc.QueueRuns
import GsKernel.Aoc.Ring
import GsKernel.Bms.CycleCount
import GsKernel.Bms.EepromRuns
import GsKernel.Bms.RateLimiterRuns
import GsKernel.Bms.ResistanceAverage
import GsKernel.Bms.StorageCacheRuns
import GsKernel.Bms.StorageNames
import GsKernel.Bms.TierEstimate
import GsKernel.Bms.UicurveRuns
import GsKernel.Eh.Answers
import GsKernel.Eh.SwFifo
import GsKernel.Gcip.ImageConfigRuns
import GsKernel.Gcip.ResolutionRuns
import GsKernel.Gcip.ResponseQueue
import GsKernel.Gcma.Partition
import GsKernel.Gvotable.Casts
import GsKernel.Gvotable.Extremum
import GsKernel.Gvotable.Locks
import GsKernel.Iif.DirectCounting
import GsKernel.Iif.PollRuns
import GsKernel.Iif.SubmissionWakeup
import GsKernel.Iif.SyncPointRuns
import GsKernel.Iif.Timeline
import GsKernel.Iif.WakelockRuns
import GsKernel.Lwis.CancelPrecision
import GsKernel.Lwis.PeriodicCancel
import GsKernel.Lwis.PeriodicCleanup
import GsKernel.Lwis.PeriodicEvents
import GsKernel.Lwis.PeriodicTimers
import GsKernel.Lwis.TriggerOrder
import GsKernel.Lwis.TriggerRuns
import GsKernel.Pt.Callbacks
import GsKernel.S2mpu.Frame
import GsKernel.S2mpu.InitAtomic
import GsKernel.S2mpu.System
import GsKernel.Touch.BusOwnership
import GsKernel.Touch.Timestamps
