import GuitarTea.Lib.GuardedSystem
import GuitarTea.Lib.ByteBuffer
import GuitarTea.Lib.CString
import GuitarTea.Lib.TextFile
import GuitarTea.Lib.LinkHeap
import GuitarTea.Lib.Ring
import GuitarTea.Lib.Loops
import GuitarTea.Lib.Kernel
import GuitarTea.Lib.CheckedCall
import GuitarTea.Lib.Interleaving
import GuitarTea.Lib.LockedSections
import GuitarTea.Base
import GuitarTea.Log
import GuitarTea.LogRecord
import GuitarTea.Phase
import GuitarTea.Backtrace
import GuitarTea.BacktraceLines
import GuitarTea.Parameters
import GuitarTea.List
import GuitarTea.ListFamily
import GuitarTea.ListRings
import GuitarTea.ListRefinement
import GuitarTea.ListLoops
import GuitarTea.ListSplice
import GuitarTea.Poller
import GuitarTea.PollerList
import GuitarTea.Interest
import GuitarTea.InterestCalls
import GuitarTea.Signal
import GuitarTea.SignalPipe
import GuitarTea.SignalSetup
import GuitarTea.InitSystem
import GuitarTea.ServerAddress
import GuitarTea.Network
import GuitarTea.DatanetStream
import GuitarTea.Connections
import GuitarTea.SetupLeaks
import GuitarTea.Errno
import GuitarTea.EpollWait
import GuitarTea.Ownership
import GuitarTea.Sharding
import GuitarTea.LogFile
import GuitarTea.Spinlock
import GuitarTea.LockWithVal
import GuitarTea.CriticalSections
import GuitarTea.Startup
import GuitarTea.Barrier
import GuitarTea.DatanetInit
import GuitarTea.Gettid
import GuitarTea.Threads
import GuitarTea.ThreadOwnership
import GuitarTea.ElistWrites
import GuitarTea.Handover
import GuitarTea.Confinement
import GuitarTea.BatchDispatch
import GuitarTea.MemorySafety
import GuitarTea.WaitFree
import GuitarTea.ServingWorld
import GuitarTea.SerialView
import GuitarTea.SerialSteps
import GuitarTea.Serialization
import GuitarTea.ServerLog
import GuitarTea.BootSteps
import GuitarTea.BootServing
