import K1801.Library.Program
import K1801.Library.Effects
import K1801.Library.Triple
import K1801.Library.Best
import K1801.Library.ByteFile
import K1801.Core.State
import K1801.Core.Psw
import K1801.Core.Registers
import K1801.Core.Mmu
import K1801.Core.Micro
import K1801.Core.Memory
import K1801.Core.Traps
import K1801.Core.Effects
import K1801.Core.Operand
import K1801.Core.Decode
import K1801.Core.Alu
import K1801.Core.Fp11
import K1801.Core.Execute
import K1801.Core.InstrEffects
import K1801.Core.Step
import K1801.Core.StepEffects
import K1801.Core.Frames
import K1801.Core.TrapEntry
import K1801.Core.Hwstub
import K1801.Core.FaultLatch
import K1801.Core.FastPath
import K1801.Core.Banking
import K1801.Core.AbortAtomicity
import K1801.Core.Confinement
import K1801.Core.CopyRegisters
import K1801.Lsi11.BusBounds
import K1801.Lsi11.IrqPriority
import K1801.Lsi11.IrqDelivery
import K1801.Lsi11.Dma
import K1801.Lsi11.Tap
import K1801.Lsi11.TapObjects
import K1801.Lsi11.TapRoundTrip
import K1801.Lsi11.Tq11
import K1801.Lsi11.TapPosition
import K1801.Lsi11.Tq11Position
import K1801.Library.Extents
import K1801.Tools.Rt11fs
import K1801.Tools.Rt11Calls
import K1801.Tools.Rt11Directory
import K1801.Tools.Rt11Squeeze
import K1801.Tools.Rt11Fsck
import K1801.Tools.Rt11Entries
import K1801.Tools.Rt11Mkfs
import K1801.Tools.Rt11Consistency
import K1801.Tools.Rt11Volume
import K1801.Library.Buffer
import K1801.Library.DiskFile
import K1801.Tools.Rsx11Calls
import K1801.Tools.Rsx11Update
import K1801.Tools.Rsx11Mkfs
import K1801.Tools.Rsx11Blocks
import K1801.Tools.Rsx11Fsck
import K1801.Tools.Rsx11Directory
import K1801.Tools.Rsx11Headers
import K1801.Lsi11.IrqMasking
import K1801.Core.Eis
import K1801.Core.Dispatch
import K1801.Core.FisNumbers
import K1801.Core.PreviousStack
import K1801.Core.ResultOps
import K1801.Core.ExplicitPsw
import K1801.Library.Wraparound
import K1801.Core.AluExact
import K1801.Core.IntegerExact
import K1801.Library.BoundedQueue
import K1801.Lsi11.Dz11
import K1801.Lsi11.Dz11Receive
import K1801.Library.EventRun
import K1801.Lsi11.Dz11Session
import K1801.Core.IrqTermination
import K1801.Core.IrqSpin
import K1801.Core.Refusal
import K1801.Core.OperandRefusal
import K1801.Core.InstrRefusal
import K1801.Core.RegisterViews
import K1801.Library.SectorBuffer
import K1801.Lsi11.WordDma
import K1801.Lsi11.IrqLatch
import K1801.Lsi11.Rk11
import K1801.Library.SplitAddress
import K1801.Library.WordMoves
import K1801.Lsi11.Rk11Transfer
import K1801.Lsi11.Rk11Exact
import K1801.Lsi11.Xp
import K1801.Lsi11.XpStatus
import K1801.Lsi11.LatchEffects
import K1801.Lsi11.XpLatch
import K1801.Lsi11.XpCommand
import K1801.Lsi11.CommandLatch
import K1801.Lsi11.Rh11
import K1801.Lsi11.Rh11Latch
import K1801.Lsi11.Rh11Command
import K1801.Lsi11.CommandIntegrity
import K1801.Lsi11.Rl11
import K1801.Lsi11.Dl11
import K1801.Lsi11.IrqDiscipline
import K1801.Lsi11.DiskInterrupts
import K1801.Lsi11.XpBytes
import K1801.Lsi11.Kw11
import K1801.Lsi11.Kw11Polls
import K1801.Mk90.Rtc
import K1801.Mk90.RtcCalendar
import K1801.Uj11.Alu
import K1801.Uj11.Datapath
import K1801.Lsi11.Dz11Lines
import K1801.Core.TimerFrame
import K1801.Library.DownCounter
import K1801.Core.TimerPeriod
import K1801.Library.WordList
import K1801.Uj11.ModuleImage
import K1801.Uj11.ModuleFields
import K1801.Uj11.ModuleRoundTrip
import K1801.Uj11.ModulePlacement
import K1801.Library.BitFields
import K1801.Uj11.Microasm
import K1801.Uj11.Microseq
import K1801.Uj11.MicroasmLines
import K1801.Uj11.WordFields
import K1801.Uj11.MicrocodeClosure
import K1801.Uj11.EngineFields
import K1801.Uj11.WordFormat
import K1801.Library.Padding
import K1801.Tools.Rt11Names
import K1801.Tools.Rsx11RoundTrip
import K1801.Tools.Rsx11FileNumbers
import K1801.Library.Runs
import K1801.Tools.Rsx11Allocation
import K1801.Tools.Rt11Bounds
import K1801.Library.Access
import K1801.Tools.Rsx11Bounds
import K1801.Tools.Rt11Add
import K1801.Tools.Rt11SqueezeFailure
import K1801.Mk90.Memory
import K1801.Mk90.MemoryRoutes
import K1801.Bk.Tape
import K1801.Bk.Board
import K1801.Bk.Playback
import K1801.Mk90.Cartridges
import K1801.Library.SlotRing
import K1801.Lsi11.DmaCells
import K1801.Lsi11.Rq11
import K1801.Lsi11.Rq11Conversation
