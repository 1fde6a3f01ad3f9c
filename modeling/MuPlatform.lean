import MuPlatform.Base.Runs
import MuPlatform.Base.LinkedList
import MuPlatform.Base.Ledger
import MuPlatform.Base.Program
import MuPlatform.Base.Custody
import MuPlatform.Base.Milestones
import MuPlatform.Base.Span
import MuPlatform.Base.Access
import MuPlatform.Base.ByteStore
import MuPlatform.Base.OnesComplement
import MuPlatform.Base.ByteFile
import MuPlatform.Base.Arc
import MuPlatform.Efi.Status
import MuPlatform.Efi.Sequence
import MuPlatform.Efi.Arch
import MuPlatform.Efi.Pages
import MuPlatform.SdMmc.Hw
import MuPlatform.SdMmc.Protocol
import MuPlatform.SdMmc.BlockIo
import MuPlatform.SdMmc.SpanValidation
import MuPlatform.SdMmc.Instance
import MuPlatform.SdMmc.Commands
import MuPlatform.SdMmc.Reset
import MuPlatform.SdMmc.Steps
import MuPlatform.SdMmc.Recovery
import MuPlatform.SdMmc.Rpmb
import MuPlatform.SdMmc.Invariant
import MuPlatform.SdMmc.Pool
import MuPlatform.SdMmc.CardPartition
import MuPlatform.SdMmc.ScriptedCard
import MuPlatform.SdMmc.CardPresence
import MuPlatform.SdMmc.Publication
import MuPlatform.SdMmc.ResetOutcome
import MuPlatform.SdMmc.StopTransmission
import MuPlatform.SdMmc.Success
import MuPlatform.SdMmc.MediaChange
import MuPlatform.SdMmc.DriverStop
import MuPlatform.SdMmc.DriverStart
import MuPlatform.SdMmc.FaultyStorage
import MuPlatform.SdMmc.Storage
import MuPlatform.SdMmc.Addressing
import MuPlatform.SdMmc.ChunkLoop
import MuPlatform.SdMmc.WaitForTran
import MuPlatform.SdMmc.Escalation
import MuPlatform.SdMmc.Capacity
import MuPlatform.SdMmc.RpmbSequence
import MuPlatform.SdMmc.TransferLimits
import MuPlatform.SdMmc.NotedPartition
import MuPlatform.SdMmc.RpmbTransfers
import MuPlatform.Optee.Mem
import MuPlatform.Optee.MemInvariant
import MuPlatform.Optee.MemOutcomes
import MuPlatform.Optee.Msg
import MuPlatform.Optee.Rpc
import MuPlatform.Optee.GetTime
import MuPlatform.Optee.ShmCommands
import MuPlatform.Optee.Smc
import MuPlatform.Optee.Leaks
import MuPlatform.Optee.Sessions
import MuPlatform.Optee.SharedMemory
import MuPlatform.Optee.SubmitCommand
import MuPlatform.Optee.LoadTa
import MuPlatform.Optee.RpmbBuffers
import MuPlatform.AuthVar.Variables
import MuPlatform.AuthVar.IdealTa
import MuPlatform.AuthVar.VariableMap
import MuPlatform.AuthVar.SecureBoot
import MuPlatform.AuthVar.Enumeration
import MuPlatform.AuthVar.ServiceCalls
import MuPlatform.AuthVar.Lifecycle
import MuPlatform.AuthVar.Initialization
import MuPlatform.AuthVar.Requests
import MuPlatform.AuthVar.BufferSizes
import MuPlatform.AuthVar.Replies
import MuPlatform.AuthVar.PolicyLog
import MuPlatform.BootMonFs.Hw
import MuPlatform.BootMonFs.Checksum
import MuPlatform.BootMonFs.Volume
import MuPlatform.BootMonFs.Images
import MuPlatform.BootMonFs.OpenClose
import MuPlatform.BootMonFs.Flush
import MuPlatform.BootMonFs.ReadWrite
import MuPlatform.BootMonFs.Calls
import MuPlatform.BootMonFs.Description
import MuPlatform.BootMonFs.Layout
import MuPlatform.BootMonFs.Overlap
import MuPlatform.BootMonFs.Contents
import MuPlatform.BootMonFs.ReadAfterWrite
import MuPlatform.BootMonFs.Session
import MuPlatform.BootMonFs.Remount
import MuPlatform.BootMonFs.Loader
import MuPlatform.BootMonFs.FlushDirectory
import MuPlatform.BootMonFs.Address
import MuPlatform.BootMonFs.ImageLength
import MuPlatform.BootMonFs.FreeSpace
import MuPlatform.BootMonFs.SetInfo
import MuPlatform.BootMonFs.Rename
import MuPlatform.BootMonFs.Discover
import MuPlatform.BootMonFs.Directory
import MuPlatform.BootMonFs.InfoAccess
import MuPlatform.BootMonFs.Paths
import MuPlatform.BootMonFs.Delete
import MuPlatform.BootMonFs.Interrupted
import MuPlatform.BootMonFs.FailedFlush
import MuPlatform.BootMonFs.DriverBinding
import MuPlatform.BdsLib.DevicePath
import MuPlatform.BdsLib.LoadOption
import MuPlatform.BdsLib.RoundTrip
import MuPlatform.BdsLib.BootOrder
import MuPlatform.BdsLib.ParseSafety
import MuPlatform.BdsLib.Tftp
import MuPlatform.BdsLib.Progress
import MuPlatform.FdtPlatform.DumpFdt
import MuPlatform.FdtPlatform.Install
import MuPlatform.FdtPlatform.Sources
import MuPlatform.BdsLib.LoadImage
import MuPlatform.RunAxf.Elf
import MuPlatform.RunAxf.LoadList
import MuPlatform.RunAxf.Malformed
import MuPlatform.Base.Terminated
import MuPlatform.FastBoot.PartitionTable
import MuPlatform.FastBoot.FlashPartition
import MuPlatform.FastBoot.ShortLabels
import MuPlatform.RunAxf.Shutdown
