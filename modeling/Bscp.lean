import Bscp.Script
import Bscp.Session
import Bscp.Python
import Bscp.Machine
import Bscp.Transaction
import Bscp.Lines
import Bscp.Json
import Bscp.Processes
import Bscp.Lifecycle.BoundOwner
import Bscp.Lifecycle.BoundOwnerSafety
import Bscp.Lifecycle.AuditOwner
import Bscp.Lifecycle.ComputeProtocol
import Bscp.Lifecycle.Supervise
import Bscp.Lifecycle.SuperviseOutcome
import Bscp.Lifecycle.SupervisePhases
import Bscp.Lifecycle.Retention
import Bscp.Lifecycle.NativeOwner
import Bscp.Lifecycle.ClaimProtocol
import Bscp.Lifecycle.ClaimSafety
import Bscp.Lifecycle.ClaimFailure
import Bscp.Lifecycle.LinuxService
import Bscp.Lifecycle.LinuxServiceSafety
import Bscp.Lifecycle.HostTrace
import Bscp.Lifecycle.EndpointHost
import Bscp.Lifecycle.EndpointEvidence
import Bscp.Lifecycle.PayloadEvidence
import Bscp.Virtmgr.VmInstance
import Bscp.Virtmgr.VmLifecycle
import Bscp.Virtmgr.VmExit
import Bscp.Virtmgr.VmRegistration
import Bscp.Virtmgr.VmTeardown
import Bscp.Virtmgr.LinuxKill
import Bscp.Virtmgr.VmPayload
import Bscp.Virtmgr.HostService
import Bscp.Virtmgr.HostServiceSafety
import Bscp.LocalRpc.Channel
import Bscp.LocalRpc.ChannelSafety
import Bscp.LocalRpc.ChannelDelivery
import Bscp.LocalRpc.Bootstrap
import Bscp.LocalRpc.BootstrapServer
import Bscp.LocalRpc.BootstrapClient
import Bscp.LocalRpc.BootstrapEvidence
import Bscp.LocalRpc.BootstrapSafety
import Bscp.LocalRpc.ReceivedPacket
import Bscp.LocalRpc.Transport
import Bscp.LocalRpc.TransportRecord
import Bscp.LocalRpc.TransportRead
import Bscp.LocalRpc.TransportSafety
import Bscp.LocalRpc.PacketCodec
import Bscp.LocalRpc.PacketCodecRoundTrip
import Bscp.LocalRpc.TransportWrite
import Bscp.LocalRpc.TransportWriteSafety
import Bscp.Framing
import Bscp.LocalRpc.PipeFrame
import Bscp.LocalRpc.PipeFrameSafety
import Bscp.Virtmgr.NdrServer
import Bscp.Virtmgr.NdrServerSafety
import Bscp.Virtmgr.NdrOwner
import Bscp.Virtmgr.NdrOwnerSafety
import Bscp.LocalRpc.PipeRegistry
import Bscp.LocalRpc.PipeRegistrySafety
import Bscp.Hex
import Bscp.Crosvm.VcpuPower
import Bscp.Crosvm.VcpuPowerSafety
import Bscp.Crosvm.HvfVm
import Bscp.Crosvm.BinderBridge
import Bscp.Crosvm.BinderBridgeFrames
import Bscp.Crosvm.Tube
import Bscp.Crosvm.TubeSafety
import Bscp.Crosvm.PlatformEvent
import Bscp.Crosvm.PlatformEventSafety
import Bscp.Virtmgr.WindowsProcess
import Bscp.Virtmgr.WindowsProcessSafety
import Bscp.LocalRpc.InitialSession
import Bscp.LocalRpc.InitialSessionSafety
import Bscp.Struct
import Bscp.Packets
import Bscp.HostDevices.RadioStubs
import Bscp.HostDevices.ModemFrames
import Bscp.HostDevices.Modem
import Bscp.HostDevices.Sensors
import Bscp.Crc32
import Bscp.ByteFile
import Bscp.Images.AospDisk
import Bscp.Images.Sparse
import Bscp.Images.SparseDecoders
import Bscp.Images.SparseAgreement
import Bscp.DictUpdate
import Bscp.Images.Bootconfig
import Bscp.Images.BootconfigPatch
import Bscp.Crosvm.SignalFd
import Bscp.Crosvm.SignalFdSafety
import Bscp.Regex
import Bscp.Lifecycle.TraceEvidence
import Bscp.Crosvm.HvfRegisters
import Bscp.Crosvm.HvfMmio
import Bscp.Crosvm.DebugRegisters
import Bscp.Crosvm.DebugRegistersSafety
import Bscp.Crosvm.VcpuReset
import Bscp.Argv
import Bscp.Virtmgr.WindowsCommandFaithful
import Bscp.Images.CompositeDisk
import Bscp.Images.BackupTable
import Bscp.WindowsAccess
import Bscp.Virtmgr.PrivateDirectory
import Bscp.WindowsPath
import Bscp.Virtmgr.PartitionPath
import Bscp.Virtmgr.PartitionPathInverse
import Bscp.WriteBehind
import Bscp.Crosvm.EventContext
import Bscp.Crosvm.EventContextSafety
import Bscp.Lifecycle.WindowsRoles
import Bscp.Decimal
import Bscp.Lifecycle.ComputeProtocolGrammar
import Bscp.Lifecycle.ComputeProtocolResponse
import Bscp.Lifecycle.StdinCommands
import Bscp.Lifecycle.SuperviseRequests
import Bscp.Lifecycle.PipeLog
import Bscp.Lifecycle.PipeLogSafety
import Bscp.Lifecycle.PipeLogReceipt
import Bscp.Lifecycle.PipeLogRuns
import Bscp.DictLayers
import Bscp.Lifecycle.CommandEnvironment
import Bscp.Lifecycle.CommandEnvironmentSafety
import Bscp.FreshTree
import Bscp.PurePath
import Bscp.Lifecycle.WindowsLayout
import Bscp.Lifecycle.WindowsLayoutSafety
import Bscp.Align
import Bscp.Crosvm.HvfGicLayout
import Bscp.Virtmgr.SwiotlbEstimate
import Bscp.Virtmgr.DesktopApex
import Bscp.Virtmgr.DesktopApexOrder
