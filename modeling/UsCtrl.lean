import UsCtrl.Foundation.History
import UsCtrl.Foundation.WrapClock
import UsCtrl.Foundation.PollTimer
import UsCtrl.Foundation.FirstMatch
import UsCtrl.Foundation.CrcRegister
import UsCtrl.Foundation.RecordStore
import UsCtrl.Foundation.FrameStream
import UsCtrl.Foundation.Sojourn
import UsCtrl.Config
import UsCtrl.WeldFsm
import UsCtrl.PanelFsms
import UsCtrl.RemoteFsms
import UsCtrl.ModbusCore
import UsCtrl.State
import UsCtrl.Regulation
import UsCtrl.Panel
import UsCtrl.PanelComm
import UsCtrl.Press
import UsCtrl.Modbus
import UsCtrl.Ethernet
import UsCtrl.Superloop
import UsCtrl.WarmUp
import UsCtrl.RemoteLink
import UsCtrl.RunGate
import UsCtrl.Handlers
import UsCtrl.ModbusPass
import UsCtrl.PressSpecs
import UsCtrl.RegSpecs
import UsCtrl.Owners
import UsCtrl.Coherence
import UsCtrl.RunEvents
import UsCtrl.HornMode
import UsCtrl.EstopDominance
import UsCtrl.RunLimits
import UsCtrl.ModbusBlind
import UsCtrl.ApplyPoint
import UsCtrl.WriteEffect
import UsCtrl.ClosedGate
import UsCtrl.CommSettings
import UsCtrl.Staging
import UsCtrl.StagedReadBack
import UsCtrl.HoldSession
import UsCtrl.StaleStatus
import UsCtrl.CommitRunning
import UsCtrl.StartGate
import UsCtrl.Recovery
import UsCtrl.WeldCycle
import UsCtrl.BlindWeld
import UsCtrl.WeldDwell
import UsCtrl.WeldDeadline
import UsCtrl.ModbusBuffers
import UsCtrl.ModbusSlave
import UsCtrl.MbapTransport
import UsCtrl.ConfigImage
import UsCtrl.FirstBoot
import UsCtrl.TcpStream
import UsCtrl.Desk
import UsCtrl.StoredFields
import UsCtrl.FieldSource
import UsCtrl.ReadFault
import UsCtrl.Lease
import UsCtrl.ConfigSteps
import UsCtrl.CyclePot
import UsCtrl.PanelRollback
import UsCtrl.WeldTrace
import UsCtrl.WeldLengths
import UsCtrl.Screen
import UsCtrl.WarningPage
import UsCtrl.SetupExit
import UsCtrl.ConfigRanges
import UsCtrl.PanelSaves
import UsCtrl.PanelShadows
import UsCtrl.StageTimes
import UsCtrl.PortOwnership
import UsCtrl.HornExclusion
import UsCtrl.SolenoidPin
import UsCtrl.Commanded
import UsCtrl.RunKey
import UsCtrl.Foundation.Mealy
import UsCtrl.ModeLatch
import UsCtrl.InputEdges
import UsCtrl.SignalChain
import UsCtrl.OscInit
import UsCtrl.CrcDetection
import UsCtrl.DgusParser
import UsCtrl.DgusPolls
import UsCtrl.DgusDelivery
import UsCtrl.TwoHand
import UsCtrl.TiedKeys
import UsCtrl.FreqBatches
import UsCtrl.UsartRing
import UsCtrl.RtuFrames
import UsCtrl.Foundation.Decimal
import UsCtrl.AddressBytes
import UsCtrl.IpEntry
import UsCtrl.NoField
import UsCtrl.RunEnergy
import UsCtrl.CurrentPower
import UsCtrl.PanelText
import UsCtrl.LongPress
import UsCtrl.PanelVars
import UsCtrl.PanelEcho
import UsCtrl.CurrentFilter
import UsCtrl.EtherBuffer
import UsCtrl.EtherRuns
import UsCtrl.Foundation.LastWrite
import UsCtrl.PanelView
import UsCtrl.Terminal
import UsCtrl.PanelPage
import UsCtrl.PanelLamps
import UsCtrl.PanelBars
import UsCtrl.SideOutputs
import UsCtrl.Foundation.Countdown
import UsCtrl.Alarm
import UsCtrl.PowerCycle
import UsCtrl.DgusWriters
import UsCtrl.PanelWire
import UsCtrl.Foundation.FuelLoop
import UsCtrl.LcdBoot
import UsCtrl.DhcpClient
import UsCtrl.DhcpMessages
import UsCtrl.DhcpRuns
import UsCtrl.DhcpBuffer
import UsCtrl.LeaseTimes
import UsCtrl.EtherBoard
import UsCtrl.NetSettings
