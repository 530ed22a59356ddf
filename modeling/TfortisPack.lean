import TfortisPack.Library.BitFlags
import TfortisPack.Library.Runs
import TfortisPack.Autorestart.Requests
import TfortisPack.Autorestart.ResetBudget
import TfortisPack.Autorestart.ScheduledOff
import TfortisPack.Autorestart.DisableBits
import TfortisPack.Autorestart.Escalation
import TfortisPack.Autorestart.Statistics
import TfortisPack.Autorestart.BrokenSchedule
import TfortisPack.Autorestart.ManualReload
import TfortisPack.Autorestart.SpeedTest
import TfortisPack.Autorestart.SpeedLimits
import TfortisPack.Autorestart.Drift
import TfortisPack.Autorestart.ScheduleOutcome
import TfortisPack.Autorestart.ClientInterface
import TfortisPack.Autorestart.CliAgreement
import TfortisPack.Autorestart.DaemonOptions
import TfortisPack.Autorestart.Ping
import TfortisPack.RealtekPoe.Queue
import TfortisPack.RealtekPoe.Polling
import TfortisPack.RealtekPoe.Framing
import TfortisPack.RealtekPoe.UbusMethods
import TfortisPack.RealtekPoe.Reload
import TfortisPack.RealtekPoe.SendframeGrammar
import TfortisPack.DeviceMonitor.Authentication
import TfortisPack.DeviceMonitor.SettingsItems
import TfortisPack.DeviceMonitor.Progress
import TfortisPack.DeviceMonitor.Reloads
import TfortisPack.DeviceMonitor.SplitLine
import TfortisPack.DeviceMonitor.Gateway
import TfortisPack.DeviceMonitor.Quoting
import TfortisPack.Hwsys.Handover
import TfortisPack.Hwsys.RoundTrip
import TfortisPack.Hwsys.DumpSafety
import TfortisPack.Hwsys.GatedMonitors
import TfortisPack.Hwsys.Printing
import TfortisPack.Hwsys.Supervision
import TfortisPack.SnmpAgent.Walk
import TfortisPack.SnmpAgent.Totality
import TfortisPack.VlanCli.Exclusivity
import TfortisPack.VlanCli.PortLists
import TfortisPack.VlanCli.EditTagged
import TfortisPack.VlanCli.CreateDelete
import TfortisPack.Autorestart.IcmpPacket
import TfortisPack.Dkjson.Progress
import TfortisPack.Clish.ShowPackets
import TfortisPack.Mstpd.Commands
import TfortisPack.Mstpd.Network
import TfortisPack.Mstpd.Bpdu
import TfortisPack.RealtekPoe.Dialects
import TfortisPack.Clish.StpPorts
import TfortisPack.Clish.IgmpTimers
import TfortisPack.Clish.SntpServers
import TfortisPack.Clish.LogRules
