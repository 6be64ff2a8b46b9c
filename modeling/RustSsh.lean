import RustSsh.Theory.Run
import RustSsh.Theory.Oneshot
import RustSsh.Theory.Ownership
import RustSsh.Protocol.Message
import RustSsh.Server.Auth
import RustSsh.Server.Control
import RustSsh.Server.Relay
import RustSsh.Server.Step
import RustSsh.Server.Rules
import RustSsh.Server.Senders
import RustSsh.Server.Quota
import RustSsh.Server.Registry
import RustSsh.Server.Authority
import RustSsh.Server.Matching
import RustSsh.Server.Pending
import RustSsh.Noise.Stream
import RustSsh.Noise.Link
import RustSsh.Noise.Attack
import RustSsh.Protocol.Frame
import RustSsh.Session.Connection
import RustSsh.Session.Handover
import RustSsh.Agent.Control
import RustSsh.Channel.Lane
import RustSsh.Channel.Step
import RustSsh.Channel.Integrity
import RustSsh.Agent.Supervisor
import RustSsh.Agent.Stop
import RustSsh.Theory.Roster
import RustSsh.Agent.Sessions
import RustSsh.Server.Cleanup
import RustSsh.Agent.Heartbeat
import RustSsh.Noise.Contract
import RustSsh.Desktop.SshText
import RustSsh.Desktop.SshBlock
import RustSsh.Desktop.SshTable
import RustSsh.Desktop.SshFile
import RustSsh.Server.TokenFiles
import RustSsh.Pairing.Bootstrap
import RustSsh.Server.AddDevice
import RustSsh.Theory.Json
import RustSsh.Pairing.Wire
import RustSsh.Desktop.ClientSettings
import RustSsh.Pairing.Provisioning
import RustSsh.Protocol.Serde
import RustSsh.Server.Replies
import RustSsh.Desktop.Reconfigure
import RustSsh.Desktop.HostAlias
import RustSsh.Pairing.Codes
import RustSsh.Protocol.Stream
import RustSsh.Server.TokenDirectory
import RustSsh.Server.DeviceList
import RustSsh.Desktop.ClientStore
import RustSsh.Desktop.ProxyCommand
import RustSsh.Server.Identity
import RustSsh.Server.SessionId
import RustSsh.Bridge.StdinStdout
import RustSsh.Noise.Handshake
import RustSsh.Session.Installation
import RustSsh.Agent.Reconnect
import RustSsh.Desktop.ClientApp
import RustSsh.Desktop.PrivateFile
import RustSsh.Desktop.ProxyArgs
import RustSsh.Theory.SshConfig
import RustSsh.Desktop.SshHost
import RustSsh.Server.Reload
import RustSsh.Server.Answers
import RustSsh.Desktop.ConnectApp
