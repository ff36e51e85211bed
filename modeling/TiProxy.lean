import TiProxy.Lib.Count
import TiProxy.Lib.Transition
import TiProxy.Lib.GoNet
import TiProxy.Balance.Observer
import TiProxy.Balance.Router
import TiProxy.Balance.RouterInvariant
import TiProxy.Lib.LittleEndian
import TiProxy.Net.Packet
import TiProxy.Net.ForwardUntil
import TiProxy.Net.Interface
import TiProxy.Backend.AuthRelay
import TiProxy.Replay.Dispatch
import TiProxy.Replay.PendingCmds
import TiProxy.Net.Command
import TiProxy.Util.Lex
import TiProxy.Capture.Capture
import TiProxy.Capture.Pipeline
import TiProxy.Capture.Shape
import TiProxy.Lib.Codes
import TiProxy.Net.Compress
import TiProxy.Proxy.ProxyProtocol
import TiProxy.Lib.Packing
import TiProxy.Balance.Factor
import TiProxy.Balance.Factors
import TiProxy.Balance.SetFactors
import TiProxy.Balance.Priority
import TiProxy.Balance.Reachable
import TiProxy.Lib.GoBytes
import TiProxy.Net.Protocol
import TiProxy.Net.HandshakeResp
import TiProxy.Util.Logger
import TiProxy.Replay.Cmd
import TiProxy.Balance.HealthUpdate
import TiProxy.Util.Errors
import TiProxy.Backend.ErrorSource
import TiProxy.Lib.BitSet
import TiProxy.Net.InitialHandshake
import TiProxy.Backend.Authenticator
import TiProxy.Backend.ConnManager
import TiProxy.Backend.ConnEvents
import TiProxy.Balance.OwnerKeys
import TiProxy.Manager.Election
import TiProxy.Replay.Shutdown
import TiProxy.Net.ExecuteStmt
import TiProxy.Net.CompressedPacket
import TiProxy.Net.PacketExchange
import TiProxy.Lib.ExceptState
import TiProxy.Backend.CmdExec
import TiProxy.Lib.GoIO
import TiProxy.Util.BufioReader
import TiProxy.Util.BufioWriter
import TiProxy.Net.BasicReadWriter
import TiProxy.Net.BufferedPacket
import TiProxy.Net.BufferedForward
