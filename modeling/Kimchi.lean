import Kimchi.Library.UnstableSort
import Kimchi.Library.Multimap
import Kimchi.Library.Machine
import Kimchi.Library.Sessions
import Kimchi.Library.SharedPtr
import Kimchi.Library.Throwing
import Kimchi.Library.Gates
import Kimchi.Library.Narrowing
import Kimchi.Library.FirstHit
import Kimchi.Library.Substring
import Kimchi.ByteString
import Kimchi.Http.Message
import Kimchi.Http.ResponseLanguage
import Kimchi.Config.Models
import Kimchi.Config.Dynamic
import Kimchi.Config.Loader
import Kimchi.Config.FromJson
import Kimchi.Config.LoadedStore
import Kimchi.Policy.JwksCache
import Kimchi.Policy.JwtPolicy
import Kimchi.Policy.JwtAcceptance
import Kimchi.Handler.UpstreamClient
import Kimchi.Handler.UpstreamResponse
import Kimchi.Handler.GatewayHandler
import Kimchi.Handler.ProxiedRequest
import Kimchi.Policy.HttpGet
import Kimchi.Filter.FilterChain
import Kimchi.Filter.TracingHeaders
import Kimchi.Policy.PolicyEngine
import Kimchi.Policy.PolicyOrder
import Kimchi.Policy.ChainGating
import Kimchi.Policy.JwtDecision
import Kimchi.Handler.RoutingTables
import Kimchi.Handler.PrefixTies
import Kimchi.Handler.RouteCandidates
import Kimchi.Handler.GatewayHandlerFactory
import Kimchi.Handler.AdminHandler
import Kimchi.Handler.TerminalHandlers
import Kimchi.Handler.Forwarding
import Kimchi.Handler.ServiceDispatch
import Kimchi.Handler.ServedRequest
import Kimchi.Handler.ContactedTarget
import Kimchi.Server.GatewayServer
import Kimchi.Server.Startup
import Kimchi.Server.FetchedKeySets
import Kimchi.Server.DirectoryOrder
import Kimchi.Server.Process
import Kimchi.Server.StreamTrace
import Kimchi.Server.PlaneRefinement
import Kimchi.Server.StorePointers
import Kimchi.Server.ProcessHistory
import Kimchi.Server.SessionOutputs
import Kimchi.Server.IgnoredSettings
import Kimchi.Server.StuckRequests
import Kimchi.Config.Formats
import Kimchi.Config.WrittenStore
import Kimchi.Library.Aborting
import Kimchi.Server.ConfiguredConnections
import Kimchi.Server.RelayedMessages
import Kimchi.Server.SessionIsolation
import Kimchi.Server.ProxiedSessions
import Kimchi.Server.Quotas
