import Webmesh.Store
import Webmesh.Mesh.Observer
import Webmesh.Mesh.HeartbeatPurge
import Webmesh.Mesh.PeerEvents
import Webmesh.Net.Netip
import Webmesh.Net.Addr
import Webmesh.Net.RoundTrip
import Webmesh.Net.Prefix
import Webmesh.Services.Join
import Webmesh.Services.JoinSpec
import Webmesh.Services.JoinUpsert
import Webmesh.Services.JoinRetry
import Webmesh.Services.JoinPorts
import Webmesh.Services.JoinReject
import Webmesh.Go.Runtime
import Webmesh.Go.Text
import Webmesh.Datachannels.Proxy
import Webmesh.Datachannels.Setup
import Webmesh.Campfire
import Webmesh.Util.IfaceNetwork
import Webmesh.Routes.Windows
import Webmesh.State
import Webmesh.Services.Admin
import Webmesh.Services.MeshDNS
