import Webmesh.Services.JoinUpsert

/-!
# Ports

`Join` copies the request's `int32` ports into the node's record with `int(...)` and checks
none of them. They come back out in two places. The raft transport address ends in
`strconv.Itoa(peer.RaftPort)`. Each peer of the response has its endpoints printed with
`uint16(peer.WireguardPort)`, which is the stored port only when that port lies in
`0..65535`. A port outside that range is stored as sent, and the printed endpoints then
carry it modulo `2^16`.
-/

namespace Webmesh.Services

variable {Addr Prefix Key : Type} (srv : Server Addr Prefix Key)

end Webmesh.Services
