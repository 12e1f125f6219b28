/-
# VPN servers and their clients

A VPN server has a tunnel family, which is read off the name of its backend, and clients: the
memberships of devices.
-/
import Fleet.Error
import Fleet.IpAddress
import Fleet.Json.Basic

namespace Fleet

/-! ## Tunnel families -/

/-- The protocols of tunnels. -/
inductive TunnelFamily where
  /-- A protocol without a list of peers. -/
  | other
  /-- A WireGuard mesh. -/
  | wireguard
  /-- VXLAN. -/
  | vxlan
  /-- VXLAN carried over WireGuard. -/
  | vxlanOverWireguard
  deriving DecidableEq

namespace TunnelFamily

/-- Whether a text occurs in another. -/
def occurs (part : List Char) : List Char → Bool
  | [] => part.isEmpty
  | c :: rest => part.isPrefixOf (c :: rest) || occurs part rest

/-- The family of a backend: whether its name has the protocols' names in it, in either case. -/
def classify (backend : String) : TunnelFamily :=
  let lower := backend.toList.map Char.toLower
  match occurs "wireguard".toList lower, occurs "vxlan".toList lower with
  | true, true => vxlanOverWireguard
  | true, false => wireguard
  | false, true => vxlan
  | false, false => other

/-- The name of the family. -/
def name : TunnelFamily → String
  | other => "other"
  | wireguard => "wireguard"
  | vxlan => "vxlan"
  | vxlanOverWireguard => "vxlan-wireguard"

/-- Whether the server's document lists WireGuard peers. -/
def usesWireguard : TunnelFamily → Bool
  | wireguard | vxlanOverWireguard => true
  | _ => false

/-- Whether peers are told apart by tunnel ids. -/
def usesVxlan : TunnelFamily → Bool
  | vxlan | vxlanOverWireguard => true
  | _ => false

/-- Whether the server has a list of peers. -/
def isMesh (f : TunnelFamily) : Bool :=
  f != other

end TunnelFamily

/-! ## Servers -/

/-- A VPN server that devices may join. -/
structure VpnServer where
  /-- The identifier. -/
  id : ServerId
  /-- The name shown to operators. -/
  name : String
  /-- The owner; without one the server is shared by all. -/
  organization : Option OrgId
  /-- The backend, whose name tells the tunnel family. -/
  backend : Backend
  /-- The server's own document. -/
  document : Json
  /-- The host that clients connect to. -/
  host : String
  /-- The public key. -/
  publicKey : Option String
  /-- The private key, which goes into the server's document. -/
  privateKey : Option String
  /-- The address inside the tunnel. -/
  ipAddress : Option IpAddress
  deriving DecidableEq

namespace VpnServer

/-- The tunnel family. -/
def family (s : VpnServer) : TunnelFamily :=
  .classify s.backend.text

/-- The tunnel id that all clients share, if the document of a VXLAN server fixes one. -/
def fixedVni? (s : VpnServer) : Option Nat :=
  if s.family.usesVxlan then
    ((s.document.at? ["vxlan", "0", "vni"]).bind Json.nat?).filter (· < UInt32.size)
  else none

/-- The name of the VXLAN interface. -/
def vxlanInterface? (s : VpnServer) : Option String :=
  (s.document.at? ["vxlan", "0", "name"]).bind Json.text?

/-- The port on which WireGuard listens. -/
def wireguardPort? (s : VpnServer) : Option Nat :=
  (s.document.at? ["wireguard", "0", "port"]).bind Json.nat?

/-- Whether each client needs a tunnel id of its own. -/
def usesTunnelIds (s : VpnServer) : Bool :=
  s.family.usesVxlan && s.fixedVni?.isNone

/-- Equality of servers, with their documents compared as values. -/
def same (s t : VpnServer) : Bool :=
  s.document.same t.document && { s with document := t.document } == t

/-- Checks that the document is an object. -/
def validate (s : VpnServer) : Except Error Unit :=
  if s.document.isObject then .ok () else .error (.documentNotObject s.id.text)

end VpnServer

/-! ## Clients -/

/-- The membership of a device in a VPN server. -/
structure VpnClient where
  /-- The member. -/
  device : DeviceId
  /-- The server. -/
  server : ServerId
  /-- The public key. -/
  publicKey : Option String
  /-- The private key, which the device's variables show. -/
  privateKey : Option String
  /-- The address inside the tunnel. -/
  address : Option IpAddress
  /-- The tunnel id. -/
  vni : Option Nat
  /-- Whether the client is advertised as a peer. -/
  autoProvisioned : Bool
  deriving DecidableEq

/-- A membership together with the server it belongs to. -/
structure VpnAttachment where
  /-- The server. -/
  server : VpnServer
  /-- The membership. -/
  client : VpnClient
  deriving DecidableEq

/-! ## Peers -/

/-- An endpoint that a VPN server advertises. -/
structure Peer where
  /-- The member. -/
  device : DeviceId
  /-- The public key. -/
  publicKey : Option String
  /-- The address inside the tunnel. -/
  address : IpAddress
  /-- The tunnel id. -/
  vni : Option Nat
  deriving DecidableEq

/-- The peer that a client is advertised as: none if it is managed by hand or has no address. -/
def VpnClient.peer? (c : VpnClient) : Option Peer :=
  if c.autoProvisioned then
    c.address.map fun address => ⟨c.device, c.publicKey, address, c.vni⟩
  else none

end Fleet
