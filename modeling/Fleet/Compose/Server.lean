/-
# The document of a VPN server

A server's own document with its peers: WireGuard servers list them in their first interface, VXLAN
servers in a file of their own.
-/
import Fleet.Document.Merge
import Fleet.Document.Schema
import Fleet.Record.Vpn

namespace Fleet

/-! ## Peers -/

/-- The address of a peer as the only one of its network. -/
def Peer.network (p : Peer) : String :=
  p.address.render ++ (if p.address.isV4 then "/32" else "/128")

/-- The entry of a peer that has a public key in a WireGuard interface. -/
def Peer.wireguardEntry? (p : Peer) : Option Json :=
  p.publicKey.map fun key =>
    .object [("allowed_ips", .string p.network), ("public_key", .string key)]

/-- The entry of a peer in the file of VXLAN peers. -/
def Peer.vxlanEntry (server : VpnServer) (p : Peer) : Json :=
  Json.ofMembers (
    ("vni", ((p.vni.or server.fixedVni?).map Json.ofNat).getD .null) ::
    ("remote", .string p.address.render) ::
    (server.vxlanInterface?.map fun name => ("interface", Json.string name)).toList)

namespace VpnServer

/-! ## The two kinds of peer lists -/

/-- A WireGuard interface with its peers and the private key of the server. -/
def withPeers (server : VpnServer) (peers : List Peer) : Json → Option Json
  | .object members =>
    let members := Assoc.insert "peers" (.array (peers.filterMap Peer.wireguardEntry?)) members
    some (.object (
      match server.privateKey with
      | some key => Assoc.insert "private_key" (.string key) members
      | none => members))
  | _ => none

/-- Lists the peers in the first WireGuard interface, which the document must have. -/
def addWireguardPeers (server : VpnServer) (peers : List Peer) (document : Json) :
    Except Error Json :=
  match document.updateAt? (server.withPeers peers) ["wireguard", "0"] with
  | some document => .ok document
  | none => Json.violation "/wireguard/0" "WireGuard server document needs an interface"

/-- The file of VXLAN peers. -/
def peersFile (server : VpnServer) (peers : List Peer) : Json :=
  .object [
    ("contents", .string ((Json.array (peers.map (Peer.vxlanEntry server))).renderPretty 4)),
    ("mode", .string "0644"),
    ("path", .string "vxlan.json")]

/-! ## The document -/

/-- The document of a server with its peers. -/
def compose (server : VpnServer) (peers : List Peer) : Except Error Json := do
  let document ←
    if server.family.usesWireguard then server.addWireguardPeers peers server.document
    else .ok server.document
  let document :=
    if server.family.usesVxlan then
      document.merge (.object [("files", .array [server.peersFile peers])])
    else document
  document.validate
  return document

/-- The canonical text of the document. -/
def render (server : VpnServer) (peers : List Peer) : Except Error String :=
  (server.compose peers).map Json.render

end VpnServer

end Fleet
