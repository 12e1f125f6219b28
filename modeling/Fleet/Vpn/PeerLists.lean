/-
# Peer lists

The peers of a VPN server are collected from the records once and then kept.  A client that joins is
appended to a list that is kept; when one leaves, the list is dropped and collected again at the
next look.
-/
import Fleet.Record.Vpn

namespace Fleet

/-- The peer lists that are kept, by server. -/
abbrev PeerLists := SortedMap ServerId (List Peer)

/-- Where peer lists are collected from: nothing for a server that is not known. -/
abbrev PeerSource := ServerId → Option (List Peer)

namespace PeerLists

/-- The peers of a server and the lists that are kept after looking. -/
def peersFor (lists : PeerLists) (source : PeerSource) (server : ServerId) :
    Except Error (List Peer) × PeerLists :=
  match lists.get? server with
  | some peers => (.ok peers, lists)
  | none =>
    match source server with
    | some peers => (.ok peers, lists.insert server peers)
    | none => (.error (.notFound .vpnServer server.text), lists)

/-- Appends a new client to the list of its server, if that is kept and lacks the device. -/
def attach (lists : PeerLists) (client : VpnClient) : PeerLists :=
  match client.peer?, lists.get? client.server with
  | some peer, some peers =>
    if peers.any fun p => p.device == peer.device then lists
    else lists.insert client.server (peers ++ [peer])
  | _, _ => lists

/-- Drops the list of a server. -/
def drop (lists : PeerLists) (server : ServerId) : PeerLists :=
  lists.erase server

/-- Drops the lists of the servers that clients left. -/
def detachAll (lists : PeerLists) (clients : List VpnClient) : PeerLists :=
  clients.foldl (fun lists c => lists.drop c.server) lists

end PeerLists

end Fleet
