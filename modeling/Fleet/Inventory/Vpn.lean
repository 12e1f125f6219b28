/-
# Servers and memberships in the inventory

VPN servers are added and replaced, devices join and leave them.  Where clients need tunnel ids of
their own, joining reserves the one that is asked for or takes the next that is free.
-/
import Fleet.Inventory.Basic

namespace Fleet.Inventory

/-! ## Servers -/

/-- Adds a VPN server. -/
def insertServer (inv : Inventory) (server : VpnServer) : Except Error Inventory := do
  Identity.checkServerId server.id
  if inv.servers.contains server.id then .error (.alreadyExists .vpnServer server.id.text)
  else
    server.validate
    return { inv with servers := inv.servers.insert server.id server }

/-- Replaces a VPN server; gives the previous one. -/
def replaceServer (inv : Inventory) (server : VpnServer) :
    Except Error (VpnServer × Inventory) := do
  server.validate
  let previous ← inv.server server.id
  return (previous, { inv with servers := inv.servers.insert server.id server })

/-! ## Memberships -/

/-- The tunnel id of a new client and the ids handed out with it. -/
def tunnelIdFor (inv : Inventory) (server : VpnServer) (client : VpnClient) (maxTunnelId : Nat) :
    Except Error (Option Nat × TunnelIds) :=
  if server.usesTunnelIds then
    let inUse := (inv.clientsOn client.server).filterMap VpnClient.vni
    match client.vni with
    | some id =>
      (inv.tunnelIds.reserve client.server id inUse maxTunnelId).map fun ids => (some id, ids)
    | none =>
      (inv.tunnelIds.allocate client.server inUse maxTunnelId).map fun (id, ids) => (some id, ids)
  else .ok (none, inv.tunnelIds)

/-- Adds a membership; gives it as it is stored. -/
def insertClient (inv : Inventory) (client : VpnClient) (maxTunnelId : Nat) :
    Except Error (VpnClient × Inventory) := do
  let _ ← inv.configuration client.device
  let server ← inv.server client.server
  match inv.client? client.device client.server with
  | some _ => .error (.duplicateClient client.device client.server)
  | none =>
    let (vni, tunnelIds) ← inv.tunnelIdFor server client maxTunnelId
    let stored := { client with vni }
    return (stored, { inv with clients := inv.clients ++ [stored], tunnelIds })

/-- Removes the membership of a device in a server; gives it if there was one. -/
def removeClient (inv : Inventory) (device : DeviceId) (server : ServerId) :
    Option VpnClient × Inventory :=
  match inv.client? device server with
  | some client =>
    (some client,
      { inv with clients := inv.clients.eraseP fun c => c.device == device && c.server == server })
  | none => (none, inv)

/-- Removes the memberships of a device in some servers; gives those there were. -/
def removeClients (inv : Inventory) (device : DeviceId) :
    List ServerId → List VpnClient × Inventory
  | [] => ([], inv)
  | server :: rest =>
    let (client, inv) := inv.removeClient device server
    let (clients, inv) := removeClients inv device rest
    (client.toList ++ clients, inv)

/-- Removes every membership of a device; gives them. -/
def removeClientsOf (inv : Inventory) (device : DeviceId) : List VpnClient × Inventory :=
  (inv.clientsOf device, { inv with clients := inv.clients.filter fun c => c.device != device })

end Fleet.Inventory
