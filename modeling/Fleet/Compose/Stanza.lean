/-
# Tunnel stanzas

What a VPN template adds to the configuration of a device that joined its server: an entry
in the list of tunnels with the server, the tunnel family and whatever the context tells
about the membership.
-/
import Fleet.Json.Basic
import Fleet.Variables

namespace Fleet

/-- The field of a stanza that shows a variable. -/
def VpnVariable.field : VpnVariable → String
  | host => "host"
  | port => "port"
  | serverKey => "server_public_key"
  | clientKey => "public_key"
  | privateKey => "private_key"
  | tunnelId => "vni"
  | clientAddress => "address"
  | serverAddress => "server_address"

/-- The entry for a server in the list of tunnels. -/
def VpnServer.stanzaEntry (server : VpnServer) (context : Context) : Json :=
  Json.ofMembers (
    ("server", .string server.id.text) ::
    ("family", .string server.family.name) ::
    VpnVariable.all.filterMap fun v =>
      (context.get? (v.name server.id)).map fun value => (v.field, .string value))

/-- The stanza for a server. -/
def VpnServer.stanza (server : VpnServer) (context : Context) : Json :=
  .object [("tunnels", .array [server.stanzaEntry context])]

end Fleet
