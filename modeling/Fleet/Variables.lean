/-
# The variables of a configuration

The layers from which placeholders get their values, the lowest first: the fleet, the organization,
the group, the configuration itself, the memberships in VPN servers, and the identity of the device,
which nothing overrides.
-/
import Fleet.Record.Configuration
import Fleet.Record.Device
import Fleet.Record.Vpn

namespace Fleet

/-! ## Identity -/

/-- The variables that tell the identity of a device. -/
def Device.variables (d : Device) : List (String × String) :=
  [("id", d.id.text), ("key", d.key), ("name", d.name), ("mac_address", d.macAddress)] ++
    (d.hardwareId.map fun h => ("hardware_id", h)).toList

/-! ## Memberships -/

/-- What a membership in a VPN server tells. -/
inductive VpnVariable where
  /-- The host of the server. -/
  | host
  /-- The port on which the server listens. -/
  | port
  /-- The public key of the server. -/
  | serverKey
  /-- The public key of the client. -/
  | clientKey
  /-- The private key of the client. -/
  | privateKey
  /-- The tunnel id. -/
  | tunnelId
  /-- The address of the client. -/
  | clientAddress
  /-- The address of the server. -/
  | serverAddress
  deriving DecidableEq

namespace VpnVariable

/-- All of them. -/
def all : List VpnVariable :=
  [host, port, serverKey, clientKey, privateKey, tunnelId, clientAddress, serverAddress]

/-- The name without the server. -/
def stem : VpnVariable → String
  | host => "vpn_host"
  | port => "vpn_port"
  | serverKey => "public_key"
  | clientKey => "pub_key"
  | privateKey => "pvt_key"
  | tunnelId => "vni"
  | clientAddress => "ip_address"
  | serverAddress => "server_ip_address"

/-- The name of the variable for a server. -/
def name (v : VpnVariable) (server : ServerId) : String :=
  v.stem ++ "_" ++ server.text

/-- The value of the variable, if the membership has one and the tunnel family a use for it. -/
def value? (v : VpnVariable) (a : VpnAttachment) : Option String :=
  let family := a.server.family
  match v with
  | host => if a.server.host.isEmpty then none else some a.server.host
  | port => if family.usesWireguard then a.server.wireguardPort?.map toString else none
  | serverKey => if family.usesWireguard then a.server.publicKey else none
  | clientKey => if family.usesWireguard then a.client.publicKey else none
  | privateKey => if family.usesWireguard then a.client.privateKey else none
  | tunnelId =>
    if family.usesVxlan then (a.client.vni.or a.server.fixedVni?).map toString else none
  | clientAddress => a.client.address.map IpAddress.render
  | serverAddress => a.server.ipAddress.map IpAddress.render

end VpnVariable

/-- The variables of one membership. -/
def VpnAttachment.variables (a : VpnAttachment) : List (String × String) :=
  VpnVariable.all.filterMap fun v => (v.value? a).map fun value => (v.name a.server.id, value)

/-! ## Layers -/

/-- Where the variables of a configuration come from. -/
structure VariableSources where
  /-- The device. -/
  device : Device
  /-- The configuration. -/
  configuration : Configuration
  /-- The variables of the organization, if it has settings. -/
  organization : Option Context
  /-- The variables of the group, if the device is in one. -/
  group : Option Context
  /-- The memberships in VPN servers. -/
  vpn : List VpnAttachment

/-- The variables of a configuration, each with the value of the highest layer that defines it. -/
def VariableSources.resolve (sources : VariableSources) (fleet : Context) : Context :=
  let scopes := (fleet.union (sources.organization.getD .empty)).union (sources.group.getD .empty)
  ((scopes.union sources.configuration.context).insertAll
    (sources.vpn.flatMap VpnAttachment.variables)).insertAll sources.device.variables

end Fleet
