/-
# Writing records

How each record is written as JSON: all its fields, in their order, null where there is no value.
-/
import Fleet.Json.Written
import Fleet.Record.Configuration
import Fleet.Record.Device
import Fleet.Record.Scope
import Fleet.Record.Template
import Fleet.Record.Vpn

namespace Fleet

open Json (Written)

/-! ## Leaves -/

/-- An identifier, as its text. -/
def Id.written {sort : Named} (id : Id sort) : Written := .string id.text

/-- An address, as its canonical text. -/
def IpAddress.written (ip : IpAddress) : Written := .string ip.render

/-- Variables and their values, by ascending name. -/
def Context.written (context : Context) : Written := .ofMap .string context

/-! ## Records -/

/-- A device. -/
def Device.written (d : Device) : Written := .object [
  ("id", d.id.written),
  ("key", .string d.key),
  ("name", .string d.name),
  ("mac_address", .string d.macAddress),
  ("organization", d.organization.written),
  ("group", .ofOption Id.written d.group),
  ("last_ip", .ofOption IpAddress.written d.lastIp),
  ("management_ip", .ofOption IpAddress.written d.managementIp),
  ("hardware_id", .ofOption .string d.hardwareId),
  ("active", .bool d.active)]

/-- A configuration. -/
def Configuration.written (c : Configuration) : Written := .object [
  ("device", c.device.written),
  ("backend", c.backend.written),
  ("document", .ofJson c.document),
  ("templates", .ofList Id.written c.templates),
  ("context", c.context.written),
  ("status", .string c.status.name)]

/-- A template. -/
def Template.written (t : Template) : Written := .object [
  ("id", t.id.written),
  ("name", .string t.name),
  ("organization", .ofOption Id.written t.organization),
  ("backend", t.backend.written),
  ("type", .string t.kind.name),
  ("vpn", .ofOption Id.written t.vpn),
  ("required", .bool t.required),
  ("default", .bool t.default),
  ("document", .ofJson t.document),
  ("default_values", t.defaultValues.written),
  ("created", .ofNat t.created)]

/-- A VPN server. -/
def VpnServer.written (s : VpnServer) : Written := .object [
  ("id", s.id.written),
  ("name", .string s.name),
  ("organization", .ofOption Id.written s.organization),
  ("backend", s.backend.written),
  ("document", .ofJson s.document),
  ("host", .string s.host),
  ("public_key", .ofOption .string s.publicKey),
  ("private_key", .ofOption .string s.privateKey),
  ("ip_address", .ofOption IpAddress.written s.ipAddress)]

/-- A membership. -/
def VpnClient.written (c : VpnClient) : Written := .object [
  ("device", c.device.written),
  ("server", c.server.written),
  ("public_key", .ofOption .string c.publicKey),
  ("private_key", .ofOption .string c.privateKey),
  ("address", .ofOption IpAddress.written c.address),
  ("vni", .ofOption .ofNat c.vni),
  ("auto_provisioned", .bool c.autoProvisioned)]

/-- A peer. -/
def Peer.written (p : Peer) : Written := .object [
  ("device", p.device.written),
  ("public_key", .ofOption .string p.publicKey),
  ("address", p.address.written),
  ("vni", .ofOption .ofNat p.vni)]

/-- The settings of an organization. -/
def OrganizationSettings.written (s : OrganizationSettings) : Written := .object [
  ("organization", s.organization.written),
  ("context", s.context.written)]

/-- A group of devices. -/
def DeviceGroup.written (g : DeviceGroup) : Written := .object [
  ("id", g.id.written),
  ("name", .string g.name),
  ("organization", g.organization.written),
  ("context", g.context.written),
  ("templates", .ofList Id.written g.templates)]

end Fleet
