/-
# Reading records

How each record is read out of a JSON text.  The fields of a record, in the order in which they are
named here, may also be given as a list.
-/
import Fleet.Json.Decoder
import Fleet.Record.Configuration
import Fleet.Record.Device
import Fleet.Record.Scope
import Fleet.Record.Template
import Fleet.Record.Vpn

namespace Fleet

open Json (Decoder Fields)

/-! ## Leaves -/

/-- An identifier. -/
def Id.reader {sort : Named} : Decoder (Id sort) := Decoder.string.map Id.mk

/-- An IP address. -/
def IpAddress.reader : Decoder IpAddress := .parsed IpAddress.parse?

/-- Variables and their values. -/
def Context.reader : Decoder Context := .sortedMap id .string

/-- An unsigned number of 32 bits. -/
def word32 : Decoder Nat := .natBelow UInt32.size

/-- An unsigned number of 64 bits. -/
def word64 : Decoder Nat := .natBelow UInt64.size

/-! ## Records -/

/-- A device, active unless it says otherwise. -/
def Device.reader : Decoder Device := fun levels w => do
  let fs ← Fields.of? ["id", "key", "name", "mac_address", "organization", "group", "last_ip",
    "management_ip", "hardware_id", "active"] levels w
  return {
    id := ← fs.required "id" Id.reader
    key := ← fs.required "key" .string
    name := ← fs.required "name" .string
    macAddress := ← fs.required "mac_address" .string
    organization := ← fs.required "organization" Id.reader
    group := ← fs.optional "group" Id.reader
    lastIp := ← fs.optional "last_ip" IpAddress.reader
    managementIp := ← fs.optional "management_ip" IpAddress.reader
    hardwareId := ← fs.optional "hardware_id" .string
    active := ← fs.withDefault "active" .bool true }

/-- The state of a configuration, by its name. -/
def Status.reader : Decoder Status := .choice Status.table

/-- A configuration, modified and empty unless it says otherwise. -/
def Configuration.reader : Decoder Configuration := fun levels w => do
  let fs ← Fields.of? ["device", "backend", "document", "templates", "context", "status"] levels w
  return {
    device := ← fs.required "device" Id.reader
    backend := ← fs.required "backend" Id.reader
    document := ← fs.withDefault "document" .document .emptyObject
    templates := ← fs.withDefault "templates" (.list Id.reader) []
    context := ← fs.withDefault "context" Context.reader .empty
    status := ← fs.withDefault "status" Status.reader .modified }

/-- A template, shared, generic and explicit unless it says otherwise. -/
def Template.reader : Decoder Template := fun levels w => do
  let fs ← Fields.of? ["id", "name", "organization", "backend", "type", "vpn", "required",
    "default", "document", "default_values", "created"] levels w
  return {
    id := ← fs.required "id" Id.reader
    name := ← fs.required "name" .string
    organization := ← fs.optional "organization" Id.reader
    backend := ← fs.required "backend" Id.reader
    kind := ← fs.withDefault "type" (.choice TemplateKind.table) .generic
    vpn := ← fs.optional "vpn" Id.reader
    required := ← fs.withDefault "required" .bool false
    default := ← fs.withDefault "default" .bool false
    document := ← fs.withDefault "document" .document .emptyObject
    defaultValues := ← fs.withDefault "default_values" Context.reader .empty
    created := ← fs.withDefault "created" word64 0 }

/-- A VPN server. -/
def VpnServer.reader : Decoder VpnServer := fun levels w => do
  let fs ← Fields.of? ["id", "name", "organization", "backend", "document", "host", "public_key",
    "private_key", "ip_address"] levels w
  return {
    id := ← fs.required "id" Id.reader
    name := ← fs.required "name" .string
    organization := ← fs.optional "organization" Id.reader
    backend := ← fs.required "backend" Id.reader
    document := ← fs.withDefault "document" .document .emptyObject
    host := ← fs.withDefault "host" .string ""
    publicKey := ← fs.optional "public_key" .string
    privateKey := ← fs.optional "private_key" .string
    ipAddress := ← fs.optional "ip_address" IpAddress.reader }

/-- A membership, advertised unless it says otherwise. -/
def VpnClient.reader : Decoder VpnClient := fun levels w => do
  let fs ← Fields.of? ["device", "server", "public_key", "private_key", "address", "vni",
    "auto_provisioned"] levels w
  return {
    device := ← fs.required "device" Id.reader
    server := ← fs.required "server" Id.reader
    publicKey := ← fs.optional "public_key" .string
    privateKey := ← fs.optional "private_key" .string
    address := ← fs.optional "address" IpAddress.reader
    vni := ← fs.optional "vni" word32
    autoProvisioned := ← fs.withDefault "auto_provisioned" .bool true }

/-- A peer. -/
def Peer.reader : Decoder Peer := fun levels w => do
  let fs ← Fields.of? ["device", "public_key", "address", "vni"] levels w
  return {
    device := ← fs.required "device" Id.reader
    publicKey := ← fs.named "public_key" .string
    address := ← fs.required "address" IpAddress.reader
    vni := ← fs.named "vni" word32 }

/-- The settings of an organization. -/
def OrganizationSettings.reader : Decoder OrganizationSettings := fun levels w => do
  let fs ← Fields.of? ["organization", "context"] levels w
  return {
    organization := ← fs.required "organization" Id.reader
    context := ← fs.withDefault "context" Context.reader .empty }

/-- A group of devices. -/
def DeviceGroup.reader : Decoder DeviceGroup := fun levels w => do
  let fs ← Fields.of? ["id", "name", "organization", "context", "templates"] levels w
  return {
    id := ← fs.required "id" Id.reader
    name := ← fs.required "name" .string
    organization := ← fs.required "organization" Id.reader
    context := ← fs.withDefault "context" Context.reader .empty
    templates := ← fs.withDefault "templates" (.list Id.reader) [] }

end Fleet
