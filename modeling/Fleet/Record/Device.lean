/-
# Devices

The record of a managed device and the grammar of its identity.
-/
import Fleet.Error
import Fleet.IpAddress
import Fleet.Text.Blank
import Fleet.Text.Pattern

namespace Fleet

open Text (Pattern)

/-! ## Identity -/

namespace Identity

/-- A hexadecimal digit of either case. -/
def isHexDigit (c : Char) : Bool :=
  ('0' ≤ c && c ≤ '9') || ('a' ≤ c && c ≤ 'f') || ('A' ≤ c && c ≤ 'F')

/-- An ASCII letter or digit. -/
def isAlphanumeric (c : Char) : Bool :=
  ('0' ≤ c && c ≤ '9') || ('a' ≤ c && c ≤ 'z') || ('A' ≤ c && c ≤ 'Z')

/-- Two hexadecimal digits. -/
def hexPair : Pattern := .times 2 (.one isHexDigit)

/-- Six pairs of hexadecimal digits with a colon or hyphen between them. -/
def macAddress : Pattern :=
  .seq (.times 5 (.seq hexPair (.one fun c => c == ':' || c == '-'))) hexPair

/-- A label of a host name: an alphanumeric character, or two with up to 61 alphanumeric characters
and hyphens between them. -/
def label : Pattern :=
  .alt (.one isAlphanumeric)
    (.seq (.one isAlphanumeric)
      (.seq (.upTo 61 (.one fun c => isAlphanumeric c || c == '-')) (.one isAlphanumeric)))

/-- Labels with points between them. -/
def hostname : Pattern :=
  .seq label (.many (.seq (.char '.') label))

/-- Characters other than white space, slashes and points, at least one. -/
def key : Pattern :=
  .many1 (.one fun c => !(Text.isBlank c || c == '/' || c == '.'))

/-- Alphanumeric characters, underscores and hyphens, at least one. -/
def serverId : Pattern :=
  .many1 (.one fun c => isAlphanumeric c || c == '_' || c == '-')

/-- Refuses a value that no pattern of its field accepts. -/
def check (field : IdentityField) (accepted : Bool) (value : String) : Except Error Unit :=
  if accepted then .ok () else .error (.invalidIdentity field value)

/-- Checks a MAC address. -/
def checkMacAddress (value : String) : Except Error Unit :=
  check .macAddress (macAddress.accepts value.toList) value

/-- Checks a device name: a host name or a MAC address. -/
def checkName (value : String) : Except Error Unit :=
  check .name (hostname.accepts value.toList || macAddress.accepts value.toList) value

/-- Checks a device key. -/
def checkKey (value : String) : Except Error Unit :=
  check .key (key.accepts value.toList) value

/-- Checks the identifier of a VPN server, which ends the names of its variables. -/
def checkServerId (id : ServerId) : Except Error Unit :=
  check .serverId (serverId.accepts id.text.toList) id.text

end Identity

/-! ## Devices -/

/-- A managed device. -/
structure Device where
  /-- The identifier. -/
  id : DeviceId
  /-- The secret that the agent shows when it asks for its configuration. -/
  key : String
  /-- The host name or MAC address shown to operators. -/
  name : String
  /-- The primary MAC address. -/
  macAddress : String
  /-- The owner. -/
  organization : OrgId
  /-- The group, if any. -/
  group : Option GroupId
  /-- The address from which the device was last seen. -/
  lastIp : Option IpAddress
  /-- The management address. -/
  managementIp : Option IpAddress
  /-- An identifier of the hardware. -/
  hardwareId : Option String
  /-- False once the device has been deactivated. -/
  active : Bool
  deriving DecidableEq

namespace Device

/-- Checks the key, then the name, then the MAC address. -/
def validate (d : Device) : Except Error Unit := do
  Identity.checkKey d.key
  Identity.checkName d.name
  Identity.checkMacAddress d.macAddress

/-- Whether the rendered configuration may change with the record. -/
def affectsConfiguration (d previous : Device) : Bool :=
  d.name != previous.name || d.group != previous.group || d.key != previous.key ||
    d.macAddress != previous.macAddress || d.hardwareId != previous.hardwareId ||
    d.organization != previous.organization

end Device

end Fleet
