/-
# The lifecycle of a configuration

A configuration is modified until the device's agent reports that it applied it or failed to; a
deactivated device keeps its record with an empty configuration.  This module names the states
and the signals that move between them.
-/
import Fleet.Identifier

namespace Fleet

/-! ## States -/

/-- The state of a configuration. -/
inductive Status where
  /-- Changed since the agent last applied it. -/
  | modified
  /-- Applied by the agent. -/
  | applied
  /-- Rolled back by the agent after a failure. -/
  | error
  /-- Emptied; the agent has not confirmed it yet. -/
  | deactivating
  /-- No longer used by the agent. -/
  | deactivated
  deriving DecidableEq

namespace Status

/-- The name of the state. -/
def name : Status → String
  | modified => "modified"
  | applied => "applied"
  | error => "error"
  | deactivating => "deactivating"
  | deactivated => "deactivated"

/-- The states by name. -/
def table : List (String × Status) :=
  [modified, applied, error, deactivating, deactivated].map fun s => (s.name, s)

/-- Whether the configuration is being or has been deactivated. -/
def isDeactivation : Status → Bool
  | deactivating | deactivated => true
  | _ => false

end Status

/-! ## Signals -/

/-- Why a configuration became modified. -/
inductive Reason where
  /-- The base document changed. -/
  | document
  /-- The template list changed. -/
  | templates
  /-- The configuration's own variables changed. -/
  | context
  /-- The backend changed. -/
  | backend
  /-- The content of an attached template changed. -/
  | templateContent (template : TemplateId)
  /-- The identity, name, group or organization of the device changed. -/
  | deviceIdentity
  /-- A joined VPN server changed. -/
  | vpnServer (server : ServerId)
  /-- The device joined or left a VPN server. -/
  | vpnMembership (server : ServerId)
  /-- An operator asked for it. -/
  | manual
  deriving DecidableEq

/-- The text of a reason. -/
def Reason.describe : Reason → String
  | document => "document changed"
  | templates => "templates changed"
  | context => "context changed"
  | backend => "backend changed"
  | templateContent t => "template " ++ t.text ++ " changed"
  | deviceIdentity => "device changed"
  | vpnServer s => "VPN server " ++ s.text ++ " changed"
  | vpnMembership s => "membership of VPN server " ++ s.text ++ " changed"
  | manual => "manual"

/-- What drives the lifecycle. -/
inductive Signal where
  /-- The agent applied the configuration. -/
  | applied
  /-- The agent failed to apply the configuration. -/
  | failed
  /-- Something that the rendered document depends on changed. -/
  | modified (reason : Reason)
  /-- The device shall be deactivated. -/
  | deactivate
  /-- The agent stopped using the configuration. -/
  | confirmDeactivation
  /-- The device shall be used again. -/
  | activate
  deriving DecidableEq

namespace Signal

/-- The short name of a signal. -/
def name : Signal → String
  | applied => "applied"
  | failed => "error"
  | modified _ => "modified"
  | deactivate => "deactivate"
  | confirmDeactivation => "confirm deactivation"
  | activate => "activate"

/-- The text of a signal, with its reason. -/
def describe : Signal → String
  | modified reason => "modified (" ++ reason.describe ++ ")"
  | s => s.name

end Signal

end Fleet
