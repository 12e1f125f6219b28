/-
# Errors

Every cause for which an operation is refused, its category and its wording.
-/
import Fleet.Status

namespace Fleet

/-! ## Parts of errors -/

/-- The fields of records whose text has a grammar. -/
inductive IdentityField where
  | key
  | name
  | macAddress
  | serverId
  | configuration
  deriving DecidableEq

/-- How a field is called in messages. -/
def IdentityField.label : IdentityField → String
  | key => "key"
  | name => "name"
  | macAddress => "mac_address"
  | serverId => "VPN server id"
  | configuration => "configuration"

/-- What the field must be. -/
def IdentityField.rule : IdentityField → String
  | key => "must not contain spaces, dots or slashes"
  | name => "must be either a valid hostname or mac address"
  | macAddress => "must be a valid mac address"
  | serverId => "must only contain letters, digits, underscores or hyphens"
  | configuration => "belongs to another device"

/-- The sorts of records that are looked up. -/
inductive RecordSort where
  | device
  | configuration
  | template
  | vpnServer
  deriving DecidableEq

/-- How a sort of record is called in messages. -/
def RecordSort.label : RecordSort → String
  | device => "device"
  | configuration => "configuration"
  | template => "template"
  | vpnServer => "VPN server"

/-- The calls that the store of checksums answers. -/
inductive StoreCall where
  | get
  | set
  | delete
  deriving DecidableEq

/-- The name of a call. -/
def StoreCall.name : StoreCall → String
  | get => "get"
  | set => "set"
  | delete => "delete"

/-! ## Categories -/

/-- The categories of errors. -/
inductive ErrorKind where
  | missingVariable
  | schemaViolation
  | backendMismatch
  | requiredTemplateViolation
  | duplicateVpnClient
  | tunnelIdExhausted
  | notFound
  | organizationMismatch
  | invalidTransition
  | invalidIdentity
  | duplicateName
  | alreadyExists
  | cacheUnavailable
  | brokenOff
  deriving DecidableEq

/-- Whether the input is at fault, so that trying again is of no use. -/
def ErrorKind.isInvalidInput : ErrorKind → Bool
  | cacheUnavailable | notFound | brokenOff => false
  | _ => true

/-! ## Errors -/

/-- Why an operation was refused. -/
inductive Error where
  /-- A field breaks its grammar. -/
  | invalidIdentity (field : IdentityField) (value : String)
  /-- A VPN template names no server. -/
  | missingVpnServer (template : TemplateId)
  /-- A VPN template names a server that does not exist. -/
  | unknownVpnServer (template : TemplateId) (server : ServerId)
  /-- The document of a record is not an object. -/
  | documentNotObject (owner : String)
  /-- A template list names a template that does not exist. -/
  | unknownTemplate (template : TemplateId)
  /-- A template is written for another backend than the configuration. -/
  | backendMismatch (template : TemplateId) (expected found : Backend)
  /-- A template belongs to another organization. -/
  | organizationMismatch (template : TemplateId) (organization : OrgId)
  /-- A required template would be removed. -/
  | requiredTemplate (template : TemplateId)
  /-- A template name is taken in its organization. -/
  | duplicateName (name : String)
  /-- A placeholder names a variable that has no value. -/
  | missingVariable (source name : String)
  /-- A placeholder cannot be read or evaluated. -/
  | invalidPlaceholder (source : String)
  /-- A document breaks the structure that every backend relies on. -/
  | schemaViolation (path reason : String)
  /-- The store of checksums failed. -/
  | storeFailed (call : StoreCall) (key reason : String)
  /-- A signal is not allowed in the present state. -/
  | invalidTransition (status : Status) (signal : Signal)
  /-- The device has joined the server already. -/
  | duplicateClient (device : DeviceId) (server : ServerId)
  /-- Another client of the server holds the tunnel id. -/
  | duplicateTunnelId (server : ServerId) (id : Nat)
  /-- Every tunnel id is held. -/
  | tunnelIdsExhausted (server : ServerId) (max : Nat)
  /-- A tunnel id is outside the range. -/
  | tunnelIdOutOfRange (id max : Nat)
  /-- A range that ends before it begins was searched: the call breaks off without an answer. -/
  | reversedRange (first last : Nat)
  /-- No record has this identifier. -/
  | notFound (sort : RecordSort) (id : String)
  /-- Another record has this identifier. -/
  | alreadyExists (sort : RecordSort) (id : String)
  deriving DecidableEq

namespace Error

/-- The category of an error. -/
def kind : Error → ErrorKind
  | invalidIdentity .. => .invalidIdentity
  | missingVpnServer .. => .schemaViolation
  | unknownVpnServer .. => .notFound
  | documentNotObject .. => .schemaViolation
  | unknownTemplate .. => .notFound
  | backendMismatch .. => .backendMismatch
  | organizationMismatch .. => .organizationMismatch
  | requiredTemplate .. => .requiredTemplateViolation
  | duplicateName .. => .duplicateName
  | missingVariable .. => .missingVariable
  | invalidPlaceholder .. => .schemaViolation
  | schemaViolation .. => .schemaViolation
  | storeFailed .. => .cacheUnavailable
  | invalidTransition .. => .invalidTransition
  | duplicateClient .. => .duplicateVpnClient
  | duplicateTunnelId .. => .duplicateVpnClient
  | tunnelIdsExhausted .. => .tunnelIdExhausted
  | tunnelIdOutOfRange .. => .schemaViolation
  | reversedRange .. => .brokenOff
  | notFound .. => .notFound
  | alreadyExists .. => .alreadyExists

/-- A text up to the first colon with a blank behind it, where a cause would begin. -/
def beforeCause : List Char → List Char
  | [] => []
  | c :: rest => if c == ':' && rest.head? == some ' ' then [] else c :: beforeCause rest

/-- The wording of an error. -/
def message : Error → String
  | invalidIdentity field value => s!"Invalid {field.label} '{value}': {field.rule}"
  | missingVpnServer template => s!"Template '{template}' is of type VPN but has no VPN server"
  | unknownVpnServer template server =>
    s!"Template '{template}' references unknown VPN server '{server}'"
  | documentNotObject owner => s!"The document of '{owner}' is not a JSON object"
  | unknownTemplate template => s!"Template '{template}' not found"
  | backendMismatch template expected found =>
    s!"Template '{template}' uses backend '{found}', configuration uses '{expected}'"
  | organizationMismatch template organization =>
    s!"Template '{template}' is not available to organization '{organization}'"
  | requiredTemplate template => s!"Template '{template}' is required and cannot be removed"
  | duplicateName name => s!"A template named '{name}' already exists in this organization"
  | missingVariable source name => s!"Missing variable '{name}' in {source}"
  | invalidPlaceholder source =>
    "Invalid placeholder in " ++ String.ofList (beforeCause source.toList)
  | schemaViolation path reason => s!"Schema violation at '{path}': {reason}"
  | storeFailed call key reason =>
    s!"Cache {call.name} of '{key}' failed: Cache store unavailable: {reason}"
  | invalidTransition status signal =>
    s!"Cannot apply '{signal.name}' to a configuration in status '{status.name}'"
  | duplicateClient device server =>
    s!"Device '{device}' already has a client on VPN server '{server}'"
  | duplicateTunnelId server id => s!"Tunnel id {id} is already used on VPN server '{server}'"
  | tunnelIdsExhausted server max =>
    s!"No free tunnel id left on VPN server '{server}' (maximum {max})"
  | tunnelIdOutOfRange id max => s!"Tunnel id {id} is out of range 1..={max}"
  | reversedRange first last => s!"range start {first} is greater than range end {last}"
  | notFound sort id => s!"{sort.label} '{id}' not found"
  | alreadyExists sort id => s!"{sort.label} '{id}' already exists"

instance : ToString Error := ⟨message⟩

end Error

end Fleet
