/-
# Templates

Named pieces of configuration that many configurations share.  A required template belongs to every
configuration in its scope; a default one is attached to configurations that choose none.
-/
import Fleet.Error
import Fleet.Json.Basic

namespace Fleet

/-- What a template provides. -/
inductive TemplateKind where
  /-- Plain content. -/
  | generic
  /-- Content for the clients of a VPN server. -/
  | vpn
  deriving DecidableEq

namespace TemplateKind

/-- The name of a kind. -/
def name : TemplateKind → String
  | generic => "generic"
  | vpn => "vpn"

/-- The kinds by name. -/
def table : List (String × TemplateKind) :=
  [generic, vpn].map fun k => (k.name, k)

end TemplateKind

/-- A shared piece of configuration. -/
structure Template where
  /-- The identifier. -/
  id : TemplateId
  /-- The name, which is unique in the organization. -/
  name : String
  /-- The owner; without one the template is shared by all. -/
  organization : Option OrgId
  /-- The backend it is written for. -/
  backend : Backend
  /-- What it provides. -/
  kind : TemplateKind
  /-- The server of a VPN template. -/
  vpn : Option ServerId
  /-- Whether configurations in scope cannot do without it. -/
  required : Bool
  /-- Whether new configurations get it. -/
  default : Bool
  /-- The content. -/
  document : Json
  /-- Values for placeholders that the context does not define. -/
  defaultValues : Context
  /-- The creation number. -/
  created : Nat
  deriving DecidableEq

namespace Template

/-- Whether it is a VPN template. -/
def isVpn (t : Template) : Bool :=
  t.kind == .vpn

/-- Whether configurations of an organization may use the template. -/
def isVisibleTo (t : Template) (organization : OrgId) : Bool :=
  match t.organization with
  | some owner => owner == organization
  | none => true

/-- Whether configurations with this backend and organization cannot do without it. -/
def isRequiredFor (t : Template) (backend : Backend) (organization : OrgId) : Bool :=
  t.required && t.backend == backend && t.isVisibleTo organization

/-- Whether new configurations with this backend and organization get it. -/
def isDefaultFor (t : Template) (backend : Backend) (organization : OrgId) : Bool :=
  (t.default || t.required) && t.backend == backend && t.isVisibleTo organization

/-- Whether the documents rendered with the template may differ from those of its last version. -/
def contentDiffers (t previous : Template) : Bool :=
  t.backend != previous.backend || !t.document.same previous.document ||
    t.defaultValues != previous.defaultValues || t.kind != previous.kind ||
    t.vpn != previous.vpn

/-- The template with its flags and its server in order: what is required is a default too, a
generic template has no server, and a VPN template needs one. -/
def normalize (t : Template) : Except Error Template :=
  let t := { t with default := t.default || t.required }
  let linked : Except Error Template :=
    match t.kind, t.vpn with
    | .vpn, none => .error (.missingVpnServer t.id)
    | .vpn, some _ => .ok t
    | .generic, _ => .ok { t with vpn := none }
  linked.bind fun t =>
    if t.document.isObject then .ok t else .error (.documentNotObject t.id.text)

end Template

end Fleet
