/-
# Organizations and groups

Scopes that devices belong to and that define variables for them.  A group has templates too, which
its members get.
-/
import Fleet.Identifier

namespace Fleet

/-- The settings of an organization. -/
structure OrganizationSettings where
  /-- The organization. -/
  organization : OrgId
  /-- Its variables. -/
  context : Context
  deriving DecidableEq

/-- A group of devices. -/
structure DeviceGroup where
  /-- The identifier. -/
  id : GroupId
  /-- The name shown to operators. -/
  name : String
  /-- The owner. -/
  organization : OrgId
  /-- Its variables. -/
  context : Context
  /-- The templates of its members, in their order. -/
  templates : List TemplateId
  deriving DecidableEq

end Fleet
