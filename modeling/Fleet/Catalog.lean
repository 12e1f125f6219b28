/-
# The catalog of templates

All templates, and the template lists that configurations may have: their order, and how a list
changes when templates are attached and detached or when the configuration moves to another backend
or another scope.  Every function gives the new list and changes nothing.
-/
import Fleet.Ordered
import Fleet.Record.Configuration
import Fleet.Record.Template

namespace Fleet

/-! ## The order of a list -/

namespace Template

/-- The rank of a template in a list: required ones, default ones, explicit ones. -/
def rank (t : Template) : Nat :=
  if t.required then 0 else if t.default then 1 else 2

/-- Keeps the first of the templates with one identifier, but none that has been seen. -/
def distinct (seen : List TemplateId) : List Template → List Template
  | [] => []
  | t :: rest =>
    if seen.contains t.id then distinct seen rest else t :: distinct (t.id :: seen) rest

/-- Whether one creation comes before another: by number, then by identifier. -/
def createdBefore (a b : Template) : Bool :=
  a.created < b.created || (a.created == b.created && decide (a.id.text < b.id.text))

/-- Whether a template at a position belongs before another: by rank, then by creation, or by
position for explicit templates. -/
def precedes (a b : Nat × Template) : Bool :=
  a.2.rank < b.2.rank ||
    (a.2.rank == b.2.rank &&
      if a.2.rank < 2 then a.2.createdBefore b.2 || a.2.id == b.2.id else a.1 ≤ b.1)

/-- The identifiers of a selection in their final order, each once. -/
def sortedIds (selection : List Template) : List TemplateId :=
  let numbered := (distinct [] selection).zipIdx.map Prod.swap
  (Ordered.sortBy precedes numbered).map fun e => e.2.id

end Template

/-- Refuses a template whose name another one has in the same organization. -/
def checkUniqueName (existing : List Template) (candidate : Template) : Except Error Unit :=
  if existing.any fun t =>
      t.id != candidate.id && t.name == candidate.name && t.organization == candidate.organization
  then .error (.duplicateName candidate.name)
  else .ok ()

/-- Refuses a template of another backend. -/
def checkBackend (t : Template) (backend : Backend) : Except Error Unit :=
  if t.backend = backend then .ok () else .error (.backendMismatch t.id backend t.backend)

/-! ## The catalog -/

/-- The templates by their identifiers. -/
abbrev Catalog := SortedMap TemplateId Template

namespace Catalog

/-- Looks a template up. -/
def find (c : Catalog) (id : TemplateId) : Except Error Template :=
  match c.get? id with
  | some t => .ok t
  | none => .error (.unknownTemplate id)

/-- The templates of a list that exist. -/
def present (c : Catalog) (ids : List TemplateId) : List Template :=
  ids.filterMap c.get?

/-- The templates that a configuration with this backend and organization cannot do without. -/
def requiredFor (c : Catalog) (backend : Backend) (organization : OrgId) : List Template :=
  c.values.filter fun t => t.isRequiredFor backend organization

/-- The templates that a new configuration with this backend and organization gets. -/
def defaultFor (c : Catalog) (backend : Backend) (organization : OrgId) : List Template :=
  c.values.filter fun t => t.isDefaultFor backend organization

/-- Looks up a template that a configuration with this backend and organization may use. -/
def usable (c : Catalog) (id : TemplateId) (backend : Backend) (organization : OrgId) :
    Except Error Template := do
  let t ← c.find id
  checkBackend t backend
  if t.isVisibleTo organization then .ok t else .error (.organizationMismatch id organization)

/-- The templates of a configuration in their final order. -/
def order (c : Catalog) (configuration : Configuration) : Except Error (List Template) := do
  let selection ← configuration.templates.mapM fun id => do
    let t ← c.find id
    checkBackend t configuration.backend
    return t
  (Template.sortedIds selection).mapM c.find

/-- Adds the templates that a configuration must have: all defaults to an empty list, the required
ones to any other. -/
def withRequired (c : Catalog) (configuration : Configuration) (organization : OrgId) :
    List TemplateId :=
  let selection := c.present configuration.templates
  let added :=
    if selection.isEmpty then c.defaultFor configuration.backend organization
    else c.requiredFor configuration.backend organization
  Template.sortedIds (selection ++ added)

/-- Replaces the list by requested templates, which must be usable and include the required ones. -/
def select (c : Catalog) (configuration : Configuration) (organization : OrgId)
    (requested : List TemplateId) : Except Error (List TemplateId) := do
  let selection ← requested.mapM fun id => c.usable id configuration.backend organization
  match (c.requiredFor configuration.backend organization).find? fun t => !requested.contains t.id
  with
  | some missing => .error (.requiredTemplate missing.id)
  | none => .ok (Template.sortedIds selection)

/-- Adds a template, which must be usable. -/
def attach (c : Catalog) (configuration : Configuration) (organization : OrgId)
    (id : TemplateId) : Except Error (List TemplateId) := do
  let added ← c.usable id configuration.backend organization
  return Template.sortedIds (c.present configuration.templates ++ [added])

/-- Takes a template away, which must not be required. -/
def detach (c : Catalog) (configuration : Configuration) (organization : OrgId)
    (id : TemplateId) : Except Error (List TemplateId) := do
  let removed ← c.find id
  if removed.isRequiredFor configuration.backend organization then .error (.requiredTemplate id)
  else
    .ok (Template.sortedIds ((c.present configuration.templates).filter fun t => t.id != id))

/-- Takes all templates away but the required ones. -/
def clear (c : Catalog) (configuration : Configuration) (organization : OrgId) :
    List TemplateId :=
  Template.sortedIds (c.requiredFor configuration.backend organization)

/-- Moves a list to another backend: the templates of that backend stay and the required ones come,
and the defaults too if none stayed. -/
def rebackend (c : Catalog) (configuration : Configuration) (organization : OrgId)
    (backend : Backend) : List TemplateId :=
  let kept := (c.present configuration.templates).filter fun t => t.backend == backend
  c.withRequired
    { Configuration.blank configuration.device backend with templates := kept.map Template.id }
    organization

/-- Moves a list to another scope: templates that are dropped or not visible there leave, the added
ones that can be used there follow, and the required ones come. -/
def rescope (c : Catalog) (configuration : Configuration) (organization : OrgId)
    (dropped added : List TemplateId) : List TemplateId :=
  let kept := (c.present configuration.templates).filter fun t =>
    !dropped.contains t.id && t.isVisibleTo organization
  let joined := (c.present added).filter fun t =>
    t.backend == configuration.backend && t.isVisibleTo organization
  Template.sortedIds (kept ++ joined ++ c.requiredFor configuration.backend organization)

end Catalog

end Fleet
