/-
# Configurations

The configuration of one device: its base document, its templates and its own variables.
-/
import Fleet.Error
import Fleet.Json.Basic

namespace Fleet

/-- The configuration of a device. -/
structure Configuration where
  /-- The device. -/
  device : DeviceId
  /-- The backend, which the templates share. -/
  backend : Backend
  /-- The base document. -/
  document : Json
  /-- The attached templates, in their order. -/
  templates : List TemplateId
  /-- The configuration's own variables. -/
  context : Context
  /-- The state. -/
  status : Status
  deriving DecidableEq

namespace Configuration

/-- A configuration with nothing in it. -/
def blank (device : DeviceId) (backend : Backend) : Configuration :=
  { device, backend, document := .emptyObject, templates := [], context := .empty,
    status := .modified }

/-- Whether a template is attached. -/
def hasTemplate (c : Configuration) (t : TemplateId) : Bool :=
  c.templates.contains t

/-- Checks that the base document is an object. -/
def validate (c : Configuration) : Except Error Unit :=
  if c.document.isObject then .ok () else .error (.documentNotObject c.device.text)

end Configuration

end Fleet
