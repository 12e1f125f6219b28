/-
# The rendered configuration of a device

Templates are filled in and merged in their order, a VPN template followed by the stanza of its
server, and the base document comes last.  Files that occur more than once are collapsed, and the
result is checked.
-/
import Fleet.Catalog
import Fleet.Compose.Stanza
import Fleet.Document.Merge
import Fleet.Document.Schema
import Fleet.Document.Substitute

namespace Fleet

/-- Everything that one rendering reads. -/
structure RenderInput extends VariableSources where
  /-- The templates. -/
  catalog : Catalog

namespace RenderInput

/-- The membership in the server of a template, if the device has joined it. -/
def attachmentFor (input : RenderInput) (t : Template) : Option VpnAttachment :=
  input.vpn.find? fun a => t.vpn == some a.server.id

/-- What a template contributes: its document, and the stanza of a VPN template whose server
has been joined. -/
def templateFragments (input : RenderInput) (context : Context) (t : Template) :
    Except Error (List Json) := do
  checkBackend t input.configuration.backend
  let fragment ← t.document.substitute t.id.text context t.defaultValues
  match t.isVpn, input.attachmentFor t with
  | true, some a => .ok [fragment, a.server.stanza context]
  | _, _ => .ok [fragment]

/-- The documents to merge, in order. -/
def fragments (input : RenderInput) (fleet : Context) : Except Error (List Json) := do
  let context := input.resolve fleet
  let ordered ← input.catalog.order input.configuration
  let parts ← ordered.mapM (input.templateFragments context)
  let base ← input.configuration.document.substitute Json.baseDocument context .empty
  return parts.flatten ++ [base]

/-- The rendered document. -/
def compose (input : RenderInput) (fleet : Context) : Except Error Json := do
  let parts ← input.fragments fleet
  let document := (parts.foldl Json.merge .emptyObject).dedupeFiles
  document.validate
  return document

/-- The canonical text of the rendered document. -/
def render (input : RenderInput) (fleet : Context) : Except Error String :=
  (input.compose fleet).map Json.render

end RenderInput

end Fleet
