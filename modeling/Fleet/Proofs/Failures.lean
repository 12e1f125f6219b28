/-
# Why rendering fails

A configuration whose templates exist and are written for its backend is put in order without
failure.  What is left to fail is filling in placeholders and checking the structure of the
document, so that a device whose records fit together is refused for what its documents say, and
never for a record that is missing.

Main statements: `Json.fillAll_failsWith`, `Json.validate_failsWith`,
`RenderInput.render_failsWith`, `Inventory.render_failsWith`.
-/
import Fleet.Proofs.Backends
import Fleet.Proofs.Rendering

namespace Fleet

open Outcomes

/-- An error about what documents say: a variable without value, or a broken placeholder or
structure. -/
def Error.IsContent (e : Error) : Prop :=
  e.kind = .missingVariable ∨ e.kind = .schemaViolation

/-- An error about content is about no record that is missing or written for another backend. -/
theorem Error.IsContent.kind_ne {e : Error} (h : e.IsContent) :
    e.kind ≠ .notFound ∧ e.kind ≠ .backendMismatch := by
  rcases h with hkind | hkind
  · rw [hkind]
    constructor <;> decide
  · rw [hkind]
    constructor <;> decide

namespace Json

/-! ## Filling in -/

section Fill

variable (source : String) (values : Context)

/-- Filling in one text fails for its content. -/
theorem fillText_failsWith (s : String) : FailsWith Error.IsContent (fillText source values s) := by
  unfold fillText
  split
  · exact FailsWith.ok _
  · exact FailsWith.error (Or.inl rfl)
  · exact FailsWith.error (Or.inr rfl)

mutual

/-- Filling in a document fails for its content. -/
theorem fillAll_failsWith : ∀ j, FailsWith Error.IsContent (fillAll source values j)
  | string s => by
      rw [fillAll]
      exact (fillText_failsWith source values s).map
  | array items => by
      rw [fillAll]
      exact (fillItems_failsWith items).map
  | object members => by
      rw [fillAll]
      exact (fillMembers_failsWith [] members).map
  | null => by
      rw [fillAll]
      exact FailsWith.ok _
  | bool b => by
      rw [fillAll]
      exact FailsWith.ok _
  | number n => by
      rw [fillAll]
      exact FailsWith.ok _

/-- Filling in a list fails for its content. -/
theorem fillItems_failsWith : ∀ items, FailsWith Error.IsContent (fillItems source values items)
  | [] => by
      rw [fillItems]
      exact FailsWith.ok _
  | j :: rest => by
      rw [fillItems]
      split
      · rename_i e he
        exact FailsWith.error (fillAll_failsWith j e he)
      · split
        · rename_i e he
          exact FailsWith.error (fillItems_failsWith rest e he)
        · exact FailsWith.ok _

/-- Filling in members fails for their content. -/
theorem fillMembers_failsWith :
    ∀ done members, FailsWith Error.IsContent (fillMembers source values done members)
  | done, [] => by
      rw [fillMembers]
      exact FailsWith.ok _
  | done, (name, j) :: rest => by
      rw [fillMembers]
      -- The name is filled in before the value, and both before the rest.
      split
      · rename_i e he
        exact FailsWith.error (fillText_failsWith source values name e he)
      · split
        · rename_i e he
          exact FailsWith.error (fillAll_failsWith j e he)
        · exact fillMembers_failsWith _ rest

end

end Fill

/-! ## Checking the structure -/

/-- A value that is refused is refused for its content. -/
theorem violation_failsWith {α : Type} (path reason : String) :
    FailsWith Error.IsContent (violation path reason : Except Error α) :=
  FailsWith.error (Or.inr rfl)

/-- A field without a string is refused for its content. -/
theorem requireString_failsWith (path field : String) (entry : Json) :
    FailsWith Error.IsContent (requireString path field entry) := by
  unfold requireString
  split
  · exact FailsWith.ok _
  · exact violation_failsWith _ _
  · exact violation_failsWith _ _

/-- A mode is refused for its content. -/
theorem checkMode_failsWith (path : String) (entry : Json) :
    FailsWith Error.IsContent (checkMode path entry) := by
  unfold checkMode
  split
  · exact FailsWith.ok _
  · split
    · exact FailsWith.ok _
    · exact violation_failsWith _ _
  · exact violation_failsWith _ _

namespace ListSection

/-- The fields of an entry are refused for their content. -/
theorem checkFields_failsWith (s : ListSection) (path : String) (entry : Json) :
    FailsWith Error.IsContent (s.checkFields path entry) := by
  cases s with
  | interfaces => exact requireString_failsWith path "name" entry
  | files =>
      show FailsWith Error.IsContent (do
        requireString path "path" entry
        requireString path "contents" entry
        checkMode path entry)
      refine FailsWith.bind (requireString_failsWith path "path" entry) fun _ _ => ?_
      refine FailsWith.bind (requireString_failsWith path "contents" entry) fun _ _ => ?_
      exact checkMode_failsWith path entry
  | tunnels | wireguard | vxlan => exact FailsWith.ok ()

/-- The entries of a section are refused for their content. -/
theorem checkEntries_failsWith (s : ListSection) (index : Nat) (entries : List Json) :
    FailsWith Error.IsContent (s.checkEntries index entries) := by
  induction entries generalizing index with
  | nil => exact FailsWith.ok ()
  | cons entry rest ih =>
      rw [checkEntries]
      split
      · split
        · exact ih (index + 1)
        · rename_i e he
          exact FailsWith.error (s.checkFields_failsWith _ entry e he)
      · exact violation_failsWith _ _

/-- A section is refused for its content. -/
theorem check_failsWith (s : ListSection) (document : Json) :
    FailsWith Error.IsContent (s.check document) := by
  unfold check
  split
  · exact FailsWith.ok _
  · exact s.checkEntries_failsWith 0 _
  · exact violation_failsWith _ _

end ListSection

/-- Sections are refused for their content. -/
theorem checkSections_failsWith (document : Json) (sections : List ListSection) :
    FailsWith Error.IsContent (checkSections document sections) := by
  induction sections with
  | nil => exact FailsWith.ok ()
  | cons s rest ih =>
      rw [checkSections]
      split
      · exact ih
      · rename_i e he
        exact FailsWith.error (s.check_failsWith document e he)

/-- A document is refused for its content. -/
theorem validate_failsWith (document : Json) : FailsWith Error.IsContent document.validate := by
  unfold validate
  split
  · exact checkSections_failsWith document ListSection.all
  · exact violation_failsWith _ _

end Json

/-! ## Rendering -/

/-- A list that fits its backend is put in order, and gives templates of that backend. -/
theorem Catalog.exists_order_eq_ok {c : Catalog} {k : Configuration} (hc : c.Keyed)
    (hk : c.Fits k.backend k.templates) :
    ∃ ts, c.order k = .ok ts ∧ ∀ t ∈ ts, t.backend = k.backend := by
  have hchecked : ∀ id ∈ k.templates, ∃ t,
      (do let t ← c.find id; checkBackend t k.backend; return t : Except Error Template) =
        .ok t := by
    intro id hid
    obtain ⟨t, ht, hbackend⟩ := hk id hid
    refine ⟨t, ?_⟩
    simp only [bind_eq_ok, find_eq_ok, pure_eq_ok]
    exact ⟨t, ht, (), checkBackend_eq_ok.mpr hbackend, rfl⟩
  obtain ⟨selection, hselection⟩ := exists_mapM_eq_ok hchecked
  -- The final order is of the same templates, which are looked up once more.
  have hlisted : ∀ id ∈ Template.sortedIds selection,
      ∃ t, c.get? id = some t ∧ t.backend = k.backend := by
    intro id hid
    obtain ⟨t, ht, rfl⟩ := Template.mem_sortedIds.mp hid
    obtain ⟨i, hi, hit⟩ := (mem_of_mapM hselection).mp ht
    simp only [bind_eq_ok, find_eq_ok, pure_eq_ok] at hit
    obtain ⟨_, hget, ⟨⟩, hcheck, rfl⟩ := hit
    have hkey := hc i _ hget
    exact ⟨_, hkey ▸ hget, checkBackend_eq_ok.mp hcheck⟩
  obtain ⟨ts, hts⟩ := exists_mapM_eq_ok (f := c.find) fun id hid =>
    (hlisted id hid).imp fun t ht => find_eq_ok.mpr ht.1
  refine ⟨ts, ?_, ?_⟩
  · unfold order
    rw [bind_eq_ok]
    exact ⟨selection, hselection, hts⟩
  · intro t ht
    obtain ⟨id, hid, hfound⟩ := (mem_of_mapM hts).mp ht
    obtain ⟨t', hget, hbackend⟩ := hlisted id hid
    have heq : t = t' := Option.some.inj ((find_eq_ok.mp hfound).symm.trans hget)
    rw [heq]
    exact hbackend

namespace RenderInput

variable {input : RenderInput}

/-- A template of the backend fails to contribute for its content. -/
theorem templateFragments_failsWith (context : Context) {t : Template}
    (ht : t.backend = input.configuration.backend) :
    FailsWith Error.IsContent (input.templateFragments context t) := by
  unfold templateFragments
  rw [Catalog.checkBackend_eq_ok.mpr ht]
  refine FailsWith.bind (FailsWith.ok ()) fun _ _ => ?_
  refine FailsWith.bind (Json.fillAll_failsWith _ _ t.document) fun fragment _ => ?_
  split <;> exact FailsWith.ok _

/-- A list that fits its backend is rendered, or refused for what the documents say. -/
theorem render_failsWith (hc : input.catalog.Keyed)
    (hfits : input.catalog.Fits input.configuration.backend input.configuration.templates)
    (fleet : Context) : FailsWith Error.IsContent (input.render fleet) := by
  -- The templates are put in order, so that only their documents are left to fail.
  obtain ⟨ordered, horder, hbackend⟩ := Catalog.exists_order_eq_ok hc hfits
  have hfragments : FailsWith Error.IsContent (input.fragments fleet) := by
    unfold fragments
    dsimp only
    rw [horder]
    refine FailsWith.bind (FailsWith.ok ordered) fun ts hts => ?_
    cases hts
    refine FailsWith.bind (FailsWith.mapM fun t ht => ?_) fun parts _ => ?_
    · exact templateFragments_failsWith _ (hbackend t ht)
    · refine FailsWith.bind
        (Json.fillAll_failsWith _ _ input.configuration.document) fun base _ => ?_
      exact FailsWith.ok _
  have hcompose : FailsWith Error.IsContent (input.compose fleet) := by
    unfold compose
    refine FailsWith.bind hfragments fun parts _ => ?_
    refine FailsWith.bind (Json.validate_failsWith _) fun _ _ => ?_
    exact FailsWith.ok _
  exact hcompose.map

end RenderInput

namespace Inventory

variable {inv : Inventory} {x : DeviceId} {d : Device} {k : Configuration}

/-- The memberships of a device are read where the servers exist. -/
theorem exists_attachmentsOf_eq_ok
    (h : ∀ client ∈ inv.clientsOf x, ∃ s, inv.servers.get? client.server = some s) :
    ∃ vpn, inv.attachmentsOf x = .ok vpn := by
  unfold attachmentsOf
  apply exists_mapM_eq_ok
  intro client hclient
  obtain ⟨s, hs⟩ := h client hclient
  refine ⟨⟨s, client⟩, ?_⟩
  rw [server_eq_ok.mpr hs]
  rfl

/-- A device whose records fit together is rendered, or refused for what the documents say. -/
theorem render_failsWith (hd : inv.devices.get? x = some d)
    (hk : inv.configurations.get? x = some k)
    (hjoined : ∀ client ∈ inv.clientsOf x, ∃ s, inv.servers.get? client.server = some s)
    (hc : inv.templates.Keyed) (hfits : inv.templates.Fits k.backend k.templates)
    (fleet : Context) : FailsWith Error.IsContent (inv.render fleet x) := by
  obtain ⟨vpn, hvpn⟩ := exists_attachmentsOf_eq_ok hjoined
  have hinput : inv.render fleet x = (inv.inputOf d k vpn).render fleet := by
    rw [render_eq_bind hd hk, hvpn]
    rfl
  rw [hinput]
  exact RenderInput.render_failsWith hc hfits fleet

end Inventory

end Fleet
