/-
# What rendering reads

Rendering a configuration reads some of what is stored for its device and of what the device shares
with others: of a template neither its name nor its owner, and of its flags only the rank.  Where
all that is read looks the same, the rendered text is the same, and so is the error if there is one.

Main statements: `RenderInput.Alike.render_eq`, `Inventory.Alike.render_eq`.
-/
import Fleet.Proofs.Frame
import Fleet.Proofs.Lists

namespace Fleet

open Outcomes

/-! ## Sorting what looks the same -/

namespace Ordered

variable {α β : Type} {before : α → α → Bool} {before' : β → β → Bool} {f : α → β}

/-- Placing commutes with a view that the order respects. -/
theorem place_map (h : ∀ a b, before' (f a) (f b) = before a b) (a : α) (l : List α) :
    place before' (f a) (l.map f) = (place before a l).map f := by
  induction l with
  | nil => rfl
  | cons b rest ih =>
      rw [List.map_cons, place, place, h]
      split
      · rfl
      · rw [ih, List.map_cons]

/-- Sorting commutes with a view that the order respects. -/
theorem sortBy_map (h : ∀ a b, before' (f a) (f b) = before a b) (l : List α) :
    sortBy before' (l.map f) = (sortBy before l).map f := by
  induction l with
  | nil => rfl
  | cons a rest ih => rw [List.map_cons, sortBy, ih, place_map h, sortBy]

end Ordered

/-! ## Templates -/

namespace Template

/-- What rendering reads of a template: its flags count through the rank only. -/
def core (t : Template) : Template :=
  { t with name := "", organization := none, required := t.rank == 0, default := t.rank == 1 }

/-- The rank is part of it. -/
@[simp] theorem rank_core (t : Template) : t.core.rank = t.rank := by
  unfold core rank
  cases t.required <;> cases t.default <;> rfl

/-- Dropping repeated templates commutes with the view. -/
theorem distinct_map_core (seen : List TemplateId) (l : List Template) :
    distinct seen (l.map core) = (distinct seen l).map core := by
  induction l generalizing seen with
  | nil => rfl
  | cons t rest ih =>
      rw [List.map_cons, distinct, distinct]
      show (if seen.contains t.id then _ else _) = _
      split
      · exact ih seen
      · rw [List.map_cons, ih (t.core.id :: seen)]
        rfl

/-- The final order is decided by what rendering reads. -/
theorem sortedIds_map_core (l : List Template) : sortedIds (l.map core) = sortedIds l := by
  unfold sortedIds
  dsimp only
  have hnumbered : ((distinct [] l).map core).zipIdx.map Prod.swap =
      ((distinct [] l).zipIdx.map Prod.swap).map (Prod.map (fun n => n) core) := by
    rw [List.zipIdx_map, List.map_map, List.map_map]
    rfl
  have hprecedes : ∀ a b : Nat × Template,
      precedes (Prod.map (fun n => n) core a) (Prod.map (fun n => n) core b) = precedes a b := by
    intro a b
    unfold precedes
    simp only [Prod.map_snd, Prod.map_fst, rank_core]
    rfl
  rw [distinct_map_core, hnumbered, Ordered.sortBy_map hprecedes, List.map_map]
  rfl

/-- Selections that look the same have the same final order. -/
theorem sortedIds_congr {l l' : List Template} (h : l.map core = l'.map core) :
    sortedIds l = sortedIds l' := by
  rw [← sortedIds_map_core l, h, sortedIds_map_core]

/-- Templates of equal content look the same if they rank alike and are spelled alike. -/
theorem core_eq {t p : Template} (hid : t.id = p.id) (hcreated : t.created = p.created)
    (hsame : t.contentDiffers p = false) (hrank : t.rank = p.rank)
    (hdocument : t.document = p.document) : t.core = p.core := by
  unfold contentDiffers at hsame
  simp only [Bool.or_eq_false_iff, bne_eq_false_iff_eq] at hsame
  obtain ⟨⟨⟨⟨hbackend, _⟩, hvalues⟩, hkind⟩, hvpn⟩ := hsame
  unfold core
  rw [hid, hbackend, hkind, hvpn, hrank, hdocument, hvalues, hcreated]

end Template

/-! ## Catalogs -/

namespace Catalog

/-- The templates of a list look the same in both catalogs. -/
def AlikeOn (c c' : Catalog) (ts : List TemplateId) : Prop :=
  ∀ t ∈ ts, (c'.get? t).map Template.core = (c.get? t).map Template.core

/-- The templates that rendering looks up for a list: those on it, and once more those under the
identifiers of the records found. -/
def reached (c : Catalog) (ts : List TemplateId) : List TemplateId :=
  ts ++ (c.present ts).map Template.id

variable {c c' : Catalog} {k : Configuration}

/-- Where every template is stored under its own identifier these are the templates on the list. -/
theorem mem_reached {ts : List TemplateId} {t : TemplateId} (hc : c.Keyed) :
    t ∈ c.reached ts ↔ t ∈ ts := by
  refine ⟨fun ht => ?_, fun ht => List.mem_append_left _ ht⟩
  rcases List.mem_append.mp ht with ht | ht
  · exact ht
  · obtain ⟨T, hT, rfl⟩ := List.mem_map.mp ht
    obtain ⟨i, hi, hget⟩ := mem_present.mp hT
    exact hc i T hget ▸ hi

/-- Templates that look the same are found alike. -/
theorem find_core {id : TemplateId}
    (h : (c'.get? id).map Template.core = (c.get? id).map Template.core) :
    (c'.find id).map Template.core = (c.find id).map Template.core := by
  unfold find
  cases hc : c.get? id with
  | none =>
      rw [hc, Option.map_none, Option.map_eq_none_iff] at h
      rw [h]
  | some t =>
      rw [hc, Option.map_some, Option.map_eq_some_iff] at h
      obtain ⟨t', ht', hcore⟩ := h
      rw [ht']
      exact congrArg Except.ok hcore

/-- The templates of a configuration, each checked for its backend. -/
theorem selection_core (backend : Backend) {id : TemplateId}
    (h : (c'.get? id).map Template.core = (c.get? id).map Template.core) :
    (do let t ← c'.find id; checkBackend t backend; return t : Except Error Template).map
        Template.core =
      (do let t ← c.find id; checkBackend t backend; return t : Except Error Template).map
        Template.core := by
  -- The check may look at the core.
  have hcheck : ∀ x : Except Error Template,
      (do let t ← x; checkBackend t backend; return t : Except Error Template).map Template.core =
        (do let t ← x.map Template.core; checkBackend t backend; return t) := by
    intro x
    cases x with
    | error e => rfl
    | ok t =>
        show (do checkBackend t backend; return t : Except Error Template).map Template.core =
          (do checkBackend t.core backend; return t.core)
        have hcore : checkBackend t.core backend = checkBackend t backend := rfl
        rw [hcore]
        cases checkBackend t backend <;> rfl
  rw [hcheck, hcheck, find_core h]

/-- A configuration orders templates that look the same alike. -/
theorem order_core (h : AlikeOn c c' (c.reached k.templates)) :
    (c'.order k).map (List.map Template.core) = (c.order k).map (List.map Template.core) := by
  unfold order
  have hselection := mapM_map_congr fun id hid =>
    selection_core k.backend (h id (List.mem_append_left _ hid))
  cases hs : k.templates.mapM fun id =>
      (do let t ← c.find id; checkBackend t k.backend; return t : Except Error Template) with
  | error e =>
      rw [hs] at hselection
      cases hs' : k.templates.mapM fun id =>
          (do let t ← c'.find id; checkBackend t k.backend; return t : Except Error Template) with
      | error e' =>
          rw [hs'] at hselection
          cases hselection
          rfl
      | ok s' =>
          rw [hs'] at hselection
          cases hselection
  | ok s =>
      rw [hs] at hselection
      cases hs' : k.templates.mapM fun id =>
          (do let t ← c'.find id; checkBackend t k.backend; return t : Except Error Template) with
      | error e' =>
          rw [hs'] at hselection
          cases hselection
      | ok s' =>
          rw [hs'] at hselection
          have hsorted := Template.sortedIds_congr (Except.ok.inj hselection)
          show ((Template.sortedIds s').mapM c'.find).map _ =
            ((Template.sortedIds s).mapM c.find).map _
          rw [hsorted]
          refine mapM_map_congr fun id hid => find_core (h id (List.mem_append_right _ ?_))
          -- What was selected was found for the list.
          obtain ⟨t, ht, rfl⟩ := Template.mem_sortedIds.mp hid
          obtain ⟨i, hi, hit⟩ := (mem_of_mapM hs).mp ht
          simp only [bind_eq_ok, find_eq_ok, pure_eq_ok] at hit
          obtain ⟨_, hu, _, _, rfl⟩ := hit
          exact List.mem_map_of_mem (mem_present.mpr ⟨i, hi, hu⟩)

end Catalog

/-! ## Documents -/

namespace Json

/-- Members of equal objects are found alike. -/
theorem find?_of_sameMembers {name : String} :
    ∀ {xs ys : List (String × Json)}, sameMembers xs ys = true →
      (Assoc.find? name xs = none ∧ Assoc.find? name ys = none) ∨
        ∃ u w, Assoc.find? name xs = some u ∧ Assoc.find? name ys = some w ∧ u.same w = true
  | [], [], _ => Or.inl ⟨rfl, rfl⟩
  | (j, u) :: xs, (k, w) :: ys, h => by
      rw [sameMembers, Bool.and_eq_true, Bool.and_eq_true, beq_iff_eq] at h
      obtain ⟨⟨rfl, hsame⟩, hrest⟩ := h
      rw [Assoc.find?, Assoc.find?]
      split
      · exact Or.inr ⟨u, w, rfl, rfl, hsame⟩
      · exact find?_of_sameMembers hrest
  | [], _ :: _, h | _ :: _, [], h => by
      simp [sameMembers] at h

/-- A step into equal documents leads to equal documents. -/
theorem step?_of_same {a b : Json} (h : a.same b = true) (name : String) :
    (a.step? name = none ∧ b.step? name = none) ∨
      ∃ u w, a.step? name = some u ∧ b.step? name = some w ∧ u.same w = true := by
  cases a <;> cases b <;> simp only [same, Bool.false_eq_true] at h
  case object xs ys => exact find?_of_sameMembers h
  case array xs ys =>
    have hstep : ∀ items, (array items).step? name = if name = "0" then items.head? else none :=
      fun _ => rfl
    rw [hstep, hstep]
    by_cases hname : name = "0"
    · rw [if_pos hname, if_pos hname]
      cases xs <;> cases ys <;> simp only [sameItems, Bool.false_eq_true, Bool.and_eq_true] at h
      · exact Or.inl ⟨rfl, rfl⟩
      · exact Or.inr ⟨_, _, rfl, rfl, h.1⟩
    · rw [if_neg hname, if_neg hname]
      exact Or.inl ⟨rfl, rfl⟩
  all_goals exact Or.inl ⟨rfl, rfl⟩

/-- Equal documents have the same natural numbers in the same places. -/
theorem nat?_at?_of_same (path : List String) :
    ∀ {a b : Json}, a.same b = true → (a.at? path).bind nat? = (b.at? path).bind nat? := by
  induction path with
  | nil =>
      intro a b h
      show a.nat? = b.nat?
      cases a <;> cases b <;> simp only [same, Bool.false_eq_true] at h <;> try rfl
      rename_i m n
      cases m <;> cases n <;> simp only [Number.same, Bool.false_eq_true, beq_iff_eq] at h
      · rw [h]
      · rfl
  | cons name path ih =>
      intro a b h
      rw [at?, at?]
      rcases step?_of_same h name with ⟨ha, hb⟩ | ⟨u, w, hu, hw, hsame⟩
      · rw [ha, hb]
      · rw [hu, hw]
        exact ih hsame

end Json

/-! ## Memberships -/

/-- What rendering reads of a membership: the server, its tunnel family and the variables. -/
def VpnAttachment.shown (a : VpnAttachment) : ServerId × TunnelFamily × List (String × String) :=
  (a.server.id, a.server.family, a.variables)

/-- Servers of one name and family have the same stanza. -/
theorem VpnServer.stanza_congr {s s' : VpnServer} (hid : s'.id = s.id)
    (hfamily : s'.family = s.family) (context : Context) :
    s'.stanza context = s.stanza context := by
  unfold stanza stanzaEntry
  rw [hid, hfamily]

/-- A membership shows nothing of a document but its value. -/
theorem VpnServer.shown_of_same {s p : VpnServer} (h : s.same p = true) (client : VpnClient) :
    VpnAttachment.shown ⟨s, client⟩ = VpnAttachment.shown ⟨p, client⟩ := by
  unfold same at h
  rw [Bool.and_eq_true, beq_iff_eq] at h
  obtain ⟨hdocument, hrest⟩ := h
  have hbackend : p.backend = s.backend := (congrArg VpnServer.backend hrest).symm
  have hfamily : p.family = s.family := by
    unfold family
    rw [hbackend]
  have hvni : p.fixedVni? = s.fixedVni? := by
    unfold fixedVni?
    rw [hfamily, Json.nat?_at?_of_same _ hdocument]
  have hport : p.wireguardPort? = s.wireguardPort? := (Json.nat?_at?_of_same _ hdocument).symm
  have hid : p.id = s.id := (congrArg VpnServer.id hrest).symm
  have hhost : p.host = s.host := (congrArg VpnServer.host hrest).symm
  have hkey : p.publicKey = s.publicKey := (congrArg VpnServer.publicKey hrest).symm
  have haddress : p.ipAddress = s.ipAddress := (congrArg VpnServer.ipAddress hrest).symm
  have hvalue : ∀ v : VpnVariable, v.value? ⟨p, client⟩ = v.value? ⟨s, client⟩ := by
    intro v
    unfold VpnVariable.value?
    dsimp only
    rw [hfamily, hvni, hport, hhost, hkey, haddress]
  unfold VpnAttachment.shown VpnAttachment.variables
  dsimp only
  rw [hid, hfamily]
  simp only [hvalue]

/-! ## Inputs -/

namespace RenderInput

/-- All that rendering reads looks the same. -/
structure Alike (a b : RenderInput) : Prop where
  /-- The identity of the device. -/
  identity : b.device.variables = a.device.variables
  /-- The template list. -/
  templates : b.configuration.templates = a.configuration.templates
  /-- The base document. -/
  document : b.configuration.document = a.configuration.document
  /-- The variables of the configuration. -/
  context : b.configuration.context = a.configuration.context
  /-- The backend. -/
  backend : b.configuration.backend = a.configuration.backend
  /-- The variables of the organization. -/
  organization : b.organization = a.organization
  /-- The variables of the group. -/
  group : b.group = a.group
  /-- The memberships. -/
  vpn : b.vpn.map VpnAttachment.shown = a.vpn.map VpnAttachment.shown
  /-- The templates that are looked up for the list. -/
  catalog : Catalog.AlikeOn a.catalog b.catalog (a.catalog.reached a.configuration.templates)

namespace Alike

variable {a b : RenderInput}

/-- The variables are resolved alike. -/
theorem resolve_eq (h : Alike a b) (fleet : Context) : b.resolve fleet = a.resolve fleet := by
  have hvpn : ∀ input : RenderInput, input.vpn.flatMap VpnAttachment.variables =
      (input.vpn.map VpnAttachment.shown).flatMap fun s => s.2.2 := by
    intro input
    rw [List.flatMap_map]
    rfl
  unfold VariableSources.resolve
  rw [h.organization, h.group, h.context, h.identity, hvpn b, h.vpn, ← hvpn a]

/-- The membership that a template belongs to is found alike. -/
theorem attachmentFor_shown (h : Alike a b) (t : Template) :
    (b.attachmentFor t).map VpnAttachment.shown = (a.attachmentFor t).map VpnAttachment.shown := by
  have hshown : ∀ input : RenderInput, (input.attachmentFor t).map VpnAttachment.shown =
      (input.vpn.map VpnAttachment.shown).find? fun s => t.vpn == some s.1 := by
    intro input
    rw [List.find?_map]
    rfl
  rw [hshown, hshown, h.vpn]

/-- A template contributes the same. -/
theorem templateFragments_eq (h : Alike a b) (context : Context) (t : Template) :
    b.templateFragments context t = a.templateFragments context t := by
  have hattachment := h.attachmentFor_shown t
  unfold templateFragments
  rw [h.backend]
  cases checkBackend t a.configuration.backend with
  | error e => rfl
  | ok _ =>
      cases t.document.substitute t.id.text context t.defaultValues with
      | error e => rfl
      | ok fragment =>
          dsimp only [bind, Except.bind]
          cases ha : a.attachmentFor t with
          | none =>
              rw [ha, Option.map_none, Option.map_eq_none_iff] at hattachment
              rw [hattachment]
          | some x =>
              rw [ha, Option.map_some, Option.map_eq_some_iff] at hattachment
              obtain ⟨y, hy, hxy⟩ := hattachment
              obtain ⟨hid, hrest⟩ := Prod.mk.inj hxy
              rw [hy]
              cases t.isVpn with
              | false => rfl
              | true =>
                  dsimp only
                  rw [VpnServer.stanza_congr hid (Prod.mk.inj hrest).1]

/-- The same text is rendered, or there is the same error. -/
theorem render_eq (h : Alike a b) (fleet : Context) : b.render fleet = a.render fleet := by
  have horder : b.catalog.order b.configuration = b.catalog.order a.configuration := by
    unfold Catalog.order
    rw [h.templates, h.backend]
  -- What a template contributes is read off its core.
  have hparts : ∀ x : Except Error (List Template),
      (x >>= fun ordered => ordered.mapM (a.templateFragments (a.resolve fleet))) =
        (x.map (List.map Template.core) >>= fun ordered =>
          ordered.mapM (a.templateFragments (a.resolve fleet))) := by
    intro x
    cases x with
    | error e => rfl
    | ok ordered =>
        show ordered.mapM _ = (ordered.map Template.core).mapM _
        rw [List.mapM_map]
        rfl
  have hfragments : b.fragments fleet = a.fragments fleet := by
    have hmapM : b.templateFragments (a.resolve fleet) = a.templateFragments (a.resolve fleet) :=
      funext fun t => h.templateFragments_eq _ t
    unfold fragments
    dsimp only
    rw [h.resolve_eq, hmapM, horder, h.document]
    simp only [← bind_assoc]
    rw [hparts (b.catalog.order a.configuration), hparts (a.catalog.order a.configuration),
      Catalog.order_core h.catalog]
  unfold render compose
  rw [hfragments]

end Alike

end RenderInput

/-! ## Inventories -/

/-- What rendering reads of a device: the variables, and where to look for more of them. -/
def Device.shown (d : Device) : List (String × String) × OrgId × Option GroupId :=
  (d.variables, d.organization, d.group)

/-- What rendering reads of a configuration. -/
def Configuration.shown (k : Configuration) : List TemplateId × Json × Context × Backend :=
  (k.templates, k.document, k.context, k.backend)

namespace Inventory

/-- The memberships of a device with their servers, which have to exist. -/
def attachmentsOf (inv : Inventory) (x : DeviceId) : Except Error (List VpnAttachment) :=
  (inv.clientsOf x).mapM fun client => do
    let server ← inv.server client.server
    return ⟨server, client⟩

/-- All that rendering reads, for a device, its configuration and its memberships. -/
def inputOf (inv : Inventory) (d : Device) (k : Configuration) (vpn : List VpnAttachment) :
    RenderInput where
  device := d
  configuration := k
  organization := (inv.organizations.get? d.organization).map OrganizationSettings.context
  group := (d.group.bind inv.groups.get?).map DeviceGroup.context
  vpn := vpn
  catalog := inv.templates

/-- What is rendered for a device with a configuration. -/
theorem render_eq_bind {inv : Inventory} {x : DeviceId} {d : Device} {k : Configuration}
    (hd : inv.devices.get? x = some d) (hk : inv.configurations.get? x = some k) (fleet : Context) :
    inv.render fleet x =
      (inv.attachmentsOf x).bind fun vpn => (inv.inputOf d k vpn).render fleet := by
  unfold render renderInput attachmentsOf
  rw [device_eq_ok.mpr hd, configuration_eq_ok.mpr hk]
  simp only [bind_assoc, pure_bind]
  rfl

/-- What is rendered has a device. -/
theorem exists_device_of_render {inv : Inventory} {x : DeviceId} {fleet : Context} {text : String}
    (h : inv.render fleet x = .ok text) : ∃ d, inv.devices.get? x = some d := by
  unfold render renderInput at h
  simp only [bind_eq_ok, device_eq_ok] at h
  obtain ⟨_, ⟨d, hd, _⟩, _⟩ := h
  exact ⟨d, hd⟩

/-- All that rendering the configuration of a device reads looks the same in both inventories. -/
structure Alike (inv inv' : Inventory) (x : DeviceId) : Prop where
  /-- The device. -/
  device : (inv'.devices.get? x).map Device.shown = (inv.devices.get? x).map Device.shown
  /-- The configuration. -/
  configuration : (inv'.configurations.get? x).map Configuration.shown =
    (inv.configurations.get? x).map Configuration.shown
  /-- The memberships. -/
  clients : inv'.clientsOf x = inv.clientsOf x
  /-- The servers that the device joined. -/
  servers : ∀ client ∈ inv.clientsOf x,
    (inv'.servers.get? client.server).map (fun s => VpnAttachment.shown ⟨s, client⟩) =
      (inv.servers.get? client.server).map fun s => VpnAttachment.shown ⟨s, client⟩
  /-- The organization. -/
  organization : ∀ d, inv.devices.get? x = some d →
    (inv'.organizations.get? d.organization).map OrganizationSettings.context =
      (inv.organizations.get? d.organization).map OrganizationSettings.context
  /-- The group. -/
  group : ∀ d, inv.devices.get? x = some d →
    (d.group.bind inv'.groups.get?).map DeviceGroup.context =
      (d.group.bind inv.groups.get?).map DeviceGroup.context
  /-- The templates on the list. -/
  catalog : ∀ k, inv.configurations.get? x = some k →
    Catalog.AlikeOn inv.templates inv'.templates k.templates

namespace Alike

variable {inv inv' : Inventory} {x : DeviceId}

/-- An inventory looks the same as itself. -/
theorem refl (inv : Inventory) (x : DeviceId) : Alike inv inv x :=
  ⟨rfl, rfl, rfl, fun _ _ => rfl, fun _ _ => rfl, fun _ _ => rfl, fun _ _ _ _ => rfl⟩

/-- Where nothing is edited only what devices share can look different. -/
theorem of_agreesOff {ids : List DeviceId} (h : AgreesOff ids inv inv') (hx : x ∉ ids)
    (hservers : ∀ client ∈ inv.clientsOf x,
      (inv'.servers.get? client.server).map (fun s => VpnAttachment.shown ⟨s, client⟩) =
        (inv.servers.get? client.server).map fun s => VpnAttachment.shown ⟨s, client⟩)
    (horganization : ∀ d, inv.devices.get? x = some d →
      inv'.organizations.get? d.organization = inv.organizations.get? d.organization)
    (hgroup : ∀ d, inv.devices.get? x = some d →
      d.group.bind inv'.groups.get? = d.group.bind inv.groups.get?)
    (hcatalog : ∀ k, inv.configurations.get? x = some k →
      Catalog.AlikeOn inv.templates inv'.templates k.templates) : Alike inv inv' x := by
  refine ⟨?_, ?_, h.clients x hx, hservers, fun d hd => ?_, fun d hd => ?_, hcatalog⟩
  · rw [h.device x hx]
  · rw [h.configuration x hx]
  · rw [horganization d hd]
  · rw [hgroup d hd]

/-- What is shared need not be looked at where it is the same. -/
theorem of_shares (hdevice : (inv'.devices.get? x).map Device.shown =
      (inv.devices.get? x).map Device.shown)
    (hconfiguration : (inv'.configurations.get? x).map Configuration.shown =
      (inv.configurations.get? x).map Configuration.shown)
    (hclients : inv'.clientsOf x = inv.clientsOf x) (hs : SharesWith inv inv') :
    Alike inv inv' x := by
  refine ⟨hdevice, hconfiguration, hclients, fun _ _ => ?_, fun _ _ => ?_, fun _ _ => ?_,
    fun _ _ _ _ => ?_⟩
  · rw [hs.servers]
  · rw [hs.organizations]
  · rw [hs.groups]
  · rw [hs.templates]

/-- Where nothing is edited and nothing that is shared is different a device looks the same. -/
theorem of_untouched {ids : List DeviceId} (h : AgreesOff ids inv inv') (hx : x ∉ ids)
    (hs : SharesWith inv inv') : Alike inv inv' x := by
  refine of_shares ?_ ?_ (h.clients x hx) hs
  · rw [h.device x hx]
  · rw [h.configuration x hx]

/-- The memberships are read alike, or there is the same error. -/
theorem attachmentsOf_shown (h : Alike inv inv' x) :
    (inv'.attachmentsOf x).map (List.map VpnAttachment.shown) =
      (inv.attachmentsOf x).map (List.map VpnAttachment.shown) := by
  unfold attachmentsOf
  rw [h.clients]
  apply mapM_map_congr
  intro client hclient
  have hserver := h.servers client hclient
  unfold server
  cases hs : inv.servers.get? client.server with
  | none =>
      rw [hs, Option.map_none, Option.map_eq_none_iff] at hserver
      rw [hserver]
  | some s =>
      rw [hs, Option.map_some, Option.map_eq_some_iff] at hserver
      obtain ⟨s', hs', hshown⟩ := hserver
      rw [hs']
      exact congrArg Except.ok hshown

/-- A device without record or configuration is not rendered, and the error is the same. -/
theorem render_eq_of_none (h : Alike inv inv' x)
    (hnone : inv.devices.get? x = none ∨ inv.configurations.get? x = none) (fleet : Context) :
    inv'.render fleet x = inv.render fleet x := by
  have hdevice := h.device
  have hconfiguration := h.configuration
  unfold Inventory.render renderInput Inventory.device Inventory.configuration
  rcases hnone with hd | hk
  · rw [hd, Option.map_none, Option.map_eq_none_iff] at hdevice
    rw [hd, hdevice]
    rfl
  · rw [hk, Option.map_none, Option.map_eq_none_iff] at hconfiguration
    rw [hk, hconfiguration]
    cases hd : inv.devices.get? x with
    | none =>
        rw [hd, Option.map_none, Option.map_eq_none_iff] at hdevice
        rw [hdevice]
        rfl
    | some d =>
        rw [hd, Option.map_some, Option.map_eq_some_iff] at hdevice
        obtain ⟨d', hd', _⟩ := hdevice
        rw [hd']
        rfl

/-- The same text is rendered, or there is the same error, if all templates that are looked up
look the same. -/
theorem render_eq_of_reached (h : Alike inv inv' x)
    (hreached : ∀ k, inv.configurations.get? x = some k →
      Catalog.AlikeOn inv.templates inv'.templates (inv.templates.reached k.templates))
    (fleet : Context) : inv'.render fleet x = inv.render fleet x := by
  cases hd : inv.devices.get? x with
  | none => exact h.render_eq_of_none (Or.inl hd) fleet
  | some d =>
  cases hk : inv.configurations.get? x with
  | none => exact h.render_eq_of_none (Or.inr hk) fleet
  | some k =>
  have hdevice := h.device
  rw [hd, Option.map_some, Option.map_eq_some_iff] at hdevice
  obtain ⟨d', hd', hshown⟩ := hdevice
  obtain ⟨hvariables, hwhere⟩ := Prod.mk.inj hshown
  obtain ⟨horganization, hgroup⟩ := Prod.mk.inj hwhere
  have hconfiguration := h.configuration
  rw [hk, Option.map_some, Option.map_eq_some_iff] at hconfiguration
  obtain ⟨k', hk', hshown⟩ := hconfiguration
  obtain ⟨htemplates, hshown⟩ := Prod.mk.inj hshown
  obtain ⟨hdocument, hshown⟩ := Prod.mk.inj hshown
  obtain ⟨hcontext, hbackend⟩ := Prod.mk.inj hshown
  -- Both inventories hold the device, so that what it is rendered from is compared field by field.
  have hvpn := h.attachmentsOf_shown
  have ho : (inv'.organizations.get? d'.organization).map OrganizationSettings.context =
      (inv.organizations.get? d.organization).map OrganizationSettings.context := by
    rw [horganization]
    exact h.organization d hd
  have hg : (d'.group.bind inv'.groups.get?).map DeviceGroup.context =
      (d.group.bind inv.groups.get?).map DeviceGroup.context := by
    rw [hgroup]
    exact h.group d hd
  rw [render_eq_bind hd hk, render_eq_bind hd' hk']
  cases hl : inv.attachmentsOf x with
  | error e =>
      cases hl' : inv'.attachmentsOf x with
      | error e' =>
          rw [hl, hl'] at hvpn
          cases hvpn
          rfl
      | ok l' =>
          rw [hl, hl'] at hvpn
          cases hvpn
  | ok l =>
      cases hl' : inv'.attachmentsOf x with
      | error e' =>
          rw [hl, hl'] at hvpn
          cases hvpn
      | ok l' =>
          rw [hl, hl'] at hvpn
          have hattached : l'.map VpnAttachment.shown = l.map VpnAttachment.shown :=
            Except.ok.inj hvpn
          have halike : RenderInput.Alike (inv.inputOf d k l) (inv'.inputOf d' k' l') :=
            ⟨hvariables, htemplates, hdocument, hcontext, hbackend, ho, hg, hattached,
              hreached k hk⟩
          exact halike.render_eq fleet

/-- The same text is rendered, or there is the same error. -/
theorem render_eq (h : Alike inv inv' x) (hkeyed : inv.templates.Keyed) (fleet : Context) :
    inv'.render fleet x = inv.render fleet x :=
  h.render_eq_of_reached
    (fun k hk t ht => h.catalog k hk t ((Catalog.mem_reached hkeyed).mp ht)) fleet

end Alike

end Inventory

end Fleet
