/-
# Deactivated devices are empty

When a device is deactivated its configuration is emptied and its memberships end.  While it stays
deactivated nothing reaches it but what is asked for it: whatever is there was put there by such a
request, and has been there ever since.  Otherwise the configuration renders to the empty object,
and no server advertises the device.

Main statement: `Controller.isolated_of_deactivated`.
-/
import Fleet.Proofs.Failures
import Fleet.Proofs.Intrusions
import Fleet.Proofs.PeerLists

namespace Fleet

/-! ## Empty configurations -/

/-- A configuration without templates and with an empty base document renders to the
empty object. -/
theorem RenderInput.render_of_empty {input : RenderInput}
    (hdocument : input.configuration.document = .emptyObject)
    (htemplates : input.configuration.templates = []) (fleet : Context) :
    input.render fleet = .ok "\x7b\x7d" := by
  have horder : input.catalog.order input.configuration = .ok [] := by
    unfold Catalog.order
    rw [htemplates]
    rfl
  have hfragments : input.fragments fleet = .ok [.emptyObject] := by
    unfold fragments
    rw [horder, hdocument]
    rfl
  have hcompose : input.compose fleet = .ok .emptyObject := by
    unfold compose
    rw [hfragments]
    rfl
  unfold render
  rw [hcompose]
  rfl

namespace Inventory

/-- So does the device, if the servers it joined exist. -/
theorem render_of_empty {inv : Inventory} {x : DeviceId} {d : Device} {k : Configuration}
    (hd : inv.devices.get? x = some d) (hk : inv.configurations.get? x = some k)
    (hjoined : ∀ client ∈ inv.clientsOf x, ∃ s, inv.servers.get? client.server = some s)
    (hdocument : k.document = .emptyObject) (htemplates : k.templates = []) (fleet : Context) :
    inv.render fleet x = .ok "\x7b\x7d" := by
  obtain ⟨vpn, hvpn⟩ := exists_attachmentsOf_eq_ok hjoined
  rw [render_eq_bind hd hk, hvpn]
  exact RenderInput.render_of_empty hdocument htemplates fleet

end Inventory

/-! ## What deactivated devices have -/

/-- Something that deactivation takes away. -/
inductive Content where
  /-- A base document, unless it is empty. -/
  | document (document : Json)
  /-- A template on the list. -/
  | template (t : TemplateId)
  /-- A membership. -/
  | membership (client : VpnClient)

namespace Content

/-- The content is there, given the configuration of the device. -/
def In (inv : Inventory) (x : DeviceId) (k : Configuration) : Content → Prop
  | document j => k.document = j ∧ j ≠ .emptyObject
  | template t => t ∈ k.templates
  | membership client => client ∈ inv.clientsOf x

/-- Whether it is there is told by document, list and memberships. -/
theorem In.congr {inv inv' : Inventory} {x : DeviceId} {k k' : Configuration} {content : Content}
    (h : content.In inv' x k') (hdocument : k'.document = k.document)
    (htemplates : k'.templates = k.templates) (hclients : inv'.clientsOf x = inv.clientsOf x) :
    content.In inv x k := by
  unfold In at h ⊢
  rw [← hdocument, ← htemplates, ← hclients]
  exact h

end Content

/-- A device is deactivated and has some content. -/
def Inventory.Retains (inv : Inventory) (x : DeviceId) (content : Content) : Prop :=
  ∃ k, inv.configurations.get? x = some k ∧ k.status.isDeactivation = true ∧ content.In inv x k

/-- A request puts some content on a device: it asks for just that, or it detaches all templates or
moves to another backend, which brings templates. -/
inductive Request.Fills (x : DeviceId) : Content → Request → Prop where
  | document {j : Json} : Fills x (.document j) (.setDocument x j)
  | template {t : TemplateId} {r : Request} (h : r.Gives x t) : Fills x (.template t) r
  | clear {t : TemplateId} : Fills x (.template t) (.clearTemplates x)
  | move {t : TemplateId} {backend : Backend} : Fills x (.template t) (.changeBackend x backend)
  | join {asked : VpnClient} {vni : Option Nat} (hdevice : asked.device = x) :
      Fills x (.membership { asked with vni }) (.attachClient asked)

/-- Making configurations modified puts nothing on a deactivated device. -/
theorem Inventory.Marks.retains {inv inv' : Inventory} {ids : List DeviceId} {x : DeviceId}
    {content : Content} (h : Marks inv ids inv') (hretains : inv'.Retains x content) :
    inv.Retains x content := by
  obtain ⟨k', hk', hstatus, hin⟩ := hretains
  obtain ⟨k, hk, rfl | ⟨d, _, rfl⟩⟩ := h.before hk'
  · exact ⟨k', hk, hstatus, hin.congr rfl rfl (h.clientsOf x)⟩
  · rw [Status.isDeactivation_marked] at hstatus
    exact ⟨k, hk, hstatus, hin.congr rfl rfl (h.clientsOf x)⟩

/-! ## Requests -/

namespace Controller

variable {settings : Settings} {outage : Outage} {c : Controller} {r : Request} {change : Change}
  {x : DeviceId} {content : Content} {now : Nat} {events : List Event}

namespace Rewrites

variable {inv : Inventory} {p d : Device} {k k' : Configuration}

/-- A configuration that becomes deactivated is emptied by the request to deactivate it. -/
theorem emptied (h : Rewrites inv x r p k d k') (hbefore : k.status.isDeactivation = false)
    (hafter : k'.status.isDeactivation = true) :
    r = .send x .deactivate ∧ k'.document = .emptyObject ∧ k'.templates = [] := by
  cases h.moves with
  | stays _ hstatus =>
      rw [hstatus, hbefore] at hafter
      cases hafter
  | signalled _ hstatus _ hdeactivate =>
      rw [Status.isDeactivation_of_after hstatus hbefore hdeactivate] at hafter
      cases hafter
  | deactivated _ _ hdocument htemplates => exact ⟨rfl, hdocument, htemplates⟩
  | activated _ hstatus =>
      rw [hstatus] at hafter
      cases hafter

/-- While a device is deactivated its list gets what is asked for it. -/
theorem template {t : TemplateId} (h : Rewrites inv x r p k d k') (hc : inv.templates.Keyed)
    (hinactive : p.active = false) (hbefore : k.status.isDeactivation = true)
    (hafter : k'.status.isDeactivation = true) (ht : t ∈ k'.templates) :
    t ∈ k.templates ∨ r.Fills x (.template t) := by
  rcases h.listed hc hinactive ht with hlisted | hgives | ⟨_, hmodified⟩ | hintrudes
  · exact Or.inl hlisted
  · exact Or.inr (.template hgives)
  · rw [hmodified] at hafter
    cases hafter
  · cases hintrudes with
    | clear => exact Or.inr .clear
    | move => exact Or.inr .move
    | complete _ _ _ _ huse =>
        rw [hbefore] at huse
        cases huse

end Rewrites

/-- A request to deactivate ends the memberships of the device, if its configuration becomes
deactivated. -/
theorem Makes.clientsOf_of_deactivate (h : Makes settings outage c (.send x .deactivate) change)
    {k k' : Configuration} (hk : c.inventory.configurations.get? x = some k)
    (hk' : change.edited.configurations.get? x = some k') (hstatus : k'.status ≠ k.status) :
    change.edited.clientsOf x = [] := by
  cases h with
  | idle =>
      rw [hk, Option.some.injEq] at hk'
      exact absurd (congrArg Configuration.status hk'.symm) hstatus
  | relist _ _ hts => cases hts
  | edit _ hedit => cases hedit
  | signal _ hk₀ _ _ hdeactivate hinv =>
      subst hinv
      rw [hk, Option.some.injEq] at hk₀
      rw [Inventory.putConfiguration_get?_self, Option.some.injEq] at hk'
      subst hk₀ hk'
      exact absurd (hdeactivate rfl) hstatus
  | deactivate _ _ _ hinv =>
      subst hinv
      unfold Inventory.clientsOf
      dsimp only
      rw [List.filter_filter, List.filter_eq_nil_iff]
      intro client _
      simp

/-- Memberships were there before, or are asked for. -/
theorem Makes.mem_clientsOf (hs : c.inventory.Sound) (h : Makes settings outage c r change)
    {client : VpnClient} (hclient : client ∈ change.edited.clientsOf x) :
    client ∈ c.inventory.clientsOf x ∨ r.Fills x (.membership client) := by
  obtain ⟨hmem, hdevice⟩ := Inventory.mem_clientsOf.mp hclient
  rcases h.mem_clients hs.devicesKeyed hmem with hbefore | ⟨asked, rfl, hinsert⟩
  · exact Or.inl (Inventory.mem_clientsOf.mpr ⟨hbefore, hdevice⟩)
  · obtain ⟨_, _, vni, _, _, _, _, _, rfl, _⟩ := Inventory.insertClient_eq_ok hinsert
    exact Or.inr (.join hdevice)

section Device

variable {p d : Device} {k k' : Configuration}

/-- A request that deactivates a device leaves nothing on it. -/
theorem Makes.not_in_of_emptied (h : Makes settings outage c r change)
    (hk : c.inventory.configurations.get? x = some k)
    (hk' : change.edited.configurations.get? x = some k')
    (hrewrites : Rewrites change.edited x r p k d k') (hbefore : k.status.isDeactivation = false)
    (hafter : k'.status.isDeactivation = true) : ¬ content.In change.edited x k' := by
  obtain ⟨rfl, hdocument, htemplates⟩ := hrewrites.emptied hbefore hafter
  have hstatus : k'.status ≠ k.status := by
    intro hsame
    rw [hsame, hbefore] at hafter
    cases hafter
  have hclients := h.clientsOf_of_deactivate hk hk' hstatus
  cases content with
  | document j =>
      rintro ⟨hj, hne⟩
      exact hne (hj.symm.trans hdocument)
  | template t =>
      unfold Content.In
      rw [htemplates]
      exact List.not_mem_nil
  | membership client =>
      unfold Content.In
      rw [hclients]
      exact List.not_mem_nil

/-- What a request leaves on a device that was deactivated before was there too, or is filled in. -/
theorem Makes.in_or_fills (hs : c.inventory.Sound) (h : Makes settings outage c r change)
    (hrewrites : Rewrites change.edited x r p k d k') (hinactive : p.active = false)
    (hbefore : k.status.isDeactivation = true) (hafter : k'.status.isDeactivation = true)
    (hin : content.In change.edited x k') : content.In c.inventory x k ∨ r.Fills x content := by
  cases content with
  | document j =>
      obtain ⟨rfl, hne⟩ := hin
      rcases hrewrites.document with hsame | hempty | rfl
      · exact Or.inl ⟨hsame.symm, hne⟩
      · exact absurd hempty hne
      · exact Or.inr .document
  | template t => exact hrewrites.template (h.sound hs).templates hinactive hbefore hafter hin
  | membership client => exact h.mem_clientsOf hs hin

end Device

/-- What a request leaves on a deactivated device was there before, or is filled in. -/
theorem Makes.retains (hs : c.inventory.Sound) (h : Makes settings outage c r change)
    (hretains : change.edited.Retains x content) :
    c.inventory.Retains x content ∨ r.Fills x content := by
  obtain ⟨k', hk', hafter, hin⟩ := hretains
  cases h.turns hs.devicesKeyed (fun x => (hs.devices x).paired) x with
  | absent _ hnone =>
      rw [hk'] at hnone
      cases hnone
  | added _ _ _ _ _ hk =>
      rw [hk', Option.some.injEq] at hk
      subst hk
      cases hafter
  | @rewritten _ p d k _ hp hk _ hk₁ hrewrites =>
      rw [hk', Option.some.injEq] at hk₁
      subst hk₁
      -- Either the device is deactivated by this request, which leaves nothing, or it was before.
      cases hbefore : k.status.isDeactivation with
      | false => exact absurd hin (h.not_in_of_emptied hk hk' hrewrites hbefore hafter)
      | true =>
          have hinactive := (hs.devices x).inactive hp hk hbefore
          refine (h.in_or_fills hs hrewrites hinactive hbefore hafter hin).imp_left ?_
          exact fun hin => ⟨k, hk, hbefore, hin⟩

/-! ## Runs -/

/-- Some content was put on a device that was deactivated, and it has been there and the device
deactivated ever since. -/
def Refilled (settings : Settings) (c : Controller) (events : List Event) (x : DeviceId)
    (content : Content) : Prop :=
  EverSince settings (fun c e => ¬ c.inventory.Retains x content ∧ e.Asks (Request.Fills x content))
    (fun c => c.inventory.Retains x content) c events

/-- What a deactivated device has was put there while it was deactivated. -/
theorem refilled_of_retains
    (h : ((start .empty now).run settings events).inventory.Retains x content) :
    Refilled settings (start .empty now) events x content := by
  have hstart : ¬ (start .empty now).inventory.Retains x content := by
    rintro ⟨k, hk, _⟩
    cases hk
  refine everSince_of_holds (I := fun c => c.inventory.Sound) (fun _ e hs => after_sound hs e)
    (fun c e hs hafter => ?_) (start_sound now) hstart h
  by_cases hbefore : c.inventory.Retains x content
  · exact Or.inl hbefore
  · cases e with
    | request outage r =>
        obtain ⟨change, hmakes, hfollows⟩ := answers_of_sound hs settings outage r
        have hfills := (hmakes.retains hs (hfollows.marks.retains hafter)).resolve_left hbefore
        exact Or.inr ⟨hbefore, hfills⟩
    | pass seconds => exact absurd hafter hbefore

/-- A device is isolated after a run, but for what was put on it while it was deactivated. -/
structure Isolated (settings : Settings) (now : Nat) (events : List Event) (x : DeviceId) :
    Prop where
  /-- It renders to the empty object, unless it got a base document or a template. -/
  renders : ((start .empty now).run settings events).render settings x = .ok "\x7b\x7d" ∨
    (∃ j, Refilled settings (start .empty now) events x (.document j)) ∨
    ∃ t, Refilled settings (start .empty now) events x (.template t)
  /-- Every template on its list was put there. -/
  templates : ∀ k,
    ((start .empty now).run settings events).inventory.configurations.get? x = some k →
    ∀ t ∈ k.templates, Refilled settings (start .empty now) events x (.template t)
  /-- It joined every server of which it is a member. -/
  memberships : ∀ client ∈ ((start .empty now).run settings events).inventory.clientsOf x,
    Refilled settings (start .empty now) events x (.membership client)
  /-- It joined every server that advertises it. -/
  peers : ∀ s peers, (((start .empty now).run settings events).peersFor s).1 = .ok peers →
    ∀ p ∈ peers, p.device = x → ∃ client, client.server = s ∧ client.peer? = some p ∧
      Refilled settings (start .empty now) events x (.membership client)

/-- After every run from an empty inventory, deactivated devices are isolated. -/
theorem isolated_of_deactivated (now : Nat) (events : List Event) {k : Configuration}
    (hk : ((start .empty now).run settings events).inventory.configurations.get? x = some k)
    (hdeactivation : k.status.isDeactivation = true) : Isolated settings now events x := by
  have hreach : Reachable settings ((start .empty now).run settings events) := ⟨now, events, rfl⟩
  have hat := hreach.sound.devices x
  have htemplates : ∀ t ∈ k.templates,
      Refilled settings (start .empty now) events x (.template t) :=
    fun t ht => refilled_of_retains ⟨k, hk, hdeactivation, ht⟩
  have hmemberships : ∀ client ∈ ((start .empty now).run settings events).inventory.clientsOf x,
      Refilled settings (start .empty now) events x (.membership client) :=
    fun client hclient => refilled_of_retains ⟨k, hk, hdeactivation, hclient⟩
  refine ⟨?_, fun k' hk' t ht => ?_, hmemberships, fun s peers hpeers p hp hdevice => ?_⟩
  · by_cases hdocument : k.document = .emptyObject
    · rcases List.eq_nil_or_concat k.templates with hnone | ⟨ts, t, hts⟩
      · left
        obtain ⟨d, hd⟩ := hat.paired.mpr ⟨k, hk⟩
        exact Inventory.render_of_empty hd hk hat.joined hdocument hnone settings.fleet
      · exact Or.inr (Or.inr ⟨t, htemplates t (by simp [hts])⟩)
    · exact Or.inr (Or.inl ⟨k.document, refilled_of_retains ⟨k, hk, hdeactivation, rfl, hdocument⟩⟩)
  · rw [hk, Option.some.injEq] at hk'
    subst hk'
    exact htemplates t ht
  · obtain ⟨_, rfl⟩ := hreach.warm.of_peersFor_eq_ok hpeers
    obtain ⟨client, hclient, hpeer⟩ := List.mem_filterMap.mp hp
    obtain ⟨hmem, hserver⟩ := Inventory.mem_clientsOn.mp hclient
    have hof : client.device = x := (VpnClient.device_of_peer? hpeer).symm.trans hdevice
    exact ⟨client, hserver, hpeer, hmemberships client (Inventory.mem_clientsOf.mpr ⟨hmem, hof⟩)⟩

/-- A device is deactivated and then joins a server. -/
def rejoinedSample : List Request :=
  [.addServer Sample.server, .addDevice Sample.device (Sample.configuration []),
    .send Sample.device.id .deactivate, .attachClient Sample.client]

/-- Nothing but that membership is there then. -/
theorem isolated_of_deactivated_sample :
    ∃ k,
      (Sample.controller rejoinedSample).inventory.configurations.get? Sample.device.id = some k ∧
      k.status.isDeactivation = true ∧
      Isolated Sample.settings 0 (Sample.events rejoinedSample) Sample.device.id := by
  have hk : (Sample.controller rejoinedSample).inventory.configurations.get? Sample.device.id =
      some { Sample.configuration [] with status := .deactivating } := by
    decide +kernel
  exact ⟨_, hk, rfl, isolated_of_deactivated 0 (Sample.events rejoinedSample) hk rfl⟩

/-- A device is deactivated and then gets a base document. -/
def rewrittenSample : List Request :=
  [.addDevice Sample.device (Sample.configuration []), .send Sample.device.id .deactivate,
    .setDocument Sample.device.id (.object [("k", .string "v")])]

/-- A deactivated device need not render to the empty object. -/
theorem deactivated_device_renders_document :
    ¬ ∀ (settings : Settings) (c : Controller), Reachable settings c →
      ∀ x k, c.inventory.configurations.get? x = some k → k.status.isDeactivation = true →
        c.render settings x = .ok "\x7b\x7d" ∧ k.templates = [] ∧ c.inventory.clientsOf x = [] ∧
          ∀ s peers, (c.peersFor s).1 = .ok peers → ∀ p ∈ peers, p.device ≠ x := by
  intro h
  have hrenders := (h Sample.settings _ (Sample.reachable rewrittenSample) Sample.device.id
    { Sample.configuration [] with
      status := .deactivating
      document := .object [("k", .string "v")] } (by decide +kernel) rfl).1
  have hdocument : (Sample.controller rewrittenSample).render Sample.settings Sample.device.id ≠
      .ok "\x7b\x7d" := by
    decide +kernel
  exact hdocument hrenders

end Controller

end Fleet
