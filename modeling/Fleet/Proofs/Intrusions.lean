/-
# Lists of devices out of use

A device that is out of use gets the templates that are asked for, and a starting list when it is
used again.  Three requests put more on its list: detaching all templates brings back the required
ones it lacked, a move to another backend gives it what the new backend requires and prefers, and a
template that is required in its scope is attached as long as its configuration is not deactivated,
which is so after its agent reported a failure.

Main statement: `Controller.listed_or_given_or_intrudes`.
-/
import Fleet.Proofs.Sound

namespace Fleet

/-! ## What puts templates on a list -/

namespace Request

/-- A request asks for a template to be on the list of a device. -/
inductive Gives (x : DeviceId) (t : TemplateId) : Request → Prop where
  | attach : Gives x t (.attachTemplate x t)
  | select {ts : List TemplateId} (ht : t ∈ ts) : Gives x t (.setTemplates x ts)

/-- A request for something else leads to an inventory in which a template is put on the list of a
device; the record and the configuration are those before. -/
inductive Intrudes (inv : Inventory) (x : DeviceId) (d : Device) (k : Configuration)
    (t : TemplateId) : Request → Prop where
  /-- The templates are detached, and the template is required in the scope. -/
  | clear {T : Template} (hT : inv.templates.get? t = some T)
      (hrequired : T.isRequiredFor k.backend d.organization = true) :
      Intrudes inv x d k t (.clearTemplates x)
  /-- The configuration moves to another backend, where its list starts with the template. -/
  | move {backend : Backend} (hne : k.backend ≠ backend)
      (ht : t ∈ inv.movedTemplates x d k backend) :
      Intrudes inv x d k t (.changeBackend x backend)
  /-- A template is stored that is required in the scope and not yet on the list, which is completed
  unless the configuration is deactivated. -/
  | complete {u U : Template} {r : Request} (hr : r = .addTemplate u ∨ r = .updateTemplate u)
      (hU : inv.templates.get? u.id = some U)
      (hrequired : U.isRequiredFor k.backend d.organization = true) (hlacks : u.id ∉ k.templates)
      (huse : k.status.isDeactivation = false)
      (ht : t ∈ inv.templates.withRequired k d.organization) : Intrudes inv x d k t r

/-- What is put on a list is told by what devices share. -/
theorem Intrudes.of_shares {inv inv' : Inventory} {x : DeviceId} {d : Device} {k : Configuration}
    {t : TemplateId} {r : Request} (h : r.Intrudes inv x d k t)
    (hshares : Inventory.SharesWith inv inv') : r.Intrudes inv' x d k t := by
  cases h with
  | clear hT hrequired => exact .clear (hshares.templates ▸ hT) hrequired
  | move hne ht =>
      refine .move hne ?_
      rw [Controller.movedTemplates_of_shares hshares]
      exact ht
  | complete hr hU hrequired hlacks huse ht =>
      rw [← hshares.templates] at hU ht
      exact .complete hr hU hrequired hlacks huse ht

end Request

/-! ## Lists out of use -/

namespace Controller

variable {settings : Settings} {c : Controller} {r : Request} {x : DeviceId} {t : TemplateId}
  {d : Device} {k k' : Configuration}

/-- What is on a list that is changed as requested was there before, or is asked for, or is required
where all templates are detached. -/
theorem mem_of_lists {inv : Inventory} {ts : List TemplateId}
    (h : r.Lists inv.templates k d.organization x ts) (hc : inv.templates.Keyed) (ht : t ∈ ts) :
    t ∈ k.templates ∨ r.Gives x t ∨ r.Intrudes inv x d k t := by
  cases h with
  | attach hattach =>
      rcases (Catalog.mem_of_attach hc t hattach).2.mp ht with ⟨hlisted, _⟩ | rfl
      · exact Or.inl hlisted
      · exact Or.inr (Or.inl .attach)
  | detach hdetach => exact Or.inl ((Catalog.mem_of_detach hc t hdetach).2.mp ht).1.1
  | select hselect =>
      have hrequested := (Catalog.mem_of_select hc t hselect).2.2.mp ht
      exact Or.inr (Or.inl (.select hrequested))
  | clear =>
      obtain ⟨T, hT, hrequired⟩ := (Catalog.mem_clear hc).mp ht
      exact Or.inr (Or.inr (.clear hT hrequired))

/-- What is on the list of a rewritten device out of use was there before, or is asked for, or the
device is used again, or it is put there nevertheless. -/
theorem Rewrites.listed {inv : Inventory} {d' : Device} (h : Rewrites inv x r d k d' k')
    (hc : inv.templates.Keyed) (hinactive : d.active = false) (ht : t ∈ k'.templates) :
    t ∈ k.templates ∨ r.Gives x t ∨ (r = .send x .activate ∧ k'.status = .modified) ∨
      r.Intrudes inv x d k t := by
  cases h with
  | same | replaced | signalled => exact Or.inl ht
  | followed _ hrescopes =>
      have hactive := hrescopes.2.1
      rw [hinactive] at hactive
      cases hactive
  | regrouped hactive =>
      rw [hinactive] at hactive
      cases hactive
  | completed hT hlacks hrequired huse hid hr =>
      rw [hid] at hT hlacks
      exact Or.inr (Or.inr (Or.inr (.complete hr hT hrequired hlacks huse ht)))
  | relisted hts =>
      rcases mem_of_lists hts hc ht with hold | hgives | hintrudes
      · exact Or.inl hold
      · exact Or.inr (Or.inl hgives)
      · exact Or.inr (Or.inr (Or.inr hintrudes))
  | edited h =>
      cases h with
      | context => exact Or.inl ht
      | document => exact Or.inl ht
  | rebacked hne =>
      dsimp only at ht
      exact Or.inr (Or.inr (Or.inr (.move hne ht)))
  | deactivated => cases ht
  | activated hstatus =>
      exact Or.inr (Or.inr (Or.inl ⟨rfl, Status.eq_modified_of_activate hstatus⟩))

/-- In every reachable state, what a request leaves on the list of a device out of use was there
before, or is asked for, or the device is used again, or it is put there by detaching all templates,
by a move to another backend, or by storing a template that is required. -/
theorem listed_or_given_or_intrudes (hreach : Reachable settings c) (outage : Outage) (r : Request)
    (hd : c.inventory.devices.get? x = some d) (hinactive : d.active = false)
    (hk : c.inventory.configurations.get? x = some k)
    (hk' : (c.perform settings outage r).2.inventory.configurations.get? x = some k')
    (ht : t ∈ k'.templates) :
    t ∈ k.templates ∨ r.Gives x t ∨ r = .send x .activate ∨
      r.Intrudes (c.perform settings outage r).2.inventory x d k t := by
  have hs := hreach.sound
  obtain ⟨change, hmakes, hfollows⟩ := answers_of_sound hs settings outage r
  have hshares := hfollows.marks.shares
  -- Making configurations modified leaves their lists.
  obtain ⟨ke, hke, hlist⟩ : ∃ ke, change.edited.configurations.get? x = some ke ∧
      t ∈ ke.templates := by
    obtain ⟨ke, hke, rfl | ⟨_, _, rfl⟩⟩ := hfollows.marks.before hk'
    · exact ⟨_, hke, ht⟩
    · exact ⟨_, hke, ht⟩
  cases hmakes.turns hs.devicesKeyed (fun x => (hs.devices x).paired) x with
  | absent _ hnone =>
      rw [hke] at hnone
      cases hnone
  | added _ hnew =>
      rw [hd] at hnew
      cases hnew
  | rewritten hp hk₀ _ hk₁ hrewrites =>
      rw [hd, Option.some.injEq] at hp
      rw [hk, Option.some.injEq] at hk₀
      rw [hke, Option.some.injEq] at hk₁
      subst hp hk₀ hk₁
      rcases hrewrites.listed (hmakes.sound hs).templates hinactive hlist with
        hold | hgives | ⟨hactivate, _⟩ | hintrudes
      · exact Or.inl hold
      · exact Or.inr (Or.inl hgives)
      · exact Or.inr (Or.inr (Or.inl hactivate))
      · exact Or.inr (Or.inr (Or.inr (hintrudes.of_shares hshares)))

/-- A template is added and then a device, which is taken out of use. -/
def outOfUseSample : List Request :=
  [.addTemplate Sample.template, .addDevice Sample.device (Sample.configuration []),
    .send Sample.device.id .deactivate]

/-- The device gets the template that is asked for. -/
theorem listed_or_given_or_intrudes_sample :
    ∃ d k k', (Sample.controller outOfUseSample).inventory.devices.get? Sample.device.id = some d ∧
      d.active = false ∧
      (Sample.controller outOfUseSample).inventory.configurations.get? Sample.device.id = some k ∧
      ((Sample.controller outOfUseSample).perform Sample.settings .none
        (.attachTemplate Sample.device.id Sample.template.id)).2.inventory.configurations.get?
          Sample.device.id = some k' ∧
      Sample.template.id ∈ k'.templates ∧
      (Sample.template.id ∈ k.templates ∨
        (Request.attachTemplate Sample.device.id Sample.template.id).Gives Sample.device.id
          Sample.template.id ∨
        Request.attachTemplate Sample.device.id Sample.template.id =
          .send Sample.device.id .activate ∨
        (Request.attachTemplate Sample.device.id Sample.template.id).Intrudes
          ((Sample.controller outOfUseSample).perform Sample.settings .none
            (.attachTemplate Sample.device.id Sample.template.id)).2.inventory
          Sample.device.id d k Sample.template.id) := by
  have hd : (Sample.controller outOfUseSample).inventory.devices.get? Sample.device.id =
      some { Sample.device with active := false } := by
    decide +kernel
  have hk : (Sample.controller outOfUseSample).inventory.configurations.get? Sample.device.id =
      some { Sample.configuration [] with status := .deactivating } := by
    decide +kernel
  have hk' : ((Sample.controller outOfUseSample).perform Sample.settings .none
      (.attachTemplate Sample.device.id Sample.template.id)).2.inventory.configurations.get?
        Sample.device.id =
      some { Sample.configuration [Sample.template.id] with status := .deactivating } := by
    decide +kernel
  exact ⟨_, _, _, hd, rfl, hk, hk', List.mem_cons_self,
    listed_or_given_or_intrudes (Sample.reachable outOfUseSample) .none _ hd rfl hk hk'
      List.mem_cons_self⟩

/-- A device is taken out of use, and its agent reports a failure. -/
def failedSample : List Request :=
  [.addDevice Sample.device (Sample.configuration []), .send Sample.device.id .deactivate,
    .send Sample.device.id .failed]

/-- A device out of use can get a template that nobody asked for: a required one is added after a
failure was reported. -/
theorem required_template_reaches_inactive :
    ¬ ∀ (settings : Settings) (c : Controller), Reachable settings c →
      ∀ outage r x d k k' t, c.inventory.devices.get? x = some d → d.active = false →
        c.inventory.configurations.get? x = some k →
        (c.perform settings outage r).2.inventory.configurations.get? x = some k' →
        (∀ u, r ≠ .attachTemplate x u) → (∀ ts, r ≠ .setTemplates x ts) → r ≠ .send x .activate →
        t ∈ k'.templates → t ∈ k.templates := by
  intro h
  have hlisted := h Sample.settings _ (Sample.reachable failedSample) .none
    (.addTemplate { Sample.template with required := true }) Sample.device.id
    { Sample.device with active := false } { Sample.configuration [] with status := .error }
    { Sample.configuration [Sample.template.id] with status := .error } Sample.template.id
    (by decide +kernel) rfl (by decide +kernel) (by decide +kernel) (by simp) (by simp) (by simp)
    List.mem_cons_self
  cases hlisted

end Controller

end Fleet
