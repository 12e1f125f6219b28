/-
# Leaving a server with its last template

A device refers to a server when a template on its list does.  Every edit that takes the last such
template from the list ends the membership in the server with it.  Two requests do not go by the
list: one replaces a template that stays on it by one that refers elsewhere, the other writes the
list anew when the device comes back into use.

Main statements: `Inventory.Sheds`, `Controller.Makes.sheds`, `Controller.client?_of_last_template`.
-/
import Fleet.Proofs.Integrity
import Fleet.Proofs.Turns

namespace Fleet

open Outcomes

namespace Inventory

variable {inv inv' inv'' : Inventory} {id x : DeviceId} {s : ServerId}

/-! ## Referring to a server -/

/-- The servers of a list are those that its templates refer to. -/
theorem mem_serversOf {ids : List TemplateId} :
    s ∈ inv.serversOf ids ↔ ∃ t ∈ ids, ∃ T, inv.templates.get? t = some T ∧ T.vpn = some s := by
  unfold serversOf
  rw [SortedMap.mem_keys_ofList]
  simp only [List.mem_map, List.mem_filterMap, Catalog.mem_present, Option.map_eq_some_iff]
  constructor
  · rintro ⟨_, ⟨T, ⟨t, ht, hT⟩, s, hvpn, rfl⟩, rfl⟩
    exact ⟨t, ht, T, hT, hvpn⟩
  · rintro ⟨t, ht, T, hT, hvpn⟩
    exact ⟨(s, ()), ⟨T, ⟨t, ht, hT⟩, s, hvpn, rfl⟩, rfl⟩

/-- A template on the list of a device refers to a server. -/
def Refers (inv : Inventory) (x : DeviceId) (s : ServerId) : Prop :=
  ∃ k, inv.configurations.get? x = some k ∧
    ∃ t ∈ k.templates, ∃ T, inv.templates.get? t = some T ∧ T.vpn = some s

/-- The servers that a device refers to are those of its list. -/
theorem refers_iff {k : Configuration} (hk : inv.configurations.get? x = some k) :
    inv.Refers x s ↔ s ∈ inv.serversOf k.templates := by
  rw [mem_serversOf]
  constructor
  · rintro ⟨k₀, hk₀, hrefers⟩
    obtain rfl := Option.some.inj (hk₀.symm.trans hk)
    exact hrefers
  · exact fun hrefers => ⟨k, hk, hrefers⟩

instance : Decidable (inv.Refers x s) :=
  match hk : inv.configurations.get? x with
  | some _ => decidable_of_iff _ (refers_iff hk).symm
  | none => .isFalse fun ⟨_, hk', _⟩ => nomatch hk.symm.trans hk'

/-- While lists and the catalog only grow a device goes on referring to what it refers to. -/
theorem Refers.mono (h : inv.Refers x s)
    (hlist : ∀ k, inv.configurations.get? x = some k →
      ∃ k', inv'.configurations.get? x = some k' ∧ ∀ t ∈ k.templates, t ∈ k'.templates)
    (hcatalog : ∀ t T, inv.templates.get? t = some T → inv'.templates.get? t = some T) :
    inv'.Refers x s := by
  obtain ⟨k, hk, t, ht, T, hT, hvpn⟩ := h
  obtain ⟨k', hk', hsub⟩ := hlist k hk
  exact ⟨k', hk', t, hsub t ht, T, hcatalog t T hT, hvpn⟩

/-- Where no list is touched a device goes on referring to what it refers to. -/
theorem Refers.of_eq (h : inv.Refers x s)
    (hk : inv'.configurations.get? x = inv.configurations.get? x)
    (ht : inv'.templates = inv.templates) : inv'.Refers x s := by
  refine h.mono (fun k hbefore => ⟨k, hk.trans hbefore, fun _ hmem => hmem⟩) fun t T hT => ?_
  rw [ht]
  exact hT

/-- The state shows in no reference. -/
theorem Marks.refers_iff {ids : List DeviceId} (h : Marks inv ids inv') :
    inv'.Refers x s ↔ inv.Refers x s := by
  have htemplates := h.shares.templates
  unfold Refers
  rw [htemplates]
  constructor
  · rintro ⟨k', hk', hrefers⟩
    obtain ⟨k, hk, rfl | ⟨d, _, rfl⟩⟩ := h.before hk'
    · exact ⟨k', hk, hrefers⟩
    · exact ⟨k, hk, hrefers⟩
  · rintro ⟨k, hk, hrefers⟩
    obtain ⟨status, hk'⟩ := h.after hk
    exact ⟨_, hk', hrefers⟩

/-! ## Edits of lists -/

/-- No membership is new, and those in servers that a device does not refer to any
more have ended. -/
structure Sheds (inv inv' : Inventory) : Prop where
  /-- Memberships only end. -/
  clients : inv'.clients.Sublist inv.clients
  /-- They end with the last reference. -/
  ends : ∀ x s, inv.Refers x s → ¬ inv'.Refers x s → inv'.client? x s = none

namespace Sheds

/-- Where every reference is kept no membership need end. -/
theorem of_refers (hsub : inv'.clients.Sublist inv.clients)
    (h : ∀ x s, inv.Refers x s → inv'.Refers x s) : Sheds inv inv' :=
  ⟨hsub, fun x s hbefore hafter => absurd (h x s hbefore) hafter⟩

theorem refl (inv : Inventory) : Sheds inv inv :=
  of_refers (List.Sublist.refl _) fun _ _ h => h

/-- What has ended in a first step does not begin again in a second one. -/
theorem trans (h : Sheds inv inv') (h' : Sheds inv' inv'') : Sheds inv inv'' := by
  refine ⟨h'.clients.trans h.clients, fun x s hbefore hafter => ?_⟩
  by_cases hbetween : inv'.Refers x s
  · exact h'.ends x s hbetween hafter
  · exact client?_eq_none_of_sublist h'.clients (h.ends x s hbefore hbetween)

end Sheds

/-- The memberships of a device in some servers are over when they were ended. -/
theorem client?_removeClients {servers : List ServerId}
    (hpairs : (inv.clients.map fun client => (client.device, client.server)).Nodup)
    (hs : s ∈ servers) : (inv.removeClients id servers).2.client? id s = none := by
  induction servers generalizing inv with
  | nil => cases hs
  | cons server rest ih =>
      obtain ⟨cs, hcs, hsub, _⟩ := removeClient_snd inv id server
      have hpairs' : ((inv.removeClient id server).2.clients.map
          fun client => (client.device, client.server)).Nodup := by
        rw [hcs]
        exact hpairs.sublist (hsub.map _)
      show ((inv.removeClient id server).2.removeClients id rest).2.client? id s = none
      rcases List.mem_cons.mp hs with rfl | hrest
      · obtain ⟨cs', hcs', hsub', _⟩ := removeClients_snd (inv.removeClient id s).2 id rest
        refine client?_eq_none_of_sublist ?_ (client?_removeClient_self hpairs id s)
        rw [hcs']
        exact hsub'
      · exact ih hpairs' hrest

section Edits

variable (hpairs : (inv.clients.map fun client => (client.device, client.server)).Nodup)

include hpairs

/-- Replacing a template list. -/
theorem setTemplates_sheds {ts : List TemplateId} {change : TemplateChange}
    (h : inv.setTemplates id ts = .ok (change, inv')) : Sheds inv inv' := by
  unfold setTemplates at h
  rw [bind_eq_ok] at h
  obtain ⟨k, hk, h⟩ := h
  rw [configuration_eq_ok] at hk
  split at h
  · cases h
    exact Sheds.refl inv
  · cases h
    generalize hlost : (inv.serversOf k.templates).filter _ = lost
    obtain ⟨cs, hcs, hsub, _⟩ := removeClients_snd
      (inv.putConfiguration id { k with templates := ts }) id lost
    have hclients : ((inv.putConfiguration id { k with templates := ts }).removeClients id
        lost).2.clients = cs := congrArg Inventory.clients hcs
    refine ⟨by rw [hclients]; exact hsub, fun x s hbefore hafter => ?_⟩
    by_cases hx : x = id
    · subst hx
      -- The server is among those of the old list, and not among those of the new one.
      refine client?_removeClients hpairs ?_
      rw [← hlost, List.mem_filter]
      refine ⟨(refers_iff hk).mp hbefore, ?_⟩
      rw [Bool.not_eq_true', List.contains_eq_mem, decide_eq_false_iff_not]
      intro hstill
      apply hafter
      rw [hcs]
      exact (refers_iff putConfiguration_get?_self).mpr hstill
    · refine absurd (hbefore.of_eq ?_ ?_) hafter
      · rw [hcs]
        exact SortedMap.get?_insert_ne (Ne.symm hx) _ _
      · rw [hcs]
        rfl

/-- Moving a configuration to another backend. -/
theorem setBackend_sheds {backend : Backend} {change : TemplateChange}
    (h : inv.setBackend id backend = .ok (change, inv')) : Sheds inv inv' := by
  unfold setBackend at h
  simp only [bind_eq_ok, configuration_eq_ok] at h
  obtain ⟨d, _, k, hk, h⟩ := h
  split at h
  · cases h
    exact Sheds.refl inv
  · rw [bind_eq_ok] at h
    obtain ⟨⟨applied, inv₁⟩, hset, h⟩ := h
    cases h
    have hmoved : Sheds inv (inv.putConfiguration id { k with backend }) := by
      refine Sheds.of_refers (List.Sublist.refl _) fun x s hbefore =>
        hbefore.mono (fun k₀ hk₀ => ?_) fun _ _ hT => hT
      by_cases hx : id = x
      · subst hx
        obtain rfl := Option.some.inj (hk₀.symm.trans hk)
        exact ⟨_, putConfiguration_get?_self, fun _ ht => ht⟩
      · exact ⟨k₀, (SortedMap.get?_insert_ne hx _ _).trans hk₀, fun _ ht => ht⟩
    have hrelisted : Sheds (inv.putConfiguration id { k with backend }) inv₁ :=
      setTemplates_sheds hpairs hset
    exact hmoved.trans hrelisted

/-- Replacing a device. -/
theorem replaceDevice_sheds {d p : Device} {change : TemplateChange}
    (h : inv.replaceDevice d = .ok (p, change, inv')) : Sheds inv inv' := by
  unfold replaceDevice at h
  simp only [bind_eq_ok] at h
  obtain ⟨_, _, _, _, k, _, h⟩ := h
  have hput : ∀ d' : Device, Sheds inv (inv.putDevice d.id d') :=
    fun d' => Sheds.of_refers (List.Sublist.refl _) fun _ _ h => h
  split at h
  · rw [bind_eq_ok] at h
    obtain ⟨⟨applied, inv₁⟩, hset, h⟩ := h
    cases h
    have hrelisted : Sheds (inv.putDevice d.id { d with active := p.active }) inv₁ :=
      setTemplates_sheds hpairs hset
    exact (hput _).trans hrelisted
  · cases h
    exact hput _

omit hpairs in
/-- Swapping group templates. -/
theorem swapGroupTemplates_sheds (old new : List TemplateId) :
    ∀ (members : List DeviceId) (inv inv' : Inventory) (change change' : GroupChange),
      (inv.clients.map fun client => (client.device, client.server)).Nodup →
      swapGroupTemplates old new change inv members = (.ok change', inv') → Sheds inv inv' := by
  intro members
  induction members with
  | nil =>
      intro inv inv' change change' _ h
      cases h
      exact Sheds.refl inv
  | cons id rest ih =>
      intro inv inv' change change' hpairs h
      rw [swapGroupTemplates] at h
      split at h
      · cases h
      · cases h
      · split at h
        · exact ih inv inv' change change' hpairs h
        · dsimp only at h
          split at h
          · cases h
          · rename_i applied inv₁ hset
            have hfirst := setTemplates_sheds hpairs hset
            exact hfirst.trans (ih inv₁ inv' _ change' (hpairs.sublist (hfirst.clients.map _)) h)

/-- Storing a group. -/
theorem setGroup_sheds {group : DeviceGroup} {change : GroupChange}
    (h : inv.setGroup group = (.ok change, inv')) : Sheds inv inv' := by
  unfold setGroup at h
  split at h
  · cases h
  · have hput : Sheds inv { inv with groups := inv.groups.insert group.id group } :=
      Sheds.of_refers (List.Sublist.refl _) fun _ _ h => h
    dsimp only at h
    split at h
    · cases h
      exact hput
    · exact hput.trans (swapGroupTemplates_sheds _ _ _ _ _ _ _ hpairs h)

end Edits

/-- A list that gets a template that is stored keeps what it has. -/
theorem Requires.sub_of_attached {T : Template} {n : Nat} {ids : List DeviceId} (hs : inv.Sound)
    (h : Requires (inv.putTemplate T n) T ids inv') (hx : x ∈ ids) {k : Configuration}
    (hk : inv.configurations.get? x = some k) :
    ∃ k', inv'.configurations.get? x = some k' ∧ ∀ t ∈ k.templates, t ∈ k'.templates := by
  obtain ⟨d, k₀, _, hk₀, _, _, _, hk'⟩ := h.attached x hx
  obtain rfl := Option.some.inj (hk₀.symm.trans hk)
  refine ⟨_, hk', fun t ht => ?_⟩
  obtain ⟨U, hU⟩ := (Grows.putTemplate inv T n).knows ((hs.devices x).listed _ hk) t ht
  exact (Catalog.mem_withRequired (hs.templates.insert rfl)).mpr ⟨U, hU, Or.inl ht⟩

end Inventory

namespace Controller

variable {settings : Settings} {outage : Outage} {c : Controller} {r : Request} {change : Change}
  {x : DeviceId} {s : ServerId}

/-! ## Requests -/

/-- No request takes a template out of the catalog, and only one that replaces a template changes
one. -/
theorem Makes.template_stays (hkeyed : c.inventory.DevicesKeyed)
    (h : Makes settings outage c r change) (hreplace : ∀ t, r ≠ .updateTemplate t) {t : TemplateId}
    {T : Template} (hT : c.inventory.templates.get? t = some T) :
    change.edited.templates.get? t = some T := by
  rcases h.catalog hkeyed with hsame | ⟨_, u, n, _, hnew, hrequires⟩ | ⟨t, _, _, hr, _⟩
  · rw [hsame]
    exact hT
  · rw [hrequires.shares.templates]
    refine (SortedMap.get?_insert_ne ?_ _ _).trans hT
    rintro rfl
    rw [hnew] at hT
    cases hT
  · exact absurd hr (hreplace t)

/-- A request ends the membership of a device in a server that it does not refer to any more, unless
it replaces a template or brings the device back into use. -/
theorem Makes.sheds (hs : c.inventory.Sound) (hm : c.inventory.MembersPaired)
    (h : Makes settings outage c r change) (hreplace : ∀ t, r ≠ .updateTemplate t)
    (hactivate : r ≠ .send x .activate) (hbefore : c.inventory.Refers x s)
    (hafter : ¬ change.edited.Refers x s) : change.edited.client? x s = none := by
  obtain ⟨k, hk, _⟩ := id hbefore
  -- The list cannot only have grown.
  have hgrown : ∀ {k' : Configuration}, change.edited.configurations.get? x = some k' →
      (∀ t ∈ k.templates, t ∈ k'.templates) → False := by
    intro k' hk' hsub
    refine hafter (hbefore.mono (fun k₀ hk₀ => ⟨k', hk', ?_⟩)
      fun t T hT => h.template_stays hs.devicesKeyed hreplace hT)
    obtain rfl := Option.some.inj (hk₀.symm.trans hk)
    exact hsub
  have hx : x ∈ change.touched := by
    apply Decidable.byContradiction
    intro hx
    have hkept := (h.agreesOff hs.devicesKeyed).configuration x hx
    exact hgrown (hkept.trans hk) fun _ ht => ht
  cases h with
  | idle | invalidate | invalidateDependents | addServer | updateServer | setOrganization =>
    cases hx
  | addDevice h =>
      -- A new device has no list before.
      obtain ⟨hnew, _⟩ := Inventory.insertDevice_eq_ok h
      rw [← List.mem_singleton.mp hx] at hnew
      obtain ⟨d, hd⟩ := (hs.devices x).paired.mpr ⟨k, hk⟩
      rw [hnew] at hd
      cases hd
  | removeDevice h =>
      obtain ⟨_, _, _, _, _, rfl⟩ := Inventory.removeDevice_eq_ok h
      rw [List.mem_singleton.mp hx]
      exact Inventory.client?_of_filter_ne rfl
  | updateDevice h => exact (Inventory.replaceDevice_sheds hm.pairs h).ends x s hbefore hafter
  | addTemplate h =>
      obtain ⟨_, _, _, _, hrequires⟩ := Inventory.insertTemplate_eq_ok h
      obtain ⟨_, hk', hsub⟩ := hrequires.sub_of_attached hs hx hk
      exact (hgrown hk' hsub).elim
  | @updateTemplate t => exact absurd rfl (hreplace t)
  | relist _ _ _ h => exact (Inventory.setTemplates_sheds hm.pairs h).ends x s hbefore hafter
  | edit hk₀ hedit =>
      rw [List.mem_singleton.mp hx] at hk hgrown
      obtain rfl := Option.some.inj (hk₀.symm.trans hk)
      refine (hgrown Inventory.putConfiguration_get?_self ?_).elim
      cases hedit with
      | context => exact fun _ ht => ht
      | document => exact fun _ ht => ht
  | changeBackend h => exact (Inventory.setBackend_sheds hm.pairs h).ends x s hbefore hafter
  | attachClient h =>
      obtain ⟨_, _, _, _, _, _, _, _, _, rfl⟩ := Inventory.insertClient_eq_ok h
      exact absurd hbefore hafter
  | @detachClient id server client inv h =>
      obtain ⟨cs, hcs, _⟩ := Inventory.removeClient_snd c.inventory id server
      rw [h] at hcs
      subst hcs
      exact absurd hbefore hafter
  | setGroup h => exact (Inventory.setGroup_sheds hm.pairs h).ends x s hbefore hafter
  | signal _ hk₀ _ _ _ hinv =>
      rw [List.mem_singleton.mp hx] at hk hgrown
      obtain rfl := Option.some.inj (hk₀.symm.trans hk)
      subst hinv
      exact (hgrown Inventory.putConfiguration_get?_self fun _ ht => ht).elim
  | deactivate _ _ _ hinv =>
      rw [List.mem_singleton.mp hx, hinv]
      exact Inventory.client?_of_filter_ne rfl
  | activate =>
      rw [List.mem_singleton.mp hx] at hactivate
      exact absurd rfl hactivate

/-- A request that replaces a template or brings a device back into use ends no membership. -/
theorem Makes.clients_eq (h : Makes settings outage c r change)
    (hr : (∃ t, r = .updateTemplate t) ∨ r = .send x .activate) :
    change.edited.clients = c.inventory.clients := by
  rcases hr with ⟨t, rfl⟩ | rfl
  · cases h with
    | idle => rfl
    | updateTemplate h =>
        obtain ⟨_, _, _, _, _, hrequires⟩ := Inventory.replaceTemplate_eq_ok h
        exact hrequires.clients
    | relist _ _ hts => cases hts
    | edit _ hedit => cases hedit
  · cases h with
    | idle => rfl
    | signal _ _ _ hactivate => exact absurd rfl hactivate
    | activate _ _ _ hinv =>
        rw [hinv]
        rfl
    | relist _ _ hts => cases hts
    | edit _ hedit => cases hedit

/-- When a request takes the last reference of a device to a server, its membership there has ended
afterwards, unless the request replaces a template or brings the device back into use: then the
device is a member if it was one. -/
theorem client?_of_last_template (hreach : Reachable settings c) (outage : Outage) (r : Request)
    (hbefore : c.inventory.Refers x s)
    (hafter : ¬ (c.perform settings outage r).2.inventory.Refers x s) :
    (c.perform settings outage r).2.inventory.client? x s = none ↔
      (c.inventory.client? x s = none ∨
        ((∀ t, r ≠ .updateTemplate t) ∧ r ≠ .send x .activate)) := by
  have hs := hreach.sound
  obtain ⟨change, hmakes, hfollows⟩ := answers_of_sound hs settings outage r
  have hedited : (c.perform settings outage r).2.inventory.client? x s =
      change.edited.client? x s := by
    unfold Inventory.client?
    rw [hfollows.marks.clients]
  rw [hfollows.marks.refers_iff] at hafter
  rw [hedited]
  by_cases hr : (∃ t, r = .updateTemplate t) ∨ r = .send x .activate
  · have hsame : change.edited.client? x s = c.inventory.client? x s := by
      unfold Inventory.client?
      rw [hmakes.clients_eq hr]
    rw [hsame, or_iff_left]
    rintro ⟨hreplace, hactivate⟩
    rcases hr with ⟨t, rfl⟩ | rfl
    · exact hreplace t rfl
    · exact hactivate rfl
  · rw [not_or, not_exists] at hr
    have hended := hmakes.sheds hs hreach.orderly.members hr.1 hr.2 hbefore hafter
    exact iff_of_true hended (Or.inr hr)

/-- A template that refers to a server. -/
def linkedSample : Template :=
  { Sample.template with kind := .vpn, vpn := some Sample.server.id }

/-- A device gets the template and joins the server. -/
def memberSample : List Request :=
  [.addServer Sample.server, .addTemplate linkedSample,
    .addDevice Sample.device (Sample.configuration [linkedSample.id]), .attachClient Sample.client]

/-- The device refers to the server. -/
theorem memberSample_refers :
    (Sample.controller memberSample).inventory.Refers Sample.device.id Sample.server.id := by
  decide +kernel

/-- It leaves the server with the template. -/
theorem client?_of_last_template_sample :
    ((Sample.controller memberSample).inventory.client? Sample.device.id Sample.server.id).isSome =
      true ∧
    ((Sample.controller memberSample).perform Sample.settings .none
      (.detachTemplate Sample.device.id linkedSample.id)).2.inventory.client? Sample.device.id
        Sample.server.id = none := by
  have hrun : ((Sample.controller memberSample).inventory.client? Sample.device.id
        Sample.server.id).isSome = true ∧
      ¬ ((Sample.controller memberSample).perform Sample.settings .none
        (.detachTemplate Sample.device.id linkedSample.id)).2.inventory.Refers Sample.device.id
          Sample.server.id := by
    decide +kernel
  exact ⟨hrun.1, (client?_of_last_template (Sample.reachable memberSample) .none _
    memberSample_refers hrun.2).mpr (Or.inr ⟨fun _ => nofun, nofun⟩)⟩

/-- A device need not leave a server with the last template: the template that it has is replaced by
one that refers to no server. -/
theorem unlinked_template_keeps_member :
    ¬ ∀ (settings : Settings) (c : Controller), Reachable settings c →
      ∀ (outage : Outage) (r : Request) (x : DeviceId) (s : ServerId) (d : Device),
        c.inventory.Refers x s →
        (c.perform settings outage r).2.inventory.devices.get? x = some d →
        ¬ (c.perform settings outage r).2.inventory.Refers x s →
        (c.perform settings outage r).2.inventory.client? x s = none := by
  intro h
  have hrun :
      ((Sample.controller memberSample).perform Sample.settings .none
        (.updateTemplate Sample.template)).2.inventory.devices.get? Sample.device.id =
          some Sample.device ∧
      ¬ ((Sample.controller memberSample).perform Sample.settings .none
        (.updateTemplate Sample.template)).2.inventory.Refers Sample.device.id Sample.server.id ∧
      (((Sample.controller memberSample).perform Sample.settings .none
        (.updateTemplate Sample.template)).2.inventory.client? Sample.device.id
          Sample.server.id).isSome = true := by
    decide +kernel
  obtain ⟨hd, hafter, hmember⟩ := hrun
  rw [h Sample.settings _ (Sample.reachable memberSample) .none (.updateTemplate Sample.template)
    Sample.device.id Sample.server.id Sample.device memberSample_refers hd hafter] at hmember
  cases hmember

/-- A device out of use gets a template of its organization, joins the server and moves to another
organization, and then its group gets the template. -/
def stowawaySample : List Request :=
  [.addServer Sample.server, .addTemplate { linkedSample with organization := some ⟨"o"⟩ },
    .addDevice { Sample.device with group := some ⟨"g"⟩ } (Sample.configuration []),
    .send Sample.device.id .deactivate, .send Sample.device.id .confirmDeactivation,
    .attachTemplate Sample.device.id linkedSample.id, .attachClient Sample.client,
    .updateDevice { Sample.device with group := some ⟨"g"⟩, organization := ⟨"p"⟩ },
    .setGroup ⟨⟨"g"⟩, "group", ⟨"o"⟩, .empty, [linkedSample.id]⟩]

/-- It does not leave the server with the template either when it comes back into use. -/
theorem reactivated_device_keeps_member :
    (Sample.controller stowawaySample).inventory.Refers Sample.device.id Sample.server.id ∧
    ¬ ((Sample.controller stowawaySample).perform Sample.settings .none
      (.send Sample.device.id .activate)).2.inventory.Refers Sample.device.id Sample.server.id ∧
    (((Sample.controller stowawaySample).perform Sample.settings .none
      (.send Sample.device.id .activate)).2.inventory.client? Sample.device.id
        Sample.server.id).isSome = true := by
  decide +kernel

end Controller

end Fleet
