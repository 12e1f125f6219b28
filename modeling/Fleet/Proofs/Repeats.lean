/-
# Repeated requests

Most requests ask for records to be as they say.  Such a request that is made once more finds
nothing left to do: records and store stay as the first attempt left them, also if the store failed
meanwhile, so that the first attempt dropped fewer checksums than it should have.

Main statement: `Controller.perform_again`.
-/
import Fleet.Proofs.Attempts
import Fleet.Proofs.Integrity
import Fleet.Proofs.Ordering

namespace Fleet

open Outcomes

/-! ## Records that equal themselves -/

namespace Json

mutual

/-- A document equals itself. -/
theorem same_refl : (j : Json) → j.same j = true
  | null => rfl
  | bool b => by simp [same]
  | number (.integer n) => by simp [same, Number.same]
  | number (.decimal x) => by simp [same, Number.same, Binary64.same]
  | string s => by simp [same]
  | array items => by rw [same]; exact sameItems_refl items
  | object members => by rw [same]; exact sameMembers_refl members

/-- A list of documents equals itself. -/
theorem sameItems_refl : (l : List Json) → sameItems l l = true
  | [] => rfl
  | j :: rest => by rw [sameItems, same_refl j, sameItems_refl rest]; rfl

/-- Members equal themselves. -/
theorem sameMembers_refl : (l : List (String × Json)) → sameMembers l l = true
  | [] => rfl
  | (name, j) :: rest => by rw [sameMembers, same_refl j, sameMembers_refl rest]; simp

end

end Json

/-- A server equals itself. -/
theorem VpnServer.same_refl (s : VpnServer) : s.same s = true := by
  unfold same
  rw [Json.same_refl, Bool.true_and, beq_self_eq_true]

/-- The content of a template does not differ from itself. -/
theorem Template.contentDiffers_self (t : Template) : t.contentDiffers t = false := by
  simp [contentDiffers, Json.same_refl]

/-! ## Edits that were made before -/

namespace Inventory

variable {inv inv' inv₁ : Inventory} {ids : List DeviceId} {id x : DeviceId} {k : Configuration}

/-- Making no configurations modified changes nothing. -/
theorem Marks.eq_of_nil (h : Marks inv [] inv') : inv' = inv := by
  rw [h.eq]
  have hconfigurations : inv'.configurations = inv.configurations :=
    SortedMap.ext_get? fun x => h.kept x (Or.inl List.not_mem_nil)
  rw [hconfigurations]

/-- A list that is replaced by itself is not changed. -/
theorem changed_of_setTemplates_same {change : TemplateChange}
    (hk : inv.configurations.get? id = some k)
    (h : inv.setTemplates id k.templates = .ok (change, inv')) : change.changed = false := by
  unfold setTemplates at h
  rw [configuration_eq_ok.mpr hk, bind_eq_ok] at h
  obtain ⟨k', hk', h⟩ := h
  cases hk'
  rw [if_pos rfl, pure_eq_ok] at h
  cases h
  rfl

/-- A configuration that was moved to a backend is there. -/
theorem backend_of_setBackend {backend : Backend} {change : TemplateChange}
    (h : inv.setBackend id backend = .ok (change, inv')) :
    ∃ k, inv'.configurations.get? id = some k ∧ k.backend = backend := by
  obtain ⟨d, k, hd, hk, hcases⟩ := setBackend_eq_ok h
  by_cases hbackend : k.backend = backend
  · rcases hcases with ⟨_, rfl⟩ | ⟨_, hne, _⟩
    · exact ⟨k, hk, hbackend⟩
    · exact absurd hbackend hne
  · -- The result names no branch, so that the edit is opened to see that this is a change.
    have hchanged : change.changed = true := by
      unfold setBackend at h
      simp only [bind_eq_ok, device_eq_ok, configuration_eq_ok] at h
      obtain ⟨d', _, k', hk', h⟩ := h
      have : k' = k := Option.some.inj (hk'.symm.trans hk)
      subst this
      rw [if_neg hbackend, bind_eq_ok] at h
      obtain ⟨_, _, h⟩ := h
      cases h
      rfl
    rcases hcases with ⟨hsame, _⟩ | ⟨_, _, hr⟩
    · rw [hchanged] at hsame
      cases hsame
    · exact ⟨_, hr.get?_self, rfl⟩

/-- A required template that was attached wherever it applies is on the lists there. -/
theorem Requires.listed {t : Template} (h : Requires inv t ids inv') (hkeyed : inv.templates.Keyed)
    (ht : inv.templates.get? t.id = some t) {d : Device} (hd : inv.devices.get? x = some d)
    (hk : inv'.configurations.get? x = some k) (huse : k.status.isDeactivation = false)
    (hrequired : t.isRequiredFor k.backend d.organization = true) : t.id ∈ k.templates := by
  by_cases hx : x ∈ ids
  · exact h.mem_of_attached hkeyed ht hx hk
  · rw [h.kept x hx] at hk
    exact h.present x hx d k hd hk huse hrequired

/-- A template that is stored already, and is on the lists where it is required, leaves
everything as it is. -/
theorem Requires.eq_of_stored {p : Template} {sequence : Nat}
    (h : Requires (inv.putTemplate p sequence) p ids inv')
    (hsequence : sequence = inv.templateSequence)
    (hp : inv.templates.get? p.id = some p)
    (hlisted : ∀ x d k, inv.devices.get? x = some d → inv.configurations.get? x = some k →
      k.status.isDeactivation = false → p.isRequiredFor k.backend d.organization = true →
      p.id ∈ k.templates) : ids = [] ∧ inv' = inv := by
  have hput : inv.putTemplate p sequence = inv := by
    unfold putTemplate
    rw [SortedMap.insert_eq_self hp, hsequence]
  rw [hput] at h
  have hnone : ids = [] := by
    refine List.eq_nil_iff_forall_not_mem.mpr fun x hx => ?_
    obtain ⟨d, k, hd, hk, huse, hnot, hrequired, _⟩ := h.attached x hx
    exact hnot (hlisted x d k hd hk huse hrequired)
  refine ⟨hnone, ?_⟩
  subst hnone
  rw [h.eq]
  have hconfigurations : inv'.configurations = inv.configurations :=
    SortedMap.ext_get? fun x => h.kept x List.not_mem_nil
  rw [hconfigurations]

end Inventory

namespace Controller

variable {settings : Settings} {outage outage' : Outage} {c c₁ : Controller} {r : Request}
  {change : Change} {inv : Inventory}

/-! ## Second attempts -/

/-- A change that does nothing. -/
structure Idle (c : Controller) (change : Change) : Prop where
  /-- The records stay. -/
  edited : change.edited = c.inventory
  /-- No configuration is made modified. -/
  marked : change.marked = []
  /-- No checksum is dropped. -/
  dropped : change.dropped = []

/-- A change that does nothing leaves the records and the store. -/
theorem Idle.kept (h : Idle c change) (hfollows : Follows outage c r change c₁)
    (hlooks : r.looksUp = false) : c₁.inventory = c.inventory ∧ c₁.store = c.store := by
  have hmarks := hfollows.marks
  rw [h.edited, h.marked] at hmarks
  refine ⟨hmarks.eq_of_nil, ?_⟩
  rw [hfollows.store hlooks, h.dropped]
  rfl

/-- A template list that was changed is computed as it is. -/
theorem changeTemplates_again {id : DeviceId}
    {compute : Catalog → Configuration → OrgId → Except Error (List TemplateId)}
    (hcompute : ∀ {k k' organization ts},
      compute c.inventory.templates k organization = .ok ts → k'.backend = k.backend →
      k'.templates = ts → compute c.inventory.templates k' organization = .ok ts)
    (hc₁ : c₁ = (c.changeTemplates outage id compute).2) {d : Device} {k : Configuration}
    {ts : List TemplateId} {change : TemplateChange} (hd : c₁.inventory.devices.get? id = some d)
    (hk : c₁.inventory.configurations.get? id = some k)
    (hts : compute c₁.inventory.templates k d.organization = .ok ts)
    (h : c₁.inventory.setTemplates id ts = .ok (change, inv)) : change.changed = false := by
  have hagain : relist id compute c₁.inventory = .ok (change, inv) :=
    relist_eq_ok.mpr ⟨d, k, ts, hd, hk, hts, h⟩
  obtain ⟨⟨first, inv₁⟩, hfirst, ids, hmarks⟩ :=
    (changeTemplates_takes outage c id compute).before (relist id compute) hc₁ hagain
  obtain ⟨d₀, k₀, ts₀, hd₀, hk₀, hts₀, hset⟩ := relist_eq_ok.mp hfirst
  obtain ⟨k', hk', hr, _⟩ := Inventory.setTemplates_eq_ok hset
  rw [hk₀, Option.some.injEq] at hk'
  subst hk'
  -- The device is the same, and so is the configuration but for the list and the state.
  rw [hmarks.devices, hr.devices, hd₀, Option.some.injEq] at hd
  subst hd
  obtain ⟨s, hs⟩ := hmarks.after hr.get?_self
  rw [hk, Option.some.injEq] at hs
  rw [hmarks.shares.templates, hr.shares.templates,
    hcompute hts₀ (by rw [hs]) (by rw [hs]), Except.ok.injEq] at hts
  have hlist : ts = k.templates := by rw [hs, ← hts]
  rw [hlist] at h
  exact Inventory.changed_of_setTemplates_same hk h

/-- A list that was asked for stays when it is asked for again. -/
theorem relist_again (hkeyed : c.inventory.templates.Keyed) {id : DeviceId} {d : Device}
    {k : Configuration} {ts : List TemplateId} {change : TemplateChange}
    (hc₁ : c₁ = (c.perform settings outage r).2) (hd : c₁.inventory.devices.get? id = some d)
    (hk : c₁.inventory.configurations.get? id = some k)
    (hts : r.Lists c₁.inventory.templates k d.organization id ts)
    (h : c₁.inventory.setTemplates id ts = .ok (change, inv)) : change.changed = false := by
  cases hts with
  | attach hts => exact changeTemplates_again (Catalog.attach_again hkeyed) hc₁ hd hk hts h
  | detach hts => exact changeTemplates_again (Catalog.detach_again hkeyed) hc₁ hd hk hts h
  | select hts =>
      refine changeTemplates_again (fun hts hk _ => ?_) hc₁ hd hk hts h
      rw [Catalog.select_congr hk]
      exact hts
  | clear =>
      refine changeTemplates_again (fun hts hk _ => ?_) hc₁ hd hk rfl h
      rw [Catalog.clear_congr hk]
      exact hts

/-- A configuration that an attempt at an edit leaves is edited, up to its state. -/
theorem editConfiguration_again {id : DeviceId} {reason : Reason}
    {edit : Configuration → Option Configuration}
    (hc₁ : c₁ = (c.editConfiguration outage id reason edit).2) {k : Configuration}
    (hk : c₁.inventory.configurations.get? id = some k) :
    ∃ k₀ s, k = { (edit k₀).getD k₀ with status := s } := by
  subst hc₁
  unfold editConfiguration at hk
  cases hbefore : c.inventory.configuration id with
  | error e =>
      rw [hbefore] at hk
      rw [Inventory.configuration_eq_ok.mpr hk] at hbefore
      cases hbefore
  | ok k₀ =>
      rw [hbefore] at hk
      dsimp only at hk
      refine ⟨k₀, k.status, ?_⟩
      cases hedit : edit k₀ with
      | none =>
          rw [hedit] at hk
          rw [Inventory.configuration_eq_ok.mp hbefore, Option.some.injEq] at hk
          rw [hk]
          rfl
      | some edited =>
          rw [hedit] at hk
          have hput : ({ c with
              inventory := c.inventory.putConfiguration id edited } : Controller).Holds
                (c.inventory.putConfiguration id edited) := Holds.of_eq rfl
          obtain ⟨ids, hmarks⟩ := hput.modify outage [id] reason
          obtain ⟨s, hs⟩ := hmarks.after Inventory.putConfiguration_get?_self
          rw [hk, Option.some.injEq] at hs
          rw [hs]
          rfl

/-- Variables that were replaced are those of the configuration. -/
theorem setContext_again {id : DeviceId} {context : Context} {k : Configuration}
    (hc₁ : c₁ = (c.setContext outage id context).2)
    (hk : c₁.inventory.configurations.get? id = some k) : k.context = context := by
  obtain ⟨k₀, s, rfl⟩ := editConfiguration_again hc₁ hk
  dsimp only
  split
  · assumption
  · rfl

/-- A base document that was replaced equals that of the configuration. -/
theorem setDocument_again {id : DeviceId} {document : Json} {k : Configuration}
    (hobject : document.isObject = true) (hc₁ : c₁ = (c.setDocument outage id document).2)
    (hk : c₁.inventory.configurations.get? id = some k) : k.document.same document = true := by
  unfold setDocument at hc₁
  rw [if_pos hobject] at hc₁
  obtain ⟨k₀, s, rfl⟩ := editConfiguration_again hc₁ hk
  dsimp only
  split
  · assumption
  · exact Json.same_refl document

/-- A device that was added is there. -/
theorem addDevice_again {d : Device} {k : Configuration} (hc₁ : c₁ = (c.addDevice outage d k).2) :
    c₁.inventory.insertDevice d k ≠ .ok inv := by
  intro h
  obtain ⟨inv₀, hfirst, ids, hmarks⟩ :=
    (addDevice_takes outage c d k).before (fun inv => inv.insertDevice d k) hc₁ h
  obtain ⟨hnew, _⟩ := Inventory.insertDevice_eq_ok h
  obtain ⟨_, _, _, _, rfl⟩ := Inventory.insertDevice_eq_ok hfirst
  rw [hmarks.devices, id, Inventory.putDevice_get?_self] at hnew
  cases hnew

/-- A device that was removed is not there. -/
theorem removeDevice_again (hs : c.inventory.Sound) {id : DeviceId} {removed : RemovedDevice}
    (hc₁ : c₁ = (c.removeDevice outage id).2) :
    c₁.inventory.removeDevice id ≠ (.ok removed, inv) := by
  intro h
  obtain ⟨⟨removed₀, inv₀⟩, hfirst, ids, hmarks⟩ :=
    (removeDevice_takes outage c hs id).before (fun inv => committed (inv.removeDevice id)) hc₁
      (committed_eq_ok.mpr h)
  obtain ⟨d, _, hd, _⟩ := Inventory.removeDevice_eq_ok h
  obtain ⟨_, _, _, _, _, rfl⟩ := Inventory.removeDevice_eq_ok (committed_eq_ok.mp hfirst)
  rw [hmarks.devices, SortedMap.get?_erase_self] at hd
  cases hd

/-- A device that was replaced is stored, and its list follows. -/
theorem updateDevice_again {d p : Device} {change : TemplateChange}
    (hc₁ : c₁ = (c.updateDevice outage d).2)
    (h : c₁.inventory.replaceDevice d = .ok (p, change, inv)) :
    change.changed = false ∧ d.affectsConfiguration p = false ∧ inv = c₁.inventory := by
  obtain ⟨⟨p₀, change₀, inv₀⟩, hfirst, ids, hmarks⟩ :=
    (updateDevice_takes outage c d).before (fun inv => inv.replaceDevice d) hc₁ h
  obtain ⟨k, hp, _, hcases⟩ := Inventory.replaceDevice_eq_ok h
  have hstored : p = { d with active := p₀.active } := by
    obtain ⟨_, _, _, ⟨_, _, rfl⟩ | ⟨_, _, _, hr, _⟩⟩ := Inventory.replaceDevice_eq_ok hfirst
    · rw [hmarks.devices, Inventory.putDevice_get?_self, Option.some.injEq] at hp
      exact hp.symm
    · rw [hmarks.devices, hr.devices, Inventory.putDevice_get?_self, Option.some.injEq] at hp
      exact hp.symm
  -- Only whether it is active was kept from before, and a replacement keeps that.
  have hdevice : p = { d with active := p.active } := by rw [hstored]
  rcases hcases with ⟨_, rfl, rfl⟩ | ⟨⟨hmoved, _⟩, _⟩
  · refine ⟨rfl, ?_, ?_⟩
    · rw [hstored]
      simp [Device.affectsConfiguration]
    · rw [← hdevice]
      unfold Inventory.putDevice
      rw [SortedMap.insert_eq_self hp]
  · rw [hstored] at hmoved
    simp at hmoved

/-- A template that was added is there. -/
theorem addTemplate_again {t : Template} {ids : List DeviceId}
    (hc₁ : c₁ = (c.addTemplate outage t).2) : c₁.inventory.insertTemplate t ≠ .ok (ids, inv) := by
  intro h
  obtain ⟨⟨ids₀, inv₀⟩, hfirst, marked, hmarks⟩ :=
    (addTemplate_takes outage c t).before (fun inv => inv.insertTemplate t) hc₁ h
  obtain ⟨u, hu, hnew, _⟩ := Inventory.insertTemplate_eq_ok h
  obtain ⟨u₀, hu₀, _, _, hr⟩ := Inventory.insertTemplate_eq_ok hfirst
  rw [hu, Except.ok.injEq] at hu₀
  subst hu₀
  rw [hmarks.shares.templates, hr.shares.templates] at hnew
  exact Option.some_ne_none _ ((SortedMap.get?_insert_self _ _ _).symm.trans hnew)

/-- A template that was replaced is stored, and is on the lists where it is required. -/
theorem updateTemplate_again (hkeyed : c.inventory.templates.Keyed) {t p : Template}
    {ids : List DeviceId} (hc₁ : c₁ = (c.updateTemplate outage t).2)
    (h : c₁.inventory.replaceTemplate t = .ok (p, ids, inv)) :
    ids = [] ∧ inv = c₁.inventory ∧ inv.templates.get? t.id = some p := by
  obtain ⟨⟨p₀, ids₀, inv₀⟩, hfirst, marked, hmarks⟩ :=
    (updateTemplate_takes outage c t).before (fun inv => inv.replaceTemplate t) hc₁ h
  obtain ⟨u, hu, hp, _, _, hr⟩ := Inventory.replaceTemplate_eq_ok h
  obtain ⟨u₀, hu₀, hp₀, _, _, hr₀⟩ := Inventory.replaceTemplate_eq_ok hfirst
  rw [hu, Except.ok.injEq] at hu₀
  subst hu₀
  -- The template is the one that the first attempt stored.
  have hput : Catalog.Keyed (c.inventory.templates.insert u.id { u with created := p₀.created }) :=
    hkeyed.insert rfl
  have hget : c₁.inventory.templates.get? u.id = some { u with created := p₀.created } := by
    rw [hmarks.shares.templates, hr₀.shares.templates]
    exact SortedMap.get?_insert_self _ _ _
  rw [hget, Option.some.injEq] at hp
  subst hp
  have hid : u.id = t.id := (Inventory.normalize_eq_ok hu).1
  have hlisted : ∀ x d k, c₁.inventory.devices.get? x = some d →
      c₁.inventory.configurations.get? x = some k → k.status.isDeactivation = false →
      Template.isRequiredFor { u with created := p₀.created } k.backend d.organization = true →
      u.id ∈ k.templates := by
    intro x d k hd hk huse hrequired
    rw [hmarks.devices, hr₀.eq] at hd
    obtain ⟨k₀, hk₀, rfl | ⟨d₀, _, rfl⟩⟩ := hmarks.before hk
    · exact hr₀.listed hput (SortedMap.get?_insert_self _ _ _) hd hk₀ huse hrequired
    · rw [Status.isDeactivation_marked] at huse
      exact hr₀.listed (k := k₀) hput (SortedMap.get?_insert_self _ _ _) hd hk₀ huse hrequired
  obtain ⟨hids, hinv⟩ := hr.eq_of_stored rfl hget hlisted
  refine ⟨hids, hinv, ?_⟩
  rw [hinv, ← hid]
  exact hget

/-- A configuration that was moved to a backend does not move there. -/
theorem changeBackend_again {id : DeviceId} {backend : Backend} {change : TemplateChange}
    (hc₁ : c₁ = (c.changeBackend outage id backend).2)
    (h : c₁.inventory.setBackend id backend = .ok (change, inv)) : change.changed = false := by
  obtain ⟨⟨change₀, inv₀⟩, hfirst, ids, hmarks⟩ :=
    (changeBackend_takes outage c id backend).before (fun inv => inv.setBackend id backend) hc₁ h
  obtain ⟨k₀, hk₀, hbackend⟩ := Inventory.backend_of_setBackend hfirst
  obtain ⟨s, hs⟩ := hmarks.after hk₀
  obtain ⟨_, k, _, hk, ⟨hsame, _⟩ | ⟨_, hmoves, _⟩⟩ := Inventory.setBackend_eq_ok h
  · exact hsame
  · rw [hs, Option.some.injEq] at hk
    rw [← hk] at hmoves
    exact absurd hbackend hmoves

/-- A server that was added is there. -/
theorem addServer_again {s : VpnServer} (hc₁ : c₁ = (c.addServer s).2) :
    c₁.inventory.insertServer s ≠ .ok inv := by
  intro h
  obtain ⟨inv₀, hfirst, ids, hmarks⟩ :=
    (addServer_takes c s).before (fun inv => inv.insertServer s) hc₁ h
  obtain ⟨hnew, _⟩ := Inventory.insertServer_eq_ok h
  obtain ⟨_, rfl⟩ := Inventory.insertServer_eq_ok hfirst
  rw [hmarks.shares.servers] at hnew
  exact Option.some_ne_none _ ((SortedMap.get?_insert_self _ _ _).symm.trans hnew)

/-- A server that was replaced is stored. -/
theorem updateServer_again {s p : VpnServer} (hc₁ : c₁ = (c.updateServer outage s).2)
    (h : c₁.inventory.replaceServer s = .ok (p, inv)) : p = s ∧ inv = c₁.inventory := by
  obtain ⟨⟨p₀, inv₀⟩, hfirst, ids, hmarks⟩ :=
    (updateServer_takes outage c s).before (fun inv => inv.replaceServer s) hc₁ h
  obtain ⟨hp, rfl⟩ := Inventory.replaceServer_eq_ok h
  obtain ⟨_, rfl⟩ := Inventory.replaceServer_eq_ok hfirst
  have hstored : c₁.inventory.servers.get? s.id = some s := by
    rw [hmarks.shares.servers]
    exact SortedMap.get?_insert_self _ _ _
  refine ⟨Option.some.inj (hp.symm.trans hstored), ?_⟩
  rw [SortedMap.insert_eq_self hstored]

/-- A device that joined a server is a member. -/
theorem attachClient_again {client stored : VpnClient}
    (hc₁ : c₁ = (c.attachClient settings outage client).2) :
    c₁.inventory.insertClient client settings.maxTunnelId ≠ .ok (stored, inv) := by
  intro h
  obtain ⟨⟨stored₀, inv₀⟩, hfirst, ids, hmarks⟩ :=
    (attachClient_takes outage c settings client).before
      (fun inv => inv.insertClient client settings.maxTunnelId) hc₁ h
  obtain ⟨_, _, _, _, _, _, hnone, _⟩ := Inventory.insertClient_eq_ok h
  obtain ⟨_, _, vni, _, _, _, _, _, rfl, rfl⟩ := Inventory.insertClient_eq_ok hfirst
  refine Inventory.client?_eq_none.mp hnone { client with vni } ?_ rfl
  refine Inventory.mem_clientsOn.mpr ⟨?_, rfl⟩
  rw [hmarks.clients]
  exact List.mem_append_right _ (List.mem_singleton_self _)

/-- A membership that ended, or of a device that does not exist, is none. -/
theorem detachClient_again (hpairs : c.inventory.MembersPaired) {id : DeviceId} {server : ServerId}
    (hc₁ : c₁ = (c.detachClient outage id server).2) : c₁.inventory.client? id server = none := by
  subst hc₁
  unfold detachClient
  cases hd : c.inventory.device id with
  | error e =>
      -- Refused without a device, which a member would have.
      refine Inventory.client?_eq_none.mpr fun client hclient hdevice => ?_
      obtain ⟨d, hfound⟩ := hpairs.devices client (Inventory.mem_clientsOn.mp hclient).1
      rw [hdevice, ← Inventory.device_eq_ok, hd] at hfound
      cases hfound
  | ok d =>
      have hover := Inventory.client?_removeClient_self hpairs.pairs id server
      dsimp only
      rcases hremove : c.inventory.removeClient id server with ⟨_ | client, inv⟩
      · -- There was no membership to end.
        rw [hremove] at hover
        unfold Inventory.removeClient at hremove
        split at hremove
        · cases hremove
        · rename_i hnone
          exact hnone
      · rw [hremove] at hover
        obtain ⟨ids, hmarks⟩ := (Holds.commit c inv [id] [client]).modify outage [id]
          (.vpnMembership server)
        unfold Inventory.client? at hover ⊢
        rw [← hmarks.clients] at hover
        exact hover

/-- The settings of an organization that were stored are there. -/
theorem setOrganization_again {s : OrganizationSettings}
    (hc₁ : c₁ = (c.setOrganization outage s).2) :
    c₁.inventory.organizations.get? s.organization = some s := by
  subst hc₁
  unfold setOrganization
  dsimp only
  split
  · exact SortedMap.get?_insert_self _ _ _
  · dsimp only
    rw [invalidateMany_snd]
    exact SortedMap.get?_insert_self _ _ _

/-- A group that was stored is there. -/
theorem setGroup_again (hs : c.inventory.Sound) {g : DeviceGroup} {change : GroupChange}
    (hc₁ : c₁ = (c.setGroup outage g).2) (h : c₁.inventory.setGroup g = (.ok change, inv)) :
    c₁.inventory.groups.get? g.id = some g := by
  obtain ⟨⟨change₀, inv₀⟩, hfirst, ids, hmarks⟩ :=
    (setGroup_takes outage c hs g).before (fun inv => committed (inv.setGroup g)) hc₁
      (committed_eq_ok.mpr h)
  rw [hmarks.shares.groups]
  obtain ⟨_, _, ⟨_, _, _, rfl⟩ | ⟨_, hsw⟩⟩ :=
    Inventory.setGroup_eq_ok hs.devicesKeyed (committed_eq_ok.mp hfirst)
  · exact SortedMap.get?_insert_self _ _ _
  · rw [hsw.shares.groups]
    exact SortedMap.get?_insert_self _ _ _

end Controller

/-- Whether a request asks for records to be as it says, or asks only.  The others drop or store
checksums, or tell a configuration of an event. -/
def Request.settles : Request → Bool
  | .checksum _ | .cached _ | .invalidate _ | .invalidateDependents _ | .send _ _ => false
  | _ => true

/-- A request that settles looks no checksum up. -/
theorem Request.looksUp_of_settles {r : Request} (h : r.settles = true) : r.looksUp = false := by
  cases r <;> first | rfl | cases h

namespace Controller

variable {settings : Settings} {outage outage' : Outage} {c c₁ : Controller} {r : Request}
  {change : Change}

/-- A request that settles does nothing after it was attempted. -/
theorem Makes.idle_of_attempt (hs : c.inventory.Sound) (hpairs : c.inventory.MembersPaired)
    (hsettles : r.settles = true) (hc₁ : c₁ = (c.perform settings outage r).2)
    (h : Makes settings outage' c₁ r change) : Idle c₁ change := by
  cases h with
  | idle => exact ⟨rfl, rfl, rfl⟩
  | invalidate | invalidateDependents | signal | deactivate | activate => cases hsettles
  | addDevice h => exact absurd h (addDevice_again hc₁)
  | removeDevice h => exact absurd h (removeDevice_again hs hc₁)
  | updateDevice h htold =>
      obtain ⟨hlist, hdevice, hinv⟩ := updateDevice_again hc₁ h
      rw [hlist, hdevice] at htold
      exact ⟨hinv, htold, htold⟩
  | addTemplate h => exact absurd h (addTemplate_again hc₁)
  | @updateTemplate t p ids first second inv h hfirst hsecond =>
      obtain ⟨hids, hinv, hstored⟩ := updateTemplate_again hs.templates hc₁ h
      rw [hstored, Option.any_some, Template.contentDiffers_self] at hfirst
      have hnosecond : second = [] := by
        rcases hsecond with h | ⟨h, _⟩
        · exact h.trans hids
        · exact h
      have hnobody : first ++ second = [] := by rw [hfirst, hnosecond]; rfl
      exact ⟨hinv, hnobody, hnobody⟩
  | relist hd hk hts h hchanged =>
      rw [relist_again hs.templates hc₁ hd hk hts h] at hchanged
      cases hchanged
  | edit hk h =>
      exfalso
      cases h with
      | context hother => exact hother (setContext_again hc₁ hk)
      | document hobject hother =>
          rw [setDocument_again hobject hc₁ hk] at hother
          cases hother
  | changeBackend h hchanged =>
      rw [changeBackend_again hc₁ h] at hchanged
      cases hchanged
  | addServer h => exact absurd h (addServer_again hc₁)
  | @updateServer s p inv told h htold =>
      obtain ⟨rfl, hinv⟩ := updateServer_again hc₁ h
      rw [VpnServer.same_refl, if_pos rfl] at htold
      exact ⟨hinv, htold, htold⟩
  | attachClient h => exact absurd h (attachClient_again hc₁)
  | detachClient h =>
      exfalso
      have hnone := detachClient_again hpairs hc₁
      unfold Inventory.removeClient at h
      rw [hnone] at h
      cases h
  | setOrganization hnew => exact absurd (setOrganization_again hc₁) hnew
  | setGroup h hnew => exact absurd (setGroup_again hs hc₁ h) hnew

/-- A request that settles, made once more, leaves the records and the store as the first attempt
left them, however the store fails. -/
theorem perform_again (hreach : Reachable settings c) (outage outage' : Outage) (r : Request)
    (hsettles : r.settles = true) :
    ((c.perform settings outage r).2.perform settings outage' r).2.inventory =
        (c.perform settings outage r).2.inventory ∧
      ((c.perform settings outage r).2.perform settings outage' r).2.store =
        (c.perform settings outage r).2.store := by
  obtain ⟨change, hmakes, hfollows⟩ :=
    answers_of_sound (hreach.run [.request outage r]).sound settings outage' r
  have hidle := hmakes.idle_of_attempt hreach.sound hreach.orderly.members hsettles rfl
  exact hidle.kept hfollows (Request.looksUp_of_settles hsettles)

end Controller

end Fleet
