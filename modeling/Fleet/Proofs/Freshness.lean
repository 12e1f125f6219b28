/-
# Checksums that live are fresh

As long as the store does not fail, a checksum that lives is that of the rendered configuration:
whatever changes a rendered configuration drops its checksum.  One request may not: it replaces a
template by one of equal content that ranks otherwise or is spelled otherwise, and passes over the
devices that have the template on their lists.

Main statements: `Controller.after_fresh`, `Controller.live_fresh_or_overlooked`.
-/
import Fleet.Proofs.Covered
import Fleet.Proofs.Rendering
import Fleet.Proofs.Stored

namespace Fleet

/-! ## Rendering what is only marked -/

/-- Making configurations modified shows in no rendered configuration. -/
theorem Inventory.Marks.alike {inv inv' : Inventory} {ids : List DeviceId}
    (h : Inventory.Marks inv ids inv') (x : DeviceId) : Inventory.Alike inv inv' x := by
  refine Inventory.Alike.of_shares ?_ ?_ (h.clientsOf x) h.shares
  · rw [h.devices]
  · cases hk : inv.configurations.get? x with
    | none => rw [h.kept x (Or.inr (Or.inr hk)), hk]
    | some k =>
        obtain ⟨s, hs⟩ := h.after hk
        rw [hs]
        rfl

namespace Inventory.Alike

variable {inv inv' : Inventory} {x : DeviceId} {ids : List DeviceId}

/-- Storing a template shows where it is on the list and looks different. -/
theorem of_putTemplate {T : Template} {n : Nat} (hoff : AgreesOff ids inv inv') (hx : x ∉ ids)
    (hs : SharesWith (inv.putTemplate T n) inv')
    (hsame : ∀ k, inv.configurations.get? x = some k → T.id ∈ k.templates →
      ∃ p, inv.templates.get? T.id = some p ∧ T.core = p.core) : Alike inv inv' x := by
  refine of_agreesOff hoff hx (fun _ _ => ?_) (fun _ _ => ?_) (fun _ _ => ?_) fun k hk t ht => ?_
  · rw [hs.servers]
    rfl
  · rw [hs.organizations]
    rfl
  · rw [hs.groups]
    rfl
  · rw [hs.templates]
    unfold putTemplate
    dsimp only
    rw [SortedMap.get?_insert]
    split
    · rename_i hT
      subst hT
      obtain ⟨p, hp, hcore⟩ := hsame k hk ht
      rw [hp, Option.map_some, Option.map_some, hcore]
    · rfl

/-- Storing a server shows where the device joined it and it looks different. -/
theorem of_putServer {s : VpnServer} (hoff : AgreesOff ids inv inv') (hx : x ∉ ids)
    (hs : SharesWith { inv with servers := inv.servers.insert s.id s } inv')
    (hsame : ∀ client ∈ inv.clientsOf x, client.server = s.id →
      ∃ p, inv.servers.get? s.id = some p ∧
        VpnAttachment.shown ⟨s, client⟩ = VpnAttachment.shown ⟨p, client⟩) : Alike inv inv' x := by
  refine of_agreesOff hoff hx (fun client hclient => ?_) (fun _ _ => ?_) (fun _ _ => ?_)
    fun _ _ _ _ => ?_
  · rw [hs.servers]
    dsimp only
    rw [SortedMap.get?_insert]
    split
    · rename_i hserver
      obtain ⟨p, hp, hshown⟩ := hsame client hclient hserver.symm
      rw [← hserver, hp, Option.map_some, Option.map_some, hshown]
    · rfl
  · rw [hs.organizations]
  · rw [hs.groups]
  · rw [hs.templates]

/-- Storing the settings of an organization shows in its devices only. -/
theorem of_putOrganization {s : OrganizationSettings} (hoff : AgreesOff ids inv inv') (hx : x ∉ ids)
    (hs : SharesWith { inv with organizations := inv.organizations.insert s.organization s } inv')
    (hother : ∀ d, inv.devices.get? x = some d → d.organization ≠ s.organization) :
    Alike inv inv' x := by
  refine of_agreesOff hoff hx (fun _ _ => ?_) (fun d hd => ?_) (fun _ _ => ?_) fun _ _ _ _ => ?_
  · rw [hs.servers]
  · rw [hs.organizations]
    exact SortedMap.get?_insert_ne (hother d hd).symm _ _
  · rw [hs.groups]
  · rw [hs.templates]

/-- Storing a group shows in its devices only. -/
theorem of_putGroup {g : DeviceGroup} (hoff : AgreesOff ids inv inv') (hx : x ∉ ids)
    (hs : SharesWith { inv with groups := inv.groups.insert g.id g } inv')
    (hother : ∀ d, inv.devices.get? x = some d → d.group ≠ some g.id) : Alike inv inv' x := by
  refine of_agreesOff hoff hx (fun _ _ => ?_) (fun _ _ => ?_) (fun d hd => ?_) fun _ _ _ _ => ?_
  · rw [hs.servers]
  · rw [hs.organizations]
  · rw [hs.groups]
    cases hg : d.group with
    | none => rfl
    | some id =>
        refine SortedMap.get?_insert_ne ?_ _ _
        rintro rfl
        exact hother d hd hg
  · rw [hs.templates]

end Inventory.Alike

/-- A change of a device that cannot show in its configuration shows in nothing that is rendered. -/
theorem Device.shown_eq {d p : Device} (hid : d.id = p.id) (h : d.affectsConfiguration p = false) :
    d.shown = p.shown := by
  unfold affectsConfiguration at h
  simp only [Bool.or_eq_false_iff, bne_eq_false_iff_eq] at h
  obtain ⟨⟨⟨⟨⟨hname, hgroup⟩, hkey⟩, hmac⟩, hhardware⟩, horganization⟩ := h
  unfold shown Device.variables
  rw [hid, hname, hgroup, hkey, hmac, hhardware, horganization]

namespace Inventory

/-- Nothing about a device is different but fields that do not show and its state, which did not
become modified. -/
structure AlmostSame (inv inv' : Inventory) (x : DeviceId) : Prop where
  /-- The device. -/
  device : (inv'.devices.get? x).map Device.shown = (inv.devices.get? x).map Device.shown
  /-- The configuration. -/
  configuration : ∃ k s, inv.configurations.get? x = some k ∧
    inv'.configurations.get? x = some { k with status := s } ∧
    (s = .modified → k.status = .modified)
  /-- The memberships. -/
  clients : inv'.clientsOf x = inv.clientsOf x
  /-- What devices share. -/
  shares : SharesWith inv inv'

/-- A device is replaced, its list stays, and no field that shows is another one. -/
theorem AlmostSame.of_replaceDevice {inv inv' : Inventory} (hkeyed : inv.DevicesKeyed)
    {d p : Device} {change : TemplateChange} (h : inv.replaceDevice d = .ok (p, change, inv'))
    (hsame : change.changed = false) (hshown : d.affectsConfiguration p = false) :
    AlmostSame inv inv' d.id := by
  obtain ⟨k, hp, hk, _⟩ := replaceDevice_eq_ok h
  rw [replaceDevice_of_unchanged h hsame]
  refine ⟨?_, ⟨k, k.status, hk, hk, id⟩, rfl, ⟨rfl, rfl, rfl, rfl⟩⟩
  rw [putDevice_get?_self, hp]
  exact congrArg some (Device.shown_eq (hkeyed d.id p hp).symm hshown)

/-- Such a device is rendered alike. -/
theorem AlmostSame.alike {inv inv' : Inventory} {x : DeviceId} (h : AlmostSame inv inv' x) :
    Alike inv inv' x := by
  refine Alike.of_shares h.device ?_ h.clients h.shares
  obtain ⟨k, s, hk, hk', _⟩ := h.configuration
  rw [hk, hk']
  rfl

end Inventory

namespace Controller

variable {settings : Settings} {outage : Outage} {c : Controller} {r : Request} {change : Change}
  {x : DeviceId} {v : String}

/-! ## Passing over a device -/

/-- Whether a request replaces a template on the list of a device by one of equal content that is
rendered otherwise all the same. -/
inductive PassesOver (c : Controller) (x : DeviceId) : Request → Prop where
  | updateTemplate {t u p : Template} {k : Configuration} (hu : t.normalize = .ok u)
      (hp : c.inventory.templates.get? u.id = some p)
      (hk : c.inventory.configurations.get? x = some k) (hlisted : u.id ∈ k.templates)
      (hsame : u.contentDiffers p = false)
      (hother : u.rank ≠ p.rank ∨ u.document ≠ p.document) : PassesOver c x (.updateTemplate t)

/-- A device in the inventory depends on something. -/
theorem exists_dependencies (hs : c.inventory.Sound) {d : Device}
    (hd : c.inventory.devices.get? x = some d) :
    ∃ k, c.inventory.configurations.get? x = some k ∧
      c.inventory.dependencies x =
        .ok ⟨k.templates, (c.inventory.clientsOf x).map VpnClient.server,
          d.organization, d.group⟩ := by
  obtain ⟨k, hk⟩ := hs.configured x d hd
  exact ⟨k, hk, Inventory.dependencies_eq_ok.mpr ⟨d, k, hd, hk, rfl⟩⟩

/-! ## What is not dropped -/

/-- A request that edits the records of a device drops its checksum, whatever the store does, or
edits next to nothing. -/
theorem Makes.dropped_or_almostSame (hs : c.inventory.Sound)
    (h : Makes settings outage c r change) (hx : x ∈ change.touched) :
    x ∈ change.dropped ∨ c.inventory.AlmostSame change.edited x := by
  cases h with
  | idle | invalidate | invalidateDependents | addServer | updateServer | setOrganization =>
    cases hx
  | addDevice | removeDevice | addTemplate | relist | edit | changeBackend | attachClient
  | detachClient | deactivate | activate => exact Or.inl hx
  | updateTemplate h _ hsecond =>
      left
      rw [List.mem_append]
      rcases hsecond with rfl | ⟨_, rfl, _⟩
      · exact Or.inr hx
      · exact Or.inl (mem_devicesForTemplate_of_replaceTemplate hs.templates h hx)
  | setGroup h => exact Or.inl (List.mem_append_left _ (mem_devicesForGroup_of_setGroup hs h hx))
  | @updateDevice d p change inv told h htold =>
      cases htell : change.changed || d.affectsConfiguration p with
      | true =>
          left
          rw [htold, htell]
          exact hx
      | false =>
          right
          rw [Bool.or_eq_false_iff] at htell
          rw [List.mem_singleton.mp hx]
          exact Inventory.AlmostSame.of_replaceDevice hs.devicesKeyed h htell.1 htell.2
  | @signal id signal d k s inv _ hk hafter _ _ hinv =>
      cases hchanges : changesDocument signal with
      | true => exact Or.inl hx
      | false =>
          right
          rw [List.mem_singleton.mp hx, hinv]
          exact ⟨rfl, ⟨k, s, hk, Inventory.putConfiguration_get?_self, fun hmodified =>
            absurd hmodified (Status.ne_modified_of_after hafter hchanges)⟩, rfl,
            ⟨rfl, rfl, rfl, rfl⟩⟩

/-- A device that is touched while its checksum stays is rendered alike, whatever the store does. -/
theorem Makes.alike_touched (hs : c.inventory.Sound)
    (h : Makes settings outage c r change) (hx : x ∈ change.touched) (hkept : x ∉ change.dropped) :
    c.inventory.Alike change.edited x :=
  ((h.dropped_or_almostSame hs hx).resolve_left hkept).alike

/-- A template that is replaced looks the same to a device that has it on its list and keeps its
checksum, unless the device is passed over. -/
theorem core_eq_of_kept (hkeyed : c.inventory.templates.Keyed) {t u p : Template}
    {k : Configuration} {ids first : List DeviceId} {inv : Inventory} {index : DependencyIndex}
    (hpass : ¬ c.PassesOver x (.updateTemplate t)) (hu : t.normalize = .ok u)
    (hp : c.inventory.templates.get? u.id = some p)
    (hr : Inventory.Requires (c.inventory.putTemplate { u with created := p.created }
      c.inventory.templateSequence) { u with created := p.created } ids inv)
    (hfirst : first =
      if (inv.templates.get? t.id).any fun current => current.contentDiffers p
      then index.devicesForTemplate t.id else [])
    (hk : c.inventory.configurations.get? x = some k) (hlisted : u.id ∈ k.templates)
    (hlinked : x ∈ index.devicesForTemplate u.id) (hkept : x ∉ first) :
    ({ u with created := p.created } : Template).core = p.core := by
  have hid := (Inventory.normalize_eq_ok hu).1
  have hstored : inv.templates.get? t.id = some { u with created := p.created } := by
    rw [hr.shares.templates, ← hid]
    exact SortedMap.get?_insert_self _ _ _
  rw [hstored, Option.any_some, ← hid] at hfirst
  cases hdiffers : Template.contentDiffers { u with created := p.created } p with
  | true =>
      rw [hdiffers, if_pos rfl] at hfirst
      exact absurd (hfirst ▸ hlinked) hkept
  | false =>
      have hother : ¬ (u.rank ≠ p.rank ∨ u.document ≠ p.document) :=
        fun hother => hpass (PassesOver.updateTemplate hu hp hk hlisted hdiffers hother)
      rw [not_or, Decidable.not_not, Decidable.not_not] at hother
      exact Template.core_eq (hkeyed u.id p hp).symm rfl hdiffers hother.1 hother.2

/-- A device that is not touched while its checksum stays is rendered alike, unless it is passed
over. -/
theorem Makes.alike_untouched (hs : c.inventory.Sound) (hc : c.Covers)
    (hpass : ¬ c.PassesOver x r) (h : Makes settings outage c r change) (hx : x ∉ change.touched)
    (hkept : x ∉ change.dropped) {d : Device} (hd : c.inventory.devices.get? x = some d) :
    c.inventory.Alike change.edited x := by
  have hoff := h.agreesOff hs.devicesKeyed
  obtain ⟨k, hk, hdeps⟩ := exists_dependencies hs hd
  -- What the device depends on names it, so that a change of that would have dropped its checksum.
  have hlinks := h.links hs.devicesKeyed hc ((hoff.dependencies hx).trans hdeps)
  have hstores := h.stores hs.devicesKeyed
  have hunshared : r.storesShared = false → c.inventory.Alike change.edited x := by
    intro hr
    exact Inventory.Alike.of_untouched hoff hx (hstores.shares hr)
  cases h with
  | idle => exact Inventory.Alike.refl _ _
  | invalidate | invalidateDependents | addDevice | removeDevice | updateDevice | changeBackend
  | attachClient | detachClient | signal | deactivate | activate => exact hunshared rfl
  | relist _ _ hts => exact hunshared hts.storesShared
  | edit _ hedit => exact hunshared hedit.storesShared
  | addTemplate h =>
      obtain ⟨u, _, hnew, _, hr⟩ := Inventory.insertTemplate_eq_ok h
      refine Inventory.Alike.of_putTemplate hoff hx hr.shares fun k hk ht => ?_
      -- A template that did not exist is on no list.
      obtain ⟨T, hT⟩ := (hs.devices x).listed k hk _ ht
      exact absurd (hT.symm.trans hnew) (Option.some_ne_none T)
  | updateTemplate h hfirst =>
      obtain ⟨u, hu, hp, _, _, hr⟩ := Inventory.replaceTemplate_eq_ok h
      refine Inventory.Alike.of_putTemplate hoff hx hr.shares fun k' hk' ht => ⟨_, hp, ?_⟩
      rw [hk, Option.some.injEq] at hk'
      subst hk'
      exact core_eq_of_kept hs.templates hpass hu hp hr hfirst hk ht (hlinks.templates _ ht)
        fun hmem => hkept (List.mem_append_left _ hmem)
  | addServer h =>
      obtain ⟨hnew, rfl⟩ := Inventory.insertServer_eq_ok h
      refine Inventory.Alike.of_putServer hoff hx (Inventory.SharesWith.refl _) ?_
      intro client hclient hserver
      -- A server that did not exist was joined by no device.
      obtain ⟨S, hS⟩ := (hs.devices x).joined client hclient
      rw [hserver, hnew] at hS
      cases hS
  | @updateServer s p inv told h htold =>
      obtain ⟨hp, rfl⟩ := Inventory.replaceServer_eq_ok h
      refine Inventory.Alike.of_putServer hoff hx (Inventory.SharesWith.refl _) ?_
      intro client hclient hserver
      refine ⟨p, hp, ?_⟩
      cases hsame : s.same p with
      | true => exact VpnServer.shown_of_same hsame client
      | false =>
          rw [hsame, if_neg Bool.false_ne_true] at htold
          have hmem := hlinks.servers _ (List.mem_map_of_mem hclient)
          rw [hserver, ← htold] at hmem
          exact absurd hmem hkept
  | setOrganization =>
      refine Inventory.Alike.of_putOrganization hoff hx (Inventory.SharesWith.refl _) ?_
      intro d' hd' horganization
      rw [hd, Option.some.injEq] at hd'
      subst hd'
      exact hkept (horganization ▸ hlinks.organization)
  | setGroup =>
      cases hstores with
      | nothing hshares => exact Inventory.Alike.of_untouched hoff hx hshares
      | setGroup hshares =>
          refine Inventory.Alike.of_putGroup hoff hx hshares ?_
          intro d' hd' hgroup
          rw [hd, Option.some.injEq] at hd'
          subst hd'
          exact hkept (List.mem_append_left _ (hlinks.group _ hgroup))

/-- While its checksum is not dropped a device is rendered alike, unless it is passed over. -/
theorem Follows.render_eq {c' : Controller} (hs : c.inventory.Sound) (hc : c.Covers)
    (hpass : ¬ c.PassesOver x r) (h : Makes settings outage c r change)
    (hfollows : Follows outage c r change c') (hkept : x ∉ change.dropped) {d : Device}
    (hd : c.inventory.devices.get? x = some d) : c'.render settings x = c.render settings x := by
  have halike : c.inventory.Alike change.edited x := by
    by_cases hx : x ∈ change.touched
    · exact h.alike_touched hs hx hkept
    · exact h.alike_untouched hs hc hpass hx hkept hd
  have hmarked := (hfollows.marks.alike x).render_eq (h.sound hs).templates settings.fleet
  exact hmarked.trans (halike.render_eq hs.templates settings.fleet)

/-- A request that only looks checksums up drops none. -/
theorem Makes.dropped_eq_nil (h : Makes settings outage c r change) (hlooks : r.looksUp = true) :
    change.dropped = [] := by
  cases h with
  | idle => rfl
  | relist _ _ hts => cases hts <;> cases hlooks
  | edit _ hedit => cases hedit <;> cases hlooks
  | _ => cases hlooks

/-- When the store does not fail, what lives after a request was not dropped. -/
theorem Follows.not_mem_dropped {c' : Controller}
    (hserved : ∀ calls kind key, outage calls kind key = none)
    (h : Makes settings outage c r change)
    (hfollows : Follows outage c r change c') (hlive : c'.live? x = some v) :
    x ∉ change.dropped := by
  cases hlooks : r.looksUp with
  | true =>
      rw [h.dropped_eq_nil hlooks]
      exact List.not_mem_nil
  | false =>
      intro hx
      unfold live? at hlive
      rw [hfollows.store hlooks, Store.live?_dropAll hserved, if_pos hx] at hlive
      cases hlive

/-- A request that stores no checksum leaves those that live. -/
theorem Follows.live_before {c' : Controller}
    (h : Follows outage c r change c') (hlooks : r.looksUp = false)
    (hlive : c'.live? x = some v) : c.live? x = some v := by
  unfold live? at hlive ⊢
  rw [h.store hlooks] at hlive
  exact (Store.live_of_dropAll change.dropped c.calls c.store hlive).1

/-! ## Events -/

/-- Whether an event passes over a device and changes what is rendered for it. -/
def PassesOverAt (settings : Settings) (c : Controller) (x : DeviceId) (e : Event) : Prop :=
  ∃ outage r, e = .request outage r ∧ c.PassesOver x r ∧
    (c.after settings e).render settings x ≠ c.render settings x

/-- What lives after an event lived before, or is the checksum of what is rendered. -/
theorem live_of_after (hs : c.inventory.Sound) {e : Event}
    (hlive : (c.after settings e).live? x = some v) :
    c.live? x = some v ∨
      ∃ text, (c.after settings e).render settings x = .ok text ∧ v = checksum text := by
  cases e with
  | pass seconds => exact Or.inl (Store.live?_of_advance hlive)
  | request outage r =>
      obtain ⟨change, hmakes, hfollows⟩ := answers_of_sound hs settings outage r
      cases hlooks : r.looksUp with
      | false => exact Or.inl (hfollows.live_before hlooks hlive)
      | true =>
          unfold Request.looksUp at hlooks
          split at hlooks
          · rename_i y
            have hframe := getChecksum_frame settings outage c y
            rcases live_of_getChecksum hlive with hold | ⟨rfl, text, htext, hv⟩
            · exact Or.inl hold
            · refine Or.inr ⟨text, ?_, hv⟩
              unfold render at htext ⊢
              rw [← hframe.1] at htext
              exact htext
          · exact Or.inl (live?_cached.symm.trans hlive)
          · cases hlooks

/-- While its checksum lives a device is rendered alike, unless it is passed over. -/
theorem render_after (hs : c.inventory.Sound) (hc : c.Covers) {e : Event} (hserved : e.Served)
    (hpass : ¬ c.PassesOverAt settings x e) (hlive : (c.after settings e).live? x = some v)
    {d : Device} (hd : c.inventory.devices.get? x = some d) :
    (c.after settings e).render settings x = c.render settings x := by
  cases e with
  | pass seconds => rfl
  | request outage r =>
      apply Classical.byContradiction
      intro hchanged
      have hover : ¬ c.PassesOver x r := fun hover => hpass ⟨outage, r, rfl, hover, hchanged⟩
      obtain ⟨change, hmakes, hfollows⟩ := answers_of_sound hs settings outage r
      have hkept := hfollows.not_mem_dropped hserved hmakes hlive
      exact hchanged (hfollows.render_eq hs hc hover hmakes hkept hd)

/-- A checksum is that of the rendered configuration of a device. -/
def Fresh (settings : Settings) (c : Controller) (x : DeviceId) (v : String) : Prop :=
  ∃ d text, c.inventory.devices.get? x = some d ∧ c.render settings x = .ok text ∧ v = checksum text

/-- A checksum that was fresh stays fresh while it lives, unless the device is passed over. -/
theorem after_fresh (hs : c.inventory.Sound) (hc : c.Covers) {e : Event} (hserved : e.Served)
    (hfresh : c.live? x = some v → Fresh settings c x v) (hpass : ¬ c.PassesOverAt settings x e)
    (hlive : (c.after settings e).live? x = some v) : Fresh settings (c.after settings e) x v := by
  have hrender : ∃ text, (c.after settings e).render settings x = .ok text ∧ v = checksum text := by
    rcases live_of_after hs hlive with hold | hnew
    · obtain ⟨d, text, hd, htext, hv⟩ := hfresh hold
      exact ⟨text, (render_after hs hc hserved hpass hlive hd).trans htext, hv⟩
    · exact hnew
  obtain ⟨text, htext, hv⟩ := hrender
  obtain ⟨d, hd⟩ := Inventory.exists_device_of_render htext
  exact ⟨d, text, hd, htext, hv⟩

/-! ## Runs -/

/-- An event of a run passed over a device, and a checksum of it has lived ever since. -/
def Overlooked (settings : Settings) (c : Controller) (events : List Event) (x : DeviceId)
    (v : String) : Prop :=
  EverSince settings (fun c e => c.PassesOverAt settings x e) (fun c => c.live? x = some v) c events

/-- After every run from an empty inventory in which the store does not fail, every checksum that
lives is that of the rendered configuration of a device, or was overlooked. -/
theorem live_fresh_or_overlooked (now : Nat) (events : List Event)
    (hserved : ∀ e ∈ events, e.Served)
    (hlive : ((start .empty now).run settings events).live? x = some v) :
    Fresh settings ((start .empty now).run settings events) x v ∨
      Overlooked settings (start .empty now) events x v := by
  have hrun : (((start .empty now).run settings events).live? x = some v →
        Fresh settings ((start .empty now).run settings events) x v) ∨
      Overlooked settings (start .empty now) events x v :=
    run_keeps_or_everSince (I := fun c => c.inventory.Sound ∧ c.Covers)
      (G := fun c => c.live? x = some v → Fresh settings c x v) (Q := Event.Served)
      (fun _ e h => ⟨after_sound h.1 e, after_covers h.1 h.2 e⟩)
      (fun _ _ hserved h hfresh hpass hlive => after_fresh h.1 h.2 hserved hfresh hpass hlive)
      (fun _ hdead hlive => absurd hlive hdead) ⟨start_sound now, start_covers now⟩
      (fun hlive => by cases hlive) events hserved
  rcases hrun with hfresh | hoverlooked
  · exact Or.inl (hfresh hlive)
  · exact Or.inr hoverlooked

/-- A device is added and asks for its checksum. -/
def freshSample : List Request :=
  [.addDevice Sample.device (Sample.configuration []), .checksum Sample.device.id]

/-- The checksum of the empty document lives then. -/
theorem freshSample_live :
    (Sample.controller freshSample).live? Sample.device.id =
      some (checksum Json.emptyObject.render) := by
  decide +kernel

/-- It is fresh, unless the device was overlooked. -/
theorem live_fresh_or_overlooked_sample :
    Fresh Sample.settings (Sample.controller freshSample) Sample.device.id
        (checksum Json.emptyObject.render) ∨
      Overlooked Sample.settings (start .empty 0) (Sample.events freshSample) Sample.device.id
        (checksum Json.emptyObject.render) :=
  live_fresh_or_overlooked 0 (Sample.events freshSample) (Sample.served freshSample)
    freshSample_live

/-- A template that sets a value. -/
def settingTemplate (name : String) : Template :=
  { Sample.template with id := ⟨name⟩, name, document := .object [("k", .string name)] }

/-- A device with two templates asks for its checksum, and then the second one becomes a default,
which puts it before the first one. -/
def reorderedSample : List Request :=
  [.addTemplate (settingTemplate "a"), .addTemplate (settingTemplate "b"),
    .addDevice Sample.device (Sample.configuration [⟨"a"⟩, ⟨"b"⟩]), .checksum Sample.device.id,
    .updateTemplate { settingTemplate "b" with default := true }]

/-- A checksum that lives need not be that of the rendered configuration. -/
theorem reordered_template_leaves_checksum :
    ¬ ∀ (settings : Settings) (now : Nat) (events : List Event), (∀ e ∈ events, e.Served) →
      ∀ x v, ((start .empty now).run settings events).live? x = some v →
        Fresh settings ((start .empty now).run settings events) x v := by
  intro h
  obtain ⟨_, text, _, htext, hv⟩ := h Sample.settings 0 (Sample.events reorderedSample)
    (Sample.served reorderedSample) Sample.device.id
    (checksum (settingTemplate "b").document.render) (by decide +kernel)
  have hrendered : ((Sample.controller reorderedSample).render Sample.settings
      Sample.device.id).toOption = some (settingTemplate "a").document.render := by
    decide +kernel
  unfold Sample.controller at hrendered
  rw [htext] at hrendered
  rw [Option.some.inj hrendered] at hv
  exact absurd hv (by decide +kernel)

end Controller

end Fleet
