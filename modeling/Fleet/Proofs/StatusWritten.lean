/-
# Changed configurations are modified

A request that changes what a device in use is configured with leaves its configuration modified,
whether or not the store fails.  There is one exception: while a group is stored, a failure to drop
the checksums of its devices ends the request before the members are made modified.

Main statement: `Controller.status_of_changed`.
-/
import Fleet.Proofs.Covered

namespace Fleet

/-! ## What a device is configured with -/

namespace Inventory

/-- A device is configured with the same in both: list, base document, variables, backend and
memberships. -/
def SameContent (inv inv' : Inventory) (x : DeviceId) : Prop :=
  ∃ k k', inv.configurations.get? x = some k ∧ inv'.configurations.get? x = some k' ∧
    k'.templates = k.templates ∧ k'.document = k.document ∧ k'.context = k.context ∧
    k'.backend = k.backend ∧ inv'.clientsOf x = inv.clientsOf x

variable {inv inv' inv'' : Inventory} {x : DeviceId} {k k' : Configuration}

/-- Where nothing is edited a device is configured with the same. -/
theorem SameContent.of_agreesOff {ids : List DeviceId} (hoff : AgreesOff ids inv inv')
    (hx : x ∉ ids) (hk : inv'.configurations.get? x = some k) : SameContent inv inv' x :=
  ⟨k, k, (hoff.configuration x hx).symm.trans hk, hk, rfl, rfl, rfl, rfl, hoff.clients x hx⟩

/-- The state is not part of it. -/
theorem SameContent.of_marks {ids : List DeviceId} (h : SameContent inv inv' x)
    (hm : Marks inv' ids inv'') : SameContent inv inv'' x := by
  obtain ⟨k, k', hk, hk', ht, hdoc, hctx, hb, hcl⟩ := h
  obtain ⟨s, hs⟩ := hm.after hk'
  exact ⟨k, _, hk, hs, ht, hdoc, hctx, hb, (hm.clientsOf x).trans hcl⟩

/-- A device whose list stays when it is replaced is configured with the same. -/
theorem SameContent.of_replaceDevice {d p : Device} {change : TemplateChange}
    (h : inv.replaceDevice d = .ok (p, change, inv')) (hsame : change.changed = false) :
    SameContent inv inv' d.id := by
  obtain ⟨k, _, hk, _⟩ := replaceDevice_eq_ok h
  rw [replaceDevice_of_unchanged h hsame]
  exact ⟨k, k, hk, hk, rfl, rfl, rfl, rfl, rfl⟩

/-- A configuration that is made modified, or is modified already, is modified then. -/
theorem Marks.status_eq {ids : List DeviceId} (hm : Marks inv ids inv') {d : Device}
    (hd : inv.devices.get? x = some d) (ha : d.active = true)
    (huse : k.status.isDeactivation = false) (hk : inv.configurations.get? x = some k)
    (hk' : inv'.configurations.get? x = some k') (h : x ∈ ids ∨ k.status = .modified) :
    k'.status = .modified := by
  rcases h with hx | hmodified
  · have hmarked := hm.marked x hx d k hd hk
    rw [hk', Option.some.injEq] at hmarked
    rw [hmarked]
    exact Status.marked_eq_modified ha huse
  · obtain ⟨k₀, hk₀, hor⟩ := hm.before hk'
    have : k₀ = k := Option.some.inj (hk₀.symm.trans hk)
    subst this
    rcases hor with rfl | ⟨d', _, rfl⟩
    · exact hmodified
    · dsimp only
      rw [hmodified]
      cases d'.active <;> rfl

end Inventory

/-! ## Requests that change a configuration -/

namespace Controller

/-- Whether a request ends while the checksums of a group are dropped, before the members of the
group are made modified. -/
def CutShort (outage : Outage) (c : Controller) (r : Request) : Prop :=
  ∃ g change inv e, r = .setGroup g ∧ c.inventory.setGroup g = (.ok change, inv) ∧
    c.inventory.groups.get? g.id ≠ some g ∧
    ((c.commit inv change.retemplated change.left).invalidateMany outage
      ((c.indexed inv change.retemplated).devicesForGroup g.id)).1 = .error e

variable {settings : Settings} {outage : Outage} {c : Controller} {r : Request} {change : Change}
  {x : DeviceId} {d : Device} {k : Configuration}

/-- A configuration of a device in use that a request changes is made modified afterwards, or is
modified already. -/
theorem Makes.told (hs : c.inventory.Sound) (hcut : ¬ CutShort outage c r)
    (h : Makes settings outage c r change) (hd : change.edited.devices.get? x = some d)
    (ha : d.active = true) (hk : change.edited.configurations.get? x = some k)
    (hchanged : ¬ Inventory.SameContent c.inventory change.edited x) :
    x ∈ change.marked ∨ k.status = .modified := by
  have hx : x ∈ change.touched := by
    apply Decidable.byContradiction
    intro hx
    exact hchanged (Inventory.SameContent.of_agreesOff (h.agreesOff hs.devicesKeyed) hx hk)
  cases h with
  | idle | invalidate | invalidateDependents | addServer | updateServer | setOrganization =>
    cases hx
  | addDevice h =>
      rw [List.mem_singleton.mp hx] at hk
      obtain ⟨_, _, _, _, rfl⟩ := Inventory.insertDevice_eq_ok h
      have hstored := Option.some.inj (hk.symm.trans Inventory.putConfiguration_get?_self)
      right
      rw [hstored]
  | removeDevice h =>
      rw [List.mem_singleton.mp hx] at hd
      obtain ⟨_, _, _, _, _, rfl⟩ := Inventory.removeDevice_eq_ok h
      rw [SortedMap.get?_erase_self] at hd
      cases hd
  | @updateDevice d p change _ _ h htold =>
      cases hc : change.changed with
      | true =>
          left
          rw [htold, hc]
          exact hx
      | false =>
          rw [List.mem_singleton.mp hx] at hchanged
          exact absurd (Inventory.SameContent.of_replaceDevice h hc) hchanged
  | addTemplate => exact Or.inl hx
  | @updateTemplate t p ids first second inv h _ hsecond =>
      left
      rw [List.mem_append]
      rcases hsecond with rfl | ⟨_, rfl, _⟩
      · exact Or.inr hx
      · exact Or.inl (mem_devicesForTemplate_of_replaceTemplate hs.templates h hx)
  | relist | edit | changeBackend | attachClient | detachClient => exact Or.inl hx
  | setGroup h hnew hdropped htold =>
      left
      rename_i dropped
      cases dropped with
      | error e => exact absurd ⟨_, _, _, e, rfl, h, hnew, hdropped⟩ hcut
      | ok n =>
          rw [htold.trans (if_pos rfl)]
          exact hx
  | signal _ hk₀ _ _ _ hinv =>
      exfalso
      subst hinv
      rw [List.mem_singleton.mp hx] at hchanged
      exact hchanged ⟨_, _, hk₀, Inventory.putConfiguration_get?_self, rfl, rfl, rfl, rfl, rfl⟩
  | deactivate _ _ _ hinv =>
      rw [List.mem_singleton.mp hx] at hd
      subst hinv
      rw [← Option.some.inj (Inventory.putDevice_get?_self.symm.trans hd)] at ha
      cases ha
  | activate _ _ hstatus hinv =>
      right
      rw [List.mem_singleton.mp hx] at hk
      subst hinv
      rw [← Option.some.inj (Inventory.putConfiguration_get?_self.symm.trans hk)]
      exact Status.eq_modified_of_activate hstatus

/-- A request that is cut short makes no configuration modified. -/
theorem Makes.cutShort (hs : c.inventory.Sound) (hcut : CutShort outage c r)
    (h : Makes settings outage c r change) (hk : change.edited.configurations.get? x = some k) :
    change.marked = [] ∧
      ∃ k₀, c.inventory.configurations.get? x = some k₀ ∧ k.status = k₀.status := by
  obtain ⟨g, gc, inv, e, rfl, hgroup, _, hfailed⟩ := hcut
  cases h with
  | idle => exact ⟨rfl, k, hk, rfl⟩
  | relist _ _ hts => cases hts
  | edit _ hedit => cases hedit
  | setGroup h _ hdropped htold =>
      rw [hgroup] at h
      obtain ⟨hok, rfl⟩ := Prod.mk.inj h
      cases hok
      rw [hfailed] at hdropped
      subst hdropped
      refine ⟨htold.trans (if_neg (by simp [Except.isOk, Except.toBool])), ?_⟩
      dsimp only at hk
      obtain ⟨_, _, ⟨_, _, _, rfl⟩ | ⟨_, hsw⟩⟩ := Inventory.setGroup_eq_ok hs.devicesKeyed hgroup
      · exact ⟨k, hk, rfl⟩
      · by_cases hx : x ∈ c.inventory.membersOf g.id
        · obtain ⟨d₀, hd₀, _⟩ := hs.devicesKeyed.mem_membersOf.mp hx
          obtain ⟨k₀, hk₀⟩ := hs.configured x d₀ hd₀
          have hswapped := hsw.swapped x hx d₀ k₀ hd₀ hk₀
          rw [hk, Option.some.injEq] at hswapped
          refine ⟨k₀, hk₀, ?_⟩
          rw [hswapped]
          split <;> rfl
        · refine ⟨k, ?_, rfl⟩
          rw [← hk]
          exact (hsw.agreesOff.configuration x fun hm => hx (hsw.subset x hm)).symm

/-- A request that changes what a device in use is configured with leaves the configuration
modified, however the store fails, unless the request is cut short: then the state stays. -/
theorem status_of_changed (hreach : Reachable settings c) (outage : Outage) (r : Request)
    (hd : (c.perform settings outage r).2.inventory.devices.get? x = some d) (ha : d.active = true)
    (hk : (c.perform settings outage r).2.inventory.configurations.get? x = some k)
    (hchanged : ¬ Inventory.SameContent c.inventory (c.perform settings outage r).2.inventory x) :
    k.status = .modified ↔
      (CutShort outage c r →
        ∃ k₀, c.inventory.configurations.get? x = some k₀ ∧ k₀.status = .modified) := by
  have hs := hreach.sound
  obtain ⟨change, hmakes, hfollows⟩ := answers_of_sound hs settings outage r
  have hmarks := hfollows.marks
  rw [hmarks.devices] at hd
  obtain ⟨ke, hke, _⟩ := hmarks.before hk
  have hchanged' : ¬ Inventory.SameContent c.inventory change.edited x :=
    fun hsame => hchanged (hsame.of_marks hmarks)
  by_cases hcut : CutShort outage c r
  · obtain ⟨hnone, k₀, hk₀, hstatus⟩ := hmakes.cutShort hs hcut hke
    have hsame : k = ke := by
      have hkept := hmarks.kept x (Or.inl (by rw [hnone]; simp))
      rw [hk, hke] at hkept
      exact Option.some.inj hkept
    rw [hsame, hstatus]
    constructor
    · exact fun hmodified _ => ⟨k₀, hk₀, hmodified⟩
    · intro h
      obtain ⟨k₁, hk₁, hmodified⟩ := h hcut
      rw [Option.some.inj (hk₀.symm.trans hk₁)]
      exact hmodified
  · have huse := ((hmakes.sound hs).devices x).inUse d ke hd hke ha
    have hmodified := hmarks.status_eq hd ha huse hke hk
      (hmakes.told hs hcut hd ha hke hchanged')
    exact ⟨fun _ hc => absurd hc hcut, fun _ => hmodified⟩

/-- A template is added and then a device of a group, which applies its configuration. -/
def appliedSample : List Request :=
  [.addTemplate Sample.template,
    .addDevice { Sample.device with group := some ⟨"g"⟩ } (Sample.configuration []),
    .send Sample.device.id .applied]

/-- The configuration of the device then. -/
theorem appliedSample_configuration :
    (Sample.controller appliedSample).inventory.configurations.get? Sample.device.id =
      some { Sample.configuration [] with status := .applied } := by
  decide +kernel

/-- Attaching a template makes the configuration modified while the store drops nothing. -/
theorem status_of_changed_sample :
    ∃ k, ((Sample.controller appliedSample).perform Sample.settings Sample.deletesFail
        (.attachTemplate Sample.device.id Sample.template.id)).2.inventory.configurations.get?
          Sample.device.id = some k ∧ k.status = .modified := by
  have hk : ((Sample.controller appliedSample).perform Sample.settings Sample.deletesFail
      (.attachTemplate Sample.device.id Sample.template.id)).2.inventory.configurations.get?
        Sample.device.id = some (Sample.configuration [Sample.template.id]) := by
    decide +kernel
  refine ⟨_, hk, ?_⟩
  refine (status_of_changed (Sample.reachable appliedSample) Sample.deletesFail _
    (d := { Sample.device with group := some ⟨"g"⟩ }) (by decide +kernel) rfl hk ?_).mpr ?_
  · rintro ⟨k, k', hbefore, hafter, ht, _⟩
    rw [appliedSample_configuration, Option.some.injEq] at hbefore
    rw [hk, Option.some.injEq] at hafter
    subst hbefore hafter
    cases ht
  · rintro ⟨g, change, inv, e, hr, _⟩
    cases hr

/-- A changed configuration need not be modified: the group of the device gets a template while the
store drops nothing. -/
theorem group_change_keeps_status :
    ¬ ∀ (settings : Settings) (c : Controller), Reachable settings c →
      ∀ outage r x d k,
        (c.perform settings outage r).2.inventory.devices.get? x = some d → d.active = true →
        (c.perform settings outage r).2.inventory.configurations.get? x = some k →
        ¬ Inventory.SameContent c.inventory (c.perform settings outage r).2.inventory x →
        k.status = .modified := by
  intro h
  have hk : ((Sample.controller appliedSample).perform Sample.settings Sample.deletesFail
      (.setGroup ⟨⟨"g"⟩, "group", Sample.device.organization, .empty,
        [Sample.template.id]⟩)).2.inventory.configurations.get? Sample.device.id =
        some { Sample.configuration [Sample.template.id] with status := .applied } := by
    decide +kernel
  have hmodified := h Sample.settings _ (Sample.reachable appliedSample) Sample.deletesFail _
    Sample.device.id { Sample.device with group := some ⟨"g"⟩ } _ (by decide +kernel) rfl hk (by
      rintro ⟨k, k', hbefore, hafter, ht, _⟩
      rw [appliedSample_configuration, Option.some.injEq] at hbefore
      rw [hk, Option.some.injEq] at hafter
      subst hbefore hafter
      cases ht)
  cases hmodified

end Controller

end Fleet
