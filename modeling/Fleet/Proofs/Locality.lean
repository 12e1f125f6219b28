/-
# What requests leave alone

A request is about the device that it names, or about the devices that depend on the template, the
server, the organization or the group that it names.  Nothing of any other device is different
afterwards: neither its records nor what is rendered for it nor its checksum.

Main statements: `Controller.Makes.not_mem_of_spares`,
`Controller.ReachableServed.perform_untouched`.
-/
import Fleet.Proofs.Leftovers
import Fleet.Proofs.Mirror

namespace Fleet

open Outcomes

/-! ## What a request is about -/

namespace Request

/-- The device that a request names. -/
def device? : Request → Option DeviceId
  | .render x | .document x | .context x | .configuration x | .status x | .checksum x | .cached x
  | .dependencies x | .invalidate x | .send x _ | .detachClient x _ | .removeDevice x
  | .attachTemplate x _ | .detachTemplate x _ | .setTemplates x _ | .clearTemplates x
  | .setContext x _ | .setDocument x _ | .changeBackend x _ => some x
  | .attachClient client => some client.device
  | .addDevice d _ | .updateDevice d => some d.id
  | _ => none

/-- What devices share that a request stores, or whose dependents it is about. -/
def entity? : Request → Option Dependency
  | .addTemplate t | .updateTemplate t => some (.template t.id)
  | .addServer s | .updateServer s => some (.server s.id)
  | .setOrganization s => some (.organization s.organization)
  | .setGroup g => some (.group g.id)
  | .invalidateDependents on => some on
  | _ => none

/-- A request that leads from one inventory to another is not about a device: it does not name it,
and the device depends on what it names neither before nor afterwards. -/
structure Spares (r : Request) (inv inv' : Inventory) (x : DeviceId) : Prop where
  /-- The device is not named. -/
  device : r.device? ≠ some x
  /-- The device does not depend on what is named. -/
  entity : ∀ on, r.entity? = some on → inv.dependsOn x on = false ∧ inv'.dependsOn x on = false

/-- Requests that change a list name its device. -/
theorem Lists.device?_eq {catalog : Catalog} {k : Configuration} {organization : OrgId}
    {r : Request} {x : DeviceId} {ts : List TemplateId} (h : r.Lists catalog k organization x ts) :
    r.device? = some x := by
  cases h <;> rfl

/-- Requests that edit a configuration name its device. -/
theorem Edits.device?_eq {k edited : Configuration} {r : Request} {x : DeviceId}
    (h : r.Edits k x edited) : r.device? = some x := by
  cases h <;> rfl

end Request

/-- Making configurations modified changes nothing that a device depends on. -/
theorem Inventory.Marks.dependsOn_eq {inv inv' : Inventory} {ids : List DeviceId}
    (h : Inventory.Marks inv ids inv') (x : DeviceId) (on : Dependency) :
    inv'.dependsOn x on = inv.dependsOn x on := by
  cases on with
  | template t =>
      unfold Inventory.dependsOn
      cases hk : inv.configurations.get? x with
      | none => rw [h.kept x (Or.inr (Or.inr hk)), hk]
      | some k =>
          obtain ⟨s, hs⟩ := h.after hk
          rw [hs]
          rfl
  | server s =>
      unfold Inventory.dependsOn Inventory.client?
      rw [h.clients]
  | organization o | group g =>
      unfold Inventory.dependsOn
      rw [h.devices]

/-- Only devices that have it on their lists then get a required template. -/
theorem Inventory.Requires.not_mem_of_dependsOn_eq_false {inv inv' : Inventory} {t : Template}
    {ids : List DeviceId} (h : Requires inv t ids inv') (hc : inv.templates.Keyed)
    (ht : inv.templates.get? t.id = some t) {x : DeviceId}
    (hx : inv'.dependsOn x (.template t.id) = false) : x ∉ ids := by
  intro hmem
  obtain ⟨_, _, _, _, _, _, _, hget⟩ := h.attached x hmem
  have hlisted := h.mem_of_attached hc ht hmem hget
  rw [Inventory.dependsOn, hget, Option.any_some] at hx
  exact Bool.false_ne_true (hx.symm.trans (List.contains_iff_mem.mpr hlisted))

/-! ## Checksums of other devices -/

/-- Dropping the checksums of other devices leaves one, whether the store fails or not. -/
theorem Store.live?_dropAll_of_not_mem (outage : Outage) {x : DeviceId} {ids : List DeviceId}
    (hx : x ∉ ids) :
    ∀ (calls : Nat) (s : Store),
      (s.dropAll outage calls ids).live? (DeviceId.cacheKey x) = s.live? (DeviceId.cacheKey x) := by
  induction ids with
  | nil => exact fun _ _ => rfl
  | cons id rest ih =>
      intro calls s
      rw [List.mem_cons, not_or] at hx
      rw [dropAll, ih hx.2]
      split
      · rfl
      · exact live?_delete_ne fun he => hx.1 (DeviceId.cacheKey_inj.mp he).symm

namespace Controller

variable {settings : Settings} {outage : Outage} {c : Controller} {r : Request} {change : Change}
  {x y : DeviceId}

/-- Storing the checksum of another device leaves one. -/
theorem live?_storeChecksum_ne (hne : y ≠ x) (value : String) :
    (c.storeChecksum settings outage y value).2.live? x = c.live? x := by
  unfold live? storeChecksum
  rw [call_snd]
  dsimp only
  split
  · rfl
  · exact Store.live?_set_ne (fun he => hne (DeviceId.cacheKey_inj.mp he)) _ _

/-- Asking for the checksum of another device leaves one. -/
theorem live?_getChecksum_ne (hne : y ≠ x) :
    (c.getChecksum settings outage y).2.live? x = c.live? x := by
  have hcached : ∀ {c c' : Controller} {found}, c.cached outage y = (found, c') →
      c'.live? x = c.live? x := by
    intro c c' found h
    have hlive : (c.cached outage y).2.live? x = c.live? x := live?_cached
    rw [h] at hlive
    exact hlive
  have hstored : ∀ {c c' : Controller} {text : String} {o},
      c.storeChecksum settings outage y (checksum text) = (o, c') → c'.live? x = c.live? x := by
    intro c c' text o h
    have hlive : (c.storeChecksum settings outage y (checksum text)).2.live? x = c.live? x :=
      live?_storeChecksum_ne hne _
    rw [h] at hlive
    exact hlive
  unfold getChecksum
  split
  · exact hcached ‹_›
  · exact hcached ‹_›
  · rename_i c₁ h₁
    have hlive₁ := hcached h₁
    split
    · exact (hcached ‹_›).trans hlive₁
    · exact (hcached ‹_›).trans hlive₁
    · rename_i c₂ h₂
      have hlive₂ := (hcached h₂).trans hlive₁
      split
      · exact hlive₂
      · split
        · exact (hstored ‹_›).trans hlive₂
        · exact (hstored ‹_›).trans hlive₂

/-! ## Other devices -/

section Spared

variable {inv : Inventory} {ids : List DeviceId}

/-- A device that is not in a list is not in it under a condition either. -/
theorem not_mem_ite_nil {p : Prop} [Decidable p] (hx : x ∉ ids) : x ∉ if p then ids else [] := by
  split
  · exact hx
  · exact List.not_mem_nil

/-- A device that a request is not about is not the one that it names. -/
theorem not_mem_named {id : DeviceId} (hspares : r.Spares c.inventory inv x)
    (hid : r.device? = some id) : x ∉ [id] := fun hx =>
  hspares.device (List.mem_singleton.mp hx ▸ hid)

/-- The index does not find it among the devices that depend on what is named. -/
theorem not_mem_devicesFor (hs : c.inventory.Sound) (hm : c.index.Mirrors c.inventory)
    (hspares : r.Spares c.inventory inv x) (on : Dependency) (hon : r.entity? = some on) :
    x ∉ c.index.devicesFor on := by
  intro hx
  rw [hm.devicesFor_eq hs.configured on] at hx
  exact Bool.false_ne_true ((hspares.entity on hon).1.symm.trans (List.mem_filter.mp hx).2)

/-- Nor does it once it follows the edit. -/
theorem not_mem_devicesFor_indexed (hsound : inv.Sound) (hm : c.index.Mirrors c.inventory)
    (hspares : r.Spares c.inventory inv x) (hoff : Inventory.AgreesOff ids c.inventory inv)
    (on : Dependency) (hon : r.entity? = some on) : x ∉ (c.indexed inv ids).devicesFor on := by
  intro hx
  rw [(mirrors_indexed hm hoff).devicesFor_eq hsound.configured on] at hx
  exact Bool.false_ne_true ((hspares.entity on hon).2.symm.trans (List.mem_filter.mp hx).2)

/-- It does not get a required template that it does not depend on afterwards. -/
theorem not_mem_of_requires {asked t : Template} {created n : Nat} (hs : c.inventory.Sound)
    (hspares : r.Spares c.inventory inv x) (hasked : r.entity? = some (.template asked.id))
    (ht : asked.normalize = .ok t)
    (hr : Inventory.Requires (c.inventory.putTemplate { t with created } n) { t with created } ids
      inv) : x ∉ ids := by
  have hid : asked.id = t.id := (Inventory.normalize_eq_ok ht).1.symm
  exact hr.not_mem_of_dependsOn_eq_false (hs.templates.insert rfl)
    (SortedMap.get?_insert_self _ _ _) (hid ▸ (hspares.entity _ hasked).2)

/-- Its list does not follow a group that it is no member of. -/
theorem not_mem_retemplated {g : DeviceGroup} {change : GroupChange} (hs : c.inventory.Sound)
    (hspares : (Request.setGroup g).Spares c.inventory inv x)
    (h : c.inventory.setGroup g = (.ok change, inv)) : x ∉ change.retemplated := by
  obtain ⟨_, _, ⟨_, hnobody, _⟩ | ⟨_, hsw⟩⟩ := Inventory.setGroup_eq_ok hs.devicesKeyed h
  · rw [hnobody]
    exact List.not_mem_nil
  · intro hmem
    obtain ⟨d, hd, _, hgroup⟩ := hs.devicesKeyed.mem_membersOf.mp (hsw.subset x hmem)
    have hnot := (hspares.entity (.group g.id) rfl).1
    rw [Inventory.dependsOn, hd, Option.any_some, hgroup, beq_self_eq_true] at hnot
    cases hnot

end Spared

/-- A request neither edits nor marks a device that it is not about, nor does it drop
its checksum. -/
theorem Makes.not_mem_of_spares (hs : c.inventory.Sound) (hm : c.index.Mirrors c.inventory)
    (h : Makes settings outage c r change) (hspares : r.Spares c.inventory change.edited x) :
    x ∉ change.touched ∧ x ∉ change.marked ∧ x ∉ change.dropped := by
  have hsound := h.sound hs
  have hnil : x ∉ ([] : List DeviceId) := List.not_mem_nil
  have hnamed : ∀ {id : DeviceId}, r.device? = some id → x ∉ [id] := not_mem_named hspares
  have hbefore := not_mem_devicesFor hs hm hspares
  have hafter := not_mem_devicesFor_indexed hsound hm hspares (h.agreesOff hs.devicesKeyed)
  cases h with
  | idle => exact ⟨hnil, hnil, hnil⟩
  | invalidate => exact ⟨hnil, hnil, hnamed rfl⟩
  | invalidateDependents => exact ⟨hnil, hnil, hbefore _ rfl⟩
  | addDevice | removeDevice | deactivate | activate => exact ⟨hnamed rfl, hnil, hnamed rfl⟩
  | updateDevice _ htold =>
      subst htold
      exact ⟨hnamed rfl, not_mem_ite_nil (hnamed rfl), not_mem_ite_nil (hnamed rfl)⟩
  | addTemplate h =>
      obtain ⟨u, hu, _, _, hr⟩ := Inventory.insertTemplate_eq_ok h
      have hx := not_mem_of_requires hs hspares rfl hu hr
      exact ⟨hx, hx, hx⟩
  | @updateTemplate t p ids first second inv h hfirst hsecond =>
      obtain ⟨u, hu, _, _, _, hr⟩ := Inventory.replaceTemplate_eq_ok h
      have hx := not_mem_of_requires hs hspares rfl hu hr
      have hxfirst : x ∉ first := by
        rw [hfirst]
        exact not_mem_ite_nil (hafter (.template t.id) rfl)
      have hxsecond : x ∉ second := by
        rcases hsecond with rfl | ⟨rfl, _⟩
        · exact hx
        · exact hnil
      have hboth : x ∉ first ++ second := fun hmem =>
        (List.mem_append.mp hmem).elim hxfirst hxsecond
      exact ⟨hx, hboth, hboth⟩
  | relist _ _ hts =>
      have hx := hnamed hts.device?_eq
      exact ⟨hx, hx, hx⟩
  | edit _ hedit =>
      have hx := hnamed hedit.device?_eq
      exact ⟨hx, hx, hx⟩
  | changeBackend | detachClient => exact ⟨hnamed rfl, hnamed rfl, hnamed rfl⟩
  | attachClient h =>
      obtain ⟨_, _, _, _, _, _, _, _, rfl, _⟩ := Inventory.insertClient_eq_ok h
      exact ⟨hnamed rfl, hnamed rfl, hnamed rfl⟩
  | addServer => exact ⟨hnil, hnil, hnil⟩
  | @updateServer s p inv told h htold =>
      have hx : x ∉ told := by
        rw [htold]
        split
        · exact hnil
        · exact hbefore (.server s.id) rfl
      exact ⟨hnil, hx, hx⟩
  | setOrganization => exact ⟨hnil, hnil, hbefore (.organization _) rfl⟩
  | @setGroup g change inv told dropped h _ _ htold =>
      have hx := not_mem_retemplated hs hspares h
      have hxtold : x ∉ told := by
        rw [htold]
        exact not_mem_ite_nil hx
      refine ⟨hx, hxtold, fun hmem => ?_⟩
      exact (List.mem_append.mp hmem).elim (hafter (.group g.id) rfl) hxtold
  | signal => exact ⟨hnamed rfl, hnil, not_mem_ite_nil (hnamed rfl)⟩

/-- A device that a request is not about is not passed over either. -/
theorem not_passesOver_of_spares {inv : Inventory} (hspares : r.Spares c.inventory inv x) :
    ¬ c.PassesOver x r := by
  rintro (@⟨t, u, _, _, hu, _, hk, hlisted, _, _⟩)
  have hnot := (hspares.entity (.template t.id) rfl).1
  rw [Inventory.dependsOn, hk, Option.any_some, ← (Inventory.normalize_eq_ok hu).1] at hnot
  exact Bool.false_ne_true (hnot.symm.trans (List.contains_iff_mem.mpr hlisted))

/-- A request that is not about a device leaves its checksum, whether the store fails or not. -/
theorem Follows.live?_of_spares {c' : Controller} (h : Follows outage c r change c')
    (hx : x ∉ change.dropped) (hlooks : r.looksUp = false) : c'.live? x = c.live? x := by
  unfold live?
  rw [h.store hlooks]
  exact Store.live?_dropAll_of_not_mem outage hx _ _

/-- Looking up and storing the checksum of another device leaves one. -/
theorem live?_perform_of_looksUp (hlooks : r.looksUp = true) (hdevice : r.device? ≠ some x) :
    (c.perform settings outage r).2.live? x = c.live? x := by
  unfold Request.looksUp at hlooks
  split at hlooks
  · exact live?_getChecksum_ne fun he => hdevice (congrArg some he)
  · exact live?_cached
  · cases hlooks

/-- Nothing of a device is different: neither its records nor what is rendered for it nor its
checksum. -/
structure Untouched (settings : Settings) (c c' : Controller) (x : DeviceId) : Prop where
  /-- The record. -/
  device : c'.inventory.devices.get? x = c.inventory.devices.get? x
  /-- The configuration with its state. -/
  configuration : c'.inventory.configurations.get? x = c.inventory.configurations.get? x
  /-- The memberships. -/
  clients : c'.inventory.clientsOf x = c.inventory.clientsOf x
  /-- The rendered configuration, or why there is none. -/
  rendered : c'.render settings x = c.render settings x
  /-- The checksum, if one lives. -/
  live : c'.live? x = c.live? x

/-- As long as the store does not fail before, a request leaves every device untouched that it does
not name and that depends on what it names neither before nor afterwards. -/
theorem ReachableServed.perform_untouched (h : ReachableServed settings c) (outage : Outage)
    (r : Request) (x : DeviceId)
    (hspares : r.Spares c.inventory (c.perform settings outage r).2.inventory x) :
    Untouched settings c (c.perform settings outage r).2 x := by
  obtain ⟨hs, hm⟩ := h.mirrors
  have hcovers : c.Covers := Reachable.covers (h.imp fun _ => Exists.imp fun _ => And.right)
  obtain ⟨change, hmakes, hfollows⟩ := answers_of_sound hs settings outage r
  have hedited : r.Spares c.inventory change.edited x :=
    ⟨hspares.device, fun on hon => (hspares.entity on hon).imp_right fun hafter =>
      (hfollows.marks.dependsOn_eq x on).symm.trans hafter⟩
  obtain ⟨htouched, hmarked, hdropped⟩ := hmakes.not_mem_of_spares hs hm hedited
  have hoff := hmakes.agreesOff hs.devicesKeyed
  have hdevice : (c.perform settings outage r).2.inventory.devices.get? x =
      c.inventory.devices.get? x := by
    rw [hfollows.marks.devices]
    exact hoff.device x htouched
  refine ⟨hdevice, ?_, ?_, ?_, ?_⟩
  · exact (hfollows.marks.kept x (Or.inl hmarked)).trans (hoff.configuration x htouched)
  · exact (hfollows.marks.clientsOf x).trans (hoff.clients x htouched)
  · cases hd : c.inventory.devices.get? x with
    | none => rw [render_of_gone hd, render_of_gone (hdevice.trans hd)]
    | some d =>
        exact hfollows.render_eq hs hcovers (not_passesOver_of_spares hspares) hmakes hdropped hd
  · cases hlooks : r.looksUp with
    | false => exact hfollows.live?_of_spares hdropped hlooks
    | true => exact live?_perform_of_looksUp hlooks hspares.device

/-- Another device, which has the template. -/
def neighbour : Device :=
  { Sample.device with id := ⟨"e"⟩, name := "neighbour" }

/-- Both devices ask for their checksums, and one of them has the template. -/
def neighboursSample : List Request :=
  [.addTemplate Sample.template, .addDevice Sample.device (Sample.configuration []),
    .addDevice neighbour { Configuration.blank neighbour.id Sample.template.backend with
      templates := [Sample.template.id] },
    .checksum Sample.device.id, .checksum neighbour.id]

/-- The template sets a value then. -/
def neighboursRequest : Request :=
  .updateTemplate { Sample.template with document := .object [("k", .bool true)] }

/-- The device that has the template is rendered otherwise and loses its checksum, and the other
one, whose checksum lives, is left untouched. -/
theorem perform_untouched_sample :
    let c := Sample.controller neighboursSample
    let c' := (c.perform Sample.settings .none neighboursRequest).2
    (c'.render Sample.settings neighbour.id ≠ c.render Sample.settings neighbour.id ∧
        (c.live? neighbour.id).isSome = true ∧ c'.live? neighbour.id = none) ∧
      (c.live? Sample.device.id).isSome = true ∧
      Untouched Sample.settings c c' Sample.device.id := by
  have hspares : neighboursRequest.Spares (Sample.controller neighboursSample).inventory
      ((Sample.controller neighboursSample).perform Sample.settings .none
        neighboursRequest).2.inventory Sample.device.id := by
    refine ⟨by decide, fun on hon => ?_⟩
    rw [← Option.some.inj hon]
    decide +kernel
  exact ⟨by decide +kernel, by decide +kernel,
    (Sample.reachableServed neighboursSample).perform_untouched .none _ _ hspares⟩

end Controller

end Fleet
