/-
# The index covers the inventory

The index is brought up to date for the devices that a request touches, so that every device is
found under everything that its rendered configuration depends on, whatever the store does.

Main statements: `Controller.Makes.links`, `Controller.Reachable.covers`.
-/
import Fleet.Proofs.Index
import Fleet.Proofs.Sound

namespace Fleet

open Outcomes

/-! ## Dependencies -/

namespace Inventory

variable {inv inv' : Inventory} {x : DeviceId} {d : Device} {k : Configuration}

/-- What a device depends on is read off its record, its configuration and its memberships. -/
theorem dependencies_eq_ok {deps : Dependencies} :
    inv.dependencies x = .ok deps ↔
      ∃ d k, inv.devices.get? x = some d ∧ inv.configurations.get? x = some k ∧
        deps = ⟨k.templates, (inv.clientsOf x).map VpnClient.server, d.organization, d.group⟩ := by
  unfold dependencies
  simp only [bind_eq_ok, device_eq_ok, configuration_eq_ok, pure_eq_ok]
  constructor
  · rintro ⟨d, hd, k, hk, rfl⟩
    exact ⟨d, k, hd, hk, rfl⟩
  · rintro ⟨d, k, hd, hk, rfl⟩
    exact ⟨d, hd, k, hk, rfl⟩

/-- Where nothing is edited a device depends on the same. -/
theorem AgreesOff.dependencies {ids : List DeviceId} (h : AgreesOff ids inv inv') (hx : x ∉ ids) :
    inv'.dependencies x = inv.dependencies x := by
  unfold Inventory.dependencies Inventory.device Inventory.configuration
  rw [h.device x hx, h.configuration x hx, h.clients x hx]

/-- Making configurations modified changes no dependencies. -/
theorem Marks.dependencies {ids : List DeviceId} (h : Marks inv ids inv') (x : DeviceId) :
    inv'.dependencies x = inv.dependencies x := by
  unfold Inventory.dependencies Inventory.device Inventory.configuration
  rw [h.devices, h.clientsOf x]
  cases hk : inv.configurations.get? x with
  | none => rw [h.kept x (Or.inr (Or.inr hk)), hk]
  | some k =>
      obtain ⟨s, hk'⟩ := h.after hk
      rw [hk']
      rfl

end Inventory

/-! ## Coverage -/

namespace Controller

variable {settings : Settings} {outage : Outage} {c : Controller} {r : Request} {change : Change}
  {x : DeviceId}

/-- Every device is found under everything that it depends on. -/
def Covers (c : Controller) : Prop :=
  ∀ x d, c.inventory.dependencies x = .ok d → c.index.Links x d

/-- The index that follows an edit for the devices it concerns covers the edited records. -/
theorem Covers.indexed (hc : c.Covers) {inv : Inventory} {ids : List DeviceId}
    (hoff : Inventory.AgreesOff ids c.inventory inv) {d : Dependencies}
    (hd : inv.dependencies x = .ok d) : (c.indexed inv ids).Links x d := by
  refine links_indexed ?_ fun _ => hd
  by_cases hx : x ∈ ids
  · exact Or.inl hx
  · rw [hoff.dependencies hx] at hd
    exact Or.inr (hc x d hd)

/-- A device that gets a replaced template is found under it. -/
theorem mem_devicesForTemplate_of_replaceTemplate (hkeyed : c.inventory.templates.Keyed)
    {t p : Template} {ids : List DeviceId} {inv : Inventory}
    (h : c.inventory.replaceTemplate t = .ok (p, ids, inv)) (hx : x ∈ ids) :
    x ∈ (c.indexed inv ids).devicesForTemplate t.id := by
  obtain ⟨u, hu, _, _, _, hr⟩ := Inventory.replaceTemplate_eq_ok h
  obtain ⟨d, _, hd, _, _, _, _, hk⟩ := hr.attached x hx
  have hd' : inv.devices.get? x = some d := by
    rw [hr.eq]
    exact hd
  have hlinks := links_indexed (c := c) (Or.inl hx) fun _ =>
    Inventory.dependencies_eq_ok.mpr ⟨d, _, hd', hk, rfl⟩
  have hlisted := hr.mem_of_attached (hkeyed.insert rfl) (SortedMap.get?_insert_self _ _ _) hx hk
  rw [← (Inventory.normalize_eq_ok hu).1]
  exact hlinks.templates u.id hlisted

/-- A device whose list follows its group is found under the group. -/
theorem mem_devicesForGroup_of_setGroup (hs : c.inventory.Sound) {g : DeviceGroup}
    {change : GroupChange} {inv : Inventory} (h : c.inventory.setGroup g = (.ok change, inv))
    (hx : x ∈ change.retemplated) :
    x ∈ (c.indexed inv change.retemplated).devicesForGroup g.id := by
  obtain ⟨_, _, ⟨_, hnobody, _⟩ | ⟨_, hsw⟩⟩ := Inventory.setGroup_eq_ok hs.devicesKeyed h
  · rw [hnobody] at hx
    cases hx
  · have hmember := hsw.subset x hx
    obtain ⟨d, hd, _, hgroup⟩ := hs.devicesKeyed.mem_membersOf.mp hmember
    obtain ⟨k, hk⟩ := hs.configured x d hd
    have hd' : inv.devices.get? x = some d := by
      rw [hsw.devices]
      exact hd
    have hlinks := links_indexed (c := c) (Or.inl hx) fun _ =>
      Inventory.dependencies_eq_ok.mpr ⟨d, _, hd', hsw.swapped x hmember d k hd hk, rfl⟩
    exact hlinks.group g.id hgroup

/-- A request keeps the index covering. -/
theorem Makes.links (hkeyed : c.inventory.DevicesKeyed) (hc : c.Covers)
    (h : Makes settings outage c r change) {d : Dependencies}
    (hd : change.edited.dependencies x = .ok d) : change.index.Links x d := by
  have hoff := h.agreesOff hkeyed
  cases h with
  | idle | invalidate | invalidateDependents => exact hc x d hd
  | addServer | updateServer | setOrganization =>
      rw [hoff.dependencies List.not_mem_nil] at hd
      exact hc x d hd
  | @removeDevice id removed inv h =>
      obtain ⟨_, _, _, _, _, rfl⟩ := Inventory.removeDevice_eq_ok h
      have hne : x ≠ id := by
        rintro rfl
        obtain ⟨_, _, hnone, _⟩ := Inventory.dependencies_eq_ok.mp hd
        rw [SortedMap.get?_erase_self] at hnone
        cases hnone
      have hlinks : c.index.Links x d := by
        rw [hoff.dependencies (by simpa using hne)] at hd
        exact hc x d hd
      dsimp only
      split
      · exact hlinks
      · exact hlinks.remove hne
  | @edit r id k edited hk h =>
      -- Neither variables nor the base document count as dependencies.
      have hsame : edited.templates = k.templates := by cases h <;> rfl
      obtain ⟨d', k', hd', hk', rfl⟩ := Inventory.dependencies_eq_ok.mp hd
      apply hc
      by_cases hx : x = id
      · subst hx
        rw [Inventory.putConfiguration_get?_self, Option.some.injEq] at hk'
        rw [← hk', hsame]
        exact Inventory.dependencies_eq_ok.mpr ⟨d', k, hd', hk, rfl⟩
      · rw [← hoff.dependencies (by simpa using hx)]
        exact hd
  | addDevice | updateDevice | addTemplate | updateTemplate | relist | changeBackend | attachClient
  | detachClient | setGroup | signal | deactivate | activate => exact hc.indexed hoff hd

/-- Every event keeps the index covering. -/
theorem after_covers (hs : c.inventory.Sound) (hc : c.Covers) (e : Event) :
    (c.after settings e).Covers := by
  cases e with
  | request outage r =>
      obtain ⟨change, hmakes, hfollows⟩ := answers_of_sound hs settings outage r
      intro x d hd
      show (c.perform settings outage r).2.index.Links x d
      rw [hfollows.index]
      exact hmakes.links hs.devicesKeyed hc (hfollows.marks.dependencies x ▸ hd)
  | pass seconds => exact hc

/-- Starting without records the index covers everything. -/
theorem start_covers (now : Nat) : (start .empty now).Covers := by
  intro x d hd
  obtain ⟨_, _, hnone, _⟩ := Inventory.dependencies_eq_ok.mp hd
  cases hnone

/-- Every run keeps the index covering. -/
theorem run_covers (hs : c.inventory.Sound) (hc : c.Covers) (events : List Event) :
    (c.run settings events).Covers :=
  (run_keeps (I := fun c => c.inventory.Sound ∧ c.Covers) (Q := fun _ => True)
    (fun _ e _ h => ⟨after_sound h.1 e, after_covers h.1 h.2 e⟩) events (fun _ _ => trivial) c
    ⟨hs, hc⟩).2

/-- The index of a reachable controller covers its inventory. -/
theorem Reachable.covers (h : Reachable settings c) : c.Covers := by
  obtain ⟨now, events, rfl⟩ := h
  exact run_covers (start_sound now) (start_covers now) events

end Controller

end Fleet
