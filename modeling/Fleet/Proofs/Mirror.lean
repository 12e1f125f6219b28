/-
# The index mirrors the inventory

While the store does not fail, what the index records for every device is what the device depends
on.  So the devices that are found under a template, a server, an organization or a group are those
that depend on it at that time, and no checksum of another device is dropped with theirs.

Main statements: `Controller.Makes.mirrors`, `Controller.after_mirrors`,
`Controller.ReachableServed.devicesFor_eq_dependents`.
-/
import Fleet.Proofs.Covered
import Fleet.Proofs.IndexRecords
import Fleet.Proofs.Stored

namespace Fleet

open Outcomes

/-! ## Devices that depend on something -/

namespace Inventory

variable {inv inv' : Inventory} {x : DeviceId} {on : Dependency}

/-- Whether a device depends on something: the template is on its list, it is a member of the
server, or it belongs to the organization or the group. -/
def dependsOn (inv : Inventory) (x : DeviceId) : Dependency → Bool
  | .template t => (inv.configurations.get? x).any fun k => k.hasTemplate t
  | .server s => (inv.client? x s).isSome
  | .organization o => (inv.devices.get? x).any fun d => d.organization == o
  | .group g => (inv.devices.get? x).any fun d => d.group == some g

/-- The devices that depend on something, ascending. -/
def dependents (inv : Inventory) (on : Dependency) : List DeviceId :=
  inv.devices.keys.filter fun x => inv.dependsOn x on

/-- The devices that depend on something ascend strictly. -/
theorem sorted_dependents (inv : Inventory) (on : Dependency) :
    (inv.dependents on).Pairwise fun a b => Key.text a < Key.text b :=
  inv.devices.sorted_keys.filter _

/-- A device is a member of the servers that its memberships name. -/
theorem isSome_client? {s : ServerId} :
    (inv.client? x s).isSome = ((inv.clientsOf x).map VpnClient.server).contains s := by
  rw [Bool.eq_iff_iff, List.contains_iff_mem, client?, List.find?_isSome]
  simp only [Bool.and_eq_true, beq_iff_eq, List.mem_map, mem_clientsOf, and_assoc]

/-- What a device depends on is what its dependencies name. -/
theorem names_eq_dependsOn {deps : Dependencies} (h : inv.dependencies x = .ok deps) :
    deps.names on = inv.dependsOn x on := by
  obtain ⟨d, k, hd, hk, rfl⟩ := dependencies_eq_ok.mp h
  cases on with
  | template t =>
      rw [dependsOn, hk]
      rfl
  | server s =>
      rw [dependsOn, isSome_client?]
      rfl
  | organization o | group g =>
      rw [dependsOn, hd]
      rfl

/-- The devices that depend on something are those whose dependencies name it. -/
theorem mem_dependents
    (hpaired : ∀ d, inv.devices.get? x = some d → ∃ k, inv.configurations.get? x = some k) :
    x ∈ inv.dependents on ↔ ∃ deps, inv.dependencies x = .ok deps ∧ deps.names on = true := by
  rw [dependents, List.mem_filter, SortedMap.mem_keys]
  constructor
  · rintro ⟨⟨d, hd⟩, hon⟩
    obtain ⟨k, hk⟩ := hpaired d hd
    have hdeps := dependencies_eq_ok.mpr ⟨d, k, hd, hk, rfl⟩
    exact ⟨_, hdeps, (names_eq_dependsOn hdeps).trans hon⟩
  · rintro ⟨deps, hdeps, hon⟩
    obtain ⟨d, k, hd, hk, _⟩ := dependencies_eq_ok.mp hdeps
    exact ⟨⟨d, hd⟩, (names_eq_dependsOn hdeps).symm.trans hon⟩

end Inventory

/-! ## Mirrors -/

namespace DependencyIndex

variable {index : DependencyIndex} {inv inv' : Inventory}

/-- The index answers by its records, and they are the dependencies of every device. -/
structure Mirrors (index : DependencyIndex) (inv : Inventory) : Prop where
  /-- Devices are found by what is recorded for them. -/
  faithful : index.Faithful
  /-- What is recorded is what the device depends on. -/
  recorded : ∀ x, index.dependencies x = (inv.dependencies x).toOption

namespace Mirrors

/-- Where all dependencies are the same the index goes on mirroring. -/
theorem of_eq (h : index.Mirrors inv) (heq : ∀ x, inv'.dependencies x = inv.dependencies x) :
    index.Mirrors inv' :=
  ⟨h.faithful, fun x => (h.recorded x).trans (by rw [heq x])⟩

/-- The index finds the devices that depend on something, and no others. -/
theorem devicesFor_eq (h : index.Mirrors inv)
    (hpaired : ∀ x d, inv.devices.get? x = some d → ∃ k, inv.configurations.get? x = some k)
    (on : Dependency) : index.devicesFor on = inv.dependents on := by
  have hmem : ∀ x, x ∈ index.devicesFor on ↔ x ∈ inv.dependents on := by
    intro x
    rw [h.faithful on x, Inventory.mem_dependents (hpaired x), h.recorded x]
    cases inv.dependencies x <;> simp [Except.toOption]
  exact Key.eq_of_ascending (index.sorted_devicesFor on) (inv.sorted_dependents on) hmem

end Mirrors

end DependencyIndex

/-! ## What requests keep -/

namespace Controller

variable {settings : Settings} {outage : Outage} {c : Controller} {r : Request} {change : Change}

/-- Following the inventory for a device leaves the inventory. -/
theorem reindex_inventory (c : Controller) (id : DeviceId) :
    (c.reindex id).inventory = c.inventory := by
  unfold reindex
  split <;> rfl

/-- Following the inventory for a device keeps the index answering by its records. -/
theorem faithful_reindex (h : c.index.Faithful) (id : DeviceId) :
    (c.reindex id).index.Faithful := by
  unfold reindex
  split
  · exact h.record id _
  · exact h.remove id

/-- Following the inventory for a device records what it depends on there, and nothing else. -/
theorem dependencies_reindex (c : Controller) (id x : DeviceId) :
    (c.reindex id).index.dependencies x =
      if id = x then (c.inventory.dependencies x).toOption else c.index.dependencies x := by
  by_cases hx : id = x
  · subst hx
    rw [if_pos rfl]
    unfold reindex
    split
    · rename_i d hd
      rw [DependencyIndex.dependencies_record, if_pos rfl, hd]
      rfl
    · rename_i e he
      rw [DependencyIndex.dependencies_remove, if_pos rfl, he]
      rfl
  · rw [if_neg hx]
    unfold reindex
    split
    · exact (DependencyIndex.dependencies_record _ _ _ _).trans (if_neg hx)
    · exact (DependencyIndex.dependencies_remove _ _ _).trans (if_neg hx)

/-- Following the inventory for some devices gives a mirror of it, if the others are recorded
rightly. -/
theorem mirrors_reindexAll {ids : List DeviceId} (hfaithful : c.index.Faithful)
    (hrest : ∀ x ∉ ids, c.index.dependencies x = (c.inventory.dependencies x).toOption) :
    (c.reindexAll ids).index.Mirrors c.inventory := by
  unfold reindexAll
  induction ids generalizing c with
  | nil => exact ⟨hfaithful, fun x => hrest x List.not_mem_nil⟩
  | cons id rest ih =>
      rw [List.foldl_cons, ← c.reindex_inventory id]
      apply ih (faithful_reindex hfaithful id)
      intro x hx
      rw [dependencies_reindex, reindex_inventory]
      split
      · rfl
      · rename_i hne
        apply hrest
        rw [List.mem_cons, not_or]
        exact ⟨fun heq => hne heq.symm, hx⟩

/-- The index that follows an edit for the devices it concerns mirrors the edited records. -/
theorem mirrors_indexed (h : c.index.Mirrors c.inventory) {inv : Inventory} {ids : List DeviceId}
    (hoff : Inventory.AgreesOff ids c.inventory inv) : (c.indexed inv ids).Mirrors inv := by
  apply mirrors_reindexAll (c := { c with inventory := inv }) h.faithful
  intro x hx
  show c.index.dependencies x = (inv.dependencies x).toOption
  rw [hoff.dependencies hx]
  exact h.recorded x

/-- A device that is removed depends on nothing. -/
theorem toOption_dependencies_of_none {inv : Inventory} {x : DeviceId}
    (h : inv.devices.get? x = none) : (inv.dependencies x).toOption = none := by
  unfold Inventory.dependencies Inventory.device
  rw [h]
  rfl

/-- A request keeps the index mirroring the records, unless the store fails. -/
theorem Makes.mirrors (hkeyed : c.inventory.DevicesKeyed) (hc : c.index.Mirrors c.inventory)
    (hserved : ∀ calls kind key, outage calls kind key = none)
    (h : Makes settings outage c r change) : change.index.Mirrors change.edited := by
  have hoff := h.agreesOff hkeyed
  cases h with
  | idle | invalidate | invalidateDependents => exact hc
  | addServer | updateServer | setOrganization =>
      exact hc.of_eq fun x => hoff.dependencies List.not_mem_nil
  | @removeDevice id removed inv h =>
      obtain ⟨_, _, _, _, _, rfl⟩ := Inventory.removeDevice_eq_ok h
      rw [hserved, Option.isSome_none, if_neg Bool.false_ne_true]
      refine ⟨hc.faithful.remove id, fun x => ?_⟩
      rw [DependencyIndex.dependencies_remove]
      split
      · rename_i hx
        rw [← hx]
        exact (toOption_dependencies_of_none (SortedMap.get?_erase_self _ _)).symm
      · rename_i hx
        rw [hoff.dependencies (by simpa using Ne.symm hx)]
        exact hc.recorded x
  | @edit r id k edited hk h =>
      -- Neither variables nor the base document count as dependencies.
      have hsame : edited.templates = k.templates := by cases h <;> rfl
      refine hc.of_eq fun x => ?_
      by_cases hx : x = id
      · subst hx
        unfold Inventory.dependencies
        rw [Inventory.configuration_eq_ok.mpr Inventory.putConfiguration_get?_self,
          Inventory.configuration_eq_ok.mpr hk]
        show (c.inventory.device x >>= fun d =>
          pure (⟨edited.templates, _, _, _⟩ : Dependencies)) = _
        rw [hsame]
        rfl
      · exact hoff.dependencies (by simpa using hx)
  | addDevice | updateDevice | addTemplate | updateTemplate | relist | changeBackend | attachClient
  | detachClient | setGroup | signal | deactivate | activate => exact mirrors_indexed hc hoff

/-- Every event in which the store does not fail keeps the index mirroring the records. -/
theorem after_mirrors (hs : c.inventory.Sound) (hc : c.index.Mirrors c.inventory) {e : Event}
    (hserved : e.Served) : (c.after settings e).index.Mirrors (c.after settings e).inventory := by
  cases e with
  | request outage r =>
      obtain ⟨change, hmakes, hfollows⟩ := answers_of_sound hs settings outage r
      show (c.perform settings outage r).2.index.Mirrors (c.perform settings outage r).2.inventory
      rw [hfollows.index]
      exact (hmakes.mirrors hs.devicesKeyed hc hserved).of_eq hfollows.marks.dependencies
  | pass seconds => exact hc

/-- While the store does not fail the index mirrors the records. -/
theorem ReachableServed.mirrors (h : ReachableServed settings c) :
    c.inventory.Sound ∧ c.index.Mirrors c.inventory := by
  refine h.keeps (I := fun c => c.inventory.Sound ∧ c.index.Mirrors c.inventory) ?_ ?_
  · exact fun now => ⟨start_sound now, DependencyIndex.faithful_empty, fun _ => rfl⟩
  · exact fun _ e he hc => ⟨after_sound hc.1 e, after_mirrors hc.1 hc.2 he⟩

/-! ## Fan-out -/

/-- Dropping the checksums of the devices that depend on something drops those that the index finds,
and no others. -/
theorem perform_invalidateDependents (c : Controller) (settings : Settings)
    (hserved : ∀ calls kind key, outage calls kind key = none) (on : Dependency) :
    (c.perform settings outage (.invalidateDependents on)).1 =
        .ok (.count (c.index.devicesFor on).length) ∧
      ∀ x, (c.perform settings outage (.invalidateDependents on)).2.live? x =
        if x ∈ c.index.devicesFor on then none else c.live? x := by
  constructor
  · show ((c.invalidateMany outage (c.index.devicesFor on)).1).map Reply.count = _
    rw [c.invalidateMany_fst outage hserved]
    rfl
  · intro x
    show (c.invalidateMany outage (c.index.devicesFor on)).2.live? x = _
    rw [invalidateMany_snd]
    exact Store.live?_dropAll hserved x _ _ _

/-- While the store does not fail, the index finds under a template, a server, an organization or a
group exactly the devices that depend on it, ascending; and dropping the checksums of its dependents
drops exactly the checksums of these. -/
theorem ReachableServed.devicesFor_eq_dependents (h : ReachableServed settings c)
    (on : Dependency) :
    c.index.devicesFor on = c.inventory.dependents on ∧
      (c.index.devicesFor on).Pairwise (fun a b => Key.text a < Key.text b) ∧
      ∀ outage, (∀ calls kind key, outage calls kind key = none) →
        (c.perform settings outage (.invalidateDependents on)).1 =
            .ok (.count (c.inventory.dependents on).length) ∧
          ∀ x, (c.perform settings outage (.invalidateDependents on)).2.live? x =
            if x ∈ c.inventory.dependents on then none else c.live? x := by
  obtain ⟨hsound, hmirrors⟩ := h.mirrors
  have hdevices := hmirrors.devicesFor_eq hsound.configured on
  refine ⟨hdevices, c.index.sorted_devicesFor on, fun outage hserved => ?_⟩
  have hdrops := c.perform_invalidateDependents settings hserved on
  rw [hdevices] at hdrops
  exact hdrops

/-- A device with a template joins a server, and its checksum is asked for. -/
def mirrorSample : List Request :=
  [.addServer Sample.server, .addTemplate Sample.template,
    .addDevice Sample.device (Sample.configuration [Sample.template.id]),
    .attachClient Sample.client, .checksum Sample.device.id]

/-- The device is found under the server, and its checksum is dropped with those of its clients. -/
theorem devicesFor_eq_dependents_sample :
    (Sample.controller mirrorSample).index.devicesFor (.server Sample.server.id) =
        [Sample.device.id] ∧
      ((Sample.controller mirrorSample).live? Sample.device.id).isSome = true ∧
      ((Sample.controller mirrorSample).perform Sample.settings .none
        (.invalidateDependents (.server Sample.server.id))).2.live? Sample.device.id = none := by
  obtain ⟨hdevices, _, hdrops⟩ :=
    (Sample.reachableServed mirrorSample).devicesFor_eq_dependents (.server Sample.server.id)
  have hdependents : (Sample.controller mirrorSample).inventory.dependents
      (.server Sample.server.id) = [Sample.device.id] := by decide +kernel
  rw [hdependents] at hdevices hdrops
  refine ⟨hdevices, by decide +kernel, ?_⟩
  have hlive := (hdrops .none fun _ _ _ => rfl).2 Sample.device.id
  rw [if_pos List.mem_cons_self] at hlive
  exact hlive

end Controller

end Fleet
