/-
# The index answers by what is recorded

The index keeps, for each device, what was recorded for it, and for each entity the devices that
name it.  The two agree after every sequence of records and removals: a device is found under an
entity exactly when what was last recorded for the device names it.

Main statements: `DependencyIndex.Faithful.record`, `DependencyIndex.Faithful.remove`,
`DependencyIndex.sorted_devicesFor`.
-/
import Fleet.Proofs.Index

namespace Fleet

/-! ## Names -/

/-- Whether something is among the dependencies. -/
def Dependencies.names (d : Dependencies) : Dependency → Bool
  | .template t => d.templates.contains t
  | .server s => d.servers.contains s
  | .organization o => d.organization == o
  | .group g => d.group == some g

namespace DependencyIndex

variable {index : DependencyIndex} {x y : DeviceId} {d previous : Dependencies} {on : Dependency}

/-- The devices of an entity ascend strictly. -/
theorem sorted_devicesFor (index : DependencyIndex) (on : Dependency) :
    (index.devicesFor on).Pairwise fun a b => Key.text a < Key.text b := by
  cases on <;> exact SortedMap.sorted_keys _

/-- The devices of an entity after one is added to all that it depends on. -/
theorem mem_devicesFor_link :
    y ∈ (index.link x d).devicesFor on ↔ y ∈ index.devicesFor on ∨ (y = x ∧ d.names on = true) := by
  cases on with
  | template t =>
      show y ∈ (index.byTemplate.link x d.templates).devices t ↔ _
      rw [Dependents.mem_devices_link, Dependencies.names, List.contains_iff_mem]
      rfl
  | server s =>
      show y ∈ (index.byServer.link x d.servers).devices s ↔ _
      rw [Dependents.mem_devices_link, Dependencies.names, List.contains_iff_mem]
      rfl
  | organization o =>
      show y ∈ (index.byOrganization.link x [d.organization]).devices o ↔ _
      rw [Dependents.mem_devices_link, Dependencies.names, List.mem_singleton, beq_iff_eq,
        eq_comm (a := o)]
      rfl
  | group g =>
      show y ∈ (index.byGroup.link x d.group.toList).devices g ↔ _
      rw [Dependents.mem_devices_link, Dependencies.names, Option.mem_toList, beq_iff_eq]
      rfl

/-- The devices of an entity after one is removed from all that it depended on, except
what is kept. -/
theorem mem_devicesFor_unlink {kept : Option Dependencies} :
    y ∈ (index.unlink x previous kept).devicesFor on ↔
      y ∈ index.devicesFor on ∧
        ¬ (y = x ∧ previous.names on = true ∧ kept.any (fun d => d.names on) = false) := by
  cases on with
  | template t =>
      show y ∈ (index.byTemplate.unlink x previous.templates
        ((kept.map Dependencies.templates).getD [])).devices t ↔ _
      rw [Dependents.mem_devices_unlink]
      refine and_congr Iff.rfl (not_congr ?_)
      cases kept <;> simp [Dependencies.names]
  | server s =>
      show y ∈ (index.byServer.unlink x previous.servers
        ((kept.map Dependencies.servers).getD [])).devices s ↔ _
      rw [Dependents.mem_devices_unlink]
      refine and_congr Iff.rfl (not_congr ?_)
      cases kept <;> simp [Dependencies.names]
  | organization o =>
      show y ∈ (index.byOrganization.unlink x [previous.organization]
        (kept.map Dependencies.organization).toList).devices o ↔ _
      rw [Dependents.mem_devices_unlink]
      refine and_congr Iff.rfl (not_congr ?_)
      cases kept <;> simp [Dependencies.names, eq_comm (a := o)]
  | group g =>
      show y ∈ (index.byGroup.unlink x previous.group.toList
        (kept.bind Dependencies.group).toList).devices g ↔ _
      rw [Dependents.mem_devices_unlink]
      refine and_congr Iff.rfl (not_congr ?_)
      cases kept <;> simp [Dependencies.names]

/-! ## Records -/

/-- A device is found under exactly the entities that what is recorded for it names. -/
def Faithful (index : DependencyIndex) : Prop :=
  ∀ on x, x ∈ index.devicesFor on ↔ ∃ d, index.dependencies x = some d ∧ d.names on = true

/-- What is recorded once a device is recorded. -/
theorem dependencies_record (index : DependencyIndex) (x y : DeviceId) (d : Dependencies) :
    (index.record x d).dependencies y = if x = y then some d else index.dependencies y := by
  have hdevices : (index.record x d).devices = index.devices.insert x d := by
    unfold record
    dsimp only
    split <;> rfl
  unfold dependencies
  rw [hdevices, SortedMap.get?_insert]

/-- What is recorded once a device is forgotten. -/
theorem dependencies_remove (index : DependencyIndex) (x y : DeviceId) :
    (index.remove x).dependencies y = if x = y then none else index.dependencies y := by
  unfold dependencies remove
  split
  · rename_i previous _
    show (index.devices.erase x).get? y = _
    by_cases h : x = y
    · subst h
      rw [SortedMap.get?_erase_self, if_pos rfl]
    · rw [SortedMap.get?_erase_ne h, if_neg h]
  · rename_i hnone
    by_cases h : x = y
    · subst h
      rw [hnone, if_pos rfl]
    · rw [if_neg h]

namespace Faithful

/-- A device of which nothing is recorded is found nowhere. -/
theorem not_mem (h : index.Faithful) (hnone : index.dependencies x = none) :
    x ∉ index.devicesFor on := by
  rw [h on x, hnone]
  rintro ⟨d, hd, _⟩
  cases hd

/-- A device of which something is recorded is found where that names it. -/
theorem mem_iff (h : index.Faithful) (hsome : index.dependencies x = some d) :
    x ∈ index.devicesFor on ↔ d.names on = true := by
  rw [h on x, hsome]
  simp

/-- The devices of an entity once one is recorded. -/
theorem mem_devicesFor_record (h : index.Faithful) :
    y ∈ (index.record x d).devicesFor on ↔
      (y = x ∧ d.names on = true) ∨ (y ≠ x ∧ y ∈ index.devicesFor on) := by
  have hlinked : y ∈ (({ index with devices := index.devices.insert x d } : DependencyIndex).link
      x d).devicesFor on ↔ y ∈ index.devicesFor on ∨ (y = x ∧ d.names on = true) :=
    mem_devicesFor_link.trans (by cases on <;> rfl)
  unfold record
  dsimp only
  split
  · rename_i previous hprevious
    rw [mem_devicesFor_unlink, hlinked, Option.any_some]
    by_cases hy : y = x
    · subst hy
      rw [h.mem_iff hprevious]
      cases previous.names on <;> cases d.names on <;> simp
    · simp [hy]
  · rename_i hnone
    rw [hlinked]
    by_cases hy : y = x
    · subst hy
      simp [h.not_mem hnone]
    · simp [hy]

/-- Recording a device keeps the index answering by what is recorded. -/
theorem record (h : index.Faithful) (x : DeviceId) (d : Dependencies) :
    (index.record x d).Faithful := by
  intro on y
  rw [h.mem_devicesFor_record, dependencies_record]
  by_cases hy : x = y
  · subst hy
    simp
  · rw [if_neg hy, ← h on y]
    simp [Ne.symm hy]

/-- The devices of an entity once one is forgotten. -/
theorem mem_devicesFor_remove (h : index.Faithful) :
    y ∈ (index.remove x).devicesFor on ↔ y ≠ x ∧ y ∈ index.devicesFor on := by
  unfold remove
  split
  · rename_i previous hprevious
    have hold :
        y ∈ ({ index with devices := index.devices.erase x } : DependencyIndex).devicesFor on ↔
          y ∈ index.devicesFor on := by cases on <;> rfl
    rw [mem_devicesFor_unlink, hold, Option.any_none]
    by_cases hy : y = x
    · subst hy
      rw [h.mem_iff hprevious]
      simp
    · simp [hy]
  · rename_i hnone
    by_cases hy : y = x
    · subst hy
      simp [h.not_mem hnone]
    · simp [hy]

/-- Forgetting a device keeps the index answering by what is recorded. -/
theorem remove (h : index.Faithful) (x : DeviceId) : (index.remove x).Faithful := by
  intro on y
  rw [h.mem_devicesFor_remove, dependencies_remove]
  by_cases hy : x = y
  · subst hy
    simp
  · rw [if_neg hy, ← h on y]
    simp [Ne.symm hy]

end Faithful

/-- Where nothing is recorded no device is found. -/
theorem faithful_empty : DependencyIndex.empty.Faithful := by
  intro on x
  constructor
  · intro hx
    cases on <;> cases hx
  · rintro ⟨d, hd, _⟩
    cases hd

end DependencyIndex

end Fleet
