/-
# What the index of dependencies answers

A device is linked in the index when it is found under everything that it depends on.  Recording a
device links it, and neither recording nor forgetting another device unlinks it.

Main statements: `Dependents.mem_devices_link`, `Dependents.mem_devices_unlink`,
`Controller.links_indexed`.
-/
import Fleet.Proofs.Steps

namespace Fleet

/-! ## The devices of an entity -/

namespace Dependents

variable {sort : Named} {m : Dependents sort} {x y : DeviceId} {id q : Id sort}

/-- The devices of an entity after one is added. -/
theorem mem_devices_add :
    y ∈ (add x m id).devices q ↔ y ∈ m.devices q ∨ (y = x ∧ q = id) := by
  unfold add devices
  by_cases h : id = q
  · subst h
    rw [SortedMap.get?_insert_self, Option.getD_some, SortedMap.mem_keys_insert]
    constructor
    · rintro (hy | hy)
      · exact Or.inr ⟨hy, rfl⟩
      · exact Or.inl hy
    · rintro (hy | ⟨hy, _⟩)
      · exact Or.inr hy
      · exact Or.inl hy
  · rw [SortedMap.get?_insert_ne h]
    constructor
    · exact Or.inl
    · rintro (hy | ⟨_, hq⟩)
      · exact hy
      · exact absurd hq.symm h

/-- The devices of an entity after one is removed. -/
theorem mem_devices_remove :
    y ∈ (remove x m id).devices q ↔ y ∈ m.devices q ∧ ¬ (y = x ∧ q = id) := by
  unfold remove
  split
  · rename_i hnone
    constructor
    · intro hy
      refine ⟨hy, ?_⟩
      rintro ⟨_, rfl⟩
      unfold devices at hy
      rw [hnone] at hy
      cases hy
    · exact fun h => h.1
  · rename_i ds hsome
    by_cases h : id = q
    · subst h
      have hold : m.devices id = ds.keys := by
        unfold devices
        rw [hsome]
        rfl
      have hnew : ∀ z, z ∈ (ds.erase x).keys ↔ z ∈ m.devices id ∧ ¬ (z = x ∧ id = id) := by
        intro z
        rw [SortedMap.mem_keys_erase, hold, and_comm]
        simp
      -- An entity that loses its last device is dropped.
      split
      · rename_i hempty
        rw [← hnew y]
        unfold devices
        rw [SortedMap.get?_erase_self]
        constructor
        · intro hy
          cases hy
        · intro hy
          exact absurd hy (SortedMap.isEmpty_iff.mp hempty y)
      · rw [← hnew y]
        unfold devices
        rw [SortedMap.get?_insert_self, Option.getD_some]
    · have hsame : ∀ m' : Dependents sort, m'.get? q = m.get? q → m'.devices q = m.devices q := by
        intro m' hm
        unfold devices
        rw [hm]
      have hne : ¬ (y = x ∧ q = id) := fun hc => h hc.2.symm
      split
      · rw [hsame _ (SortedMap.get?_erase_ne h _)]
        exact ⟨fun hy => ⟨hy, hne⟩, fun hy => hy.1⟩
      · rw [hsame _ (SortedMap.get?_insert_ne h _ _)]
        exact ⟨fun hy => ⟨hy, hne⟩, fun hy => hy.1⟩

/-- The devices of an entity after one is added to some entities. -/
theorem mem_devices_link {ids : List (Id sort)} :
    y ∈ (m.link x ids).devices q ↔ y ∈ m.devices q ∨ (y = x ∧ q ∈ ids) := by
  unfold link
  induction ids generalizing m with
  | nil => simp
  | cons i rest ih =>
      rw [List.foldl_cons, ih, mem_devices_add, List.mem_cons, or_assoc, ← and_or_left]

/-- The devices of an entity after one is removed from some entities. -/
theorem mem_devices_unlink {ids kept : List (Id sort)} :
    y ∈ (m.unlink x ids kept).devices q ↔ y ∈ m.devices q ∧ ¬ (y = x ∧ q ∈ ids ∧ q ∉ kept) := by
  have hfold : ∀ (ids : List (Id sort)) (m : Dependents sort),
      y ∈ (ids.foldl (remove x) m).devices q ↔ y ∈ m.devices q ∧ ¬ (y = x ∧ q ∈ ids) := by
    intro ids
    induction ids with
    | nil => simp
    | cons i rest ih =>
        intro m
        rw [List.foldl_cons, ih, mem_devices_remove, List.mem_cons, and_or_left, not_or, and_assoc]
  unfold unlink
  rw [hfold, List.mem_filter, Bool.not_eq_true', List.contains_eq_mem, decide_eq_false_iff_not]

end Dependents

/-! ## Links -/

namespace DependencyIndex

variable {index : DependencyIndex} {x y : DeviceId} {d e : Dependencies}

/-- A device is found under everything that it depends on. -/
structure Links (index : DependencyIndex) (x : DeviceId) (d : Dependencies) : Prop where
  /-- Under its templates. -/
  templates : ∀ t ∈ d.templates, x ∈ index.devicesForTemplate t
  /-- Under its servers. -/
  servers : ∀ s ∈ d.servers, x ∈ index.devicesForServer s
  /-- Under its organization. -/
  organization : x ∈ index.devicesForOrganization d.organization
  /-- Under its group. -/
  group : ∀ g, d.group = some g → x ∈ index.devicesForGroup g

/-- Links survive where no entity loses the device. -/
theorem Links.mono {index' : DependencyIndex} (h : index.Links x d)
    (ht : ∀ t, x ∈ index.devicesForTemplate t → x ∈ index'.devicesForTemplate t)
    (hs : ∀ s, x ∈ index.devicesForServer s → x ∈ index'.devicesForServer s)
    (ho : ∀ o, x ∈ index.devicesForOrganization o → x ∈ index'.devicesForOrganization o)
    (hg : ∀ g, x ∈ index.devicesForGroup g → x ∈ index'.devicesForGroup g) : index'.Links x d :=
  ⟨fun t hmem => ht t (h.templates t hmem), fun s hmem => hs s (h.servers s hmem),
    ho _ h.organization, fun g hmem => hg g (h.group g hmem)⟩

/-- Adding a device links it. -/
theorem links_link (index : DependencyIndex) (x : DeviceId) (d : Dependencies) :
    (index.link x d).Links x d := by
  refine ⟨fun t ht => ?_, fun s hs => ?_, ?_, fun g hg => ?_⟩
  · exact Dependents.mem_devices_link.mpr (Or.inr ⟨rfl, ht⟩)
  · exact Dependents.mem_devices_link.mpr (Or.inr ⟨rfl, hs⟩)
  · exact Dependents.mem_devices_link.mpr (Or.inr ⟨rfl, List.mem_cons_self⟩)
  · exact Dependents.mem_devices_link.mpr (Or.inr ⟨rfl, by simp [hg]⟩)

/-- Adding a device unlinks no device. -/
theorem Links.link (h : index.Links x d) (y : DeviceId) (e : Dependencies) :
    (index.link y e).Links x d :=
  h.mono (fun _ hx => Dependents.mem_devices_link.mpr (Or.inl hx))
    (fun _ hx => Dependents.mem_devices_link.mpr (Or.inl hx))
    (fun _ hx => Dependents.mem_devices_link.mpr (Or.inl hx))
    (fun _ hx => Dependents.mem_devices_link.mpr (Or.inl hx))

/-- Removing a device from what it depended on unlinks no other device. -/
theorem Links.unlink (h : index.Links x d) (hne : x ≠ y) (previous : Dependencies)
    (kept : Option Dependencies) : (index.unlink y previous kept).Links x d :=
  h.mono (fun _ hx => Dependents.mem_devices_unlink.mpr ⟨hx, fun hc => hne hc.1⟩)
    (fun _ hx => Dependents.mem_devices_unlink.mpr ⟨hx, fun hc => hne hc.1⟩)
    (fun _ hx => Dependents.mem_devices_unlink.mpr ⟨hx, fun hc => hne hc.1⟩)
    (fun _ hx => Dependents.mem_devices_unlink.mpr ⟨hx, fun hc => hne hc.1⟩)

/-- Removing a device from what it depended on, but not from what it still does, keeps it linked. -/
theorem Links.unlink_self (h : index.Links x d) (previous : Dependencies) :
    (index.unlink x previous (some d)).Links x d := by
  refine ⟨fun t ht => ?_, fun s hs => ?_, ?_, fun g hg => ?_⟩
  · exact Dependents.mem_devices_unlink.mpr ⟨h.templates t ht, fun hc => hc.2.2 ht⟩
  · exact Dependents.mem_devices_unlink.mpr ⟨h.servers s hs, fun hc => hc.2.2 hs⟩
  · exact Dependents.mem_devices_unlink.mpr ⟨h.organization, fun hc => hc.2.2 List.mem_cons_self⟩
  · exact Dependents.mem_devices_unlink.mpr ⟨h.group g hg, fun hc => hc.2.2 (by simp [hg])⟩

/-- Recording a device links it. -/
theorem links_record (index : DependencyIndex) (x : DeviceId) (d : Dependencies) :
    (index.record x d).Links x d := by
  have hlinked := links_link { index with devices := index.devices.insert x d } x d
  unfold record
  dsimp only
  split
  · exact hlinked.unlink_self _
  · exact hlinked

/-- Recording a device unlinks no other device. -/
theorem Links.record (h : index.Links x d) (hne : x ≠ y) (e : Dependencies) :
    (index.record y e).Links x d := by
  have hindex : ({ index with devices := index.devices.insert y e } : DependencyIndex).Links x d :=
    ⟨h.templates, h.servers, h.organization, h.group⟩
  unfold DependencyIndex.record
  dsimp only
  split
  · exact (hindex.link y e).unlink hne _ _
  · exact hindex.link y e

/-- Forgetting a device unlinks no other device. -/
theorem Links.remove (h : index.Links x d) (hne : x ≠ y) : (index.remove y).Links x d := by
  unfold DependencyIndex.remove
  split
  · have hindex : ({ index with devices := index.devices.erase y } : DependencyIndex).Links x d :=
      ⟨h.templates, h.servers, h.organization, h.group⟩
    exact hindex.unlink hne _ _
  · exact h

end DependencyIndex

/-! ## The index of a controller -/

namespace Controller

variable {c : Controller} {x : DeviceId} {d : Dependencies}

/-- Following the inventory links the devices that it is followed for, and unlinks no other. -/
theorem links_reindexAll {ids : List DeviceId} (h : x ∈ ids ∨ c.index.Links x d)
    (hd : x ∈ ids → c.inventory.dependencies x = .ok d) : (c.reindexAll ids).index.Links x d := by
  unfold reindexAll
  induction ids generalizing c with
  | nil => exact h.resolve_left (by simp)
  | cons id rest ih =>
      rw [List.foldl_cons]
      apply ih
      · by_cases hx : x = id
        · subst hx
          right
          unfold reindex
          rw [hd List.mem_cons_self]
          exact c.index.links_record x d
        · rcases h with h | h
          · exact Or.inl ((List.mem_cons.mp h).resolve_left hx)
          · right
            unfold reindex
            split
            · exact h.record hx _
            · exact h.remove hx
      · intro hx
        have hinv : (c.reindex id).inventory = c.inventory := by
          unfold reindex
          split <;> rfl
        rw [hinv]
        exact hd (List.mem_cons_of_mem id hx)

/-- The index that follows an inventory for some devices. -/
theorem links_indexed {inv : Inventory} {ids : List DeviceId} (h : x ∈ ids ∨ c.index.Links x d)
    (hd : x ∈ ids → inv.dependencies x = .ok d) : (c.indexed inv ids).Links x d :=
  links_reindexAll (c := { c with inventory := inv }) h hd

end Controller

end Fleet
