/-
# Inventory files are read back

The file of an inventory is read as the documents in it are: as the inventory itself when every
document is read back, and not at all when one of them is too deep for the place where it stands.

Main statements: `InventoryFile.parse_text_eq_iff`, `InventoryFile.parse_text_of_deep`.
-/
import Fleet.Inventory.File
import Fleet.Proofs.Records

namespace Fleet

open Json (Decoder Fields Written)
open Json.Decoder

/-! ## The inventory -/

namespace Inventory

/-- The documents of an inventory: those of its configurations, of its templates and
of its servers. -/
def documents (inv : Inventory) : List Json :=
  inv.configurations.values.map Configuration.document ++
    inv.templates.values.map Template.document ++ inv.servers.values.map VpnServer.document

/-- The numbers of an inventory fit the fields of a file. -/
structure Fits (inv : Inventory) : Prop where
  /-- Creation numbers have 64 bits. -/
  created : ∀ e ∈ inv.templates.entries, e.2.created < UInt64.size
  /-- The tunnel ids of members have 32 bits. -/
  vni : ∀ c ∈ inv.clients, ∀ vni ∈ c.vni, vni < UInt32.size
  /-- The tunnel ids handed out have 32 bits. -/
  tunnelIds : ∀ e ∈ inv.tunnelIds.entries, e.2 < UInt32.size
  /-- The number of templates has 64 bits. -/
  templateSequence : inv.templateSequence < UInt64.size

variable {inv : Inventory} {levels : Nat}

/-- What holds of all documents holds of those of each collection. -/
theorem forall_documents {p : Json → Prop} :
    (∀ j ∈ inv.documents, p j) ↔
      (∀ e ∈ inv.configurations.entries, p e.2.document) ∧
        (∀ e ∈ inv.templates.entries, p e.2.document) ∧
        ∀ e ∈ inv.servers.entries, p e.2.document := by
  unfold documents SortedMap.values
  simp only [List.forall_mem_append, List.forall_mem_map, and_assoc]

/-- A document is that of a configuration, of a template or of a server. -/
theorem mem_documents {j : Json} :
    j ∈ inv.documents ↔ (∃ x k, inv.configurations.get? x = some k ∧ k.document = j) ∨
      (∃ t T, inv.templates.get? t = some T ∧ T.document = j) ∨
        ∃ s S, inv.servers.get? s = some S ∧ S.document = j := by
  simp only [documents, List.mem_append, List.mem_map, SortedMap.mem_values, or_assoc]
  refine or_congr ?_ (or_congr ?_ ?_)
  all_goals exact ⟨fun ⟨v, ⟨k, hk⟩, hv⟩ => ⟨k, v, hk, hv⟩, fun ⟨k, v, hk, hv⟩ => ⟨v, ⟨k, hk⟩, hv⟩⟩

/-- An inventory is read as its configurations, its templates and its servers are. -/
theorem reader_written (h : inv.Fits) :
    Inventory.reader (levels + 4) inv.written.reread = (do
      let configurations ← sortedMap Id.mk Configuration.reader (levels + 3)
        (Written.ofMap Configuration.written inv.configurations).reread
      let templates ← sortedMap Id.mk Template.reader (levels + 3)
        (Written.ofMap Template.written inv.templates).reread
      let servers ← sortedMap Id.mk VpnServer.reader (levels + 3)
        (Written.ofMap VpnServer.written inv.servers).reread
      return { inv with configurations, templates, servers }) := by
  have hdevices : Restores (sortedMap Id.mk Device.reader) (.ofMap Device.written) (levels + 3)
      inv.devices :=
    (restores_sortedMap_iff fun _ => rfl).mpr fun e _ => restores_device e.2 _
  have hclients :
      Restores (list VpnClient.reader) (.ofList VpnClient.written) (levels + 3) inv.clients :=
    restores_list fun c hc => restores_vpnClient (h.vni c hc) _
  have horganizations : Restores (sortedMap Id.mk OrganizationSettings.reader)
      (.ofMap OrganizationSettings.written) (levels + 3) inv.organizations :=
    (restores_sortedMap_iff fun _ => rfl).mpr fun e _ => restores_organizationSettings e.2 _
  have hgroups :
      Restores (sortedMap Id.mk DeviceGroup.reader) (.ofMap DeviceGroup.written) (levels + 3)
        inv.groups :=
    (restores_sortedMap_iff fun _ => rfl).mpr fun e _ => restores_deviceGroup e.2 _
  have htunnelIds : Restores (sortedMap Id.mk word32) (.ofMap .ofNat) (levels + 3) inv.tunnelIds :=
    (restores_sortedMap_iff fun _ => rfl).mpr fun e he =>
      restores_natBelow (by decide) (h.tunnelIds e he) _
  have hsequence : Restores word64 .ofNat (levels + 3) inv.templateSequence :=
    restores_natBelow (Nat.le_refl _) h.templateSequence _
  unfold Inventory.reader Inventory.written
  rw [Written.reread, Fields.of?_object (by rfl) (by decide)]
  simp [Written.rereadMembers, hdevices, hclients, horganizations, hgroups, htunnelIds, hsequence]

/-- An inventory is read back exactly when its configurations, its templates and its servers are. -/
theorem restores_iff_maps (h : inv.Fits) :
    Restores Inventory.reader Inventory.written (levels + 4) inv ↔
      Restores (sortedMap Id.mk Configuration.reader) (.ofMap Configuration.written) (levels + 3)
          inv.configurations ∧
        Restores (sortedMap Id.mk Template.reader) (.ofMap Template.written) (levels + 3)
          inv.templates ∧
        Restores (sortedMap Id.mk VpnServer.reader) (.ofMap VpnServer.written) (levels + 3)
          inv.servers := by
  unfold Restores
  rw [reader_written h]
  constructor
  · intro hread
    obtain ⟨cs, hcs, hread⟩ := Option.bind_eq_some_iff.mp hread
    obtain ⟨ts, hts, hread⟩ := Option.bind_eq_some_iff.mp hread
    obtain ⟨ss, hss, hread⟩ := Option.bind_eq_some_iff.mp hread
    have heq : { inv with configurations := cs, templates := ts, servers := ss } = inv :=
      Option.some.inj hread
    refine ⟨hcs.trans (congrArg some ?_), hts.trans (congrArg some ?_),
      hss.trans (congrArg some ?_)⟩
    · exact congrArg Inventory.configurations heq
    · exact congrArg Inventory.templates heq
    · exact congrArg Inventory.servers heq
  · rintro ⟨hcs, hts, hss⟩
    rw [hcs, hts, hss]
    rfl

/-- An inventory is read back exactly when its documents are. -/
theorem restores_iff (h : inv.Fits) :
    Restores Inventory.reader Inventory.written (levels + 4) inv ↔
      ∀ j ∈ inv.documents, j.reread? (levels + 1) = some j := by
  rw [restores_iff_maps h, restores_sortedMap_iff fun _ => rfl, restores_sortedMap_iff fun _ => rfl,
    restores_sortedMap_iff fun _ => rfl, forall_documents]
  refine and_congr ?_ (and_congr ?_ ?_)
  · exact forall₂_congr fun e _ => restores_configuration_iff
  · exact forall₂_congr fun e he => restores_template_iff (h.created e he)
  · exact forall₂_congr fun e _ => restores_vpnServer_iff

/-- Where an inventory is read its documents are. -/
theorem isSome_reread?_of_isSome (h : inv.Fits)
    (hread : (Inventory.reader (levels + 4) inv.written.reread).isSome = true) :
    ∀ j ∈ inv.documents, (j.reread? (levels + 1)).isSome = true := by
  obtain ⟨found, hfound⟩ := Option.isSome_iff_exists.mp hread
  rw [reader_written h] at hfound
  obtain ⟨cs, hcs, hfound⟩ := Option.bind_eq_some_iff.mp hfound
  obtain ⟨ts, hts, hfound⟩ := Option.bind_eq_some_iff.mp hfound
  obtain ⟨ss, hss, _⟩ := Option.bind_eq_some_iff.mp hfound
  refine forall_documents.mpr ⟨fun e he => ?_, fun e he => ?_, fun e he => ?_⟩
  · have hvalue := isSome_of_sortedMap (fun _ => rfl) (Option.isSome_of_eq_some hcs) e he
    rwa [reader_configuration, Option.isSome_map] at hvalue
  · have hvalue := isSome_of_sortedMap (fun _ => rfl) (Option.isSome_of_eq_some hts) e he
    rwa [reader_template (h.created e he), Option.isSome_map] at hvalue
  · have hvalue := isSome_of_sortedMap (fun _ => rfl) (Option.isSome_of_eq_some hss) e he
    rwa [reader_vpnServer, Option.isSome_map] at hvalue

end Inventory

/-! ## The file -/

namespace InventoryFile

variable {inv : Inventory}

/-- The number of levels to which a document in a file may nest: the file, the inventory, the
collection and the record around it take one each. -/
def documentLevels : Nat := maxLevels - 4

/-- Any time of saving is read, though one of 65 bits or more as none. -/
theorem exists_savedAt (savedAt levels : Nat) :
    ∃ found, word64.nullable levels (Written.ofNat savedAt).reread = some found := by
  by_cases h : savedAt < UInt64.size
  · have hread : word64 levels (Written.ofNat savedAt).reread = some savedAt :=
      restores_natBelow (Nat.le_refl _) h levels
    rw [reread_ofNat h] at hread ⊢
    exact ⟨some savedAt, (nullable_of_ne (by nofun)).trans (congrArg (Option.map some) hread)⟩
  · refine ⟨none, ?_⟩
    rw [Written.ofNat, dif_neg h]
    rfl

/-- A file is read as its inventory is. -/
theorem parse_text (savedAt : Nat) (inv : Inventory) :
    parse (text savedAt inv) =
      match Inventory.reader (documentLevels + 3) inv.written.reread with
      | some found => .inventory found
      | none => .corrupted .invalidJson := by
  obtain ⟨found, hsaved⟩ := exists_savedAt savedAt (documentLevels + 3)
  have hversion : word32 (documentLevels + 3) (Written.ofNat version).reread = some version :=
    restores_natBelow (by decide) (by decide) _
  unfold parse text
  rw [Written.parse?_pretty, Written.reread, Option.bind_some]
  unfold reader
  rw [show maxLevels = documentLevels + 3 + 1 from rfl, Fields.of?_object (by rfl) (by decide)]
  simp [Written.rereadMembers, Fields.optional, hversion, hsaved]
  cases Inventory.reader (documentLevels + 3) inv.written.reread with
  | none => rfl
  | some found => rfl

/-- A file is read back exactly when each document in it is no deeper than its place allows and its
numbers read back. -/
theorem parse_text_eq_iff (hfits : inv.Fits) (hcanonical : ∀ j ∈ inv.documents, j.Canonical)
    (savedAt : Nat) :
    parse (text savedAt inv) = .inventory inv ↔
      ∀ j ∈ inv.documents, j.depth ≤ documentLevels ∧ j.NumbersReadBack := by
  have hrestores : Inventory.reader (documentLevels + 3) inv.written.reread = some inv ↔
      ∀ j ∈ inv.documents, j.reread? documentLevels = some j := Inventory.restores_iff hfits
  have hdocuments : (∀ j ∈ inv.documents, j.reread? documentLevels = some j) ↔
      ∀ j ∈ inv.documents, j.depth ≤ documentLevels ∧ j.NumbersReadBack :=
    forall₂_congr fun j hj => Json.reread?_eq_some_iff (hcanonical j hj)
  rw [← hdocuments, ← hrestores, parse_text]
  cases Inventory.reader (documentLevels + 3) inv.written.reread with
  | none => exact ⟨fun h => (nomatch h), fun h => (nomatch h)⟩
  | some found =>
      rw [Option.some.injEq]
      exact ⟨fun h => Loaded.inventory.inj h, fun h => congrArg Loaded.inventory h⟩

/-- A file with a document that is too deep for its place is corrupted. -/
theorem parse_text_of_deep (hfits : inv.Fits)
    (hdeep : ∃ j ∈ inv.documents, documentLevels < j.depth) (savedAt : Nat) :
    parse (text savedAt inv) = .corrupted .invalidJson := by
  obtain ⟨j, hj, hdepth⟩ := hdeep
  rw [parse_text]
  cases hread : Inventory.reader (documentLevels + 3) inv.written.reread with
  | none => rfl
  | some found =>
      have hsome : (j.reread? documentLevels).isSome = true :=
        Inventory.isSome_reread?_of_isSome hfits (Option.isSome_of_eq_some hread) j hj
      exact absurd (Json.depth_le_of_isSome hsome) (Nat.not_le_of_lt hdepth)

end InventoryFile

end Fleet
