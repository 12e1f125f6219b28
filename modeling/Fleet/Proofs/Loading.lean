/-
# What is loaded from a file

Whatever text a file holds, the inventory that is loaded from it can be saved again: its numbers fit
their fields, and its documents have their members in order and are no deeper than their place in
the file allows.  So the file that it is saved to gives it back exactly when the numbers of its
documents are read back.

Main statements: `InventoryFile.storable_of_parse`, `Inventory.Storable.parse_text_iff`.
-/
import Fleet.Proofs.Files

namespace Fleet

open Json (Decoder Fields Written)

/-! ## Documents that are read -/

namespace Assoc

variable {κ ν : Type} [Key κ]

/-- Every entry after many insertions is one of those inserted or an old one. -/
theorem mem_insertAll {l entries : List (κ × ν)} {e : κ × ν} (h : e ∈ insertAll l entries) :
    e ∈ entries ∨ e ∈ l := by
  induction entries generalizing l with
  | nil => exact Or.inr h
  | cons first rest ih =>
      rcases ih h with hrest | hinserted
      · exact Or.inl (List.mem_cons_of_mem first hrest)
      · rcases mem_insert hinserted with rfl | hold
        · exact Or.inl List.mem_cons_self
        · exact Or.inr hold

end Assoc

namespace Json

/-- A document with its members in order that is no deeper than some levels. -/
structure Within (levels : Nat) (j : Json) : Prop where
  /-- Members are in order. -/
  canonical : j.Canonical
  /-- It is no deeper. -/
  shallow : j.depth ≤ levels

/-- The empty document takes one level. -/
theorem within_emptyObject {levels : Nat} (h : 0 < levels) : emptyObject.Within levels :=
  ⟨.object .nil (List.forall_mem_nil _), h⟩

/-- A list is within one level more than its items. -/
theorem within_array {levels : Nat} {items : List Json} (h : ∀ j ∈ items, j.Within levels) :
    (array items).Within (levels + 1) := by
  refine ⟨.array fun j hj => (h j hj).canonical, ?_⟩
  rw [depth]
  exact Nat.succ_le_succ (depthItems_le.mpr fun j hj => (h j hj).shallow)

/-- An object is within one level more than its members. -/
theorem within_ofMembers {levels : Nat} {members : List (String × Json)}
    (h : ∀ e ∈ members, e.2.Within levels) : (ofMembers members).Within (levels + 1) := by
  have hentries : ∀ e ∈ Assoc.insertAll [] members, e.2.Within levels := fun e he =>
    h e ((Assoc.mem_insertAll he).resolve_right List.not_mem_nil)
  refine ⟨.object (Assoc.sorted_insertAll .nil members) fun e he => (hentries e he).canonical, ?_⟩
  rw [ofMembers, depth]
  exact Nat.succ_le_succ (depthMembers_le.mpr fun e he => (hentries e he).shallow)

namespace Written

mutual

/-- A document that is read is within the levels of the reader. -/
theorem within_of_toJson? : ∀ {levels : Nat} {w : Written} {j : Json}, w.toJson? levels = some j →
    j.Within levels
  | levels, null, j, h => by
      cases h
      exact ⟨.null, Nat.zero_le levels⟩
  | levels, bool b, j, h => by
      cases h
      exact ⟨.bool b, Nat.zero_le levels⟩
  | levels, number n, j, h => by
      cases h
      exact ⟨.number n, Nat.zero_le levels⟩
  | levels, string s, j, h => by
      cases h
      exact ⟨.string s, Nat.zero_le levels⟩
  | 0, array items, j, h => by cases h
  | levels + 1, array items, j, h => by
      rw [toJson?] at h
      obtain ⟨found, hfound, rfl⟩ := Option.map_eq_some_iff.mp h
      exact within_array (within_of_toItems? hfound)
  | 0, object members, j, h => by cases h
  | levels + 1, object members, j, h => by
      rw [toJson?] at h
      obtain ⟨found, hfound, rfl⟩ := Option.map_eq_some_iff.mp h
      exact within_ofMembers (within_of_toMembers? hfound)
  | levels, void, j, h => by cases h

/-- So are items that are read. -/
theorem within_of_toItems? : ∀ {levels : Nat} {items : List Written} {found : List Json},
    toItems? levels items = some found → ∀ j ∈ found, j.Within levels
  | levels, [], found, h => by
      cases h
      exact List.forall_mem_nil _
  | levels, w :: rest, found, h => by
      rw [toItems?] at h
      cases hj : toJson? levels w with
      | none =>
          rw [hj] at h
          cases h
      | some j =>
          cases hjs : toItems? levels rest with
          | none =>
              rw [hj, hjs] at h
              cases h
          | some js =>
              rw [hj, hjs] at h
              cases h
              exact List.forall_mem_cons.mpr ⟨within_of_toJson? hj, within_of_toItems? hjs⟩

/-- So are members that are read. -/
theorem within_of_toMembers? : ∀ {levels : Nat} {members : List (String × Written)}
    {found : List (String × Json)}, toMembers? levels members = some found →
      ∀ e ∈ found, e.2.Within levels
  | levels, [], found, h => by
      cases h
      exact List.forall_mem_nil _
  | levels, (name, w) :: rest, found, h => by
      rw [toMembers?] at h
      cases hj : toJson? levels w with
      | none =>
          rw [hj] at h
          cases h
      | some j =>
          cases hjs : toMembers? levels rest with
          | none =>
              rw [hj, hjs] at h
              cases h
          | some js =>
              rw [hj, hjs] at h
              cases h
              exact List.forall_mem_cons.mpr ⟨within_of_toJson? hj, within_of_toMembers? hjs⟩

end

end Written

/-! ## What decoders give -/

namespace Decoder

variable {α κ : Type} {levels : Nat} {d : Decoder α} {p : α → Prop}

/-- Whatever a decoder reads within a number of levels has a property. -/
def Gives (d : Decoder α) (levels : Nat) (p : α → Prop) : Prop :=
  ∀ {w : Written} {a : α}, d levels w = some a → p a

/-- Documents are within the levels of the reader. -/
theorem gives_document (levels : Nat) : document.Gives levels (Within levels) :=
  fun h => Written.within_of_toJson? h

/-- Numbers are below their bound. -/
theorem gives_natBelow (bound levels : Nat) : (natBelow bound).Gives levels (· < bound) := by
  intro w n h
  unfold natBelow at h
  split at h
  · split at h
    · rename_i hbound
      cases h
      exact (Int.toNat_lt hbound.1).mpr hbound.2
    · cases h
  · cases h

/-- A value that may be null has the property if it is there. -/
theorem gives_nullable (h : d.Gives levels p) : d.nullable.Gives levels fun o => ∀ a ∈ o, p a := by
  intro w o hread
  unfold nullable at hread
  split at hread
  · cases hread
    exact nofun
  · obtain ⟨a, ha, rfl⟩ := Option.map_eq_some_iff.mp hread
    rintro _ ⟨⟩
    exact h ha

/-- What is computed for the items of a list has a property if each computation gives it. -/
theorem forall_of_mapM {β : Type} {f : α → Option β} {q : β → Prop} {l : List α} {found : List β}
    (h : l.mapM f = some found) (hf : ∀ a b, f a = some b → q b) : ∀ b ∈ found, q b := by
  have heach := mapM_eq_some_iff.mp h
  clear h
  induction heach with
  | nil => exact List.forall_mem_nil _
  | cons hb _ ih => exact List.forall_mem_cons.mpr ⟨hf _ _ hb, ih⟩

/-- The items of a list have the property. -/
theorem gives_list (h : d.Gives levels p) : (list d).Gives (levels + 1) fun l => ∀ a ∈ l, p a := by
  intro w l hread
  unfold list at hread
  split at hread
  · rename_i deeper items heq
    cases heq
    exact forall_of_mapM hread fun _ _ ha => h ha
  · cases hread

/-- The values of a map have the property. -/
theorem gives_sortedMap [Key κ] {key : String → κ} (h : d.Gives levels p) :
    (sortedMap key d).Gives (levels + 1) fun m => ∀ e ∈ m.entries, p e.2 := by
  intro w m hread
  unfold sortedMap at hread
  split at hread
  · rename_i deeper members heq
    cases heq
    obtain ⟨found, hfound, rfl⟩ := Option.map_eq_some_iff.mp hread
    have hvalues : ∀ e ∈ found, p e.2 := by
      refine forall_of_mapM hfound fun member e he => ?_
      obtain ⟨v, hv, rfl⟩ := Option.map_eq_some_iff.mp he
      exact h hv
    exact fun e he => hvalues e ((Assoc.mem_insertAll he).resolve_right List.not_mem_nil)
  · cases hread

end Decoder

namespace Fields

open Decoder

variable {α : Type} {levels : Nat} {names : List String} {w : Written} {fs : Fields} {name : String}
  {d : Decoder α} {p : α → Prop} {fallback a : α}

/-- The fields of a record are one level deeper. -/
theorem levels_of? (h : Fields.of? names (levels + 1) w = some fs) : fs.levels = levels := by
  unfold Fields.of? at h
  split at h
  · rename_i heq
    cases heq
    dsimp only at h
    split at h
    · cases h
      rfl
    · cases h
  · rename_i heq
    cases heq
    split at h
    · cases h
      rfl
    · cases h
  · cases h

/-- A field that must be present has the property. -/
theorem of_required (hd : d.Gives fs.levels p) (h : fs.required name d = some a) : p a := by
  obtain ⟨w, _, hw⟩ := Option.bind_eq_some_iff.mp h
  exact hd hw

/-- A field with a default has the property if the default has it. -/
theorem of_withDefault (hd : d.Gives fs.levels p) (hfallback : p fallback)
    (h : fs.withDefault name d fallback = some a) : p a := by
  unfold withDefault at h
  split at h
  · exact hd h
  · cases h
    exact hfallback

/-- A field that may be missing has the property if it is there. -/
theorem of_optional {o : Option α} (hd : d.Gives fs.levels p) (h : fs.optional name d = some o) :
    ∀ a ∈ o, p a := by
  have hnone : ∀ a ∈ (none : Option α), p a := nofun
  exact of_withDefault (p := fun o => ∀ a ∈ o, p a) (gives_nullable hd) hnone h

end Fields

end Json

open Json.Decoder

/-! ## Records that are read -/

variable {levels : Nat}

/-- The document of a configuration is within the levels that its record leaves. -/
theorem gives_configuration (hdeep : 0 < levels) :
    Configuration.reader.Gives (levels + 1) fun k => k.document.Within levels := by
  intro w k h
  unfold Configuration.reader at h
  simp only [Option.bind_eq_bind, Option.bind_eq_some_iff, Option.pure_def, Option.some.injEq] at h
  obtain ⟨fs, hfs, _, _, _, _, document, hdocument, _, _, _, _, _, _, rfl⟩ := h
  have hlevels := Fields.levels_of? hfs
  exact Fields.of_withDefault (hlevels ▸ gives_document _) (Json.within_emptyObject hdeep) hdocument

/-- The document of a template is within the levels that its record leaves, and its creation
number has 64 bits. -/
theorem gives_template (hdeep : 0 < levels) :
    Template.reader.Gives (levels + 1) fun t =>
      t.document.Within levels ∧ t.created < UInt64.size := by
  intro w t h
  unfold Template.reader at h
  simp only [Option.bind_eq_bind, Option.bind_eq_some_iff, Option.pure_def, Option.some.injEq] at h
  obtain ⟨fs, hfs, _, _, _, _, _, _, _, _, _, _, _, _, _, _, _, _, document, hdocument, _, _,
    created, hcreated, rfl⟩ := h
  have hlevels := Fields.levels_of? hfs
  have hnumber : created < UInt64.size :=
    Fields.of_withDefault (p := (· < UInt64.size)) (gives_natBelow _ _) (by decide) hcreated
  exact ⟨Fields.of_withDefault (hlevels ▸ gives_document _) (Json.within_emptyObject hdeep)
    hdocument, hnumber⟩

/-- The document of a server is within the levels that its record leaves. -/
theorem gives_vpnServer (hdeep : 0 < levels) :
    VpnServer.reader.Gives (levels + 1) fun s => s.document.Within levels := by
  intro w s h
  unfold VpnServer.reader at h
  simp only [Option.bind_eq_bind, Option.bind_eq_some_iff, Option.pure_def, Option.some.injEq] at h
  obtain ⟨fs, hfs, _, _, _, _, _, _, _, _, document, hdocument, _, _, _, _, _, _, _, _, rfl⟩ := h
  have hlevels := Fields.levels_of? hfs
  exact Fields.of_withDefault (hlevels ▸ gives_document _) (Json.within_emptyObject hdeep) hdocument

/-- The tunnel id of a membership has 32 bits. -/
theorem gives_vpnClient (levels : Nat) :
    VpnClient.reader.Gives levels fun c => ∀ vni ∈ c.vni, vni < UInt32.size := by
  intro w c h
  unfold VpnClient.reader at h
  simp only [Option.bind_eq_bind, Option.bind_eq_some_iff, Option.pure_def, Option.some.injEq] at h
  obtain ⟨fs, _, _, _, _, _, _, _, _, _, _, _, vni, hvni, _, _, rfl⟩ := h
  exact Fields.of_optional (gives_natBelow _ _) hvni

/-! ## Inventories that are read -/

/-- An inventory that a file has room for. -/
structure Inventory.Storable (inv : Inventory) : Prop where
  /-- Its numbers fit their fields. -/
  fits : inv.Fits
  /-- Its documents are within the levels that are left for them. -/
  within : ∀ j ∈ inv.documents, j.Within InventoryFile.documentLevels

namespace Inventory

variable {inv : Inventory}

/-- A file has room for the inventory without records. -/
theorem storable_empty : Storable empty where
  fits := ⟨nofun, nofun, nofun, by decide⟩
  within := nofun

/-- A file that a storable inventory is saved to gives it back exactly when the numbers of its
documents are read back. -/
theorem Storable.parse_text_iff (h : inv.Storable) (savedAt : Nat) :
    InventoryFile.parse (InventoryFile.text savedAt inv) = .inventory inv ↔
      ∀ j ∈ inv.documents, j.NumbersReadBack := by
  rw [InventoryFile.parse_text_eq_iff h.fits fun j hj => (h.within j hj).canonical]
  exact forall₂_congr fun j hj => and_iff_right (h.within j hj).shallow

/-- An inventory that is read is storable. -/
theorem gives_inventory :
    Inventory.reader.Gives (InventoryFile.documentLevels + 3) Storable := by
  intro w inv h
  unfold Inventory.reader at h
  simp only [Option.bind_eq_bind, Option.bind_eq_some_iff, Option.pure_def, Option.some.injEq] at h
  obtain ⟨fs, hfs, _, _, configurations, hconfigurations, templates, htemplates, servers, hservers,
    clients, hclients, _, _, _, _, tunnelIds, htunnelIds, sequence, hsequence, rfl⟩ := h
  have hlevels : fs.levels = InventoryFile.documentLevels + 2 := Fields.levels_of? hfs
  have hdeep : 0 < InventoryFile.documentLevels := by decide
  have hconfigurations := Fields.of_withDefault
    (hlevels ▸ gives_sortedMap (gives_configuration hdeep)) nofun hconfigurations
  have htemplates := Fields.of_withDefault
    (hlevels ▸ gives_sortedMap (gives_template hdeep)) nofun htemplates
  have hservers := Fields.of_withDefault
    (hlevels ▸ gives_sortedMap (gives_vpnServer hdeep)) nofun hservers
  have hclients := Fields.of_withDefault
    (hlevels ▸ gives_list (gives_vpnClient _)) nofun hclients
  have htunnelIds := Fields.of_withDefault
    (hlevels ▸ gives_sortedMap (gives_natBelow _ _)) nofun htunnelIds
  have hsequence : sequence < UInt64.size :=
    Fields.of_withDefault (p := (· < UInt64.size)) (gives_natBelow _ _) (by decide) hsequence
  refine ⟨⟨fun e he => (htemplates e he).2, hclients, htunnelIds, hsequence⟩, ?_⟩
  exact forall_documents.mpr ⟨hconfigurations, fun e he => (htemplates e he).1, hservers⟩

end Inventory

namespace InventoryFile

/-- Whatever inventory is loaded is storable. -/
theorem storable_of_parse {text : String} {inv : Inventory} (h : parse text = .inventory inv) :
    inv.Storable := by
  unfold parse at h
  split at h
  · rename_i found loaded hread
    split at h
    · cases h
      obtain ⟨w, _, hw⟩ := Option.bind_eq_some_iff.mp hread
      unfold reader at hw
      simp only [Option.bind_eq_bind, Option.bind_eq_some_iff, Option.pure_def, Option.some.injEq]
        at hw
      obtain ⟨fs, hfs, _, _, _, _, _, hinventory, heq⟩ := hw
      cases heq
      have hlevels : fs.levels = documentLevels + 3 := Fields.levels_of? hfs
      exact Fields.of_required (hlevels ▸ Inventory.gives_inventory) hinventory
    · cases h
  · cases h

end InventoryFile

end Fleet
