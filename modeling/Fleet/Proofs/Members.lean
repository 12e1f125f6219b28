/-
# Who leaves a server

A membership ends in few ways: the device leaves the server, loses the last template of it, is
removed or taken out of use.  Each edit gives the memberships that end with it, and every server
that is not among theirs keeps its members.

Main statements: `Inventory.clientsOn_insertClient`, `Inventory.setTemplates_leaves`,
`Inventory.setGroup_leaves`.
-/
import Fleet.Proofs.DeviceEdits

namespace Fleet.Inventory

open Outcomes

variable {inv inv' inv'' : Inventory} {id : DeviceId}

/-! ## Members -/

/-- The members of a server are the memberships that name it. -/
theorem mem_clientsOn {s : ServerId} {client : VpnClient} :
    client ∈ inv.clientsOn s ↔ client ∈ inv.clients ∧ client.server = s := by
  rw [clientsOn, List.mem_filter, beq_iff_eq]

/-- A device is no member of a server when no member is that device. -/
theorem client?_eq_none {s : ServerId} :
    inv.client? id s = none ↔ ∀ client ∈ inv.clientsOn s, client.device ≠ id := by
  unfold client?
  rw [List.find?_eq_none]
  simp only [Bool.and_eq_true, beq_iff_eq, mem_clientsOn]
  constructor
  · rintro h client ⟨hmem, hserver⟩ hdevice
    exact h client hmem ⟨hdevice, hserver⟩
  · rintro h client hmem ⟨hdevice, hserver⟩
    exact h client ⟨hmem, hserver⟩ hdevice

/-- A device that joins a server comes last there; other servers keep their members. -/
theorem clientsOn_insertClient {client stored : VpnClient} {maxTunnelId : Nat}
    (h : inv.insertClient client maxTunnelId = .ok (stored, inv')) (s : ServerId) :
    inv'.clientsOn s = inv.clientsOn s ++ if stored.server = s then [stored] else [] := by
  obtain ⟨_, _, _, _, _, _, _, _, rfl, rfl⟩ := insertClient_eq_ok h
  unfold clientsOn
  rw [List.filter_append, List.filter_cons]
  simp only [beq_iff_eq, List.filter_nil]

/-- Where no membership is new none comes to be. -/
theorem client?_eq_none_of_sublist {s : ServerId} (hsub : inv'.clients.Sublist inv.clients)
    (h : inv.client? id s = none) : inv'.client? id s = none := by
  rw [client?_eq_none] at h ⊢
  intro client hclient
  obtain ⟨hmem, hserver⟩ := mem_clientsOn.mp hclient
  exact h client (mem_clientsOn.mpr ⟨hsub.subset hmem, hserver⟩)

/-- A device whose memberships have all ended is no member of any server. -/
theorem client?_of_filter_ne {s : ServerId}
    (h : inv'.clients = inv.clients.filter fun client => client.device != id) :
    inv'.client? id s = none := by
  refine client?_eq_none.mpr fun client hclient hdevice => ?_
  have hmem := (mem_clientsOn.mp hclient).1
  rw [h, List.mem_filter, hdevice, bne_self_eq_false] at hmem
  cases hmem.2

/-! ## Ended memberships -/

/-- Every server keeps its members, unless one of the given memberships is of it. -/
def Leaves (left : List VpnClient) (inv inv' : Inventory) : Prop :=
  ∀ s, s ∉ left.map VpnClient.server → inv'.clientsOn s = inv.clientsOn s

namespace Leaves

variable {left left' : List VpnClient}

/-- Where the memberships are the same, nobody left. -/
theorem of_eq (h : inv'.clients = inv.clients) : Leaves left inv inv' := by
  intro s _
  unfold clientsOn
  rw [h]

/-- Those who left in two steps. -/
theorem trans (h : Leaves left inv inv') (h' : Leaves left' inv' inv'') :
    Leaves (left ++ left') inv inv'' := by
  intro s hs
  rw [List.map_append, List.mem_append, not_or] at hs
  rw [h' s hs.2, h s hs.1]

end Leaves

/-- Once the first item with some property is erased there is none, if the items differ in what the
property is about. -/
theorem not_of_mem_eraseP {α κ : Type} {key : α → κ} {p : α → Bool} {v : κ}
    (hp : ∀ a, p a = true ↔ key a = v) {l : List α} (hnodup : (l.map key).Nodup) :
    ∀ a ∈ l.eraseP p, p a = false := by
  induction l with
  | nil => exact fun a ha => absurd ha List.not_mem_nil
  | cons b rest ih =>
      rw [List.map_cons, List.nodup_cons] at hnodup
      intro a ha
      rw [List.eraseP_cons] at ha
      cases hb : p b with
      | true =>
          rw [hb, cond_true] at ha
          rw [← Bool.not_eq_true, hp]
          intro hkey
          rw [← (hp b).mp hb] at hkey
          exact hnodup.1 (hkey ▸ List.mem_map_of_mem ha)
      | false =>
          rw [hb, cond_false] at ha
          rcases List.mem_cons.mp ha with rfl | ha
          · exact hb
          · exact ih hnodup.2 a ha

/-- A membership that ended is over. -/
theorem client?_removeClient_self
    (hpairs : (inv.clients.map fun client => (client.device, client.server)).Nodup)
    (id : DeviceId) (server : ServerId) :
    (inv.removeClient id server).2.client? id server = none := by
  unfold removeClient
  split
  · unfold client?
    rw [List.find?_eq_none]
    intro client hclient
    have hpair : ∀ client : VpnClient, (client.device == id && client.server == server) = true ↔
        (client.device, client.server) = (id, server) := fun client => by simp
    rw [not_of_mem_eraseP hpair hpairs client hclient]
    exact Bool.false_ne_true
  · rename_i hnone
    exact hnone

/-- Ending one membership. -/
theorem removeClient_leaves (inv : Inventory) (id : DeviceId) (server : ServerId) :
    Leaves (inv.removeClient id server).1.toList inv (inv.removeClient id server).2 := by
  unfold removeClient
  split
  · rename_i client hclient
    have hserver : client.server = server := by
      have hfound := List.find?_some hclient
      simp only [Bool.and_eq_true, beq_iff_eq] at hfound
      exact hfound.2
    intro s hs
    -- What is erased is of another server than the one that is looked at.
    refine filter_eraseP (fun c hc => ?_) _
    simp only [Bool.and_eq_true, beq_iff_eq] at hc
    rw [hc.2, beq_eq_false_iff_ne]
    rintro rfl
    exact hs (List.mem_map.mpr ⟨client, List.mem_singleton_self client, hserver⟩)
  · exact Leaves.of_eq rfl

/-- Ending the memberships of a device in some servers. -/
theorem removeClients_leaves (inv : Inventory) (id : DeviceId) (servers : List ServerId) :
    Leaves (inv.removeClients id servers).1 inv (inv.removeClients id servers).2 := by
  induction servers generalizing inv with
  | nil => exact Leaves.of_eq rfl
  | cons server rest ih =>
      exact (removeClient_leaves inv id server).trans (ih (inv.removeClient id server).2)

/-- Ending all memberships of a device. -/
theorem removeClientsOf_leaves (inv : Inventory) (id : DeviceId) :
    Leaves (inv.clientsOf id) inv (inv.removeClientsOf id).2 := by
  intro s hs
  unfold clientsOn removeClientsOf
  dsimp only
  rw [List.filter_filter]
  apply List.filter_congr
  intro client hclient
  rw [Bool.and_eq_left_iff_imp, beq_iff_eq, bne_iff_ne]
  rintro rfl rfl
  exact hs (List.mem_map.mpr ⟨client, mem_clientsOf.mpr ⟨hclient, rfl⟩, rfl⟩)

/-! ## Edits -/

/-- Replacing a template list ends the memberships that it gives. -/
theorem setTemplates_leaves {ts : List TemplateId} {change : TemplateChange}
    (h : inv.setTemplates id ts = .ok (change, inv')) : Leaves change.left inv inv' := by
  unfold setTemplates at h
  rw [bind_eq_ok] at h
  obtain ⟨k, _, h⟩ := h
  split at h
  · cases h
    exact Leaves.of_eq rfl
  · cases h
    exact removeClients_leaves (inv.putConfiguration id { k with templates := ts }) id _

/-- Moving a configuration to another backend ends the memberships that it gives. -/
theorem setBackend_leaves {backend : Backend} {change : TemplateChange}
    (h : inv.setBackend id backend = .ok (change, inv')) : Leaves change.left inv inv' := by
  unfold setBackend at h
  simp only [bind_eq_ok] at h
  obtain ⟨d, _, k, _, h⟩ := h
  split at h
  · cases h
    exact Leaves.of_eq rfl
  · rw [bind_eq_ok] at h
    obtain ⟨⟨applied, inv₁⟩, hset, h⟩ := h
    cases h
    have hleaves : Leaves applied.left (inv.putConfiguration id { k with backend }) inv₁ :=
      setTemplates_leaves hset
    exact fun s hs => hleaves s hs

/-- Replacing a device ends the memberships that it gives. -/
theorem replaceDevice_leaves {d p : Device} {change : TemplateChange}
    (h : inv.replaceDevice d = .ok (p, change, inv')) : Leaves change.left inv inv' := by
  unfold replaceDevice at h
  simp only [bind_eq_ok] at h
  obtain ⟨_, _, _, _, k, _, h⟩ := h
  split at h
  · rw [bind_eq_ok] at h
    obtain ⟨⟨applied, inv₁⟩, hset, h⟩ := h
    cases h
    have hleaves : Leaves applied.left (inv.putDevice d.id { d with active := p.active }) inv₁ :=
      setTemplates_leaves hset
    exact fun s hs => hleaves s hs
  · cases h
    exact Leaves.of_eq rfl

/-- Removing a device ends the memberships that it gives. -/
theorem removeDevice_leaves {removed : RemovedDevice}
    (h : inv.removeDevice id = (.ok removed, inv')) : Leaves removed.clients inv inv' := by
  obtain ⟨_, _, _, _, rfl, rfl⟩ := removeDevice_eq_ok h
  exact removeClientsOf_leaves inv id

/-- Taking a device out of use ends the memberships that it gives. -/
theorem deactivate_leaves {left : List VpnClient} (h : inv.deactivate id = .ok (left, inv')) :
    Leaves left inv inv' := by
  obtain ⟨_, _, _, _, rfl, rfl⟩ := deactivate_eq_ok h
  exact removeClientsOf_leaves inv id

/-- Swapping group templates ends memberships that it adds to those given before. -/
theorem swapGroupTemplates_leaves (old new : List TemplateId) :
    ∀ (members : List DeviceId) (inv inv' : Inventory) (change change' : GroupChange),
      swapGroupTemplates old new change inv members = (.ok change', inv') →
      ∃ left, change'.left = change.left ++ left ∧ Leaves left inv inv' := by
  intro members
  induction members with
  | nil =>
      intro inv inv' change change' h
      cases h
      exact ⟨[], (List.append_nil _).symm, Leaves.of_eq rfl⟩
  | cons id rest ih =>
      intro inv inv' change change' h
      rw [swapGroupTemplates] at h
      split at h
      · cases h
      · cases h
      · split at h
        · exact ih inv inv' change change' h
        · dsimp only at h
          split at h
          · cases h
          · rename_i applied inv₁ hset
            obtain ⟨left, hleft, hrest⟩ := ih inv₁ inv' _ change' h
            refine ⟨applied.left ++ left, ?_, (setTemplates_leaves hset).trans hrest⟩
            rw [hleft, List.append_assoc]

/-- Storing a group ends the memberships that it gives. -/
theorem setGroup_leaves {group : DeviceGroup} {change : GroupChange}
    (h : inv.setGroup group = (.ok change, inv')) : Leaves change.left inv inv' := by
  unfold setGroup at h
  split at h
  · cases h
  · dsimp only at h
    split at h
    · cases h
      exact Leaves.of_eq rfl
    · obtain ⟨left, hleft, hleaves⟩ := swapGroupTemplates_leaves _ _ _ _ _ _ _ h
      rw [hleft]
      exact hleaves

end Fleet.Inventory
