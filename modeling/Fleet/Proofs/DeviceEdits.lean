/-
# How devices, servers and memberships are edited

For each edit of a device, of a VPN server and of a membership: what it stores when it succeeds, and
which devices it concerns.

Main statements: `Inventory.insertDevice_eq_ok`, `Inventory.replaceDevice_eq_ok`,
`Inventory.removeDevice_eq_ok`, `Inventory.insertClient_eq_ok`.
-/
import Fleet.Proofs.TemplateEdits

namespace Fleet.Inventory

open Outcomes

variable {inv inv' : Inventory}

/-! ## Devices -/

/-- Templates pass the check when each of them is usable. -/
theorem checkUsable_eq_ok {backend : Backend} {organization : OrgId} {ids : List TemplateId} :
    inv.checkUsable backend organization ids = .ok () ↔
      ∀ id ∈ ids, ∃ t, inv.templates.get? id = some t ∧ t.backend = backend ∧
        t.isVisibleTo organization = true := by
  induction ids with
  | nil => simp [checkUsable]
  | cons id rest ih =>
      rw [checkUsable, bind_eq_ok]
      simp only [Catalog.usable_eq_ok, ih, List.forall_mem_cons]
      constructor
      · rintro ⟨t, ht, hrest⟩
        exact ⟨⟨t, ht⟩, hrest⟩
      · rintro ⟨⟨t, ht⟩, hrest⟩
        exact ⟨t, ht, hrest⟩

/-- A device is added under a new identifier, with the templates that it starts with. -/
theorem insertDevice_eq_ok {d : Device} {k : Configuration} (h : inv.insertDevice d k = .ok inv') :
    inv.devices.get? d.id = none ∧ k.device = d.id ∧ k.document.isObject = true ∧
      (∀ id ∈ k.templates, ∃ t, inv.templates.get? id = some t ∧ t.backend = k.backend ∧
        t.isVisibleTo d.organization = true) ∧
      inv' = (inv.putConfiguration d.id { k with
        templates := inv.startingTemplates k d.organization d.group
        status := .modified }).putDevice d.id d := by
  unfold insertDevice at h
  rw [seq_eq_ok, ite_error_eq_ok, ite_error_eq_ok, seq_eq_ok, seq_eq_ok, pure_eq_ok] at h
  obtain ⟨_, hnew, hdevice, hvalid, husable, rfl⟩ := h
  rw [Bool.not_eq_true, SortedMap.contains_eq_false] at hnew
  refine ⟨hnew, Decidable.not_not.mp hdevice, ?_, checkUsable_eq_ok.mp husable, rfl⟩
  unfold Configuration.validate at hvalid
  split at hvalid
  · assumption
  · cases hvalid

/-- Adding a device concerns that device only. -/
theorem agreesOff_insertDevice {d : Device} {k : Configuration}
    (h : inv.insertDevice d k = .ok inv') : AgreesOff [d.id] inv inv' := by
  obtain ⟨_, _, _, _, rfl⟩ := insertDevice_eq_ok h
  exact (agreesOff_putConfiguration _).trans (agreesOff_putDevice _)

/-- Whether the list of a replaced device follows its new organization or group. -/
def Rescopes (p d : Device) (k : Configuration) : Prop :=
  (p.group ≠ d.group ∨ p.organization ≠ d.organization) ∧ p.active = true ∧
    k.status.isDeactivation = false

/-- A device is replaced and stays active or inactive; its list may follow. -/
theorem replaceDevice_eq_ok {d p : Device} {change : TemplateChange}
    (h : inv.replaceDevice d = .ok (p, change, inv')) :
    ∃ k, inv.devices.get? d.id = some p ∧ inv.configurations.get? d.id = some k ∧
      ((¬ Rescopes p d k ∧ change = .unchanged ∧
          inv' = inv.putDevice d.id { d with active := p.active }) ∨
        (Rescopes p d k ∧ ∃ dropped added,
          Relists (inv.putDevice d.id { d with active := p.active }) d.id
            { k with templates := inv.templates.rescope k d.organization dropped added } inv' ∧
          (change.changed = false → change.left = [] ∧
            inv' = inv.putDevice d.id { d with active := p.active }))) := by
  unfold replaceDevice at h
  rw [seq_eq_ok] at h
  obtain ⟨_, h⟩ := h
  simp only [bind_eq_ok, device_eq_ok, configuration_eq_ok] at h
  obtain ⟨q, hq, k, hk, h⟩ := h
  have hiff : ((q.group != d.group || q.organization != d.organization) && q.active &&
      !k.status.isDeactivation) = true ↔ Rescopes q d k := by
    simp [Rescopes, and_assoc]
  by_cases hmove : Rescopes q d k
  · rw [if_pos (hiff.mpr hmove), bind_eq_ok] at h
    obtain ⟨⟨applied, inv₁⟩, hset, h⟩ := h
    cases h
    obtain ⟨k', hk', hr, hsame⟩ := setTemplates_eq_ok hset
    have : k' = k := Option.some.inj (hk'.symm.trans hk)
    subst this
    exact ⟨k', hq, hk, Or.inr ⟨hmove, _, _, hr, fun hc => ⟨(hsame hc).2, (hsame hc).1⟩⟩⟩
  · rw [if_neg fun hc => hmove (hiff.mp hc)] at h
    cases h
    exact ⟨k, hq, hk, Or.inl ⟨hmove, rfl, rfl⟩⟩

/-- Where the list stays nothing but the device is another one. -/
theorem replaceDevice_of_unchanged {d p : Device} {change : TemplateChange}
    (h : inv.replaceDevice d = .ok (p, change, inv')) (hsame : change.changed = false) :
    inv' = inv.putDevice d.id { d with active := p.active } := by
  obtain ⟨_, _, _, ⟨_, _, hinv⟩ | ⟨_, _, _, _, hinv⟩⟩ := replaceDevice_eq_ok h
  · exact hinv
  · exact (hinv hsame).2

/-- Replacing a device concerns that device only. -/
theorem agreesOff_replaceDevice {d p : Device} {change : TemplateChange}
    (h : inv.replaceDevice d = .ok (p, change, inv')) : AgreesOff [d.id] inv inv' := by
  obtain ⟨k, _, _, ⟨_, _, rfl⟩ | ⟨_, _, _, hr, _⟩⟩ := replaceDevice_eq_ok h
  · exact agreesOff_putDevice _
  · exact (agreesOff_putDevice _).trans hr.agreesOff

/-- A device is removed with its configuration and its memberships. -/
theorem removeDevice_eq_ok {id : DeviceId} {removed : RemovedDevice}
    (h : inv.removeDevice id = (.ok removed, inv')) :
    ∃ d k, inv.devices.get? id = some d ∧ inv.configurations.get? id = some k ∧
      removed = ⟨d, k, inv.clientsOf id⟩ ∧
      inv' = { inv with
        devices := inv.devices.erase id
        configurations := inv.configurations.erase id
        clients := inv.clients.filter fun c => c.device != id } := by
  unfold removeDevice at h
  split at h
  · cases h
  · rename_i d hd
    dsimp only at h
    split at h
    · cases h
    · rename_i k hk
      cases h
      exact ⟨d, k, device_eq_ok.mp hd, configuration_eq_ok.mp hk, rfl, rfl⟩

/-- Removing a device that has a configuration does not stop half way. -/
theorem removeDevice_eq_error {id : DeviceId} {e : Error}
    (hpaired : ∀ d, inv.devices.get? id = some d → ∃ k, inv.configurations.get? id = some k)
    (h : inv.removeDevice id = (.error e, inv')) : inv' = inv := by
  unfold removeDevice at h
  split at h
  · cases h
    rfl
  · rename_i d hd
    obtain ⟨k, hk⟩ := hpaired d (device_eq_ok.mp hd)
    have hk' : ({ inv with devices := inv.devices.erase id } : Inventory).configuration id =
        .ok k :=
      configuration_eq_ok.mpr hk
    dsimp only at h
    rw [hk'] at h
    cases h

/-- Removing a device concerns that device only. -/
theorem agreesOff_removeDevice {id : DeviceId} {removed : RemovedDevice}
    (h : inv.removeDevice id = (.ok removed, inv')) : AgreesOff [id] inv inv' := by
  obtain ⟨d, k, _, _, _, rfl⟩ := removeDevice_eq_ok h
  refine ⟨fun x hx => ?_, fun x hx => ?_, agreesOff_removeClientsOf.clients⟩
  · exact SortedMap.get?_erase_ne (fun heq => hx (by simp [heq])) _
  · exact SortedMap.get?_erase_ne (fun heq => hx (by simp [heq])) _

/-- A device is taken out of use with an empty configuration and no memberships. -/
theorem deactivate_eq_ok {id : DeviceId} {left : List VpnClient}
    (h : inv.deactivate id = .ok (left, inv')) :
    ∃ d k, inv.devices.get? id = some d ∧ inv.configurations.get? id = some k ∧
      left = inv.clientsOf id ∧
      inv' =
        { (inv.putConfiguration id { k with document := .emptyObject, templates := [] }).putDevice
            id { d with active := false } with
          clients := inv.clients.filter fun c => c.device != id } := by
  unfold deactivate at h
  simp only [bind_eq_ok, device_eq_ok, configuration_eq_ok, pure_eq_ok] at h
  obtain ⟨d, hd, k, hk, h⟩ := h
  cases h
  exact ⟨d, k, hd, hk, rfl, rfl⟩

/-- A device is used again, with the templates that it starts with. -/
theorem reactivate_eq_ok {id : DeviceId} (h : inv.reactivate id = .ok inv') :
    ∃ d k, inv.devices.get? id = some d ∧ inv.configurations.get? id = some k ∧
      inv' = (inv.putConfiguration id { k with
        templates := inv.startingTemplates k d.organization d.group }).putDevice id
          { d with active := true } := by
  unfold reactivate at h
  simp only [bind_eq_ok, device_eq_ok, configuration_eq_ok, pure_eq_ok] at h
  obtain ⟨d, hd, k, hk, rfl⟩ := h
  exact ⟨d, k, hd, hk, rfl⟩

/-! ## Servers -/

/-- A server is added under a new identifier. -/
theorem insertServer_eq_ok {s : VpnServer} (h : inv.insertServer s = .ok inv') :
    inv.servers.get? s.id = none ∧ inv' = { inv with servers := inv.servers.insert s.id s } := by
  unfold insertServer at h
  rw [seq_eq_ok, ite_error_eq_ok, seq_eq_ok, pure_eq_ok] at h
  obtain ⟨_, hnew, _, rfl⟩ := h
  rw [Bool.not_eq_true, SortedMap.contains_eq_false] at hnew
  exact ⟨hnew, rfl⟩

/-- A server is replaced. -/
theorem replaceServer_eq_ok {s p : VpnServer} (h : inv.replaceServer s = .ok (p, inv')) :
    inv.servers.get? s.id = some p ∧ inv' = { inv with servers := inv.servers.insert s.id s } := by
  unfold replaceServer at h
  rw [seq_eq_ok] at h
  simp only [bind_eq_ok, server_eq_ok, pure_eq_ok] at h
  obtain ⟨_, q, hq, h⟩ := h
  cases h
  exact ⟨hq, rfl⟩

/-! ## Memberships -/

/-- A membership is added behind the others, for a device and a server that exist. -/
theorem insertClient_eq_ok {client stored : VpnClient} {maxTunnelId : Nat}
    (h : inv.insertClient client maxTunnelId = .ok (stored, inv')) :
    ∃ k s vni tunnelIds, inv.configurations.get? client.device = some k ∧
      inv.servers.get? client.server = some s ∧
      inv.client? client.device client.server = none ∧
      inv.tunnelIdFor s client maxTunnelId = .ok (vni, tunnelIds) ∧
      stored = { client with vni } ∧
      inv' = { inv with clients := inv.clients ++ [stored], tunnelIds } := by
  unfold insertClient at h
  simp only [bind_eq_ok, configuration_eq_ok, server_eq_ok] at h
  obtain ⟨k, hk, s, hs, h⟩ := h
  split at h
  · cases h
  · rename_i hnone
    rw [bind_eq_ok] at h
    obtain ⟨⟨vni, tunnelIds⟩, ht, h⟩ := h
    cases h
    exact ⟨k, s, vni, tunnelIds, hk, hs, hnone, ht, rfl, rfl⟩

/-- Adding a membership concerns its device only. -/
theorem agreesOff_insertClient {client stored : VpnClient} {maxTunnelId : Nat}
    (h : inv.insertClient client maxTunnelId = .ok (stored, inv')) :
    AgreesOff [stored.device] inv inv' := by
  obtain ⟨k, s, vni, tunnelIds, _, _, _, _, rfl, rfl⟩ := insertClient_eq_ok h
  refine ⟨fun _ _ => rfl, fun _ _ => rfl, fun x hx => ?_⟩
  unfold clientsOf
  rw [List.filter_append, List.filter_cons]
  have hne : (client.device == x) = false := by
    rw [beq_eq_false_iff_ne]
    rintro rfl
    exact hx List.mem_cons_self
  rw [show ({ client with vni } : VpnClient).device = client.device from rfl, hne]
  exact List.append_nil _

/-- Ending a membership concerns its device only. -/
theorem agreesOff_removeClient (inv : Inventory) (id : DeviceId) (server : ServerId) :
    AgreesOff [id] inv (inv.removeClient id server).2 := by
  obtain ⟨cs, hcs, _, hoff⟩ := removeClient_snd inv id server
  rw [hcs]
  exact agreesOff_clients hoff

end Fleet.Inventory
