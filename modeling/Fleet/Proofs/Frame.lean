/-
# What an edit of the inventory leaves alone

Two inventories agree off a list of devices when every other device has the same record, the same
configuration and the same memberships in both.  The lookups of the inventory, the writing of single
records and the ending of memberships are described by it.
-/
import Fleet.Inventory.Devices
import Fleet.Proofs.Maps
import Fleet.Proofs.Outcomes

namespace Fleet.Inventory

open Outcomes

/-! ## Looking up -/

section Lookups

variable {inv : Inventory}

/-- A device is looked up where it is stored. -/
@[simp] theorem device_eq_ok {id : DeviceId} {d : Device} :
    inv.device id = .ok d ↔ inv.devices.get? id = some d := by
  unfold device
  cases inv.devices.get? id <;> simp

/-- A configuration is looked up where it is stored. -/
@[simp] theorem configuration_eq_ok {id : DeviceId} {k : Configuration} :
    inv.configuration id = .ok k ↔ inv.configurations.get? id = some k := by
  unfold configuration
  cases inv.configurations.get? id <;> simp

/-- A template is looked up where it is stored. -/
@[simp] theorem template_eq_ok {id : TemplateId} {t : Template} :
    inv.template id = .ok t ↔ inv.templates.get? id = some t := by
  unfold template
  cases inv.templates.get? id <;> simp

/-- A server is looked up where it is stored. -/
@[simp] theorem server_eq_ok {id : ServerId} {s : VpnServer} :
    inv.server id = .ok s ↔ inv.servers.get? id = some s := by
  unfold server
  cases inv.servers.get? id <;> simp

/-- The memberships of a device are the memberships that name it. -/
theorem mem_clientsOf {id : DeviceId} {client : VpnClient} :
    client ∈ inv.clientsOf id ↔ client ∈ inv.clients ∧ client.device = id := by
  rw [clientsOf, List.mem_filter, beq_iff_eq]

end Lookups

/-! ## Agreement -/

/-- Every device outside a list has the same record, configuration and memberships in both. -/
structure AgreesOff (ids : List DeviceId) (inv inv' : Inventory) : Prop where
  /-- The records. -/
  device : ∀ id ∉ ids, inv'.devices.get? id = inv.devices.get? id
  /-- The configurations. -/
  configuration : ∀ id ∉ ids, inv'.configurations.get? id = inv.configurations.get? id
  /-- The memberships. -/
  clients : ∀ id ∉ ids, inv'.clientsOf id = inv.clientsOf id

/-- What devices share is the same in both: templates, servers, organizations and groups. -/
structure SharesWith (inv inv' : Inventory) : Prop where
  /-- The templates. -/
  templates : inv'.templates = inv.templates
  /-- The servers. -/
  servers : inv'.servers = inv.servers
  /-- The organizations. -/
  organizations : inv'.organizations = inv.organizations
  /-- The groups. -/
  groups : inv'.groups = inv.groups

namespace AgreesOff

variable {ids ids' : List DeviceId} {inv inv' inv'' : Inventory}

/-- An inventory agrees with itself. -/
theorem refl (ids : List DeviceId) (inv : Inventory) : AgreesOff ids inv inv :=
  ⟨fun _ _ => rfl, fun _ _ => rfl, fun _ _ => rfl⟩

/-- Agreement off a list holds off every longer list. -/
theorem mono (h : AgreesOff ids inv inv') (hsub : ∀ id ∈ ids, id ∈ ids') :
    AgreesOff ids' inv inv' :=
  ⟨fun id hid => h.device id fun hm => hid (hsub id hm),
    fun id hid => h.configuration id fun hm => hid (hsub id hm),
    fun id hid => h.clients id fun hm => hid (hsub id hm)⟩

/-- Agreement is passed on. -/
theorem trans (h : AgreesOff ids inv inv') (h' : AgreesOff ids inv' inv'') :
    AgreesOff ids inv inv'' :=
  ⟨fun id hid => (h'.device id hid).trans (h.device id hid),
    fun id hid => (h'.configuration id hid).trans (h.configuration id hid),
    fun id hid => (h'.clients id hid).trans (h.clients id hid)⟩

/-- Inventories with the same records of devices agree everywhere. -/
theorem of_eq (hd : inv'.devices = inv.devices) (hk : inv'.configurations = inv.configurations)
    (hc : inv'.clients = inv.clients) : AgreesOff ids inv inv' := by
  refine ⟨fun id _ => by rw [hd], fun id _ => by rw [hk], fun id _ => ?_⟩
  unfold clientsOf
  rw [hc]

end AgreesOff

namespace SharesWith

variable {inv inv' inv'' : Inventory}

/-- An inventory shares everything with itself. -/
theorem refl (inv : Inventory) : SharesWith inv inv :=
  ⟨rfl, rfl, rfl, rfl⟩

end SharesWith

/-! ## Writing one record -/

section Writes

variable {inv : Inventory} {id : DeviceId}

/-- A configuration that is stored is found. -/
@[simp] theorem putConfiguration_get?_self {k : Configuration} :
    (inv.putConfiguration id k).configurations.get? id = some k :=
  SortedMap.get?_insert_self _ _ _

/-- A device that is stored is found. -/
@[simp] theorem putDevice_get?_self {d : Device} : (inv.putDevice id d).devices.get? id = some d :=
  SortedMap.get?_insert_self _ _ _

/-- Storing a configuration concerns its device only. -/
theorem agreesOff_putConfiguration (k : Configuration) :
    AgreesOff [id] inv (inv.putConfiguration id k) :=
  ⟨fun _ _ => rfl, fun x hx => SortedMap.get?_insert_ne (fun h => hx (by simp [h])) _ _,
    fun _ _ => rfl⟩

/-- Storing a device concerns that device only. -/
theorem agreesOff_putDevice (d : Device) : AgreesOff [id] inv (inv.putDevice id d) :=
  ⟨fun x hx => SortedMap.get?_insert_ne (fun h => hx (by simp [h])) _ _, fun _ _ => rfl,
    fun _ _ => rfl⟩

/-- Storing a configuration that is there already changes nothing. -/
theorem putConfiguration_eq_self {k : Configuration} (h : inv.configurations.get? id = some k) :
    inv.putConfiguration id k = inv := by
  unfold putConfiguration
  rw [SortedMap.insert_eq_self h]

/-- Of two configurations stored for one device the second one counts. -/
theorem putConfiguration_putConfiguration (k k' : Configuration) :
    (inv.putConfiguration id k).putConfiguration id k' = inv.putConfiguration id k' := by
  unfold putConfiguration
  rw [SortedMap.insert_insert]

end Writes

/-! ## Ending memberships -/

section Memberships

variable {inv : Inventory} {id : DeviceId}

/-- An item that is not looked at may be erased. -/
theorem filter_eraseP {α : Type} {p q : α → Bool} (h : ∀ a, p a = true → q a = false) (l : List α) :
    (l.eraseP p).filter q = l.filter q := by
  rcases List.exists_or_eq_self_of_eraseP p l with hsame | ⟨a, front, rest, _, ha, hl, herase⟩
  · rw [hsame]
  · have hlooked : ¬ q a = true := by
      rw [h a ha]
      exact Bool.false_ne_true
    rw [herase, hl, List.filter_append, List.filter_append, List.filter_cons_of_neg hlooked]

/-- The memberships that are left when one ends. -/
theorem removeClient_snd (inv : Inventory) (id : DeviceId) (server : ServerId) :
    ∃ cs, (inv.removeClient id server).2 = { inv with clients := cs } ∧ cs.Sublist inv.clients ∧
      ∀ x, x ≠ id → cs.filter (fun c => c.device == x) = inv.clientsOf x := by
  unfold removeClient
  split
  · refine ⟨_, rfl, List.eraseP_sublist, fun x hx => filter_eraseP (fun c hc => ?_) _⟩
    simp only [Bool.and_eq_true, beq_iff_eq] at hc
    rw [hc.1, beq_eq_false_iff_ne]
    exact Ne.symm hx
  · exact ⟨inv.clients, rfl, List.Sublist.refl _, fun x _ => rfl⟩

/-- The memberships that are left when some of one device end. -/
theorem removeClients_snd (inv : Inventory) (id : DeviceId) (servers : List ServerId) :
    ∃ cs, (inv.removeClients id servers).2 = { inv with clients := cs } ∧ cs.Sublist inv.clients ∧
      ∀ x, x ≠ id → cs.filter (fun c => c.device == x) = inv.clientsOf x := by
  induction servers generalizing inv with
  | nil => exact ⟨inv.clients, rfl, List.Sublist.refl _, fun x _ => rfl⟩
  | cons server rest ih =>
      obtain ⟨cs, hcs, hsub, hoff⟩ := removeClient_snd inv id server
      obtain ⟨cs', hcs', hsub', hoff'⟩ := ih (inv.removeClient id server).2
      rw [hcs] at hcs' hsub' hoff'
      refine ⟨cs', ?_, hsub'.trans hsub, fun x hx => (hoff' x hx).trans (hoff x hx)⟩
      show ((inv.removeClient id server).2.removeClients id rest).2 = _
      rw [hcs, hcs']

/-- Ending memberships of a device concerns that device only. -/
theorem agreesOff_clients {cs : List VpnClient}
    (h : ∀ x, x ≠ id → cs.filter (fun c => c.device == x) = inv.clientsOf x) :
    AgreesOff [id] inv { inv with clients := cs } :=
  ⟨fun _ _ => rfl, fun _ _ => rfl, fun x hx => h x (by simpa using hx)⟩

/-- Ending all memberships of a device concerns that device only. -/
theorem agreesOff_removeClientsOf : AgreesOff [id] inv (inv.removeClientsOf id).2 := by
  apply agreesOff_clients
  intro x hx
  rw [List.filter_filter]
  apply List.filter_congr
  intro c _
  rw [Bool.and_eq_left_iff_imp, beq_iff_eq, bne_iff_ne]
  intro hc
  rw [hc]
  exact hx

end Memberships

end Fleet.Inventory
