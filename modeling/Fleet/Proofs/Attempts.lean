/-
# Attempts at edits

Every operation edits the records as a whole or is refused: whatever the store does, an attempt
leaves the records after the edit, with some configurations made modified, or the records before.
So an edit that can be made after an attempt was made by the attempt.

Main statement: `Controller.Takes.before`.
-/
import Fleet.Proofs.Sound

namespace Fleet.Controller

open Outcomes

variable {outage : Outage} {c c₁ : Controller} {inv : Inventory} {α β : Type}

/-! ## Records that an attempt leaves -/

/-- The records are those given, with some configurations made modified. -/
def Holds (c : Controller) (inv : Inventory) : Prop :=
  ∃ ids, Inventory.Marks inv ids c.inventory

namespace Holds

theorem refl (c : Controller) : c.Holds c.inventory :=
  ⟨[], Inventory.Marks.refl _⟩

theorem of_eq (h : c.inventory = inv) : c.Holds inv :=
  h ▸ refl c

theorem commit (c : Controller) (inv : Inventory) (ids : List DeviceId) (left : List VpnClient) :
    (c.commit inv ids left).Holds inv :=
  of_eq (c.commit_inventory inv ids left)

theorem invalidate (h : c.Holds inv) (outage : Outage) (id : DeviceId) :
    (c.invalidate outage id).2.Holds inv := by
  rw [invalidate_snd]
  exact h

theorem invalidateMany (h : c.Holds inv) (outage : Outage) (ids : List DeviceId) :
    (c.invalidateMany outage ids).2.Holds inv := by
  rw [invalidateMany_snd]
  exact h

theorem forget (h : c.Holds inv) (outage : Outage) (id : DeviceId) :
    (c.forget outage id).2.Holds inv := by
  rw [forget_snd, invalidate_snd]
  exact h

theorem modify (h : c.Holds inv) (outage : Outage) (ids : List DeviceId) (reason : Reason) :
    (c.modify outage ids reason).2.Holds inv := by
  obtain ⟨earlier, hmarks⟩ := h
  obtain ⟨inv', notices, hmarks', hmodify⟩ := c.modify_snd outage ids reason
  rw [hmodify]
  exact ⟨earlier ++ ids, hmarks.trans hmarks'⟩

end Holds

/-- What an attempt at an edit leaves: the records before if the edit is refused, else those after
it. -/
def Takes (c c₁ : Controller) : Except Error Inventory → Prop
  | .error _ => c₁.inventory = c.inventory
  | .ok inv => c₁.Holds inv

/-- An edit that can be made after an attempt was made by the attempt. -/
theorem Takes.before {c' : Controller} (edit : Inventory → Except Error β) {records : β → Inventory}
    (h : Takes c c' ((edit c.inventory).map records)) (hc₁ : c₁ = c') {b : β}
    (hagain : edit c₁.inventory = .ok b) :
    ∃ a, edit c.inventory = .ok a ∧ c₁.Holds (records a) := by
  subst hc₁
  cases hedit : edit c.inventory with
  | error e =>
      -- The records are those before, so that the edit would be refused again.
      rw [hedit] at h
      have hsame : c₁.inventory = c.inventory := h
      rw [hsame, hedit] at hagain
      cases hagain
  | ok a =>
      rw [hedit] at h
      exact ⟨a, rfl, h⟩

/-- What an edit gives if it succeeds. -/
def committed (o : Except Error α × Inventory) : Except Error (α × Inventory) :=
  o.1.map fun a => (a, o.2)

/-- An edit that succeeds is committed. -/
theorem committed_eq_ok {o : Except Error α × Inventory} {a : α} :
    committed o = .ok (a, inv) ↔ o = (.ok a, inv) := by
  obtain ⟨_ | a, inv'⟩ := o
  · simp [committed, Except.map]
  · simp [committed, Except.map]

/-- The edit of a template list that is computed. -/
def relist (id : DeviceId)
    (compute : Catalog → Configuration → OrgId → Except Error (List TemplateId)) (inv : Inventory) :
    Except Error (TemplateChange × Inventory) := do
  let device ← inv.device id
  let configuration ← inv.configuration id
  let templates ← compute inv.templates configuration device.organization
  inv.setTemplates id templates

/-- A template list is edited when the device and its configuration exist and a list is computed. -/
theorem relist_eq_ok {id : DeviceId}
    {compute : Catalog → Configuration → OrgId → Except Error (List TemplateId)}
    {b : TemplateChange × Inventory} :
    relist id compute inv = .ok b ↔ ∃ d k ts, inv.devices.get? id = some d ∧
      inv.configurations.get? id = some k ∧
      compute inv.templates k d.organization = .ok ts ∧ inv.setTemplates id ts = .ok b := by
  unfold relist
  simp only [bind_eq_ok, Inventory.device_eq_ok, Inventory.configuration_eq_ok]
  constructor
  · rintro ⟨d, hd, k, hk, ts, hts, h⟩
    exact ⟨d, k, ts, hd, hk, hts, h⟩
  · rintro ⟨d, k, ts, hd, hk, hts, h⟩
    exact ⟨d, hd, k, hk, ts, hts, h⟩

/-! ## Operations -/

variable (c) (outage)

theorem addDevice_takes (d : Device) (k : Configuration) :
    Takes c (c.addDevice outage d k).2 ((c.inventory.insertDevice d k).map id) := by
  unfold addDevice
  cases c.inventory.insertDevice d k with
  | error e => rfl
  | ok inv => exact (Holds.commit c inv [d.id] []).invalidate outage d.id

theorem removeDevice_takes (hs : c.inventory.Sound) (id : DeviceId) :
    Takes c (c.removeDevice outage id).2
      ((committed (c.inventory.removeDevice id)).map Prod.snd) := by
  unfold removeDevice
  rcases h : c.inventory.removeDevice id with ⟨_ | removed, inv⟩
  · exact Inventory.removeDevice_eq_error (hs.configured id) h
  · exact (Holds.commit c inv [] removed.clients).forget outage id

theorem updateDevice_takes (d : Device) :
    Takes c (c.updateDevice outage d).2 ((c.inventory.replaceDevice d).map fun b => b.2.2) := by
  unfold updateDevice
  rcases c.inventory.replaceDevice d with _ | ⟨p, change, inv⟩
  · rfl
  · have hcommit := Holds.commit c inv [d.id] change.left
    dsimp only
    split
    · exact hcommit.modify outage _ _
    · exact hcommit

theorem addTemplate_takes (t : Template) :
    Takes c (c.addTemplate outage t).2 ((c.inventory.insertTemplate t).map Prod.snd) := by
  unfold addTemplate
  rcases c.inventory.insertTemplate t with _ | ⟨ids, inv⟩
  · rfl
  · exact (Holds.commit c inv ids []).modify outage _ _

theorem updateTemplate_takes (t : Template) :
    Takes c (c.updateTemplate outage t).2
      ((c.inventory.replaceTemplate t).map fun b => b.2.2) := by
  rcases h : c.inventory.replaceTemplate t with _ | ⟨p, ids, inv⟩
  · unfold updateTemplate
    rw [h]
    rfl
  · obtain ⟨first, hfirst, hlast⟩ := updateTemplate_of_ok c outage h
    have hholds : first.2.Holds inv := by
      rcases hfirst with rfl | ⟨told, reason, rfl⟩
      · exact Holds.commit c inv ids []
      · exact (Holds.commit c inv ids []).modify outage _ _
    rcases hlast with ⟨e, _, hlast⟩ | hlast
    · rw [hlast]
      exact hholds
    · rw [hlast]
      exact hholds.modify outage ids .templates

theorem changeTemplates_takes (id : DeviceId)
    (compute : Catalog → Configuration → OrgId → Except Error (List TemplateId)) :
    Takes c (c.changeTemplates outage id compute).2
      ((relist id compute c.inventory).map Prod.snd) := by
  rcases h : relist id compute c.inventory with _ | ⟨change, inv⟩
  · unfold relist at h
    unfold changeTemplates
    rw [h]
    rfl
  · unfold relist at h
    unfold changeTemplates
    rw [h]
    dsimp only
    split
    · exact (Holds.commit c inv [id] change.left).modify outage _ _
    · exact Holds.commit c inv [] change.left

theorem changeBackend_takes (id : DeviceId) (backend : Backend) :
    Takes c (c.changeBackend outage id backend).2
      ((c.inventory.setBackend id backend).map Prod.snd) := by
  unfold changeBackend
  rcases h : c.inventory.setBackend id backend with _ | ⟨change, inv⟩
  · rfl
  · dsimp only
    split
    · exact (Holds.commit c inv [id] change.left).modify outage _ _
    · -- Nothing is committed, and what the edit gave is what was there.
      rename_i hsame
      obtain ⟨_, _, _, _, ⟨_, rfl⟩ | ⟨hchanged, _⟩⟩ := Inventory.setBackend_eq_ok h
      · exact Holds.refl c
      · exact absurd hchanged hsame

theorem addServer_takes (s : VpnServer) :
    Takes c (c.addServer s).2 ((c.inventory.insertServer s).map id) := by
  unfold addServer
  cases c.inventory.insertServer s with
  | error e => rfl
  | ok inv => exact Holds.of_eq rfl

theorem updateServer_takes (s : VpnServer) :
    Takes c (c.updateServer outage s).2 ((c.inventory.replaceServer s).map Prod.snd) := by
  rcases h : c.inventory.replaceServer s with _ | ⟨p, inv⟩
  · unfold updateServer
    rw [h]
    rfl
  · obtain ⟨stored, hstored, hlast⟩ := updateServer_of_ok c outage h
    have hholds : stored.Holds inv := by
      rcases hstored with rfl | rfl <;> exact Holds.of_eq rfl
    rcases hlast with hlast | ⟨told, reason, hlast⟩
    · rw [hlast]
      exact hholds
    · rw [hlast]
      exact hholds.modify outage told reason

theorem attachClient_takes (settings : Settings) (client : VpnClient) :
    Takes c (c.attachClient settings outage client).2
      ((c.inventory.insertClient client settings.maxTunnelId).map Prod.snd) := by
  unfold attachClient
  rcases c.inventory.insertClient client settings.maxTunnelId with _ | ⟨stored, inv⟩
  · rfl
  · have hcommit := Holds.commit c inv [stored.device] []
    have hpublished : ({ c.commit inv [stored.device] [] with
        peerLists := (c.commit inv [stored.device] []).peerLists.attach stored }.publish
          (.peersChanged stored.server)).Holds inv := hcommit
    exact hpublished.modify outage _ _

theorem setGroup_takes (hs : c.inventory.Sound) (g : DeviceGroup) :
    Takes c (c.setGroup outage g).2
      ((committed (c.inventory.setGroup g)).map Prod.snd) := by
  unfold setGroup
  rcases h : c.inventory.setGroup g with ⟨_ | change, inv⟩
  · exact Inventory.setGroup_eq_error hs.devicesKeyed hs.configured h
  · have hcommit := Holds.commit c inv change.retemplated change.left
    dsimp only
    split
    · exact hcommit
    · have hdropped := hcommit.invalidateMany outage
        ((c.commit inv change.retemplated change.left).index.devicesForGroup g.id)
      generalize (c.commit inv change.retemplated change.left).invalidateMany outage
        ((c.commit inv change.retemplated change.left).index.devicesForGroup g.id) = dropped
        at hdropped ⊢
      obtain ⟨_ | n, c₁⟩ := dropped
      · exact hdropped
      · exact hdropped.modify outage _ _

end Fleet.Controller
