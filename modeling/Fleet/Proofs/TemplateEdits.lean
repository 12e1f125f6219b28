/-
# How templates and their lists are edited

For each edit of a template list, of the catalog and of a group: what it stores when it succeeds,
and which devices it concerns.

Main statements: `Inventory.setTemplates_eq_ok`, `Inventory.setBackend_eq_ok`,
`Inventory.insertTemplate_eq_ok`, `Inventory.replaceTemplate_eq_ok`, `Inventory.setGroup_eq_ok`.
-/
import Fleet.Proofs.Frame
import Fleet.Proofs.Lists

namespace Fleet.Inventory

open Outcomes

/-! ## Lists -/

/-- The inventory with another configuration for a device and with memberships of the
device ended. -/
structure Relists (inv : Inventory) (id : DeviceId) (k : Configuration) (inv' : Inventory) :
    Prop where
  /-- Nothing else is different. -/
  eq : inv' = { inv.putConfiguration id k with clients := inv'.clients }
  /-- No membership is new. -/
  sublist : inv'.clients.Sublist inv.clients
  /-- Other devices keep their memberships. -/
  clients : ∀ x, x ≠ id → inv'.clientsOf x = inv.clientsOf x

namespace Relists

variable {inv inv' : Inventory} {id : DeviceId} {k : Configuration}

/-- Storing a configuration only. -/
theorem putConfiguration (inv : Inventory) (id : DeviceId) (k : Configuration) :
    Relists inv id k (inv.putConfiguration id k) :=
  ⟨rfl, List.Sublist.refl _, fun _ _ => rfl⟩

/-- The devices stay. -/
theorem devices (h : Relists inv id k inv') : inv'.devices = inv.devices := by
  rw [h.eq]
  rfl

/-- The configuration is found. -/
theorem get?_self (h : Relists inv id k inv') : inv'.configurations.get? id = some k := by
  rw [h.eq]
  exact putConfiguration_get?_self

/-- Other configurations stay. -/
theorem get?_ne (h : Relists inv id k inv') {x : DeviceId} (hx : x ≠ id) :
    inv'.configurations.get? x = inv.configurations.get? x := by
  rw [h.eq]
  exact SortedMap.get?_insert_ne (Ne.symm hx) _ _

/-- What devices share stays. -/
theorem shares (h : Relists inv id k inv') : SharesWith inv inv' := by
  rw [h.eq]
  exact ⟨rfl, rfl, rfl, rfl⟩

/-- Only one device is concerned. -/
theorem agreesOff (h : Relists inv id k inv') : AgreesOff [id] inv inv' := by
  refine ⟨fun x _ => by rw [h.devices], fun x hx => h.get?_ne ?_, fun x hx => h.clients x ?_⟩
  · simpa using hx
  · simpa using hx

end Relists

/-- A template list is replaced, or is the same already and nothing happens. -/
theorem setTemplates_eq_ok {inv inv' : Inventory} {id : DeviceId} {ts : List TemplateId}
    {change : TemplateChange} (h : inv.setTemplates id ts = .ok (change, inv')) :
    ∃ k, inv.configurations.get? id = some k ∧ Relists inv id { k with templates := ts } inv' ∧
      (change.changed = false → inv' = inv ∧ change.left = []) := by
  unfold setTemplates at h
  rw [bind_eq_ok] at h
  obtain ⟨k, hk, h⟩ := h
  rw [configuration_eq_ok] at hk
  refine ⟨k, hk, ?_⟩
  split at h
  · rename_i hsame
    cases h
    refine ⟨?_, fun _ => ⟨rfl, rfl⟩⟩
    have hself : inv.putConfiguration id { k with templates := ts } = inv := by
      rw [← hsame]
      exact putConfiguration_eq_self hk
    have hput := Relists.putConfiguration inv id { k with templates := ts }
    rwa [hself] at hput
  · cases h
    obtain ⟨cs, hcs, hsub, hoff⟩ := removeClients_snd
      (inv.putConfiguration id { k with templates := ts }) id
      ((inv.serversOf k.templates).filter fun s => !(inv.serversOf ts).contains s)
    refine ⟨?_, fun hc => by cases hc⟩
    rw [hcs]
    exact ⟨rfl, hsub, hoff⟩

/-- A list can be replaced where there is a configuration. -/
theorem exists_setTemplates_eq_ok {inv : Inventory} {id : DeviceId} {k : Configuration}
    (h : inv.configurations.get? id = some k) (ts : List TemplateId) :
    ∃ change inv', inv.setTemplates id ts = .ok (change, inv') := by
  unfold setTemplates
  rw [configuration_eq_ok.mpr h]
  by_cases hsame : k.templates = ts
  · exact ⟨.unchanged, inv, by simp [hsame, bind, Except.bind, pure, Except.pure]⟩
  · simp [hsame, bind, Except.bind, pure, Except.pure]

/-- The list of a configuration that moves to another backend. -/
def movedTemplates (inv : Inventory) (id : DeviceId) (d : Device) (k : Configuration)
    (backend : Backend) : List TemplateId :=
  inv.templates.rescope { Configuration.blank id backend with
    templates := inv.templates.rebackend k d.organization backend } d.organization []
    (inv.groupTemplates d.group)

/-- A configuration moves to another backend, or is there already and nothing happens. -/
theorem setBackend_eq_ok {inv inv' : Inventory} {id : DeviceId} {backend : Backend}
    {change : TemplateChange} (h : inv.setBackend id backend = .ok (change, inv')) :
    ∃ d k, inv.devices.get? id = some d ∧ inv.configurations.get? id = some k ∧
      ((change.changed = false ∧ inv' = inv) ∨
        (change.changed = true ∧ k.backend ≠ backend ∧
          Relists inv id
            { k with backend, templates := inv.movedTemplates id d k backend } inv')) := by
  unfold setBackend at h
  simp only [bind_eq_ok, device_eq_ok, configuration_eq_ok] at h
  obtain ⟨d, hd, k, hk, h⟩ := h
  refine ⟨d, k, hd, hk, ?_⟩
  split at h
  · cases h
    exact Or.inl ⟨rfl, rfl⟩
  · rename_i hne
    rw [bind_eq_ok] at h
    obtain ⟨⟨applied, inv₁⟩, hset, h⟩ := h
    cases h
    obtain ⟨k', hk', hr, _⟩ := setTemplates_eq_ok hset
    rw [putConfiguration_get?_self, Option.some.injEq] at hk'
    subst hk'
    refine Or.inr ⟨rfl, hne, ⟨?_, hr.sublist, hr.clients⟩⟩
    have heq := hr.eq
    rw [putConfiguration_putConfiguration] at heq
    exact heq

/-! ## Required templates -/

/-- What is known of a configuration that lacks a required template. -/
theorem lacksRequired_eq_some {inv : Inventory} {t : Template} {id : TemplateId} {x : DeviceId}
    {k : Configuration} {organization : OrgId} :
    inv.lacksRequired t id x k = some organization ↔
      ∃ d, inv.devices.get? x = some d ∧ k.status.isDeactivation = false ∧ id ∉ k.templates ∧
        t.isRequiredFor k.backend d.organization = true ∧ d.organization = organization := by
  unfold lacksRequired Configuration.hasTemplate
  cases inv.devices.get? x with
  | none => simp
  | some d => simp [and_assoc]

/-- What attaching a required template to some configurations does: `ids` are the devices that get
it. -/
structure Attaches (inv : Inventory) (t : Template) (id : TemplateId)
    (entries : List (DeviceId × Configuration)) (ids : List DeviceId) (inv' : Inventory) :
    Prop where
  /-- Nothing but configurations is different. -/
  eq : inv' = { inv with configurations := inv'.configurations }
  /-- The configurations that get the template lacked it, and are completed. -/
  attached : ∀ x ∈ ids, ∃ k o, (x, k) ∈ entries ∧ inv.lacksRequired t id x k = some o ∧
    inv'.configurations.get? x = some { k with templates := inv.templates.withRequired k o }
  /-- The others stay. -/
  kept : ∀ x ∉ ids, inv'.configurations.get? x = inv.configurations.get? x
  /-- The others do not lack it. -/
  present : ∀ x ∉ ids, ∀ k, (x, k) ∈ entries → inv.lacksRequired t id x k = none

namespace Attaches

variable {inv inv' : Inventory} {t : Template} {id : TemplateId} {device : DeviceId}
  {c : Configuration} {rest : List (DeviceId × Configuration)} {ids : List DeviceId}

/-- Without configurations nothing happens. -/
theorem nil (inv : Inventory) (t : Template) (id : TemplateId) : Attaches inv t id [] [] inv := by
  refine ⟨rfl, ?_, fun _ _ => rfl, ?_⟩
  · intro x hx
    cases hx
  · intro x _ k hk
    cases hk

/-- A configuration that does not lack the template is passed over. -/
theorem skip (h : Attaches inv t id rest ids inv') (hl : inv.lacksRequired t id device c = none) :
    Attaches inv t id ((device, c) :: rest) ids inv' := by
  refine ⟨h.eq, ?_, h.kept, ?_⟩
  · intro x hx
    obtain ⟨k, o, hk, hlk, hget⟩ := h.attached x hx
    exact ⟨k, o, List.mem_cons_of_mem _ hk, hlk, hget⟩
  · intro x hx k hk
    rcases List.mem_cons.mp hk with hk | hk
    · cases hk
      exact hl
    · exact h.present x hx k hk

/-- A configuration that lacks the template is completed before the others. -/
theorem cons {o : OrgId} (hl : inv.lacksRequired t id device c = some o)
    (hne : ∀ x k, (x, k) ∈ rest → x ≠ device)
    (h : Attaches (inv.putConfiguration device { c with
      templates := inv.templates.withRequired c o }) t id rest ids inv') :
    Attaches inv t id ((device, c) :: rest) (device :: ids) inv' := by
  refine ⟨h.eq, ?_, ?_, ?_⟩
  · intro x hx
    rcases List.mem_cons.mp hx with rfl | hx
    · have hxin : x ∉ ids := by
        intro hxin
        obtain ⟨k, _, hk, _⟩ := h.attached x hxin
        exact hne x k hk rfl
      refine ⟨c, o, List.mem_cons_self, hl, ?_⟩
      rw [h.kept x hxin]
      exact putConfiguration_get?_self
    · obtain ⟨k, o', hk, hlk, hget⟩ := h.attached x hx
      exact ⟨k, o', List.mem_cons_of_mem _ hk, hlk, hget⟩
  · intro x hx
    rw [List.mem_cons, not_or] at hx
    rw [h.kept x hx.2]
    exact (agreesOff_putConfiguration _).configuration x (by simpa using hx.1)
  · intro x hx k hk
    rw [List.mem_cons, not_or] at hx
    rcases List.mem_cons.mp hk with hk | hk
    · cases hk
      exact absurd rfl hx.1
    · exact h.present x hx.2 k hk

end Attaches

/-- Attaching a required template to some configurations, each listed once with what is stored for
it. -/
theorem attachRequiredTo_spec (t : Template) (id : TemplateId) :
    ∀ (entries : List (DeviceId × Configuration)) (inv : Inventory),
      (entries.map Prod.fst).Nodup →
      (∀ e ∈ entries, inv.configurations.get? e.1 = some e.2) →
      Attaches inv t id entries (attachRequiredTo t id inv entries).1
        (attachRequiredTo t id inv entries).2 := by
  intro entries
  induction entries with
  | nil => exact fun inv _ _ => Attaches.nil inv t id
  | cons e rest ih =>
      obtain ⟨device, c⟩ := e
      intro inv hnd hstored
      obtain ⟨hfresh, hnd⟩ := List.nodup_cons.mp hnd
      have hrest : ∀ e ∈ rest, inv.configurations.get? e.1 = some e.2 :=
        fun e he => hstored e (List.mem_cons_of_mem _ he)
      -- A device later in the list is another one.
      have hne : ∀ x k, (x, k) ∈ rest → x ≠ device := by
        rintro x k hx rfl
        exact hfresh (List.mem_map.mpr ⟨(x, k), hx, rfl⟩)
      cases hl : inv.lacksRequired t id device c with
      | none =>
          rw [attachRequiredTo, hl]
          exact (ih inv hnd hrest).skip hl
      | some o =>
          have hput : ∀ e ∈ rest, (inv.putConfiguration device
              { c with templates := inv.templates.withRequired c o }).configurations.get? e.1 =
                some e.2 := by
            intro e he
            have hx : e.1 ∉ [device] := by simpa using hne e.1 e.2 he
            rw [(agreesOff_putConfiguration _).configuration e.1 hx]
            exact hrest e he
          rw [attachRequiredTo, hl]
          exact Attaches.cons hl hne (ih _ hnd hput)

/-- What attaching a required template wherever it applies does: `ids` are the
devices that get it. -/
structure Requires (inv : Inventory) (t : Template) (ids : List DeviceId) (inv' : Inventory) :
    Prop where
  /-- Nothing but configurations is different. -/
  eq : inv' = { inv with configurations := inv'.configurations }
  /-- The configurations that get the template lacked it, and are completed. -/
  attached : ∀ x ∈ ids, ∃ d k, inv.devices.get? x = some d ∧ inv.configurations.get? x = some k ∧
    k.status.isDeactivation = false ∧ t.id ∉ k.templates ∧
    t.isRequiredFor k.backend d.organization = true ∧
    inv'.configurations.get? x =
      some { k with templates := inv.templates.withRequired k d.organization }
  /-- The others stay. -/
  kept : ∀ x ∉ ids, inv'.configurations.get? x = inv.configurations.get? x
  /-- The others have it, or do not need it, or are deactivated. -/
  present : ∀ x ∉ ids, ∀ d k, inv.devices.get? x = some d → inv.configurations.get? x = some k →
    k.status.isDeactivation = false → t.isRequiredFor k.backend d.organization = true →
    t.id ∈ k.templates

/-- Attaching a required template wherever it applies. -/
theorem attachRequired_spec (inv : Inventory) (t : Template)
    (ht : inv.templates.get? t.id = some t) :
    Requires inv t (inv.attachRequired t.id).1 (inv.attachRequired t.id).2 := by
  unfold attachRequired
  rw [ht]
  dsimp only
  by_cases hr : t.required = true
  · rw [if_pos hr]
    have hspec := attachRequiredTo_spec t t.id inv.configurations.entries inv
      inv.configurations.keys_nodup fun e he => SortedMap.get?_eq_some_iff.mpr he
    refine ⟨hspec.eq, ?_, hspec.kept, ?_⟩
    · intro x hx
      obtain ⟨k, o, hk, hl, hget⟩ := hspec.attached x hx
      obtain ⟨d, hd, hs, hm, hreq, rfl⟩ := lacksRequired_eq_some.mp hl
      exact ⟨d, k, hd, SortedMap.get?_eq_some_iff.mpr hk, hs, hm, hreq, hget⟩
    · intro x hx d k hd hk hs hreq
      by_cases hm : t.id ∈ k.templates
      · exact hm
      · have hl := hspec.present x hx k (SortedMap.get?_eq_some_iff.mp hk)
        rw [lacksRequired_eq_some.mpr ⟨d, hd, hs, hm, hreq, rfl⟩] at hl
        cases hl
  · rw [if_neg hr]
    refine ⟨rfl, ?_, fun _ _ => rfl, ?_⟩
    · intro x hx
      cases hx
    · intro x _ d k _ _ _ hreq
      exact absurd (Template.isRequiredFor_iff.mp hreq).1 hr

namespace Requires

variable {inv inv' : Inventory} {t : Template} {ids : List DeviceId}

/-- Only the devices that get the template are concerned. -/
theorem agreesOff (h : Requires inv t ids inv') : AgreesOff ids inv inv' := by
  refine ⟨fun x _ => ?_, h.kept, fun x _ => ?_⟩
  · rw [h.eq]
  · rw [h.eq]
    rfl

/-- Memberships stay. -/
theorem clients (h : Requires inv t ids inv') : inv'.clients = inv.clients := by
  rw [h.eq]

/-- What devices share stays. -/
theorem shares (h : Requires inv t ids inv') : SharesWith inv inv' := by
  rw [h.eq]
  exact ⟨rfl, rfl, rfl, rfl⟩

end Requires

/-- Putting a template in order changes nothing but its server and whether it is a default. -/
theorem exists_eq_of_normalize {t u : Template} (h : t.normalize = .ok u) :
    ∃ vpn, u = { t with default := t.default || t.required, vpn } := by
  unfold Template.normalize at h
  simp only [Except.bind] at h
  split at h
  · cases h
  · rename_i linked hl
    split at h
    · cases h
      split at hl <;> cases hl <;> exact ⟨_, rfl⟩
    · cases h

/-- Putting a template in order keeps its identifier and its owner. -/
theorem normalize_eq_ok {t u : Template} (h : t.normalize = .ok u) :
    u.id = t.id ∧ u.organization = t.organization := by
  obtain ⟨_, rfl⟩ := exists_eq_of_normalize h
  exact ⟨rfl, rfl⟩

/-- The inventory with a template stored, and with so many templates created. -/
def putTemplate (inv : Inventory) (t : Template) (sequence : Nat) : Inventory :=
  { inv with templates := inv.templates.insert t.id t, templateSequence := sequence }

/-- A template is added under a new identifier. -/
theorem insertTemplate_eq_ok {inv inv' : Inventory} {t : Template} {ids : List DeviceId}
    (h : inv.insertTemplate t = .ok (ids, inv')) :
    ∃ u, t.normalize = .ok u ∧ inv.templates.get? u.id = none ∧ inv.checkTemplate u = .ok () ∧
      Requires (inv.putTemplate { u with created := inv.templateSequence + 1 }
        (inv.templateSequence + 1)) { u with created := inv.templateSequence + 1 } ids inv' := by
  unfold insertTemplate at h
  rw [bind_eq_ok] at h
  obtain ⟨u, hu, h⟩ := h
  rw [ite_error_eq_ok, Bool.not_eq_true, SortedMap.contains_eq_false, seq_eq_ok, pure_eq_ok] at h
  obtain ⟨hnew, hcheck, h⟩ := h
  have hspec := attachRequired_spec (inv.putTemplate { u with created := inv.templateSequence + 1 }
    (inv.templateSequence + 1)) { u with created := inv.templateSequence + 1 }
    (SortedMap.get?_insert_self _ _ _)
  unfold putTemplate at hspec
  dsimp only at hspec
  rw [h] at hspec
  exact ⟨u, hu, hnew, hcheck, hspec⟩

/-- A template is replaced by one with the same creation number. -/
theorem replaceTemplate_eq_ok {inv inv' : Inventory} {t previous : Template} {ids : List DeviceId}
    (h : inv.replaceTemplate t = .ok (previous, ids, inv')) :
    ∃ u, t.normalize = .ok u ∧ inv.templates.get? u.id = some previous ∧
      inv.checkTemplate u = .ok () ∧
      (previous.backend ≠ u.backend →
        ∀ x k, inv.configurations.get? x = some k → u.id ∉ k.templates) ∧
      Requires (inv.putTemplate { u with created := previous.created } inv.templateSequence)
        { u with created := previous.created } ids inv' := by
  unfold replaceTemplate at h
  rw [bind_eq_ok] at h
  obtain ⟨u, hu, h⟩ := h
  rw [bind_eq_ok] at h
  obtain ⟨p, hp, h⟩ := h
  rw [template_eq_ok] at hp
  rw [seq_eq_ok, ite_error_eq_ok, pure_eq_ok] at h
  obtain ⟨hcheck, huse, h⟩ := h
  injection h with hprev h
  subst hprev
  refine ⟨u, hu, hp, hcheck, ?_, ?_⟩
  · intro hb x k hk hm
    apply huse
    refine ⟨hb, List.any_eq_true.mpr ⟨k, SortedMap.mem_values.mpr ⟨x, hk⟩, ?_⟩⟩
    simpa [Configuration.hasTemplate] using hm
  · have hspec := attachRequired_spec (inv.putTemplate { u with created := p.created }
      inv.templateSequence) { u with created := p.created } (SortedMap.get?_insert_self _ _ _)
    unfold putTemplate at hspec
    dsimp only at hspec
    rw [h] at hspec
    exact hspec

/-! ## Groups -/

/-- What swapping group templates in the lists of members does: `ids` are the devices whose list is
another one then. -/
structure Swaps (inv : Inventory) (old new : List TemplateId) (members ids : List DeviceId)
    (inv' : Inventory) : Prop where
  /-- Nothing but configurations and memberships is different. -/
  eq : inv' = { inv with configurations := inv'.configurations, clients := inv'.clients }
  /-- No membership is new. -/
  sublist : inv'.clients.Sublist inv.clients
  /-- Only devices with another list are concerned. -/
  agreesOff : AgreesOff ids inv inv'
  /-- They are members. -/
  subset : ∀ x ∈ ids, x ∈ members
  /-- The list of every member that is not deactivated is moved. -/
  swapped : ∀ x ∈ members, ∀ d k, inv.devices.get? x = some d → inv.configurations.get? x = some k →
    inv'.configurations.get? x = some (if k.status.isDeactivation then k
      else { k with templates := inv.templates.rescope k d.organization old new })

namespace Swaps

variable {inv inv' : Inventory} {old new : List TemplateId} {members ids : List DeviceId}

/-- The devices stay. -/
theorem devices (h : Swaps inv old new members ids inv') : inv'.devices = inv.devices := by
  rw [h.eq]

/-- What devices share stays. -/
theorem shares (h : Swaps inv old new members ids inv') : SharesWith inv inv' := by
  rw [h.eq]
  exact ⟨rfl, rfl, rfl, rfl⟩

/-- Without members nothing happens. -/
theorem nil (inv : Inventory) (old new : List TemplateId) : Swaps inv old new [] [] inv := by
  refine ⟨rfl, List.Sublist.refl _, AgreesOff.refl _ _, ?_, ?_⟩
  · intro x hx
    exact hx
  · intro x hx
    cases hx

/-- A member that is deactivated is passed over. -/
theorem skip {id : DeviceId} {k : Configuration} (h : Swaps inv old new members ids inv')
    (hfresh : id ∉ members) (hk : inv.configurations.get? id = some k)
    (hs : k.status.isDeactivation = true) : Swaps inv old new (id :: members) ids inv' := by
  refine ⟨h.eq, h.sublist, h.agreesOff, ?_, ?_⟩
  · intro x hx
    exact List.mem_cons_of_mem id (h.subset x hx)
  · intro x hx d' k' hd' hk'
    rcases List.mem_cons.mp hx with rfl | hx
    · rw [hk, Option.some.injEq] at hk'
      subst hk'
      rw [if_pos hs, h.agreesOff.configuration x fun hm => hfresh (h.subset x hm), hk]
    · exact h.swapped x hx d' k' hd' hk'

/-- The list of a member in use is moved before those of the others. -/
theorem cons {inv₁ : Inventory} {id : DeviceId} {d : Device} {k : Configuration} {changed : Bool}
    (hd : inv.devices.get? id = some d) (hk : inv.configurations.get? id = some k)
    (hs : ¬ k.status.isDeactivation = true)
    (hr : Relists inv id
      { k with templates := inv.templates.rescope k d.organization old new } inv₁)
    (hsame : changed = false → inv₁ = inv) (hfresh : id ∉ members)
    (h : Swaps inv₁ old new members ids inv') :
    Swaps inv old new (id :: members) ((if changed then [id] else []) ++ ids) inv' := by
  refine ⟨?_, h.sublist.trans hr.sublist, ?_, ?_, ?_⟩
  · rw [h.eq, hr.eq]
    rfl
  · have hfirst : AgreesOff (if changed then [id] else []) inv inv₁ := by
      cases hc : changed with
      | true => exact hr.agreesOff
      | false =>
          rw [hsame hc]
          exact AgreesOff.refl _ _
    exact (hfirst.mono fun x hx => List.mem_append_left _ hx).trans
      (h.agreesOff.mono fun x hx => List.mem_append_right _ hx)
  · intro x hx
    rcases List.mem_append.mp hx with hx | hx
    · cases changed with
      | true => exact List.mem_cons.mpr (Or.inl (List.mem_singleton.mp hx))
      | false => cases hx
    · exact List.mem_cons_of_mem id (h.subset x hx)
  · intro x hx d' k' hd' hk'
    rcases List.mem_cons.mp hx with rfl | hx
    · rw [hk, Option.some.injEq] at hk'
      rw [hd, Option.some.injEq] at hd'
      subst hk' hd'
      rw [if_neg hs, h.agreesOff.configuration x fun hm => hfresh (h.subset x hm)]
      exact hr.get?_self
    · -- The list of a later member is computed from the catalog before, which is still the same.
      have hne : x ≠ id := fun heq => hfresh (heq ▸ hx)
      rw [← hr.devices] at hd'
      rw [← hr.get?_ne hne] at hk'
      rw [← hr.shares.templates]
      exact h.swapped x hx d' k' hd' hk'

end Swaps

/-- Swapping group templates in the lists of members, each named once. -/
theorem swapGroupTemplates_spec (old new : List TemplateId) :
    ∀ (members : List DeviceId) (inv inv' : Inventory) (change change' : GroupChange),
      members.Nodup →
      swapGroupTemplates old new change inv members = (.ok change', inv') →
      change'.previous = change.previous ∧
        ∃ ids, change'.retemplated = change.retemplated ++ ids ∧
          Swaps inv old new members ids inv' := by
  intro members
  induction members with
  | nil =>
      intro inv inv' change change' _ h
      cases h
      exact ⟨rfl, [], (List.append_nil _).symm, Swaps.nil inv old new⟩
  | cons id rest ih =>
      intro inv inv' change change' hnd h
      obtain ⟨hfresh, hnd⟩ := List.nodup_cons.mp hnd
      rw [swapGroupTemplates] at h
      split at h
      · cases h
      · cases h
      · rename_i d k hd hk
        rw [device_eq_ok] at hd
        rw [configuration_eq_ok] at hk
        by_cases hs : k.status.isDeactivation = true
        · rw [if_pos hs] at h
          obtain ⟨hprev, ids, hids, hsw⟩ := ih inv inv' change change' hnd h
          exact ⟨hprev, ids, hids, hsw.skip hfresh hk hs⟩
        · rw [if_neg hs] at h
          obtain ⟨applied, inv₁, hset⟩ := exists_setTemplates_eq_ok hk
            (inv.templates.rescope k d.organization old new)
          dsimp only at h
          rw [hset] at h
          obtain ⟨hprev, ids, hids, hsw⟩ := ih inv₁ inv' _ change' hnd h
          obtain ⟨k₁, hk₁, hr, hsame⟩ := setTemplates_eq_ok hset
          rw [hk, Option.some.injEq] at hk₁
          subst hk₁
          refine ⟨hprev, (if applied.changed then [id] else []) ++ ids, ?_, ?_⟩
          · rw [hids, List.append_assoc]
          · exact Swaps.cons hd hk hs hr (fun hc => (hsame hc).1) hfresh hsw

/-- Swapping group templates succeeds where every member has a configuration. -/
theorem exists_swapGroupTemplates_ok (old new : List TemplateId) :
    ∀ (members : List DeviceId) (inv : Inventory) (change : GroupChange),
      (∀ x ∈ members,
        (∃ d, inv.devices.get? x = some d) ∧ ∃ k, inv.configurations.get? x = some k) →
      ∃ change' inv', swapGroupTemplates old new change inv members = (.ok change', inv') := by
  intro members
  induction members with
  | nil =>
      intro inv change _
      exact ⟨change, inv, rfl⟩
  | cons id rest ih =>
      intro inv change hall
      obtain ⟨⟨d, hd⟩, k, hk⟩ := hall id List.mem_cons_self
      have hrest := fun x hx => hall x (List.mem_cons_of_mem id hx)
      rw [swapGroupTemplates, device_eq_ok.mpr hd, configuration_eq_ok.mpr hk]
      dsimp only
      split
      · exact ih inv change hrest
      · obtain ⟨applied, inv₁, hset⟩ := exists_setTemplates_eq_ok hk
          (inv.templates.rescope k d.organization old new)
        obtain ⟨_, _, hr, _⟩ := setTemplates_eq_ok hset
        rw [hset]
        apply ih
        intro x hx
        rw [hr.devices]
        refine ⟨(hrest x hx).1, ?_⟩
        by_cases hne : x = id
        · rw [hne]
          exact ⟨_, hr.get?_self⟩
        · rw [hr.get?_ne hne]
          exact (hrest x hx).2

/-- The active members of a group. -/
def membersOf (inv : Inventory) (group : GroupId) : List DeviceId :=
  (inv.devices.values.filter fun d => d.active && d.group == some group).map Device.id

/-- Every device is stored under its own identifier. -/
def DevicesKeyed (inv : Inventory) : Prop :=
  ∀ id d, inv.devices.get? id = some d → d.id = id

namespace DevicesKeyed

variable {inv : Inventory} (hkeyed : inv.DevicesKeyed)

include hkeyed

/-- The identifiers of the devices are the keys. -/
theorem map_id_values : inv.devices.values.map Device.id = inv.devices.keys := by
  unfold SortedMap.values SortedMap.keys
  rw [List.map_map]
  apply List.map_congr_left
  intro e he
  exact hkeyed e.1 e.2 (SortedMap.get?_eq_some_iff.mpr he)

/-- Each member is named once. -/
theorem nodup_membersOf (group : GroupId) : (inv.membersOf group).Nodup := by
  have hsub : (inv.membersOf group).Sublist (inv.devices.values.map Device.id) :=
    List.Sublist.map _ List.filter_sublist
  rw [hkeyed.map_id_values] at hsub
  exact inv.devices.keys_nodup.sublist hsub

/-- The members are the active devices that name the group. -/
theorem mem_membersOf {group : GroupId} {x : DeviceId} :
    x ∈ inv.membersOf group ↔
      ∃ d, inv.devices.get? x = some d ∧ d.active = true ∧ d.group = some group := by
  unfold membersOf
  simp only [List.mem_map, List.mem_filter, SortedMap.mem_values, Bool.and_eq_true, beq_iff_eq]
  constructor
  · rintro ⟨d, ⟨⟨i, hi⟩, ha, hg⟩, rfl⟩
    refine ⟨d, ?_, ha, hg⟩
    rw [hkeyed i d hi]
    exact hi
  · rintro ⟨d, hd, ha, hg⟩
    exact ⟨d, ⟨⟨x, hd⟩, ha, hg⟩, hkeyed x d hd⟩

end DevicesKeyed

/-- The templates that a group had. -/
theorem previous_templates (inv : Inventory) (group : GroupId) :
    ((inv.groups.get? group).map DeviceGroup.templates).getD [] = inv.groupTemplates (some group) :=
  rfl

/-- Storing a group that is stored already changes nothing. -/
theorem setGroup_same {inv inv' : Inventory} {group : DeviceGroup} {change : GroupChange}
    (hsame : inv.groups.get? group.id = some group) (h : inv.setGroup group = (.ok change, inv')) :
    inv' = inv ∧ change = ⟨some group, [], []⟩ := by
  unfold setGroup at h
  split at h
  · cases h
  · dsimp only at h
    rw [hsame, if_pos (by rfl), SortedMap.insert_eq_self hsame] at h
    cases h
    exact ⟨rfl, rfl⟩

/-- A group is stored; its active members swap its old templates for the new ones. -/
theorem setGroup_eq_ok {inv inv' : Inventory} (hkeyed : inv.DevicesKeyed) {group : DeviceGroup}
    {change : GroupChange} (h : inv.setGroup group = (.ok change, inv')) :
    change.previous = inv.groups.get? group.id ∧
      inv.checkGroupTemplates group group.templates = .ok () ∧
      ((inv.groupTemplates (some group.id) = group.templates ∧ change.retemplated = [] ∧
          change.left = [] ∧ inv' = { inv with groups := inv.groups.insert group.id group }) ∨
        (inv.groupTemplates (some group.id) ≠ group.templates ∧
          Swaps { inv with groups := inv.groups.insert group.id group }
            (inv.groupTemplates (some group.id)) group.templates (inv.membersOf group.id)
            change.retemplated inv')) := by
  unfold setGroup at h
  split at h
  · cases h
  · rename_i hcheck
    dsimp only at h
    rw [previous_templates] at h
    split at h
    · rename_i hsame
      cases h
      exact ⟨rfl, hcheck, Or.inl ⟨hsame, rfl, rfl, rfl⟩⟩
    · rename_i hne
      obtain ⟨hprev, ids, hids, hsw⟩ := swapGroupTemplates_spec _ _ _ _ _ _ _
        (hkeyed.nodup_membersOf group.id) h
      rw [List.nil_append] at hids
      subst hids
      exact ⟨hprev, hcheck, Or.inr ⟨hne, hsw⟩⟩

/-- A group that is refused changes nothing. -/
theorem setGroup_eq_error {inv inv' : Inventory} (hkeyed : inv.DevicesKeyed)
    (hpaired : ∀ id d, inv.devices.get? id = some d → ∃ k, inv.configurations.get? id = some k)
    {group : DeviceGroup} {e : Error} (h : inv.setGroup group = (.error e, inv')) : inv' = inv := by
  unfold setGroup at h
  split at h
  · cases h
    rfl
  · dsimp only at h
    split at h
    · cases h
    · obtain ⟨change', inv₂, hok⟩ := exists_swapGroupTemplates_ok
        (((inv.groups.get? group.id).map DeviceGroup.templates).getD []) group.templates
        (inv.membersOf group.id) { inv with groups := inv.groups.insert group.id group }
        ⟨inv.groups.get? group.id, [], []⟩ (by
          intro x hx
          obtain ⟨d, hd, _⟩ := hkeyed.mem_membersOf.mp hx
          exact ⟨⟨d, hd⟩, hpaired x d hd⟩)
      unfold membersOf at hok
      rw [hok] at h
      cases h

end Fleet.Inventory
