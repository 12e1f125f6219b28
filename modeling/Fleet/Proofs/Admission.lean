/-
# Which templates are admitted

A template is stored only if its name is free in its scope and the server that it refers to exists.
A new one gets the next number, and one that is replaced keeps its number, and on a list its
backend.  So templates stay told apart by name and scope and by number.

Main statements: `Inventory.exists_admits_of_insertTemplate`,
`Inventory.exists_admits_of_replaceTemplate`, `Controller.Makes.templatesOrderly`.
-/
import Fleet.Proofs.Backends
import Fleet.Proofs.Sound

namespace Fleet

open Outcomes

/-! ## Templates that are told apart -/

namespace Catalog

variable {β : Type} {c : Catalog} {view : Template → β}

/-- Different templates never look the same. -/
def Separates (c : Catalog) (view : Template → β) : Prop :=
  ∀ t u T U, c.get? t = some T → c.get? u = some U → view T = view U → t = u

/-- A template that looks like no other one may be stored. -/
theorem Separates.insert (h : c.Separates view) {T : Template}
    (hT : ∀ u U, c.get? u = some U → view U = view T → u = T.id) :
    Separates (SortedMap.insert c T.id T) view := by
  intro t u A B hA hB hAB
  rw [SortedMap.get?_insert] at hA hB
  by_cases ht : T.id = t
  · rw [if_pos ht, Option.some.injEq] at hA
    subst hA
    by_cases hu : T.id = u
    · exact ht.symm.trans hu
    · rw [if_neg hu] at hB
      exact absurd (hT u B hB hAB.symm).symm hu
  · rw [if_neg ht] at hA
    by_cases hu : T.id = u
    · rw [if_pos hu, Option.some.injEq] at hB
      subst hB
      exact absurd (hT t A hA hAB).symm ht
    · rw [if_neg hu] at hB
      exact h t u A B hA hB hAB

end Catalog

namespace Inventory

/-- Templates differ in name or scope and in their number, VPN templates name servers that exist,
and no number is above those given so far. -/
structure TemplatesOrderly (inv : Inventory) : Prop where
  /-- Every VPN template refers to a server. -/
  linked : ∀ t T, inv.templates.get? t = some T → T.kind = .vpn →
    ∃ s S, T.vpn = some s ∧ inv.servers.get? s = some S
  /-- No two templates share name and scope. -/
  names : inv.templates.Separates fun T => (T.name, T.organization)
  /-- No two templates share their number. -/
  numbers : inv.templates.Separates Template.created
  /-- The numbers were given. -/
  counted : ∀ t T, inv.templates.get? t = some T → T.created ≤ inv.templateSequence

/-- Every list names templates of the backend of its configuration, each once. -/
def ListsFit (inv : Inventory) : Prop :=
  ∀ x k, inv.configurations.get? x = some k →
    inv.templates.Fits k.backend k.templates ∧ k.templates.Nodup

/-- An inventory that got a template which it may store: under a new identifier or in the place of
an earlier version. -/
structure Admits (inv : Inventory) (T : Template) (inv' : Inventory) : Prop where
  /-- The template is stored. -/
  templates : inv'.templates = inv.templates.insert T.id T
  /-- The servers stay. -/
  servers : inv'.servers = inv.servers
  /-- No number is taken back. -/
  sequence : inv.templateSequence ≤ inv'.templateSequence
  /-- A VPN template refers to a server. -/
  linked : T.kind = .vpn → ∃ s S, T.vpn = some s ∧ inv.servers.get? s = some S
  /-- No other template has the name in that scope. -/
  name : ∀ u U, inv.templates.get? u = some U →
    (U.name, U.organization) = (T.name, T.organization) → u = T.id
  /-- No other template has the number. -/
  number : ∀ u U, inv.templates.get? u = some U → U.created = T.created → u = T.id
  /-- The number was given. -/
  counted : T.created ≤ inv'.templateSequence
  /-- Lists that name the template are of its backend. -/
  backend : ∀ x k, inv.configurations.get? x = some k → T.id ∈ k.templates → T.backend = k.backend

variable {inv inv' : Inventory} {T u : Template}

/-- A name passes the check when no other template has it in the same scope. -/
theorem checkUniqueName_eq_ok {existing : List Template} :
    checkUniqueName existing T = .ok () ↔
      ∀ U ∈ existing, (U.name, U.organization) = (T.name, T.organization) → U.id = T.id := by
  unfold checkUniqueName
  rw [ite_error_eq_ok, Bool.not_eq_true, List.any_eq_false, and_iff_left rfl]
  apply forall₂_congr
  intro U _
  simp only [Bool.and_eq_true, bne_iff_ne, beq_iff_eq, Prod.mk.injEq]
  constructor
  · intro h hsame
    by_contra hid
    exact h ⟨⟨hid, hsame.1⟩, hsame.2⟩
  · rintro h ⟨⟨hid, hname⟩, horganization⟩
    exact hid (h ⟨hname, horganization⟩)

/-- A template passes the check when its name is free and its server exists. -/
theorem of_checkTemplate (hc : inv.templates.Keyed) (h : inv.checkTemplate T = .ok ()) :
    (∀ u U, inv.templates.get? u = some U →
        (U.name, U.organization) = (T.name, T.organization) → u = T.id) ∧
      ∀ s, T.vpn = some s → ∃ S, inv.servers.get? s = some S := by
  unfold checkTemplate at h
  rw [seq_eq_ok] at h
  obtain ⟨hname, hserver⟩ := h
  constructor
  · intro u U hU hsame
    rw [← hc u U hU]
    exact checkUniqueName_eq_ok.mp hname U (SortedMap.mem_values.mpr ⟨u, hU⟩) hsame
  · intro s hs
    rw [hs] at hserver
    dsimp only at hserver
    split at hserver
    · rename_i hcontains
      exact Option.isSome_iff_exists.mp hcontains
    · cases hserver

/-- A VPN template that is in order has a server. -/
theorem exists_vpn_of_normalize {t : Template} (h : t.normalize = .ok u) (hkind : u.kind = .vpn) :
    ∃ s, u.vpn = some s := by
  unfold Template.normalize at h
  simp only [Except.bind] at h
  split at h
  · cases h
  · rename_i linked hlinked
    split at h
    · cases h
      split at hlinked
      · cases hlinked
      · rename_i s _ hs
        cases hlinked
        exact ⟨s, hs⟩
      · rename_i hgeneric
        cases hlinked
        rw [hgeneric] at hkind
        cases hkind
    · cases h

/-- A template that is in order and passes the check refers to a server if it is a VPN template. -/
theorem linked_of_check {t : Template} (hc : inv.templates.Keyed) (hu : t.normalize = .ok u)
    (hcheck : inv.checkTemplate u = .ok ()) (hkind : u.kind = .vpn) :
    ∃ s S, u.vpn = some s ∧ inv.servers.get? s = some S := by
  obtain ⟨s, hs⟩ := exists_vpn_of_normalize hu hkind
  obtain ⟨S, hS⟩ := (of_checkTemplate hc hcheck).2 s hs
  exact ⟨s, S, hs, hS⟩

/-- A template that is added is admitted under its new identifier and with the next number. -/
theorem exists_admits_of_insertTemplate (hs : inv.Sound) (ht : inv.TemplatesOrderly) {t : Template}
    {ids : List DeviceId} (h : inv.insertTemplate t = .ok (ids, inv')) :
    ∃ T, inv.Admits T inv' := by
  obtain ⟨u, hu, hnew, hcheck, hr⟩ := insertTemplate_eq_ok h
  refine ⟨{ u with created := inv.templateSequence + 1 }, ?_⟩
  have hsequence : inv'.templateSequence = inv.templateSequence + 1 := by
    rw [hr.eq]
    rfl
  have hlinked := linked_of_check hs.templates hu hcheck
  constructor
  · exact hr.shares.templates
  · exact hr.shares.servers
  · omega
  · exact hlinked
  · exact (of_checkTemplate hs.templates hcheck).1
  · -- The new number is above all those given so far.
    intro v U hU hsame
    have hle : U.created ≤ inv.templateSequence := ht.counted v U hU
    have hnumber : U.created = inv.templateSequence + 1 := hsame
    omega
  · exact Nat.le_of_eq hsequence.symm
  · -- No list names a template that does not exist yet.
    intro x k hk hlisted
    obtain ⟨U, hU⟩ := (hs.devices x).listed k hk u.id hlisted
    rw [hnew] at hU
    cases hU

/-- A template that is replaced is admitted in its place and with its number. -/
theorem exists_admits_of_replaceTemplate (hs : inv.Sound) (ht : inv.TemplatesOrderly)
    (hl : inv.ListsFit) {t p : Template} {ids : List DeviceId}
    (h : inv.replaceTemplate t = .ok (p, ids, inv')) : ∃ T, inv.Admits T inv' := by
  obtain ⟨u, hu, hp, hcheck, hunlisted, hr⟩ := replaceTemplate_eq_ok h
  refine ⟨{ u with created := p.created }, ?_⟩
  have hsequence : inv'.templateSequence = inv.templateSequence := by
    rw [hr.eq]
    rfl
  have hlinked := linked_of_check hs.templates hu hcheck
  constructor
  · exact hr.shares.templates
  · exact hr.shares.servers
  · exact Nat.le_of_eq hsequence.symm
  · exact hlinked
  · exact (of_checkTemplate hs.templates hcheck).1
  · intro v U hU hsame
    exact ht.numbers v u.id U p hU hp hsame
  · rw [hsequence]
    exact ht.counted u.id p hp
  · intro x k hk hlisted
    -- On a list a template is replaced only by one of its backend.
    have hsame : p.backend = u.backend := by
      by_contra hne
      exact hunlisted hne x k hk hlisted
    obtain ⟨P, hP, hbackend⟩ := (hl x k hk).1 u.id hlisted
    have hPp : P = p := Option.some.inj (hP.symm.trans hp)
    rw [← hbackend, hPp]
    exact hsame.symm

namespace TemplatesOrderly

/-- Where the templates are the same and servers only come they stay in order. -/
theorem of_eq (h : inv.TemplatesOrderly) (ht : inv'.templates = inv.templates)
    (hn : inv'.templateSequence = inv.templateSequence) (hgrows : Grows inv inv') :
    inv'.TemplatesOrderly := by
  constructor
  · intro t T hT hkind
    rw [ht] at hT
    obtain ⟨s, S, hs, hS⟩ := h.linked t T hT hkind
    obtain ⟨S', hS'⟩ := hgrows.servers s S hS
    exact ⟨s, S', hs, hS'⟩
  · rw [ht]
    exact h.names
  · rw [ht]
    exact h.numbers
  · rw [ht, hn]
    exact h.counted

/-- A template that is admitted keeps them in order. -/
theorem of_admits (h : inv.TemplatesOrderly) (hT : inv.Admits T inv') : inv'.TemplatesOrderly := by
  constructor
  · intro t U hU hkind
    rw [hT.servers]
    rw [hT.templates, SortedMap.get?_insert] at hU
    split at hU
    · cases hU
      exact hT.linked hkind
    · exact h.linked t U hU hkind
  · rw [hT.templates]
    exact h.names.insert hT.name
  · rw [hT.templates]
    exact h.numbers.insert hT.number
  · intro t U hU
    rw [hT.templates, SortedMap.get?_insert] at hU
    split at hU
    · cases hU
      exact hT.counted
    · exact Nat.le_trans (h.counted t U hU) hT.sequence

end TemplatesOrderly

/-- Lists that fit go on fitting when a template is admitted. -/
theorem Admits.fits (hT : inv.Admits T inv') {x : DeviceId} {k : Configuration}
    (hk : inv.configurations.get? x = some k) (hfits : inv.templates.Fits k.backend k.templates) :
    inv'.templates.Fits k.backend k.templates := by
  intro t ht
  rw [hT.templates, SortedMap.get?_insert]
  split
  · rename_i hid
    rw [← hid] at ht
    exact ⟨T, rfl, hT.backend x k hk ht⟩
  · exact hfits t ht

end Inventory

/-! ## What requests keep -/

namespace Controller

variable {settings : Settings} {outage : Outage} {c : Controller} {r : Request} {change : Change}

/-- The templates stay, or one is admitted. -/
theorem Makes.admits (hs : c.inventory.Sound) (ht : c.inventory.TemplatesOrderly)
    (hl : c.inventory.ListsFit) (h : Makes settings outage c r change) :
    (change.edited.templates = c.inventory.templates ∧
        change.edited.templateSequence = c.inventory.templateSequence) ∨
      ∃ T, c.inventory.Admits T change.edited := by
  cases h.counts hs.devicesKeyed with
  | kept h => exact Or.inl ⟨h.templates, h.templateSequence⟩
  | removed h =>
      obtain ⟨_, _, _, _, _, heq⟩ := Inventory.removeDevice_eq_ok h
      rw [heq]
      exact Or.inl ⟨rfl, rfl⟩
  | joined h =>
      obtain ⟨_, _, _, _, _, _, _, _, _, heq⟩ := Inventory.insertClient_eq_ok h
      rw [heq]
      exact Or.inl ⟨rfl, rfl⟩
  | added h => exact Or.inr (Inventory.exists_admits_of_insertTemplate hs ht h)
  | replaced h => exact Or.inr (Inventory.exists_admits_of_replaceTemplate hs ht hl h)

/-- A request keeps the templates in order. -/
theorem Makes.templatesOrderly (hs : c.inventory.Sound) (ht : c.inventory.TemplatesOrderly)
    (hl : c.inventory.ListsFit) (h : Makes settings outage c r change) :
    change.edited.TemplatesOrderly := by
  obtain ⟨hgrows, _⟩ := (h.stores hs.devicesKeyed).grows hs.templates
  rcases h.admits hs ht hl with ⟨hsame, hn⟩ | ⟨T, hT⟩
  · exact ht.of_eq hsame hn hgrows
  · exact ht.of_admits hT

end Controller

end Fleet
