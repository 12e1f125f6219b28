/-
# Where a required template goes

A template that is stored and required goes to the lists in its scope that lack it.  A list
gets it and nothing else, unless it is empty: then it gets every default of the scope, as the
list of a new configuration does.  It also goes to lists of devices out of use, as long as
these are not deactivated.

Main statements: `Catalog.mem_withRequired_iff`, `Inventory.Requires.completes_or`,
`Controller.templates_of_required`.
-/
import Fleet.Proofs.Attempts
import Fleet.Proofs.Required

namespace Fleet

open Outcomes

/-! ## Completing a list -/

namespace Catalog

variable {c : Catalog} {k : Configuration} {organization : OrgId}

/-- Of a list of templates that exist nothing is left only if it is empty. -/
theorem present_eq_nil {ts : List TemplateId} (hknows : c.Knows ts) :
    c.present ts = [] ↔ ts = [] := by
  constructor
  · intro h
    cases ts with
    | nil => rfl
    | cons t rest =>
        obtain ⟨T, hT⟩ := hknows t List.mem_cons_self
        have hmem : T ∈ c.present (t :: rest) := mem_present.mpr ⟨t, List.mem_cons_self, hT⟩
        rw [h] at hmem
        cases hmem
  · rintro rfl
    rfl

/-- A list that lacks nothing but one required template is completed with it alone, unless it is
empty and there are other defaults. -/
theorem mem_withRequired_iff (hc : c.Keyed) (hknows : c.Knows k.templates) {T : Template}
    (hT : c.get? T.id = some T) (hrequired : T.isRequiredFor k.backend organization = true)
    (hcovers : ∀ i U, c.get? i = some U → i ≠ T.id →
      U.isRequiredFor k.backend organization = true → i ∈ k.templates) :
    (∀ i, i ∈ c.withRequired k organization ↔ i ∈ k.templates ∨ i = T.id) ↔
      (k.templates = [] →
        ∀ i U, c.get? i = some U → U.isDefaultFor k.backend organization = true → i = T.id) := by
  constructor
  · intro hexact hempty i U hU hdefault
    have hi := (mem_withRequired hc).mpr
      ⟨U, hU, Or.inr (Or.inr ⟨(present_eq_nil hknows).mpr hempty, hdefault⟩)⟩
    rcases (hexact i).mp hi with hlisted | hi
    · rw [hempty] at hlisted
      cases hlisted
    · exact hi
  · intro halone i
    rw [mem_withRequired hc]
    constructor
    · rintro ⟨U, hU, hlisted | hneeded | ⟨hempty, hdefault⟩⟩
      · exact Or.inl hlisted
      · by_cases hi : i = T.id
        · exact Or.inr hi
        · exact Or.inl (hcovers i U hU hi hneeded)
      · exact Or.inr (halone ((present_eq_nil hknows).mp hempty) i U hU hdefault)
    · rintro (hlisted | rfl)
      · obtain ⟨U, hU⟩ := hknows i hlisted
        exact ⟨U, hU, Or.inl hlisted⟩
      · exact ⟨T, hT, Or.inr (Or.inl hrequired)⟩

end Catalog

namespace Inventory

variable {inv inv' : Inventory} {ids : List DeviceId} {x : DeviceId} {d : Device}
  {k : Configuration} {T : Template}

/-- A configuration that is not deactivated lacks a template that is required in its scope. -/
structure Lacks (T : Template) (d : Device) (k : Configuration) : Prop where
  /-- It is not deactivated. -/
  configured : k.status.isDeactivation = false
  /-- The template is required in its scope. -/
  required : T.isRequiredFor k.backend d.organization = true
  /-- It is not on the list. -/
  missing : T.id ∉ k.templates

/-- When the template was created does not matter. -/
theorem lacks_created {created : Nat} : Lacks { T with created } d k ↔ Lacks T d k :=
  ⟨fun h => ⟨h.configured, h.required, h.missing⟩, fun h => ⟨h.configured, h.required, h.missing⟩⟩

/-- A configuration that lacks the template is completed, and any other stays. -/
theorem Requires.completes_or (h : Requires inv T ids inv') (hd : inv.devices.get? x = some d)
    (hk : inv.configurations.get? x = some k) :
    (Lacks T d k ∧ inv'.configurations.get? x =
        some { k with templates := inv.templates.withRequired k d.organization }) ∨
      (¬ Lacks T d k ∧ inv'.configurations.get? x = some k) := by
  by_cases hx : x ∈ ids
  · obtain ⟨d', k', hd', hk', huse, hlacks, hrequired, hget⟩ := h.attached x hx
    obtain rfl := Option.some.inj (hd'.symm.trans hd)
    obtain rfl := Option.some.inj (hk'.symm.trans hk)
    exact Or.inl ⟨⟨huse, hrequired, hlacks⟩, hget⟩
  · right
    refine ⟨?_, (h.kept x hx).trans hk⟩
    rintro ⟨huse, hrequired, hlacks⟩
    exact hlacks (h.present x hx d k hd hk huse hrequired)

end Inventory

namespace Controller

variable {settings : Settings} {outage : Outage} {c : Controller} {r : Request} {reply : Reply}
  {t u : Template} {x : DeviceId} {d : Device} {k : Configuration}

/-! ## Storing a template -/

/-- A template is stored in order when it is added or replaced without failure, and attached
wherever it is required. -/
theorem exists_requires_of_ok (hr : r = .addTemplate t ∨ r = .updateTemplate t)
    (hok : (c.perform settings outage r).1 = .ok reply) (hu : t.normalize = .ok u) :
    ∃ created n ids inv told,
      Inventory.Requires (c.inventory.putTemplate { u with created } n) { u with created } ids inv ∧
      Inventory.Marks inv told (c.perform settings outage r).2.inventory := by
  rcases hr with rfl | rfl
  · obtain ⟨_, hadded, _⟩ := map_eq_ok.mp hok
    have htakes := addTemplate_takes outage c t
    rcases hinsert : c.inventory.insertTemplate t with e | ⟨ids, inv⟩
    · unfold addTemplate at hadded
      rw [hinsert] at hadded
      cases hadded
    · rw [hinsert] at htakes
      obtain ⟨told, hmarks⟩ := htakes
      obtain ⟨u', hu', _, _, hrequires⟩ := Inventory.insertTemplate_eq_ok hinsert
      obtain rfl := Except.ok.inj (hu'.symm.trans hu)
      exact ⟨_, _, ids, inv, told, hrequires, hmarks⟩
  · obtain ⟨_, hreplaced, _⟩ := map_eq_ok.mp hok
    have htakes := updateTemplate_takes outage c t
    rcases hreplace : c.inventory.replaceTemplate t with e | ⟨p, ids, inv⟩
    · unfold updateTemplate at hreplaced
      rw [hreplace] at hreplaced
      cases hreplaced
    · rw [hreplace] at htakes
      obtain ⟨told, hmarks⟩ := htakes
      obtain ⟨u', hu', _, _, _, hrequires⟩ := Inventory.replaceTemplate_eq_ok hreplace
      obtain rfl := Except.ok.inj (hu'.symm.trans hu)
      exact ⟨_, _, ids, inv, told, hrequires, hmarks⟩

/-- A device in use is in the scope of a template. -/
structure Concerns (T : Template) (d : Device) (k : Configuration) : Prop where
  /-- The device is in use. -/
  active : d.active = true
  /-- The template is written for the backend of its configuration. -/
  backend : T.backend = k.backend
  /-- It is visible to the organization of the device. -/
  visible : T.isVisibleTo d.organization = true

/-- When a required template is added or replaced, the list of a device in use in its scope gets it
and nothing else, if and only if the list had a template or there is no other default in the scope;
every other list stays, if and only if it is not that of a device out of use in the scope that is
not deactivated and lacks the template. -/
theorem templates_of_required (hreach : Reachable settings c) (outage : Outage)
    (hr : r = .addTemplate t ∨ r = .updateTemplate t)
    (hok : (c.perform settings outage r).1 = .ok reply) (hu : t.normalize = .ok u)
    (hrequired : u.required = true) (hd : c.inventory.devices.get? x = some d)
    (hk : c.inventory.configurations.get? x = some k) :
    ∃ k', (c.perform settings outage r).2.inventory.configurations.get? x = some k' ∧
      (Concerns u d k →
        ((∀ i, i ∈ k'.templates ↔ i ∈ k.templates ∨ i = u.id) ↔
          (k.templates = [] → ∀ i T,
            (c.perform settings outage r).2.inventory.templates.get? i = some T →
            T.isDefaultFor k.backend d.organization = true → i = u.id))) ∧
      (¬ Concerns u d k →
        (k'.templates = k.templates ↔ ¬ Inventory.Lacks u d k)) := by
  have hs := hreach.sound
  obtain ⟨created, n, ids, inv, told, hrequires, hmarks⟩ := exists_requires_of_ok hr hok hu
  have hcatalog : (c.perform settings outage r).2.inventory.templates =
      (c.inventory.putTemplate { u with created } n).templates :=
    hmarks.shares.templates.trans hrequires.shares.templates
  rw [hcatalog]
  have hkeyed : (c.inventory.putTemplate { u with created } n).templates.Keyed :=
    hs.templates.insert rfl
  have hstored : (c.inventory.putTemplate { u with created } n).templates.get? u.id =
      some { u with created } :=
    SortedMap.get?_insert_self _ _ _
  have hknows : (c.inventory.putTemplate { u with created } n).templates.Knows k.templates :=
    (Inventory.Grows.putTemplate c.inventory { u with created } n).knows
      ((hs.devices x).listed k hk)
  rcases hrequires.completes_or hd hk with ⟨hlacks, hget⟩ | ⟨hnot, hget⟩
  · -- The list lacks the template and is completed.
    obtain ⟨status, hafter⟩ := hmarks.after hget
    have hscope := hlacks.required
    refine ⟨_, hafter, fun hconcerns => ?_, fun _ => iff_of_false ?_ ?_⟩
    · refine Catalog.mem_withRequired_iff (T := { u with created }) hkeyed hknows hstored hscope
        fun i U hU hi hneeded => ?_
      -- What else is required was so before, and the list was complete.
      have hbefore : c.inventory.templates.get? i = some U :=
        (SortedMap.get?_insert_ne (Ne.symm hi) _ _).symm.trans hU
      exact hreach.completeAt x d k hd hk hconcerns.active i U hbefore hneeded
    · intro hsame
      refine hlacks.missing ?_
      rw [← hsame]
      exact (Catalog.mem_withRequired hkeyed).mpr ⟨_, hstored, Or.inr (Or.inl hscope)⟩
    · exact not_not_intro (Inventory.lacks_created.mp hlacks)
  · -- The list stays.
    obtain ⟨status, hafter⟩ := hmarks.after hget
    rw [Inventory.lacks_created] at hnot
    refine ⟨_, hafter, fun hconcerns => ?_, fun _ => iff_of_true rfl hnot⟩
    have hlisted : u.id ∈ k.templates := by
      apply Decidable.byContradiction
      intro hmissing
      refine hnot ⟨(hs.devices x).inUse d k hd hk hconcerns.active, ?_, hmissing⟩
      exact Template.isRequiredFor_iff.mpr ⟨hrequired, hconcerns.backend, hconcerns.visible⟩
    refine iff_of_true (fun i => ?_) fun hempty => ?_
    · constructor
      · exact Or.inl
      · rintro (hi | rfl)
        · exact hi
        · exact hlisted
    · rw [hempty] at hlisted
      cases hlisted

/-- A template that is required wherever it is in scope. -/
def requiredTemplate : Template :=
  { Sample.template with id := ⟨"r"⟩, name := "required", required := true, default := true }

/-- A device with one template. -/
def plainSample : List Request :=
  [.addTemplate Sample.template,
    .addDevice Sample.device (Sample.configuration [Sample.template.id])]

/-- It gets the required one beside it. -/
theorem templates_of_required_sample :
    ∃ k', ((Sample.controller plainSample).perform Sample.settings .none
        (.addTemplate requiredTemplate)).2.inventory.configurations.get? Sample.device.id =
          some k' ∧
      ∀ i, i ∈ k'.templates ↔ i ∈ [Sample.template.id] ∨ i = requiredTemplate.id := by
  have hrun :
      ((Sample.controller plainSample).addTemplate .none requiredTemplate).1 = .ok () ∧
      (Sample.controller plainSample).inventory.devices.get? Sample.device.id =
        some Sample.device ∧
      (Sample.controller plainSample).inventory.configurations.get? Sample.device.id =
        some (Sample.configuration [Sample.template.id]) := by
    decide +kernel
  obtain ⟨hok, hd, hk⟩ := hrun
  obtain ⟨k', hk', hconcerned, _⟩ := templates_of_required (t := requiredTemplate)
    (u := requiredTemplate) (Sample.reachable plainSample) .none (Or.inl rfl)
    (congrArg (Except.map fun _ => Reply.done) hok) rfl rfl hd hk
  exact ⟨k', hk', (hconcerned ⟨rfl, rfl, rfl⟩).mpr nofun⟩

/-- A device whose default template was detached. -/
def clearedSample : List Request :=
  [.addTemplate { Sample.template with default := true },
    .addDevice Sample.device (Sample.configuration []), .clearTemplates Sample.device.id]

/-- A list may get more than the required template: the default one is back with it. -/
theorem required_template_brings_defaults :
    ¬ ∀ (settings : Settings) (c : Controller), Reachable settings c →
      ∀ (outage : Outage) (r : Request) (reply : Reply) (t u : Template),
        (r = .addTemplate t ∨ r = .updateTemplate t) →
        (c.perform settings outage r).1 = .ok reply →
        t.normalize = .ok u → u.required = true →
        ∀ (x : DeviceId) (d : Device) (k k' : Configuration),
          c.inventory.devices.get? x = some d → c.inventory.configurations.get? x = some k →
          (c.perform settings outage r).2.inventory.configurations.get? x = some k' →
          (Concerns u d k → ∀ i, i ∈ k'.templates ↔ i ∈ k.templates ∨ i = u.id) ∧
            (¬ Concerns u d k → k'.templates = k.templates) := by
  intro h
  have hrun :
      ((Sample.controller clearedSample).addTemplate .none requiredTemplate).1 = .ok () ∧
      (Sample.controller clearedSample).inventory.devices.get? Sample.device.id =
        some Sample.device ∧
      (Sample.controller clearedSample).inventory.configurations.get? Sample.device.id =
        some (Sample.configuration []) ∧
      ((Sample.controller clearedSample).perform Sample.settings .none
        (.addTemplate requiredTemplate)).2.inventory.configurations.get? Sample.device.id =
          some (Sample.configuration [requiredTemplate.id, Sample.template.id]) := by
    decide +kernel
  obtain ⟨hok, hd, hk, hk'⟩ := hrun
  have hexact := (h Sample.settings _ (Sample.reachable clearedSample) .none
    (.addTemplate requiredTemplate) _ requiredTemplate requiredTemplate (Or.inl rfl)
    (congrArg (Except.map fun _ => Reply.done) hok) rfl rfl _ _ _ _ hd hk hk').1 ⟨rfl, rfl, rfl⟩
  exact absurd ((hexact Sample.template.id).mp (by decide)) (by decide)

end Controller

end Fleet
