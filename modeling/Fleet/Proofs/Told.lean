/-
# What notices tell

Notices tell the way from one controller to another when they say how each configuration came to its
state, change by change, and name every server whose members are others then.  Edits that move no
state need tell of the members only; making configurations modified tells of the states that it
moves.

Main statements: `Inventory.signalAll_leads`, `Controller.Told.commit`, `Controller.Told.modify`.
-/
import Fleet.Proofs.PeerLists

namespace Fleet

open Outcomes

/-! ## Changes of state -/

/-- A change of the state of a configuration, as it is announced. -/
structure StatusChange where
  /-- The state before. -/
  previous : Status
  /-- The state after. -/
  current : Status
  /-- The signal that led there. -/
  cause : Signal
  deriving DecidableEq

namespace Notice

/-- The change of the state of a device that a notice tells of. -/
def changeOf? (x : DeviceId) : Notice → Option StatusChange
  | .statusChanged device previous current cause =>
    if device = x then some ⟨previous, current, cause⟩ else none
  | .peersChanged _ => none

/-- The changes of the state of a device that notices tell of, in order. -/
def changesOf (x : DeviceId) (ns : List Notice) : List StatusChange :=
  ns.filterMap (changeOf? x)

variable {x : DeviceId}

theorem changesOf_append (ns ns' : List Notice) :
    changesOf x (ns ++ ns') = changesOf x ns ++ changesOf x ns' :=
  List.filterMap_append

/-- A change is told of by a notice. -/
theorem mem_changesOf {ns : List Notice} {change : StatusChange} :
    change ∈ changesOf x ns ↔
      .statusChanged x change.previous change.current change.cause ∈ ns := by
  unfold changesOf
  rw [List.mem_filterMap]
  constructor
  · rintro ⟨n, hn, hchange⟩
    cases n with
    | statusChanged device previous current cause =>
        by_cases hdevice : device = x
        · rw [changeOf?, if_pos hdevice] at hchange
          cases hchange
          exact hdevice ▸ hn
        · rw [changeOf?, if_neg hdevice] at hchange
          cases hchange
    | peersChanged s => cases hchange
  · exact fun hn => ⟨_, hn, if_pos rfl⟩

/-- Notices about peers tell of no change of state. -/
theorem changesOf_peersChanged (left : List VpnClient) :
    changesOf x (left.map fun client => .peersChanged client.server) = [] := by
  induction left with
  | nil => rfl
  | cons client rest ih => exact ih

/-- What is published of the state of a configuration before and after a signal. -/
def ofStates (device : DeviceId) (before after : Status) (cause : Signal) : List Notice :=
  if before = after then [] else [.statusChanged device before after cause]

/-- It tells of no other device. -/
theorem changesOf_ofStates_ne {device : DeviceId} (h : device ≠ x) (s t : Status) (cause : Signal) :
    changesOf x (ofStates device s t cause) = [] := by
  unfold ofStates
  split
  · rfl
  · simp [changesOf, changeOf?, h]

end Notice

namespace Status

/-- Changes of state lead from one state to another: each starts where the one before ended, and its
signal, to a device that is active or not, leads to another state. -/
def Leads : Status → List StatusChange → Status → Prop
  | s, [], t => s = t
  | s, change :: rest, t =>
    change.previous = s ∧ change.current ≠ s ∧
      (∃ active, s.after active change.cause = .ok change.current) ∧ Leads change.current rest t

namespace Leads

/-- Without changes the state stays. -/
theorem nil (s : Status) : Leads s [] s :=
  rfl

/-- Changes on changes. -/
theorem append {changes changes' : List StatusChange} {t u : Status} (h' : Leads t changes' u) :
    ∀ {s : Status}, Leads s changes t → Leads s (changes ++ changes') u := by
  induction changes with
  | nil =>
      intro s h
      cases h
      exact h'
  | cons change rest ih =>
      rintro s ⟨hprevious, hcurrent, hcause, hrest⟩
      exact ⟨hprevious, hcurrent, hcause, ih hrest⟩

/-- What is published of a signal leads from the state before to the state after. -/
theorem of_after {s t : Status} {active : Bool} {cause : Signal}
    (h : s.after active cause = .ok t) (x : DeviceId) :
    Leads s (Notice.changesOf x (Notice.ofStates x s t cause)) t := by
  unfold Notice.ofStates
  split
  · rename_i hsame
    exact hsame
  · rename_i hne
    have hone : Notice.changesOf x [.statusChanged x s t cause] = [⟨s, t, cause⟩] := by
      simp [Notice.changesOf, Notice.changeOf?]
    rw [hone]
    exact ⟨rfl, Ne.symm hne, ⟨active, h⟩, rfl⟩

/-- Each change leads to another state than the one it starts from, as its signal does. -/
theorem mem {changes : List StatusChange} {change : StatusChange} {t : Status}
    (hmem : change ∈ changes) :
    ∀ {s : Status}, Leads s changes t → change.current ≠ change.previous ∧
      ∃ active, change.previous.after active change.cause = .ok change.current := by
  induction changes with
  | nil => cases hmem
  | cons first rest ih =>
      rintro s ⟨rfl, hcurrent, hcause, hrest⟩
      rcases List.mem_cons.mp hmem with rfl | hmem
      · exact ⟨hcurrent, hcause⟩
      · exact ih hmem hrest

end Leads

end Status

/-! ## Edits that move no state -/

namespace Inventory

/-- Configurations that are there before and afterwards are in the same state. -/
def KeepsStates (inv inv' : Inventory) : Prop :=
  ∀ x k k', inv.configurations.get? x = some k → inv'.configurations.get? x = some k' →
    k'.status = k.status

namespace KeepsStates

variable {inv inv' : Inventory} {id : DeviceId} {k k₀ : Configuration} {ids : List DeviceId}

/-- Where the configurations are the same. -/
theorem of_eq (h : inv'.configurations = inv.configurations) : KeepsStates inv inv' := by
  intro x k k' hk hk'
  rw [h, hk, Option.some.injEq] at hk'
  rw [hk']

/-- Where those that are edited keep their state. -/
theorem of_agreesOff (hoff : AgreesOff ids inv inv')
    (h : ∀ x ∈ ids, ∀ k k', inv.configurations.get? x = some k →
      inv'.configurations.get? x = some k' → k'.status = k.status) : KeepsStates inv inv' := by
  intro x k k' hk hk'
  by_cases hx : x ∈ ids
  · exact h x hx k k' hk hk'
  · rw [hoff.configuration x hx, hk, Option.some.injEq] at hk'
    rw [hk']

/-- A list is replaced. -/
theorem of_relists (h : Relists inv id k inv') (hk₀ : inv.configurations.get? id = some k₀)
    (hstatus : k.status = k₀.status) : KeepsStates inv inv' := by
  refine of_agreesOff h.agreesOff fun x hx k₁ k' hk₁ hk' => ?_
  rw [List.mem_singleton.mp hx] at hk₁ hk'
  rw [← Option.some.inj (h.get?_self.symm.trans hk'), hstatus,
    Option.some.inj (hk₀.symm.trans hk₁)]

/-- A required template is attached. -/
theorem of_requires {t : Template} (h : Requires inv t ids inv') : KeepsStates inv inv' := by
  refine of_agreesOff h.agreesOff fun x hx k k' hk hk' => ?_
  obtain ⟨d, k₁, _, hk₁, _, _, _, hk₂⟩ := h.attached x hx
  rw [← Option.some.inj (hk₂.symm.trans hk'), Option.some.inj (hk₁.symm.trans hk)]

end KeepsStates

variable {inv inv' : Inventory} {id : DeviceId}

/-- A device that is added had no configuration. -/
theorem insertDevice_keepsStates (hs : inv.Sound) {d : Device} {k : Configuration}
    (h : inv.insertDevice d k = .ok inv') : KeepsStates inv inv' := by
  refine KeepsStates.of_agreesOff (agreesOff_insertDevice h) fun x hx k₁ k' hk₁ _ => ?_
  obtain ⟨hnew, _⟩ := insertDevice_eq_ok h
  -- A configuration comes with a device, and the device is new.
  obtain ⟨d', hd'⟩ := (hs.devices x).paired.mpr ⟨k₁, hk₁⟩
  rw [List.mem_singleton.mp hx, hnew] at hd'
  cases hd'

/-- A device that is removed has none afterwards. -/
theorem removeDevice_keepsStates {removed : RemovedDevice}
    (h : inv.removeDevice id = (.ok removed, inv')) : KeepsStates inv inv' := by
  refine KeepsStates.of_agreesOff (agreesOff_removeDevice h) fun x hx k k' _ hk' => ?_
  obtain ⟨_, _, _, _, _, rfl⟩ := removeDevice_eq_ok h
  rw [List.mem_singleton.mp hx] at hk'
  exact absurd hk' (by simp)

theorem replaceDevice_keepsStates {d p : Device} {change : TemplateChange}
    (h : inv.replaceDevice d = .ok (p, change, inv')) : KeepsStates inv inv' := by
  obtain ⟨k, _, hk, ⟨_, _, rfl⟩ | ⟨_, _, _, hr, _⟩⟩ := replaceDevice_eq_ok h
  · exact KeepsStates.of_eq rfl
  · have hstates : KeepsStates (inv.putDevice d.id { d with active := p.active }) inv' :=
      KeepsStates.of_relists hr hk rfl
    exact hstates

theorem insertTemplate_keepsStates {t : Template} {ids : List DeviceId}
    (h : inv.insertTemplate t = .ok (ids, inv')) : KeepsStates inv inv' := by
  obtain ⟨u, _, _, _, hr⟩ := insertTemplate_eq_ok h
  have hstates : KeepsStates (inv.putTemplate _ _) inv' := KeepsStates.of_requires hr
  exact hstates

theorem replaceTemplate_keepsStates {t p : Template} {ids : List DeviceId}
    (h : inv.replaceTemplate t = .ok (p, ids, inv')) : KeepsStates inv inv' := by
  obtain ⟨u, _, _, _, _, hr⟩ := replaceTemplate_eq_ok h
  have hstates : KeepsStates (inv.putTemplate _ _) inv' := KeepsStates.of_requires hr
  exact hstates

theorem setTemplates_keepsStates {ts : List TemplateId} {change : TemplateChange}
    (h : inv.setTemplates id ts = .ok (change, inv')) : KeepsStates inv inv' := by
  obtain ⟨k, hk, hr, _⟩ := setTemplates_eq_ok h
  exact KeepsStates.of_relists hr hk rfl

theorem setBackend_keepsStates {backend : Backend} {change : TemplateChange}
    (h : inv.setBackend id backend = .ok (change, inv')) : KeepsStates inv inv' := by
  obtain ⟨d, k, _, hk, ⟨_, rfl⟩ | ⟨_, _, hr⟩⟩ := setBackend_eq_ok h
  · exact KeepsStates.of_eq rfl
  · exact KeepsStates.of_relists hr hk rfl

theorem setGroup_keepsStates (hs : inv.Sound) {group : DeviceGroup} {change : GroupChange}
    (h : inv.setGroup group = (.ok change, inv')) : KeepsStates inv inv' := by
  obtain ⟨_, _, ⟨_, _, _, rfl⟩ | ⟨_, hsw⟩⟩ := setGroup_eq_ok hs.devicesKeyed h
  · exact KeepsStates.of_eq rfl
  · have hoff := hsw.agreesOff
    refine KeepsStates.of_agreesOff ⟨hoff.device, hoff.configuration, hoff.clients⟩
      fun x hx k k' hk hk' => ?_
    obtain ⟨d, hd⟩ := (hs.devices x).paired.mpr ⟨k, hk⟩
    rw [hsw.swapped x (hsw.subset x hx) d k hd hk, Option.some.injEq] at hk'
    rw [← hk']
    split <;> rfl

end Inventory

/-! ## Signals to many configurations -/

namespace Inventory

/-- What is published of the steps of configurations. -/
def noticesOf (steps : List StatusStep) (cause : Signal) : List Notice :=
  steps.flatMap fun step => Notice.ofStates step.device step.before step.after cause

theorem noticesOf_cons (step : StatusStep) (rest : List StatusStep) (cause : Signal) :
    noticesOf (step :: rest) cause =
      Notice.ofStates step.device step.before step.after cause ++ noticesOf rest cause :=
  List.flatMap_cons

/-- The steps that signals take tell how each configuration comes to its state. -/
theorem signalAll_leads (signal : Signal) (x : DeviceId) (ids : List DeviceId) :
    ∀ {inv : Inventory} {k : Configuration}, inv.configurations.get? x = some k →
      ∃ k', (inv.signalAll signal ids).2.configurations.get? x = some k' ∧
        k.status.Leads (Notice.changesOf x (noticesOf (inv.signalAll signal ids).1 signal))
          k'.status := by
  induction ids with
  | nil => exact fun hk => ⟨_, hk, .nil _⟩
  | cons id rest ih =>
      intro inv k hk
      rw [signalAll]
      split
      · rename_i step inv₁ hone
        obtain ⟨d, k₀, s, _, hk₀, hs, rfl, rfl⟩ := signalOne_eq_ok hone
        -- The first step moves the state of its device only, the others go on from there.
        have hfirst : ∃ k₁,
            (inv.putConfiguration id { k₀ with status := s }).configurations.get? x = some k₁ ∧
            k.status.Leads (Notice.changesOf x (Notice.ofStates id k₀.status s signal))
              k₁.status := by
          by_cases hx : id = x
          · subst hx
            refine ⟨_, putConfiguration_get?_self, ?_⟩
            rw [← Option.some.inj (hk₀.symm.trans hk)]
            exact .of_after hs id
          · refine ⟨k, (SortedMap.get?_insert_ne hx _ _).trans hk, ?_⟩
            rw [Notice.changesOf_ofStates_ne hx]
            exact .nil _
        obtain ⟨k₁, hk₁, hleads⟩ := hfirst
        obtain ⟨k', hk', hrest⟩ := ih hk₁
        refine ⟨k', hk', ?_⟩
        show k.status.Leads (Notice.changesOf x (noticesOf (_ :: _) signal)) k'.status
        rw [noticesOf_cons, Notice.changesOf_append]
        exact hrest.append hleads
      · exact ih hk

end Inventory

namespace Controller

variable {c c₁ c₂ : Controller} {ns : List Notice}

/-! ## Notices -/

theorem announceStatus_eq (c : Controller) (x : DeviceId) (s t : Status) (cause : Signal) :
    c.announceStatus x s t cause =
      { c with notices := c.notices ++ Notice.ofStates x s t cause } := by
  unfold announceStatus Notice.ofStates
  split
  · rw [List.append_nil]
  · rfl

theorem announceSteps_notices (steps : List StatusStep) (cause : Signal) :
    ∀ c : Controller, (c.announceSteps steps cause).notices =
      c.notices ++ Inventory.noticesOf steps cause := by
  induction steps with
  | nil => exact fun c => (List.append_nil _).symm
  | cons step rest ih =>
      intro c
      show ((c.announceStatus _ _ _ cause).announceSteps rest cause).notices = _
      rw [ih, announceStatus_eq, Inventory.noticesOf_cons, List.append_assoc]

/-- A commit announces the servers that clients left. -/
theorem commit_notices (c : Controller) (inv : Inventory) (ids : List DeviceId)
    (left : List VpnClient) : (c.commit inv ids left).notices =
      c.notices ++ left.map fun client => .peersChanged client.server := by
  unfold commit
  dsimp only
  rw [reindexAll_eq]
  rfl

/-- The states that are made modified. -/
theorem modify_inventory (c : Controller) (outage : Outage) (ids : List DeviceId)
    (reason : Reason) : (c.modify outage ids reason).2.inventory =
      (c.inventory.signalAll (.modified reason) ids).2 := by
  unfold modify
  split
  · rename_i hnone
    rw [List.isEmpty_iff.mp hnone]
    rfl
  · dsimp only
    obtain ⟨notices, hannounced⟩ := announceSteps_eq
      ({ c with inventory := (c.inventory.signalAll (.modified reason) ids).2 }.invalidateMany
        outage ids).2 (c.inventory.signalAll (.modified reason) ids).1 (.modified reason)
    rw [hannounced, invalidateMany_snd]

/-- They are announced. -/
theorem modify_notices (c : Controller) (outage : Outage) (ids : List DeviceId) (reason : Reason) :
    (c.modify outage ids reason).2.notices = c.notices ++
      Inventory.noticesOf (c.inventory.signalAll (.modified reason) ids).1 (.modified reason) := by
  unfold modify
  split
  · rename_i hnone
    rw [List.isEmpty_iff.mp hnone]
    exact (List.append_nil _).symm
  · dsimp only
    rw [announceSteps_notices, invalidateMany_snd]

/-- Notices tell the way from one controller to another. -/
structure Told (c c' : Controller) (ns : List Notice) : Prop where
  /-- They are published. -/
  notices : c'.notices = c.notices ++ ns
  /-- They tell how each configuration that stays came to its state. -/
  states : ∀ x k k', c.inventory.configurations.get? x = some k →
    c'.inventory.configurations.get? x = some k' →
    k.status.Leads (Notice.changesOf x ns) k'.status
  /-- They name every server whose members are others. -/
  members : ∀ s, .peersChanged s ∈ ns ∨ c'.inventory.clientsOn s = c.inventory.clientsOn s

namespace Told

/-- Where records and notices stay there is nothing to tell. -/
theorem nothing (hinv : c₁.inventory = c.inventory) (hnotices : c₁.notices = c.notices) :
    Told c c₁ [] := by
  refine ⟨?_, fun x k k' hk hk' => ?_, fun s => Or.inr ?_⟩
  · rw [hnotices, List.append_nil]
  · rw [hinv, hk, Option.some.injEq] at hk'
    rw [hk']
    exact .nil _
  · rw [hinv]

/-- An edit that moves no state and keeps the members. -/
theorem of_keepsStates (hnotices : c₁.notices = c.notices ++ ns)
    (hstates : Inventory.KeepsStates c.inventory c₁.inventory)
    (hquiet : ∀ x, Notice.changesOf x ns = [])
    (hmembers : ∀ s, .peersChanged s ∈ ns ∨ c₁.inventory.clientsOn s = c.inventory.clientsOn s) :
    Told c c₁ ns := by
  refine ⟨hnotices, fun x k k' hk hk' => ?_, hmembers⟩
  rw [hquiet, hstates x k k' hk hk']
  exact .nil _

/-- A commit of an edit that moves no state. -/
theorem commit {inv : Inventory} {left : List VpnClient}
    (hstates : Inventory.KeepsStates c.inventory inv)
    (hleaves : Inventory.Leaves left c.inventory inv) (ids : List DeviceId) :
    Told c (c.commit inv ids left) (left.map fun client => .peersChanged client.server) := by
  refine of_keepsStates (c.commit_notices inv ids left) ?_
    (fun x => Notice.changesOf_peersChanged left) fun s => ?_
  · rw [commit_inventory]
    exact hstates
  · rw [commit_inventory]
    by_cases hs : s ∈ left.map VpnClient.server
    · obtain ⟨client, hclient, rfl⟩ := List.mem_map.mp hs
      exact Or.inl (List.mem_map_of_mem hclient)
    · exact Or.inr (hleaves s hs)

/-- A commit of an edit with which nobody leaves. -/
theorem commit_nobody {inv : Inventory} (hstates : Inventory.KeepsStates c.inventory inv)
    (hclients : inv.clients = c.inventory.clients) (ids : List DeviceId) :
    Told c (c.commit inv ids []) [] :=
  commit hstates (Inventory.Leaves.of_eq hclients) ids

/-- Other records than configurations and memberships. -/
theorem withInventory {inv : Inventory} (hstates : Inventory.KeepsStates c.inventory inv)
    (hclients : inv.clients = c.inventory.clients) : Told c { c with inventory := inv } [] := by
  refine of_keepsStates (List.append_nil _).symm hstates (fun _ => rfl) fun s => Or.inr ?_
  unfold Inventory.clientsOn
  rw [hclients]

/-- What changes neither records nor notices. -/
theorem unseen (h : Told c c₁ ns) (hinv : c₂.inventory = c₁.inventory)
    (hnotices : c₂.notices = c₁.notices) : Told c c₂ ns := by
  refine ⟨hnotices.trans h.notices, ?_, ?_⟩
  · rw [hinv]
    exact h.states
  · rw [hinv]
    exact h.members

/-- A notice about peers more. -/
theorem publish (h : Told c c₁ ns) (s : ServerId) :
    Told c (c₁.publish (.peersChanged s)) (ns ++ [.peersChanged s]) := by
  refine ⟨?_, fun x k k' hk hk' => ?_, fun q => (h.members q).imp_left (List.mem_append_left _)⟩
  · show c₁.notices ++ [_] = _
    rw [h.notices, List.append_assoc]
  · rw [Notice.changesOf_append]
    exact Status.Leads.append (.nil _) (h.states x k k' hk hk')

theorem invalidate (h : Told c c₁ ns) (outage : Outage) (x : DeviceId) :
    Told c (c₁.invalidate outage x).2 ns := by
  rw [invalidate_snd]
  exact h.unseen rfl rfl

theorem invalidateMany (h : Told c c₁ ns) (outage : Outage) (ids : List DeviceId) :
    Told c (c₁.invalidateMany outage ids).2 ns := by
  rw [invalidateMany_snd]
  exact h.unseen rfl rfl

/-- Making configurations modified tells of the states that it moves. -/
theorem modify (h : Told c c₁ ns) (outage : Outage) (ids : List DeviceId) (reason : Reason) :
    ∃ ns', Told c (c₁.modify outage ids reason).2 ns' := by
  have hmarks := Inventory.signalAll_marks reason ids c₁.inventory
  refine ⟨ns ++ Inventory.noticesOf (c₁.inventory.signalAll (.modified reason) ids).1
    (.modified reason), ?_, fun x k k' hk hk' => ?_, fun s => ?_⟩
  · rw [modify_notices, h.notices, List.append_assoc]
  · rw [modify_inventory] at hk'
    -- The way so far leads to the configuration in between, the signals lead on from there.
    obtain ⟨k₁, hk₁, _⟩ := hmarks.before hk'
    obtain ⟨k₂, hk₂, hleads⟩ := Inventory.signalAll_leads (.modified reason) x ids hk₁
    rw [Notice.changesOf_append, Option.some.inj (hk'.symm.trans hk₂)]
    exact hleads.append (h.states x k k₁ hk hk₁)
  · refine (h.members s).imp (List.mem_append_left _) fun hmembers => ?_
    rw [modify_inventory, ← hmembers]
    unfold Inventory.clientsOn
    rw [hmarks.clients]

end Told

end Controller

end Fleet
