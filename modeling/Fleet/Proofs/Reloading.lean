/-
# Saved inventories that are loaded

Every document of an inventory that requests lead to came with a request or is empty, and every
number in it is in range.  So the inventory is loaded from the file that it was saved to exactly
when none of these documents is too deep for its place in the file and their numbers read back.  A
document that is too deep is not refused when it comes, as the last sample shows.

Main statements: `Controller.Makes.mem_documents`, `Controller.run_documents`,
`Controller.Reachable.fits`, `Controller.loads_saved_iff`.
-/
import Fleet.Proofs.Files
import Fleet.Proofs.Integrity
import Fleet.Proofs.TunnelIds

namespace Fleet

/-! ## Where documents come from -/

/-- The document that a request brings. -/
def Request.document? : Request → Option Json
  | .addDevice _ k => some k.document
  | .setDocument _ j => some j
  | .addTemplate t | .updateTemplate t => some t.document
  | .addServer s | .updateServer s => some s.document
  | _ => none

/-- The document that an event brings. -/
def Event.document? : Event → Option Json
  | request _ r => r.document?
  | pass _ => none

namespace Inventory

variable {inv inv' : Inventory} {j : Json}

/-- Making configurations modified brings no document. -/
theorem Marks.mem_documents {ids : List DeviceId} (h : Marks inv ids inv')
    (hj : j ∈ inv'.documents) : j ∈ inv.documents := by
  rw [Inventory.mem_documents, h.shares.templates, h.shares.servers] at hj
  rw [Inventory.mem_documents]
  rcases hj with ⟨x, k', hk', rfl⟩ | hshared
  · obtain ⟨k, hk, rfl | ⟨d, _, rfl⟩⟩ := h.before hk'
    · exact Or.inl ⟨x, _, hk, rfl⟩
    · exact Or.inl ⟨x, k, hk, rfl⟩
  · exact Or.inr hshared

/-- Once a template is stored, each template is one from before or has the document of
that template. -/
theorem document_of_putTemplate {asked u T : Template} {created n : Nat} {t : TemplateId}
    (hu : asked.normalize = .ok u)
    (hT : (inv.putTemplate { u with created } n).templates.get? t = some T) :
    inv.templates.get? t = some T ∨ T.document = asked.document := by
  obtain ⟨vpn, rfl⟩ := exists_eq_of_normalize hu
  unfold putTemplate at hT
  rw [SortedMap.get?_insert] at hT
  split at hT
  · cases hT
    exact Or.inr rfl
  · exact Or.inl hT

end Inventory

namespace Controller

variable {settings : Settings} {outage : Outage} {c : Controller} {r : Request} {change : Change}
  {j : Json}

/-- A configuration after a request has a document from before, that of the request, or
an empty one. -/
theorem Makes.configuration_document (hs : c.inventory.Sound) (h : Makes settings outage c r change)
    {x : DeviceId} {k' : Configuration} (hk' : change.edited.configurations.get? x = some k') :
    k'.document ∈ c.inventory.documents ∨ r.document? = some k'.document ∨
      k'.document = .emptyObject := by
  cases h.turns hs.devicesKeyed (fun x => (hs.devices x).paired) x with
  | absent _ hk =>
      rw [hk] at hk'
      cases hk'
  | added _ _ _ _ _ hk =>
      rw [hk] at hk'
      cases hk'
      exact Or.inr (Or.inl rfl)
  | rewritten _ hk _ hk'' hrewrites =>
      obtain rfl := Option.some.inj (hk''.symm.trans hk')
      rcases hrewrites.document with hsame | hempty | rfl
      · exact Or.inl (Inventory.mem_documents.mpr (Or.inl ⟨x, _, hk, hsame.symm⟩))
      · exact Or.inr (Or.inr hempty)
      · exact Or.inr (Or.inl rfl)

/-- A template after a request has a document from before or that of the request. -/
theorem Makes.template_document (hs : c.inventory.Sound) (h : Makes settings outage c r change)
    {t : TemplateId} {T : Template} (hT : change.edited.templates.get? t = some T) :
    T.document ∈ c.inventory.documents ∨ r.document? = some T.document := by
  have hbefore : c.inventory.templates.get? t = some T → T.document ∈ c.inventory.documents :=
    fun hT => Inventory.mem_documents.mpr (Or.inr (Or.inl ⟨t, T, hT, rfl⟩))
  rcases h.keeps_or hs.devicesKeyed with hkeeps | ⟨_, _, _, hremove⟩ | ⟨_, _, _, hjoin⟩ |
    ⟨_, _, rfl, hinsert⟩ | ⟨_, _, _, rfl, hreplace⟩
  · exact Or.inl (hbefore (hkeeps.templates ▸ hT))
  · obtain ⟨_, _, _, _, _, heq⟩ := Inventory.removeDevice_eq_ok hremove
    rw [heq] at hT
    exact Or.inl (hbefore hT)
  · obtain ⟨_, _, _, _, _, _, _, _, _, heq⟩ := Inventory.insertClient_eq_ok hjoin
    rw [heq] at hT
    exact Or.inl (hbefore hT)
  · obtain ⟨u, hu, _, _, hrequires⟩ := Inventory.insertTemplate_eq_ok hinsert
    rw [hrequires.shares.templates] at hT
    exact (Inventory.document_of_putTemplate hu hT).imp hbefore (congrArg some ·.symm)
  · obtain ⟨u, hu, _, _, _, hrequires⟩ := Inventory.replaceTemplate_eq_ok hreplace
    rw [hrequires.shares.templates] at hT
    exact (Inventory.document_of_putTemplate hu hT).imp hbefore (congrArg some ·.symm)

/-- A server after a request has a document from before or that of the request. -/
theorem Makes.server_document (hs : c.inventory.Sound) (h : Makes settings outage c r change)
    {s : ServerId} {S : VpnServer} (hS : change.edited.servers.get? s = some S) :
    S.document ∈ c.inventory.documents ∨ r.document? = some S.document := by
  have hbefore : c.inventory.servers.get? s = some S → S.document ∈ c.inventory.documents :=
    fun hS => Inventory.mem_documents.mpr (Or.inr (Or.inr ⟨s, S, hS, rfl⟩))
  cases h.stores hs.devicesKeyed with
  | nothing hshares | addTemplate hshares | updateTemplate hshares | setOrganization hshares
  | setGroup hshares => exact Or.inl (hbefore (hshares.servers ▸ hS))
  | addServer hshares | updateServer hshares =>
      rw [hshares.servers, SortedMap.get?_insert] at hS
      split at hS
      · cases hS
        exact Or.inr rfl
      · exact Or.inl (hbefore hS)

/-- Every document after a request was there before, came with the request, or is empty. -/
theorem Makes.mem_documents (hs : c.inventory.Sound) (h : Makes settings outage c r change)
    (hj : j ∈ change.edited.documents) :
    j ∈ c.inventory.documents ∨ r.document? = some j ∨ j = .emptyObject := by
  rcases Inventory.mem_documents.mp hj with ⟨x, k, hk, rfl⟩ | ⟨t, T, hT, rfl⟩ | ⟨s, S, hS, rfl⟩
  · exact h.configuration_document hs hk
  · exact (h.template_document hs hT).imp_right Or.inl
  · exact (h.server_document hs hS).imp_right Or.inl

/-- Every document after an event was there before, came with the event, or is empty. -/
theorem mem_documents_after (hs : c.inventory.Sound) (e : Event)
    (hj : j ∈ (c.after settings e).inventory.documents) :
    j ∈ c.inventory.documents ∨ e.document? = some j ∨ j = .emptyObject := by
  cases e with
  | request outage r =>
      obtain ⟨change, hmakes, hfollows⟩ := answers_of_sound hs settings outage r
      exact hmakes.mem_documents hs (hfollows.marks.mem_documents hj)
  | pass seconds => exact Or.inl hj

/-- What holds of the empty document and of each document that came with an event holds of every
document that a run leads to. -/
theorem run_documents {p : Json → Prop} (hempty : p .emptyObject) {events : List Event}
    (hevents : ∀ e ∈ events, ∀ j ∈ e.document?, p j) (now : Nat) :
    ∀ j ∈ ((start .empty now).run settings events).inventory.documents, p j := by
  have hinv : ((start .empty now).run settings events).inventory.Sound ∧
      ∀ j ∈ ((start .empty now).run settings events).inventory.documents, p j := by
    refine run_keeps (I := fun c => c.inventory.Sound ∧ ∀ j ∈ c.inventory.documents, p j)
      (Q := fun e => ∀ j ∈ e.document?, p j) ?_ events hevents _ ⟨start_sound now, nofun⟩
    intro c e he hc
    refine ⟨after_sound hc.1 e, fun j hj => ?_⟩
    rcases mem_documents_after hc.1 e hj with hbefore | hnew | rfl
    · exact hc.2 j hbefore
    · exact he j hnew
    · exact hempty
  exact hinv.2

/-! ## Numbers in range -/

/-- A request keeps every mark within the bound. -/
theorem Makes.highWater_le_max (hs : c.inventory.Sound) (h : Makes settings outage c r change)
    (hbefore : ∀ s, c.inventory.tunnelIds.highWater s ≤ settings.maxTunnelId) (s : ServerId) :
    change.edited.tunnelIds.highWater s ≤ settings.maxTunnelId := by
  rcases h.tunnelIds hs.devicesKeyed with hids | ⟨client, stored, hinsert⟩
  · exact hids ▸ hbefore s
  · rcases Inventory.insertClient_tunnelIds hinsert with ⟨_, hids⟩ | ⟨id, _, _, hmax, _, hids⟩
    · exact hids ▸ hbefore s
    · rw [hids]
      by_cases hserver : stored.server = s
      · subst hserver
        rw [TunnelIds.highWater_raise_self]
        exact Nat.max_le.mpr ⟨hbefore _, hmax⟩
      · rw [TunnelIds.highWater_raise_ne hserver]
        exact hbefore s

/-- Every event keeps every mark within the bound. -/
theorem highWater_le_max_after (hs : c.inventory.Sound)
    (hbefore : ∀ s, c.inventory.tunnelIds.highWater s ≤ settings.maxTunnelId)
    (e : Event) (s : ServerId) :
    (c.after settings e).inventory.tunnelIds.highWater s ≤ settings.maxTunnelId := by
  cases e with
  | request outage r =>
      obtain ⟨change, hmakes, hfollows⟩ := answers_of_sound hs settings outage r
      show (c.perform settings outage r).2.inventory.tunnelIds.highWater s ≤ _
      rw [hfollows.marks.eq]
      exact hmakes.highWater_le_max hs hbefore s
  | pass seconds => exact hbefore s

/-- In a reachable controller no mark is above the bound. -/
theorem Reachable.highWater_le_max (h : Reachable settings c) (s : ServerId) :
    c.inventory.tunnelIds.highWater s ≤ settings.maxTunnelId := by
  have hinv : c.inventory.Sound ∧
      ∀ s, c.inventory.tunnelIds.highWater s ≤ settings.maxTunnelId := by
    refine h.keeps
      (I := fun c => c.inventory.Sound ∧
        ∀ s, c.inventory.tunnelIds.highWater s ≤ settings.maxTunnelId)
      ?_ ?_
    · exact fun now => ⟨start_sound now, fun s => Nat.zero_le _⟩
    · exact fun c e hc => ⟨after_sound hc.1 e, highWater_le_max_after hc.1 hc.2 e⟩
  exact hinv.2 s

/-- The numbers of a reachable controller fit the fields of a file as long as the bound of tunnel
ids and the number of templates do. -/
theorem Reachable.fits (h : Reachable settings c) (hmax : settings.maxTunnelId < UInt32.size)
    (hsequence : c.inventory.templateSequence < UInt64.size) : c.inventory.Fits where
  created e he :=
    Nat.lt_of_le_of_lt (h.orderly.templates.counted e.1 e.2 (SortedMap.get?_eq_some_iff.mpr he))
      hsequence
  vni client hclient vni hvni := by
    have hheld : vni ∈ c.inventory.heldIds client.server :=
      List.mem_filterMap.mpr ⟨client, List.mem_filter.mpr ⟨hclient, beq_self_eq_true _⟩, hvni⟩
    exact Nat.lt_of_le_of_lt (h.numbered.bounds _ vni hheld).2.1 hmax
  tunnelIds e he := by
    have hmark : c.inventory.tunnelIds.highWater e.1 = e.2 :=
      congrArg (Option.getD · 0) (SortedMap.get?_eq_some_iff.mpr he)
    exact Nat.lt_of_le_of_lt (hmark ▸ h.highWater_le_max e.1) hmax
  templateSequence := hsequence

/-! ## Saved and loaded -/

/-- The inventory of every run is loaded from the file that it was saved to exactly when each of its
documents is no deeper than its place in the file allows and has only numbers that read back; with a
document that is deeper the file is corrupted. -/
theorem loads_saved_iff (hmax : settings.maxTunnelId < UInt32.size) {now : Nat}
    {events : List Event} (hcanonical : ∀ e ∈ events, ∀ j ∈ e.document?, j.Canonical)
    (hc : c = (start .empty now).run settings events)
    (hsequence : c.inventory.templateSequence < UInt64.size) (savedAt : Nat) :
    (InventoryFile.load (some (InventoryFile.text savedAt c.inventory)) = .inventory c.inventory ↔
      ∀ j ∈ c.inventory.documents, j.depth ≤ InventoryFile.documentLevels ∧ j.NumbersReadBack) ∧
    ((∃ j ∈ c.inventory.documents, InventoryFile.documentLevels < j.depth) →
      InventoryFile.load (some (InventoryFile.text savedAt c.inventory)) =
        .corrupted .invalidJson) := by
  have hreach : Reachable settings c := ⟨now, events, hc⟩
  have hfits := hreach.fits hmax hsequence
  have hdocuments : ∀ j ∈ c.inventory.documents, j.Canonical := by
    rw [hc]
    exact run_documents (.object .nil nofun) hcanonical now
  exact ⟨InventoryFile.parse_text_eq_iff hfits hdocuments savedAt,
    fun hdeep => InventoryFile.parse_text_of_deep hfits hdeep savedAt⟩

/-- Objects that lie in one another. -/
def nestedSample : Nat → Json
  | 0 => .emptyObject
  | n + 1 => .object [("a", nestedSample n)]

/-- Each of them adds to the depth. -/
theorem depth_nestedSample (n : Nat) : (nestedSample n).depth = n + 1 := by
  induction n with
  | zero => rfl
  | succ n ih =>
      rw [nestedSample, Json.depth, Json.depthMembers, Json.depthMembers, ih]
      rfl

/-- Their members are in order. -/
theorem canonical_nestedSample (n : Nat) : (nestedSample n).Canonical := by
  induction n with
  | zero => exact .object .nil nofun
  | succ n ih => exact .object (List.pairwise_singleton _ _) (List.forall_mem_singleton.mpr ih)

/-- There is no number in them. -/
theorem numbersReadBack_nestedSample (n : Nat) : (nestedSample n).NumbersReadBack := by
  induction n with
  | zero => trivial
  | succ n ih => exact ⟨ih, trivial⟩

/-- A device with such a document is added and joins a server. -/
def nestingSample (n : Nat) : List Request :=
  [.addServer Sample.server,
    .addDevice Sample.device { Sample.configuration [] with document := nestedSample n },
    .attachClient Sample.client]

/-- With a document that just fits, the inventory is loaded from the file that it was saved to. -/
theorem loads_saved_nested :
    InventoryFile.load (some (InventoryFile.text 0
      (Sample.controller (nestingSample 122)).inventory)) =
      .inventory (Sample.controller (nestingSample 122)).inventory := by
  have hcanonical : ∀ e ∈ Sample.events (nestingSample 122), ∀ j ∈ e.document?, j.Canonical := by
    have hempty : Json.emptyObject.Canonical := canonical_nestedSample 0
    simp [Sample.events, nestingSample, Event.document?, Request.document?, Sample.server,
      canonical_nestedSample, hempty]
  have hdocuments : (Sample.controller (nestingSample 122)).inventory.documents =
      [nestedSample 122, .emptyObject] := by
    decide +kernel
  have hiff := (loads_saved_iff (c := Sample.controller (nestingSample 122)) (by decide)
    hcanonical rfl (by decide +kernel) 0).1
  rw [hdocuments] at hiff
  refine hiff.mpr (List.forall_mem_cons.mpr ⟨⟨?_, numbersReadBack_nestedSample 122⟩, ?_⟩)
  · rw [depth_nestedSample]
    decide
  · exact List.forall_mem_singleton.mpr ⟨by decide, trivial⟩

/-- With a document that is one level deeper every request is answered as before, but the file that
the inventory is saved to cannot be loaded. -/
theorem deep_document_lost :
    Reachable Sample.settings (Sample.controller (nestingSample 123)) ∧
      nestedSample 123 ∈ (Sample.controller (nestingSample 123)).inventory.documents ∧
      InventoryFile.load (some (InventoryFile.text 0
        (Sample.controller (nestingSample 123)).inventory)) =
        .corrupted .invalidJson := by
  have hreach := Sample.reachable (nestingSample 123)
  have hmem : nestedSample 123 ∈ (Sample.controller (nestingSample 123)).inventory.documents := by
    decide +kernel
  have hfits := hreach.fits (by decide) (by decide +kernel)
  refine ⟨hreach, hmem, InventoryFile.parse_text_of_deep hfits ⟨_, hmem, ?_⟩ 0⟩
  rw [depth_nestedSample]
  decide

end Controller

end Fleet
