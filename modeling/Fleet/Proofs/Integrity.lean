/-
# Referential integrity

Devices, configurations, templates, servers and memberships are edited separately, and refer to one
another.  Three things are kept by every event beside soundness: templates are told apart and name
servers that exist, lists fit their backends, and memberships are of devices that exist, one for
each pair of a device and a server.

Main statements: `Controller.Makes.listsFit`, `Controller.Makes.membersPaired`,
`Controller.Reachable.integrity`.
-/
import Fleet.Proofs.Admission
import Fleet.Proofs.Failures
import Fleet.Proofs.Members
import Mathlib.Data.List.Nodup

namespace Fleet

open Outcomes

/-! ## Members -/

namespace Inventory

variable {inv inv' : Inventory}

/-- Memberships are of devices that exist, and there is one for a device and a server at most. -/
structure MembersPaired (inv : Inventory) : Prop where
  /-- The devices exist. -/
  devices : ∀ client ∈ inv.clients, ∃ d, inv.devices.get? client.device = some d
  /-- No two memberships are of one device in one server. -/
  pairs : (inv.clients.map fun client => (client.device, client.server)).Nodup

/-- A device that joins a server was not there before. -/
theorem nodup_pairs_insertClient {client stored : VpnClient} {maxTunnelId : Nat}
    (h : inv.insertClient client maxTunnelId = .ok (stored, inv'))
    (hpairs : (inv.clients.map fun client => (client.device, client.server)).Nodup) :
    (inv'.clients.map fun client => (client.device, client.server)).Nodup := by
  obtain ⟨_, _, _, _, _, _, hnone, _, rfl, rfl⟩ := insertClient_eq_ok h
  show ((inv.clients ++ [_]).map _).Nodup
  rw [List.map_append]
  refine hpairs.append (List.nodup_singleton _) (List.disjoint_singleton.mpr ?_)
  intro hmem
  -- Joining is refused where there is such a membership already.
  obtain ⟨other, hother, hpair⟩ := List.mem_map.mp hmem
  obtain ⟨hdevice, hserver⟩ := Prod.mk.inj hpair
  exact client?_eq_none.mp hnone other (mem_clientsOn.mpr ⟨hother, hserver⟩) hdevice

end Inventory

/-! ## What requests keep -/

namespace Controller

variable {settings : Settings} {outage : Outage} {c : Controller} {r : Request} {change : Change}

namespace Rewrites

variable {inv : Inventory} {x : DeviceId} {p d : Device} {k k' : Configuration}

/-- Lists go on fitting their backend. -/
theorem fits (h : Rewrites inv x r p k d k') (hc : inv.templates.Keyed)
    (hk : inv.templates.Fits k.backend k.templates) :
    inv.templates.Fits k'.backend k'.templates := by
  cases h with
  | same | replaced | signalled => exact hk
  | followed | regrouped => exact Catalog.fits_rescope hc hk _ _
  | completed =>
      dsimp only
      exact Catalog.fits_withRequired hc hk
  | relisted hts =>
      have hlisted := Request.Lists.fits hc hk hts
      exact hlisted
  | edited h =>
      cases h with
      | context => exact hk
      | document => exact hk
  | rebacked =>
      dsimp only
      exact Inventory.fits_movedTemplates hc _ _ _ _
  | deactivated =>
      intro t ht
      cases ht
  | activated =>
      dsimp only
      exact Inventory.fits_startingTemplates hc hk _ _

/-- Lists go on naming each template once. -/
theorem nodup (h : Rewrites inv x r p k d k') (hk : k.templates.Nodup) : k'.templates.Nodup := by
  cases h with
  | same | replaced | signalled => exact hk
  | followed | regrouped =>
      dsimp only
      exact Catalog.nodup_rescope
  | completed =>
      dsimp only
      exact Catalog.nodup_withRequired
  | rebacked =>
      dsimp only
      exact Inventory.nodup_movedTemplates
  | relisted hts => exact hts.nodup
  | edited h =>
      cases h with
      | context => exact hk
      | document => exact hk
  | deactivated => exact List.nodup_nil
  | activated => exact Inventory.nodup_startingTemplates

end Rewrites

/-- A request keeps lists fitting. -/
theorem Makes.listsFit (hs : c.inventory.Sound) (ht : c.inventory.TemplatesOrderly)
    (hl : c.inventory.ListsFit) (h : Makes settings outage c r change) :
    change.edited.ListsFit := by
  obtain ⟨_, hkeyed⟩ := (h.stores hs.devicesKeyed).grows hs.templates
  -- Before a list is rewritten it fits the templates as they are afterwards.
  have hbefore : ∀ x k, c.inventory.configurations.get? x = some k →
      change.edited.templates.Fits k.backend k.templates := by
    intro x k hk
    rcases h.admits hs ht hl with ⟨hsame, _⟩ | ⟨T, hT⟩
    · rw [hsame]
      exact (hl x k hk).1
    · exact hT.fits hk (hl x k hk).1
  intro x k' hk'
  cases h.turns hs.devicesKeyed (fun x => (hs.devices x).paired) x with
  | absent _ hnone =>
      rw [hnone] at hk'
      cases hk'
  | added _ _ _ husable _ hstored =>
      rw [hstored, Option.some.injEq] at hk'
      subst hk'
      constructor
      · dsimp only
        refine Inventory.fits_startingTemplates hkeyed ?_ _ _
        intro t hlisted
        obtain ⟨T, hT, hbackend, _⟩ := husable t hlisted
        exact ⟨T, hT, hbackend⟩
      · exact Inventory.nodup_startingTemplates
  | rewritten _ hk _ hstored hrewrites =>
      rw [hstored, Option.some.injEq] at hk'
      subst hk'
      exact ⟨hrewrites.fits hkeyed (hbefore x _ hk), hrewrites.nodup (hl x _ hk).2⟩

/-- The device of a membership that there is after a request existed before. -/
theorem Makes.device_of_mem (hs : c.inventory.Sound) (hm : c.inventory.MembersPaired)
    (h : Makes settings outage c r change) {client : VpnClient}
    (hclient : client ∈ change.edited.clients) :
    ∃ d, c.inventory.devices.get? client.device = some d := by
  rcases h.mem_clients hs.devicesKeyed hclient with hbefore | ⟨_, _, hinsert⟩
  · exact hm.devices client hbefore
  · obtain ⟨k, _, _, _, hk, _, _, _, rfl, _⟩ := Inventory.insertClient_eq_ok hinsert
    exact (hs.devices _).paired.mpr ⟨k, hk⟩

/-- A request keeps memberships paired. -/
theorem Makes.membersPaired (hs : c.inventory.Sound) (hm : c.inventory.MembersPaired)
    (h : Makes settings outage c r change) : change.edited.MembersPaired := by
  constructor
  · intro client hclient
    obtain ⟨d, hd⟩ := h.device_of_mem hs hm hclient
    -- Only a device that is removed ceases to exist, and its memberships go with it.
    cases h.counts hs.devicesKeyed with
    | kept h => exact h.devices _ d hd
    | removed h =>
        obtain ⟨_, _, _, _, _, heq⟩ := Inventory.removeDevice_eq_ok h
        rw [heq] at hclient ⊢
        obtain ⟨_, hne⟩ := List.mem_filter.mp hclient
        rw [bne_iff_ne] at hne
        exact ⟨d, (SortedMap.get?_erase_ne (Ne.symm hne) _).trans hd⟩
    | joined h =>
        obtain ⟨_, _, _, _, _, _, _, _, _, heq⟩ := Inventory.insertClient_eq_ok h
        rw [heq]
        exact ⟨d, hd⟩
    | added h =>
        obtain ⟨_, _, _, _, hr⟩ := Inventory.insertTemplate_eq_ok h
        rw [hr.eq]
        exact ⟨d, hd⟩
    | replaced h =>
        obtain ⟨_, _, _, _, _, hr⟩ := Inventory.replaceTemplate_eq_ok h
        rw [hr.eq]
        exact ⟨d, hd⟩
  · rcases h.clients hs.devicesKeyed with hsub | ⟨_, _, _, hinsert⟩
    · exact hm.pairs.sublist (hsub.map _)
    · exact Inventory.nodup_pairs_insertClient hinsert hm.pairs

end Controller

/-! ## What events keep -/

namespace Inventory

/-- What is kept beside soundness. -/
structure Orderly (inv : Inventory) : Prop where
  /-- Templates are in order. -/
  templates : inv.TemplatesOrderly
  /-- Lists fit. -/
  lists : inv.ListsFit
  /-- Memberships are paired. -/
  members : inv.MembersPaired

/-- Making configurations modified keeps everything in order. -/
theorem Orderly.of_marks {inv inv' : Inventory} {ids : List DeviceId} (h : inv.Orderly)
    (hmarks : Marks inv ids inv') : inv'.Orderly := by
  have hshares := hmarks.shares
  constructor
  · refine h.templates.of_eq hshares.templates ?_ (Grows.of_shares hshares)
    rw [hmarks.eq]
  · intro x k' hk'
    rw [hshares.templates]
    obtain ⟨k, hk, rfl | ⟨d, _, rfl⟩⟩ := hmarks.before hk'
    · exact h.lists x k' hk
    · exact h.lists x k hk
  · constructor
    · rw [hmarks.clients, hmarks.devices]
      exact h.members.devices
    · rw [hmarks.clients]
      exact h.members.pairs

/-- Without records everything is in order. -/
theorem orderly_empty : Orderly .empty := by
  constructor
  · constructor
    · intro t T hT
      cases hT
    · intro t u T U hT
      cases hT
    · intro t u T U hT
      cases hT
    · intro t T hT
      cases hT
  · intro x k hk
    cases hk
  · constructor
    · intro client hclient
      cases hclient
    · exact List.nodup_nil

end Inventory

namespace Controller

variable {settings : Settings} {c : Controller}

/-- Every event keeps everything in order. -/
theorem after_orderly (hs : c.inventory.Sound) (hc : c.inventory.Orderly) (e : Event) :
    (c.after settings e).inventory.Orderly := by
  cases e with
  | request outage r =>
      obtain ⟨change, hmakes, hfollows⟩ := answers_of_sound hs settings outage r
      have hedited : change.edited.Orderly :=
        ⟨hmakes.templatesOrderly hs hc.templates hc.lists,
          hmakes.listsFit hs hc.templates hc.lists, hmakes.membersPaired hs hc.members⟩
      exact hedited.of_marks hfollows.marks
  | pass seconds => exact hc

/-- In the inventory of a reachable controller everything is in order. -/
theorem Reachable.orderly (h : Reachable settings c) : c.inventory.Orderly := by
  have hinv : c.inventory.Sound ∧ c.inventory.Orderly := by
    refine h.keeps (I := fun c => c.inventory.Sound ∧ c.inventory.Orderly) ?_ ?_
    · exact fun now => ⟨start_sound now, Inventory.orderly_empty⟩
    · exact fun c e hinv => ⟨after_sound hinv.1 e, after_orderly hinv.1 hinv.2 e⟩
  exact hinv.2

end Controller

/-! ## Integrity -/

/-- Whatever a record refers to exists and fits. -/
structure Inventory.Integral (inv : Inventory) : Prop where
  /-- Devices and configurations have the same keys. -/
  keys : inv.devices.keys = inv.configurations.keys
  /-- Every list names templates of the backend of its configuration, each once. -/
  lists : ∀ x k, inv.configurations.get? x = some k →
    inv.templates.Fits k.backend k.templates ∧ k.templates.Nodup
  /-- Every membership is of a device and in a server that exist. -/
  members : ∀ client ∈ inv.clients,
    client.device ∈ inv.devices.keys ∧ client.server ∈ inv.servers.keys
  /-- No two memberships are of one device in one server. -/
  pairs : (inv.clients.map fun client => (client.device, client.server)).Nodup
  /-- Every VPN template refers to a server that exists. -/
  linked : ∀ t T, inv.templates.get? t = some T → T.kind = .vpn →
    ∃ s ∈ inv.servers.keys, T.vpn = some s
  /-- No two templates share name and scope. -/
  names : inv.templates.Separates fun T => (T.name, T.organization)
  /-- No two templates share their number. -/
  numbers : inv.templates.Separates Template.created

/-- A sound inventory in order has integrity. -/
theorem Inventory.Orderly.integral {inv : Inventory} (h : inv.Orderly) (hs : inv.Sound) :
    inv.Integral := by
  constructor
  · -- Both lists of keys ascend, so that it is enough to compare their members.
    apply Key.eq_of_ascending inv.devices.sorted_keys inv.configurations.sorted_keys
    intro x
    rw [SortedMap.mem_keys, SortedMap.mem_keys]
    exact (hs.devices x).paired
  · exact h.lists
  · intro client hclient
    constructor
    · rw [SortedMap.mem_keys]
      exact h.members.devices client hclient
    · rw [SortedMap.mem_keys]
      exact (hs.devices client.device).joined client (mem_clientsOf.mpr ⟨hclient, rfl⟩)
  · exact h.members.pairs
  · intro t T hT hkind
    obtain ⟨s, S, hs, hS⟩ := h.templates.linked t T hT hkind
    exact ⟨s, SortedMap.mem_keys.mpr ⟨S, hS⟩, hs⟩
  · exact h.templates.names
  · exact h.templates.numbers

/-- A device with a template of its server joins it; the document of its configuration has no list
where one belongs. -/
def Sample.misshapen : List Request :=
  [.addServer Sample.server,
    .addTemplate { Sample.template with kind := .vpn, vpn := some Sample.server.id },
    .addDevice Sample.device { Sample.configuration [Sample.template.id] with
      document := .object [("interfaces", .string "eth0")] },
    .attachClient Sample.client]

namespace Controller

variable {settings : Settings} {c : Controller}

/-- Whatever a record of a reachable controller refers to exists and fits.  So rendering a device
that exists never fails for a record that is not found, an unknown template among them, or for one
that is written for another backend. -/
theorem Reachable.integrity (h : Reachable settings c) :
    c.inventory.Integral ∧
      ∀ x d e, c.inventory.devices.get? x = some d → c.render settings x = .error e →
        e.kind ≠ .notFound ∧ e.kind ≠ .backendMismatch := by
  have hs := h.sound
  have horderly := h.orderly
  constructor
  · exact horderly.integral hs
  · intro x d e hd herror
    obtain ⟨k, hk⟩ := hs.configured x d hd
    have hfails : FailsWith Error.IsContent (c.render settings x) :=
      Inventory.render_failsWith hd hk (hs.devices x).joined hs.templates
        (horderly.lists x k hk).1 _
    have hcontent : e.IsContent := hfails e herror
    exact hcontent.kind_ne

/-- A device is refused for the shape of its document, although all that its records
refer to exists. -/
theorem integrity_sample :
    (Sample.controller Sample.misshapen).inventory.Integral ∧
      (Sample.controller Sample.misshapen).inventory.clients.length = 1 ∧
      ∃ e, (Sample.controller Sample.misshapen).render Sample.settings Sample.device.id = .error e ∧
        e.kind ≠ .notFound ∧ e.kind ≠ .backendMismatch := by
  obtain ⟨hintegral, hrender⟩ := (Sample.reachable Sample.misshapen).integrity
  have hdevice : (Sample.controller Sample.misshapen).inventory.devices.get? Sample.device.id =
      some Sample.device := by
    decide +kernel
  have hrefused : (Sample.controller Sample.misshapen).render Sample.settings Sample.device.id =
      .error (.schemaViolation "/interfaces" "must be a list") := by
    decide +kernel
  refine ⟨hintegral, ?_, _, hrefused, ?_⟩
  · decide +kernel
  · exact hrender Sample.device.id Sample.device _ hdevice hrefused

end Controller

end Fleet
