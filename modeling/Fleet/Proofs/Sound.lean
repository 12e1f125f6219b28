/-
# Sound inventories

An inventory is sound when every device is stored under its own identifier together with a
configuration, devices in use have configurations in use, and the templates and servers
that configurations and memberships name exist.  Every request keeps inventories sound,
whatever the store does.

Main statements: `Controller.Makes.sound`, `Controller.Reachable.sound`.
-/
import Fleet.Proofs.Answers
import Fleet.Proofs.Listings
import Fleet.Proofs.Runs
import Fleet.Proofs.Turns

namespace Fleet

/-! ## Soundness -/

namespace Inventory

/-- What is stored for a device fits together. -/
structure SoundAt (inv : Inventory) (x : DeviceId) : Prop where
  /-- The device is stored under its own identifier. -/
  keyed : ∀ d, inv.devices.get? x = some d → d.id = x
  /-- There is a device where there is a configuration. -/
  paired : (∃ d, inv.devices.get? x = some d) ↔ ∃ k, inv.configurations.get? x = some k
  /-- The configuration of a device in use is not deactivated. -/
  inUse : ∀ d k, inv.devices.get? x = some d → inv.configurations.get? x = some k →
    d.active = true → k.status.isDeactivation = false
  /-- The templates on the list exist. -/
  listed : ∀ k, inv.configurations.get? x = some k → inv.templates.Knows k.templates
  /-- The servers that the device joined exist. -/
  joined : ∀ client ∈ inv.clientsOf x, ∃ s, inv.servers.get? client.server = some s

/-- Everything that is stored fits together. -/
structure Sound (inv : Inventory) : Prop where
  /-- Every template is stored under its own identifier. -/
  templates : inv.templates.Keyed
  /-- What is stored for each device fits together. -/
  devices : ∀ x, inv.SoundAt x

/-- Templates and servers that exist in the first inventory exist in the second. -/
structure Grows (inv inv' : Inventory) : Prop where
  /-- The templates. -/
  templates : ∀ t T, inv.templates.get? t = some T → ∃ T', inv'.templates.get? t = some T'
  /-- The servers. -/
  servers : ∀ s S, inv.servers.get? s = some S → ∃ S', inv'.servers.get? s = some S'

variable {inv inv' : Inventory} {x : DeviceId} {d : Device} {k : Configuration}

namespace Sound

/-- The devices are keyed. -/
theorem devicesKeyed (h : inv.Sound) : inv.DevicesKeyed :=
  fun x => (h.devices x).keyed

/-- A device has a configuration. -/
theorem configured (h : inv.Sound) (x : DeviceId) (d : Device)
    (hd : inv.devices.get? x = some d) : ∃ k, inv.configurations.get? x = some k :=
  (h.devices x).paired.mp ⟨d, hd⟩

end Sound

namespace Grows

/-- An inventory that shares everything has the same templates and servers. -/
theorem of_shares (h : SharesWith inv inv') : Grows inv inv' := by
  refine ⟨fun t T ht => ⟨T, ?_⟩, fun s S hs => ⟨S, ?_⟩⟩
  · rw [h.templates, ht]
  · rw [h.servers, hs]

/-- A template that is stored hides none. -/
theorem putTemplate (inv : Inventory) (T : Template) (n : Nat) :
    Grows inv (inv.putTemplate T n) := by
  refine ⟨fun t T' ht => ?_, fun s S hs => ⟨S, hs⟩⟩
  unfold Inventory.putTemplate
  dsimp only
  rw [SortedMap.get?_insert]
  split
  · exact ⟨T, rfl⟩
  · exact ⟨T', ht⟩

/-- A server that is stored hides none. -/
theorem insert_server (inv : Inventory) (id : ServerId) (S : VpnServer) :
    Grows inv { inv with servers := inv.servers.insert id S } := by
  refine ⟨fun t T ht => ⟨T, ht⟩, fun s S' hs => ?_⟩
  dsimp only
  rw [SortedMap.get?_insert]
  split
  · exact ⟨S, rfl⟩
  · exact ⟨S', hs⟩

/-- Lists that exist go on existing. -/
theorem knows (h : Grows inv inv') {ts : List TemplateId} (hts : inv.templates.Knows ts) :
    inv'.templates.Knows ts := by
  intro t ht
  obtain ⟨T, hT⟩ := hts t ht
  exact h.templates t T hT

/-- Growth is passed on. -/
theorem trans {inv'' : Inventory} (h : Grows inv inv') (h' : Grows inv' inv'') :
    Grows inv inv'' := by
  refine ⟨fun t T ht => ?_, fun s S hs => ?_⟩
  · obtain ⟨T', hT'⟩ := h.templates t T ht
    exact h'.templates t T' hT'
  · obtain ⟨S', hS'⟩ := h.servers s S hs
    exact h'.servers s S' hS'

end Grows

namespace SoundAt

/-- What is stored for a device in use or not fits together. -/
theorem intro (hd : inv.devices.get? x = some d) (hk : inv.configurations.get? x = some k)
    (hid : d.id = x) (huse : d.active = true → k.status.isDeactivation = false)
    (hlisted : inv.templates.Knows k.templates)
    (hjoined : ∀ client ∈ inv.clientsOf x, ∃ s, inv.servers.get? client.server = some s) :
    inv.SoundAt x := by
  refine ⟨fun d' hd' => ?_, ⟨fun _ => ⟨k, hk⟩, fun _ => ⟨d, hd⟩⟩, fun d' k' hd' hk' ha => ?_,
    fun k' hk' => ?_, hjoined⟩
  · rw [hd, Option.some.injEq] at hd'
    rwa [← hd']
  · rw [hd, Option.some.injEq] at hd'
    rw [hk, Option.some.injEq] at hk'
    rw [← hk']
    exact huse (hd' ▸ ha)
  · rw [hk, Option.some.injEq] at hk'
    rwa [← hk']

/-- A device whose configuration is deactivated is out of use. -/
theorem inactive (h : inv.SoundAt x) (hd : inv.devices.get? x = some d)
    (hk : inv.configurations.get? x = some k) (hdeactivation : k.status.isDeactivation = true) :
    d.active = false := by
  rw [← Bool.not_eq_true]
  intro hactive
  have huse := h.inUse d k hd hk hactive
  rw [hdeactivation] at huse
  cases huse

/-- Only memberships can be stored for a device that does not exist. -/
theorem of_none (hd : inv.devices.get? x = none) (hk : inv.configurations.get? x = none)
    (hjoined : ∀ client ∈ inv.clientsOf x, ∃ s, inv.servers.get? client.server = some s) :
    inv.SoundAt x := by
  refine ⟨?_, ?_, ?_, ?_, hjoined⟩ <;> simp [hd, hk]

end SoundAt

end Inventory

/-! ## What requests keep -/

namespace Controller

variable {settings : Settings} {outage : Outage} {c : Controller} {r : Request} {change : Change}

namespace Rewrites

variable {inv : Inventory} {x : DeviceId} {p d : Device} {k k' : Configuration}

/-- Devices keep their identifiers. -/
theorem id_eq (h : Rewrites inv x r p k d k') (hp : p.id = x) : d.id = x := by
  cases h with
  | replaced hid | followed hid => exact hid
  | _ => exact hp

/-- A device in use goes on having a configuration in use. -/
theorem inUse (h : Rewrites inv x r p k d k')
    (huse : p.active = true → k.status.isDeactivation = false) :
    d.active = true → k'.status.isDeactivation = false := by
  intro ha
  cases h.moves with
  | stays hactive hstatus =>
      rw [hstatus]
      exact huse (hactive.symm.trans ha)
  | signalled hactive hstatus _ hdeactivate =>
      exact Status.isDeactivation_of_after hstatus (huse (hactive.symm.trans ha)) hdeactivate
  | deactivated hactive =>
      rw [ha] at hactive
      cases hactive
  | activated _ hstatus =>
      rw [hstatus]
      rfl

/-- Lists go on naming templates that exist. -/
theorem knows (h : Rewrites inv x r p k d k') (hc : inv.templates.Keyed)
    (hk : inv.templates.Knows k.templates) : inv.templates.Knows k'.templates := by
  cases h with
  | same | replaced | signalled => exact hk
  | followed | regrouped => exact Catalog.knows_rescope hc
  | completed => exact Catalog.knows_withRequired hc
  | relisted hts => exact hts.knows hc
  | edited h =>
      cases h with
      | context => exact hk
      | document => exact hk
  | rebacked =>
      dsimp only
      exact Inventory.knows_movedTemplates hc _ _ _ _
  | deactivated =>
      intro t ht
      cases ht
  | activated => exact Inventory.knows_startingTemplates hc

end Rewrites

/-- Templates and servers are stored under their own identifiers, and none is taken away. -/
theorem Stores.grows {inv inv' : Inventory} (h : Stores inv inv' r) (hc : inv.templates.Keyed) :
    Inventory.Grows inv inv' ∧ inv'.templates.Keyed := by
  cases h with
  | nothing hs => exact ⟨Inventory.Grows.of_shares hs, hs.templates ▸ hc⟩
  | addTemplate hs | updateTemplate hs =>
      exact ⟨(Inventory.Grows.putTemplate _ _ _).trans (Inventory.Grows.of_shares hs),
        hs.templates ▸ hc.insert rfl⟩
  | addServer hs | updateServer hs =>
      exact ⟨(Inventory.Grows.insert_server _ _ _).trans (Inventory.Grows.of_shares hs),
        hs.templates ▸ hc⟩
  | setOrganization hs | setGroup hs =>
      have hgrows := Inventory.Grows.of_shares hs
      exact ⟨⟨hgrows.templates, hgrows.servers⟩, hs.templates ▸ hc⟩

/-- The servers that a device joined exist after a request. -/
theorem Makes.joined (hs : c.inventory.Sound) (h : Makes settings outage c r change)
    (hgrows : Inventory.Grows c.inventory change.edited) (x : DeviceId) :
    ∀ client ∈ change.edited.clientsOf x,
      ∃ s, change.edited.servers.get? client.server = some s := by
  intro client hclient
  obtain ⟨hmem, hdevice⟩ := Inventory.mem_clientsOf.mp hclient
  rcases h.mem_clients hs.devicesKeyed hmem with hbefore | ⟨_, _, hinsert⟩
  · obtain ⟨s, hserver⟩ := (hs.devices x).joined client
      (Inventory.mem_clientsOf.mpr ⟨hbefore, hdevice⟩)
    exact hgrows.servers _ s hserver
  · obtain ⟨_, s, _, _, _, hserver, _, _, rfl, _⟩ := Inventory.insertClient_eq_ok hinsert
    exact hgrows.servers _ s hserver

/-- A request keeps what is stored for a device fitting together. -/
theorem Makes.soundAt (hs : c.inventory.Sound) (h : Makes settings outage c r change)
    (hgrows : Inventory.Grows c.inventory change.edited) (hkeyed : change.edited.templates.Keyed)
    (x : DeviceId) : change.edited.SoundAt x := by
  have hat := hs.devices x
  have hjoined := h.joined hs hgrows x
  cases h.turns hs.devicesKeyed (fun x => (hs.devices x).paired) x with
  | absent hd hk => exact Inventory.SoundAt.of_none hd hk hjoined
  | added hid _ _ _ hd hk =>
      exact Inventory.SoundAt.intro hd hk hid (fun _ => rfl)
        (Inventory.knows_startingTemplates hkeyed) hjoined
  | rewritten hp hk hd hk' hrewrites =>
      have hid := hrewrites.id_eq (hat.keyed _ hp)
      have hlisted := hrewrites.knows hkeyed (hgrows.knows (hat.listed _ hk))
      exact Inventory.SoundAt.intro hd hk' hid (hrewrites.inUse (hat.inUse _ _ hp hk))
        hlisted hjoined

/-- A request keeps the inventory sound. -/
theorem Makes.sound (hs : c.inventory.Sound) (h : Makes settings outage c r change) :
    change.edited.Sound := by
  obtain ⟨hgrows, hkeyed⟩ := (h.stores hs.devicesKeyed).grows hs.templates
  exact ⟨hkeyed, h.soundAt hs hgrows hkeyed⟩

end Controller

/-- Making configurations modified keeps the inventory sound. -/
theorem Inventory.Marks.sound {inv inv' : Inventory} {ids : List DeviceId}
    (h : Inventory.Marks inv ids inv') (hs : inv.Sound) : inv'.Sound := by
  refine ⟨h.shares.templates ▸ hs.templates, fun x => ?_⟩
  have hat := hs.devices x
  have hjoined : ∀ client ∈ inv'.clientsOf x, ∃ s, inv'.servers.get? client.server = some s := by
    intro client hclient
    rw [mem_clientsOf, h.clients] at hclient
    rw [h.shares.servers]
    exact hat.joined client (mem_clientsOf.mpr hclient)
  cases hk : inv.configurations.get? x with
  | none =>
      have hd : inv.devices.get? x = none := by
        apply Option.eq_none_iff_forall_ne_some.mpr
        intro d hd
        obtain ⟨k, hk'⟩ := hat.paired.mp ⟨d, hd⟩
        rw [hk] at hk'
        cases hk'
      exact SoundAt.of_none (h.devices ▸ hd) ((h.kept x (Or.inr (Or.inr hk))).trans hk) hjoined
  | some k =>
      obtain ⟨d, hd⟩ := hat.paired.mpr ⟨k, hk⟩
      obtain ⟨s, hk'⟩ := h.after hk
      have hd' : inv'.devices.get? x = some d := h.devices ▸ hd
      refine SoundAt.intro hd' hk' (hat.keyed d hd) (fun ha => ?_) ?_ hjoined
      · have hold := hat.inUse d k hd hk ha
        obtain ⟨k₀, hk₀, hor⟩ := h.before hk'
        have : k₀ = k := Option.some.inj (hk₀.symm.trans hk)
        subst this
        rcases hor with hsame | ⟨d', hd', hmarked⟩
        · rw [hsame]
          exact hold
        · rw [hmarked]
          exact (Status.isDeactivation_marked _ _).trans hold
      · rw [h.shares.templates]
        exact hat.listed k hk

namespace Controller

variable {settings : Settings} {c : Controller}

/-- Where the inventory is sound every answer does what its request may do. -/
theorem answers_of_sound (hs : c.inventory.Sound) (settings : Settings) (outage : Outage)
    (r : Request) : Answers settings outage c r (c.perform settings outage r).2 :=
  perform_answers settings outage hs.devicesKeyed hs.configured r

/-- Every event keeps the inventory sound. -/
theorem after_sound (hs : c.inventory.Sound) (e : Event) :
    (c.after settings e).inventory.Sound := by
  cases e with
  | request outage r =>
      obtain ⟨change, hmakes, hfollows⟩ := answers_of_sound hs settings outage r
      exact hfollows.marks.sound (hmakes.sound hs)
  | pass seconds => exact hs

/-- Starting without records gives a sound inventory. -/
theorem start_sound (now : Nat) : (start .empty now).inventory.Sound := by
  refine ⟨?_, fun x => ⟨?_, ?_, ?_, ?_, ?_⟩⟩
  · intro t T ht
    cases ht
  · intro d hd
    cases hd
  · constructor
    · rintro ⟨d, hd⟩
      cases hd
    · rintro ⟨k, hk⟩
      cases hk
  · intro d k hd
    cases hd
  · intro k hk
    cases hk
  · intro client hclient
    cases hclient

/-- Every run keeps the inventory sound. -/
theorem run_sound (hs : c.inventory.Sound) (events : List Event) :
    (c.run settings events).inventory.Sound :=
  run_keeps (I := fun c => c.inventory.Sound) (Q := fun _ => True)
    (fun _ e _ hs => after_sound hs e) events (fun _ _ => trivial) c hs

/-- The inventory of a reachable controller is sound. -/
theorem Reachable.sound (h : Reachable settings c) : c.inventory.Sound := by
  obtain ⟨now, events, rfl⟩ := h
  exact run_sound (start_sound now) events

end Controller

end Fleet
