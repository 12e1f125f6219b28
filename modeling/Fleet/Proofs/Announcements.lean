/-
# What is announced

Whoever follows the notices about a device knows the state of its configuration, from the moment the
device is added until it is removed.  Whoever follows the notices about a server never misses that
its peers changed, however the calls of the store fail.

Main statements: `Controller.run_leads_from_modified`, `Controller.announced_of_peersFor_ne`.
-/
import Fleet.Proofs.Course

namespace Fleet.Controller

variable {settings : Settings} {outage : Outage} {c : Controller} {x : DeviceId}

/-! ## States -/

/-- What is modified stays so when it is told of a change. -/
theorem marked_modified (active : Bool) : Status.modified.marked active = .modified := by
  cases active <;> rfl

/-- Adding a device announces nothing. -/
theorem addDevice_notices (d : Device) (configuration : Configuration) :
    (c.addDevice outage d configuration).2.notices = c.notices := by
  unfold addDevice
  split
  · rfl
  · rw [invalidate_snd]
    dsimp only
    rw [commit_notices, List.map_nil, List.append_nil]

/-- A device comes into being with the request that adds it, which announces nothing and leaves the
configuration modified. -/
theorem added_of_after (hs : c.inventory.Sound) {e : Event} {d : Device}
    (habsent : c.inventory.devices.get? x = none)
    (hd : (c.after settings e).inventory.devices.get? x = some d) :
    (∃ outage configuration, e = .request outage (.addDevice d configuration)) ∧
      (c.after settings e).notices = c.notices ∧
      ∃ k, (c.after settings e).inventory.configurations.get? x = some k ∧
        k.status = .modified := by
  cases e with
  | pass seconds =>
      rw [show (c.after settings (.pass seconds)).inventory = c.inventory from rfl, habsent] at hd
      cases hd
  | request outage r =>
      obtain ⟨change, hmakes, hfollows⟩ := answers_of_sound hs settings outage r
      have hdevices := hfollows.marks.devices
      have hd' : change.edited.devices.get? x = some d := hdevices ▸ hd
      cases hmakes.turns hs.devicesKeyed (fun x => (hs.devices x).paired) x with
      | absent hnone =>
          rw [hnone] at hd'
          cases hd'
      | rewritten hp =>
          rw [habsent] at hp
          cases hp
      | @added d₀ k _ _ _ _ hd₀ hk₀ =>
          have hsame : d₀ = d := Option.some.inj (hd₀.symm.trans hd')
          subst hsame
          refine ⟨⟨outage, k, rfl⟩, addDevice_notices d₀ k, ?_⟩
          -- Whether or not the request made it modified, it was so from the start.
          obtain ⟨s, hk⟩ := hfollows.marks.after hk₀
          refine ⟨_, hk, ?_⟩
          obtain ⟨k₁, hk₁, hor⟩ := hfollows.marks.before hk
          rw [hk₀, Option.some.injEq] at hk₁
          subst hk₁
          rcases hor with hsame | ⟨d₁, _, hmarked⟩
          · rw [hsame]
          · rw [hmarked]
            exact marked_modified d₁.active

/-- While a device is there the notices of a run lead from one state of its
configuration to another. -/
theorem run_leads (events : List Event) :
    ∀ {c : Controller} {k : Configuration}, c.inventory.Sound →
      c.inventory.configurations.get? x = some k →
      (∀ front, front <+: events → ∃ d, (c.run settings front).inventory.devices.get? x = some d) →
      ∃ ns k', (c.run settings events).notices = c.notices ++ ns ∧
        (c.run settings events).inventory.configurations.get? x = some k' ∧
        k.status.Leads (Notice.changesOf x ns) k'.status := by
  induction events with
  | nil =>
      intro c k _ hk _
      exact ⟨[], k, (List.append_nil _).symm, hk, .nil _⟩
  | cons e rest ih =>
      intro c k hs hk hpresent
      have hs₁ : (c.after settings e).inventory.Sound := after_sound hs e
      have hrest : ∀ front, front <+: rest →
          ∃ d, ((c.after settings e).run settings front).inventory.devices.get? x = some d :=
        fun front hfront => hpresent (e :: front) (List.cons_prefix_cons.mpr ⟨rfl, hfront⟩)
      -- The device is there after the event, and with it a configuration from which the
      -- rest goes on.
      obtain ⟨d, hd⟩ := hrest [] List.nil_prefix
      obtain ⟨k₁, hk₁⟩ := hs₁.configured x d hd
      obtain ⟨first, htold⟩ := after_told hs settings e
      obtain ⟨others, k', hothers, hk', hleads⟩ := ih hs₁ hk₁ hrest
      refine ⟨first ++ others, k', ?_, hk', ?_⟩
      · rw [← List.append_assoc, ← htold.notices]
        exact hothers
      · rw [Notice.changesOf_append]
        exact hleads.append (htold.states x k k₁ hk hk₁)

/-- In every run from an empty inventory, the notices about a device from the event that brings it
into being, for as long as it is there, lead from modified to the state of its configuration: the
event adds the device, each change starts where the one before ended and ends elsewhere, and being
told of a change never changes a configuration that is modified. -/
theorem run_leads_from_modified (settings : Settings) (now : Nat) (earlier later : List Event)
    (e : Event)
    (habsent : ((start .empty now).run settings earlier).inventory.devices.get? x = none)
    (hpresent : ∀ front, front <+: later →
      ∃ d, ((start .empty now).run settings (earlier ++ e :: front)).inventory.devices.get? x =
        some d) :
    (∃ outage d configuration, e = .request outage (.addDevice d configuration)) ∧
      ∃ ns k, ((start .empty now).run settings (earlier ++ e :: later)).notices =
          ((start .empty now).run settings earlier).notices ++ ns ∧
        ((start .empty now).run settings (earlier ++ e :: later)).inventory.configurations.get? x =
          some k ∧
        Status.modified.Leads (Notice.changesOf x ns) k.status ∧
        ∀ reason current, .statusChanged x .modified current (.modified reason) ∉ ns := by
  have hs : ((start .empty now).run settings earlier).inventory.Sound :=
    Reachable.sound ⟨now, earlier, rfl⟩
  have hrun : ∀ front, (start .empty now).run settings (earlier ++ e :: front) =
      (((start .empty now).run settings earlier).after settings e).run settings front := by
    intro front
    unfold run
    rw [List.foldl_append, List.foldl_cons]
  simp only [hrun] at hpresent ⊢
  obtain ⟨d, hd⟩ := hpresent [] List.nil_prefix
  obtain ⟨⟨outage, configuration, he⟩, hquiet, k, hk, hmodified⟩ := added_of_after hs habsent hd
  obtain ⟨ns, k', hns, hk', hleads⟩ := run_leads later (after_sound hs e) hk hpresent
  rw [hmodified] at hleads
  rw [hquiet] at hns
  refine ⟨⟨outage, d, configuration, he⟩, ns, k', hns, hk', hleads, fun reason current hmem => ?_⟩
  -- Each change leads elsewhere, but from modified this signal leads to modified.
  have hchange : (⟨.modified, current, .modified reason⟩ : StatusChange) ∈ Notice.changesOf x ns :=
    Notice.mem_changesOf.mpr hmem
  obtain ⟨hne, active, hafter⟩ := hleads.mem hchange
  rw [Status.after_modified, marked_modified, Except.ok.injEq] at hafter
  exact hne hafter.symm

/-- A device is added while the store drops nothing. -/
def addedSample : Event :=
  .request Sample.deletesFail (.addDevice Sample.device (Sample.configuration []))

/-- It applies its configuration, gets other variables while the store drops nothing, is told to
change once more, and fails. -/
def announcedSample : List Event :=
  [.request .none (.send Sample.device.id .applied),
    .request Sample.deletesFail (.setContext Sample.device.id (.ofList [("a", "b")])),
    .request .none (.send Sample.device.id (.modified .manual)),
    .request .none (.send Sample.device.id .failed)]

/-- Three notices lead to the failure. -/
theorem run_leads_from_modified_sample :
    (∀ n < 5, ((start .empty 0).run Sample.settings
      ([] ++ addedSample :: announcedSample.take n)).inventory.devices.get? Sample.device.id =
        some Sample.device) ∧
      ∃ ns k, ((start .empty 0).run Sample.settings
          ([] ++ addedSample :: announcedSample)).notices = [] ++ ns ∧
        Status.modified.Leads (Notice.changesOf Sample.device.id ns) k ∧
        Notice.changesOf Sample.device.id ns =
          [⟨.modified, .applied, .applied⟩, ⟨.applied, .modified, .modified .context⟩,
            ⟨.modified, .error, .failed⟩] := by
  have hpresent : ∀ n < 5, ((start .empty 0).run Sample.settings
      ([] ++ addedSample :: announcedSample.take n)).inventory.devices.get? Sample.device.id =
        some Sample.device := by
    decide +kernel
  obtain ⟨_, ns, k, hns, _, hleads, _⟩ := run_leads_from_modified (x := Sample.device.id)
    Sample.settings 0 [] announcedSample addedSample rfl fun front hfront => by
      rw [List.prefix_iff_eq_take.mp hfront]
      exact ⟨_, hpresent front.length (Nat.lt_succ_of_le hfront.length_le)⟩
  refine ⟨hpresent, ns, k.status, hns, hleads, ?_⟩
  have hpublished : ns = ((start .empty 0).run Sample.settings
      ([] ++ addedSample :: announcedSample)).notices := hns.symm
  rw [hpublished]
  decide +kernel

/-! ## Peers -/

/-- However the calls of the store fail, a request after which a server that existed has other peers
has announced that. -/
theorem announced_of_peersFor_ne (hreach : Reachable settings c) (outage : Outage) (r : Request)
    {s : ServerId} {S : VpnServer} (hS : c.inventory.servers.get? s = some S)
    (hne : ((c.perform settings outage r).2.peersFor s).1 ≠ (c.peersFor s).1) :
    ∃ ns, (c.perform settings outage r).2.notices = c.notices ++ ns ∧ .peersChanged s ∈ ns := by
  have hs := hreach.sound
  obtain ⟨ns, htold⟩ := perform_told hs settings outage r
  refine ⟨ns, htold.notices, ?_⟩
  rcases htold.members s with hmem | hmembers
  · exact hmem
  · -- With the same members both answer the same, since their lists are those they would collect.
    exfalso
    have hwarm : (c.perform settings outage r).2.Warm :=
      after_warm hs hreach.warm (.request outage r)
    have hstay : ServersStay c (c.perform settings outage r).2 := perform_serversStay hs r
    obtain ⟨S', hS'⟩ := hstay s S hS
    apply hne
    refine hreach.warm.peersFor_eq hwarm ?_ hmembers
    unfold SortedMap.contains
    rw [hS, hS']
    rfl

/-- A device that joined a server is removed while the store drops nothing: the peers are others
then, and that is announced. -/
theorem announced_of_peersFor_ne_sample :
    (((Sample.controller Sample.joining).perform Sample.settings Sample.deletesFail
        (.removeDevice Sample.device.id)).2.peersFor Sample.server.id).1 ≠
      ((Sample.controller Sample.joining).peersFor Sample.server.id).1 ∧
    ∃ ns, ((Sample.controller Sample.joining).perform Sample.settings Sample.deletesFail
        (.removeDevice Sample.device.id)).2.notices =
          (Sample.controller Sample.joining).notices ++ ns ∧
      .peersChanged Sample.server.id ∈ ns := by
  have hS : (Sample.controller Sample.joining).inventory.servers.get? Sample.server.id =
      some Sample.server := by
    decide +kernel
  have hne : (((Sample.controller Sample.joining).perform Sample.settings Sample.deletesFail
        (.removeDevice Sample.device.id)).2.peersFor Sample.server.id).1 ≠
      ((Sample.controller Sample.joining).peersFor Sample.server.id).1 := by
    decide +kernel
  exact ⟨hne,
    announced_of_peersFor_ne (Sample.reachable Sample.joining) Sample.deletesFail _ hS hne⟩

end Fleet.Controller
