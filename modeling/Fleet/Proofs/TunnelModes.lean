/-
# Clients follow the tunnel-id mode of their server

Whether a client holds a tunnel id of its own is settled when it joins: it does where the server
tells its clients apart by tunnel ids, which VXLAN servers do unless their document fixes one for
all.  As long as the server keeps to that, clients and server agree, and with a fixed tunnel id
every entry of the peer file has that one.  A server that is replaced by one of the other mode
leaves its clients as they are.

Main statement: `Controller.tunnelId_follows_mode`.
-/
import Fleet.Proofs.PeerLists

namespace Fleet

open Outcomes

/-! ## Joining -/

namespace Inventory

variable {inv inv' : Inventory} {maxTunnelId : Nat} {client stored : VpnClient}

/-- A new client gets a tunnel id if the server tells its clients apart by tunnel ids. -/
theorem isSome_of_tunnelIdFor {server : VpnServer} {vni : Option Nat} {ids : TunnelIds}
    (h : inv.tunnelIdFor server client maxTunnelId = .ok (vni, ids)) :
    vni.isSome = server.usesTunnelIds := by
  unfold tunnelIdFor at h
  split at h
  · rename_i huses
    rw [huses]
    dsimp only at h
    split at h
    · rw [map_eq_ok] at h
      obtain ⟨_, _, heq⟩ := h
      cases heq
      rfl
    · rw [map_eq_ok] at h
      obtain ⟨_, _, heq⟩ := h
      cases heq
      rfl
  · rename_i huses
    cases h
    rw [Bool.not_eq_true] at huses
    exact huses.symm

/-- So does a client that is stored. -/
theorem isSome_of_insertClient (h : inv.insertClient client maxTunnelId = .ok (stored, inv')) :
    ∃ server, inv.servers.get? stored.server = some server ∧
      stored.vni.isSome = server.usesTunnelIds := by
  obtain ⟨_, server, _, _, _, hserver, _, hids, rfl, _⟩ := insertClient_eq_ok h
  exact ⟨server, hserver, isSome_of_tunnelIdFor hids⟩

end Inventory

/-! ## Peer files -/

/-- The tunnel id in the entry of a peer: its own, or else the one that the server fixes. -/
theorem Peer.field?_vni_vxlanEntry (p : Peer) (server : VpnServer) :
    (p.vxlanEntry server).field? "vni" =
      some (((p.vni.or server.fixedVni?).map Json.ofNat).getD .null) := by
  have hremote : "remote" ≠ "vni" := by decide
  have hinterface : "interface" ≠ "vni" := by decide
  unfold vxlanEntry Json.ofMembers Json.field? Assoc.insertAll
  dsimp only
  cases server.vxlanInterface? with
  | none =>
      simp only [Option.map_none, Option.toList_none, List.foldl_cons, List.foldl_nil]
      rw [Assoc.find?_insert_ne hremote, Assoc.find?_insert_self]
  | some name =>
      simp only [Option.map_some, Option.toList_some, List.foldl_cons, List.foldl_nil]
      rw [Assoc.find?_insert_ne hinterface, Assoc.find?_insert_ne hremote, Assoc.find?_insert_self]

/-- A server that fixes a tunnel id does not tell its clients apart by tunnel ids. -/
theorem VpnServer.usesTunnelIds_of_fixedVni {server : VpnServer} {v : Nat}
    (h : server.fixedVni? = some v) : server.usesTunnelIds = false := by
  unfold usesTunnelIds
  rw [h]
  exact Bool.and_false _

/-! ## Members and their servers -/

namespace Controller

variable {settings : Settings} {c : Controller} {s : ServerId} {now : Nat} {events : List Event}

/-- A request makes a client a member of its server, while the server has this record. -/
def Joins (settings : Settings) (client : VpnClient) (server : VpnServer) (c : Controller)
    (r : Request) : Prop :=
  ∃ asked inv, r = .attachClient asked ∧
    c.inventory.insertClient asked settings.maxTunnelId = .ok (client, inv) ∧
    c.inventory.servers.get? client.server = some server

/-- A client joined its server while that had this record, and has been a member ever since. -/
def Joined (settings : Settings) (c : Controller) (events : List Event) (client : VpnClient)
    (server : VpnServer) : Prop :=
  EverSince settings (fun c e => e.Asks (Joins settings client server c))
    (fun c => client ∈ c.inventory.clients) c events

/-- A member holds a tunnel id if the server told its clients apart by tunnel ids when it joined. -/
theorem Joins.isSome_vni {client : VpnClient} {server : VpnServer} {r : Request}
    (h : Joins settings client server c r) : client.vni.isSome = server.usesTunnelIds := by
  obtain ⟨asked, inv, _, hinsert, hserver⟩ := h
  obtain ⟨server', hserver', hvni⟩ := Inventory.isSome_of_insertClient hinsert
  rw [hserver, Option.some.injEq] at hserver'
  rw [hserver']
  exact hvni

/-- A member was one before an event, or joins by it. -/
theorem mem_clients_or_joins (hs : c.inventory.Sound) {e : Event} {client : VpnClient}
    (hmem : client ∈ (c.after settings e).inventory.clients) :
    client ∈ c.inventory.clients ∨ ∃ server, e.Asks (Joins settings client server c) := by
  cases e with
  | request outage r =>
      obtain ⟨change, hmakes, hfollows⟩ := answers_of_sound hs settings outage r
      have hedited : client ∈ change.edited.clients := by
        rw [← hfollows.marks.clients]
        exact hmem
      refine (hmakes.mem_clients hs.devicesKeyed hedited).imp_right ?_
      rintro ⟨asked, rfl, hinsert⟩
      obtain ⟨server, hserver, _⟩ := Inventory.isSome_of_insertClient hinsert
      exact ⟨server, asked, _, rfl, hinsert, hserver⟩
  | pass seconds => exact Or.inl hmem

/-- Every member joined its server, and holds a tunnel id if that told its clients apart then. -/
theorem exists_joined {client : VpnClient}
    (hmem : client ∈ ((start .empty now).run settings events).inventory.clients) :
    ∃ server, Joined settings (start .empty now) events client server ∧
      client.vni.isSome = server.usesTunnelIds := by
  have hstart : ¬ client ∈ (start .empty now).inventory.clients := by
    intro hmem
    cases hmem
  -- The record is the one that the server had at the event that made the client a member.
  obtain ⟨earlier, e, later, hevents, ⟨server, hjoins⟩, hsince⟩ :=
    everSince_of_holds (I := fun c => c.inventory.Sound) (fun _ e hs => after_sound hs e)
      (fun c e hs hafter => mem_clients_or_joins hs hafter) (start_sound now) hstart hmem
  refine ⟨server, ⟨earlier, e, later, hevents, hjoins, hsince⟩, ?_⟩
  cases e with
  | request outage r => exact Joins.isSome_vni hjoins
  | pass seconds => cases hjoins

/-- After every run from an empty inventory, a client holds a tunnel id exactly if its server tells
its clients apart by tunnel ids, as long as the server does so exactly if it did when the client
joined; otherwise it is the other way round.  The peers of a server that fixes a tunnel id have that
one in their entries, as far as the same is true of the server and their clients. -/
theorem tunnelId_follows_mode (now : Nat) (events : List Event) :
    (∀ client ∈ ((start .empty now).run settings events).inventory.clients, ∃ server server₀,
      ((start .empty now).run settings events).inventory.servers.get? client.server = some server ∧
        Joined settings (start .empty now) events client server₀ ∧
        (client.vni.isSome = server.usesTunnelIds ↔ server.usesTunnelIds = server₀.usesTunnelIds)) ∧
      ∀ s peers, (((start .empty now).run settings events).peersFor s).1 = .ok peers → ∃ server,
        ((start .empty now).run settings events).inventory.servers.get? s = some server ∧
          ∀ v, server.fixedVni? = some v → ∀ p ∈ peers, ∃ client server₀,
            client.server = s ∧ client.peer? = some p ∧
              Joined settings (start .empty now) events client server₀ ∧
              (server.usesTunnelIds = server₀.usesTunnelIds →
                (p.vxlanEntry server).field? "vni" = some (.ofNat v)) := by
  have hreach : Reachable settings ((start .empty now).run settings events) := ⟨now, events, rfl⟩
  constructor
  · intro client hclient
    obtain ⟨server, hserver⟩ := (hreach.sound.devices client.device).joined client
      (Inventory.mem_clientsOf.mpr ⟨hclient, rfl⟩)
    obtain ⟨server₀, hjoined, hvni⟩ := exists_joined hclient
    refine ⟨server, server₀, hserver, hjoined, ?_⟩
    rw [hvni]
    exact eq_comm
  · intro s peers hpeers
    obtain ⟨⟨server, hserver⟩, rfl⟩ := hreach.warm.of_peersFor_eq_ok hpeers
    refine ⟨server, hserver, fun v hfixed p hp => ?_⟩
    obtain ⟨client, hclient, hpeer⟩ := List.mem_filterMap.mp hp
    obtain ⟨hmem, hs⟩ := Inventory.mem_clientsOn.mp hclient
    obtain ⟨server₀, hjoined, hvni⟩ := exists_joined hmem
    refine ⟨client, server₀, hs, hpeer, hjoined, fun hsame => ?_⟩
    have hnone : p.vni = none := by
      rw [← Option.not_isSome_iff_eq_none, VpnClient.vni_of_peer? hpeer, hvni, ← hsame,
        VpnServer.usesTunnelIds_of_fixedVni hfixed]
      exact Bool.false_ne_true
    rw [Peer.field?_vni_vxlanEntry, hnone, Option.none_or, hfixed]
    rfl

/-- The server with a document that fixes a tunnel id for all clients. -/
def fixedServer : VpnServer :=
  { Sample.server with
    document := .object [("vxlan", .array [.object [("vni", .ofNat 5)]])] }

/-- A device joins the server that fixes a tunnel id. -/
def fixedSample : List Request :=
  [.addServer fixedServer, .addDevice Sample.device (Sample.configuration []),
    .attachClient Sample.client]

/-- The client holds none then. -/
theorem tunnelId_follows_mode_sample :
    Sample.client ∈ (Sample.controller fixedSample).inventory.clients ∧ ∃ server server₀,
      (Sample.controller fixedSample).inventory.servers.get? Sample.server.id = some server ∧
        Joined Sample.settings (start .empty 0) (Sample.events fixedSample) Sample.client server₀ ∧
        (Sample.client.vni.isSome = server.usesTunnelIds ↔
          server.usesTunnelIds = server₀.usesTunnelIds) := by
  have hclient : Sample.client ∈ (Sample.controller fixedSample).inventory.clients := by
    decide +kernel
  exact ⟨hclient, (tunnelId_follows_mode 0 (Sample.events fixedSample)).1 _ hclient⟩

/-- A device joins a server that tells its clients apart by tunnel ids, and then the server
fixes one for all. -/
def replacedServerSample : List Request :=
  [.addServer Sample.server, .addDevice Sample.device (Sample.configuration []),
    .attachClient Sample.client, .updateServer fixedServer]

/-- A client of a server that fixes a tunnel id need not be without one, and its entry need not have
the one that is fixed. -/
theorem replaced_server_leaves_tunnelId :
    ¬ ∀ (settings : Settings) (c : Controller), Reachable settings c →
      (∀ client ∈ c.inventory.clients, ∀ server,
        c.inventory.servers.get? client.server = some server →
          client.vni.isSome = server.usesTunnelIds) ∧
        ∀ s server v peers, c.inventory.servers.get? s = some server → server.fixedVni? = some v →
          (c.peersFor s).1 = .ok peers →
            ∀ p ∈ peers, (p.vxlanEntry server).field? "vni" = some (.ofNat v) := by
  intro h
  have hentry := (h Sample.settings _ (Sample.reachable replacedServerSample)).2 Sample.server.id
    fixedServer 5 [⟨Sample.device.id, none, .v4 #v[10, 0, 0, 1], some 1⟩] (by decide +kernel)
    (by decide +kernel) (by decide +kernel) _ List.mem_cons_self
  rw [Peer.field?_vni_vxlanEntry] at hentry
  exact absurd hentry (by decide +kernel)

end Controller

end Fleet
