/-
# Peer lists that are kept agree with the records

The list of a server is kept once somebody looked.  A client that joins is appended to it, and
whenever memberships end the lists of their servers are dropped, also where the memberships end with
something else.  So every list that is kept is the one that would be collected now.

Main statements: `PeerLists.Agrees.attach`, `Controller.after_warm`,
`Controller.Reachable.peersFor_eq_cold`.
-/
import Fleet.Proofs.Members
import Fleet.Proofs.Sound

namespace Fleet

/-! ## Lists and their source -/

namespace PeerLists

variable {lists : PeerLists} {source source' : PeerSource} {s : ServerId} {peers : List Peer}

/-- The lists that are kept are those that the source gives. -/
def Agrees (lists : PeerLists) (source : PeerSource) : Prop :=
  ∀ s peers, lists.get? s = some peers → source s = some peers

/-- The lists that are left when the one of a server is dropped. -/
theorem get?_drop {server : ServerId} :
    (lists.drop server).get? s = some peers ↔ s ≠ server ∧ lists.get? s = some peers := by
  unfold drop
  by_cases h : server = s
  · subst h
    simp
  · rw [SortedMap.get?_erase_ne h]
    simp [Ne.symm h]

/-- The lists that are left when those of some servers are dropped. -/
theorem get?_detachAll {left : List VpnClient} :
    (lists.detachAll left).get? s = some peers ↔
      s ∉ left.map VpnClient.server ∧ lists.get? s = some peers := by
  unfold detachAll
  induction left generalizing lists with
  | nil => simp
  | cons client rest ih =>
      rw [List.foldl_cons, ih, get?_drop, List.map_cons, List.mem_cons, not_or, and_left_comm,
        and_assoc]

namespace Agrees

/-- Looking at lists that agree gives what would be collected. -/
theorem peersFor_fst (h : lists.Agrees source) (s : ServerId) :
    (lists.peersFor source s).1 = (peersFor .empty source s).1 := by
  unfold peersFor
  rw [SortedMap.get?_empty]
  cases hkept : lists.get? s with
  | none =>
      dsimp only
      cases source s <;> rfl
  | some peers =>
      dsimp only
      rw [h s peers hkept]

/-- A list that is collected agrees too. -/
theorem peersFor_snd (h : lists.Agrees source) (s : ServerId) :
    (lists.peersFor source s).2.Agrees source := by
  unfold peersFor
  split
  · exact h
  · split
    · rename_i peers hsource
      intro q kept hkept
      rw [SortedMap.get?_insert] at hkept
      split at hkept
      · rename_i hq
        rw [← hq, ← hkept]
        exact hsource
      · exact h q kept hkept
    · exact h

/-- Appending a client that the source appends too: it is not skipped, for it was not there. -/
theorem attach (h : lists.Agrees source) {client : VpnClient}
    (hnew : ∀ peers, source client.server = some peers → ∀ p ∈ peers, p.device ≠ client.device)
    (hdevice : ∀ p, client.peer? = some p → p.device = client.device)
    (hsource : ∀ s, source' s = (source s).map fun peers =>
      peers ++ if client.server = s then client.peer?.toList else []) :
    (lists.attach client).Agrees source' := by
  intro s kept hkept
  rw [hsource s]
  unfold PeerLists.attach at hkept
  split at hkept
  · rename_i peer peers hpeer hold
    have hpeers := h client.server peers hold
    have habsent : ¬ (peers.any fun p => p.device == peer.device) = true := by
      rw [List.any_eq_true]
      rintro ⟨p, hp, heq⟩
      rw [beq_iff_eq, hdevice peer hpeer] at heq
      exact hnew peers hpeers p hp heq
    rw [if_neg habsent, SortedMap.get?_insert] at hkept
    split at hkept
    · rename_i hs
      rw [if_pos hs, ← hs, hpeers, hpeer, ← hkept]
      rfl
    · rename_i hs
      rw [if_neg hs, h s kept hkept, Option.map_some, List.append_nil]
  · rename_i hnot
    rw [h s kept hkept, Option.map_some]
    -- Where the list of the server is kept there is no peer to append.
    have hnone : (if client.server = s then client.peer?.toList else []) = [] := by
      split
      · rename_i hs
        cases hpeer : client.peer? with
        | none => rfl
        | some peer => exact absurd (hs ▸ hkept) (hnot peer kept hpeer)
      · rfl
    rw [hnone, List.append_nil]

end Agrees

end PeerLists

/-! ## The records as a source -/

/-- A peer names the device of its client. -/
theorem VpnClient.device_of_peer? {client : VpnClient} {p : Peer} (h : client.peer? = some p) :
    p.device = client.device := by
  unfold peer? at h
  split at h
  · rw [Option.map_eq_some_iff] at h
    obtain ⟨address, _, rfl⟩ := h
    rfl
  · cases h

/-- A peer has the tunnel id of its client. -/
theorem VpnClient.vni_of_peer? {client : VpnClient} {p : Peer} (h : client.peer? = some p) :
    p.vni = client.vni := by
  unfold peer? at h
  split at h
  · rw [Option.map_eq_some_iff] at h
    obtain ⟨address, _, rfl⟩ := h
    rfl
  · cases h

namespace Inventory

variable {inv inv' : Inventory} {s : ServerId} {peers : List Peer}

/-- The peers of a server that exists are those that its members are advertised as. -/
theorem peers?_eq_some :
    inv.peers? s = some peers ↔
      (∃ S, inv.servers.get? s = some S) ∧ peers = (inv.clientsOn s).filterMap VpnClient.peer? := by
  have hcontains : inv.servers.contains s = true ↔ ∃ S, inv.servers.get? s = some S :=
    Option.isSome_iff_exists
  unfold peers?
  rw [← hcontains]
  constructor
  · intro h
    split at h
    · rename_i hserver
      exact ⟨hserver, (Option.some.inj h).symm⟩
    · cases h
  · rintro ⟨hserver, rfl⟩
    rw [if_pos hserver]

/-- A device that joins a server becomes its last peer, if it is advertised. -/
theorem peers?_insertClient {client stored : VpnClient} {maxTunnelId : Nat}
    (h : inv.insertClient client maxTunnelId = .ok (stored, inv')) (s : ServerId) :
    inv'.peers? s = (inv.peers? s).map fun peers =>
      peers ++ if stored.server = s then stored.peer?.toList else [] := by
  have hmembers := clientsOn_insertClient h s
  have hservers : inv'.servers = inv.servers := by
    obtain ⟨_, _, _, _, _, _, _, _, _, rfl⟩ := insertClient_eq_ok h
    rfl
  unfold peers?
  rw [hservers, hmembers, List.filterMap_append]
  split
  · rw [Option.map_some]
    split
    · cases hpeer : stored.peer? <;> simp [hpeer]
    · rfl
  · rfl

/-- A device that joins a server was no peer of it. -/
theorem ne_of_mem_peers {client stored : VpnClient} {maxTunnelId : Nat}
    (h : inv.insertClient client maxTunnelId = .ok (stored, inv'))
    (hpeers : inv.peers? stored.server = some peers) : ∀ p ∈ peers, p.device ≠ stored.device := by
  obtain ⟨_, _, _, _, _, _, hnone, _, rfl, _⟩ := insertClient_eq_ok h
  obtain ⟨_, rfl⟩ := peers?_eq_some.mp hpeers
  intro p hp
  obtain ⟨member, hmember, hpeer⟩ := List.mem_filterMap.mp hp
  rw [VpnClient.device_of_peer? hpeer]
  exact client?_eq_none.mp hnone member hmember

end Inventory

/-! ## Steps -/

namespace Controller

variable {settings : Settings} {outage : Outage} {c c' c'' : Controller}

/-- The peer lists that are kept are those that would be collected. -/
def Warm (c : Controller) : Prop :=
  c.peerLists.Agrees c.inventory.peers?

/-- A list that is kept afterwards was kept before, and its server has the same members. -/
def Retains (c c' : Controller) : Prop :=
  ∀ s peers, c'.peerLists.get? s = some peers →
    c.peerLists.get? s = some peers ∧ c'.inventory.clientsOn s = c.inventory.clientsOn s

/-- Servers go on existing. -/
def ServersStay (c c' : Controller) : Prop :=
  ∀ s S, c.inventory.servers.get? s = some S → ∃ S', c'.inventory.servers.get? s = some S'

/-- What is retained goes on agreeing with the records. -/
theorem Warm.of_retains (hw : c.Warm) (h : Retains c c') (hservers : ServersStay c c') :
    c'.Warm := by
  intro s peers hkept
  obtain ⟨hold, hmembers⟩ := h s peers hkept
  obtain ⟨⟨S, hS⟩, hpeers⟩ := Inventory.peers?_eq_some.mp (hw s peers hold)
  rw [← hmembers] at hpeers
  exact Inventory.peers?_eq_some.mpr ⟨hservers s S hS, hpeers⟩

namespace Retains

/-- Nothing is dropped where lists and memberships stay. -/
theorem of_eq (hlists : c'.peerLists = c.peerLists)
    (hclients : c'.inventory.clients = c.inventory.clients) : Retains c c' := by
  intro s peers hkept
  refine ⟨hlists ▸ hkept, ?_⟩
  unfold Inventory.clientsOn
  rw [hclients]

/-- The list of a server may be dropped. -/
theorem of_drop {server : ServerId} (hlists : c'.peerLists = c.peerLists.drop server)
    (hclients : c'.inventory.clients = c.inventory.clients) : Retains c c' := by
  intro s peers hkept
  rw [hlists, PeerLists.get?_drop] at hkept
  refine ⟨hkept.2, ?_⟩
  unfold Inventory.clientsOn
  rw [hclients]

/-- What is retained twice is retained. -/
theorem trans (h : Retains c c') (h' : Retains c' c'') : Retains c c'' := by
  intro s peers hkept
  obtain ⟨hkept', hmembers'⟩ := h' s peers hkept
  obtain ⟨hkept, hmembers⟩ := h s peers hkept'
  exact ⟨hkept, hmembers'.trans hmembers⟩

end Retains

/-- A commit drops the lists of the servers that clients left. -/
@[simp] theorem commit_peerLists (c : Controller) (inv : Inventory) (ids : List DeviceId)
    (left : List VpnClient) : (c.commit inv ids left).peerLists = c.peerLists.detachAll left := by
  unfold commit
  dsimp only
  rw [reindexAll_eq]
  rfl

/-- A commit that names those who left retains the other lists. -/
theorem commit_retains {inv : Inventory} {left : List VpnClient}
    (h : Inventory.Leaves left c.inventory inv) (ids : List DeviceId) :
    Retains c (c.commit inv ids left) := by
  intro s peers hkept
  rw [commit_peerLists] at hkept
  obtain ⟨hs, hold⟩ := PeerLists.get?_detachAll.mp hkept
  rw [commit_inventory]
  exact ⟨hold, h s hs⟩

/-- Making configurations modified touches no list. -/
theorem modify_retains (c : Controller) (outage : Outage) (ids : List DeviceId) (reason : Reason) :
    Retains c (c.modify outage ids reason).2 := by
  obtain ⟨inv, notices, hmarks, hmodify⟩ := c.modify_snd outage ids reason
  rw [hmodify]
  exact Retains.of_eq rfl hmarks.clients

/-- Dropping a checksum touches no list. -/
theorem invalidate_retains (c : Controller) (outage : Outage) (id : DeviceId) :
    Retains c (c.invalidate outage id).2 := by
  rw [invalidate_snd]
  exact Retains.of_eq rfl rfl

/-- Dropping checksums touches no list. -/
theorem invalidateMany_retains (c : Controller) (outage : Outage) (ids : List DeviceId) :
    Retains c (c.invalidateMany outage ids).2 := by
  rw [invalidateMany_snd]
  exact Retains.of_eq rfl rfl

/-- Announcing a state touches no list. -/
theorem announceStatus_retains (c : Controller) (id : DeviceId) (s t : Status) (cause : Signal) :
    Retains c (c.announceStatus id s t cause) := by
  unfold announceStatus
  split <;> exact Retains.of_eq rfl rfl

/-! ## Operations -/

theorem addDevice_retains (d : Device) (k : Configuration) :
    Retains c (c.addDevice outage d k).2 := by
  unfold addDevice
  split
  · exact Retains.of_eq rfl rfl
  · rename_i inv h
    have hclients : inv.clients = c.inventory.clients := by
      obtain ⟨_, _, _, _, rfl⟩ := Inventory.insertDevice_eq_ok h
      rfl
    have hcommit : Retains c (c.commit inv [d.id] []) :=
      commit_retains (Inventory.Leaves.of_eq hclients) [d.id]
    exact hcommit.trans (invalidate_retains _ outage d.id)

theorem removeDevice_retains (id : DeviceId)
    (hpaired : ∀ d, c.inventory.devices.get? id = some d →
      ∃ k, c.inventory.configurations.get? id = some k) :
    Retains c (c.removeDevice outage id).2 := by
  unfold removeDevice
  split
  · rename_i e inv h
    rw [Inventory.removeDevice_eq_error hpaired h]
    exact Retains.of_eq rfl rfl
  · rename_i removed inv h
    have hcommit := commit_retains (Inventory.removeDevice_leaves h) []
    dsimp only
    rw [forget_snd]
    exact hcommit.trans ((invalidate_retains _ outage id).trans (Retains.of_eq rfl rfl))

theorem updateDevice_retains (d : Device) : Retains c (c.updateDevice outage d).2 := by
  unfold updateDevice
  split
  · exact Retains.of_eq rfl rfl
  · rename_i p change inv h
    have hcommit := commit_retains (Inventory.replaceDevice_leaves h) [d.id]
    dsimp only
    split
    · exact hcommit.trans (modify_retains _ outage _ _)
    · exact hcommit

theorem addTemplate_retains (t : Template) : Retains c (c.addTemplate outage t).2 := by
  unfold addTemplate
  split
  · exact Retains.of_eq rfl rfl
  · rename_i ids inv h
    obtain ⟨_, _, _, _, hr⟩ := Inventory.insertTemplate_eq_ok h
    exact (commit_retains (Inventory.Leaves.of_eq hr.clients) ids).trans
      (modify_retains _ outage _ _)

theorem updateTemplate_retains (t : Template) : Retains c (c.updateTemplate outage t).2 := by
  cases h : c.inventory.replaceTemplate t with
  | error e =>
      unfold updateTemplate
      rw [h]
      exact Retains.of_eq rfl rfl
  | ok replaced =>
      obtain ⟨p, ids, inv⟩ := replaced
      obtain ⟨_, _, _, _, _, hr⟩ := Inventory.replaceTemplate_eq_ok h
      have hcommit : Retains c (c.commit inv ids []) :=
        commit_retains (Inventory.Leaves.of_eq hr.clients) ids
      obtain ⟨first, hfirst, hlast⟩ := updateTemplate_of_ok c outage h
      have hretains : Retains c first.2 := by
        rcases hfirst with rfl | ⟨told, reason, rfl⟩
        · exact hcommit
        · exact hcommit.trans (modify_retains _ outage _ _)
      rcases hlast with ⟨e, _, hlast⟩ | hlast
      · rw [hlast]
        exact hretains
      · rw [hlast]
        exact hretains.trans (modify_retains _ outage _ _)

theorem changeTemplates_retains (id : DeviceId)
    (compute : Catalog → Configuration → OrgId → Except Error (List TemplateId)) :
    Retains c (c.changeTemplates outage id compute).2 := by
  unfold changeTemplates
  split
  · exact Retains.of_eq rfl rfl
  · rename_i change inv h
    simp only [Outcomes.bind_eq_ok] at h
    obtain ⟨_, _, _, _, _, _, hset⟩ := h
    have hleaves := Inventory.setTemplates_leaves hset
    split
    · exact (commit_retains hleaves [id]).trans (modify_retains _ outage _ _)
    · exact commit_retains hleaves []

theorem editConfiguration_retains (id : DeviceId) (reason : Reason)
    (edit : Configuration → Option Configuration) :
    Retains c (c.editConfiguration outage id reason edit).2 := by
  unfold editConfiguration
  split
  · exact Retains.of_eq rfl rfl
  · rename_i k _
    split
    · rename_i edited _
      have hput : Retains c { c with inventory := c.inventory.putConfiguration id edited } :=
        Retains.of_eq rfl rfl
      exact hput.trans (modify_retains _ outage _ _)
    · exact Retains.of_eq rfl rfl

theorem setDocument_retains (id : DeviceId) (document : Json) :
    Retains c (c.setDocument outage id document).2 := by
  unfold setDocument
  split
  · exact editConfiguration_retains id .document _
  · exact Retains.of_eq rfl rfl

theorem changeBackend_retains (id : DeviceId) (backend : Backend) :
    Retains c (c.changeBackend outage id backend).2 := by
  unfold changeBackend
  split
  · exact Retains.of_eq rfl rfl
  · rename_i change inv h
    split
    · exact (commit_retains (Inventory.setBackend_leaves h) [id]).trans
        (modify_retains _ outage _ _)
    · exact Retains.of_eq rfl rfl

theorem addServer_retains (s : VpnServer) : Retains c (c.addServer s).2 := by
  unfold addServer
  split
  · exact Retains.of_eq rfl rfl
  · rename_i inv h
    obtain ⟨_, rfl⟩ := Inventory.insertServer_eq_ok h
    exact Retains.of_eq rfl rfl

theorem updateServer_retains (s : VpnServer) : Retains c (c.updateServer outage s).2 := by
  cases h : c.inventory.replaceServer s with
  | error e =>
      unfold updateServer
      rw [h]
      exact Retains.of_eq rfl rfl
  | ok replaced =>
      obtain ⟨p, inv⟩ := replaced
      obtain ⟨stored, hstored, hlast⟩ := updateServer_of_ok c outage h
      obtain ⟨_, rfl⟩ := Inventory.replaceServer_eq_ok h
      have hretains : Retains c stored := by
        rcases hstored with rfl | rfl
        · exact Retains.of_eq rfl rfl
        · exact Retains.of_drop rfl rfl
      rcases hlast with hlast | ⟨told, reason, hlast⟩
      · rw [hlast]
        exact hretains
      · rw [hlast]
        exact hretains.trans (modify_retains _ outage _ _)

theorem detachClient_retains (id : DeviceId) (server : ServerId) :
    Retains c (c.detachClient outage id server).2 := by
  unfold detachClient
  split
  · exact Retains.of_eq rfl rfl
  · split
    · exact Retains.of_eq rfl rfl
    · rename_i client inv h
      have hleaves := Inventory.removeClient_leaves c.inventory id server
      rw [h] at hleaves
      have hcommit : Retains c (c.commit inv [id] [client]) := commit_retains hleaves [id]
      exact hcommit.trans (modify_retains _ outage _ _)

theorem setOrganization_retains (s : OrganizationSettings) :
    Retains c (c.setOrganization outage s).2 := by
  unfold setOrganization
  dsimp only
  split
  · exact Retains.of_eq rfl rfl
  · refine Retains.trans (Retains.of_eq rfl rfl) (invalidateMany_retains _ outage _)

theorem setGroup_retains (g : DeviceGroup) (hkeyed : c.inventory.DevicesKeyed)
    (hpaired : ∀ id d, c.inventory.devices.get? id = some d →
      ∃ k, c.inventory.configurations.get? id = some k) :
    Retains c (c.setGroup outage g).2 := by
  unfold setGroup
  split
  · rename_i e inv h
    rw [Inventory.setGroup_eq_error hkeyed hpaired h]
    exact Retains.of_eq rfl rfl
  · rename_i change inv h
    have hcommit := commit_retains (Inventory.setGroup_leaves h) change.retemplated
    dsimp only
    split
    · exact hcommit
    · have hdropped := hcommit.trans (invalidateMany_retains _ outage
        ((c.commit inv change.retemplated change.left).index.devicesForGroup g.id))
      split
      · rename_i e c₁ hm
        rw [hm] at hdropped
        exact hdropped
      · rename_i n c₁ hm
        rw [hm] at hdropped
        exact hdropped.trans (modify_retains _ outage _ _)

/-- A signal ends memberships only where it takes the device out of use. -/
theorem prepare_leaves {inv inv' : Inventory} {id : DeviceId} {signal : Signal} {changes : Bool}
    {left : List VpnClient} (h : prepare inv id signal changes = .ok (left, inv')) :
    Inventory.Leaves left inv inv' := by
  unfold prepare at h
  split at h
  · split at h
    · exact Inventory.deactivate_leaves h
    · cases h
      exact Inventory.Leaves.of_eq rfl
  · rw [Outcomes.map_eq_ok] at h
    obtain ⟨inv₁, hreactivate, hpair⟩ := h
    cases hpair
    obtain ⟨_, _, _, _, rfl⟩ := Inventory.reactivate_eq_ok hreactivate
    exact Inventory.Leaves.of_eq rfl
  · cases h
    exact Inventory.Leaves.of_eq rfl

theorem send_retains (id : DeviceId) (signal : Signal) :
    Retains c (c.send outage id signal).2 := by
  unfold send
  split
  · exact Retains.of_eq rfl rfl
  rename_i step _ h
  split
  · exact Retains.of_eq rfl rfl
  rename_i left inv hprepare
  simp only [Outcomes.bind_eq_ok, Outcomes.pure_eq_ok] at hprepare
  obtain ⟨⟨left', inv₁⟩, hprepare, k, _, hput⟩ := hprepare
  obtain ⟨rfl, rfl⟩ := Prod.mk.inj hput
  have hleaves : Inventory.Leaves left' c.inventory
      (inv₁.putConfiguration id { k with status := step.after }) :=
    fun s hs => prepare_leaves hprepare s hs
  have hcommit := commit_retains hleaves [id]
  dsimp only
  refine Retains.trans ?_ (announceStatus_retains _ _ _ _ _)
  split
  · exact hcommit.trans (invalidate_retains _ outage id)
  · exact hcommit

theorem call_retains {α : Type} (kind : StoreCall) (key : String) (run : Store → α × Store) :
    Retains c (c.call outage kind key run).2 := by
  rw [call_snd]
  exact Retains.of_eq rfl rfl

theorem getChecksum_retains (id : DeviceId) : Retains c (c.getChecksum settings outage id).2 := by
  obtain ⟨store, calls, h⟩ := getChecksum_keeps settings outage c id
  rw [h]
  exact Retains.of_eq rfl rfl

end Controller

/-! ## All requests -/

/-- Whether a request may add to the peer lists that are kept. -/
def Request.warms : Request → Bool
  | .peers _ | .renderServer _ | .serverChecksum _ | .attachClient _ => true
  | _ => false

namespace Controller

variable {settings : Settings} {outage : Outage} {c c' : Controller}

/-- A request that adds to no list keeps lists only where the members stay. -/
theorem perform_retains (hs : c.inventory.Sound) {r : Request} (hr : r.warms = false) :
    Retains c (c.perform settings outage r).2 := by
  cases r with
  | render | document | context | configuration | status | snapshot | check | dependents
  | dependencies => exact Retains.of_eq rfl rfl
  | peers | renderServer | serverChecksum | attachClient => cases hr
  | checksum id => exact getChecksum_retains id
  | cached id => exact call_retains _ _ _
  | invalidate id => exact invalidate_retains c outage id
  | invalidateDependents on => exact invalidateMany_retains c outage (c.index.devicesFor on)
  | send id signal => exact send_retains id signal
  | detachClient id server => exact detachClient_retains id server
  | addDevice d k => exact addDevice_retains d k
  | removeDevice id => exact removeDevice_retains id (hs.configured id)
  | updateDevice d => exact updateDevice_retains d
  | addTemplate t => exact addTemplate_retains t
  | updateTemplate t => exact updateTemplate_retains t
  | attachTemplate id | detachTemplate id | setTemplates id | clearTemplates id =>
      exact changeTemplates_retains id _
  | setContext id context => exact editConfiguration_retains id .context _
  | setDocument id document => exact setDocument_retains id document
  | changeBackend id backend => exact changeBackend_retains id backend
  | addServer s => exact addServer_retains s
  | updateServer s => exact updateServer_retains s
  | setOrganization s => exact setOrganization_retains s
  | setGroup g => exact setGroup_retains g hs.devicesKeyed hs.configured

/-- A request takes no server away. -/
theorem perform_serversStay (hs : c.inventory.Sound) (r : Request) :
    ServersStay c (c.perform settings outage r).2 := by
  obtain ⟨change, hmakes, hfollows⟩ := answers_of_sound hs settings outage r
  intro s S hS
  rw [hfollows.marks.shares.servers]
  exact ((hmakes.stores hs.devicesKeyed).grows hs.templates).1.servers s S hS

/-- Looking at the peers of a server keeps the lists agreeing. -/
theorem peersFor_warm (hw : c.Warm) (s : ServerId) : (c.peersFor s).2.Warm :=
  PeerLists.Agrees.peersFor_snd hw s

/-- Rendering a server keeps the lists agreeing. -/
theorem renderServer_warm (hw : c.Warm) (s : ServerId) : (c.renderServer s).2.Warm := by
  unfold renderServer
  split
  · exact hw
  · exact peersFor_warm hw s

/-- A client that joins a server is appended to its list as it is to the records. -/
theorem attachClient_warm (hw : c.Warm) (client : VpnClient) :
    (c.attachClient settings outage client).2.Warm := by
  unfold attachClient
  split
  · exact hw
  · rename_i stored inv h
    have hattached : (c.peerLists.attach stored).Agrees inv.peers? :=
      hw.attach (fun _ => Inventory.ne_of_mem_peers h) (fun _ => VpnClient.device_of_peer?)
        (Inventory.peers?_insertClient h)
    dsimp only
    generalize hc₁ : publish _ _ = c₁
    have hwarm : c₁.Warm := by
      rw [← hc₁]
      unfold Warm
      show ((c.commit inv [stored.device] []).peerLists.attach stored).Agrees
        (c.commit inv [stored.device] []).inventory.peers?
      rw [commit_peerLists, commit_inventory]
      exact hattached
    refine hwarm.of_retains (modify_retains c₁ outage _ _) fun s S hS => ⟨S, ?_⟩
    obtain ⟨inv', notices, hmarks, hmodify⟩ :=
      c₁.modify_snd outage [stored.device] (.vpnMembership stored.server)
    rw [hmodify]
    dsimp only
    rw [hmarks.shares.servers]
    exact hS

/-- Every event keeps the lists agreeing with the records. -/
theorem after_warm (hs : c.inventory.Sound) (hw : c.Warm) (e : Event) :
    (c.after settings e).Warm := by
  cases e with
  | request outage r =>
      cases hr : r.warms with
      | false => exact hw.of_retains (perform_retains hs hr) (perform_serversStay hs r)
      | true =>
          -- The lists grow with a look at a server and with a client that joins.
          cases r with
          | peers s => exact peersFor_warm hw s
          | renderServer s | serverChecksum s => exact renderServer_warm hw s
          | attachClient client => exact attachClient_warm hw client
          | _ => cases hr
  | pass seconds => exact hw

/-- Every run keeps the lists agreeing with the records. -/
theorem run_warm (hs : c.inventory.Sound) (hw : c.Warm) (events : List Event) :
    (c.run settings events).Warm := by
  have hinv : (c.run settings events).inventory.Sound ∧ (c.run settings events).Warm :=
    run_keeps (I := fun c => c.inventory.Sound ∧ c.Warm) (Q := fun _ => True)
      (fun _ e _ hinv => ⟨after_sound hinv.1 e, after_warm hinv.1 hinv.2 e⟩)
      events (fun _ _ => trivial) c ⟨hs, hw⟩
  exact hinv.2

/-- Where no list is kept, all that are agree. -/
theorem warm_of_empty (h : c.peerLists = .empty) : c.Warm := by
  intro s peers hkept
  rw [h] at hkept
  cases hkept

/-- The peer lists that a reachable controller keeps agree with its records. -/
theorem Reachable.warm (h : Reachable settings c) : c.Warm := by
  obtain ⟨now, events, rfl⟩ := h
  exact run_warm (start_sound now) (warm_of_empty rfl) events

/-- A server that exists answers the same peers as long as it has the same members. -/
theorem Warm.peersFor_eq (h : c.Warm) (h' : c'.Warm) {s : ServerId}
    (hknown : c'.inventory.servers.contains s = c.inventory.servers.contains s)
    (hmembers : c'.inventory.clientsOn s = c.inventory.clientsOn s) :
    (c'.peersFor s).1 = (c.peersFor s).1 := by
  have hpeers : c'.inventory.peers? s = c.inventory.peers? s := by
    unfold Inventory.peers?
    rw [hknown, hmembers]
  have hcold : (PeerLists.peersFor .empty c'.inventory.peers? s).1 =
      (PeerLists.peersFor .empty c.inventory.peers? s).1 := by
    unfold PeerLists.peersFor
    rw [SortedMap.get?_empty, hpeers]
  exact (h'.peersFor_fst s).trans (hcold.trans (h.peersFor_fst s).symm)

/-- With the same records its document is the same. -/
theorem Warm.renderServer_eq (h : c.Warm) (h' : c'.Warm) (hrecords : c'.inventory = c.inventory)
    (s : ServerId) : (c'.renderServer s).1 = (c.renderServer s).1 := by
  unfold renderServer
  rw [hrecords]
  split
  · rfl
  · dsimp only
    rw [h.peersFor_eq h' (by rw [hrecords]) (by rw [hrecords])]

/-- The peers that are answered are the members of a server that exists, as they are advertised. -/
theorem Warm.of_peersFor_eq_ok (h : c.Warm) {s : ServerId} {peers : List Peer}
    (hpeers : (c.peersFor s).1 = .ok peers) :
    (∃ S, c.inventory.servers.get? s = some S) ∧
      peers = (c.inventory.clientsOn s).filterMap VpnClient.peer? := by
  have hanswer : (PeerLists.peersFor .empty c.inventory.peers? s).1 = .ok peers := by
    rw [← h.peersFor_fst s]
    exact hpeers
  unfold PeerLists.peersFor at hanswer
  rw [SortedMap.get?_empty] at hanswer
  cases hsource : c.inventory.peers? s with
  | none =>
      rw [hsource] at hanswer
      cases hanswer
  | some collected =>
      rw [hsource] at hanswer
      have hsame : collected = peers := Except.ok.inj hanswer
      rw [hsame] at hsource
      exact Inventory.peers?_eq_some.mp hsource

/-- In every reachable state the peers of a server, and its document, are what a controller with the
same records answers that keeps no peer list. -/
theorem Reachable.peersFor_eq_cold (h : Reachable settings c) (cold : Controller)
    (hrecords : cold.inventory = c.inventory) (hcold : cold.peerLists = .empty) (s : ServerId) :
    (c.peersFor s).1 = (cold.peersFor s).1 ∧ (c.renderServer s).1 = (cold.renderServer s).1 := by
  have hpeers : (c.peersFor s).1 = (cold.peersFor s).1 := by
    unfold peersFor
    dsimp only
    rw [hrecords, hcold]
    exact h.warm.peersFor_fst s
  refine ⟨hpeers, ?_⟩
  unfold renderServer
  rw [hrecords]
  split
  · rfl
  · dsimp only
    rw [hpeers]

/-- The list of a server is kept, a device joins and leaves the server, and another one joins. -/
def warmSample : List Request :=
  [.addServer Sample.server, .peers Sample.server.id,
    .addDevice Sample.device (Sample.configuration []),
    .addDevice { Sample.device with id := ⟨"e"⟩ }
      { Sample.configuration [] with device := ⟨"e"⟩ },
    .attachClient Sample.client, .removeDevice Sample.device.id, .peers Sample.server.id,
    .attachClient { Sample.client with device := ⟨"e"⟩ }]

/-- The list that is kept then has the one peer that a controller without lists finds. -/
theorem peersFor_eq_cold_sample :
    (Sample.controller warmSample).peerLists.get? Sample.server.id =
      some [⟨⟨"e"⟩, none, .v4 #v[10, 0, 0, 1], some 1⟩] ∧
    ((Sample.controller warmSample).peersFor Sample.server.id).1 =
      ((start (Sample.controller warmSample).inventory 0).peersFor Sample.server.id).1 := by
  refine ⟨by decide +kernel, ?_⟩
  exact ((Sample.reachable warmSample).peersFor_eq_cold
    (start (Sample.controller warmSample).inventory 0) (by decide +kernel) (by decide +kernel)
    Sample.server.id).1

end Controller

end Fleet
