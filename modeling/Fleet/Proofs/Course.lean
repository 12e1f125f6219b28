/-
# The course of a request

A request is refused, and then nothing shows of it; or it takes its course, in which nothing can
fail but the calls of the store, and which its notices tell.

Main statements: `Controller.perform_course`, `Controller.after_told`.
-/
import Fleet.Proofs.Told
import Fleet.Proofs.Twins

namespace Fleet.Controller

open Outcomes

variable {settings : Settings} {outage : Outage} {c c₁ : Controller} {ns : List Notice}
  {α β : Type}

/-! ## Courses -/

/-- An answer fails with nothing but a call of the store. -/
def OnlyStoreFails (answer : Except Error α) : Prop :=
  FailsWith (fun e => e.kind = .cacheUnavailable) answer

/-- What comes of a request: it is refused and nothing shows of it, or it takes its course. -/
inductive Course (c : Controller) (o : Outcome α) : Prop where
  | refused {k : Nat} (h : Twins k c o.2)
  | done {ns : List Notice} (hfails : OnlyStoreFails o.1) (h : Told c o.2 ns)

/-- Another form of the answer. -/
theorem Course.map {o : Outcome α} (h : Course c o) (f : α → β) : Course c (o.1.map f, o.2) := by
  cases h with
  | refused h => exact .refused h
  | done hfails h => exact .done (FailsWith.map hfails) h

/-- An answer without a change. -/
theorem course_of_answer (c : Controller) (answer : Except Error α) : Course c (answer, c) :=
  .refused (Twins.refl c)

/-- Calls of the store fail with nothing else. -/
theorem call_fails (c : Controller) (outage : Outage) (kind : StoreCall) (key : String)
    (run : Store → α × Store) : OnlyStoreFails (c.call outage kind key run).1 := by
  unfold call
  cases outage c.calls kind key with
  | some reason => exact FailsWith.error rfl
  | none => exact FailsWith.ok _

theorem invalidate_fails (c : Controller) (outage : Outage) (x : DeviceId) :
    OnlyStoreFails (c.invalidate outage x).1 :=
  call_fails c outage _ _ _

theorem invalidateMany_fails (outage : Outage) (ids : List DeviceId) :
    ∀ c : Controller, OnlyStoreFails (c.invalidateMany outage ids).1 := by
  induction ids with
  | nil => exact fun c => FailsWith.ok _
  | cons x rest ih =>
      intro c
      have hone := invalidate_fails c outage x
      rw [invalidateMany]
      generalize c.invalidate outage x = first at hone ⊢
      obtain ⟨e | _, c₁⟩ := first
      · exact FailsWith.error (hone e rfl)
      · have hrest := ih c₁
        dsimp only
        generalize c₁.invalidateMany outage rest = others at hrest ⊢
        obtain ⟨e | n, c₂⟩ := others
        · exact FailsWith.error (hrest e rfl)
        · exact FailsWith.ok _

theorem forget_fails (c : Controller) (outage : Outage) (x : DeviceId) :
    OnlyStoreFails (c.forget outage x).1 := by
  have hone := invalidate_fails c outage x
  unfold forget
  generalize c.invalidate outage x = first at hone ⊢
  obtain ⟨e | _, c₁⟩ := first
  · exact FailsWith.error (hone e rfl)
  · exact FailsWith.ok _

theorem modify_fails (c : Controller) (outage : Outage) (ids : List DeviceId) (reason : Reason) :
    OnlyStoreFails (c.modify outage ids reason).1 := by
  unfold modify
  split
  · exact FailsWith.ok _
  · exact FailsWith.map (invalidateMany_fails outage ids _)

namespace Told

/-- A course that ends with making configurations modified. -/
theorem course_modify (h : Told c c₁ ns) (outage : Outage) (ids : List DeviceId) (reason : Reason) :
    Course c (c₁.modify outage ids reason) := by
  obtain ⟨ns', hmodify⟩ := h.modify outage ids reason
  exact .done (modify_fails c₁ outage ids reason) hmodify

/-- A course that ends well. -/
theorem course_ok (h : Told c c₁ ns) (a : α) : Course c (.ok a, c₁) :=
  .done (FailsWith.ok a) h

end Told

/-! ## Operations -/

theorem addDevice_course (hs : c.inventory.Sound) (d : Device) (configuration : Configuration) :
    Course c (c.addDevice outage d configuration) := by
  unfold addDevice
  split
  · exact course_of_answer c _
  · rename_i inv h
    have hclients : inv.clients = c.inventory.clients := by
      obtain ⟨_, _, _, _, rfl⟩ := Inventory.insertDevice_eq_ok h
      rfl
    have hcommit := Told.commit_nobody (Inventory.insertDevice_keepsStates hs h) hclients [d.id]
    exact .done (invalidate_fails _ outage d.id) (hcommit.invalidate outage d.id)

theorem removeDevice_course (hs : c.inventory.Sound) (x : DeviceId) :
    Course c (c.removeDevice outage x) := by
  unfold removeDevice
  split
  · rename_i e inv h
    rw [Inventory.removeDevice_eq_error (hs.configured x) h]
    exact course_of_answer c _
  · rename_i removed inv h
    have hcommit := Told.commit (Inventory.removeDevice_keepsStates h)
      (Inventory.removeDevice_leaves h) []
    have hforget : Told c ((c.commit inv [] removed.clients).forget outage x).2
        (removed.clients.map fun client => .peersChanged client.server) := by
      rw [forget_snd]
      exact (hcommit.invalidate outage x).unseen rfl rfl
    exact .done (FailsWith.map (forget_fails _ outage x)) hforget

theorem updateDevice_course (d : Device) : Course c (c.updateDevice outage d) := by
  unfold updateDevice
  split
  · exact course_of_answer c _
  · rename_i p change inv h
    have hcommit := Told.commit (Inventory.replaceDevice_keepsStates h)
      (Inventory.replaceDevice_leaves h) [d.id]
    dsimp only
    split
    · exact hcommit.course_modify outage _ _
    · exact hcommit.course_ok ()

theorem addTemplate_course (t : Template) : Course c (c.addTemplate outage t) := by
  unfold addTemplate
  split
  · exact course_of_answer c _
  · rename_i ids inv h
    obtain ⟨_, _, _, _, hr⟩ := Inventory.insertTemplate_eq_ok h
    exact (Told.commit_nobody (Inventory.insertTemplate_keepsStates h) hr.clients ids).course_modify
      outage _ _

theorem updateTemplate_course (t : Template) : Course c (c.updateTemplate outage t) := by
  cases h : c.inventory.replaceTemplate t with
  | error e =>
      unfold updateTemplate
      rw [h]
      exact course_of_answer c _
  | ok replaced =>
      obtain ⟨p, ids, inv⟩ := replaced
      obtain ⟨_, _, _, _, _, hr⟩ := Inventory.replaceTemplate_eq_ok h
      have hcommit := Told.commit_nobody (Inventory.replaceTemplate_keepsStates h) hr.clients ids
      obtain ⟨first, hfirst, hlast⟩ := updateTemplate_of_ok c outage h
      obtain ⟨hfails, ns, htold⟩ : OnlyStoreFails first.1 ∧ ∃ ns, Told c first.2 ns := by
        rcases hfirst with rfl | ⟨told, reason, rfl⟩
        · exact ⟨FailsWith.ok _, _, hcommit⟩
        · exact ⟨modify_fails _ _ _ _, hcommit.modify outage _ _⟩
      rcases hlast with ⟨e, he, hlast⟩ | hlast
      · rw [hlast]
        exact .done (FailsWith.error (hfails e he)) htold
      · rw [hlast]
        exact htold.course_modify outage ids .templates

theorem changeTemplates_course (x : DeviceId)
    (compute : Catalog → Configuration → OrgId → Except Error (List TemplateId)) :
    Course c (c.changeTemplates outage x compute) := by
  unfold changeTemplates
  split
  · exact course_of_answer c _
  · rename_i change inv h
    simp only [bind_eq_ok] at h
    obtain ⟨_, _, _, _, _, _, hset⟩ := h
    have hstates := Inventory.setTemplates_keepsStates hset
    have hleaves := Inventory.setTemplates_leaves hset
    split
    · exact (Told.commit hstates hleaves [x]).course_modify outage _ _
    · exact (Told.commit hstates hleaves []).course_ok ()

/-- A configuration is edited without its state. -/
theorem editConfiguration_course (x : DeviceId) (reason : Reason)
    {edit : Configuration → Option Configuration}
    (hedit : ∀ k edited, edit k = some edited → edited.status = k.status) :
    Course c (c.editConfiguration outage x reason edit) := by
  unfold editConfiguration
  split
  · exact course_of_answer c _
  · rename_i k hk
    rw [Inventory.configuration_eq_ok] at hk
    split
    · rename_i edited he
      have hput : Inventory.Relists c.inventory x edited (c.inventory.putConfiguration x edited) :=
        Inventory.Relists.putConfiguration _ _ _
      exact (Told.withInventory (Inventory.KeepsStates.of_relists hput hk (hedit k edited he))
        rfl).course_modify outage _ _
    · exact course_of_answer c _

theorem setContext_course (x : DeviceId) (context : Context) :
    Course c (c.setContext outage x context) := by
  refine editConfiguration_course x .context fun k edited h => ?_
  split at h
  · cases h
  · cases h
    rfl

theorem setDocument_course (x : DeviceId) (document : Json) :
    Course c (c.setDocument outage x document) := by
  unfold setDocument
  split
  · refine editConfiguration_course x .document fun k edited h => ?_
    split at h
    · cases h
    · cases h
      rfl
  · exact course_of_answer c _

theorem changeBackend_course (x : DeviceId) (backend : Backend) :
    Course c (c.changeBackend outage x backend) := by
  unfold changeBackend
  split
  · exact course_of_answer c _
  · rename_i change inv h
    split
    · exact (Told.commit (Inventory.setBackend_keepsStates h) (Inventory.setBackend_leaves h)
        [x]).course_modify outage _ _
    · exact course_of_answer c _

theorem addServer_course (s : VpnServer) : Course c (c.addServer s) := by
  unfold addServer
  split
  · exact course_of_answer c _
  · rename_i inv h
    obtain ⟨_, rfl⟩ := Inventory.insertServer_eq_ok h
    have hstored : Told c { c with
        inventory := { c.inventory with servers := c.inventory.servers.insert s.id s } } [] :=
      Told.withInventory (Inventory.KeepsStates.of_eq rfl) rfl
    exact hstored.course_ok ()

theorem updateServer_course (s : VpnServer) : Course c (c.updateServer outage s) := by
  cases h : c.inventory.replaceServer s with
  | error e =>
      unfold updateServer
      rw [h]
      exact course_of_answer c _
  | ok replaced =>
      obtain ⟨p, inv⟩ := replaced
      obtain ⟨stored, hstored, hlast⟩ := updateServer_of_ok c outage h
      obtain ⟨_, rfl⟩ := Inventory.replaceServer_eq_ok h
      have hkept : Told c { c with
          inventory := { c.inventory with servers := c.inventory.servers.insert s.id s } } [] :=
        Told.withInventory (Inventory.KeepsStates.of_eq rfl) rfl
      obtain ⟨ns, htold⟩ : ∃ ns, Told c stored ns := by
        rcases hstored with rfl | rfl
        · exact ⟨_, hkept⟩
        · have hdropped : Told c { c with
              inventory := { c.inventory with servers := c.inventory.servers.insert s.id s }
              peerLists := c.peerLists.drop s.id } [] := hkept.unseen rfl rfl
          exact ⟨_, hdropped.publish s.id⟩
      rcases hlast with hlast | ⟨told, reason, hlast⟩
      · rw [hlast]
        exact htold.course_ok ()
      · rw [hlast]
        exact htold.course_modify outage told reason

/-- The server that a device joins is announced. -/
theorem attachClient_course (client : VpnClient) :
    Course c (c.attachClient settings outage client) := by
  unfold attachClient
  split
  · exact course_of_answer c _
  · rename_i stored inv h
    have hstates : Inventory.KeepsStates c.inventory inv := by
      obtain ⟨_, _, _, _, _, _, _, _, _, rfl⟩ := Inventory.insertClient_eq_ok h
      exact Inventory.KeepsStates.of_eq rfl
    dsimp only
    -- The members of the server that is joined are others, and nobody leaves.
    generalize hc₁ : publish _ _ = c₁
    have hjoined : Told c c₁ [.peersChanged stored.server] := by
      rw [← hc₁]
      refine Told.of_keepsStates ?_ ?_ (fun _ => rfl) fun s => ?_
      · show (c.commit inv [stored.device] []).notices ++ _ = _
        rw [commit_notices, List.map_nil, List.append_nil]
      · show Inventory.KeepsStates _ (c.commit inv [stored.device] []).inventory
        rw [commit_inventory]
        exact hstates
      · show _ ∨ (c.commit inv [stored.device] []).inventory.clientsOn s = _
        rw [commit_inventory, Inventory.clientsOn_insertClient h]
        by_cases hserver : stored.server = s
        · exact Or.inl (hserver ▸ List.mem_singleton_self _)
        · rw [if_neg hserver, List.append_nil]
          exact Or.inr rfl
    exact (hjoined.course_modify outage [stored.device] (.vpnMembership stored.server)).map
      fun _ => stored

theorem detachClient_course (x : DeviceId) (server : ServerId) :
    Course c (c.detachClient outage x server) := by
  unfold detachClient
  split
  · exact course_of_answer c _
  · split
    · exact course_of_answer c _
    · rename_i client inv h
      have hleaves := Inventory.removeClient_leaves c.inventory x server
      obtain ⟨cs, hcs, _⟩ := Inventory.removeClient_snd c.inventory x server
      rw [h] at hleaves hcs
      have hstates : Inventory.KeepsStates c.inventory inv := by
        subst hcs
        exact Inventory.KeepsStates.of_eq rfl
      have hcommit : Told c (c.commit inv [x] [client]) [.peersChanged client.server] :=
        Told.commit hstates hleaves [x]
      exact (hcommit.course_modify outage [x] (.vpnMembership server)).map fun _ => some client

theorem setOrganization_course (s : OrganizationSettings) :
    Course c (c.setOrganization outage s) := by
  have hstored : Told c { c with inventory := { c.inventory with
      organizations := c.inventory.organizations.insert s.organization s } } [] :=
    Told.withInventory (Inventory.KeepsStates.of_eq rfl) rfl
  unfold setOrganization
  dsimp only
  split
  · exact hstored.course_ok ()
  · exact .done (FailsWith.map (invalidateMany_fails outage _ _)) (hstored.invalidateMany outage _)

theorem setGroup_course (hs : c.inventory.Sound) (g : DeviceGroup) :
    Course c (c.setGroup outage g) := by
  unfold setGroup
  split
  · rename_i e inv h
    rw [Inventory.setGroup_eq_error hs.devicesKeyed hs.configured h]
    exact course_of_answer c _
  · rename_i change inv h
    have hcommit := Told.commit (Inventory.setGroup_keepsStates hs h) (Inventory.setGroup_leaves h)
      change.retemplated
    dsimp only
    split
    · exact hcommit.course_ok ()
    · generalize hids :
        (c.commit inv change.retemplated change.left).index.devicesForGroup g.id = ids
      have hdropped := hcommit.invalidateMany outage ids
      have hfails := invalidateMany_fails outage ids (c.commit inv change.retemplated change.left)
      generalize (c.commit inv change.retemplated change.left).invalidateMany outage ids = dropped
        at hdropped hfails ⊢
      obtain ⟨e | n, c₁⟩ := dropped
      · exact .done (FailsWith.error (hfails e rfl)) hdropped
      · exact hdropped.course_modify outage _ _

/-- Preparing for a signal concerns the device only. -/
theorem prepare_configuration {inv inv' : Inventory} {x y : DeviceId} {signal : Signal}
    {changes : Bool} {left : List VpnClient}
    (h : prepare inv x signal changes = .ok (left, inv')) (hy : x ≠ y) :
    inv'.configurations.get? y = inv.configurations.get? y := by
  unfold prepare at h
  split at h
  · split at h
    · obtain ⟨_, _, _, _, _, rfl⟩ := Inventory.deactivate_eq_ok h
      exact SortedMap.get?_insert_ne hy _ _
    · cases h
      rfl
  · rw [map_eq_ok] at h
    obtain ⟨inv₁, hreactivate, hpair⟩ := h
    cases hpair
    obtain ⟨_, _, _, _, rfl⟩ := Inventory.reactivate_eq_ok hreactivate
    exact SortedMap.get?_insert_ne hy _ _
  · cases h
    rfl

/-- A signal tells of the state that it moves, after the servers that the device leaves. -/
theorem send_course (x : DeviceId) (signal : Signal) : Course c (c.send outage x signal) := by
  unfold send
  split
  · exact course_of_answer c _
  rename_i step _ h
  obtain ⟨d, k, s, hd, hk, hs, rfl, _⟩ := Inventory.signalOne_eq_ok h
  split
  · exact course_of_answer c _
  rename_i left inv hprepare
  simp only [bind_eq_ok, pure_eq_ok] at hprepare
  obtain ⟨⟨left', inv₁⟩, hprepare, k₁, _, hput⟩ := hprepare
  obtain ⟨rfl, rfl⟩ := Prod.mk.inj hput
  dsimp only at hprepare ⊢
  -- The checksum may be dropped before the state is announced; neither records nor notices show it.
  generalize hinv : inv₁.putConfiguration x { k₁ with status := s } = inv
  generalize ho : (if changesDocument signal = true then _ else _) = o
  obtain ⟨hfails, hrecords, hpublished⟩ : OnlyStoreFails o.1 ∧ o.2.inventory = inv ∧
      o.2.notices = c.notices ++ left'.map fun client => .peersChanged client.server := by
    rw [← ho]
    split
    · rw [invalidate_snd]
      exact ⟨invalidate_fails _ _ _, commit_inventory c inv [x] left',
        commit_notices c inv [x] left'⟩
    · exact ⟨FailsWith.ok _, commit_inventory c inv [x] left', commit_notices c inv [x] left'⟩
  have htold : Told c (o.2.announceStatus x k.status s signal)
      ((left'.map fun client => .peersChanged client.server) ++
        Notice.ofStates x k.status s signal) := by
    refine ⟨?_, fun y ky ky' hky hky' => ?_, fun server => ?_⟩
    · rw [announceStatus_eq, ← List.append_assoc, ← hpublished]
    · rw [announceStatus_inventory, hrecords, ← hinv] at hky'
      rw [Notice.changesOf_append, Notice.changesOf_peersChanged, List.nil_append]
      by_cases hy : x = y
      · subst hy
        rw [Inventory.putConfiguration_get?_self, Option.some.injEq] at hky'
        rw [← hky', Option.some.inj (hky.symm.trans hk)]
        exact .of_after hs x
      · rw [Inventory.putConfiguration, SortedMap.get?_insert_ne hy,
          prepare_configuration hprepare hy, hky, Option.some.injEq] at hky'
        rw [Notice.changesOf_ofStates_ne hy, hky']
        exact .nil _
    · rw [announceStatus_inventory, hrecords, ← hinv]
      by_cases hserver : server ∈ left'.map VpnClient.server
      · obtain ⟨client, hclient, rfl⟩ := List.mem_map.mp hserver
        exact Or.inl (List.mem_append_left _ (List.mem_map_of_mem hclient))
      · exact Or.inr (prepare_leaves hprepare server hserver)
  exact .done (FailsWith.map hfails) htold

/-! ## Questions -/

/-- A look into the store that does not fail changes nothing that shows. -/
theorem cached_twins (c : Controller) (outage : Outage) (x : DeviceId) :
    Twins 1 c (c.cached outage x).2 := by
  rw [cached_snd]
  refine ⟨rfl, rfl, rfl, rfl, ?_⟩
  dsimp only
  split
  · exact Store.Same.refl _
  · exact Store.Same.of_get _ _

theorem cached_course (x : DeviceId) : Course c (c.cached outage x) :=
  .refused (cached_twins c outage x)

/-- A checksum is looked up twice before it is stored, and only storing it shows. -/
theorem getChecksum_course (x : DeviceId) : Course c (c.getChecksum settings outage x) := by
  have hfirst := cached_twins c outage x
  unfold getChecksum
  generalize c.cached outage x = first at hfirst ⊢
  obtain ⟨e | _ | hit, c₁⟩ := first
  · exact .refused hfirst
  · -- Somebody else may have stored the checksum by the second look.
    have hsecond := hfirst.trans (cached_twins c₁ outage x)
    dsimp only
    generalize c₁.cached outage x = second at hsecond ⊢
    obtain ⟨e | _ | hit, c₂⟩ := second
    · exact .refused hsecond
    · dsimp only
      split
      · exact .refused hsecond
      · rename_i text _
        have htold : Told c c₂ [] := Told.nothing hsecond.inventory hsecond.notices
        have hstored : Told c (c₂.storeChecksum settings outage x (checksum text)).2 [] := by
          unfold storeChecksum
          rw [call_snd]
          exact htold.unseen rfl rfl
        have hfails : OnlyStoreFails (c₂.storeChecksum settings outage x (checksum text)).1 :=
          call_fails _ _ _ _ _
        generalize c₂.storeChecksum settings outage x (checksum text) = third at hstored hfails ⊢
        obtain ⟨e | _, c₃⟩ := third
        · exact .done (FailsWith.error (hfails e rfl)) hstored
        · exact hstored.course_ok _
    · exact .refused hsecond
  · exact .refused hfirst

/-- A look at the peers of a server shows nowhere. -/
theorem renderServer_course (s : ServerId) : Course c (c.renderServer s) := by
  unfold renderServer
  split
  · exact course_of_answer c _
  · exact .refused (Twins.of_peerLists c _)

/-! ## All requests -/

/-- Every request is refused or takes its course. -/
theorem perform_course (hs : c.inventory.Sound) (r : Request) :
    Course c (c.perform settings outage r) := by
  have hlook : ∀ s, Course c (c.peersFor s) := fun s => .refused (Twins.of_peerLists c _)
  cases r with
  | render | document | context | configuration | status | snapshot | check | dependents
  | dependencies => exact course_of_answer c _
  | checksum x => exact (getChecksum_course x).map _
  | cached x => exact (cached_course x).map _
  | peers s => exact (hlook s).map _
  | renderServer s | serverChecksum s => exact (renderServer_course s).map _
  | invalidate x =>
      have htold : Told c c [] := Told.nothing rfl rfl
      exact .done (FailsWith.map (invalidate_fails c outage x)) (htold.invalidate outage x)
  | invalidateDependents on =>
      have htold : Told c c [] := Told.nothing rfl rfl
      exact .done (FailsWith.map (invalidateMany_fails outage _ c)) (htold.invalidateMany outage _)
  | send x signal => exact (send_course x signal).map _
  | attachClient client => exact (attachClient_course client).map _
  | detachClient x server => exact (detachClient_course x server).map _
  | addDevice d configuration => exact (addDevice_course hs d configuration).map _
  | removeDevice x => exact (removeDevice_course hs x).map _
  | updateDevice d => exact (updateDevice_course d).map _
  | addTemplate t => exact (addTemplate_course t).map _
  | updateTemplate t => exact (updateTemplate_course t).map _
  | attachTemplate x | detachTemplate x | setTemplates x | clearTemplates x =>
      exact (changeTemplates_course x _).map _
  | setContext x context => exact (setContext_course x context).map _
  | setDocument x document => exact (setDocument_course x document).map _
  | changeBackend x backend => exact (changeBackend_course x backend).map _
  | addServer s => exact (addServer_course s).map _
  | updateServer s => exact (updateServer_course s).map _
  | setOrganization s => exact (setOrganization_course s).map _
  | setGroup g => exact (setGroup_course hs g).map _

/-- The notices that a request publishes tell the way to the controller after it. -/
theorem perform_told (hs : c.inventory.Sound) (settings : Settings) (outage : Outage)
    (r : Request) : ∃ ns, Told c (c.perform settings outage r).2 ns := by
  cases perform_course hs r with
  | refused h => exact ⟨[], Told.nothing h.inventory h.notices⟩
  | done _ h => exact ⟨_, h⟩

/-- The notices that an event publishes tell the way to the controller after it. -/
theorem after_told (hs : c.inventory.Sound) (settings : Settings) (e : Event) :
    ∃ ns, Told c (c.after settings e) ns := by
  cases e with
  | request outage r => exact perform_told hs settings outage r
  | pass seconds => exact ⟨[], Told.nothing rfl rfl⟩

end Fleet.Controller
