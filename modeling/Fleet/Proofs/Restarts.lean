/-
# Restarts

A controller that is built from the records of another one finds its index anew and keeps no peer
list.  While the store does not fail, it goes on as the other one would have: the index has kept up
with the records until then, and so have the peer lists, so that nothing is lost with them.

Main statement: `Controller.ReachableServed.run_restarted`.
-/
import Fleet.Proofs.Mirror
import Fleet.Proofs.PeerLists
import Fleet.Proofs.Simulations

namespace Fleet

/-! ## Indexes with the same records -/

namespace DependencyIndex

variable {index index' : DependencyIndex} {inv : Inventory}

/-- Two indexes answer by their records, which are the same. -/
structure Same (index index' : DependencyIndex) : Prop where
  /-- The first answers by its records. -/
  faithful : index.Faithful
  /-- The second does too. -/
  faithful' : index'.Faithful
  /-- The records are the same. -/
  dependencies : ∀ x, index'.dependencies x = index.dependencies x

namespace Same

/-- They find the same devices. -/
theorem devicesFor (h : index.Same index') (on : Dependency) :
    index'.devicesFor on = index.devicesFor on := by
  refine Key.eq_of_ascending (index'.sorted_devicesFor on) (index.sorted_devicesFor on) fun x => ?_
  rw [h.faithful' on x, h.faithful on x, h.dependencies]

theorem record (h : index.Same index') (x : DeviceId) (d : Dependencies) :
    (index.record x d).Same (index'.record x d) := by
  refine ⟨h.faithful.record x d, h.faithful'.record x d, fun y => ?_⟩
  rw [dependencies_record, dependencies_record, h.dependencies]

theorem remove (h : index.Same index') (x : DeviceId) :
    (index.remove x).Same (index'.remove x) := by
  refine ⟨h.faithful.remove x, h.faithful'.remove x, fun y => ?_⟩
  rw [dependencies_remove, dependencies_remove, h.dependencies]

/-- Indexes that mirror the same inventory. -/
theorem of_mirrors (h : index.Mirrors inv) (h' : index'.Mirrors inv) : index.Same index' := by
  refine ⟨h.faithful, h'.faithful, fun x => ?_⟩
  rw [h.recorded, h'.recorded]

end Same

end DependencyIndex

/-! ## Controllers that go on from others -/

namespace Controller

variable {settings : Settings} {outage : Outage} {c c' : Controller} {past : List Notice}
  {e : Event}

/-- A second controller goes on from a first one that has published some more notices. -/
structure Resumes (past : List Notice) (c c' : Controller) : Prop where
  /-- The records are the same. -/
  inventory : c'.inventory = c.inventory
  /-- The indexes have the same records. -/
  index : c.index.Same c'.index
  /-- The notices from before are missing. -/
  notices : c.notices = past ++ c'.notices

namespace Resumes

/-- Every step goes on alike, while no call of the store fails. -/
theorem simulation (past : List Notice) (hserved : ∀ calls kind key, outage calls kind key = none) :
    Simulation (Resumes past) outage outage where
  inventory h := h.inventory
  devicesFor h := h.index.devicesFor
  dependencies h := h.index.dependencies
  withInventory h _ := ⟨rfl, h.index, h.notices⟩
  withPeerLists h _ _ := ⟨h.inventory, h.index, h.notices⟩
  publishAll h ns := by
    refine ⟨h.inventory, h.index, ?_⟩
    dsimp only
    rw [h.notices, List.append_assoc]
  record h x d := ⟨h.inventory, h.index.record x d, h.notices⟩
  remove h x := ⟨h.inventory, h.index.remove x, h.notices⟩
  invalidate h x := by
    unfold Controller.invalidate call
    rw [hserved, hserved]
    exact ⟨rfl, h.inventory, h.index, h.notices⟩

/-- After any request the second controller goes on again. -/
theorem perform (h : Resumes past c c') (hserved : ∀ calls kind key, outage calls kind key = none)
    (r : Request) :
    Resumes past (c.perform settings outage r).2 (c'.perform settings outage r).2 := by
  cases hr : r.readsKept with
  | false => exact ((simulation past hserved).perform h hr).related
  | true =>
      -- What is read and kept then is not seen.
      cases r with
      | checksum x =>
          show Resumes past (c.getChecksum settings outage x).2 (c'.getChecksum settings outage x).2
          obtain ⟨store, calls, hc⟩ := getChecksum_keeps settings outage c x
          obtain ⟨store', calls', hc'⟩ := getChecksum_keeps settings outage c' x
          rw [hc, hc']
          exact ⟨h.inventory, h.index, h.notices⟩
      | cached x =>
          show Resumes past (c.cached outage x).2 (c'.cached outage x).2
          rw [cached_snd, cached_snd]
          exact ⟨h.inventory, h.index, h.notices⟩
      | peers s => exact (simulation past hserved).withPeerLists h _ _
      | renderServer s | serverChecksum s => exact (simulation past hserved).renderServer h s
      | _ => cases hr

/-- After any event the second controller goes on again. -/
theorem after (h : Resumes past c c') (he : e.Served) :
    Resumes past (c.after settings e) (c'.after settings e) := by
  cases e with
  | request outage r => exact h.perform he r
  | pass seconds => exact ⟨h.inventory, h.index, h.notices⟩

/-- After any run the second controller goes on again. -/
theorem run (events : List Event) (hserved : ∀ e ∈ events, e.Served) :
    ∀ {c c' : Controller}, Resumes past c c' →
      Resumes past (c.run settings events) (c'.run settings events) := by
  induction events with
  | nil => exact fun h => h
  | cons e rest ih =>
      exact fun h => ih (fun e he => hserved e (List.mem_cons_of_mem _ he))
        (h.after (hserved e List.mem_cons_self))

/-- Where the peer lists agree with the records, both answer every request alike, unless it looks
checksums up. -/
theorem answer_eq (h : Resumes past c c') (hserved : ∀ calls kind key, outage calls kind key = none)
    (hw : c.Warm) (hw' : c'.Warm) {r : Request} (hr : r.looksUp = false) :
    (c'.perform settings outage r).1 = (c.perform settings outage r).1 := by
  cases hkept : r.readsKept with
  | false => exact ((simulation past hserved).perform h hkept).answer
  | true =>
      cases r with
      | checksum | cached => cases hr
      | peers s =>
          have hpeers : (c'.peersFor s).1 = (c.peersFor s).1 :=
            hw.peersFor_eq hw' (by rw [h.inventory]) (by rw [h.inventory])
          exact congrArg (Except.map _) hpeers
      | renderServer s | serverChecksum s =>
          exact congrArg (Except.map _) (hw.renderServer_eq hw' h.inventory s)
      | _ => cases hkept

end Resumes

/-! ## Restarts -/

/-- The controller that is built from the records of another one, over some store of checksums. -/
def restarted (c : Controller) (store : Store) : Controller :=
  { start c.inventory store.now with store }

/-- It has the same records. -/
theorem restarted_inventory (c : Controller) (store : Store) :
    (c.restarted store).inventory = c.inventory := by
  unfold restarted start
  rw [reindexAll_eq]

/-- It keeps no peer list. -/
theorem restarted_peerLists (c : Controller) (store : Store) :
    (c.restarted store).peerLists = .empty := by
  unfold restarted start
  rw [reindexAll_eq]

/-- It has published nothing. -/
theorem restarted_notices (c : Controller) (store : Store) : (c.restarted store).notices = [] := by
  unfold restarted start
  rw [reindexAll_eq]

/-- Its index is found for every device, and mirrors the records. -/
theorem restarted_mirrors (c : Controller) (store : Store) :
    (c.restarted store).index.Mirrors c.inventory := by
  apply mirrors_reindexAll DependencyIndex.faithful_empty
  intro x hx
  have hnone : c.inventory.devices.get? x = none := by
    cases hd : c.inventory.devices.get? x with
    | none => rfl
    | some d => exact absurd (SortedMap.mem_keys.mpr ⟨d, hd⟩) hx
  exact (toOption_dependencies_of_none hnone).symm

/-- It goes on from where the other controller is. -/
theorem ReachableServed.resumes_restarted (h : ReachableServed settings c) (store : Store) :
    Resumes c.notices c (c.restarted store) := by
  refine ⟨c.restarted_inventory store, .of_mirrors h.mirrors.2 (c.restarted_mirrors store), ?_⟩
  rw [restarted_notices, List.append_nil]

/-- In every state that a run leads to while the store does not fail, a controller that is built
from the records goes on as the one that they are taken from, over whatever store and however long
the store does not fail then: both end with the same records, publish the same notices from there
on, and answer every request alike that looks no checksum up. -/
theorem ReachableServed.run_restarted (h : ReachableServed settings c) (store : Store)
    (events : List Event) (hserved : ∀ e ∈ events, e.Served) :
    ((c.restarted store).run settings events).inventory = (c.run settings events).inventory ∧
      (c.run settings events).notices =
        c.notices ++ ((c.restarted store).run settings events).notices ∧
      ∀ outage r, (∀ calls kind key, outage calls kind key = none) → r.looksUp = false →
        (((c.restarted store).run settings events).perform settings outage r).1 =
          ((c.run settings events).perform settings outage r).1 := by
  have hreach : Reachable settings c := by
    obtain ⟨now, earlier, _, hc⟩ := h
    exact ⟨now, earlier, hc⟩
  have hresumes : Resumes c.notices (c.run settings events)
      ((c.restarted store).run settings events) :=
    Resumes.run events hserved (h.resumes_restarted store)
  refine ⟨hresumes.inventory, hresumes.notices, fun outage r houtage hr => ?_⟩
  -- Neither of them keeps a peer list that has not kept up with the records.
  have hsound : (c.restarted store).inventory.Sound := by
    rw [restarted_inventory]
    exact hreach.sound
  have hwarm : ((c.restarted store).run settings events).Warm :=
    run_warm hsound (warm_of_empty (c.restarted_peerLists store)) events
  exact hresumes.answer_eq houtage (hreach.run events).warm hwarm hr

/-- A device with a template joins a server whose peers somebody looks at, and applies its
configuration. -/
def restartSample : List Request :=
  [.addServer Sample.server, .addTemplate Sample.template,
    .addDevice Sample.device (Sample.configuration [Sample.template.id]),
    .attachClient Sample.client, .peers Sample.server.id, .send Sample.device.id .applied]

/-- Then the content of the template changes. -/
def restartEdit : List Event :=
  Sample.events [.updateTemplate { Sample.template with document := .object [("a", .null)] }]

/-- A controller that starts from the records before that, without the peer list, announces the
change of the configuration as the other one does, and answers the same peers. -/
theorem run_restarted_sample :
    ((Sample.controller restartSample).peerLists.get? Sample.server.id).isSome = true ∧
      (((Sample.controller restartSample).restarted (.emptyAt 5)).run Sample.settings
        restartEdit).notices =
          [.statusChanged Sample.device.id .applied .modified
            (.modified (.templateContent Sample.template.id))] ∧
      ((Sample.controller restartSample).run Sample.settings restartEdit).notices =
        (Sample.controller restartSample).notices ++
          (((Sample.controller restartSample).restarted (.emptyAt 5)).run Sample.settings
            restartEdit).notices ∧
      ((((Sample.controller restartSample).restarted (.emptyAt 5)).run Sample.settings
        restartEdit).perform Sample.settings .none (.peers Sample.server.id)).1 =
      (((Sample.controller restartSample).run Sample.settings restartEdit).perform Sample.settings
        .none (.peers Sample.server.id)).1 := by
  obtain ⟨_, hnotices, hanswers⟩ :=
    (Sample.reachableServed restartSample).run_restarted (.emptyAt 5)
    restartEdit (Sample.served _)
  exact ⟨by decide +kernel, by decide +kernel, hnotices,
    hanswers .none (.peers Sample.server.id) (fun _ _ _ => rfl) rfl⟩

end Controller

end Fleet
