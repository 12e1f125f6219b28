/-
# Refused requests change nothing

A request that fails with anything but a call of the store is refused: the records, the index, the
notices and what lives in the store are as they were, and no later look at the peers of a server,
after whatever comes in between, shows that there was such a request.

Main statement: `Controller.unchanged_of_refused`.
-/
import Fleet.Proofs.Course

namespace Fleet.Controller

variable {settings : Settings} {outage : Outage} {c c' : Controller} {k : Nat}

/-- A request that fails with anything but a call of the store leaves a controller that shows the
same. -/
theorem twins_of_refused (hs : c.inventory.Sound) {r : Request} {e : Error}
    (he : (c.perform settings outage r).1 = .error e) (hkind : e.kind ≠ .cacheUnavailable) :
    ∃ k, Twins k c (c.perform settings outage r).2 := by
  have hcourse : Course c (c.perform settings outage r) := perform_course hs r
  cases hcourse with
  | refused h => exact ⟨_, h⟩
  | done hfails _ => exact absurd (hfails e he) hkind

/-- Controllers that show the same answer the same peers: the lists that they keep are those that
they would collect. -/
theorem Twins.peersFor_fst (h : Twins k c c') (hc : c.Warm) (hc' : c'.Warm) (s : ServerId) :
    (c'.peersFor s).1 = (c.peersFor s).1 :=
  hc.peersFor_eq hc' (by rw [h.inventory]) (by rw [h.inventory])

/-- In every reachable state, a request that fails with anything but a call of the store changes no
record, no dependency, nothing that lives in the store and no notice.  After any further events, in
which the calls of the store fail as they would have without the request, the peers of every server
are those without the request. -/
theorem unchanged_of_refused (hreach : Reachable settings c) (outage : Outage) (r : Request)
    {e : Error} (he : (c.perform settings outage r).1 = .error e)
    (hkind : e.kind ≠ .cacheUnavailable) :
    (c.perform settings outage r).2.inventory = c.inventory ∧
      (c.perform settings outage r).2.index = c.index ∧
      (∀ key, (c.perform settings outage r).2.store.entryAlive? key = c.store.entryAlive? key) ∧
      (c.perform settings outage r).2.notices = c.notices ∧
      ∀ events s,
        (((c.perform settings outage r).2.run settings (events.map
          (Event.delayed ((c.perform settings outage r).2.calls - c.calls)))).peersFor s).1 =
        ((c.run settings events).peersFor s).1 := by
  obtain ⟨k, h⟩ := twins_of_refused hreach.sound he hkind
  refine ⟨h.inventory, h.index, h.store.entries, h.notices, fun events s => ?_⟩
  have hcalls : (c.perform settings outage r).2.calls - c.calls = k := by
    rw [h.calls, Nat.add_sub_cancel_left]
  have hafter : Reachable settings (c.perform settings outage r).2 :=
    hreach.run [.request outage r]
  rw [hcalls]
  exact (Twins.run events h).peersFor_fst (hreach.run events).warm (hafter.run _).warm s

/-- A device joins a server with the last tunnel id, somebody looks at the peers, and another
device is added. -/
def crowdedSample : List Request :=
  Sample.joining ++ [.peers Sample.server.id,
    .addDevice { Sample.device with id := ⟨"e"⟩ }
      { Sample.configuration [] with device := ⟨"e"⟩ }]

/-- The other device cannot join the server.  Nothing shows of that when the first one is removed
then while the store drops nothing. -/
theorem unchanged_of_refused_sample :
    ((Sample.controller crowdedSample).perform Sample.settings .none
        (.attachClient { Sample.client with device := ⟨"e"⟩ })).1 =
      .error (.tunnelIdsExhausted Sample.server.id 1) ∧
    ((Sample.controller crowdedSample).perform Sample.settings .none
        (.attachClient { Sample.client with device := ⟨"e"⟩ })).2.inventory =
      (Sample.controller crowdedSample).inventory ∧
    ∀ k, k = ((Sample.controller crowdedSample).perform Sample.settings .none
        (.attachClient { Sample.client with device := ⟨"e"⟩ })).2.calls -
          (Sample.controller crowdedSample).calls →
      ((((Sample.controller crowdedSample).perform Sample.settings .none
        (.attachClient { Sample.client with device := ⟨"e"⟩ })).2.run Sample.settings
          [.request (Sample.deletesFail.delayed k) (.removeDevice Sample.device.id)]).peersFor
            Sample.server.id).1 =
      (((Sample.controller crowdedSample).run Sample.settings
          [.request Sample.deletesFail (.removeDevice Sample.device.id)]).peersFor
            Sample.server.id).1 := by
  have hrefused : ((Sample.controller crowdedSample).attachClient Sample.settings .none
      { Sample.client with device := ⟨"e"⟩ }).1 =
        .error (.tunnelIdsExhausted Sample.server.id 1) := by
    decide +kernel
  have he : ((Sample.controller crowdedSample).perform Sample.settings .none
      (.attachClient { Sample.client with device := ⟨"e"⟩ })).1 =
        .error (.tunnelIdsExhausted Sample.server.id 1) :=
    congrArg (Except.map Reply.client) hrefused
  obtain ⟨hinventory, _, _, _, hpeers⟩ :=
    unchanged_of_refused (Sample.reachable crowdedSample) .none _
    he (by decide)
  refine ⟨he, hinventory, ?_⟩
  rintro k rfl
  exact hpeers [.request Sample.deletesFail (.removeDevice Sample.device.id)] Sample.server.id

end Fleet.Controller
