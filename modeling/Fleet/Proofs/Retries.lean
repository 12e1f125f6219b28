/-
# Retries after the store failed

A request edits the records before it drops checksums, so that a checksum which the store fails to
drop stays although it is that of the records before.  A retried signal, or a retried request to
drop checksums, drops them again.  Every other request finds the records as it says when it is
retried, and drops nothing: a checksum that the first attempt failed to drop lives on.

Main statement: `Controller.fresh_or_undropped_of_retry`.
-/
import Fleet.Proofs.Freshness
import Fleet.Proofs.Repeats

namespace Fleet

open Outcomes

namespace Controller

variable {settings : Settings} {outage outage' : Outage} {c c₁ : Controller} {r : Request}
  {change : Change} {x : DeviceId} {v : String}

/-- On the way from one controller to another the checksums of some devices were to be dropped, one
after the other, and the store failed to drop that of a device. -/
def FailedToDrop (outage : Outage) (c c₁ : Controller) (x : DeviceId) : Prop :=
  ∃ ids i, c₁.store = c.store.dropAll outage c.calls ids ∧ c₁.calls = c.calls + ids.length ∧
    ids[i]? = some x ∧ outage (c.calls + i) .delete (DeviceId.cacheKey x) ≠ none

/-- A store that does not fail drops what it should. -/
theorem not_failedToDrop (hserved : ∀ calls kind key, outage calls kind key = none) :
    ¬ FailedToDrop outage c c₁ x := by
  rintro ⟨_, _, _, _, _, hfails⟩
  exact hfails (hserved _ _ _)

/-- A checksum that a request should have dropped lives because the store failed. -/
theorem Follows.failedToDrop (h : Follows outage c r change c₁) (hlooks : r.looksUp = false)
    (hx : x ∈ change.dropped) (hlive : c₁.live? x = some v) : FailedToDrop outage c c₁ x := by
  obtain ⟨i, hi⟩ := List.getElem?_of_mem hx
  unfold live? at hlive
  rw [h.store hlooks] at hlive
  exact ⟨change.dropped, i, h.store hlooks, h.calls hlooks, hi,
    (Store.live_of_dropAll change.dropped c.calls c.store hlive).2 i hi⟩

/-- A checksum that was fresh is fresh after a request while it lives, unless the store failed to
drop it or the device is passed over. -/
theorem fresh_or_failedToDrop (hs : c.inventory.Sound) (hc : c.Covers) (hlooks : r.looksUp = false)
    (hmakes : Makes settings outage c r change) (hfollows : Follows outage c r change c₁)
    (hfresh : c.live? x = some v → Fresh settings c x v) (hpass : ¬ c.PassesOver x r)
    (hlive : c₁.live? x = some v) :
    Fresh settings c₁ x v ∨ (x ∈ change.dropped ∧ FailedToDrop outage c c₁ x) := by
  by_cases hx : x ∈ change.dropped
  · exact Or.inr ⟨hx, hfollows.failedToDrop hlooks hx hlive⟩
  · left
    obtain ⟨d, text, hd, htext, hv⟩ := hfresh (hfollows.live_before hlooks hlive)
    have hrender : c₁.render settings x = .ok text :=
      (hfollows.render_eq hs hc hpass hmakes hx hd).trans htext
    obtain ⟨d', hd'⟩ := Inventory.exists_device_of_render hrender
    exact ⟨d', text, hd', hrender, hv⟩

/-! ## Signals -/

/-- A checksum that is dropped without failure does not live. -/
theorem not_live_of_invalidate (h : (c.invalidate outage x).1 = .ok ()) :
    (c.invalidate outage x).2.live? x = none := by
  unfold invalidate call at h ⊢
  cases hfails : outage c.calls .delete (DeviceId.cacheKey x) with
  | some reason =>
      rw [hfails] at h
      cases h
  | none =>
      exact Store.live?_delete_self c.store _

/-- A signal with which the document may change, and that is received, drops the checksum. -/
theorem not_live_of_send {signal : Signal} {s : Status} (hchanges : changesDocument signal = true)
    (h : (c.send outage x signal).1 = .ok s) : (c.send outage x signal).2.live? x = none := by
  unfold send at h ⊢
  split at h
  · cases h
  · rename_i step _ _
    split at h
    · cases h
    · rename_i left inv _
      simp only [hchanges, if_true, map_eq_ok] at h ⊢
      obtain ⟨_, hdropped, _⟩ := h
      unfold live?
      rw [announceStatus_store]
      exact not_live_of_invalidate hdropped

/-- A signal drops at most the checksum of its device, and that only if the document may change. -/
theorem Makes.dropped_of_send {id : DeviceId} {signal : Signal}
    (h : Makes settings outage c (.send id signal) change) (hx : x ∈ change.dropped) :
    x = id ∧ changesDocument signal = true := by
  cases h with
  | idle => cases hx
  | relist _ _ hts => cases hts
  | edit _ hedit => cases hedit
  | signal =>
      dsimp only at hx
      split at hx
      · rename_i hchanges
        exact ⟨List.mem_singleton.mp hx, hchanges⟩
      · cases hx
  | deactivate | activate => exact ⟨List.mem_singleton.mp hx, rfl⟩

/-! ## Retries -/

/-- Where the records are the same a checksum is fresh in both controllers or in none. -/
theorem Fresh.of_inventory_eq (h : Fresh settings c x v) (hinv : c₁.inventory = c.inventory) :
    Fresh settings c₁ x v := by
  unfold Fresh render at h ⊢
  rw [hinv]
  exact h

/-- Before a request that does not settle is answered well at the second attempt, a checksum that
lives afterwards is fresh. -/
theorem fresh_before_answer (hs : c.inventory.Sound) (hc : c.Covers) (hlooks : r.looksUp = false)
    (hsettles : r.settles = false) (hfresh : c.live? x = some v → Fresh settings c x v)
    {reply : Reply}
    (hok : ((c.perform settings outage r).2.perform settings outage' r).1 = .ok reply)
    (hlive₁ : (c.perform settings outage r).2.live? x = some v)
    (hlive₂ : ((c.perform settings outage r).2.perform settings outage' r).2.live? x = some v) :
    Fresh settings (c.perform settings outage r).2 x v := by
  obtain ⟨change, hmakes, hfollows⟩ := answers_of_sound hs settings outage r
  have hbefore := hfresh (hfollows.live_before hlooks hlive₁)
  cases r with
  | invalidate id =>
      refine hbefore.of_inventory_eq ?_
      show (c.invalidate outage id).2.inventory = c.inventory
      rw [invalidate_snd]
  | invalidateDependents on =>
      refine hbefore.of_inventory_eq ?_
      show (c.invalidateMany outage (c.index.devicesFor on)).2.inventory = c.inventory
      rw [invalidateMany_snd]
  | send id signal =>
      have hpass : ¬ c.PassesOver x (.send id signal) := fun h => by cases h
      rcases fresh_or_failedToDrop hs hc hlooks hmakes hfollows hfresh hpass hlive₁ with
        hgood | ⟨hx, _⟩
      · exact hgood
      · -- The signal that is received now drops the checksum.
        obtain ⟨rfl, hchanges⟩ := hmakes.dropped_of_send hx
        obtain ⟨s, hs, _⟩ := map_eq_ok.mp hok
        have hdropped := not_live_of_send hchanges hs
        exact absurd (hdropped.symm.trans hlive₂) (Option.some_ne_none v).symm
  | checksum | cached => cases hlooks
  | _ => cases hsettles

/-- From a reachable state in which every checksum that lives is fresh, a request is attempted while
the store may fail, and answered well once the store works.  A request that settles does nothing the
second time, and a checksum that lives afterwards is fresh unless it lived before and the first
attempt failed to drop it.  After any other request every checksum that lives is fresh. -/
theorem fresh_or_undropped_of_retry (hreach : Reachable settings c)
    (hfresh : ∀ x v, c.live? x = some v → Fresh settings c x v) (outage outage' : Outage)
    (hserved : ∀ calls kind key, outage' calls kind key = none) (r : Request)
    (hlooks : r.looksUp = false) {reply : Reply}
    (hok : ((c.perform settings outage r).2.perform settings outage' r).1 = .ok reply) :
    (r.settles = true →
      ((c.perform settings outage r).2.perform settings outage' r).2.inventory =
          (c.perform settings outage r).2.inventory ∧
        ((c.perform settings outage r).2.perform settings outage' r).2.store =
          (c.perform settings outage r).2.store) ∧
    ∀ x v, ((c.perform settings outage r).2.perform settings outage' r).2.live? x = some v →
      ¬ c.PassesOver x r →
      Fresh settings ((c.perform settings outage r).2.perform settings outage' r).2 x v ∨
        (r.settles = true ∧ c.live? x = some v ∧
          FailedToDrop outage c (c.perform settings outage r).2 x) := by
  have hs := hreach.sound
  have hreach₁ := hreach.run [.request outage r]
  obtain ⟨change, hmakes, hfollows⟩ := answers_of_sound hs settings outage r
  refine ⟨fun hsettles => perform_again hreach outage outage' r hsettles, fun x v hlive hpass => ?_⟩
  cases hsettles : r.settles with
  | true =>
      -- The retry does nothing, so that what lives after it lived after the first attempt.
      obtain ⟨hinv, hstore⟩ := perform_again hreach outage outage' r hsettles
      have hlive₁ : (c.perform settings outage r).2.live? x = some v := by
        unfold live? at hlive ⊢
        rw [← hstore]
        exact hlive
      rcases fresh_or_failedToDrop hs hreach.covers hlooks hmakes hfollows (hfresh x v) hpass
        hlive₁ with hgood | ⟨_, hfailed⟩
      · exact Or.inl (hgood.of_inventory_eq hinv)
      · exact Or.inr ⟨rfl, hfollows.live_before hlooks hlive₁, hfailed⟩
  | false =>
      left
      obtain ⟨change', hmakes', hfollows'⟩ := answers_of_sound hreach₁.sound settings outage' r
      have hlive₁ := hfollows'.live_before hlooks hlive
      have hfresh₁ := fresh_before_answer hs hreach.covers hlooks hsettles (hfresh x v) hok hlive₁
        hlive
      -- Only a template that is replaced passes over a device, and replacing one settles.
      have hpass₁ : ¬ (c.perform settings outage r).2.PassesOver x r := by
        intro hover
        cases hover
        cases hsettles
      exact (fresh_or_failedToDrop hreach₁.sound hreach₁.covers hlooks hmakes' hfollows'
        (fun _ => hfresh₁) hpass₁ hlive).resolve_right fun h => not_failedToDrop hserved h.2

/-- After a device asked for its checksum every checksum that lives is fresh. -/
theorem fresh_freshSample :
    ∀ x v, (Sample.controller freshSample).live? x = some v →
      Fresh Sample.settings (Sample.controller freshSample) x v := by
  intro x v hlive
  have hrun :
      (Sample.controller freshSample).store.entries.keys = [DeviceId.cacheKey Sample.device.id] ∧
      (Sample.controller freshSample).inventory.devices.get? Sample.device.id =
        some Sample.device ∧
      (Sample.controller freshSample).render Sample.settings Sample.device.id =
        .ok Json.emptyObject.render := by
    decide +kernel
  obtain ⟨hkeys, hd, hrender⟩ := hrun
  obtain ⟨e, he, _⟩ := Store.live?_eq_some.mp hlive
  have hx : DeviceId.cacheKey x ∈ (Sample.controller freshSample).store.entries.keys :=
    SortedMap.mem_keys.mpr ⟨e, he⟩
  rw [hkeys, List.mem_singleton, DeviceId.cacheKey_inj] at hx
  subst hx
  have hvalue := freshSample_live
  rw [hlive, Option.some.injEq] at hvalue
  exact ⟨Sample.device, Json.emptyObject.render, hd, hrender, hvalue⟩

/-- The device gets another base document. -/
def documentSample : Request :=
  .setDocument Sample.device.id (.object [("k", .string "v")])

/-- The store fails to drop the checksum. -/
theorem documentSample_fails :
    ((Sample.controller freshSample).perform Sample.settings Sample.deletesFail documentSample).1 =
      .error (.storeFailed .delete (DeviceId.cacheKey Sample.device.id) "down") := by
  have h : ((Sample.controller freshSample).setDocument Sample.deletesFail Sample.device.id
      (.object [("k", .string "v")])).1 =
        .error (.storeFailed .delete (DeviceId.cacheKey Sample.device.id) "down") := by
    decide +kernel
  exact congrArg (Except.map fun _ => Reply.done) h

/-- The retry is answered well. -/
theorem documentSample_retried :
    (((Sample.controller freshSample).perform Sample.settings Sample.deletesFail
      documentSample).2.perform Sample.settings .none documentSample).1 = .ok .done := by
  have h : (((Sample.controller freshSample).setDocument Sample.deletesFail Sample.device.id
      (.object [("k", .string "v")])).2.setDocument .none Sample.device.id
        (.object [("k", .string "v")])).1 = .ok () := by
    decide +kernel
  exact congrArg (Except.map fun _ => Reply.done) h

/-- The retry leaves the records, and the checksum is fresh or was not dropped. -/
theorem fresh_or_undropped_of_retry_sample :
    (((Sample.controller freshSample).perform Sample.settings Sample.deletesFail
        documentSample).2.perform Sample.settings .none documentSample).2.inventory =
      ((Sample.controller freshSample).perform Sample.settings Sample.deletesFail
        documentSample).2.inventory ∧
    ∀ x v, (((Sample.controller freshSample).perform Sample.settings Sample.deletesFail
        documentSample).2.perform Sample.settings .none documentSample).2.live? x = some v →
      Fresh Sample.settings (((Sample.controller freshSample).perform Sample.settings
        Sample.deletesFail documentSample).2.perform Sample.settings .none documentSample).2 x v ∨
      FailedToDrop Sample.deletesFail (Sample.controller freshSample)
        ((Sample.controller freshSample).perform Sample.settings Sample.deletesFail
          documentSample).2 x := by
  obtain ⟨hkept, hfresh⟩ := fresh_or_undropped_of_retry (Sample.reachable freshSample)
    fresh_freshSample Sample.deletesFail .none (fun _ _ _ => rfl) documentSample rfl
    documentSample_retried
  refine ⟨(hkept rfl).1, fun x v hlive => ?_⟩
  exact (hfresh x v hlive fun h => by cases h).imp_right fun h => h.2.2

/-- A retry need not repair what the store failed to do: the checksum of the empty document lives on
when the device has another one. -/
theorem retry_leaves_checksum :
    ¬ ∀ (settings : Settings) (c : Controller), Reachable settings c →
      (∀ x v, c.live? x = some v → Fresh settings c x v) →
      ∀ (outage outage' : Outage) (r : Request) (e : Error) (reply : Reply),
        (∀ calls kind key, outage calls kind key ≠ none → kind = .delete) →
        (∀ calls kind key, outage' calls kind key = none) → r.looksUp = false →
        (c.perform settings outage r).1 = .error e → e.kind = .cacheUnavailable →
        ((c.perform settings outage r).2.perform settings outage' r).1 = .ok reply →
        ∀ x v, ((c.perform settings outage r).2.perform settings outage' r).2.live? x = some v →
          Fresh settings ((c.perform settings outage r).2.perform settings outage' r).2 x v := by
  intro h
  have hdeletes : ∀ calls kind key, Sample.deletesFail calls kind key ≠ none → kind = .delete := by
    intro calls kind key hfails
    by_cases hkind : kind = .delete
    · exact hkind
    · exact absurd (if_neg hkind) hfails
  have hlive : (((Sample.controller freshSample).perform Sample.settings Sample.deletesFail
      documentSample).2.perform Sample.settings .none documentSample).2.live? Sample.device.id =
        some (checksum Json.emptyObject.render) := by
    decide +kernel
  obtain ⟨_, text, _, htext, hv⟩ := h Sample.settings _ (Sample.reachable freshSample)
    fresh_freshSample Sample.deletesFail .none documentSample _ _ hdeletes (fun _ _ _ => rfl) rfl
    documentSample_fails rfl documentSample_retried _ _ hlive
  -- The checksum that lives is that of the empty document.
  have hrendered : ((((Sample.controller freshSample).perform Sample.settings Sample.deletesFail
      documentSample).2.perform Sample.settings .none documentSample).2.render Sample.settings
        Sample.device.id).toOption =
          some (Json.object [("k", .string "v")]).render := by
    decide +kernel
  rw [htext] at hrendered
  rw [Option.some.inj hrendered] at hv
  exact absurd hv (by decide +kernel)

end Controller

end Fleet
