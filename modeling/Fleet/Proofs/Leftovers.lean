/-
# Checksums of devices that are gone

A checksum is looked up before the configuration is rendered, so that one that outlives its device
is still given.  It can only have been left behind when the device was removed while the store
failed to drop it, and that failure was reported.

Main statement: `Controller.getChecksum_of_gone`.
-/
import Fleet.Proofs.Lookups
import Fleet.Proofs.Retries

namespace Fleet.Controller

variable {settings : Settings} {outage : Outage} {c : Controller} {x : DeviceId} {v : String}

/-! ## Asking for a checksum -/

/-- Without a device nothing is rendered. -/
theorem render_of_gone (hgone : c.inventory.devices.get? x = none) :
    c.render settings x = .error (.notFound .device x.text) := by
  unfold render Inventory.render Inventory.renderInput Inventory.device
  rw [hgone]
  rfl

/-- Without a device the checksum that lives is given, if there is one and the store
can be asked. -/
theorem getChecksum_cases_of_gone (hgone : c.inventory.devices.get? x = none) :
    (c.getChecksum settings outage x).1 = .error (.notFound .device x.text) ∨
      (∃ reason, (c.getChecksum settings outage x).1 =
        .error (.storeFailed .get (DeviceId.cacheKey x) reason)) ∨
      ∃ v, (c.getChecksum settings outage x).1 = .ok v ∧ c.live? x = some v := by
  obtain ⟨calls, s, h, _⟩ := getChecksum_fetches settings outage c x
  generalize (c.getChecksum settings outage x).1 = answer at h ⊢
  have hrender : c.render settings x = _ := render_of_gone hgone
  cases h with
  | lookupFails | againFails => exact Or.inr (Or.inl ⟨_, rfl⟩)
  | found _ hlive => exact Or.inr (Or.inr ⟨_, rfl, hlive⟩)
  | renderFails _ _ _ hfails =>
      rw [hrender, Except.error.injEq] at hfails
      exact Or.inl (congrArg Except.error hfails.symm)
  | writeFails _ _ _ htext | stored _ _ _ htext =>
      rw [hrender] at htext
      cases htext

/-- The checksum that lives is given unless the lookup fails. -/
theorem getChecksum_of_live (hlive : c.live? x = some v) :
    (c.getChecksum settings outage x).1 = .ok v ∨
      ∃ reason, outage c.calls .get (DeviceId.cacheKey x) = some reason ∧
        (c.getChecksum settings outage x).1 =
          .error (.storeFailed .get (DeviceId.cacheKey x) reason) := by
  have hanswers := getChecksum_answers settings outage c x
  cases hread : outage c.calls .get (DeviceId.cacheKey x) with
  | none => exact Or.inl (hanswers.found v hread hlive)
  | some reason => exact Or.inr ⟨reason, rfl, hanswers.lookupFails reason hread⟩

/-! ## Leaving a checksum behind -/

/-- An event removes a device, and it is reported that its checksum was not dropped. -/
def LeavesChecksum (settings : Settings) (x : DeviceId) (c : Controller) (e : Event) : Prop :=
  ∃ outage reason, e = .request outage (.removeDevice x) ∧
    (c.perform settings outage (.removeDevice x)).1 =
      .error (.storeFailed .delete (DeviceId.cacheKey x) reason)

/-- A checksum outlives its device. -/
structure Outlives (x : DeviceId) (v : String) (c : Controller) : Prop where
  /-- There is no such device. -/
  gone : c.inventory.devices.get? x = none
  /-- The checksum lives. -/
  lives : c.live? x = some v

/-- When a checksum outlives the removal of its device, that was reported. -/
theorem storeFailed_of_removeDevice {removed : RemovedDevice} {inv : Inventory}
    (h : c.inventory.removeDevice x = (.ok removed, inv))
    (hlive : (c.removeDevice outage x).2.live? x = some v) :
    ∃ reason, (c.removeDevice outage x).1 =
      .error (.storeFailed .delete (DeviceId.cacheKey x) reason) := by
  unfold removeDevice at hlive ⊢
  rw [h] at hlive ⊢
  unfold forget invalidate call at hlive ⊢
  dsimp only at hlive ⊢
  cases hfails : outage (c.commit inv [] removed.clients).calls .delete (DeviceId.cacheKey x) with
  | some reason => exact ⟨reason, rfl⟩
  | none =>
      rw [hfails] at hlive
      have hdropped := Store.live?_delete_self (c.commit inv [] removed.clients).store
        (DeviceId.cacheKey x)
      exact absurd (hdropped.symm.trans hlive) (by simp)

/-- A checksum outlives its device already before an event, or the event leaves it behind. -/
theorem outlives_of_after (hs : c.inventory.Sound) {e : Event}
    (h : Outlives x v (c.after settings e)) : Outlives x v c ∨ LeavesChecksum settings x c e := by
  obtain ⟨hgone, hlive⟩ := h
  have hbefore : c.live? x = some v := by
    rcases live_of_after hs hlive with hbefore | ⟨text, htext, _⟩
    · exact hbefore
    · rw [render_of_gone hgone] at htext
      cases htext
  cases e with
  | pass seconds => exact Or.inl ⟨hgone, hbefore⟩
  | request outage r =>
      obtain ⟨change, hmakes, hfollows⟩ := answers_of_sound hs settings outage r
      rw [after, hfollows.marks.devices] at hgone
      cases hp : c.inventory.devices.get? x with
      | none => exact Or.inl ⟨hp, hbefore⟩
      | some p =>
          right
          obtain ⟨removed, rfl, hremove⟩ := hmakes.removes hs.devicesKeyed hp hgone
          obtain ⟨reason, hfailed⟩ := storeFailed_of_removeDevice hremove hlive
          refine ⟨outage, reason, rfl, ?_⟩
          exact congrArg (Except.map Reply.removed) hfailed

/-! ## Runs -/

/-- A checksum was left behind when its device was removed, and has outlived it ever since. -/
def LeftBehind (settings : Settings) (now : Nat) (events : List Event) (x : DeviceId) (v : String) :
    Prop :=
  EverSince settings (LeavesChecksum settings x) (Outlives x v) (start .empty now) events

/-- What lives for a device that is gone is exactly what was left behind. -/
theorem leftBehind_iff_live {now : Nat} {events : List Event}
    (hc : c = (start .empty now).run settings events) (hgone : c.inventory.devices.get? x = none) :
    LeftBehind settings now events x v ↔ c.live? x = some v := by
  subst hc
  constructor
  · rintro ⟨earlier, e, later, rfl, _, hsince⟩
    exact (hsince later (List.prefix_refl later)).lives
  · intro hlive
    refine everSince_of_holds (I := fun c => c.inventory.Sound) (fun c e hs => after_sound hs e)
      (fun c e hs => outlives_of_after hs) (start_sound now) ?_ ⟨hgone, hlive⟩
    rintro ⟨_, hnothing⟩
    cases hnothing

/-- Asked for the checksum of a device that is gone, a controller gives none, unless one was left
behind when the device was removed; that one is given then, unless the lookup fails. -/
theorem getChecksum_of_gone (settings : Settings) (now : Nat) (events : List Event)
    (hc : c = (start .empty now).run settings events) (outage : Outage)
    (hgone : c.inventory.devices.get? x = none) :
    ((c.getChecksum settings outage x).1 = .error (.notFound .device x.text) ∨
      (∃ reason, (c.getChecksum settings outage x).1 =
        .error (.storeFailed .get (DeviceId.cacheKey x) reason)) ∨
      ∃ v, (c.getChecksum settings outage x).1 = .ok v ∧ LeftBehind settings now events x v) ∧
    ∀ v, (LeftBehind settings now events x v ↔ c.live? x = some v) ∧
      (c.live? x = some v → (c.getChecksum settings outage x).1 = .ok v ∨
        ∃ reason, outage c.calls .get (DeviceId.cacheKey x) = some reason ∧
          (c.getChecksum settings outage x).1 =
            .error (.storeFailed .get (DeviceId.cacheKey x) reason)) := by
  refine ⟨?_, fun v => ⟨leftBehind_iff_live hc hgone, getChecksum_of_live⟩⟩
  rcases getChecksum_cases_of_gone hgone with hmissing | hfailed | ⟨v, hgiven, hlive⟩
  · exact Or.inl hmissing
  · exact Or.inr (Or.inl hfailed)
  · exact Or.inr (Or.inr ⟨v, hgiven, (leftBehind_iff_live hc hgone).mpr hlive⟩)

/-- A device asks for its checksum and is removed, while the store drops nothing. -/
def leftoverSample : List Event :=
  Sample.events freshSample ++ [.request Sample.deletesFail (.removeDevice Sample.device.id)]

/-- The device is gone, and a checksum is given for it all the same. -/
theorem leftoverSample_given :
    ((start .empty 0).run Sample.settings leftoverSample).inventory.devices.get? Sample.device.id =
        none ∧
      ∃ v, (((start .empty 0).run Sample.settings leftoverSample).getChecksum Sample.settings .none
        Sample.device.id).1 = .ok v := by
  have hrun :
      ((start .empty 0).run Sample.settings leftoverSample).inventory.devices.get?
        Sample.device.id = none ∧
      (((start .empty 0).run Sample.settings leftoverSample).getChecksum Sample.settings .none
        Sample.device.id).1.isOk = true := by
    decide +kernel
  obtain ⟨hgone, hok⟩ := hrun
  refine ⟨hgone, ?_⟩
  cases hgiven : (((start .empty 0).run Sample.settings leftoverSample).getChecksum Sample.settings
      .none Sample.device.id).1 with
  | ok v => exact ⟨v, rfl⟩
  | error e =>
      rw [hgiven] at hok
      cases hok

/-- That checksum was left behind when the device was removed, and it is given again. -/
theorem getChecksum_of_gone_sample :
    ∃ v, LeftBehind Sample.settings 0 leftoverSample Sample.device.id v ∧
      (((start .empty 0).run Sample.settings leftoverSample).getChecksum Sample.settings .none
        Sample.device.id).1 = .ok v := by
  obtain ⟨hgone, v, hgiven⟩ := leftoverSample_given
  obtain ⟨hcases, hleft⟩ :=
    getChecksum_of_gone Sample.settings 0 leftoverSample rfl .none hgone
  rcases hcases with hmissing | ⟨reason, hfailed⟩ | ⟨v, _, hsince⟩
  · rw [hmissing] at hgiven
    cases hgiven
  · rw [hfailed] at hgiven
    cases hgiven
  · refine ⟨v, hsince, ?_⟩
    rcases (hleft v).2 ((hleft v).1.mp hsince) with hok | ⟨_, hfails, _⟩
    · exact hok
    · cases hfails

/-- A device that is gone may have a checksum: it was removed while the store dropped nothing. -/
theorem removed_device_has_checksum :
    ¬ ∀ (settings : Settings) (now : Nat) (events : List Event) (outage : Outage) (x : DeviceId),
      ((start .empty now).run settings events).inventory.devices.get? x = none →
      ∃ e, (((start .empty now).run settings events).getChecksum settings outage x).1 = .error e ∧
        (e.kind = .notFound ∨ e.kind = .cacheUnavailable) := by
  intro h
  obtain ⟨hgone, v, hgiven⟩ := leftoverSample_given
  obtain ⟨e, he, _⟩ := h Sample.settings 0 leftoverSample .none Sample.device.id hgone
  rw [hgiven] at he
  cases he

end Fleet.Controller
