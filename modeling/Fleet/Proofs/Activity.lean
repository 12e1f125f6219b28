/-
# Activity and status agree

The record of a device says whether the device is in use, its configuration in which state it is.
The configuration of a device in use is modified, applied or rolled back.  That of a device out of
use is being deactivated, deactivated or rolled back; only a device that is out of use from the
start can be found modified, until its agent reports a failure or it is deactivated after all.

Main statement: `Controller.status_agrees_or_addedInactive`.
-/
import Fleet.Proofs.Sound

namespace Fleet

/-! ## States of devices out of use -/

namespace Status

/-- Without activation a device out of use gets into no state but deactivation and failure. -/
theorem eq_of_after_inactive {s t : Status} {signal : Signal} (h : s.after false signal = .ok t)
    (hactivate : signal ≠ .activate) (huse : t.isDeactivation = false) (herror : t ≠ .error) :
    t = s := by
  unfold after deviceNext? at h
  cases signal with
  | activate => exact absurd rfl hactivate
  | applied | failed | modified | deactivate | confirmDeactivation =>
      cases s <;> simp_all [next?, isDeactivation] <;> subst h <;> simp_all

end Status

namespace Inventory

variable {inv inv' : Inventory} {x : DeviceId} {s : Status}

/-- A device is out of use while its configuration is in a state. -/
def InactiveIn (inv : Inventory) (x : DeviceId) (s : Status) : Prop :=
  ∃ d k, inv.devices.get? x = some d ∧ inv.configurations.get? x = some k ∧ d.active = false ∧
    k.status = s

/-- Making configurations modified passes over devices out of use. -/
theorem Marks.inactiveIn {ids : List DeviceId} (h : Marks inv ids inv')
    (hin : inv'.InactiveIn x s) : inv.InactiveIn x s := by
  obtain ⟨d, k', hd, hk', hinactive, rfl⟩ := hin
  rw [h.devices] at hd
  obtain ⟨k, hk, rfl | ⟨d', hd', rfl⟩⟩ := h.before hk'
  · exact ⟨d, k', hd, hk, hinactive, rfl⟩
  · have : d' = d := Option.some.inj (hd'.symm.trans hd)
    subst this
    refine ⟨d', k, hd, hk, hinactive, ?_⟩
    dsimp only
    rw [hinactive]
    rfl

end Inventory

/-! ## Devices added out of use -/

namespace Controller

/-- A request adds a device that is out of use. -/
def AddsInactive (c : Controller) (x : DeviceId) (r : Request) : Prop :=
  ∃ d k, r = .addDevice d k ∧ d.id = x ∧ d.active = false ∧ c.inventory.devices.get? x = none

variable {settings : Settings} {outage : Outage} {c : Controller} {r : Request} {change : Change}
  {x : DeviceId} {s : Status} {now : Nat} {events : List Event}

/-- A rewritten device that is out of use was so before, and in the same state unless it is being
deactivated, deactivated or rolled back. -/
theorem Rewrites.inactive {inv : Inventory} {p d : Device} {k k' : Configuration}
    (h : Rewrites inv x r p k d k') (hinactive : d.active = false)
    (huse : k'.status.isDeactivation = false) (herror : k'.status ≠ .error) :
    p.active = false ∧ k'.status = k.status := by
  cases h.moves with
  | stays hactive hstatus => exact ⟨hactive.symm.trans hinactive, hstatus⟩
  | signalled hactive hstatus hactivate =>
      -- Out of use, no signal but activation leads to a state that is not excluded.
      have hbefore : p.active = false := hactive.symm.trans hinactive
      rw [hbefore] at hstatus
      exact ⟨hbefore, Status.eq_of_after_inactive hstatus hactivate huse herror⟩
  | deactivated _ hstatus =>
      rw [hstatus] at huse
      cases huse
  | activated hactive =>
      rw [hinactive] at hactive
      cases hactive

/-- A device that is out of use after a request, neither deactivated nor rolled back, was so before
or is added so. -/
theorem Makes.inactiveIn (hs : c.inventory.Sound) (h : Makes settings outage c r change)
    (hin : change.edited.InactiveIn x s) (huse : s.isDeactivation = false) (herror : s ≠ .error) :
    c.inventory.InactiveIn x s ∨ s = .modified ∧ c.AddsInactive x r := by
  obtain ⟨d, k', hd, hk', hinactive, rfl⟩ := hin
  cases h.turns hs.devicesKeyed (fun x => (hs.devices x).paired) x with
  | absent hnone =>
      rw [hd] at hnone
      cases hnone
  | added hid hnew _ _ hd' hk =>
      right
      rw [hd, Option.some.injEq] at hd'
      rw [hk', Option.some.injEq] at hk
      subst hd' hk
      exact ⟨rfl, _, _, rfl, hid, hinactive, hnew⟩
  | rewritten hp hk hd' hk'' hrewrites =>
      left
      rw [hd, Option.some.injEq] at hd'
      rw [hk', Option.some.injEq] at hk''
      subst hd' hk''
      obtain ⟨hbefore, hsame⟩ := hrewrites.inactive hinactive huse herror
      exact ⟨_, _, hp, hk, hbefore, hsame.symm⟩

/-- A device that is out of use after an event, neither deactivated nor rolled back, was so before
or is added so. -/
theorem inactiveIn_of_after (hs : c.inventory.Sound) {e : Event}
    (hin : (c.after settings e).inventory.InactiveIn x s) (huse : s.isDeactivation = false)
    (herror : s ≠ .error) :
    c.inventory.InactiveIn x s ∨ s = .modified ∧ e.Asks (c.AddsInactive x) := by
  cases e with
  | request outage r =>
      obtain ⟨change, hmakes, hfollows⟩ := answers_of_sound hs settings outage r
      exact hmakes.inactiveIn hs (hfollows.marks.inactiveIn hin) huse herror
  | pass seconds => exact Or.inl hin

/-- No configuration of a device out of use is applied. -/
theorem Reachable.not_inactiveIn_applied (h : Reachable settings c) (x : DeviceId) :
    ¬ c.inventory.InactiveIn x .applied := by
  have hboth : c.inventory.Sound ∧ ¬ c.inventory.InactiveIn x .applied := by
    refine h.keeps (I := fun c => c.inventory.Sound ∧ ¬ c.inventory.InactiveIn x .applied)
      (fun now => ⟨start_sound now, ?_⟩) (fun c e hc => ⟨after_sound hc.1 e, fun hin => ?_⟩)
    · rintro ⟨d, k, hd, _⟩
      cases hd
    · rcases inactiveIn_of_after hc.1 hin rfl (by decide) with hbefore | ⟨hmodified, _⟩
      · exact hc.2 hbefore
      · cases hmodified
  exact hboth.2

/-! ## Agreement -/

/-- A device was added out of use, and its configuration has been modified ever since. -/
def AddedInactive (settings : Settings) (c : Controller) (events : List Event) (x : DeviceId) :
    Prop :=
  EverSince settings (fun c e => e.Asks (c.AddsInactive x))
    (fun c => c.inventory.InactiveIn x .modified) c events

/-- A device out of use whose configuration is modified was added so. -/
theorem addedInactive_of_inactiveIn
    (h : ((start .empty now).run settings events).inventory.InactiveIn x .modified) :
    AddedInactive settings (start .empty now) events x := by
  have hstart : ¬ (start .empty now).inventory.InactiveIn x .modified := by
    rintro ⟨d, k, hd, _⟩
    cases hd
  refine everSince_of_holds (I := fun c => c.inventory.Sound) (fun _ e hs => after_sound hs e)
    (fun c e hs hin => ?_) (start_sound now) hstart h
  exact (inactiveIn_of_after hs hin rfl (by decide)).imp_right And.right

/-- After every run from an empty inventory, the configuration of a device in use is modified,
applied or rolled back, and that of a device out of use is being deactivated, deactivated or rolled
back, or it is modified and the device was added out of use. -/
theorem status_agrees_or_addedInactive (now : Nat) (events : List Event) {d : Device}
    {k : Configuration}
    (hd : ((start .empty now).run settings events).inventory.devices.get? x = some d)
    (hk : ((start .empty now).run settings events).inventory.configurations.get? x = some k) :
    (d.active = true → k.status = .modified ∨ k.status = .applied ∨ k.status = .error) ∧
      (d.active = false → k.status = .deactivating ∨ k.status = .deactivated ∨ k.status = .error ∨
        k.status = .modified ∧ AddedInactive settings (start .empty now) events x) := by
  have hreach : Reachable settings ((start .empty now).run settings events) := ⟨now, events, rfl⟩
  constructor
  · intro hactive
    have huse := (hreach.sound.devices x).inUse d k hd hk hactive
    cases hstatus : k.status with
    | modified | applied | error => simp
    | deactivating | deactivated =>
        rw [hstatus] at huse
        cases huse
  · intro hinactive
    cases hstatus : k.status with
    | deactivating | deactivated | error => simp
    | applied =>
        exact absurd ⟨d, k, hd, hk, hinactive, hstatus⟩ (hreach.not_inactiveIn_applied x)
    | modified =>
        have hadded := addedInactive_of_inactiveIn ⟨d, k, hd, hk, hinactive, hstatus⟩
        exact Or.inr (Or.inr (Or.inr ⟨rfl, hadded⟩))

/-- A device is added and taken out of use. -/
def retiredSample : List Request :=
  [.addDevice Sample.device (Sample.configuration []), .send Sample.device.id .deactivate]

/-- The configuration of the device is being deactivated then. -/
theorem status_agrees_or_addedInactive_sample :
    ∃ d k, (Sample.controller retiredSample).inventory.devices.get? Sample.device.id = some d ∧
      (Sample.controller retiredSample).inventory.configurations.get? Sample.device.id = some k ∧
      d.active = false ∧
      (k.status = .deactivating ∨ k.status = .deactivated ∨ k.status = .error ∨
        k.status = .modified ∧ AddedInactive Sample.settings (start .empty 0)
          (Sample.events retiredSample) Sample.device.id) := by
  have hd : (Sample.controller retiredSample).inventory.devices.get? Sample.device.id =
      some { Sample.device with active := false } := by
    decide +kernel
  have hk : (Sample.controller retiredSample).inventory.configurations.get? Sample.device.id =
      some { Sample.configuration [] with status := .deactivating } := by
    decide +kernel
  exact ⟨_, _, hd, hk, rfl,
    (status_agrees_or_addedInactive 0 (Sample.events retiredSample) hd hk).2 rfl⟩

/-- A device out of use need not be deactivated or rolled back: it is added so. -/
theorem inactive_device_added_modified :
    ¬ ∀ (settings : Settings) (c : Controller), Reachable settings c →
      ∀ x d k, c.inventory.devices.get? x = some d → c.inventory.configurations.get? x = some k →
        (d.active = true → k.status = .modified ∨ k.status = .applied ∨ k.status = .error) ∧
          (d.active = false →
            k.status = .deactivating ∨ k.status = .deactivated ∨ k.status = .error) := by
  intro h
  have hagrees := h Sample.settings _
    (Sample.reachable [.addDevice { Sample.device with active := false } (Sample.configuration [])])
    Sample.device.id { Sample.device with active := false } (Sample.configuration [])
    (by decide +kernel) (by decide +kernel)
  rcases hagrees.2 rfl with hstatus | hstatus | hstatus
  · cases hstatus
  · cases hstatus
  · cases hstatus

end Controller

end Fleet
