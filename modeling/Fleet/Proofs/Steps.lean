/-
# The steps of operations

What each step of an operation leaves alone: publishing and calls of the store never touch the
records, and making configurations modified only writes states.

Main statements: `Inventory.signalAll_marks`, `Controller.modify_snd`.
-/
import Fleet.Controller.Request
import Fleet.Proofs.Frame

namespace Fleet

open Outcomes

/-! ## States -/

namespace Status

/-- The state of the configuration of a device once something it depends on has changed. -/
def marked (active : Bool) (s : Status) : Status :=
  if active && !s.isDeactivation then .modified else s

/-- A change never refuses a configuration. -/
theorem after_modified (active : Bool) (s : Status) (reason : Reason) :
    s.after active (.modified reason) = .ok (s.marked active) := by
  cases active <;> cases s <;> rfl

/-- A change keeps deactivated configurations deactivated and the others in use. -/
@[simp] theorem isDeactivation_marked (active : Bool) (s : Status) :
    (s.marked active).isDeactivation = s.isDeactivation := by
  cases active <;> cases s <;> rfl

/-- A second change does nothing more. -/
@[simp] theorem marked_marked (active : Bool) (s : Status) :
    (s.marked active).marked active = s.marked active := by
  cases active <;> cases s <;> rfl

/-- A change shows in the configuration of a device in use. -/
theorem marked_eq_modified {active : Bool} {s : Status} (ha : active = true)
    (hs : s.isDeactivation = false) : s.marked active = .modified := by
  rw [marked, ha, hs]
  rfl

/-- Configurations that are not deactivated stay so when they are told anything but
to deactivate. -/
theorem isDeactivation_of_after {active : Bool} {s t : Status} {signal : Signal}
    (h : s.after active signal = .ok t) (hs : s.isDeactivation = false)
    (hdeactivate : signal = .deactivate → t = s) : t.isDeactivation = false := by
  by_cases hsignal : signal = .deactivate
  · rw [hdeactivate hsignal]
    exact hs
  · unfold after deviceNext? at h
    cases active <;> cases signal <;> cases s <;> simp_all [next?, isDeactivation] <;> rw [← h]

/-- Activation leads to one state only. -/
theorem eq_modified_of_activate {active : Bool} {s t : Status}
    (h : s.after active .activate = .ok t) : t = .modified := by
  unfold after deviceNext? at h
  cases active <;> cases s <;> simp_all [next?]

/-- Only signals with which the document may change lead to that state. -/
theorem ne_modified_of_after {active : Bool} {s t : Status} {signal : Signal}
    (h : s.after active signal = .ok t) (hsignal : Controller.changesDocument signal = false) :
    t ≠ .modified := by
  unfold after deviceNext? at h
  cases active <;> cases s <;> cases signal <;>
    simp_all [next?, Controller.changesDocument] <;> simp [← h]

/-- Deactivation leads to one state only. -/
theorem eq_deactivating_of_deactivate {active : Bool} {s t : Status}
    (h : s.after active .deactivate = .ok t) : t = .deactivating := by
  unfold after deviceNext? at h
  cases active <;> cases s <;> simp_all [next?]

end Status

/-! ## Marking configurations -/

namespace Inventory

/-- The configurations of some devices are marked as modified, where they are in use. -/
structure Marks (inv : Inventory) (ids : List DeviceId) (inv' : Inventory) : Prop where
  /-- Nothing but configurations is different. -/
  eq : inv' = { inv with configurations := inv'.configurations }
  /-- A configuration with its device is marked. -/
  marked : ∀ x ∈ ids, ∀ d k, inv.devices.get? x = some d → inv.configurations.get? x = some k →
    inv'.configurations.get? x = some { k with status := k.status.marked d.active }
  /-- The others stay. -/
  kept : ∀ x, x ∉ ids ∨ inv.devices.get? x = none ∨ inv.configurations.get? x = none →
    inv'.configurations.get? x = inv.configurations.get? x

namespace Marks

variable {inv inv' inv'' : Inventory} {ids ids' : List DeviceId}

/-- Without devices nothing happens. -/
theorem refl (inv : Inventory) : Marks inv [] inv := by
  refine ⟨rfl, ?_, fun _ _ => rfl⟩
  intro x hx
  cases hx

/-- The devices stay. -/
theorem devices (h : Marks inv ids inv') : inv'.devices = inv.devices := by
  rw [h.eq]

/-- The memberships stay. -/
theorem clients (h : Marks inv ids inv') : inv'.clients = inv.clients := by
  rw [h.eq]

/-- The memberships of a device stay. -/
theorem clientsOf (h : Marks inv ids inv') (x : DeviceId) : inv'.clientsOf x = inv.clientsOf x := by
  unfold Inventory.clientsOf
  rw [h.clients]

/-- What devices share stays. -/
theorem shares (h : Marks inv ids inv') : SharesWith inv inv' := by
  rw [h.eq]
  exact ⟨rfl, rfl, rfl, rfl⟩

/-- Every configuration afterwards is one from before with a state that may be marked. -/
theorem before (h : Marks inv ids inv') {x : DeviceId} {k' : Configuration}
    (hk' : inv'.configurations.get? x = some k') :
    ∃ k, inv.configurations.get? x = some k ∧ (k' = k ∨ ∃ d, inv.devices.get? x = some d ∧
      k' = { k with status := k.status.marked d.active }) := by
  cases hk : inv.configurations.get? x with
  | none =>
      rw [h.kept x (Or.inr (Or.inr hk)), hk] at hk'
      cases hk'
  | some k =>
      refine ⟨k, rfl, ?_⟩
      by_cases hx : x ∈ ids
      · cases hd : inv.devices.get? x with
        | none =>
            rw [h.kept x (Or.inr (Or.inl hd)), hk] at hk'
            exact Or.inl (Option.some.inj hk').symm
        | some d =>
            rw [h.marked x hx d k hd hk] at hk'
            exact Or.inr ⟨d, rfl, (Option.some.inj hk').symm⟩
      · rw [h.kept x (Or.inl hx), hk] at hk'
        exact Or.inl (Option.some.inj hk').symm

/-- Every configuration from before is still there, with a state that may be marked. -/
theorem after (h : Marks inv ids inv') {x : DeviceId} {k : Configuration}
    (hk : inv.configurations.get? x = some k) :
    ∃ s, inv'.configurations.get? x = some { k with status := s } := by
  by_cases hx : x ∈ ids
  · cases hd : inv.devices.get? x with
    | none => exact ⟨k.status, (h.kept x (Or.inr (Or.inl hd))).trans hk⟩
    | some d => exact ⟨_, h.marked x hx d k hd hk⟩
  · exact ⟨k.status, (h.kept x (Or.inl hx)).trans hk⟩

/-- Marking twice marks the devices of both lists. -/
theorem trans (h : Marks inv ids inv') (h' : Marks inv' ids' inv'') :
    Marks inv (ids ++ ids') inv'' := by
  have hdev := h.devices
  refine ⟨?_, ?_, ?_⟩
  · rw [h'.eq, h.eq]
  · intro x hx d k hd hk
    rw [← hdev] at hd
    by_cases hx₁ : x ∈ ids
    · have hm := h.marked x hx₁ d k (hdev ▸ hd) hk
      by_cases hx₂ : x ∈ ids'
      · rw [h'.marked x hx₂ d _ hd hm]
        simp
      · rw [h'.kept x (Or.inl hx₂), hm]
    · have hx₂ : x ∈ ids' := (List.mem_append.mp hx).resolve_left hx₁
      rw [← h.kept x (Or.inl hx₁)] at hk
      exact h'.marked x hx₂ d k hd hk
  · intro x hx
    have hkeep : inv'.configurations.get? x = inv.configurations.get? x := by
      apply h.kept
      rcases hx with hx | hx
      · exact Or.inl fun hm => hx (List.mem_append_left _ hm)
      · exact Or.inr hx
    rw [← hkeep]
    apply h'.kept
    rw [hdev, hkeep]
    rcases hx with hx | hx
    · exact Or.inl fun hm => hx (List.mem_append_right _ hm)
    · exact Or.inr hx

end Marks

/-- Sending a signal to a configuration writes its state. -/
theorem signalOne_eq_ok {inv inv' : Inventory} {id : DeviceId} {signal : Signal} {step : StatusStep}
    (h : inv.signalOne id signal = .ok (step, inv')) :
    ∃ d k s, inv.devices.get? id = some d ∧ inv.configurations.get? id = some k ∧
      k.status.after d.active signal = .ok s ∧ step = ⟨id, k.status, s⟩ ∧
      inv' = inv.putConfiguration id { k with status := s } := by
  unfold signalOne at h
  simp only [bind_eq_ok, device_eq_ok, configuration_eq_ok, pure_eq_ok] at h
  obtain ⟨d, hd, k, hk, s, hs, h⟩ := h
  cases h
  exact ⟨d, k, s, hd, hk, hs, rfl, rfl⟩

/-- Telling a configuration of a change marks it. -/
theorem signalOne_marks {inv inv' : Inventory} {id : DeviceId} {reason : Reason} {step : StatusStep}
    (h : inv.signalOne id (.modified reason) = .ok (step, inv')) : Marks inv [id] inv' := by
  obtain ⟨d, k, s, hd, hk, hs, _, rfl⟩ := signalOne_eq_ok h
  rw [Status.after_modified, Except.ok.injEq] at hs
  subst hs
  refine ⟨rfl, ?_, ?_⟩
  · intro x hx d' k' hd' hk'
    rw [List.mem_singleton] at hx
    subst hx
    rw [hd, Option.some.injEq] at hd'
    rw [hk, Option.some.injEq] at hk'
    subst hd' hk'
    exact putConfiguration_get?_self
  · intro x hx
    refine (agreesOff_putConfiguration _).configuration x fun hm => ?_
    rw [List.mem_singleton] at hm
    subst hm
    rcases hx with hx | hx | hx
    · exact hx List.mem_cons_self
    · rw [hd] at hx
      cases hx
    · rw [hk] at hx
      cases hx

/-- A configuration that cannot be told of a change is not there. -/
theorem signalOne_error_marks {inv : Inventory} {id : DeviceId} {reason : Reason} {e : Error}
    (h : inv.signalOne id (.modified reason) = .error e) : Marks inv [id] inv := by
  refine ⟨rfl, ?_, fun _ _ => rfl⟩
  intro x hx d k hd hk
  rw [List.mem_singleton] at hx
  subst hx
  unfold signalOne at h
  rw [device_eq_ok.mpr hd, configuration_eq_ok.mpr hk] at h
  simp only [Status.after_modified, bind, Except.bind, pure, Except.pure] at h
  cases h

/-- Telling configurations of a change marks them. -/
theorem signalAll_marks (reason : Reason) (ids : List DeviceId) :
    ∀ inv : Inventory, Marks inv ids (inv.signalAll (.modified reason) ids).2 := by
  induction ids with
  | nil =>
      intro inv
      exact Marks.refl inv
  | cons id rest ih =>
      intro inv
      rw [signalAll]
      split
      · rename_i step inv₁ hone
        exact (signalOne_marks hone).trans (ih inv₁)
      · rename_i e hone
        exact (signalOne_error_marks hone).trans (ih inv)

end Inventory

/-! ## Publishing, indexing and calling the store -/

namespace Controller

variable (c : Controller) (outage : Outage)

@[simp] theorem announceStatus_inventory (device : DeviceId) (s t : Status) (cause : Signal) :
    (c.announceStatus device s t cause).inventory = c.inventory := by
  unfold announceStatus
  split <;> rfl

@[simp] theorem announceStatus_index (device : DeviceId) (s t : Status) (cause : Signal) :
    (c.announceStatus device s t cause).index = c.index := by
  unfold announceStatus
  split <;> rfl

@[simp] theorem announceStatus_store (device : DeviceId) (s t : Status) (cause : Signal) :
    (c.announceStatus device s t cause).store = c.store := by
  unfold announceStatus
  split <;> rfl

@[simp] theorem announceStatus_calls (device : DeviceId) (s t : Status) (cause : Signal) :
    (c.announceStatus device s t cause).calls = c.calls := by
  unfold announceStatus
  split <;> rfl

/-- Announcing steps only publishes. -/
theorem announceSteps_eq (steps : List StatusStep) (cause : Signal) :
    ∃ notices, c.announceSteps steps cause = { c with notices } := by
  unfold announceSteps
  induction steps generalizing c with
  | nil => exact ⟨c.notices, rfl⟩
  | cons s rest ih =>
      rw [List.foldl_cons]
      obtain ⟨notices, h⟩ := ih (c.announceStatus s.device s.before s.after cause)
      rw [h]
      unfold announceStatus
      split
      · exact ⟨notices, rfl⟩
      · exact ⟨notices, rfl⟩

/-- Indexing leaves everything but the index. -/
theorem reindexAll_eq (ids : List DeviceId) :
    c.reindexAll ids = { c with index := (c.reindexAll ids).index } := by
  unfold reindexAll
  induction ids generalizing c with
  | nil => rfl
  | cons id rest ih =>
      rw [List.foldl_cons, ih]
      unfold reindex
      split <;> rfl

/-- The index once it follows an inventory for some devices. -/
def indexed (inv : Inventory) (ids : List DeviceId) : DependencyIndex :=
  ({ c with inventory := inv }.reindexAll ids).index

/-- A commit takes the inventory over, and the index follows for the devices that changed. -/
theorem commit_eq (inv : Inventory) (ids : List DeviceId) (left : List VpnClient) :
    ∃ peerLists notices, c.commit inv ids left =
      { c with inventory := inv, index := c.indexed inv ids, peerLists, notices } := by
  refine ⟨c.peerLists.detachAll left,
    c.notices ++ left.map fun client => .peersChanged client.server, ?_⟩
  unfold commit
  dsimp only
  rw [reindexAll_eq]
  rfl

@[simp] theorem commit_inventory (inv : Inventory) (ids : List DeviceId) (left : List VpnClient) :
    (c.commit inv ids left).inventory = inv := by
  obtain ⟨peerLists, notices, h⟩ := c.commit_eq inv ids left
  rw [h]

@[simp] theorem commit_store (inv : Inventory) (ids : List DeviceId) (left : List VpnClient) :
    (c.commit inv ids left).store = c.store := by
  obtain ⟨peerLists, notices, h⟩ := c.commit_eq inv ids left
  rw [h]

@[simp] theorem commit_calls (inv : Inventory) (ids : List DeviceId) (left : List VpnClient) :
    (c.commit inv ids left).calls = c.calls := by
  obtain ⟨peerLists, notices, h⟩ := c.commit_eq inv ids left
  rw [h]

@[simp] theorem commit_index (inv : Inventory) (ids : List DeviceId) (left : List VpnClient) :
    (c.commit inv ids left).index = c.indexed inv ids :=
  rfl

/-- A call of the store is counted, and has its effect unless it fails. -/
theorem call_snd {α : Type} (kind : StoreCall) (key : String) (run : Store → α × Store) :
    (c.call outage kind key run).2 = { c with
      calls := c.calls + 1
      store := if (outage c.calls kind key).isSome then c.store else (run c.store).2 } := by
  unfold call
  split
  · rename_i h
    simp [h]
  · rename_i h
    simp [h]

/-- Dropping a checksum is a call of the store. -/
theorem invalidate_snd (id : DeviceId) :
    (c.invalidate outage id).2 = { c with
      calls := c.calls + 1
      store := if (outage c.calls .delete (DeviceId.cacheKey id)).isSome then c.store
        else c.store.delete (DeviceId.cacheKey id) } :=
  call_snd c outage _ _ _

/-- Looking a checksum up is a call of the store. -/
theorem cached_snd (id : DeviceId) :
    (c.cached outage id).2 = { c with
      calls := c.calls + 1
      store := if (outage c.calls .get (DeviceId.cacheKey id)).isSome then c.store
        else (c.store.get (DeviceId.cacheKey id)).2 } :=
  call_snd c outage _ _ _

end Controller

/-! ## Dropping checksums -/

/-- The store once the checksums of devices were dropped one after the other, after so many calls; a
call that fails leaves its checksum. -/
def Store.dropAll (outage : Outage) : Nat → List DeviceId → Store → Store
  | _, [], s => s
  | calls, id :: rest, s =>
    dropAll outage (calls + 1) rest
      (if (outage calls .delete (DeviceId.cacheKey id)).isSome then s
        else s.delete (DeviceId.cacheKey id))

/-- Dropping two lists one after the other. -/
theorem Store.dropAll_append (outage : Outage) (ids ids' : List DeviceId) (calls : Nat)
    (s : Store) :
    s.dropAll outage calls (ids ++ ids') =
      (s.dropAll outage calls ids).dropAll outage (calls + ids.length) ids' := by
  induction ids generalizing calls s with
  | nil => rfl
  | cons id rest ih =>
      rw [List.cons_append, dropAll, ih, dropAll, List.length_cons, Nat.add_assoc,
        Nat.add_comm 1 rest.length]

namespace Controller

variable (c : Controller) (outage : Outage)

/-- Dropping the checksums of devices leaves everything but the store. -/
theorem invalidateMany_snd (ids : List DeviceId) :
    (c.invalidateMany outage ids).2 = { c with
      calls := c.calls + ids.length
      store := c.store.dropAll outage c.calls ids } := by
  induction ids generalizing c with
  | nil => rfl
  | cons id rest ih =>
      have hcons : (c.invalidateMany outage (id :: rest)).2 =
          ((c.invalidate outage id).2.invalidateMany outage rest).2 := by
        rw [invalidateMany]
        split
        · rename_i c' h
          rw [h]
          dsimp only
          split <;> rename_i h' <;> rw [h']
        · rename_i e c' h
          rw [h]
      rw [hcons, ih, invalidate_snd, Store.dropAll, List.length_cons, Nat.add_assoc,
        Nat.add_comm 1 rest.length]

/-- Dropping checksums succeeds when no call fails. -/
theorem invalidateMany_fst {ids : List DeviceId}
    (h : ∀ calls kind key, outage calls kind key = none) :
    (c.invalidateMany outage ids).1 = .ok ids.length := by
  induction ids generalizing c with
  | nil => rfl
  | cons id rest ih =>
      have hone : (c.invalidate outage id).1 = .ok () := by
        unfold invalidate call
        rw [h]
      rw [invalidateMany]
      rcases hc : c.invalidate outage id with ⟨r, c'⟩
      rw [hc] at hone
      subst hone
      dsimp only
      have hrest := ih c'
      rcases hn : c'.invalidateMany outage rest with ⟨n, c''⟩
      rw [hn] at hrest
      subst hrest
      rfl

/-- The controller after forgetting a device: the index keeps the device if the store fails. -/
theorem forget_snd (id : DeviceId) :
    (c.forget outage id).2 = { (c.invalidate outage id).2 with
      index := if (outage c.calls .delete (DeviceId.cacheKey id)).isSome then c.index
        else c.index.remove id } := by
  unfold forget invalidate call
  cases outage c.calls .delete (DeviceId.cacheKey id) <;> rfl

/-! ## Making configurations modified -/

/-- Making configurations modified marks them and drops their checksums, whatever the store does. -/
theorem modify_snd (ids : List DeviceId) (reason : Reason) :
    ∃ inv notices, Inventory.Marks c.inventory ids inv ∧
      (c.modify outage ids reason).2 = { c with
        inventory := inv
        calls := c.calls + ids.length
        store := c.store.dropAll outage c.calls ids
        notices } := by
  refine ⟨(c.inventory.signalAll (.modified reason) ids).2, ?_⟩
  unfold modify
  cases ids with
  | nil => exact ⟨c.notices, Inventory.Marks.refl c.inventory, rfl⟩
  | cons id rest =>
      rw [if_neg (by simp)]
      dsimp only
      obtain ⟨notices, h⟩ := announceSteps_eq
        ({ c with
            inventory := (c.inventory.signalAll (.modified reason) (id :: rest)).2
          }.invalidateMany outage (id :: rest)).2
        (c.inventory.signalAll (.modified reason) (id :: rest)).1 (.modified reason)
      refine ⟨notices, Inventory.signalAll_marks reason (id :: rest) c.inventory, ?_⟩
      rw [h, invalidateMany_snd]

/-- Making configurations modified succeeds when no call of the store fails. -/
theorem modify_fst {ids : List DeviceId} {reason : Reason}
    (h : ∀ calls kind key, outage calls kind key = none) :
    (c.modify outage ids reason).1 = .ok () := by
  unfold modify
  split
  · rfl
  · dsimp only
    rw [invalidateMany_fst _ _ h]
    rfl

/-! ## Replacing templates and servers -/

variable {inv : Inventory}

/-- A template that is replaced is committed, and those that use it may be told.  Unless that fails,
those that got it are told then. -/
theorem updateTemplate_of_ok {t p : Template} {ids : List DeviceId}
    (h : c.inventory.replaceTemplate t = .ok (p, ids, inv)) :
    ∃ first : Outcome Unit,
      (first = (.ok (), c.commit inv ids []) ∨
        ∃ told reason, first = (c.commit inv ids []).modify outage told reason) ∧
      ((∃ e, first.1 = .error e ∧ c.updateTemplate outage t = (.error e, first.2)) ∨
        c.updateTemplate outage t = first.2.modify outage ids .templates) := by
  unfold updateTemplate
  rw [h]
  dsimp only
  generalize (inv.templates.get? t.id).any _ = differs
  cases differs with
  | false => exact ⟨(.ok (), c.commit inv ids []), Or.inl rfl, Or.inr rfl⟩
  | true =>
      refine ⟨(c.commit inv ids []).modify outage
        ((c.commit inv ids []).index.devicesForTemplate t.id) (.templateContent t.id),
        Or.inr ⟨_, _, rfl⟩, ?_⟩
      rw [if_pos rfl]
      split
      · rename_i e he
        exact Or.inl ⟨e, he, rfl⟩
      · exact Or.inr rfl

/-- A server that is replaced is stored, and where it moves to another backend its peer list is
dropped and that is published.  Then its clients are told, if it is another one. -/
theorem updateServer_of_ok {s p : VpnServer}
    (h : c.inventory.replaceServer s = .ok (p, inv)) :
    ∃ stored : Controller,
      (stored = { c with inventory := inv } ∨
        stored = { c with inventory := inv, peerLists := c.peerLists.drop s.id }.publish
          (.peersChanged s.id)) ∧
      (c.updateServer outage s = (.ok (), stored) ∨
        ∃ told reason, c.updateServer outage s = stored.modify outage told reason) := by
  unfold updateServer
  rw [h]
  dsimp only
  generalize hstored : (if s.backend = p.backend then { c with inventory := inv } else _) = stored
  refine ⟨stored, ?_, ?_⟩
  · rw [← hstored]
    split
    · exact Or.inl rfl
    · exact Or.inr rfl
  · split
    · exact Or.inl rfl
    · exact Or.inr ⟨_, _, rfl⟩

/-! ## Signals -/

/-- A signal that is taken moves the state and prepares the inventory for it. -/
theorem send_eq_ok {c : Controller} {outage : Outage} {x : DeviceId} {signal : Signal} {s : Status}
    (h : (c.send outage x signal).1 = .ok s) :
    ∃ d k left inv k₁, c.inventory.devices.get? x = some d ∧
      c.inventory.configurations.get? x = some k ∧ k.status.after d.active signal = .ok s ∧
      prepare c.inventory x signal (k.status != s) = .ok (left, inv) ∧
      inv.configurations.get? x = some k₁ ∧
      (c.send outage x signal).2.inventory = inv.putConfiguration x { k₁ with status := s } := by
  revert h
  unfold send
  split
  · intro h
    cases h
  rename_i step _ hone
  obtain ⟨d, k, t, hd, hk, ht, rfl, rfl⟩ := Inventory.signalOne_eq_ok hone
  split
  · intro h
    cases h
  rename_i left inv hprepare
  simp only [bind_eq_ok, pure_eq_ok, Inventory.configuration_eq_ok] at hprepare
  obtain ⟨⟨left', inv₁⟩, hprepare, k₁, hk₁, hput⟩ := hprepare
  dsimp only at hk₁ hput
  obtain ⟨rfl, rfl⟩ := Prod.mk.inj hput
  intro h
  obtain ⟨_, _, rfl⟩ := map_eq_ok.mp h
  have hcommit := c.commit_inventory (inv₁.putConfiguration x { k₁ with status := t }) [x] left'
  refine ⟨d, k, left', inv₁, k₁, hd, hk, ht, hprepare, hk₁, ?_⟩
  dsimp only
  rw [announceStatus_inventory]
  split
  · rw [invalidate_snd]
    exact hcommit
  · exact hcommit

end Controller

end Fleet
