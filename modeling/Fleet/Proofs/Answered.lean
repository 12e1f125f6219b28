/-
# What success tells

Every operation reports a failure of the store that it meets.  So an operation that succeeds met
none: with a store that never fails it has the same outcome.  Then every checksum that it had to
drop is gone, and these are the checksums of all devices that it changed.

Main statements: `Controller.perform_asServed`, `Controller.not_live_of_ok`.
-/
import Fleet.Proofs.Freshness
import Fleet.Proofs.StatusWritten

namespace Fleet.Controller

variable {outage : Outage} {α β : Type}

/-- If an operation succeeds, its outcome is the one given. -/
def Outcome.AsServed (o o₀ : Outcome α) : Prop :=
  ∀ a, o.1 = .ok a → o = o₀

namespace Outcome.AsServed

variable {o o₀ : Outcome α}

theorem rfl : AsServed o o :=
  fun _ _ => Eq.refl o

/-- A failure is not compared. -/
theorem of_error {e : Error} {c : Controller} : AsServed (.error e, c) o₀ := by
  intro a h
  cases h

/-- An operation failed, or its outcome is the one given. -/
theorem failed_or_eq (h : AsServed o o₀) : (∃ e c, o = (.error e, c)) ∨ o = o₀ := by
  obtain ⟨_ | a, c⟩ := o
  · exact Or.inl ⟨_, c, Eq.refl _⟩
  · exact Or.inr (h a (Eq.refl _))

theorem map (h : AsServed o o₀) (f : α → β) : AsServed (o.map f) (o₀.map f) := by
  rcases h.failed_or_eq with ⟨e, c, rfl⟩ | rfl
  · exact of_error
  · exact rfl

end Outcome.AsServed

variable (outage) (c : Controller)

/-! ## Calls of the store -/

/-- A call that succeeds does not fail. -/
theorem call_asServed (kind : StoreCall) (key : String) (run : Store → α × Store) :
    (c.call outage kind key run).AsServed (c.call .none kind key run) := by
  unfold call
  cases outage c.calls kind key with
  | some reason => exact .of_error
  | none => exact .rfl

theorem cached_asServed (x : DeviceId) : (c.cached outage x).AsServed (c.cached .none x) :=
  call_asServed outage c _ _ _

theorem storeChecksum_asServed (settings : Settings) (x : DeviceId) (value : String) :
    (c.storeChecksum settings outage x value).AsServed (c.storeChecksum settings .none x value) :=
  call_asServed outage c _ _ _

theorem invalidate_asServed (x : DeviceId) :
    (c.invalidate outage x).AsServed (c.invalidate .none x) :=
  call_asServed outage c _ _ _

theorem getChecksum_asServed (settings : Settings) (x : DeviceId) :
    (c.getChecksum settings outage x).AsServed (c.getChecksum settings .none x) := by
  unfold getChecksum
  rcases (cached_asServed outage c x).failed_or_eq with ⟨e, c₁, h⟩ | h
  · rw [h]
    exact .of_error
  · rw [h]
    split
    · exact .of_error
    · exact .rfl
    · rename_i c₁ _
      rcases (cached_asServed outage c₁ x).failed_or_eq with ⟨e, c₂, h⟩ | h
      · rw [h]
        exact .of_error
      · rw [h]
        split
        · exact .of_error
        · exact .rfl
        · rename_i c₂ _
          cases c₂.render settings x with
          | error e => exact .of_error
          | ok text =>
              rcases (storeChecksum_asServed outage c₂ settings x
                (checksum text)).failed_or_eq with ⟨e, c₃, h⟩ | h
              · dsimp only
                rw [h]
                exact .of_error
              · dsimp only
                rw [h]
                exact .rfl

/-- When checksums are dropped without failure, each of them is. -/
theorem invalidateMany_asServed (ids : List DeviceId) :
    (c.invalidateMany outage ids).AsServed (c.invalidateMany .none ids) := by
  induction ids generalizing c with
  | nil => exact .rfl
  | cons x rest ih =>
      unfold invalidateMany
      rcases (invalidate_asServed outage c x).failed_or_eq with ⟨e, c₁, h⟩ | h
      · rw [h]
        exact .of_error
      · rw [h]
        split
        · rename_i c₁ _
          rcases (ih c₁).failed_or_eq with ⟨e, c₂, h⟩ | h
          · rw [h]
            exact .of_error
          · rw [h]
            exact .rfl
        · exact .of_error

theorem forget_asServed (x : DeviceId) : (c.forget outage x).AsServed (c.forget .none x) := by
  unfold forget
  rcases (invalidate_asServed outage c x).failed_or_eq with ⟨e, c₁, h⟩ | h
  · rw [h]
    exact .of_error
  · rw [h]
    exact .rfl

theorem modify_asServed (ids : List DeviceId) (reason : Reason) :
    (c.modify outage ids reason).AsServed (c.modify .none ids reason) := by
  unfold modify
  split
  · exact .rfl
  · dsimp only
    rcases (invalidateMany_asServed outage { c with inventory :=
      (c.inventory.signalAll (.modified reason) ids).2 } ids).failed_or_eq with ⟨e, c₁, h⟩ | h
    · rw [h]
      exact .of_error
    · rw [h]
      exact .rfl

/-! ## Operations -/

theorem addDevice_asServed (d : Device) (configuration : Configuration) :
    (c.addDevice outage d configuration).AsServed (c.addDevice .none d configuration) := by
  unfold addDevice
  split
  · exact .of_error
  · exact invalidate_asServed outage _ d.id

theorem removeDevice_asServed (x : DeviceId) :
    (c.removeDevice outage x).AsServed (c.removeDevice .none x) := by
  unfold removeDevice
  split
  · exact .of_error
  · exact (forget_asServed outage _ x).map _

theorem updateDevice_asServed (d : Device) :
    (c.updateDevice outage d).AsServed (c.updateDevice .none d) := by
  unfold updateDevice
  split
  · exact .of_error
  · dsimp only
    split
    · exact modify_asServed outage _ _ _
    · exact .rfl

theorem addTemplate_asServed (t : Template) :
    (c.addTemplate outage t).AsServed (c.addTemplate .none t) := by
  unfold addTemplate
  split
  · exact .of_error
  · exact modify_asServed outage _ _ _

theorem updateTemplate_asServed (t : Template) :
    (c.updateTemplate outage t).AsServed (c.updateTemplate .none t) := by
  unfold updateTemplate
  split
  · exact .of_error
  · rename_i p ids inv _
    dsimp only
    generalize (inv.templates.get? t.id).any _ = differs
    cases differs with
    | false => exact modify_asServed outage _ ids .templates
    | true =>
        rw [if_pos (Eq.refl true), if_pos (Eq.refl true)]
        rcases (modify_asServed outage (c.commit inv ids [])
          ((c.commit inv ids []).index.devicesForTemplate t.id)
          (.templateContent t.id)).failed_or_eq with ⟨e, c₁, h⟩ | h
        · rw [h]
          exact .of_error
        · rw [h]
          split
          · exact .of_error
          · exact modify_asServed outage _ ids .templates

theorem changeTemplates_asServed (x : DeviceId)
    (compute : Catalog → Configuration → OrgId → Except Error (List TemplateId)) :
    (c.changeTemplates outage x compute).AsServed (c.changeTemplates .none x compute) := by
  unfold changeTemplates
  split
  · exact .of_error
  · split
    · exact modify_asServed outage _ _ _
    · exact .rfl

theorem editConfiguration_asServed (x : DeviceId) (reason : Reason)
    (edit : Configuration → Option Configuration) :
    (c.editConfiguration outage x reason edit).AsServed
      (c.editConfiguration .none x reason edit) := by
  unfold editConfiguration
  split
  · exact .of_error
  · split
    · exact modify_asServed outage _ _ _
    · exact .rfl

theorem setDocument_asServed (x : DeviceId) (document : Json) :
    (c.setDocument outage x document).AsServed (c.setDocument .none x document) := by
  unfold setDocument
  split
  · exact editConfiguration_asServed outage c x .document _
  · exact .of_error

theorem changeBackend_asServed (x : DeviceId) (backend : Backend) :
    (c.changeBackend outage x backend).AsServed (c.changeBackend .none x backend) := by
  unfold changeBackend
  split
  · exact .of_error
  · split
    · exact modify_asServed outage _ _ _
    · exact .rfl

theorem updateServer_asServed (s : VpnServer) :
    (c.updateServer outage s).AsServed (c.updateServer .none s) := by
  unfold updateServer
  split
  · exact .of_error
  · dsimp only
    generalize (if s.backend = _ then _ else _ : Controller) = c₁
    split
    · exact .rfl
    · exact modify_asServed outage c₁ _ _

theorem attachClient_asServed (settings : Settings) (client : VpnClient) :
    (c.attachClient settings outage client).AsServed
      (c.attachClient settings .none client) := by
  unfold attachClient
  split
  · exact .of_error
  · exact (modify_asServed outage _ _ _).map _

theorem detachClient_asServed (x : DeviceId) (server : ServerId) :
    (c.detachClient outage x server).AsServed (c.detachClient .none x server) := by
  unfold detachClient
  split
  · exact .of_error
  · split
    · exact .rfl
    · exact (modify_asServed outage _ _ _).map _

theorem setOrganization_asServed (s : OrganizationSettings) :
    (c.setOrganization outage s).AsServed (c.setOrganization .none s) := by
  unfold setOrganization
  dsimp only
  split
  · exact .rfl
  · exact (invalidateMany_asServed outage _ _).map _

theorem setGroup_asServed (g : DeviceGroup) :
    (c.setGroup outage g).AsServed (c.setGroup .none g) := by
  unfold setGroup
  split
  · exact .of_error
  · rename_i change inv _
    dsimp only
    split
    · exact .rfl
    · rcases (invalidateMany_asServed outage (c.commit inv change.retemplated change.left)
        ((c.commit inv change.retemplated change.left).index.devicesForGroup
          g.id)).failed_or_eq with ⟨e, c₁, h⟩ | h
      · rw [h]
        exact .of_error
      · rw [h]
        split
        · exact .of_error
        · exact modify_asServed outage _ _ _

theorem send_asServed (x : DeviceId) (signal : Signal) :
    (c.send outage x signal).AsServed (c.send .none x signal) := by
  unfold send
  split
  · exact .of_error
  · split
    · exact .of_error
    · rename_i left inv _
      dsimp only
      split
      · rcases (invalidate_asServed outage (c.commit inv [x] left) x).failed_or_eq with
          ⟨e, c₁, h⟩ | h
        · rw [h]
          exact .of_error
        · rw [h]
          exact .rfl
      · exact .rfl

/-! ## Requests -/

/-- A request that is answered well met no failure of the store. -/
theorem perform_asServed (settings : Settings) (r : Request) :
    (c.perform settings outage r).AsServed (c.perform settings .none r) := by
  cases r with
  | render | document | context | configuration | status | snapshot | check | dependents
  | dependencies | peers | renderServer | serverChecksum | addServer => exact .rfl
  | checksum x => exact (getChecksum_asServed outage c settings x).map _
  | cached x => exact (cached_asServed outage c x).map _
  | invalidate x => exact (invalidate_asServed outage c x).map _
  | invalidateDependents on => exact (invalidateMany_asServed outage c _).map _
  | send x signal => exact (send_asServed outage c x signal).map _
  | attachClient client => exact (attachClient_asServed outage c settings client).map _
  | detachClient x server => exact (detachClient_asServed outage c x server).map _
  | addDevice d configuration => exact (addDevice_asServed outage c d configuration).map _
  | removeDevice x => exact (removeDevice_asServed outage c x).map _
  | updateDevice d => exact (updateDevice_asServed outage c d).map _
  | addTemplate t => exact (addTemplate_asServed outage c t).map _
  | updateTemplate t => exact (updateTemplate_asServed outage c t).map _
  | attachTemplate x | detachTemplate x | setTemplates x | clearTemplates x =>
      exact (changeTemplates_asServed outage c x _).map _
  | setContext x => exact (editConfiguration_asServed outage c x .context _).map _
  | setDocument x document => exact (setDocument_asServed outage c x document).map _
  | changeBackend x backend => exact (changeBackend_asServed outage c x backend).map _
  | updateServer s => exact (updateServer_asServed outage c s).map _
  | setOrganization s => exact (setOrganization_asServed outage c s).map _
  | setGroup g => exact (setGroup_asServed outage c g).map _

/-! ## Checksums of changed devices -/

/-- A configuration that was not modified, or not there, is modified. -/
structure TurnsModified (inv inv' : Inventory) (x : DeviceId) : Prop where
  /-- It is modified afterwards. -/
  modified : ∃ k', inv'.configurations.get? x = some k' ∧ k'.status = .modified
  /-- It was not before. -/
  unmodified : ∀ k, inv.configurations.get? x = some k → k.status ≠ .modified

variable {outage c} {settings : Settings} {r : Request} {change : Change} {c' : Controller}
  {x : DeviceId} {d : Device}

/-- A request that makes a configuration modified drops its checksum. -/
theorem Makes.dropped_of_marked (h : Makes settings outage c r change) (hx : x ∈ change.marked) :
    x ∈ change.dropped := by
  cases h with
  | setGroup => exact List.mem_append_right _ hx
  | idle | invalidate | invalidateDependents | addDevice | removeDevice | addServer
  | setOrganization | signal | deactivate | activate => cases hx
  | _ => exact hx

/-- A device whose checksum is not dropped is configured as before, and did not become modified. -/
theorem Follows.same_of_kept (hs : c.inventory.Sound)
    (h : Makes settings outage c r change) (hfollows : Follows outage c r change c')
    (hkept : x ∉ change.dropped) (hd : c'.inventory.devices.get? x = some d) :
    c.inventory.SameContent c'.inventory x ∧ ¬ TurnsModified c.inventory c'.inventory x := by
  -- The configuration after the edit, before anything is made modified.
  have hedited : ∃ k s, c.inventory.configurations.get? x = some k ∧
      change.edited.configurations.get? x = some { k with status := s } ∧
      (s = .modified → k.status = .modified) ∧
      change.edited.clientsOf x = c.inventory.clientsOf x := by
    by_cases hx : x ∈ change.touched
    · have halmost := (h.dropped_or_almostSame hs hx).resolve_left hkept
      obtain ⟨k, s, hk, hk', hstatus⟩ := halmost.configuration
      exact ⟨k, s, hk, hk', hstatus, halmost.clients⟩
    · have hoff := h.agreesOff hs.devicesKeyed
      rw [hfollows.marks.devices, hoff.device x hx] at hd
      obtain ⟨k, hk⟩ := hs.configured x d hd
      exact ⟨k, k.status, hk, (hoff.configuration x hx).trans hk, id, hoff.clients x hx⟩
  obtain ⟨k, s, hk, hk', hstatus, hclients⟩ := hedited
  have hunmarked : x ∉ change.marked := fun hx => hkept (h.dropped_of_marked hx)
  have hafter := (hfollows.marks.kept x (Or.inl hunmarked)).trans hk'
  constructor
  · exact ⟨k, _, hk, hafter, rfl, rfl, rfl, rfl, (hfollows.marks.clientsOf x).trans hclients⟩
  · rintro ⟨⟨k₁, hk₁, hmodified⟩, hbefore⟩
    obtain rfl := Option.some.inj (hafter.symm.trans hk₁)
    exact hbefore k hk (hstatus hmodified)

/-- After a request that is answered well no checksum lives of a device that it changed, or whose
configuration it made modified, whichever calls of the store may fail. -/
theorem not_live_of_ok (hreach : Reachable settings c) (outage : Outage) (r : Request)
    {reply : Reply} (hok : (c.perform settings outage r).1 = .ok reply)
    (hd : (c.perform settings outage r).2.inventory.devices.get? x = some d)
    (hchanged : ¬ c.inventory.SameContent (c.perform settings outage r).2.inventory x ∨
      TurnsModified c.inventory (c.perform settings outage r).2.inventory x) :
    (c.perform settings outage r).2.live? x = none := by
  rw [perform_asServed outage c settings r reply hok] at hd hchanged ⊢
  obtain ⟨change, hmakes, hfollows⟩ := answers_of_sound hreach.sound settings .none r
  cases hlive : (c.perform settings .none r).2.live? x with
  | none => rfl
  | some v =>
      exfalso
      have hkept := hfollows.not_mem_dropped (fun _ _ _ => rfl) hmakes hlive
      obtain ⟨hsame, hstays⟩ := hfollows.same_of_kept hreach.sound hmakes hkept hd
      exact hchanged.elim (fun h => h hsame) hstays

/-- Nothing can be looked up in the store. -/
def readsFail : Outage :=
  fun _ kind _ => if kind = .get then some "down" else none

/-- A device that asked for its checksum moves to another backend, and the checksum is gone. -/
theorem not_live_of_ok_sample :
    ((Sample.controller freshSample).live? Sample.device.id).isSome = true ∧
    ((Sample.controller freshSample).perform Sample.settings readsFail
      (.changeBackend Sample.device.id ⟨"Y"⟩)).2.live? Sample.device.id = none := by
  have hrun :
      ((Sample.controller freshSample).changeBackend readsFail Sample.device.id ⟨"Y"⟩).1 = .ok () ∧
      ((Sample.controller freshSample).perform Sample.settings readsFail
        (.changeBackend Sample.device.id ⟨"Y"⟩)).2.inventory.devices.get? Sample.device.id =
          some Sample.device ∧
      (Sample.controller freshSample).inventory.configurations.get? Sample.device.id =
        some (Sample.configuration []) ∧
      ((Sample.controller freshSample).perform Sample.settings readsFail
        (.changeBackend Sample.device.id ⟨"Y"⟩)).2.inventory.configurations.get? Sample.device.id =
          some { Sample.configuration [] with backend := ⟨"Y"⟩ } := by
    decide +kernel
  obtain ⟨hok, hd, hbefore, hafter⟩ := hrun
  refine ⟨Option.isSome_of_eq_some freshSample_live, ?_⟩
  refine not_live_of_ok (Sample.reachable freshSample) readsFail _
    (congrArg (Except.map fun _ => Reply.done) hok) hd ?_
  left
  rintro ⟨k, k', hk, hk', _, _, _, hbackend, _⟩
  rw [hbefore, Option.some.injEq] at hk
  rw [hafter, Option.some.injEq] at hk'
  subst hk hk'
  exact absurd hbackend (by decide)

end Fleet.Controller
