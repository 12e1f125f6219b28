/-
# Every answer does what its request may do

One lemma per operation, each reading off what is committed, what is made modified and what is
dropped.  A refused request leaves everything as it was, up to the count of calls of the store.

Main statement: `Controller.perform_answers`.
-/
import Fleet.Proofs.Changes

namespace Fleet.Controller

open Outcomes

variable {settings : Settings} {outage : Outage} {c c₁ : Controller} {r : Request}

/-! ## Last steps -/

/-- A controller with other records and another index, up to peer lists and notices. -/
structure Edited (c : Controller) (inv : Inventory) (index : DependencyIndex) (c₁ : Controller) :
    Prop where
  /-- The records. -/
  inventory : c₁.inventory = inv
  /-- The index. -/
  index : c₁.index = index
  /-- The store is the same. -/
  store : c₁.store = c.store
  /-- No calls are made. -/
  calls : c₁.calls = c.calls

/-- A commit edits the records, and the index follows. -/
theorem edited_commit (c : Controller) (inv : Inventory) (ids : List DeviceId)
    (left : List VpnClient) : Edited c inv (c.indexed inv ids) (c.commit inv ids left) :=
  ⟨c.commit_inventory inv ids left, c.commit_index inv ids left, c.commit_store inv ids left,
    c.commit_calls inv ids left⟩

/-- Other records only. -/
theorem edited_inventory (c : Controller) (inv : Inventory) :
    Edited c inv c.index { c with inventory := inv } :=
  ⟨rfl, rfl, rfl, rfl⟩

namespace Edited

variable {inv : Inventory} {index : DependencyIndex} {touched ids : List DeviceId} {id : DeviceId}

/-- An edit that is told to nobody. -/
theorem follows (h : Edited c inv index c₁) :
    Follows outage c r ⟨touched, inv, index, [], []⟩ c₁ := by
  refine ⟨?_, h.index, fun _ => h.store, fun _ => h.calls⟩
  rw [h.inventory]
  exact Inventory.Marks.refl _

/-- An edit with which a checksum is dropped. -/
theorem follows_invalidate (h : Edited c inv index c₁) :
    Follows outage c r ⟨touched, inv, index, [], [id]⟩ (c₁.invalidate outage id).2 := by
  rw [invalidate_snd]
  refine ⟨?_, h.index, fun _ => ?_, fun _ => ?_⟩
  · dsimp only
    rw [h.inventory]
    exact Inventory.Marks.refl _
  · rw [h.store, h.calls]
    rfl
  · rw [h.calls]
    rfl

/-- An edit with which checksums are dropped. -/
theorem follows_invalidateMany (h : Edited c inv index c₁) :
    Follows outage c r ⟨touched, inv, index, [], ids⟩ (c₁.invalidateMany outage ids).2 := by
  rw [invalidateMany_snd]
  refine ⟨?_, h.index, fun _ => ?_, fun _ => ?_⟩
  · dsimp only
    rw [h.inventory]
    exact Inventory.Marks.refl _
  · rw [h.store, h.calls]
  · rw [h.calls]

/-- An edit with which configurations are made modified. -/
theorem follows_modify (h : Edited c inv index c₁) (reason : Reason) :
    Follows outage c r ⟨touched, inv, index, ids, ids⟩ (c₁.modify outage ids reason).2 := by
  obtain ⟨inv', notices, hmarks, hmodify⟩ := c₁.modify_snd outage ids reason
  rw [hmodify]
  refine ⟨?_, h.index, fun _ => ?_, fun _ => ?_⟩
  · rw [← h.inventory]
    exact hmarks
  · rw [h.store, h.calls]
  · rw [h.calls]

/-- An edit with which checksums are dropped and then configurations are made modified. -/
theorem follows_invalidateMany_modify (h : Edited c inv index c₁) {second : List DeviceId}
    (reason : Reason) :
    Follows outage c r ⟨touched, inv, index, second, ids ++ second⟩
      ((c₁.invalidateMany outage ids).2.modify outage second reason).2 := by
  rw [invalidateMany_snd]
  obtain ⟨inv', notices, hmarks, hmodify⟩ := Controller.modify_snd { c₁ with
    calls := c₁.calls + ids.length
    store := c₁.store.dropAll outage c₁.calls ids } outage second reason
  rw [hmodify]
  refine ⟨?_, h.index, fun _ => ?_, fun _ => ?_⟩
  · rw [← h.inventory]
    exact hmarks
  · rw [Store.dropAll_append, ← h.store, ← h.calls]
  · rw [List.length_append, ← Nat.add_assoc, ← h.calls]

/-- An edit with which configurations are made modified in two rounds. -/
theorem follows_modify_twice (h : Edited c inv index c₁) {second : List DeviceId}
    (reason reason' : Reason) :
    Follows outage c r ⟨touched, inv, index, ids ++ second, ids ++ second⟩
      ((c₁.modify outage ids reason).2.modify outage second reason').2 := by
  obtain ⟨inv₁, notices₁, hmarks₁, h₁⟩ := c₁.modify_snd outage ids reason
  rw [h₁]
  obtain ⟨inv₂, notices₂, hmarks₂, h₂⟩ := Controller.modify_snd { c₁ with
    inventory := inv₁
    calls := c₁.calls + ids.length
    store := c₁.store.dropAll outage c₁.calls ids
    notices := notices₁ } outage second reason'
  rw [h₂]
  refine ⟨?_, h.index, fun _ => ?_, fun _ => ?_⟩
  · rw [← h.inventory]
    exact hmarks₁.trans hmarks₂
  · rw [Store.dropAll_append, ← h.store, ← h.calls]
  · rw [List.length_append, ← Nat.add_assoc, ← h.calls]

end Edited

/-- A request that is refused, or that finds everything as requested, does nothing. -/
theorem answers_idle (hinv : c₁.inventory = c.inventory) (hindex : c₁.index = c.index)
    (hstore : r.looksUp = false → c₁.store = c.store ∧ c₁.calls = c.calls) :
    Answers settings outage c r c₁ := by
  refine ⟨_, Makes.idle r, ?_, hindex, fun h => (hstore h).1, fun h => (hstore h).2⟩
  rw [hinv]
  exact Inventory.Marks.refl _

/-! ## Devices -/

theorem addDevice_answers (d : Device) (k : Configuration) :
    Answers settings outage c (.addDevice d k) (c.addDevice outage d k).2 := by
  unfold addDevice
  split
  · exact answers_idle rfl rfl fun _ => ⟨rfl, rfl⟩
  · rename_i inv h
    exact ⟨_, Makes.addDevice h, (edited_commit c inv [d.id] []).follows_invalidate⟩

theorem removeDevice_answers (id : DeviceId)
    (hpaired : ∀ d, c.inventory.devices.get? id = some d →
      ∃ k, c.inventory.configurations.get? id = some k) :
    Answers settings outage c (.removeDevice id) (c.removeDevice outage id).2 := by
  unfold removeDevice
  split
  · rename_i e inv h
    exact answers_idle (Inventory.removeDevice_eq_error hpaired h) rfl fun _ => ⟨rfl, rfl⟩
  · rename_i removed inv h
    refine ⟨_, Makes.removeDevice h, ?_⟩
    dsimp only
    rw [forget_snd, invalidate_snd]
    refine ⟨?_, ?_, fun _ => ?_, fun _ => ?_⟩
    · dsimp only
      rw [commit_inventory]
      exact Inventory.Marks.refl _
    · dsimp only
      rw [commit_calls, commit_index]
      rfl
    · dsimp only
      rw [commit_calls, commit_store]
      rfl
    · dsimp only
      rw [commit_calls]
      rfl

theorem updateDevice_answers (d : Device) :
    Answers settings outage c (.updateDevice d) (c.updateDevice outage d).2 := by
  unfold updateDevice
  split
  · exact answers_idle rfl rfl fun _ => ⟨rfl, rfl⟩
  · rename_i p change inv h
    refine ⟨_, Makes.updateDevice h rfl, ?_⟩
    dsimp only
    split
    · exact (edited_commit c inv [d.id] change.left).follows_modify _
    · exact (edited_commit c inv [d.id] change.left).follows

/-! ## Templates -/

theorem addTemplate_answers (t : Template) :
    Answers settings outage c (.addTemplate t) (c.addTemplate outage t).2 := by
  unfold addTemplate
  split
  · exact answers_idle rfl rfl fun _ => ⟨rfl, rfl⟩
  · rename_i ids inv h
    exact ⟨_, Makes.addTemplate h, (edited_commit c inv ids []).follows_modify _⟩

/-- A round that is not answered well has met a failing call. -/
theorem exists_failure_of_modify {ids : List DeviceId} {reason : Reason} {e : Error}
    (h : (c.modify outage ids reason).1 = .error e) :
    ∃ calls kind key, outage calls kind key ≠ none := by
  apply Classical.byContradiction
  intro hnone
  have hserved : ∀ calls kind key, outage calls kind key = none := by
    intro calls kind key
    apply Classical.byContradiction
    intro hfail
    exact hnone ⟨calls, kind, key, hfail⟩
  rw [c.modify_fst outage hserved] at h
  cases h

theorem updateTemplate_answers (t : Template) :
    Answers settings outage c (.updateTemplate t) (c.updateTemplate outage t).2 := by
  unfold updateTemplate
  split
  · exact answers_idle rfl rfl fun _ => ⟨rfl, rfl⟩
  · rename_i p ids inv h
    have hedited := edited_commit c inv ids []
    dsimp only
    rw [hedited.index]
    by_cases hdiffers :
        ((inv.templates.get? t.id).any fun current => current.contentDiffers p) = true
    · rw [if_pos hdiffers]
      rcases hm : (c.commit inv ids []).modify outage ((c.indexed inv ids).devicesForTemplate t.id)
        (.templateContent t.id) with ⟨result, c₂⟩
      cases result with
      | error e =>
          refine ⟨_, Makes.updateTemplate h (if_pos hdiffers).symm (Or.inr ⟨rfl, rfl, ?_⟩), ?_⟩
          · exact exists_failure_of_modify (congrArg Prod.fst hm)
          · have hc₂ := congrArg Prod.snd hm
            rw [← hc₂, List.append_nil]
            exact hedited.follows_modify _
      | ok _ =>
          refine ⟨_, Makes.updateTemplate h (if_pos hdiffers).symm (Or.inl rfl), ?_⟩
          have hc₂ := congrArg Prod.snd hm
          rw [← hc₂]
          exact hedited.follows_modify_twice _ _
    · rw [if_neg hdiffers]
      refine ⟨_, Makes.updateTemplate h (if_neg hdiffers).symm (Or.inl rfl), ?_⟩
      exact hedited.follows_modify _

/-- A template list is changed as the catalog computes it. -/
theorem changeTemplates_answers {id : DeviceId}
    {compute : Catalog → Configuration → OrgId → Except Error (List TemplateId)}
    (hr : ∀ catalog k organization ts, compute catalog k organization = .ok ts →
      r.Lists catalog k organization id ts) :
    Answers settings outage c r (c.changeTemplates outage id compute).2 := by
  unfold changeTemplates
  split
  · exact answers_idle rfl rfl fun _ => ⟨rfl, rfl⟩
  · rename_i change inv h
    simp only [bind_eq_ok, Inventory.device_eq_ok, Inventory.configuration_eq_ok] at h
    obtain ⟨d, hd, k, hk, ts, hts, h⟩ := h
    cases hc : change.changed with
    | true =>
        rw [if_pos rfl]
        exact ⟨_, Makes.relist hd hk (hr _ _ _ _ hts) h hc,
          (edited_commit c inv [id] change.left).follows_modify _⟩
    | false =>
        rw [if_neg Bool.false_ne_true]
        obtain ⟨_, _, _, hsame⟩ := Inventory.setTemplates_eq_ok h
        obtain ⟨rfl, hleft⟩ := hsame hc
        rw [hleft]
        exact answers_idle rfl rfl fun _ => ⟨rfl, rfl⟩

/-! ## Configurations -/

/-- A configuration is edited, or the edit gives nothing. -/
theorem editConfiguration_answers {id : DeviceId} {reason : Reason}
    {edit : Configuration → Option Configuration}
    (hr : ∀ k edited, edit k = some edited → r.Edits k id edited) :
    Answers settings outage c r (c.editConfiguration outage id reason edit).2 := by
  unfold editConfiguration
  split
  · exact answers_idle rfl rfl fun _ => ⟨rfl, rfl⟩
  · rename_i k hk
    rw [Inventory.configuration_eq_ok] at hk
    split
    · rename_i edited hedit
      exact ⟨_, Makes.edit hk (hr k edited hedit), (edited_inventory c _).follows_modify _⟩
    · exact answers_idle rfl rfl fun _ => ⟨rfl, rfl⟩

theorem setContext_answers (id : DeviceId) (context : Context) :
    Answers settings outage c (.setContext id context) (c.setContext outage id context).2 := by
  apply editConfiguration_answers
  intro k edited h
  split at h
  · cases h
  · rename_i hne
    cases h
    exact Request.Edits.context hne

theorem setDocument_answers (id : DeviceId) (document : Json) :
    Answers settings outage c (.setDocument id document) (c.setDocument outage id document).2 := by
  unfold setDocument
  split
  · rename_i hobject
    apply editConfiguration_answers
    intro k edited h
    split at h
    · cases h
    · rename_i hne
      cases h
      exact Request.Edits.document hobject (Bool.not_eq_true _ ▸ hne)
  · exact answers_idle rfl rfl fun _ => ⟨rfl, rfl⟩

theorem changeBackend_answers (id : DeviceId) (backend : Backend) :
    Answers settings outage c (.changeBackend id backend)
      (c.changeBackend outage id backend).2 := by
  unfold changeBackend
  split
  · exact answers_idle rfl rfl fun _ => ⟨rfl, rfl⟩
  · rename_i change inv h
    split
    · rename_i hchanged
      exact ⟨_, Makes.changeBackend h hchanged,
        (edited_commit c inv [id] change.left).follows_modify _⟩
    · exact answers_idle rfl rfl fun _ => ⟨rfl, rfl⟩

/-! ## VPN servers -/

theorem addServer_answers (s : VpnServer) :
    Answers settings outage c (.addServer s) (c.addServer s).2 := by
  unfold addServer
  split
  · exact answers_idle rfl rfl fun _ => ⟨rfl, rfl⟩
  · rename_i inv h
    exact ⟨_, Makes.addServer h, (edited_inventory c inv).follows⟩

theorem updateServer_answers (s : VpnServer) :
    Answers settings outage c (.updateServer s) (c.updateServer outage s).2 := by
  unfold updateServer
  split
  · exact answers_idle rfl rfl fun _ => ⟨rfl, rfl⟩
  · rename_i p inv h
    refine ⟨_, Makes.updateServer h rfl, ?_⟩
    dsimp only
    generalize hc₁ : (if s.backend = p.backend then { c with inventory := inv }
      else { c with inventory := inv, peerLists := c.peerLists.drop s.id }.publish
        (.peersChanged s.id)) = c₁
    -- Peer lists and notices do not count.
    have hedited : Edited c inv c.index c₁ := by
      rw [← hc₁]
      split <;> exact ⟨rfl, rfl, rfl, rfl⟩
    rw [hedited.index]
    split
    · exact hedited.follows
    · exact hedited.follows_modify _

theorem attachClient_answers (client : VpnClient) :
    Answers settings outage c (.attachClient client) (c.attachClient settings outage client).2 := by
  unfold attachClient
  split
  · exact answers_idle rfl rfl fun _ => ⟨rfl, rfl⟩
  · rename_i stored inv h
    have hcommit := edited_commit c inv [stored.device] []
    -- Peer lists and notices do not count.
    have hedited : Edited c inv (c.indexed inv [stored.device])
        ({ c.commit inv [stored.device] [] with
          peerLists := (c.commit inv [stored.device] []).peerLists.attach stored }.publish
            (.peersChanged stored.server)) :=
      ⟨hcommit.inventory, hcommit.index, hcommit.store, hcommit.calls⟩
    exact ⟨_, Makes.attachClient h, hedited.follows_modify _⟩

theorem detachClient_answers (id : DeviceId) (server : ServerId) :
    Answers settings outage c (.detachClient id server) (c.detachClient outage id server).2 := by
  unfold detachClient
  split
  · exact answers_idle rfl rfl fun _ => ⟨rfl, rfl⟩
  · split
    · exact answers_idle rfl rfl fun _ => ⟨rfl, rfl⟩
    · rename_i client inv h
      exact ⟨_, Makes.detachClient h, (edited_commit c inv [id] [client]).follows_modify _⟩

/-! ## Organizations and groups -/

theorem setOrganization_answers (s : OrganizationSettings) :
    Answers settings outage c (.setOrganization s) (c.setOrganization outage s).2 := by
  unfold setOrganization
  dsimp only
  split
  · rename_i hsame
    refine answers_idle ?_ rfl fun _ => ⟨rfl, rfl⟩
    show ({ c.inventory with organizations := _ } : Inventory) = c.inventory
    rw [SortedMap.insert_eq_self hsame]
  · rename_i hnew
    exact ⟨_, Makes.setOrganization hnew, (edited_inventory c _).follows_invalidateMany⟩

theorem setGroup_answers (g : DeviceGroup) (hkeyed : c.inventory.DevicesKeyed)
    (hpaired : ∀ id d, c.inventory.devices.get? id = some d →
      ∃ k, c.inventory.configurations.get? id = some k) :
    Answers settings outage c (.setGroup g) (c.setGroup outage g).2 := by
  unfold setGroup
  split
  · rename_i e inv h
    exact answers_idle (Inventory.setGroup_eq_error hkeyed hpaired h) rfl fun _ => ⟨rfl, rfl⟩
  · rename_i change inv h
    have hprevious := (Inventory.setGroup_eq_ok hkeyed h).1
    dsimp only
    rw [hprevious]
    split
    · rename_i hsame
      obtain ⟨rfl, rfl⟩ := Inventory.setGroup_same hsame h
      exact answers_idle rfl rfl fun _ => ⟨rfl, rfl⟩
    · rename_i hnew
      have hedited := edited_commit c inv change.retemplated change.left
      rw [hedited.index]
      rcases hm : (c.commit inv change.retemplated change.left).invalidateMany outage
        ((c.indexed inv change.retemplated).devicesForGroup g.id) with ⟨result, c₂⟩
      have hc₂ := congrArg Prod.snd hm
      refine ⟨_, Makes.setGroup h hnew (congrArg Prod.fst hm) rfl, ?_⟩
      cases result with
      | error e =>
          rw [if_neg (by simp [Except.isOk, Except.toBool]), List.append_nil]
          dsimp only at hc₂ ⊢
          rw [← hc₂]
          exact hedited.follows_invalidateMany
      | ok n =>
          rw [if_pos (by simp [Except.isOk, Except.toBool])]
          dsimp only at hc₂ ⊢
          rw [← hc₂]
          exact hedited.follows_invalidateMany_modify _

/-! ## Signals -/

/-- Announcing a state does not count. -/
theorem Follows.announceStatus {change : Change} (h : Follows outage c r change c₁)
    (device : DeviceId) (s t : Status) (cause : Signal) :
    Follows outage c r change (c₁.announceStatus device s t cause) := by
  refine ⟨?_, ?_, fun hlooks => ?_, fun hlooks => ?_⟩
  · rw [announceStatus_inventory]
    exact h.marks
  · rw [announceStatus_index]
    exact h.index
  · rw [announceStatus_store]
    exact h.store hlooks
  · rw [announceStatus_calls]
    exact h.calls hlooks

/-- What a signal may do once the state is known and the inventory is prepared for it. -/
theorem makes_signal {id : DeviceId} {signal : Signal} {d : Device} {k k₁ : Configuration}
    {s : Status} {left : List VpnClient} {inv : Inventory}
    (hd : c.inventory.devices.get? id = some d) (hk : c.inventory.configurations.get? id = some k)
    (hs : k.status.after d.active signal = .ok s)
    (hprepare : prepare c.inventory id signal (k.status != s) = .ok (left, inv))
    (hk₁ : inv.configurations.get? id = some k₁) :
    Makes settings outage c (.send id signal)
      ⟨[id], inv.putConfiguration id { k₁ with status := s },
        c.indexed (inv.putConfiguration id { k₁ with status := s }) [id], [],
        if changesDocument signal then [id] else []⟩ := by
  -- The signals that only move the state leave the inventory to it.
  have hquiet : inv = c.inventory → signal ≠ .activate → (signal = .deactivate → s = k.status) →
      Makes settings outage c (.send id signal)
        ⟨[id], inv.putConfiguration id { k₁ with status := s },
          c.indexed (inv.putConfiguration id { k₁ with status := s }) [id], [],
          if changesDocument signal then [id] else []⟩ := by
    intro hinv hactivate hdeactivate
    subst hinv
    have : k₁ = k := Option.some.inj (hk₁.symm.trans hk)
    subst this
    exact Makes.signal hd hk hs hactivate hdeactivate rfl
  unfold prepare at hprepare
  split at hprepare
  · split at hprepare
    · obtain ⟨d', k', hd', hk', _, rfl⟩ := Inventory.deactivate_eq_ok hprepare
      have : d' = d := Option.some.inj (hd'.symm.trans hd)
      subst this
      have : k' = k := Option.some.inj (hk'.symm.trans hk)
      subst this
      have hk₁' : k₁ = { k' with document := .emptyObject, templates := [] } :=
        Option.some.inj (hk₁.symm.trans (SortedMap.get?_insert_self _ _ _))
      subst hk₁'
      refine Makes.deactivate hd hk hs ?_
      unfold Inventory.putDevice Inventory.putConfiguration
      dsimp only
      rw [SortedMap.insert_insert]
    · rename_i hsame
      cases hprepare
      refine hquiet rfl (fun hc => by cases hc) fun _ => ?_
      rw [bne_iff_ne, Decidable.not_not] at hsame
      exact hsame.symm
  · rw [map_eq_ok] at hprepare
    obtain ⟨inv₂, hreactivate, hpair⟩ := hprepare
    obtain ⟨rfl, rfl⟩ := Prod.mk.inj hpair
    obtain ⟨d', k', hd', hk', rfl⟩ := Inventory.reactivate_eq_ok hreactivate
    have : d' = d := Option.some.inj (hd'.symm.trans hd)
    subst this
    have : k' = k := Option.some.inj (hk'.symm.trans hk)
    subst this
    have hk₁' : k₁ = { k' with
        templates := c.inventory.startingTemplates k' d'.organization d'.group } :=
      Option.some.inj (hk₁.symm.trans (SortedMap.get?_insert_self _ _ _))
    subst hk₁'
    refine Makes.activate hd hk hs ?_
    unfold Inventory.putDevice Inventory.putConfiguration
    dsimp only
    rw [SortedMap.insert_insert]
  · rename_i hactivate hdeactivate
    cases hprepare
    exact hquiet rfl hdeactivate fun hc => absurd hc hactivate

/-- A signal is refused, or moves the state and prepares the inventory for it. -/
theorem send_answers (id : DeviceId) (signal : Signal) :
    Answers settings outage c (.send id signal) (c.send outage id signal).2 := by
  unfold send
  split
  · exact answers_idle rfl rfl fun _ => ⟨rfl, rfl⟩
  rename_i step _ h
  obtain ⟨d, k, s, hd, hk, hs, rfl, rfl⟩ := Inventory.signalOne_eq_ok h
  split
  · exact answers_idle rfl rfl fun _ => ⟨rfl, rfl⟩
  rename_i left inv hprepare
  simp only [bind_eq_ok, pure_eq_ok, Inventory.configuration_eq_ok] at hprepare
  obtain ⟨⟨left', inv₁⟩, hprepare, k₁, hk₁, hput⟩ := hprepare
  dsimp only at hk₁ hput
  obtain ⟨rfl, rfl⟩ := Prod.mk.inj hput
  have hedited := edited_commit c (inv₁.putConfiguration id { k₁ with status := s }) [id] left'
  refine ⟨_, makes_signal hd hk hs hprepare hk₁, ?_⟩
  dsimp only
  apply Follows.announceStatus
  split
  · exact hedited.follows_invalidate
  · exact hedited.follows

/-! ## Questions -/

/-- Calls of the store leave everything but the store and the number of calls. -/
theorem call_keeps {α : Type} (c : Controller) (outage : Outage) (kind : StoreCall) (key : String)
    (run : Store → α × Store) :
    ∃ store calls, (c.call outage kind key run).2 = { c with store, calls } := by
  rw [call_snd]
  exact ⟨_, _, rfl⟩

/-- Asking for a checksum leaves everything but the store and the number of calls. -/
theorem getChecksum_keeps (settings : Settings) (outage : Outage) (c : Controller) (id : DeviceId) :
    ∃ store calls, (c.getChecksum settings outage id).2 = { c with store, calls } := by
  have hcached : ∀ c : Controller,
      ∃ store calls, (c.cached outage id).2 = { c with store, calls } :=
    fun _ => call_keeps _ _ _ _ _
  have hstored : ∀ (c : Controller) value, ∃ store calls,
      (c.storeChecksum settings outage id value).2 = { c with store, calls } :=
    fun _ _ => call_keeps _ _ _ _ _
  unfold getChecksum
  have hfirst := hcached c
  generalize c.cached outage id = first at hfirst ⊢
  obtain ⟨answer, c₁⟩ := first
  obtain ⟨store, calls, rfl⟩ := hfirst
  rcases answer with _ | _ | hit
  · exact ⟨_, _, rfl⟩
  · dsimp only
    have hsecond := hcached { c with store, calls }
    generalize Controller.cached _ outage id = second at hsecond ⊢
    obtain ⟨answer, c₂⟩ := second
    obtain ⟨store, calls, rfl⟩ := hsecond
    rcases answer with _ | _ | hit
    · exact ⟨_, _, rfl⟩
    · dsimp only
      split
      · exact ⟨_, _, rfl⟩
      · rename_i text _
        have hthird := hstored { c with store, calls } (checksum text)
        generalize Controller.storeChecksum _ settings outage id (checksum text) = third at hthird ⊢
        obtain ⟨answer, c₃⟩ := third
        obtain ⟨_, _, rfl⟩ := hthird
        cases answer <;> exact ⟨_, _, rfl⟩
    · exact ⟨_, _, rfl⟩
  · exact ⟨_, _, rfl⟩

/-- Asking for a checksum leaves the records and the index. -/
theorem getChecksum_frame (settings : Settings) (outage : Outage) (c : Controller) (id : DeviceId) :
    (c.getChecksum settings outage id).2.inventory = c.inventory ∧
      (c.getChecksum settings outage id).2.index = c.index := by
  obtain ⟨store, calls, h⟩ := getChecksum_keeps settings outage c id
  rw [h]
  exact ⟨rfl, rfl⟩

/-! ## All requests -/

/-- Every answer does what its request may do. -/
theorem perform_answers (settings : Settings) (outage : Outage) (hkeyed : c.inventory.DevicesKeyed)
    (hpaired : ∀ id d, c.inventory.devices.get? id = some d →
      ∃ k, c.inventory.configurations.get? id = some k) (r : Request) :
    Answers settings outage c r (c.perform settings outage r).2 := by
  cases r with
  | render | document | context | configuration | status | snapshot | check | dependents
  | dependencies => exact answers_idle rfl rfl fun _ => ⟨rfl, rfl⟩
  | checksum id =>
      obtain ⟨hinv, hindex⟩ := getChecksum_frame settings outage c id
      exact answers_idle hinv hindex fun h => by cases h
  | cached id =>
      have hinv : (c.cached outage id).2.inventory = c.inventory := by rw [cached_snd]
      have hindex : (c.cached outage id).2.index = c.index := by rw [cached_snd]
      exact answers_idle hinv hindex fun h => by cases h
  | peers id => exact answers_idle rfl rfl fun _ => ⟨rfl, rfl⟩
  | renderServer id | serverChecksum id =>
      have hframe : (c.renderServer id).2.inventory = c.inventory ∧
          (c.renderServer id).2.index = c.index ∧ (c.renderServer id).2.store = c.store ∧
          (c.renderServer id).2.calls = c.calls := by
        unfold renderServer
        split <;> exact ⟨rfl, rfl, rfl, rfl⟩
      exact answers_idle hframe.1 hframe.2.1 fun _ => hframe.2.2
  | invalidate id => exact ⟨_, Makes.invalidate id, (edited_inventory c _).follows_invalidate⟩
  | invalidateDependents on =>
      exact ⟨_, Makes.invalidateDependents on, (edited_inventory c _).follows_invalidateMany⟩
  | send id signal => exact send_answers id signal
  | attachClient client => exact attachClient_answers client
  | detachClient id server => exact detachClient_answers id server
  | addDevice d k => exact addDevice_answers d k
  | removeDevice id => exact removeDevice_answers id (hpaired id)
  | updateDevice d => exact updateDevice_answers d
  | addTemplate t => exact addTemplate_answers t
  | updateTemplate t => exact updateTemplate_answers t
  | attachTemplate id t => exact changeTemplates_answers fun _ _ _ _ h => Request.Lists.attach h
  | detachTemplate id t => exact changeTemplates_answers fun _ _ _ _ h => Request.Lists.detach h
  | setTemplates id ts => exact changeTemplates_answers fun _ _ _ _ h => Request.Lists.select h
  | clearTemplates id =>
      apply changeTemplates_answers
      intro catalog k organization ts h
      cases h
      exact Request.Lists.clear
  | setContext id context => exact setContext_answers id context
  | setDocument id document => exact setDocument_answers id document
  | changeBackend id backend => exact changeBackend_answers id backend
  | addServer s => exact addServer_answers s
  | updateServer s => exact updateServer_answers s
  | setOrganization s => exact setOrganization_answers s
  | setGroup g => exact setGroup_answers g hkeyed hpaired

end Fleet.Controller
