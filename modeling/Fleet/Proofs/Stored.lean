/-
# Checksums that live in the store

What the calls of the store do to the values that live there: dropping a key ends its value, storing
one gives it that value, and looking a key up changes nothing that lives.

Main statements: `Store.live?_dropAll`, `Controller.live_of_getChecksum`.
-/
import Fleet.Proofs.Steps

namespace Fleet

/-! ## Values of keys -/

namespace Store

variable {s : Store} {key q v : String}

/-- What lives is the value of an entry that is not past its time. -/
theorem live?_eq_some :
    s.live? key = some v ↔ ∃ e, s.entries.get? key = some e ∧ s.isDead e = false ∧ e.value = v := by
  unfold live?
  cases s.entries.get? key with
  | none => simp
  | some e => simp [Option.filter_some]

/-- A key that is removed has no value. -/
@[simp] theorem live?_delete_self (s : Store) (key : String) : (s.delete key).live? key = none := by
  unfold live? delete
  rw [SortedMap.get?_erase_self]
  rfl

/-- Other keys keep theirs. -/
theorem live?_delete_ne (h : key ≠ q) : (s.delete key).live? q = s.live? q := by
  unfold live? delete
  rw [SortedMap.get?_erase_ne h]
  rfl

/-- Looking a key up ends no value. -/
theorem live?_get : (s.get key).2.live? q = s.live? q := by
  unfold get
  split
  · rfl
  · rename_i e he
    split
    · rename_i hdead
      by_cases h : key = q
      · subst h
        -- The entry that is dropped was past its time.
        unfold live?
        rw [SortedMap.get?_erase_self, he, Option.filter_some, hdead]
        rfl
      · exact live?_delete_ne h
    · rfl

/-- A key that is stored has at most that value: the lifetime may be over at once. -/
theorem live?_set_self {value : String} {ttl : Nat} (h : (s.set key value ttl).live? key = some v) :
    v = value := by
  obtain ⟨e, he, _, rfl⟩ := live?_eq_some.mp h
  unfold set at he
  dsimp only at he
  rw [SortedMap.get?_insert_self, Option.some.injEq] at he
  rw [← he]

/-- Other keys keep their values. -/
theorem live?_set_ne (h : key ≠ q) (value : String) (ttl : Nat) :
    (s.set key value ttl).live? q = s.live? q := by
  unfold live? set
  dsimp only
  rw [SortedMap.get?_insert_ne h]
  rfl

/-- What lives later lives now. -/
theorem live?_of_advance {seconds : Nat} (h : (s.advance seconds).live? key = some v) :
    s.live? key = some v := by
  obtain ⟨e, he, hdead, hv⟩ := live?_eq_some.mp h
  refine live?_eq_some.mpr ⟨e, he, ?_, hv⟩
  unfold isDead at hdead ⊢
  cases hexpires : e.expiresAt with
  | none => rfl
  | some t =>
      rw [hexpires, Option.any_some, decide_eq_false_iff_not] at hdead
      rw [Option.any_some, decide_eq_false_iff_not]
      have hnow : (s.advance seconds).now = s.now + seconds := rfl
      omega

end Store

/-! ## Checksums of devices -/

/-- Devices have keys of their own. -/
theorem DeviceId.cacheKey_inj {x y : DeviceId} : cacheKey x = cacheKey y ↔ x = y := by
  unfold cacheKey
  rw [String.append_right_inj]
  exact @Key.text_inj DeviceId _ x y

/-- When no call fails, the checksums of the devices are dropped, and no others. -/
theorem Store.live?_dropAll {outage : Outage} (h : ∀ calls kind key, outage calls kind key = none)
    (x : DeviceId) (ids : List DeviceId) :
    ∀ (calls : Nat) (s : Store), (s.dropAll outage calls ids).live? (DeviceId.cacheKey x) =
      if x ∈ ids then none else s.live? (DeviceId.cacheKey x) := by
  induction ids with
  | nil =>
      intro calls s
      rfl
  | cons id rest ih =>
      intro calls s
      rw [dropAll, h, ih]
      by_cases hx : x ∈ rest
      · rw [if_pos hx, if_pos (List.mem_cons_of_mem id hx)]
      · rw [if_neg hx]
        by_cases hid : id = x
        · rw [hid, if_pos List.mem_cons_self]
          exact live?_delete_self s _
        · rw [if_neg fun hm => (List.mem_cons.mp hm).elim (fun he => hid he.symm) hx]
          exact live?_delete_ne fun he => hid (DeviceId.cacheKey_inj.mp he)

/-- What lives after checksums were dropped lived before, and the store failed whenever its checksum
was to be dropped. -/
theorem Store.live_of_dropAll {outage : Outage} {x : DeviceId} {v : String} (ids : List DeviceId) :
    ∀ (calls : Nat) (s : Store),
      (s.dropAll outage calls ids).live? (DeviceId.cacheKey x) = some v →
      s.live? (DeviceId.cacheKey x) = some v ∧
        ∀ i, ids[i]? = some x → outage (calls + i) .delete (DeviceId.cacheKey x) ≠ none := by
  induction ids with
  | nil => exact fun calls s h => ⟨h, fun i hi => by cases hi⟩
  | cons id rest ih =>
      intro calls s h
      obtain ⟨hlive, hrest⟩ := ih (calls + 1) _ h
      have hfirst : s.live? (DeviceId.cacheKey x) = some v ∧
          (id = x → outage calls .delete (DeviceId.cacheKey x) ≠ none) := by
        cases hfails : outage calls .delete (DeviceId.cacheKey id) with
        | some reason =>
            rw [hfails, Option.isSome_some, if_pos rfl] at hlive
            -- The store is left as it is, and this is the failure.
            refine ⟨hlive, ?_⟩
            rintro rfl
            rw [hfails]
            exact Option.some_ne_none reason
        | none =>
            rw [hfails, Option.isSome_none, if_neg Bool.false_ne_true] at hlive
            by_cases hid : id = x
            · rw [hid, live?_delete_self] at hlive
              cases hlive
            · rw [live?_delete_ne fun hkey => hid (DeviceId.cacheKey_inj.mp hkey)] at hlive
              exact ⟨hlive, fun heq => absurd heq hid⟩
      refine ⟨hfirst.1, fun i hi => ?_⟩
      cases i with
      | zero => exact hfirst.2 (Option.some.inj hi)
      | succ i =>
          have hlater := hrest i hi
          rwa [Nat.add_assoc, Nat.add_comm 1 i] at hlater

namespace Controller

variable {settings : Settings} {outage : Outage} {c : Controller} {x y : DeviceId} {v : String}

/-- The checksum of a device that lives in the store. -/
def live? (c : Controller) (x : DeviceId) : Option String :=
  c.store.live? (DeviceId.cacheKey x)

/-- Looking a checksum up ends none. -/
theorem live?_cached : (c.cached outage y).2.live? x = c.live? x := by
  unfold live?
  rw [cached_snd]
  dsimp only
  split
  · rfl
  · exact Store.live?_get

/-- What lives once a checksum was stored is that checksum or lived before. -/
theorem live_of_storeChecksum {value : String}
    (h : (c.storeChecksum settings outage y value).2.live? x = some v) :
    c.live? x = some v ∨ (x = y ∧ v = value) := by
  unfold live? storeChecksum at h
  rw [call_snd] at h
  dsimp only at h
  split at h
  · exact Or.inl h
  · by_cases hxy : y = x
    · subst hxy
      exact Or.inr ⟨rfl, Store.live?_set_self h⟩
    · rw [Store.live?_set_ne fun he => hxy (DeviceId.cacheKey_inj.mp he)] at h
      exact Or.inl h

/-- What lives once a checksum was asked for is the one of the rendered text or lived before. -/
theorem live_of_getChecksum (h : (c.getChecksum settings outage y).2.live? x = some v) :
    c.live? x = some v ∨
      (x = y ∧ ∃ text, c.render settings y = .ok text ∧ v = checksum text) := by
  have hcached : ∀ c : Controller, (c.cached outage y).2.live? x = c.live? x ∧
      (c.cached outage y).2.inventory = c.inventory := by
    intro c
    refine ⟨live?_cached, ?_⟩
    rw [cached_snd]
  obtain ⟨hlive, hinv⟩ := hcached c
  unfold getChecksum at h
  -- A checksum is looked for twice before one is computed, and looking stores nothing.
  rcases hc : c.cached outage y with ⟨_ | _ | hit, c₁⟩
  · rw [hc] at h hlive
    exact Or.inl (hlive ▸ h)
  · rw [hc] at h hlive hinv
    dsimp only at h hlive hinv
    obtain ⟨hlive₁, hinv₁⟩ := hcached c₁
    rcases hc₁ : c₁.cached outage y with ⟨_ | _ | hit, c₂⟩
    · rw [hc₁] at h hlive₁
      exact Or.inl (hlive ▸ hlive₁ ▸ h)
    · rw [hc₁] at h hlive₁ hinv₁
      dsimp only at h hlive₁ hinv₁
      have hrender : c₂.render settings y = c.render settings y := by
        unfold render
        rw [hinv₁, hinv]
      rw [hrender] at h
      cases ht : c.render settings y with
      | error e =>
          rw [ht] at h
          exact Or.inl (hlive ▸ hlive₁ ▸ h)
      | ok text =>
          rw [ht] at h
          dsimp only at h
          have hstored :
              (c₂.storeChecksum settings outage y (checksum text)).2.live? x = some v := by
            rcases hs : c₂.storeChecksum settings outage y (checksum text) with ⟨_ | _, c₃⟩
            · rw [hs] at h
              exact h
            · rw [hs] at h
              exact h
          rcases live_of_storeChecksum hstored with hold | ⟨hxy, hv⟩
          · exact Or.inl (hlive ▸ hlive₁ ▸ hold)
          · exact Or.inr ⟨hxy, text, rfl, hv⟩
    · rw [hc₁] at h hlive₁
      exact Or.inl (hlive ▸ hlive₁ ▸ h)
  · rw [hc] at h hlive
    exact Or.inl (hlive ▸ h)

end Controller

end Fleet
