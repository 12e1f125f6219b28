/-
# Dropping the checksums of many devices

The devices of a list are tried one after the other, whatever became of those before.  What the
store fails to drop stays, unless the device stands on the list once more and is dropped then; the
first failure is reported, but only after all devices were tried.

Main statement: `Controller.invalidateMany_fansOut`.
-/
import Fleet.Proofs.Stored

namespace Fleet

/-! ## Entries of the store -/

namespace Store

variable {outage : Outage} {key : String} {calls : Nat} {s : Store} {ids : List DeviceId}

/-- Dropping checksums does not move the clock. -/
theorem now_dropAll (outage : Outage) (ids : List DeviceId) :
    ∀ (calls : Nat) (s : Store), (s.dropAll outage calls ids).now = s.now := by
  induction ids with
  | nil => exact fun _ _ => rfl
  | cons id rest ih =>
      intro calls s
      rw [dropAll, ih]
      split <;> rfl

/-- An entry stays that the store fails to drop as often as it is tried. -/
theorem get?_dropAll_of_kept (ids : List DeviceId) :
    ∀ (calls : Nat) (s : Store), (∀ i x, ids[i]? = some x → DeviceId.cacheKey x = key →
        outage (calls + i) .delete key ≠ none) →
      (s.dropAll outage calls ids).entries.get? key = s.entries.get? key := by
  induction ids with
  | nil => exact fun _ _ _ => rfl
  | cons id rest ih =>
      intro calls s hfails
      have hrest : ∀ i x, rest[i]? = some x → DeviceId.cacheKey x = key →
          outage (calls + 1 + i) .delete key ≠ none := by
        intro i x hi hx
        rw [Nat.add_assoc, Nat.add_comm 1 i]
        exact hfails (i + 1) x hi hx
      rw [dropAll, ih (calls + 1) _ hrest]
      split
      · rfl
      · rename_i hserved
        have hne : DeviceId.cacheKey id ≠ key := by
          intro hid
          have hfirst := hfails 0 id rfl hid
          rw [hid, Bool.not_eq_true, Option.isSome_eq_false_iff, Option.isNone_iff_eq_none]
            at hserved
          exact hfirst hserved
        exact SortedMap.get?_erase_ne hne _

/-- An entry that is not there does not come back. -/
theorem get?_dropAll_of_none (ids : List DeviceId) :
    ∀ (calls : Nat) (s : Store), s.entries.get? key = none →
      (s.dropAll outage calls ids).entries.get? key = none := by
  induction ids with
  | nil => exact fun _ _ h => h
  | cons id rest ih =>
      intro calls s hnone
      rw [dropAll]
      apply ih
      split
      · exact hnone
      · by_cases hid : DeviceId.cacheKey id = key
        · rw [← hid]
          exact SortedMap.get?_erase_self _ _
        · exact (SortedMap.get?_erase_ne hid _).trans hnone

/-- An entry is gone once the store dropped it for one of the devices. -/
theorem get?_dropAll_of_dropped (ids : List DeviceId) :
    ∀ (calls : Nat) (s : Store) (i : Nat) (x : DeviceId), ids[i]? = some x →
      outage (calls + i) .delete (DeviceId.cacheKey x) = none →
      (s.dropAll outage calls ids).entries.get? (DeviceId.cacheKey x) = none := by
  induction ids with
  | nil =>
      intro calls s i x hi
      cases hi
  | cons id rest ih =>
      intro calls s i x hi hserved
      rw [dropAll]
      cases i with
      | zero =>
          obtain rfl : id = x := Option.some.inj hi
          have hfirst : outage calls .delete (DeviceId.cacheKey id) = none := hserved
          rw [hfirst]
          exact get?_dropAll_of_none rest _ _ (SortedMap.get?_erase_self _ _)
      | succ i =>
          rw [Nat.add_comm i 1, ← Nat.add_assoc] at hserved
          exact ih (calls + 1) _ i x hi hserved

end Store

/-! ## One device after the other -/

namespace Controller

variable {outage : Outage} {c c' : Controller} {x : DeviceId} {devices : List DeviceId}
  {results : List (Except Error Unit)} {e : Error} {i : Nat}

/-- The devices of a list are tried one after the other, each with a result of its own, and each
where the one before it left off. -/
inductive TriesEach (outage : Outage) :
    Controller → List DeviceId → List (Except Error Unit) → Controller → Prop where
  | nil {c : Controller} : TriesEach outage c [] [] c
  | cons {c c' : Controller} {x : DeviceId} {rest : List DeviceId}
      {results : List (Except Error Unit)}
      (h : TriesEach outage (c.invalidate outage x).2 rest results c') :
      TriesEach outage c (x :: rest) ((c.invalidate outage x).1 :: results) c'

/-- Why the store fails to drop the checksum of the device at a position of a list, if it does.  The
call for that device is preceded by one for each device before it. -/
def dropFailure? (outage : Outage) (c : Controller) (devices : List DeviceId) (i : Nat) :
    Option Error :=
  devices[i]?.bind fun x =>
    (outage (c.calls + i) .delete (DeviceId.cacheKey x)).map
      (.storeFailed .delete (DeviceId.cacheKey x))

/-- The result of a call that may have failed. -/
def resultOf : Option Error → Except Error Unit
  | some e => .error e
  | none => .ok ()

/-- Dropping one checksum fails if the store does. -/
theorem invalidate_fst (outage : Outage) (c : Controller) (x : DeviceId) (rest : List DeviceId) :
    (c.invalidate outage x).1 = resultOf (c.dropFailure? outage (x :: rest) 0) := by
  unfold invalidate call dropFailure?
  show _ = resultOf ((outage c.calls .delete (DeviceId.cacheKey x)).map _)
  cases outage c.calls .delete (DeviceId.cacheKey x) <;> rfl

/-- The failures for the devices behind the first one are those after its call. -/
theorem dropFailure?_succ (outage : Outage) (c : Controller) (x : DeviceId) (rest : List DeviceId)
    (i : Nat) : c.dropFailure? outage (x :: rest) (i + 1) =
      (c.invalidate outage x).2.dropFailure? outage rest i := by
  unfold dropFailure?
  rw [invalidate_snd, List.getElem?_cons_succ]
  dsimp only
  rw [Nat.add_assoc, Nat.add_comm 1 i]

/-- The result for each device is the failure of its call, or that it was done. -/
theorem TriesEach.getElem? (h : TriesEach outage c devices results c') :
    ∀ i, results[i]? = devices[i]?.map fun _ => resultOf (c.dropFailure? outage devices i) := by
  induction h with
  | nil => exact fun i => rfl
  | @cons c c' x rest results _ ih =>
      intro i
      cases i with
      | zero => rw [invalidate_fst outage c x rest]; rfl
      | succ i =>
          rw [dropFailure?_succ]
          exact ih i

/-- Dropping the checksums of a list is dropping the one of its first device and then those of the
rest; a failure of the first one is what is reported. -/
theorem invalidateMany_cons (outage : Outage) (c : Controller) (x : DeviceId)
    (rest : List DeviceId) :
    c.invalidateMany outage (x :: rest) =
      ((c.invalidate outage x).1.bind fun _ =>
        ((c.invalidate outage x).2.invalidateMany outage rest).1.map (· + 1),
        ((c.invalidate outage x).2.invalidateMany outage rest).2) := by
  rw [invalidateMany]
  rcases c.invalidate outage x with ⟨_ | ⟨⟩, c₁⟩
  · rfl
  · rcases h : c₁.invalidateMany outage rest with ⟨_ | n, c₂⟩ <;> simp only [h] <;> rfl

/-- All devices are tried. -/
theorem invalidateMany_triesEach (outage : Outage) (devices : List DeviceId) :
    ∀ c : Controller, ∃ results, TriesEach outage c devices results
      (c.invalidateMany outage devices).2 := by
  induction devices with
  | nil => exact fun c => ⟨[], .nil⟩
  | cons x rest ih =>
      intro c
      obtain ⟨results, h⟩ := ih (c.invalidate outage x).2
      rw [invalidateMany_cons]
      exact ⟨_, .cons h⟩

/-- Without a failure the number of devices is given. -/
theorem invalidateMany_eq_ok (devices : List DeviceId) :
    ∀ c : Controller, (∀ i, c.dropFailure? outage devices i = none) →
      (c.invalidateMany outage devices).1 = .ok devices.length := by
  induction devices with
  | nil => exact fun _ _ => rfl
  | cons x rest ih =>
      intro c hnone
      have hrest := ih (c.invalidate outage x).2 fun i => by
        rw [← dropFailure?_succ]
        exact hnone (i + 1)
      rw [invalidateMany_cons, invalidate_fst outage c x rest, hnone 0, hrest]
      rfl

/-- Otherwise the first failure is given. -/
theorem invalidateMany_eq_error (devices : List DeviceId) :
    ∀ (c : Controller) (i : Nat), c.dropFailure? outage devices i = some e →
      (∀ j < i, c.dropFailure? outage devices j = none) →
      (c.invalidateMany outage devices).1 = .error e := by
  induction devices with
  | nil =>
      intro c i hfails
      cases hfails
  | cons x rest ih =>
      intro c i hfails hbefore
      rw [invalidateMany_cons, invalidate_fst outage c x rest]
      cases i with
      | zero =>
          rw [hfails]
          rfl
      | succ i =>
          rw [dropFailure?_succ] at hfails
          have hrest := ih (c.invalidate outage x).2 i hfails fun j hj => by
            rw [← dropFailure?_succ]
            exact hbefore (j + 1) (Nat.succ_lt_succ hj)
          rw [hbefore 0 (Nat.succ_pos i), hrest]
          rfl

/-! ## What becomes of the store and what is reported -/

/-- What may be relied on when the checksums of devices are dropped, whatever the list and the store
hold and whichever calls fail. -/
structure FansOut (outage : Outage) (c : Controller) (devices : List DeviceId)
    (answer : Except Error Nat) (c' : Controller) : Prop where
  /-- Every device is tried in its turn, and the result is the failure of its call or
  that it was done. -/
  tried : ∃ results, TriesEach outage c devices results c' ∧
    ∀ i, results[i]? = devices[i]?.map fun _ => resultOf (c.dropFailure? outage devices i)
  /-- The entry of a device is gone once a call for it has not failed. -/
  dropped : ∀ i x, devices[i]? = some x → c.dropFailure? outage devices i = none →
    c'.store.entries.get? (DeviceId.cacheKey x) = none
  /-- Every other entry stays: those of other keys, and those of devices for which
  all calls fail. -/
  kept : ∀ key, (∀ i x, devices[i]? = some x → DeviceId.cacheKey x = key →
      c.dropFailure? outage devices i ≠ none) →
    c'.store.entries.get? key = c.store.entries.get? key
  /-- If no call fails, the length of the list is given. -/
  served : (∀ i, c.dropFailure? outage devices i = none) → answer = .ok devices.length
  /-- Otherwise the failure of the first call that fails is given. -/
  failed : ∀ i e, c.dropFailure? outage devices i = some e →
    (∀ j < i, c.dropFailure? outage devices j = none) → answer = .error e
  /-- One call is made for each device. -/
  calls : c'.calls = c.calls + devices.length
  /-- Nothing but the entries is changed, and the calls are counted. -/
  rest : c' = { c with calls := c'.calls, store := { c.store with entries := c'.store.entries } }

/-- Dropping the checksums of devices tries all of them, drops what the store lets go, and reports
the first failure. -/
theorem invalidateMany_fansOut (c : Controller) (outage : Outage) (devices : List DeviceId) :
    FansOut outage c devices (c.invalidateMany outage devices).1
      (c.invalidateMany outage devices).2 := by
  have hstore : (c.invalidateMany outage devices).2.store =
      c.store.dropAll outage c.calls devices := by
    rw [invalidateMany_snd]
  have hserved : ∀ {i x}, devices[i]? = some x → (c.dropFailure? outage devices i = none ↔
      outage (c.calls + i) .delete (DeviceId.cacheKey x) = none) := by
    intro i x hi
    unfold dropFailure?
    rw [hi, Option.bind_some, Option.map_eq_none_iff]
  obtain ⟨results, htries⟩ := invalidateMany_triesEach outage devices c
  refine {
    tried := ⟨results, htries, htries.getElem?⟩
    dropped := fun i x hi hnone => ?_
    kept := fun key hfails => ?_
    served := invalidateMany_eq_ok devices c
    failed := fun i e => invalidateMany_eq_error devices c i
    calls := by rw [invalidateMany_snd]
    rest := ?_ }
  · rw [hstore]
    exact Store.get?_dropAll_of_dropped devices c.calls c.store i x hi ((hserved hi).mp hnone)
  · rw [hstore]
    refine Store.get?_dropAll_of_kept devices c.calls c.store fun i x hi hx hnone => ?_
    exact hfails i x hi hx ((hserved hi).mpr (hx ▸ hnone))
  · have hnow := Store.now_dropAll outage devices c.calls c.store
    rw [invalidateMany_snd]
    dsimp only
    rw [← hnow]

end Controller

end Fleet
