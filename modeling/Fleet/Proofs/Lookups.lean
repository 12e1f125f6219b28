/-
# Asking for a checksum

The store is asked for the checksum of a device, then once more, before the configuration is
rendered and its checksum stored.  Each of these steps may fail or end the matter, which makes six
courses; in all of them the store ends up as it was, as far as anything lives there, or with the
very checksum that is given.

Main statements: `Controller.getChecksum_fetches`, `Controller.getChecksum_answers`.
-/
import Fleet.Proofs.Twins

namespace Fleet

/-! ## Lookups in the store -/

namespace Store

variable {s : Store} {key q v : String}

/-- A lookup leaves the entries of the other keys, whether they live or not. -/
theorem get?_get_ne (h : key ≠ q) (s : Store) :
    (s.get key).2.entries.get? q = s.entries.get? q := by
  unfold get
  split
  · rfl
  · split
    · exact SortedMap.get?_erase_ne h _
    · rfl

/-- A lookup that finds something leaves everything. -/
theorem get_of_live (h : s.live? key = some v) : (s.get key).2 = s := by
  obtain ⟨e, he, hdead, _⟩ := live?_eq_some.mp h
  unfold get
  rw [he]
  dsimp only
  rw [hdead]
  rfl

/-- A second lookup of a key drops nothing more. -/
theorem get_get (s : Store) (key : String) : ((s.get key).2.get key).2 = (s.get key).2 := by
  cases h : s.live? key with
  | some v => rw [get_of_live h, get_of_live h]
  | none =>
      -- Nothing was there, or it has been dropped.
      have hnone : (s.get key).2.entries.get? key = none := by
        unfold get
        split
        · assumption
        · rename_i e he
          split
          · exact SortedMap.get?_erase_self _ _
          · rename_i hdead
            have hlives := live?_eq_some.mpr ⟨e, he, Bool.eq_false_iff.mpr hdead, rfl⟩
            rw [h] at hlives
            cases hlives
      generalize (s.get key).2 = t at hnone
      unfold get
      rw [hnone]

/-- Setting a key does not depend on whether it was looked up before. -/
theorem set_get (s : Store) (key value : String) (ttl : Nat) :
    (s.get key).2.set key value ttl = s.set key value ttl := by
  have hnow : (s.get key).2.now = s.now := (Same.of_get s key).now
  have hentries : ∀ e, (s.get key).2.entries.insert key e = s.entries.insert key e := by
    intro e
    apply SortedMap.ext_get?
    intro q
    rw [SortedMap.get?_insert, SortedMap.get?_insert]
    by_cases hq : key = q
    · rw [if_pos hq, if_pos hq]
    · rw [if_neg hq, if_neg hq, get?_get_ne hq]
  unfold set
  simp only [hnow, hentries]

end Store

namespace Controller

variable {settings : Settings} {outage : Outage} {c c' : Controller} {x : DeviceId}
  {answer : Except Error String} {calls : Nat} {s : Store}

/-! ## The courses -/

/-- How asking for the checksum of a device may go: the answer, the number of calls that are made,
and the store afterwards. -/
inductive Fetches (settings : Settings) (outage : Outage) (c : Controller) (x : DeviceId) :
    Except Error String → Nat → Store → Prop
  /-- The store cannot be asked. -/
  | lookupFails {reason : String} (h : outage c.calls .get (DeviceId.cacheKey x) = some reason) :
      Fetches settings outage c x (.error (.storeFailed .get (DeviceId.cacheKey x) reason)) 1
        c.store
  /-- A checksum lives in the store. -/
  | found {v : String} (hread : outage c.calls .get (DeviceId.cacheKey x) = none)
      (h : c.live? x = some v) : Fetches settings outage c x (.ok v) 1 c.store
  /-- None lives there, and the store cannot be asked once more. -/
  | againFails {reason : String} (hread : outage c.calls .get (DeviceId.cacheKey x) = none)
      (hnone : c.live? x = none)
      (h : outage (c.calls + 1) .get (DeviceId.cacheKey x) = some reason) :
      Fetches settings outage c x (.error (.storeFailed .get (DeviceId.cacheKey x) reason)) 2
        (c.store.get (DeviceId.cacheKey x)).2
  /-- None lives there, and the configuration is not rendered. -/
  | renderFails {e : Error} (hread : outage c.calls .get (DeviceId.cacheKey x) = none)
      (hnone : c.live? x = none) (hagain : outage (c.calls + 1) .get (DeviceId.cacheKey x) = none)
      (h : c.render settings x = .error e) :
      Fetches settings outage c x (.error e) 2 (c.store.get (DeviceId.cacheKey x)).2
  /-- The configuration is rendered, and its checksum cannot be stored. -/
  | writeFails {text reason : String} (hread : outage c.calls .get (DeviceId.cacheKey x) = none)
      (hnone : c.live? x = none) (hagain : outage (c.calls + 1) .get (DeviceId.cacheKey x) = none)
      (hrender : c.render settings x = .ok text)
      (h : outage (c.calls + 2) .set (DeviceId.cacheKey x) = some reason) :
      Fetches settings outage c x (.error (.storeFailed .set (DeviceId.cacheKey x) reason)) 3
        (c.store.get (DeviceId.cacheKey x)).2
  /-- The configuration is rendered, and its checksum is stored. -/
  | stored {text : String} (hread : outage c.calls .get (DeviceId.cacheKey x) = none)
      (hnone : c.live? x = none) (hagain : outage (c.calls + 1) .get (DeviceId.cacheKey x) = none)
      (hrender : c.render settings x = .ok text)
      (h : outage (c.calls + 2) .set (DeviceId.cacheKey x) = none) :
      Fetches settings outage c x (.ok (checksum text)) 3
        (c.store.set (DeviceId.cacheKey x) (checksum text) settings.checksumTtl)

/-! ## One of the courses is taken -/

/-- The controller after some lookups of the checksum of a device. -/
def lookedUp (c : Controller) (x : DeviceId) (lookups : Nat) : Controller :=
  { c with calls := c.calls + lookups, store := (c.store.get (DeviceId.cacheKey x)).2 }

section Calls

variable {α : Type} {kind : StoreCall} {key reason : String} {run : Store → α × Store}
  {lookups : Nat}

/-- A call that fails. -/
theorem call_of_some (h : outage c.calls kind key = some reason) :
    c.call outage kind key run =
      (.error (.storeFailed kind key reason), { c with calls := c.calls + 1 }) := by
  unfold call
  rw [h]

/-- A call that does not fail. -/
theorem call_of_none (h : outage c.calls kind key = none) :
    c.call outage kind key run =
      (.ok (run c.store).1, { c with calls := c.calls + 1, store := (run c.store).2 }) := by
  unfold call
  rw [h]

/-- A first lookup that fails. -/
theorem cached_of_some (h : outage c.calls .get (DeviceId.cacheKey x) = some reason) :
    c.cached outage x =
      (.error (.storeFailed .get (DeviceId.cacheKey x) reason), { c with calls := c.calls + 1 }) :=
  call_of_some h

/-- A first lookup that does not fail. -/
theorem cached_of_none (h : outage c.calls .get (DeviceId.cacheKey x) = none) :
    c.cached outage x = (.ok (c.live? x), c.lookedUp x 1) := by
  unfold cached
  rw [call_of_none h, Store.get_fst]
  rfl

/-- A further lookup that fails. -/
theorem cached_lookedUp_of_some
    (h : outage (c.calls + lookups) .get (DeviceId.cacheKey x) = some reason) :
    (c.lookedUp x lookups).cached outage x =
      (.error (.storeFailed .get (DeviceId.cacheKey x) reason), c.lookedUp x (lookups + 1)) :=
  call_of_some h

/-- A further lookup that does not fail finds the same. -/
theorem cached_lookedUp_of_none (h : outage (c.calls + lookups) .get (DeviceId.cacheKey x) = none) :
    (c.lookedUp x lookups).cached outage x = (.ok (c.live? x), c.lookedUp x (lookups + 1)) := by
  have hfirst : (c.lookedUp x lookups).cached outage x = _ := cached_of_none h
  have hlive : (c.lookedUp x lookups).live? x = c.live? x := Store.live?_get
  have hstore : (c.lookedUp x lookups).lookedUp x 1 = c.lookedUp x (lookups + 1) := by
    unfold lookedUp
    rw [Store.get_get, Nat.add_assoc]
  rw [hfirst, hlive, hstore]

/-- A checksum that cannot be stored after lookups. -/
theorem storeChecksum_lookedUp_of_some {value : String}
    (h : outage (c.calls + lookups) .set (DeviceId.cacheKey x) = some reason) :
    (c.lookedUp x lookups).storeChecksum settings outage x value =
      (.error (.storeFailed .set (DeviceId.cacheKey x) reason), c.lookedUp x (lookups + 1)) :=
  call_of_some h

/-- A checksum that is stored after lookups. -/
theorem storeChecksum_lookedUp_of_none {value : String}
    (h : outage (c.calls + lookups) .set (DeviceId.cacheKey x) = none) :
    (c.lookedUp x lookups).storeChecksum settings outage x value =
      (.ok (), { c with
        calls := c.calls + lookups + 1
        store := c.store.set (DeviceId.cacheKey x) value settings.checksumTtl }) := by
  unfold storeChecksum
  rw [call_of_none h]
  unfold lookedUp
  rw [Store.set_get]

end Calls

/-- Asking for a checksum goes one of these ways, and changes nothing but the store. -/
theorem getChecksum_fetches (settings : Settings) (outage : Outage) (c : Controller)
    (x : DeviceId) :
    ∃ calls s, Fetches settings outage c x (c.getChecksum settings outage x).1 calls s ∧
      (c.getChecksum settings outage x).2 = { c with calls := c.calls + calls, store := s } := by
  unfold getChecksum
  cases hread : outage c.calls .get (DeviceId.cacheKey x) with
  | some reason =>
      rw [cached_of_some hread]
      exact ⟨1, c.store, .lookupFails hread, rfl⟩
  | none =>
      rw [cached_of_none hread]
      cases hlive : c.live? x with
      | some v =>
          refine ⟨1, c.store, .found hread hlive, ?_⟩
          dsimp only
          rw [lookedUp, Store.get_of_live hlive]
      | none =>
          dsimp only
          cases hagain : outage (c.calls + 1) .get (DeviceId.cacheKey x) with
          | some reason =>
              rw [cached_lookedUp_of_some hagain]
              exact ⟨2, _, .againFails hread hlive hagain, rfl⟩
          | none =>
              rw [cached_lookedUp_of_none hagain, hlive]
              have hrender : (c.lookedUp x 2).render settings x = c.render settings x := rfl
              dsimp only
              rw [hrender]
              cases htext : c.render settings x with
              | error e => exact ⟨2, _, .renderFails hread hlive hagain htext, rfl⟩
              | ok text =>
                  dsimp only
                  cases hwrite : outage (c.calls + 2) .set (DeviceId.cacheKey x) with
                  | some reason =>
                      rw [storeChecksum_lookedUp_of_some hwrite]
                      exact ⟨3, _, .writeFails hread hlive hagain htext hwrite, rfl⟩
                  | none =>
                      rw [storeChecksum_lookedUp_of_none hwrite]
                      exact ⟨3, _, .stored hread hlive hagain htext hwrite, rfl⟩

/-! ## What may be relied on -/

/-- What may be relied on when the checksum of a device is asked for, whatever the store holds and
whichever of its calls fail. -/
structure ChecksumAnswer (settings : Settings) (outage : Outage) (c : Controller) (x : DeviceId)
    (answer : Except Error String) (c' : Controller) : Prop where
  /-- One of the courses is taken, with its calls and its store. -/
  course : ∃ calls, Fetches settings outage c x answer calls c'.store ∧ c'.calls = c.calls + calls
  /-- What is given was read from the store, where it lives; or no call failed, and it is the
  checksum of the rendered configuration and has been stored under the key of the device. -/
  given : ∀ v, answer = .ok v →
    (outage c.calls .get (DeviceId.cacheKey x) = none ∧ c.live? x = some v ∧ c'.store = c.store) ∨
      (outage c.calls .get (DeviceId.cacheKey x) = none ∧
        outage (c.calls + 1) .get (DeviceId.cacheKey x) = none ∧
        outage (c.calls + 2) .set (DeviceId.cacheKey x) = none ∧
        ∃ text, c.render settings x = .ok text ∧ v = checksum text ∧
          c'.store = c.store.set (DeviceId.cacheKey x) v settings.checksumTtl)
  /-- Without an answer the same lives in the store as before. -/
  refused : ∀ e, answer = .error e → c.store.Same c'.store
  /-- An error is one of rendering, or that of the call that failed. -/
  causes : ∀ e, answer = .error e → c.render settings x = .error e ∨
    ∃ n kind reason, c.calls ≤ n ∧ n < c'.calls ∧
      outage n kind (DeviceId.cacheKey x) = some reason ∧
      e = .storeFailed kind (DeviceId.cacheKey x) reason ∧ e.kind = .cacheUnavailable
  /-- What lives in the store is given, if the store can be asked. -/
  found : ∀ v, outage c.calls .get (DeviceId.cacheKey x) = none → c.live? x = some v →
    answer = .ok v
  /-- If nothing lives there, the checksum of the rendered configuration is given, if
  no call fails. -/
  rendered : ∀ text, outage c.calls .get (DeviceId.cacheKey x) = none → c.live? x = none →
    outage (c.calls + 1) .get (DeviceId.cacheKey x) = none → c.render settings x = .ok text →
      outage (c.calls + 2) .set (DeviceId.cacheKey x) = none → answer = .ok (checksum text)
  /-- An error of rendering is passed on. -/
  renderFails : ∀ e, outage c.calls .get (DeviceId.cacheKey x) = none → c.live? x = none →
    outage (c.calls + 1) .get (DeviceId.cacheKey x) = none → c.render settings x = .error e →
      answer = .error e
  /-- So is the failure of the first lookup. -/
  lookupFails : ∀ reason, outage c.calls .get (DeviceId.cacheKey x) = some reason →
    answer = .error (.storeFailed .get (DeviceId.cacheKey x) reason)
  /-- So is the failure of the second one, to which it comes if the first finds nothing. -/
  againFails : ∀ reason, outage c.calls .get (DeviceId.cacheKey x) = none → c.live? x = none →
    outage (c.calls + 1) .get (DeviceId.cacheKey x) = some reason →
      answer = .error (.storeFailed .get (DeviceId.cacheKey x) reason)
  /-- So is the failure to store the checksum, to which it comes once the
  configuration is rendered. -/
  writeFails : ∀ reason text, outage c.calls .get (DeviceId.cacheKey x) = none → c.live? x = none →
    outage (c.calls + 1) .get (DeviceId.cacheKey x) = none → c.render settings x = .ok text →
      outage (c.calls + 2) .set (DeviceId.cacheKey x) = some reason →
        answer = .error (.storeFailed .set (DeviceId.cacheKey x) reason)
  /-- The entries of other devices stay, whether they live or not. -/
  others : ∀ y, y ≠ x →
    c'.store.entries.get? (DeviceId.cacheKey y) = c.store.entries.get? (DeviceId.cacheKey y)
  /-- Nothing but the store is changed, and its calls are counted. -/
  rest : c' = { c with store := c'.store, calls := c'.calls }

namespace Fetches

variable (h : Fetches settings outage c x answer calls s)
include h

/-- Without an answer the same lives in the store as before. -/
theorem same_of_error {e : Error} (he : answer = .error e) : c.store.Same s := by
  cases h with
  | lookupFails => exact Store.Same.refl _
  | againFails | renderFails | writeFails => exact Store.Same.of_get _ _
  | found | stored => cases he

/-- The entries of other keys stay. -/
theorem get?_ne {y : DeviceId} (hne : y ≠ x) :
    s.entries.get? (DeviceId.cacheKey y) = c.store.entries.get? (DeviceId.cacheKey y) := by
  have hkey : DeviceId.cacheKey x ≠ DeviceId.cacheKey y := fun heq =>
    hne (DeviceId.cacheKey_inj.mp heq).symm
  cases h with
  | lookupFails | found => rfl
  | againFails | renderFails | writeFails => exact Store.get?_get_ne hkey _
  | stored => exact SortedMap.get?_insert_ne hkey _ _

/-- An error is one of rendering, or that of one of the calls. -/
theorem cause_of_error {e : Error} (he : answer = .error e) :
    c.render settings x = .error e ∨
      ∃ n kind reason, c.calls ≤ n ∧ n < c.calls + calls ∧
        outage n kind (DeviceId.cacheKey x) = some reason ∧
        e = .storeFailed kind (DeviceId.cacheKey x) reason := by
  cases h with
  | lookupFails hfails =>
      cases he
      exact Or.inr ⟨_, _, _, Nat.le_refl _, by omega, hfails, rfl⟩
  | againFails _ _ hfails =>
      cases he
      exact Or.inr ⟨_, _, _, by omega, by omega, hfails, rfl⟩
  | writeFails _ _ _ _ hfails =>
      cases he
      exact Or.inr ⟨_, _, _, by omega, by omega, hfails, rfl⟩
  | renderFails _ _ _ hrender =>
      cases he
      exact Or.inl hrender
  | found | stored => cases he

/-- What the store holds, what is rendered and which calls fail decide the course. -/
theorem unique {answer' : Except Error String} {calls' : Nat} {s' : Store}
    (h' : Fetches settings outage c x answer' calls' s') :
    answer = answer' ∧ calls = calls' ∧ s = s' := by
  -- Two different courses disagree on a call, on what lives, or on what is rendered.
  cases h <;> cases h' <;> simp_all

end Fetches

/-- Whoever asks for the checksum of a device is given one that lives in the store or the one of the
rendered configuration, which is stored then; otherwise the reason is given, and what lives in the
store is left as it was. -/
theorem getChecksum_answers (settings : Settings) (outage : Outage) (c : Controller)
    (x : DeviceId) :
    ChecksumAnswer settings outage c x (c.getChecksum settings outage x).1
      (c.getChecksum settings outage x).2 := by
  obtain ⟨calls, s, h, hafter⟩ := getChecksum_fetches settings outage c x
  generalize (c.getChecksum settings outage x).1 = answer at h
  rw [hafter]
  refine {
    course := ⟨calls, h, rfl⟩
    given := fun v hv => ?_
    refused := fun e he => h.same_of_error he
    causes := fun e he => (h.cause_of_error he).imp_right ?_
    found := fun v hread hlive => (h.unique (.found hread hlive)).1
    rendered := fun text hread hnone hagain hrender hwrite =>
      (h.unique (.stored hread hnone hagain hrender hwrite)).1
    renderFails := fun e hread hnone hagain hrender =>
      (h.unique (.renderFails hread hnone hagain hrender)).1
    lookupFails := fun reason hread => (h.unique (.lookupFails hread)).1
    againFails := fun reason hread hnone hagain => (h.unique (.againFails hread hnone hagain)).1
    writeFails := fun reason text hread hnone hagain hrender hwrite =>
      (h.unique (.writeFails hread hnone hagain hrender hwrite)).1
    others := fun y hne => h.get?_ne hne
    rest := rfl }
  · cases h with
    | found hread hlive =>
        cases hv
        exact Or.inl ⟨hread, hlive, rfl⟩
    | stored hread hnone hagain hrender hwrite =>
        cases hv
        exact Or.inr ⟨hread, hagain, hwrite, _, hrender, rfl, rfl⟩
    | lookupFails | againFails | renderFails | writeFails => cases hv
  · rintro ⟨n, kind, reason, hfrom, hto, hfails, rfl⟩
    exact ⟨n, kind, reason, hfrom, hto, hfails, rfl, rfl⟩

end Controller

end Fleet
