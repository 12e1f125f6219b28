/-
# Tunnel ids are allocated exactly

A request for a tunnel id is refused only when the whole range is in use; otherwise the least
free id above the mark of the server is handed out, or the least of all once there is none
above.  The one exception is a range that ends before it begins: where ids are in use, the
request breaks off there.

Main statement: `TunnelIds.allocatesExactly_iff`.
-/
import Fleet.Proofs.TunnelIds

namespace Fleet.TunnelIds

variable {t : TunnelIds} {server s : ServerId} {inUse : List Nat} {n max id : Nat}

/-! ## Free ids -/

/-- An id is the least of a range that is not in use. -/
structure LeastFree (inUse : List Nat) (first last id : Nat) : Prop where
  /-- It is not below the range. -/
  first_le : first ≤ id
  /-- It is not above the range. -/
  le_last : id ≤ last
  /-- It is free. -/
  free : id ∉ inUse
  /-- All ids of the range below it are in use. -/
  below : ∀ m, first ≤ m → m < id → m ∈ inUse

/-- What the search finds is the least free id. -/
theorem leastFree_iff : leastFreeFrom? inUse max n = some id ↔ LeastFree inUse n max id := by
  rw [leastFreeFrom?_eq_some]
  constructor
  · rintro ⟨hfirst, hlast, hfree, hbelow⟩
    exact ⟨hfirst, hlast, hfree, hbelow⟩
  · rintro ⟨hfirst, hlast, hfree, hbelow⟩
    exact ⟨hfirst, hlast, hfree, hbelow⟩

/-- The search finds nothing exactly when the range is used up. -/
theorem leastFreeFrom?_eq_none :
    leastFreeFrom? inUse max n = none ↔ ∀ m, n ≤ m → m ≤ max → m ∈ inUse := by
  constructor
  · intro hnone m hn hm
    by_contra hfree
    -- The search ends at a free id, which can only be above the range.
    have hend : max < firstUnused inUse (inUse.length + 1) n := by
      unfold leastFreeFrom? at hnone
      dsimp only at hnone
      split at hnone
      · cases hnone
      · omega
    exact hfree (mem_of_lt_firstUnused hn (Nat.lt_of_le_of_lt hm hend))
  · intro hused
    cases hfound : leastFreeFrom? inUse max n with
    | none => rfl
    | some id =>
        have hleast := leastFree_iff.mp hfound
        exact absurd (hused id hleast.first_le hleast.le_last) hleast.free

/-! ## Requests for an id -/

/-- A request for an id of a server is answered exactly. -/
structure AllocatesExactly (t : TunnelIds) (server : ServerId) (inUse : List Nat) (max : Nat) :
    Prop where
  /-- It is refused, so that no mark changes, exactly when every id of the range is in use. -/
  refused : t.allocate server inUse max = .error (.tunnelIdsExhausted server max) ↔
    ∀ id, 1 ≤ id → id ≤ max → id ∈ inUse
  /-- Otherwise it gives a free id of the range: the least above the mark of the server if there is
  one, and else the least of all.  The mark is raised to the id, and those of other servers stay. -/
  given : (∃ id, 1 ≤ id ∧ id ≤ max ∧ id ∉ inUse) →
    ∃ id t', t.allocate server inUse max = .ok (id, t') ∧
      1 ≤ id ∧ id ≤ max ∧ id ∉ inUse ∧
      ((∃ m, t.highWater server < m ∧ m ≤ max ∧ m ∉ inUse) →
        LeastFree inUse (t.highWater server + 1) max id) ∧
      ((∀ m, t.highWater server < m → m ≤ max → m ∈ inUse) → LeastFree inUse 1 max id) ∧
      t'.highWater server = Nat.max (t.highWater server) id ∧
      ∀ s, s ≠ server → t'.highWater s = t.highWater s

/-- Where the range does not end before it begins, or nothing is in use, the least free id of all is
searched for. -/
theorem lowestFree?_eq (h : max ≠ 0 ∨ inUse = []) :
    lowestFree? inUse max = .ok (leastFreeFrom? inUse max 1) := by
  rw [lowestFree?_eq_ok]
  refine ⟨?_, rfl⟩
  rintro ⟨hmax, hused⟩
  exact h.elim (fun hne => hne (by omega)) hused

/-- A request for an id is refused exactly when the whole range is in use. -/
theorem allocate_eq_exhausted (h : max ≠ 0 ∨ inUse = []) :
    t.allocate server inUse max = .error (.tunnelIdsExhausted server max) ↔
      ∀ id, 1 ≤ id → id ≤ max → id ∈ inUse := by
  rw [← leastFreeFrom?_eq_none]
  unfold allocate
  rw [lowestFree?_eq h]
  cases hlowest : leastFreeFrom? inUse max 1 with
  | some id => cases leastFreeFrom? inUse max (t.highWater server + 1) <;> simp
  | none =>
      -- Nothing is free from one on, so nothing is free above the mark.
      have habove : leastFreeFrom? inUse max (t.highWater server + 1) = none := by
        rw [leastFreeFrom?_eq_none] at hlowest ⊢
        exact fun m hm => hlowest m (by omega)
      rw [habove]
      simp

/-- A request for an id gives one where the range is not used up. -/
theorem exists_allocate_eq_ok (h : max ≠ 0 ∨ inUse = [])
    (hfree : ∃ id, 1 ≤ id ∧ id ≤ max ∧ id ∉ inUse) :
    ∃ id, t.allocate server inUse max = .ok (id, t.raise server id) := by
  obtain ⟨m, hm, hmax, hunused⟩ := hfree
  obtain ⟨lowest, hlowest⟩ : ∃ id, leastFreeFrom? inUse max 1 = some id := by
    rw [← Option.ne_none_iff_exists', Ne, leastFreeFrom?_eq_none]
    exact fun hused => hunused (hused m hm hmax)
  cases habove : leastFreeFrom? inUse max (t.highWater server + 1) with
  | some id => exact ⟨id, allocate_eq_ok_iff.mpr ⟨Or.inl habove, rfl⟩⟩
  | none =>
      have hok : lowestFree? inUse max = .ok (some lowest) := by
        rw [lowestFree?_eq h, hlowest]
      exact ⟨lowest, allocate_eq_ok_iff.mpr ⟨Or.inr ⟨habove, hok⟩, rfl⟩⟩

/-- The id handed out is the least above the mark if one is free there. -/
theorem leastFree_of_free_above {t' : TunnelIds} (hok : t.allocate server inUse max = .ok (id, t'))
    (hfree : ∃ m, t.highWater server < m ∧ m ≤ max ∧ m ∉ inUse) :
    LeastFree inUse (t.highWater server + 1) max id := by
  obtain ⟨habove | ⟨hnone, _⟩, _⟩ := allocate_eq_ok_iff.mp hok
  · exact leastFree_iff.mp habove
  · obtain ⟨m, hm, hmax, hunused⟩ := hfree
    exact absurd (leastFreeFrom?_eq_none.mp hnone m hm hmax) hunused

/-- The id handed out is the least of all if none is free above the mark. -/
theorem leastFree_of_used_above {t' : TunnelIds} (hok : t.allocate server inUse max = .ok (id, t'))
    (hused : ∀ m, t.highWater server < m → m ≤ max → m ∈ inUse) : LeastFree inUse 1 max id := by
  obtain ⟨habove | ⟨_, hlowest⟩, _⟩ := allocate_eq_ok_iff.mp hok
  · have hleast := leastFree_iff.mp habove
    exact absurd (hused id hleast.first_le hleast.le_last) hleast.free
  · exact leastFree_iff.mp (lowestFree?_eq_ok.mp hlowest).2

/-- Over a range that ends before it begins a request breaks off if ids are in use. -/
theorem allocate_eq_reversed (hused : inUse ≠ []) :
    t.allocate server inUse 0 = .error (.reversedRange 1 0) := by
  have habove : leastFreeFrom? inUse 0 (t.highWater server + 1) = none := by
    rw [leastFreeFrom?_eq_none]
    intro m hm hmax
    omega
  unfold allocate lowestFree?
  rw [habove, if_pos ⟨Nat.zero_lt_one, hused⟩]

/-- Requests for an id are answered exactly, unless the range ends before it begins and ids are in
use. -/
theorem allocatesExactly_iff :
    t.AllocatesExactly server inUse max ↔ max ≠ 0 ∨ inUse = [] := by
  constructor
  · intro hexact
    by_contra hnot
    rw [not_or, not_not] at hnot
    obtain ⟨rfl, hused⟩ := hnot
    have hrefused := hexact.refused.mpr (fun id hid hmax => by omega)
    rw [allocate_eq_reversed hused] at hrefused
    cases hrefused
  · intro h
    refine ⟨allocate_eq_exhausted h, fun hfree => ?_⟩
    obtain ⟨id, hok⟩ : ∃ id, t.allocate server inUse max = .ok (id, t.raise server id) :=
      exists_allocate_eq_ok h hfree
    obtain ⟨hpos, hmax, hunused, _⟩ := allocate_eq_ok hok
    exact ⟨id, _, hok, hpos, hmax, hunused, leastFree_of_free_above hok,
      leastFree_of_used_above hok, highWater_raise_self, fun s hs => highWater_raise_ne hs.symm⟩

/-- No id is left in an empty range, but the request is not refused: it breaks off. -/
theorem empty_range_breaks_off :
    allocate .empty ⟨"s"⟩ [5] 0 = .error (.reversedRange 1 0) ∧
      ¬ AllocatesExactly .empty ⟨"s"⟩ [5] 0 := by
  refine ⟨rfl, fun hexact => ?_⟩
  have hrefused := hexact.refused.mpr (fun id hid hmax => by omega)
  cases hrefused

end Fleet.TunnelIds
