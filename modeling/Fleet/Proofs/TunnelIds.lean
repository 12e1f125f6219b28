/-
# Tunnel ids are unique and in range

The search for a free id ends at one, since it has more fuel than there are ids in use.  So the ids
that the clients of a server hold differ, lie in the range, and are not above the mark of the
server, which never falls.

Main statements: `TunnelIds.leastFreeFrom?_eq_some`, `Controller.after_numbered`,
`Controller.Reachable.tunnelIds_unique`.
-/
import Fleet.Proofs.Members
import Fleet.Proofs.Sound
import Mathlib.Data.List.Nodup
import Mathlib.Data.List.Perm.Subperm

namespace Fleet

open Outcomes

/-! ## The search for a free id -/

namespace TunnelIds

variable {inUse : List Nat} {fuel n m max id : Nat}

/-- The search goes upwards. -/
theorem le_firstUnused : n ≤ firstUnused inUse fuel n := by
  induction fuel generalizing n with
  | zero => exact Nat.le_refl n
  | succ fuel ih =>
      rw [firstUnused]
      split
      · exact Nat.le_of_succ_le ih
      · exact Nat.le_refl n

/-- What the search passes over is in use. -/
theorem mem_of_lt_firstUnused (hn : n ≤ m) (hm : m < firstUnused inUse fuel n) : m ∈ inUse := by
  induction fuel generalizing n with
  | zero =>
      rw [firstUnused] at hm
      omega
  | succ fuel ih =>
      rw [firstUnused] at hm
      split at hm
      · rename_i hused
        rcases Nat.eq_or_lt_of_le hn with rfl | hlt
        · exact List.contains_iff_mem.mp hused
        · exact ih hlt hm
      · omega

/-- A search that ends at an id in use has spent its fuel. -/
theorem firstUnused_eq_of_mem (h : firstUnused inUse fuel n ∈ inUse) :
    firstUnused inUse fuel n = n + fuel := by
  induction fuel generalizing n with
  | zero => rfl
  | succ fuel ih =>
      rw [firstUnused] at h ⊢
      split
      · rename_i hused
        rw [if_pos hused] at h
        rw [ih h]
        omega
      · rename_i hfree
        rw [if_neg hfree] at h
        exact absurd (List.contains_iff_mem.mpr h) hfree

/-- With more fuel than there are ids in use the search ends at a free one. -/
theorem firstUnused_not_mem (h : inUse.length < fuel) : firstUnused inUse fuel n ∉ inUse := by
  intro hmem
  have hend := firstUnused_eq_of_mem hmem
  -- All the numbers passed over would be in use, and they are too many.
  have hsub : List.range' n fuel ⊆ inUse := by
    intro m hm
    rw [List.mem_range'_1] at hm
    exact mem_of_lt_firstUnused hm.1 (hend ▸ hm.2)
  have hlength := (List.subperm_of_subset List.nodup_range' hsub).length_le
  rw [List.length_range'] at hlength
  omega

/-- The least free id from a start on is free and in range, and all before it are in use. -/
theorem leastFreeFrom?_eq_some :
    leastFreeFrom? inUse max n = some id ↔
      n ≤ id ∧ id ≤ max ∧ id ∉ inUse ∧ ∀ m, n ≤ m → m < id → m ∈ inUse := by
  have hfree : firstUnused inUse (inUse.length + 1) n ∉ inUse :=
    firstUnused_not_mem (Nat.lt_succ_self _)
  unfold leastFreeFrom?
  dsimp only
  constructor
  · intro h
    split at h
    · rename_i hmax
      rw [Option.some.injEq] at h
      subst h
      exact ⟨le_firstUnused, hmax, hfree, fun m hn hm => mem_of_lt_firstUnused hn hm⟩
    · cases h
  · rintro ⟨hn, hmax, hid, hbelow⟩
    have heq : firstUnused inUse (inUse.length + 1) n = id := by
      rcases Nat.lt_trichotomy (firstUnused inUse (inUse.length + 1) n) id with hlt | heq | hlt
      · exact absurd (hbelow _ le_firstUnused hlt) hfree
      · exact heq
      · exact absurd (mem_of_lt_firstUnused hn hlt) hid
    rw [heq, if_pos hmax]

/-! ## The marks -/

variable {t t' : TunnelIds} {server s : ServerId}

/-- The mark of a server is raised to the id, if that is higher. -/
theorem highWater_raise_self :
    (t.raise server id).highWater server = Nat.max (t.highWater server) id := by
  unfold raise highWater
  rw [SortedMap.get?_insert_self]
  rfl

/-- The marks of other servers stay. -/
theorem highWater_raise_ne (h : server ≠ s) : (t.raise server id).highWater s = t.highWater s := by
  unfold raise highWater
  rw [SortedMap.get?_insert_ne h]

/-- No mark falls when one is raised. -/
theorem le_highWater_raise : t.highWater s ≤ (t.raise server id).highWater s := by
  by_cases h : server = s
  · subst h
    rw [highWater_raise_self]
    exact Nat.le_max_left _ _
  · exact Nat.le_of_eq (highWater_raise_ne h).symm

/-- An id that is handed out is the least free one above the mark, or the least of all if there
is none above. -/
theorem allocate_eq_ok_iff :
    t.allocate server inUse max = .ok (id, t') ↔
      (leastFreeFrom? inUse max (t.highWater server + 1) = some id ∨
        leastFreeFrom? inUse max (t.highWater server + 1) = none ∧
          lowestFree? inUse max = .ok (some id)) ∧
      t' = t.raise server id := by
  unfold allocate
  constructor
  · intro h
    split at h
    · rename_i found hfound
      cases h
      exact ⟨Or.inl hfound, rfl⟩
    · rename_i hnone
      split at h
      · rename_i found hfound
        cases h
        exact ⟨Or.inr ⟨hnone, hfound⟩, rfl⟩
      · cases h
      · cases h
  · rintro ⟨hfound | ⟨hnone, hfound⟩, rfl⟩
    · rw [hfound]
    · rw [hnone, hfound]

/-- The least free id of all is that of the range from one on. -/
theorem lowestFree?_eq_ok {found : Option Nat} :
    lowestFree? inUse max = .ok found ↔
      ¬ (max < 1 ∧ inUse ≠ []) ∧ leastFreeFrom? inUse max 1 = found := by
  unfold lowestFree?
  rw [ite_error_eq_ok, Except.ok.injEq]

/-- An id that is handed out is free and in range, and the mark is raised to it. -/
theorem allocate_eq_ok (h : t.allocate server inUse max = .ok (id, t')) :
    1 ≤ id ∧ id ≤ max ∧ id ∉ inUse ∧ t' = t.raise server id := by
  obtain ⟨habove | ⟨_, hbelow⟩, rfl⟩ := allocate_eq_ok_iff.mp h
  · obtain ⟨hstart, hmax, hfree, _⟩ := leastFreeFrom?_eq_some.mp habove
    exact ⟨by omega, hmax, hfree, rfl⟩
  · obtain ⟨hstart, hmax, hfree, _⟩ := leastFreeFrom?_eq_some.mp (lowestFree?_eq_ok.mp hbelow).2
    exact ⟨hstart, hmax, hfree, rfl⟩

/-- An id that is reserved is free and in range, and the mark is raised to it. -/
theorem reserve_eq_ok (h : t.reserve server id inUse max = .ok t') :
    1 ≤ id ∧ id ≤ max ∧ id ∉ inUse ∧ t' = t.raise server id := by
  unfold reserve at h
  rw [ite_error_eq_ok, ite_error_eq_ok, not_or, Except.ok.injEq] at h
  obtain ⟨⟨hzero, hmax⟩, hused, rfl⟩ := h
  refine ⟨Nat.one_le_iff_ne_zero.mpr hzero, Nat.not_lt.mp hmax, fun hmem => ?_, rfl⟩
  exact hused (List.contains_iff_mem.mpr hmem)

end TunnelIds

/-! ## The ids that clients hold -/

namespace Inventory

variable {inv inv' : Inventory} {maxTunnelId : Nat}

/-- The tunnel ids that the clients of a server hold, in the order of joining. -/
def heldIds (inv : Inventory) (s : ServerId) : List Nat :=
  (inv.clientsOn s).filterMap VpnClient.vni

/-- A new client gets no tunnel id, or one that is in range and that no client of its
server holds. -/
theorem tunnelIdFor_eq_ok {server : VpnServer} {client : VpnClient} {vni : Option Nat}
    {ids : TunnelIds} (h : inv.tunnelIdFor server client maxTunnelId = .ok (vni, ids)) :
    (vni = none ∧ ids = inv.tunnelIds) ∨
      ∃ id, vni = some id ∧ 1 ≤ id ∧ id ≤ maxTunnelId ∧ id ∉ inv.heldIds client.server ∧
        ids = inv.tunnelIds.raise client.server id := by
  unfold tunnelIdFor at h
  split at h
  · right
    dsimp only at h
    split at h
    · rename_i id _
      rw [map_eq_ok] at h
      obtain ⟨ids', hreserve, heq⟩ := h
      cases heq
      exact ⟨id, rfl, TunnelIds.reserve_eq_ok hreserve⟩
    · rw [map_eq_ok] at h
      obtain ⟨⟨id, ids'⟩, hallocate, heq⟩ := h
      cases heq
      exact ⟨id, rfl, TunnelIds.allocate_eq_ok hallocate⟩
  · cases h
    exact Or.inl ⟨rfl, rfl⟩

/-- A device that joins a server holds the tunnel id that it got there. -/
theorem insertClient_tunnelIds {client stored : VpnClient}
    (h : inv.insertClient client maxTunnelId = .ok (stored, inv')) :
    (stored.vni = none ∧ inv'.tunnelIds = inv.tunnelIds) ∨
      ∃ id, stored.vni = some id ∧ 1 ≤ id ∧ id ≤ maxTunnelId ∧ id ∉ inv.heldIds stored.server ∧
        inv'.tunnelIds = inv.tunnelIds.raise stored.server id := by
  obtain ⟨_, _, _, _, _, _, _, htunnel, rfl, rfl⟩ := insertClient_eq_ok h
  have hids := tunnelIdFor_eq_ok htunnel
  exact hids

/-- The ids that are held once a device joined a server. -/
theorem heldIds_insertClient {client stored : VpnClient}
    (h : inv.insertClient client maxTunnelId = .ok (stored, inv')) (s : ServerId) :
    inv'.heldIds s = inv.heldIds s ++ if stored.server = s then stored.vni.toList else [] := by
  unfold heldIds
  rw [clientsOn_insertClient h s, List.filterMap_append]
  split
  · cases hvni : stored.vni <;> simp [hvni]
  · rfl

/-- The ids that the clients of each server hold differ, are in range and not above its mark. -/
structure Numbered (inv : Inventory) (maxTunnelId : Nat) : Prop where
  /-- No id is held twice. -/
  nodup : ∀ s, (inv.heldIds s).Nodup
  /-- Every id is in range and not above the mark. -/
  bounds : ∀ s, ∀ id ∈ inv.heldIds s, 1 ≤ id ∧ id ≤ maxTunnelId ∧ id ≤ inv.tunnelIds.highWater s

namespace Numbered

/-- Memberships may end. -/
theorem of_sublist (h : inv.Numbered maxTunnelId) (hsub : inv'.clients.Sublist inv.clients)
    (hids : inv'.tunnelIds = inv.tunnelIds) : inv'.Numbered maxTunnelId := by
  have hheld : ∀ s, (inv'.heldIds s).Sublist (inv.heldIds s) := by
    intro s
    have hmembers : (inv'.clientsOn s).Sublist (inv.clientsOn s) := hsub.filter _
    exact hmembers.filterMap VpnClient.vni
  constructor
  · exact fun s => (h.nodup s).sublist (hheld s)
  · intro s id hid
    rw [hids]
    exact h.bounds s id ((hheld s).subset hid)

/-- A device may join a server. -/
theorem insertClient (h : inv.Numbered maxTunnelId) {client stored : VpnClient}
    (hinsert : inv.insertClient client maxTunnelId = .ok (stored, inv')) :
    inv'.Numbered maxTunnelId := by
  have hheld := heldIds_insertClient hinsert
  rcases insertClient_tunnelIds hinsert with ⟨hnone, hids⟩ | ⟨id, hsome, hpos, hmax, hfree, hids⟩
  · have hsame : ∀ s, inv'.heldIds s = inv.heldIds s := by
      intro s
      rw [hheld s, hnone, Option.toList_none, ite_self, List.append_nil]
    constructor
    · intro s
      rw [hsame s]
      exact h.nodup s
    · intro s id hid
      rw [hsame s] at hid
      rw [hids]
      exact h.bounds s id hid
  · rw [hsome, Option.toList_some] at hheld
    constructor
    · intro s
      rw [hheld s]
      split
      · rename_i hs
        rw [hs] at hfree
        exact (h.nodup s).append (List.nodup_singleton id) (List.disjoint_singleton.mpr hfree)
      · rw [List.append_nil]
        exact h.nodup s
    · intro s held hmem
      rw [hids]
      rw [hheld s, List.mem_append] at hmem
      rcases hmem with hold | hnew
      · obtain ⟨hone, hrange, hmark⟩ := h.bounds s held hold
        exact ⟨hone, hrange, Nat.le_trans hmark TunnelIds.le_highWater_raise⟩
      · split at hnew
        · rename_i hs
          rw [List.mem_singleton] at hnew
          rw [hnew, ← hs, TunnelIds.highWater_raise_self]
          exact ⟨hpos, hmax, Nat.le_max_right _ _⟩
        · cases hnew

end Numbered

end Inventory

/-! ## What requests keep -/

namespace Controller

variable {settings : Settings} {outage : Outage} {c : Controller} {r : Request} {change : Change}

/-- No tunnel id is handed out, unless a device joins a server. -/
theorem Makes.tunnelIds (hkeyed : c.inventory.DevicesKeyed) (h : Makes settings outage c r change) :
    change.edited.tunnelIds = c.inventory.tunnelIds ∨
      ∃ client stored,
        c.inventory.insertClient client settings.maxTunnelId = .ok (stored, change.edited) := by
  cases h.counts hkeyed with
  | kept h => exact Or.inl h.tunnelIds
  | removed h =>
      obtain ⟨_, _, _, _, _, heq⟩ := Inventory.removeDevice_eq_ok h
      rw [heq]
      exact Or.inl rfl
  | joined h => exact Or.inr ⟨_, _, h⟩
  | added h =>
      obtain ⟨_, _, _, _, hr⟩ := Inventory.insertTemplate_eq_ok h
      rw [hr.eq]
      exact Or.inl rfl
  | replaced h =>
      obtain ⟨_, _, _, _, _, hr⟩ := Inventory.replaceTemplate_eq_ok h
      rw [hr.eq]
      exact Or.inl rfl

/-- A request keeps the tunnel ids unique and in range. -/
theorem Makes.numbered (hkeyed : c.inventory.DevicesKeyed)
    (hc : c.inventory.Numbered settings.maxTunnelId) (h : Makes settings outage c r change) :
    change.edited.Numbered settings.maxTunnelId := by
  rcases h.tunnelIds hkeyed with hids | ⟨_, _, hinsert⟩
  · rcases h.clients hkeyed with hsub | ⟨_, _, _, hinsert⟩
    · exact hc.of_sublist hsub hids
    · exact hc.insertClient hinsert
  · exact hc.insertClient hinsert

/-- A request lowers no mark. -/
theorem Makes.le_highWater (hkeyed : c.inventory.DevicesKeyed)
    (h : Makes settings outage c r change) (s : ServerId) :
    c.inventory.tunnelIds.highWater s ≤ change.edited.tunnelIds.highWater s := by
  rcases h.tunnelIds hkeyed with hids | ⟨_, _, hinsert⟩
  · exact Nat.le_of_eq (by rw [hids])
  · rcases Inventory.insertClient_tunnelIds hinsert with ⟨_, hids⟩ | ⟨_, _, _, _, _, hids⟩
    · exact Nat.le_of_eq (by rw [hids])
    · rw [hids]
      exact TunnelIds.le_highWater_raise

/-- Every event keeps the tunnel ids unique and in range. -/
theorem after_numbered (hs : c.inventory.Sound) (hc : c.inventory.Numbered settings.maxTunnelId)
    (e : Event) : (c.after settings e).inventory.Numbered settings.maxTunnelId := by
  cases e with
  | request outage r =>
      obtain ⟨change, hmakes, hfollows⟩ := answers_of_sound hs settings outage r
      have hedited := hmakes.numbered hs.devicesKeyed hc
      have hmarks := hfollows.marks
      refine hedited.of_sublist (hmarks.clients ▸ List.Sublist.refl _) ?_
      show (c.perform settings outage r).2.inventory.tunnelIds = change.edited.tunnelIds
      rw [hmarks.eq]
  | pass seconds => exact hc

/-- No event lowers a mark. -/
theorem highWater_le_after (hs : c.inventory.Sound) (e : Event) (s : ServerId) :
    c.inventory.tunnelIds.highWater s ≤ (c.after settings e).inventory.tunnelIds.highWater s := by
  cases e with
  | request outage r =>
      obtain ⟨change, hmakes, hfollows⟩ := answers_of_sound hs settings outage r
      show _ ≤ (c.perform settings outage r).2.inventory.tunnelIds.highWater s
      rw [hfollows.marks.eq]
      exact hmakes.le_highWater hs.devicesKeyed s
  | pass seconds => exact Nat.le_refl _

/-- The ids of a reachable controller are unique and in range. -/
theorem Reachable.numbered (h : Reachable settings c) :
    c.inventory.Numbered settings.maxTunnelId := by
  have hinv : c.inventory.Sound ∧ c.inventory.Numbered settings.maxTunnelId := by
    refine h.keeps (I := fun c => c.inventory.Sound ∧ c.inventory.Numbered settings.maxTunnelId)
      ?_ ?_
    · refine fun now => ⟨start_sound now, ⟨fun s => List.nodup_nil, ?_⟩⟩
      intro s id hid
      cases hid
    · exact fun c e hinv => ⟨after_sound hinv.1 e, after_numbered hinv.1 hinv.2 e⟩
  exact hinv.2

/-- In every reachable state the tunnel ids that the clients of a server hold differ from one
another, lie between one and the bound, and are not above the mark of the server; and whatever
happens next lowers no mark. -/
theorem Reachable.tunnelIds_unique (h : Reachable settings c) (s : ServerId) :
    (c.inventory.heldIds s).Nodup ∧
      (∀ id ∈ c.inventory.heldIds s,
        1 ≤ id ∧ id ≤ settings.maxTunnelId ∧ id ≤ c.inventory.tunnelIds.highWater s) ∧
      ∀ e, c.inventory.tunnelIds.highWater s ≤
        (c.after settings e).inventory.tunnelIds.highWater s := by
  have hnumbered := h.numbered
  refine ⟨hnumbered.nodup s, hnumbered.bounds s, ?_⟩
  exact fun e => highWater_le_after h.sound e s

/-- The one client of a server holds the one id there is, and the mark stays when it leaves. -/
theorem tunnelIds_unique_sample :
    (Sample.controller Sample.joining).inventory.heldIds Sample.server.id = [1] ∧
      [1].Nodup ∧ 1 ≤ (Sample.controller Sample.joining).inventory.tunnelIds.highWater
        Sample.server.id ∧
      (Sample.controller Sample.joining).inventory.tunnelIds.highWater Sample.server.id ≤
        ((Sample.controller Sample.joining).after Sample.settings
          (.request .none (.detachClient Sample.device.id
            Sample.server.id))).inventory.tunnelIds.highWater Sample.server.id := by
  have hheld : (Sample.controller Sample.joining).inventory.heldIds Sample.server.id = [1] := by
    decide +kernel
  obtain ⟨hnodup, hbounds, hmark⟩ :=
    (Sample.reachable Sample.joining).tunnelIds_unique Sample.server.id
  rw [hheld] at hnodup hbounds
  exact ⟨hheld, hnodup, (hbounds 1 List.mem_cons_self).2.2, hmark _⟩

end Controller

end Fleet
