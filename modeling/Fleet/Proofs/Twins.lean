/-
# Controllers that cannot be told apart

Two controllers with the same records, index and notices may differ in what nobody sees: in entries
of the store that are past their time, in the peer lists that are kept, and in the number of calls
made to the store.  If the calls of the store fail alike for both, every request leaves them so.

Main statements: `Controller.Twins.simulation`, `Controller.Twins.perform`, `Controller.Twins.run`.
-/
import Fleet.Proofs.Runs
import Fleet.Proofs.Simulations
import Fleet.Proofs.Stored

namespace Fleet

/-! ## Stores -/

namespace Store

variable {s s' s'' : Store} {key q : String}

/-- The entry of a key, if it is not past its time. -/
def entryAlive? (s : Store) (key : String) : Option StoreEntry :=
  (s.entries.get? key).filter fun e => !s.isDead e

/-- What is looked up is the value of the entry that lives. -/
theorem live?_eq (s : Store) (key : String) :
    s.live? key = (s.entryAlive? key).map StoreEntry.value :=
  rfl

/-- Two stores have the same time and the same entries that live. -/
structure Same (s s' : Store) : Prop where
  /-- The time. -/
  now : s'.now = s.now
  /-- The entries. -/
  entries : ∀ key, s'.entryAlive? key = s.entryAlive? key

/-- The entry of a key that is removed. -/
theorem entryAlive?_delete :
    (s.delete key).entryAlive? q = if key = q then none else s.entryAlive? q := by
  unfold entryAlive? delete
  dsimp only
  split
  · rename_i h
    rw [h, SortedMap.get?_erase_self]
    rfl
  · rename_i h
    rw [SortedMap.get?_erase_ne h]
    rfl

/-- The entry of a key that is stored. -/
theorem entryAlive?_set {value : String} {ttl : Nat} :
    (s.set key value ttl).entryAlive? q =
      if key = q then
        (some (StoreEntry.mk value
          (if s.now + ttl ≤ lastSecond then some (s.now + ttl) else none))).filter
            fun e => !s.isDead e
      else s.entryAlive? q := by
  unfold entryAlive? set
  dsimp only
  rw [SortedMap.get?_insert]
  by_cases h : key = q
  · rw [if_pos h, if_pos h]
    rfl
  · rw [if_neg h, if_neg h]
    rfl

/-- What is past its time stays so. -/
theorem isDead_advance {e : StoreEntry} {seconds : Nat} (h : s.isDead e = true) :
    (s.advance seconds).isDead e = true := by
  unfold isDead at h ⊢
  cases hexpires : e.expiresAt with
  | none =>
      rw [hexpires] at h
      cases h
  | some t =>
      rw [hexpires, Option.any_some, decide_eq_true_eq] at h
      rw [Option.any_some, decide_eq_true_eq]
      exact Nat.le_trans h (Nat.le_add_right s.now seconds)

/-- The entry of a key once time has passed. -/
theorem entryAlive?_advance {seconds : Nat} :
    (s.advance seconds).entryAlive? q =
      (s.entryAlive? q).filter fun e => !(s.advance seconds).isDead e := by
  unfold entryAlive?
  show (s.entries.get? q).filter _ = _
  cases s.entries.get? q with
  | none => rfl
  | some e =>
      rw [Option.filter_some, Option.filter_some]
      cases hdead : s.isDead e with
      | true =>
          rw [isDead_advance hdead]
          rfl
      | false =>
          rw [Bool.not_false, if_pos rfl, Option.filter_some]

/-- Looking a key up gives its value. -/
theorem get_fst : (s.get key).1 = s.live? key := by
  unfold get live?
  split
  · rename_i h
    rw [h]
    rfl
  · rename_i e h
    rw [h, Option.filter_some]
    split
    · rename_i hdead
      rw [hdead]
      rfl
    · rename_i hdead
      rw [Bool.not_eq_true] at hdead
      rw [hdead]
      rfl

namespace Same

/-- A store is the same as itself. -/
theorem refl (s : Store) : Same s s :=
  ⟨rfl, fun _ => rfl⟩

theorem symm (h : Same s s') : Same s' s :=
  ⟨h.now.symm, fun key => (h.entries key).symm⟩

theorem trans (h : Same s s') (h' : Same s' s'') : Same s s'' :=
  ⟨h'.now.trans h.now, fun key => (h'.entries key).trans (h.entries key)⟩

/-- The same entries are past their time. -/
theorem isDead (h : Same s s') (e : StoreEntry) : s'.isDead e = s.isDead e := by
  unfold Store.isDead
  rw [h.now]

/-- The same values live. -/
theorem live? (h : Same s s') (key : String) : s'.live? key = s.live? key := by
  rw [live?_eq, live?_eq, h.entries]

/-- Looking a key up drops nothing that lives. -/
theorem of_get (s : Store) (key : String) : Same s (s.get key).2 := by
  unfold Store.get
  split
  · exact refl s
  · rename_i e he
    split
    · rename_i hdead
      -- The entry is past its time and goes, so that none that lives does.
      refine ⟨rfl, fun q => ?_⟩
      show (s.delete key).entryAlive? q = s.entryAlive? q
      rw [entryAlive?_delete]
      split
      · rename_i hq
        rw [← hq, entryAlive?, he, Option.filter_some, hdead]
        rfl
      · rfl
    · exact refl s

theorem get (h : Same s s') (key : String) : Same (s.get key).2 (s'.get key).2 :=
  ((of_get s key).symm.trans h).trans (of_get s' key)

theorem delete (h : Same s s') (key : String) : Same (s.delete key) (s'.delete key) := by
  refine ⟨h.now, fun q => ?_⟩
  rw [entryAlive?_delete, entryAlive?_delete, h.entries]

theorem set (h : Same s s') (key value : String) (ttl : Nat) :
    Same (s.set key value ttl) (s'.set key value ttl) := by
  refine ⟨h.now, fun q => ?_⟩
  rw [entryAlive?_set, entryAlive?_set, h.entries, h.now]
  simp only [h.isDead]

theorem advance (h : Same s s') (seconds : Nat) :
    Same (s.advance seconds) (s'.advance seconds) := by
  have hnow : (s'.advance seconds).now = (s.advance seconds).now :=
    congrArg (· + seconds) h.now
  refine ⟨hnow, fun q => ?_⟩
  rw [entryAlive?_advance, entryAlive?_advance, h.entries]
  unfold Store.isDead
  rw [hnow]

end Same

end Store

/-! ## Controllers -/

/-- Calls fail as they did a number of calls before. -/
def Outage.delayed (k : Nat) (outage : Outage) : Outage :=
  fun calls => outage (calls - k)

/-- An event in which the calls of the store fail as they did a number of calls before. -/
def Event.delayed (k : Nat) : Event → Event
  | .request outage r => .request (outage.delayed k) r
  | .pass seconds => .pass seconds

namespace Controller

variable {settings : Settings} {outage : Outage} {c c' c'' : Controller} {k k' : Nat} {α β : Type}

/-- Two controllers show the same, the second one after a number of further calls of the store. -/
structure Twins (k : Nat) (c c' : Controller) : Prop where
  /-- The records are the same. -/
  inventory : c'.inventory = c.inventory
  /-- The index is the same. -/
  index : c'.index = c.index
  /-- The notices are the same. -/
  notices : c'.notices = c.notices
  /-- The further calls. -/
  calls : c'.calls = c.calls + k
  /-- What lives in the store is the same. -/
  store : c.store.Same c'.store

namespace Twins

/-- A controller shows the same as itself. -/
theorem refl (c : Controller) : Twins 0 c c :=
  ⟨rfl, rfl, rfl, rfl, Store.Same.refl _⟩

theorem trans (h : Twins k c c') (h' : Twins k' c' c'') : Twins (k + k') c c'' := by
  refine ⟨h'.inventory.trans h.inventory, h'.index.trans h.index, h'.notices.trans h.notices, ?_,
    h.store.trans h'.store⟩
  rw [h'.calls, h.calls, Nat.add_assoc]

/-- Peer lists are not seen. -/
theorem of_peerLists (c : Controller) (peerLists : PeerLists) : Twins 0 c { c with peerLists } :=
  ⟨rfl, rfl, rfl, rfl, Store.Same.refl _⟩

/-- Whatever peer lists are kept. -/
theorem withPeerLists (h : Twins k c c') (lists lists' : PeerLists) :
    Twins k { c with peerLists := lists } { c' with peerLists := lists' } :=
  ⟨h.inventory, h.index, h.notices, h.calls, h.store⟩

/-! ## Calls of the store -/

/-- A call that treats stores alike. -/
theorem call (h : Twins k c c') {run : Store → α × Store} (outage : Outage) (kind : StoreCall)
    (key : String)
    (hrun : ∀ s s', s.Same s' → (run s').1 = (run s).1 ∧ (run s).2.Same (run s').2) :
    Matches (Twins k) (c.call outage kind key run) (c'.call (outage.delayed k) kind key run) := by
  -- Both count the call, and the outages are asked about the same one.
  have hcalls : (c.calls + 1) + k = (c.calls + k) + 1 := Nat.add_right_comm _ _ _
  have hfails : outage.delayed k c'.calls kind key = outage c.calls kind key := by
    unfold Outage.delayed
    rw [h.calls, Nat.add_sub_cancel]
  unfold Controller.call
  rw [hfails, h.calls, ← hcalls]
  cases outage c.calls kind key with
  | some reason => exact ⟨rfl, h.inventory, h.index, h.notices, rfl, h.store⟩
  | none =>
      obtain ⟨hanswer, hstore⟩ := hrun c.store c'.store h.store
      exact ⟨congrArg Except.ok hanswer, h.inventory, h.index, h.notices, rfl, hstore⟩

theorem cached (h : Twins k c c') (outage : Outage) (x : DeviceId) :
    Matches (Twins k) (c.cached outage x) (c'.cached (outage.delayed k) x) := by
  refine h.call outage .get _ fun s s' hs => ⟨?_, hs.get _⟩
  rw [Store.get_fst, Store.get_fst, hs.live?]

theorem storeChecksum (h : Twins k c c') (settings : Settings) (outage : Outage) (x : DeviceId)
    (value : String) :
    Matches (Twins k) (c.storeChecksum settings outage x value)
      (c'.storeChecksum settings (outage.delayed k) x value) :=
  h.call outage .set _ fun _ _ hs => ⟨rfl, hs.set _ _ _⟩

theorem invalidate (h : Twins k c c') (outage : Outage) (x : DeviceId) :
    Matches (Twins k) (c.invalidate outage x) (c'.invalidate (outage.delayed k) x) :=
  h.call outage .delete _ fun _ _ hs => ⟨rfl, hs.delete _⟩

theorem getChecksum (h : Twins k c c') (settings : Settings) (outage : Outage) (x : DeviceId) :
    Matches (Twins k) (c.getChecksum settings outage x)
      (c'.getChecksum settings (outage.delayed k) x) := by
  obtain ⟨answer, c₁, c₁', hc, hc', h₁⟩ := (h.cached outage x).parts
  unfold Controller.getChecksum
  rw [hc, hc']
  rcases answer with e | _ | hit
  · exact .of_related h₁ _
  · obtain ⟨answer₁, c₂, c₂', hc₁, hc₁', h₂⟩ := (h₁.cached outage x).parts
    dsimp only
    rw [hc₁, hc₁']
    rcases answer₁ with e | _ | hit
    · exact .of_related h₂ _
    · dsimp only
      unfold render
      rw [h₂.inventory]
      cases c₂.inventory.render settings.fleet x with
      | error e => exact .of_related h₂ _
      | ok text =>
          obtain ⟨answer₂, c₃, c₃', hc₂, hc₂', h₃⟩ :=
            (h₂.storeChecksum settings outage x (checksum text)).parts
          dsimp only
          rw [hc₂, hc₂']
          cases answer₂ <;> exact .of_related h₃ _
    · exact .of_related h₂ _
  · exact .of_related h₁ _

/-! ## Requests and runs -/

/-- Every step shows the same again. -/
theorem simulation (k : Nat) (outage : Outage) :
    Simulation (Twins k) outage (outage.delayed k) where
  inventory h := h.inventory
  devicesFor h on := by rw [h.index]
  dependencies h x := by rw [h.index]
  withInventory h _ := ⟨rfl, h.index, h.notices, h.calls, h.store⟩
  withPeerLists h lists lists' := h.withPeerLists lists lists'
  publishAll h ns := ⟨h.inventory, h.index, congrArg (· ++ ns) h.notices, h.calls, h.store⟩
  record h x d := ⟨h.inventory, congrArg (·.record x d) h.index, h.notices, h.calls, h.store⟩
  remove h x := ⟨h.inventory, congrArg (·.remove x) h.index, h.notices, h.calls, h.store⟩
  invalidate h x := h.invalidate outage x

variable (h : Twins k c c')
include h

/-- After any request both show the same again. -/
theorem perform (r : Request) :
    Twins k (c.perform settings outage r).2 (c'.perform settings (outage.delayed k) r).2 := by
  cases hr : r.readsKept with
  | false => exact ((simulation k outage).perform h hr).related
  | true =>
      -- What is kept may be another peer list for each, and what lives in the store is the same.
      cases r with
      | checksum x => exact (h.getChecksum settings outage x).related
      | cached x => exact (h.cached outage x).related
      | peers s => exact h.withPeerLists _ _
      | renderServer s | serverChecksum s => exact (simulation k outage).renderServer h s
      | _ => cases hr

/-- After any event both show the same again. -/
theorem after (e : Event) : Twins k (c.after settings e) (c'.after settings (e.delayed k)) := by
  cases e with
  | request outage r => exact h.perform r
  | pass seconds =>
      exact ⟨h.inventory, h.index, h.notices, h.calls, h.store.advance seconds⟩

omit h in
/-- After any run both show the same again. -/
theorem run (events : List Event) :
    ∀ {c c' : Controller}, Twins k c c' →
      Twins k (c.run settings events) (c'.run settings (events.map (Event.delayed k))) := by
  induction events with
  | nil => exact fun h => h
  | cons e rest ih => exact fun h => ih (h.after e)

end Twins

end Controller

end Fleet
