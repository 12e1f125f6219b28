/-
# What the last call decides

Two structures are changed by calls about one key at a time, and their bookkeeping is not to be seen
in their answers.  The index of dependencies answers by the last call for each device, whatever was
linked and unlinked on the way.  The store answers by the last time a key was set or removed and by
the clock, whenever it gets round to dropping the entries that are past their time.

Main statements: `DependencyIndex.answers_run`, `Store.get_run`.
-/
import Fleet.Proofs.IndexRecords
import Fleet.Proofs.Twins
import Mathlib.Data.List.Basic
import Mathlib.Data.List.Induction

namespace Fleet

/-- The last item that satisfies a condition, once one more item has come. -/
theorem findRev?_concat {α : Type} (p : α → Bool) (l : List α) (a : α) :
    (l ++ [a]).findRev? p = if p a then some a else l.findRev? p := by
  rw [List.findRev?_eq_find?_reverse, List.findRev?_eq_find?_reverse, List.reverse_concat,
    List.find?_cons]
  cases p a <;> rfl

/-! ## The index of dependencies -/

namespace DependencyIndex

/-- A call that changes the index. -/
inductive Call where
  /-- The dependencies of a device are recorded. -/
  | record (device : DeviceId) (d : Dependencies)
  /-- A device is forgotten. -/
  | remove (device : DeviceId)

namespace Call

/-- The device that a call is about. -/
def device : Call → DeviceId
  | record x _ => x
  | remove x => x

/-- The dependencies that a call leaves recorded. -/
def recorded? : Call → Option Dependencies
  | record _ d => some d
  | remove _ => none

end Call

/-- The index after a call. -/
def after (index : DependencyIndex) : Call → DependencyIndex
  | .record x d => index.record x d
  | .remove x => index.remove x

/-- The index after calls, which was empty before them. -/
def run (calls : List Call) : DependencyIndex :=
  calls.foldl after empty

/-- The last of the calls that are about a device. -/
def lastCall? (calls : List Call) (x : DeviceId) : Option Call :=
  calls.findRev? fun call => decide (call.device = x)

variable {index : DependencyIndex} {calls : List Call} {x : DeviceId}

/-- The index after one more call. -/
theorem run_concat (calls : List Call) (call : Call) :
    run (calls ++ [call]) = (run calls).after call :=
  List.foldl_concat after empty call calls

/-- The last call is about the device. -/
theorem device_of_lastCall? {call : Call} (h : lastCall? calls x = some call) :
    call.device = x := by
  unfold lastCall? at h
  rw [List.findRev?_eq_find?_reverse] at h
  have hdevice := List.find?_some h
  exact of_decide_eq_true hdevice

/-- A call about the device is the last one. -/
theorem lastCall?_concat (calls : List Call) (call : Call) (x : DeviceId) :
    lastCall? (calls ++ [call]) x = if call.device = x then some call else lastCall? calls x := by
  unfold lastCall?
  rw [findRev?_concat]
  simp only [decide_eq_true_eq]

/-- A call keeps the index answering by what is recorded. -/
theorem Faithful.after (h : index.Faithful) (call : Call) : (index.after call).Faithful := by
  cases call with
  | record x d => exact h.record x d
  | remove x => exact h.remove x

/-- After any calls the index answers by what is recorded. -/
theorem faithful_run (calls : List Call) : (run calls).Faithful := by
  induction calls using List.reverseRecOn with
  | nil => exact faithful_empty
  | append_singleton calls call ih =>
      rw [run_concat]
      exact ih.after call

/-- What is recorded for a device after a call. -/
theorem dependencies_after (index : DependencyIndex) (call : Call) (x : DeviceId) :
    (index.after call).dependencies x =
      if call.device = x then call.recorded? else index.dependencies x := by
  cases call with
  | record y d => exact dependencies_record index y x d
  | remove y => exact dependencies_remove index y x

/-- What is recorded for a device is what the last call for it left. -/
theorem dependencies_run (calls : List Call) (x : DeviceId) :
    (run calls).dependencies x = (lastCall? calls x).bind Call.recorded? := by
  induction calls using List.reverseRecOn with
  | nil => rfl
  | append_singleton calls call ih =>
      rw [run_concat, dependencies_after, ih, lastCall?_concat]
      split <;> rfl

/-- After any calls the devices of an entity are listed in strictly ascending order, and they are
exactly those whose last call recorded dependencies that name the entity; and what is recorded for a
device is what its last call recorded, if that did not forget it. -/
theorem answers_run (calls : List Call) :
    (∀ on : Dependency,
      ((run calls).devicesFor on).Pairwise (fun x y => x.text < y.text) ∧
        ∀ x, x ∈ (run calls).devicesFor on ↔
          ∃ d, lastCall? calls x = some (.record x d) ∧ d.names on = true) ∧
      ∀ x, (run calls).dependencies x = (lastCall? calls x).bind Call.recorded? := by
  refine ⟨fun on => ⟨sorted_devicesFor _ on, fun x => ?_⟩, dependencies_run calls⟩
  -- Something is recorded for a device exactly when its last call recorded that.
  have hlast : ∀ d, (run calls).dependencies x = some d ↔
      lastCall? calls x = some (.record x d) := by
    intro d
    rw [dependencies_run, Option.bind_eq_some_iff]
    constructor
    · rintro ⟨call, hcall, hd⟩
      have hdevice := device_of_lastCall? hcall
      cases call with
      | record y e =>
          obtain rfl : y = x := hdevice
          obtain rfl : e = d := Option.some.inj hd
          exact hcall
      | remove y => cases hd
    · intro h
      exact ⟨_, h, rfl⟩
  rw [faithful_run calls on x]
  exact exists_congr fun d => and_congr (hlast d) Iff.rfl

/-- A device is recorded twice, with templates that occur repeatedly and of which one is kept;
another one that shares a template with it is forgotten. -/
example :
    let calls : List Call := [
      .record ⟨"b"⟩ ⟨[⟨"t"⟩, ⟨"u"⟩, ⟨"t"⟩], [], ⟨"o"⟩, none⟩,
      .record ⟨"c"⟩ ⟨[⟨"u"⟩], [], ⟨"o"⟩, none⟩,
      .record ⟨"a"⟩ ⟨[⟨"u"⟩], [], ⟨"o"⟩, none⟩,
      .record ⟨"b"⟩ ⟨[⟨"u"⟩, ⟨"u"⟩], [], ⟨"p"⟩, none⟩,
      .remove ⟨"c"⟩]
    (run calls).devicesFor (.template ⟨"t"⟩) = [] ∧
      (run calls).devicesFor (.template ⟨"u"⟩) = [⟨"a"⟩, ⟨"b"⟩] ∧
      (run calls).devicesFor (.organization ⟨"o"⟩) = [⟨"a"⟩] := by
  decide +kernel

end DependencyIndex

/-! ## The store -/

namespace Store

/-- What happens to a store. -/
inductive Action where
  /-- A key is set to a value for a number of seconds. -/
  | set (key value : String) (ttl : Nat)
  /-- A key is looked up. -/
  | get (key : String)
  /-- A key is removed. -/
  | delete (key : String)
  /-- The clock moves forward. -/
  | advance (seconds : Nat)

namespace Action

/-- The time that an action takes. -/
def seconds : Action → Nat
  | advance seconds => seconds
  | _ => 0

/-- Whether an action sets or removes a key. -/
def writes (key : String) : Action → Bool
  | set k _ _ | delete k => k == key
  | get _ | advance _ => false

end Action

/-- The store after an action. -/
def after (s : Store) : Action → Store
  | .set key value ttl => s.set key value ttl
  | .get key => (s.get key).2
  | .delete key => s.delete key
  | .advance seconds => s.advance seconds

/-- The store after actions. -/
def run (s : Store) (actions : List Action) : Store :=
  actions.foldl after s

/-- The time that actions take. -/
def elapsed : List Action → Nat
  | [] => 0
  | a :: rest => a.seconds + elapsed rest

/-- Actions with the times at which they happen. -/
def dated (start : Nat) : List Action → List (Nat × Action)
  | [] => []
  | a :: rest => (start, a) :: dated (start + a.seconds) rest

/-- The last action that sets or removes a key, and its time. -/
def lastWrite? (start : Nat) (actions : List Action) (key : String) : Option (Nat × Action) :=
  (dated start actions).findRev? fun e => e.2.writes key

/-- Nothing happens to a store but that some of its entries that are past their time are dropped. -/
structure Sheds (s s' : Store) : Prop where
  /-- The time is the same. -/
  now : s'.now = s.now
  /-- Every entry is kept, or it is past its time and dropped. -/
  entries : ∀ key, s'.entries.get? key = s.entries.get? key ∨
    (s'.entries.get? key = none ∧ ∀ e, s.entries.get? key = some e → s.isDead e = true)

/-- Actions lead from a store to another one, while entries that are past their time are dropped
at any moment. -/
inductive Leads : Store → List Action → Store → Prop
  /-- No action is left. -/
  | done (s : Store) : Leads s [] s
  /-- Entries are dropped. -/
  | shed {s s' s'' : Store} {actions : List Action} (h : s.Sheds s') (rest : Leads s' actions s'') :
      Leads s actions s''
  /-- The next action happens. -/
  | act {s s' : Store} (a : Action) {actions : List Action} (rest : Leads (s.after a) actions s') :
      Leads s (a :: actions) s'

variable {s s' t : Store} {start : Nat} {actions : List Action} {key q v : String}

/-! ### The clock -/

/-- The store after one more action. -/
theorem run_concat (s : Store) (actions : List Action) (a : Action) :
    s.run (actions ++ [a]) = (s.run actions).after a :=
  List.foldl_concat Store.after s a actions

/-- The time that actions take with one more. -/
theorem elapsed_concat (actions : List Action) (a : Action) :
    elapsed (actions ++ [a]) = elapsed actions + a.seconds := by
  induction actions with
  | nil => exact Nat.add_comm a.seconds 0
  | cons b rest ih => rw [List.cons_append, elapsed, ih, elapsed, Nat.add_assoc]

/-- One more action happens when the others are over. -/
theorem dated_concat (start : Nat) (actions : List Action) (a : Action) :
    dated start (actions ++ [a]) = dated start actions ++ [(start + elapsed actions, a)] := by
  induction actions generalizing start with
  | nil => rfl
  | cons b rest ih =>
      rw [List.cons_append, dated, ih, dated, List.cons_append, elapsed, Nat.add_assoc]

/-- An action that sets or removes the key is the last one to do so. -/
theorem lastWrite?_concat (start : Nat) (actions : List Action) (a : Action) (key : String) :
    lastWrite? start (actions ++ [a]) key =
      if a.writes key then some (start + elapsed actions, a) else lastWrite? start actions key := by
  unfold lastWrite?
  rw [dated_concat, findRev?_concat]

/-- The last action that sets or removes a key does so. -/
theorem writes_of_lastWrite? {time : Nat} {a : Action}
    (h : lastWrite? start actions key = some (time, a)) : a.writes key = true := by
  unfold lastWrite? at h
  rw [List.findRev?_eq_find?_reverse] at h
  have hwrites := List.find?_some h
  exact hwrites

/-- An action takes its time. -/
theorem now_after (s : Store) (a : Action) : (s.after a).now = s.now + a.seconds := by
  cases a with
  | get key => exact (Same.of_get s key).now
  | set | delete | advance => rfl

/-- The time once actions are over. -/
theorem now_run (start : Nat) (actions : List Action) :
    ((emptyAt start).run actions).now = start + elapsed actions := by
  induction actions using List.reverseRecOn with
  | nil => rfl
  | append_singleton actions a ih =>
      rw [run_concat, now_after, ih, elapsed_concat, Nat.add_assoc]

/-! ### Entries -/

/-- The entry that is made when a value is set at a time for a number of seconds. -/
def entryFor (value : String) (time ttl : Nat) : StoreEntry :=
  ⟨value, if time + ttl ≤ lastSecond then some (time + ttl) else none⟩

/-- The entry that an action makes at a time. -/
def entryMade? : Nat × Action → Option StoreEntry
  | (time, .set _ value ttl) => some (entryFor value time ttl)
  | _ => none

/-- An entry lives until its time is over, and for ever if that is beyond the clock. -/
theorem isDead_entryFor (s : Store) (value : String) (time ttl : Nat) :
    s.isDead (entryFor value time ttl) = false ↔ s.now < time + ttl ∨ lastSecond < time + ttl := by
  unfold isDead entryFor
  dsimp only
  split
  · rename_i hends
    rw [Option.any_some, decide_eq_false_iff_not]
    omega
  · rename_i hends
    exact iff_of_true rfl (Or.inr (Nat.lt_of_not_le hends))

/-- What is not past its time later need not be asked whether it is past it now. -/
theorem filter_isDead_advance (s : Store) (seconds : Nat) (made : Option StoreEntry) :
    ((made.filter fun e => !s.isDead e).filter fun e => !(s.advance seconds).isDead e) =
      made.filter fun e => !(s.advance seconds).isDead e := by
  cases made with
  | none => rfl
  | some e =>
      cases hdead : s.isDead e with
      | true =>
          have hstays : (s.advance seconds).isDead e = true := isDead_advance hdead
          rw [Option.filter_some, Option.filter_some, hdead, hstays]
          rfl
      | false =>
          rw [Option.filter_some, hdead]
          rfl

/-- The entries that live are those that were made last and are not past their time. -/
theorem entryAlive?_run (start : Nat) (actions : List Action) (key : String) :
    ((emptyAt start).run actions).entryAlive? key =
      ((lastWrite? start actions key).bind entryMade?).filter fun e =>
        !((emptyAt start).run actions).isDead e := by
  induction actions using List.reverseRecOn with
  | nil => rfl
  | append_singleton actions a ih =>
      rw [run_concat, lastWrite?_concat]
      cases a with
      | set k value ttl =>
          show ((Store.run _ actions).set k value ttl).entryAlive? key = _
          rw [entryAlive?_set, now_run]
          by_cases hk : k = key
          · have hwrites : (Action.set k value ttl).writes key = true := beq_iff_eq.mpr hk
            rw [if_pos hk, if_pos hwrites]
            rfl
          · have hwrites : ¬ (Action.set k value ttl).writes key = true :=
              fun h => hk (beq_iff_eq.mp h)
            rw [if_neg hk, if_neg hwrites]
            exact ih
      | get k =>
          have hsame : (Store.run (emptyAt start) actions).Same (Store.after _ (.get k)) :=
            Same.of_get _ k
          rw [hsame.entries, ih]
          simp only [hsame.isDead]
          rfl
      | delete k =>
          show ((Store.run _ actions).delete k).entryAlive? key = _
          rw [entryAlive?_delete]
          by_cases hk : k = key
          · have hwrites : (Action.delete k).writes key = true := beq_iff_eq.mpr hk
            rw [if_pos hk, if_pos hwrites]
            rfl
          · have hwrites : ¬ (Action.delete k).writes key = true := fun h => hk (beq_iff_eq.mp h)
            rw [if_neg hk, if_neg hwrites]
            exact ih
      | advance seconds =>
          show ((Store.run _ actions).advance seconds).entryAlive? key = _
          rw [entryAlive?_advance, ih, filter_isDead_advance]
          rfl

/-- What is looked up is the value that was set last, until its time is over; it is never over if it
lies beyond the clock. -/
theorem live?_run_eq_some : ((emptyAt start).run actions).live? key = some v ↔
    ∃ time ttl, lastWrite? start actions key = some (time, .set key v ttl) ∧
      (start + elapsed actions < time + ttl ∨ lastSecond < time + ttl) := by
  rw [live?_eq, entryAlive?_run]
  cases hlast : lastWrite? start actions key with
  | none => simp
  | some write =>
      obtain ⟨time, a⟩ := write
      have hwrites := writes_of_lastWrite? hlast
      cases a with
      | set k value ttl =>
          obtain rfl : k = key := beq_iff_eq.mp hwrites
          have hlives := isDead_entryFor ((emptyAt start).run actions) value time ttl
          rw [now_run] at hlives
          show ((some (entryFor value time ttl)).filter _).map StoreEntry.value = some v ↔ _
          rw [Option.filter_some]
          cases hdead : ((emptyAt start).run actions).isDead (entryFor value time ttl) with
          | true =>
              rw [hdead] at hlives
              simp only [Bool.not_true, Bool.false_eq_true, if_false, Option.map_none, reduceCtorEq,
                false_iff]
              rintro ⟨time', ttl', hset, hlasts⟩
              cases hset
              exact Bool.noConfusion (hlives.mpr hlasts)
          | false =>
              have hlasts := hlives.mp hdead
              simp only [Bool.not_false, if_true, Option.map_some, Option.some.injEq, Prod.mk.injEq,
                Action.set.injEq, true_and]
              constructor
              · rintro rfl
                exact ⟨time, ttl, ⟨rfl, rfl, rfl⟩, hlasts⟩
              · rintro ⟨time', ttl', ⟨_, hvalue, _⟩, _⟩
                exact hvalue
      | delete k => simp [entryMade?]
      | get k => cases hwrites
      | advance seconds => cases hwrites

/-! ### Entries that are dropped -/

/-- Dropping entries that are past their time leaves what lives. -/
theorem Sheds.same (h : s.Sheds s') : s.Same s' := by
  refine ⟨h.now, fun key => ?_⟩
  have hdead : s'.isDead = s.isDead := by
    unfold isDead
    rw [h.now]
  unfold entryAlive?
  rw [hdead]
  rcases h.entries key with heq | ⟨hnone, hold⟩
  · rw [heq]
  · rw [hnone]
    cases he : s.entries.get? key with
    | none => rfl
    | some e =>
        rw [Option.filter_some, hold e he]
        rfl

/-- A lookup drops at most an entry that is past its time. -/
theorem sheds_get (s : Store) (key : String) : s.Sheds (s.get key).2 := by
  refine ⟨(Same.of_get s key).now, fun q => ?_⟩
  unfold get
  split
  · exact Or.inl rfl
  · rename_i e he
    split
    · rename_i hdead
      by_cases hq : key = q
      · subst hq
        refine Or.inr ⟨SortedMap.get?_erase_self _ _, fun e' he' => ?_⟩
        rw [he] at he'
        rw [← Option.some.inj he', hdead]
      · exact Or.inl (SortedMap.get?_erase_ne hq _)
    · exact Or.inl rfl

/-- An action leaves the same living where the same lived. -/
theorem Same.after (h : s.Same t) (a : Action) : (s.after a).Same (t.after a) := by
  cases a with
  | set key value ttl => exact h.set key value ttl
  | get key => exact h.get key
  | delete key => exact h.delete key
  | advance seconds => exact h.advance seconds

/-- Whenever entries are dropped, the same lives as if none ever was. -/
theorem Leads.same (h : Leads s actions s') :
    ∀ {t : Store}, t.Same s → (t.run actions).Same s' := by
  induction h with
  | done s => exact fun ht => ht
  | shed hshed _ ih => exact fun ht => ih (ht.trans hshed.same)
  | act a _ ih => exact fun ht => ih (ht.after a)

/-- A key has the value that it was last set to, if it was not removed since, as long as the time it
was set for is not over, and for ever if that time ends beyond the clock; otherwise it has none.  It
is the same whenever entries that are past their time are dropped. -/
theorem get_run (start : Nat) (actions : List Action) (key : String) :
    (∀ v, (((emptyAt start).run actions).get key).1 = some v ↔
      ∃ time ttl, lastWrite? start actions key = some (time, .set key v ttl) ∧
        (start + elapsed actions < time + ttl ∨ lastSecond < time + ttl)) ∧
      ∀ s, Leads (emptyAt start) actions s →
        (s.get key).1 = (((emptyAt start).run actions).get key).1 := by
  refine ⟨fun v => ?_, fun s h => ?_⟩
  · rw [get_fst]
    exact live?_run_eq_some
  · rw [get_fst, get_fst]
    exact (h.same (Same.refl _)).live? key

/-- Two keys are set; once both are past their time one is set again, for longer than
the clock goes. -/
def expirySample : List Action := [
  .set "k" "first" 10, .set "j" "other" 5, .advance 10, .set "k" "second" lastSecond, .advance 100]

/-- The second value is found for good.  The other key has none, and its entry may have been dropped
before it was ever looked up. -/
theorem get_run_sample :
    (((emptyAt 1000).run expirySample).get "k").1 = some "second" ∧
      ∃ s, Leads (emptyAt 1000) expirySample s ∧ s.entries.get? "j" = none ∧
        ((emptyAt 1000).run expirySample).entries.get? "j" ≠ none ∧
          (s.get "j").1 = (((emptyAt 1000).run expirySample).get "j").1 := by
  refine ⟨((get_run 1000 expirySample "k").1 "second").mpr
    ⟨1010, lastSecond, rfl, Or.inr (by decide)⟩, ?_⟩
  -- The entry is dropped as soon as its time is over.
  have hleads : Leads (emptyAt 1000) expirySample
      (((((emptyAt 1000).run (expirySample.take 3)).get "j").2).run (expirySample.drop 3)) :=
    .act _ (.act _ (.act _ (.shed (sheds_get _ "j") (.act _ (.act _ (.done _))))))
  exact ⟨_, hleads, by decide, by decide, (get_run 1000 expirySample "j").2 _ hleads⟩

end Store

end Fleet
