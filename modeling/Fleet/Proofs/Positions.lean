/-
# Positions in documents

A position leads into a document by the names of members and the indices of items.  A change of a
document is described by the positions that it edits: what is not inside of one of them keeps its
kind, and what does not lie around one either keeps its value.

Main statements: `Json.AgreeOutside.trans`, `Json.agreeOutside_step`, `Json.AgreeOutside.under`.
-/
import Fleet.Json.Basic

namespace Fleet.Json

/-! ## Positions -/

/-- A step into a document. -/
inductive Step where
  /-- To the member of an object. -/
  | member (name : String)
  /-- To the item of a list. -/
  | item (index : Nat)
  deriving DecidableEq

/-- What a step leads to. -/
def Step.into? : Step → Json → Option Json
  | member name, j => j.field? name
  | item index, j => j.items?.bind fun items => items[index]?

/-- What is found at a position. -/
def locate? : List Step → Json → Option Json
  | [], j => some j
  | s :: position, j => (s.into? j).bind (locate? position)

/-- A step leads to what its position leads to. -/
theorem locate?_singleton (s : Step) (j : Json) : j.locate? [s] = s.into? j :=
  Option.bind_fun_some (s.into? j)

/-- The kinds of values. -/
inductive Kind where
  | null
  | bool
  | number
  | string
  | array
  | object
  deriving DecidableEq

/-- The kind of a value. -/
def kind : Json → Kind
  | null => .null
  | bool _ => .bool
  | number _ => .number
  | string _ => .string
  | array _ => .array
  | object _ => .object

/-- Two documents agree outside of the positions that are edited. -/
structure AgreeOutside (edited : List Step → Prop) (a b : Json) : Prop where
  /-- What is not inside of an edited position has the same kind in both. -/
  kinds : ∀ position, (∀ p, edited p → ¬ p <+: position) →
    (a.locate? position).map kind = (b.locate? position).map kind
  /-- What lies neither inside of an edited position nor around one is the same in both. -/
  values : ∀ position, (∀ p, edited p → ¬ p <+: position ∧ ¬ position <+: p) →
    a.locate? position = b.locate? position

variable {a b c v w : Json} {s : Step} {name : String} {members : List (String × Json)}
  {edited edited' : List Step → Prop}

/-! ## Agreement -/

namespace AgreeOutside

/-- A document agrees with itself. -/
theorem refl (edited : List Step → Prop) (a : Json) : AgreeOutside edited a a :=
  ⟨fun _ _ => rfl, fun _ _ => rfl⟩

/-- Documents agree outside of more positions if they agree outside of fewer. -/
theorem mono (h : AgreeOutside edited a b) (hmore : ∀ p, edited p → edited' p) :
    AgreeOutside edited' a b :=
  ⟨fun position hposition => h.kinds position fun p hp => hposition p (hmore p hp),
    fun position hposition => h.values position fun p hp => hposition p (hmore p hp)⟩

/-- Two changes leave what neither of them edits. -/
theorem trans (h : AgreeOutside edited a b) (h' : AgreeOutside edited b c) :
    AgreeOutside edited a c :=
  ⟨fun position hposition => (h.kinds position hposition).trans (h'.kinds position hposition),
    fun position hposition => (h.values position hposition).trans (h'.values position hposition)⟩

/-- A position that begins with another step than all that is edited leads to the same in both. -/
theorem locate?_of_ne (h : AgreeOutside edited a b) {s : Step}
    (hedited : ∀ p, edited p → ∃ s' rest', p = s' :: rest' ∧ s' ≠ s) (rest : List Step) :
    a.locate? (s :: rest) = b.locate? (s :: rest) := by
  refine h.values (s :: rest) fun p hp => ?_
  obtain ⟨s', rest', rfl, hne⟩ := hedited p hp
  exact ⟨fun hprefix => hne (List.cons_prefix_cons.mp hprefix).1,
    fun hprefix => hne (List.cons_prefix_cons.mp hprefix).1.symm⟩

/-- A member that is not edited is the same in both. -/
theorem field?_of_ne (h : AgreeOutside edited a b)
    (hedited : ∀ p, edited p → ∃ s rest, p = s :: rest ∧ s ≠ .member name) :
    a.field? name = b.field? name := by
  have hlocate := h.locate?_of_ne hedited []
  rw [locate?_singleton, locate?_singleton] at hlocate
  exact hlocate

/-- A change inside of what a step leads to. -/
theorem under (h : AgreeOutside edited v w) (hedited : ∃ p, edited p) (ha : s.into? a = some v)
    (hb : s.into? b = some w) (hkind : a.kind = b.kind)
    (hothers : ∀ s', s' ≠ s → s'.into? a = s'.into? b) :
    AgreeOutside (fun p => ∃ q, edited q ∧ p = s :: q) a b := by
  obtain ⟨q, hq⟩ := hedited
  refine ⟨fun position hposition => ?_, fun position hposition => ?_⟩
  · cases position with
    | nil => exact congrArg some hkind
    | cons s' rest =>
        rw [locate?, locate?]
        by_cases hs : s' = s
        · subst hs
          rw [ha, hb]
          exact h.kinds rest fun p hp hprefix =>
            hposition (s' :: p) ⟨p, hp, rfl⟩ ((List.prefix_cons_inj s').mpr hprefix)
        · rw [hothers s' hs]
  · cases position with
    | nil => exact absurd List.nil_prefix (hposition (s :: q) ⟨q, hq, rfl⟩).2
    | cons s' rest =>
        rw [locate?, locate?]
        by_cases hs : s' = s
        · subst hs
          rw [ha, hb]
          refine h.values rest fun p hp => ?_
          obtain ⟨hinside, haround⟩ := hposition (s' :: p) ⟨p, hp, rfl⟩
          exact ⟨fun hprefix => hinside ((List.prefix_cons_inj s').mpr hprefix),
            fun hprefix => haround ((List.prefix_cons_inj s').mpr hprefix)⟩
        · rw [hothers s' hs]

end AgreeOutside

/-- A change of what a step leads to. -/
theorem agreeOutside_step (hkind : a.kind = b.kind)
    (hothers : ∀ s', s' ≠ s → s'.into? a = s'.into? b) : AgreeOutside (· = [s]) a b := by
  have hrest : ∀ s' rest, ¬ [s] <+: s' :: rest →
      a.locate? (s' :: rest) = b.locate? (s' :: rest) := by
    intro s' rest hno
    have hs : s' ≠ s := fun heq => hno (heq ▸ (List.prefix_cons_inj s').mpr List.nil_prefix)
    rw [locate?, locate?, hothers s' hs]
  refine ⟨fun position hposition => ?_, fun position hposition => ?_⟩
  · cases position with
    | nil => exact congrArg some hkind
    | cons s' rest => rw [hrest s' rest (hposition [s] rfl)]
  · cases position with
    | nil => exact absurd List.nil_prefix (hposition [s] rfl).2
    | cons s' rest => exact hrest s' rest (hposition [s] rfl).1

/-! ## Members and items -/

/-- Inserting a member leaves the other steps. -/
theorem into?_insert_of_ne (v : Json) (hs : s ≠ .member name) :
    s.into? (object members) = s.into? (object (Assoc.insert name v members)) := by
  cases s with
  | member other =>
      have hname : name ≠ other := fun heq => hs (heq ▸ rfl)
      exact (Assoc.find?_insert_ne hname v members).symm
  | item index => rfl

/-- Inserting a member edits its position. -/
theorem agreeOutside_insert (name : String) (v : Json) (members : List (String × Json)) :
    AgreeOutside (· = [.member name]) (object members) (object (Assoc.insert name v members)) :=
  agreeOutside_step rfl fun _ hs => into?_insert_of_ne v hs

/-- A change inside of a member. -/
theorem AgreeOutside.member (h : AgreeOutside edited v w) (hedited : ∃ p, edited p)
    (hmember : Assoc.find? name members = some v) :
    AgreeOutside (fun p => ∃ q, edited q ∧ p = .member name :: q) (object members)
      (object (Assoc.insert name w members)) :=
  h.under hedited hmember (Assoc.find?_insert_self name w members) rfl
    fun _ hs => into?_insert_of_ne w hs

/-- A change inside of the first item. -/
theorem AgreeOutside.firstItem (h : AgreeOutside edited v w) (hedited : ∃ p, edited p)
    (rest : List Json) :
    AgreeOutside (fun p => ∃ q, edited q ∧ p = .item 0 :: q) (array (v :: rest))
      (array (w :: rest)) := by
  refine h.under hedited rfl rfl rfl ?_
  intro s hs
  cases s with
  | member name => rfl
  | item index =>
      cases index with
      | zero => exact absurd rfl hs
      | succ index => rfl

end Fleet.Json
