/-
# Sorting by insertion

A list is sorted by placing its items one after the other; items that the order does not tell apart
keep their positions.

Main statements: `Ordered.sortBy_perm`, `Ordered.mem_sortBy`.
-/
namespace Fleet.Ordered

variable {α : Type}

/-- Puts an item before the first one that it may precede. -/
def place (before : α → α → Bool) (a : α) : List α → List α
  | [] => [a]
  | b :: rest => if before a b then a :: b :: rest else b :: place before a rest

/-- Sorts a list. -/
def sortBy (before : α → α → Bool) : List α → List α
  | [] => []
  | a :: rest => place before a (sortBy before rest)

/-- Placing an item adds it and nothing else. -/
theorem place_perm (before : α → α → Bool) (a : α) (l : List α) :
    (place before a l).Perm (a :: l) := by
  induction l with
  | nil => exact .refl _
  | cons b rest ih =>
    simp only [place]
    split
    · exact .refl _
    · exact (ih.cons b).trans (.swap a b rest)

/-- Sorting keeps the items. -/
theorem sortBy_perm (before : α → α → Bool) (l : List α) : (sortBy before l).Perm l := by
  induction l with
  | nil => exact .refl _
  | cons a rest ih => exact (place_perm before a _).trans (ih.cons a)

/-- The sorted list has the members of the list. -/
theorem mem_sortBy {before : α → α → Bool} {l : List α} {a : α} :
    a ∈ sortBy before l ↔ a ∈ l :=
  (sortBy_perm before l).mem_iff

end Fleet.Ordered
