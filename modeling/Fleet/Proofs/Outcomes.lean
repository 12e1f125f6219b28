/-
# Computations that may fail

What must have happened for a computation that may fail to succeed: each of its parts
succeeded.  And where one fails, a part failed, so that a property of all failures is one of
the failures of parts.
-/
import Fleet.Error

namespace Fleet.Outcomes

variable {ε α β γ : Type}

/-- Two steps succeed when the second succeeds on what the first gives. -/
@[simp] theorem bind_eq_ok {x : Except ε α} {f : α → Except ε β} {b : β} :
    x >>= f = .ok b ↔ ∃ a, x = .ok a ∧ f a = .ok b := by
  cases x with
  | error e => simp [bind, Except.bind]
  | ok a => simp [bind, Except.bind]

/-- A step with an answer that does not matter. -/
@[simp] theorem seq_eq_ok {x : Except ε Unit} {y : Except ε β} {b : β} :
    (do x; y) = .ok b ↔ x = .ok () ∧ y = .ok b := by
  rw [bind_eq_ok]
  constructor
  · rintro ⟨⟨⟩, hx, hy⟩
    exact ⟨hx, hy⟩
  · rintro ⟨hx, hy⟩
    exact ⟨(), hx, hy⟩

/-- Giving an answer succeeds with that answer. -/
@[simp] theorem pure_eq_ok {a b : α} : (pure a : Except ε α) = .ok b ↔ a = b := by
  show (Except.ok a : Except ε α) = .ok b ↔ a = b
  rw [Except.ok.injEq]

/-- A changed answer comes from an answer. -/
@[simp] theorem map_eq_ok {x : Except ε α} {f : α → β} {b : β} :
    x.map f = .ok b ↔ ∃ a, x = .ok a ∧ f a = b := by
  cases x with
  | error e => simp [Except.map]
  | ok a => simp [Except.map]

/-- A choice that succeeds on the second branch only. -/
theorem ite_error_eq_ok {p : Prop} [Decidable p] {e : ε} {x : Except ε β} {b : β} :
    (if p then .error e else x) = .ok b ↔ ¬ p ∧ x = .ok b := by
  split <;> simp [*]

/-- The answers of a successful computation over a list are those of its items. -/
theorem mem_of_mapM {f : α → Except ε β} {l : List α} {bs : List β} (h : l.mapM f = .ok bs)
    {b : β} : b ∈ bs ↔ ∃ a ∈ l, f a = .ok b := by
  induction l generalizing bs with
  | nil =>
      rw [List.mapM_nil, pure_eq_ok] at h
      subst h
      simp
  | cons a rest ih =>
      rw [List.mapM_cons, bind_eq_ok] at h
      obtain ⟨x, hx, h⟩ := h
      rw [bind_eq_ok] at h
      obtain ⟨xs, hxs, h⟩ := h
      rw [pure_eq_ok] at h
      subst h
      rw [List.mem_cons, ih hxs]
      constructor
      · rintro (rfl | ⟨y, hy, hyb⟩)
        · exact ⟨a, List.mem_cons_self, hx⟩
        · exact ⟨y, List.mem_cons_of_mem a hy, hyb⟩
      · rintro ⟨y, hy, hyb⟩
        rcases List.mem_cons.mp hy with rfl | hy
        · rw [hx, Except.ok.injEq] at hyb
          exact Or.inl hyb.symm
        · exact Or.inr ⟨y, hy, hyb⟩

/-- Every item of a list succeeds if the computation over the list does. -/
theorem ok_of_mapM {f : α → Except ε β} {l : List α} {bs : List β} (h : l.mapM f = .ok bs) {a : α}
    (ha : a ∈ l) : ∃ b ∈ bs, f a = .ok b := by
  induction l generalizing bs with
  | nil => cases ha
  | cons x rest ih =>
      rw [List.mapM_cons, bind_eq_ok] at h
      obtain ⟨y, hy, h⟩ := h
      rw [bind_eq_ok] at h
      obtain ⟨ys, hys, h⟩ := h
      rw [pure_eq_ok] at h
      subst h
      rcases List.mem_cons.mp ha with rfl | ha
      · exact ⟨y, List.mem_cons_self, hy⟩
      · obtain ⟨b, hb, hab⟩ := ih hys ha
        exact ⟨b, List.mem_cons_of_mem y hb, hab⟩

/-- A view of what a computation over a list gives is a computation of views. -/
theorem map_mapM (f : α → Except ε β) (p : β → γ) (l : List α) :
    (l.mapM f).map (List.map p) = l.mapM fun a => (f a).map p := by
  induction l with
  | nil => rfl
  | cons a rest ih =>
      rw [List.mapM_cons, List.mapM_cons, ← ih]
      cases f a with
      | error e => rfl
      | ok b => cases rest.mapM f <;> rfl

/-- Computations over a list give what looks the same where they do for each item. -/
theorem mapM_map_congr {f g : α → Except ε β} {p : β → γ} {l : List α}
    (h : ∀ a ∈ l, (f a).map p = (g a).map p) :
    (l.mapM f).map (List.map p) = (l.mapM g).map (List.map p) := by
  rw [map_mapM, map_mapM]
  induction l with
  | nil => rfl
  | cons a rest ih =>
      rw [List.mapM_cons, List.mapM_cons, h a List.mem_cons_self,
        ih fun b hb => h b (List.mem_cons_of_mem a hb)]

/-- A computation over a list succeeds if it does for each item. -/
theorem exists_mapM_eq_ok {f : α → Except ε β} {l : List α} (h : ∀ a ∈ l, ∃ b, f a = .ok b) :
    ∃ bs, l.mapM f = .ok bs := by
  induction l with
  | nil => exact ⟨[], rfl⟩
  | cons a rest ih =>
      obtain ⟨b, hb⟩ := h a List.mem_cons_self
      obtain ⟨bs, hbs⟩ := ih fun x hx => h x (List.mem_cons_of_mem a hx)
      refine ⟨b :: bs, ?_⟩
      rw [List.mapM_cons, hb, hbs]
      rfl

/-! ## Checks one after the other -/

/-- A changed answer fails as the answer does. -/
theorem map_eq_error {x : Except ε α} {f : α → β} {e : ε} : x.map f = .error e ↔ x = .error e := by
  cases x with
  | error e' => simp [Except.map]
  | ok a => simp [Except.map]

/-- Two steps fail when the first does, or when the second does after it. -/
theorem seq_eq_error {x : Except ε Unit} {y : Except ε β} {e : ε} :
    (do x; y) = .error e ↔ x = .error e ∨ x = .ok () ∧ y = .error e := by
  cases x with
  | error e' => simp [bind, Except.bind]
  | ok => simp [bind, Except.bind]

/-- The first check comes before the others. -/
theorem forM_cons (f : α → Except ε Unit) (a : α) (rest : List α) :
    (a :: rest).forM f = (f a).bind fun _ => rest.forM f := rfl

/-- Checks pass exactly if each of them does. -/
theorem forM_eq_ok_iff {f : α → Except ε Unit} {l : List α} :
    l.forM f = .ok () ↔ ∀ a ∈ l, f a = .ok () := by
  induction l with
  | nil => exact iff_of_true rfl (List.forall_mem_nil _)
  | cons a rest ih =>
      rw [forM_cons, List.forall_mem_cons, ← ih]
      cases hfirst : f a with
      | ok => exact (and_iff_right rfl).symm
      | error e => exact iff_of_false nofun fun h => nomatch h.1

/-- Checks fail exactly as the first of them that fails. -/
theorem forM_eq_error_iff {f : α → Except ε Unit} {l : List α} {e : ε} :
    l.forM f = .error e ↔
      ∃ earlier a later,
        l = earlier ++ a :: later ∧ (∀ b ∈ earlier, f b = .ok ()) ∧ f a = .error e := by
  induction l with
  | nil =>
      refine iff_of_false nofun ?_
      rintro ⟨earlier, a, later, h, _⟩
      cases earlier <;> cases h
  | cons first rest ih =>
      rw [forM_cons]
      cases hfirst : f first with
      | ok =>
          refine ih.trans ⟨?_, ?_⟩
          · rintro ⟨earlier, a, later, rfl, hearlier, ha⟩
            exact ⟨first :: earlier, a, later, rfl, List.forall_mem_cons.mpr ⟨hfirst, hearlier⟩, ha⟩
          · rintro ⟨earlier, a, later, h, hearlier, ha⟩
            cases earlier with
            | nil =>
                cases h
                cases hfirst.symm.trans ha
            | cons b earlier =>
                cases h
                exact ⟨earlier, a, later, rfl, (List.forall_mem_cons.mp hearlier).2, ha⟩
      | error e' =>
          constructor
          · intro h
            cases h
            exact ⟨[], first, rest, rfl, List.forall_mem_nil _, hfirst⟩
          · rintro ⟨earlier, a, later, h, hearlier, ha⟩
            cases earlier with
            | nil =>
                cases h
                cases hfirst.symm.trans ha
                rfl
            | cons b earlier =>
                cases h
                cases hfirst.symm.trans (List.forall_mem_cons.mp hearlier).1

/-! ## Failures -/

/-- Whatever a computation fails with has a property. -/
def FailsWith (P : ε → Prop) (x : Except ε α) : Prop :=
  ∀ e, x = .error e → P e

namespace FailsWith

variable {P : ε → Prop} {x : Except ε α}

/-- What succeeds does not fail. -/
theorem ok (a : α) : FailsWith P (.ok a : Except ε α) := by
  intro e he
  cases he

/-- A failure with the property. -/
theorem error {e : ε} (h : P e) : FailsWith P (.error e : Except ε α) := by
  intro e' he
  cases he
  exact h

/-- Two steps fail where the first does, or the second on what the first gives. -/
theorem bind {f : α → Except ε β} (hx : FailsWith P x) (hf : ∀ a, x = .ok a → FailsWith P (f a)) :
    FailsWith P (x >>= f) := by
  cases hxa : x with
  | error e => exact error (hx e hxa)
  | ok a => exact hf a hxa

/-- A changed answer fails where the answer does. -/
theorem map {f : α → β} (hx : FailsWith P x) : FailsWith P (x.map f) := by
  cases hxa : x with
  | error e => exact error (hx e hxa)
  | ok a => exact ok (f a)

/-- A computation over a list fails where it does for an item. -/
theorem mapM {f : α → Except ε β} {l : List α} (h : ∀ a ∈ l, FailsWith P (f a)) :
    FailsWith P (l.mapM f) := by
  induction l with
  | nil => exact ok []
  | cons a rest ih =>
      rw [List.mapM_cons]
      apply bind (h a List.mem_cons_self)
      intro b _
      apply bind (ih fun x hx => h x (List.mem_cons_of_mem a hx))
      intro bs _
      exact ok (b :: bs)

end FailsWith

end Fleet.Outcomes
