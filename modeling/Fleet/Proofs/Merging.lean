/-
# What is merged at a path

A path of member names leads into a document as long as it passes through objects.  Where no
document of a sequence closes it, merging the sequence merges what the documents have at the end of
the path: lists are put one behind the other, and a value that is neither list nor object replaces
what came before.

Main statements: `Json.valueAt?_merge`, `Json.valueAt?_foldl_merge`,
`Json.distinctBy_eq_eraseDupsBy`.
-/
import Fleet.Document.Merge
import Mathlib.Data.List.Induction

namespace Fleet.Json

/-! ## Paths of member names -/

/-- The value at the end of a path of member names. -/
def valueAt? : List String → Json → Option Json
  | [], j => some j
  | name :: path, j => (j.field? name).bind (valueAt? path)

/-- A path stays open in a document: no proper prefix of it leads to anything but an object. -/
def OpensAlong (path : List String) (j : Json) : Prop :=
  ∀ front v, front <+: path → front ≠ path → j.valueAt? front = some v → v.isObject = true

/-- Whether a value is a list. -/
def isArray : Json → Bool
  | array _ => true
  | _ => false

variable {a b j : Json} {name : String} {path : List String} {base fragment : List (String × Json)}

/-- A longer path stays open in an object whose member lets the rest of it stay open. -/
theorem opensAlong_cons :
    OpensAlong (name :: path) j ↔
      j.isObject = true ∧ ∀ v, j.field? name = some v → OpensAlong path v := by
  constructor
  · intro h
    refine ⟨h [] j (List.nil_prefix) (by simp) rfl, fun v hv front w hfront hne hw => ?_⟩
    refine h (name :: front) w ((List.prefix_cons_inj name).mpr hfront) (by simpa using hne) ?_
    rw [valueAt?, hv]
    exact hw
  · rintro ⟨hobject, hrest⟩ front w hfront hne hw
    cases front with
    | nil =>
        cases hw
        exact hobject
    | cons first front =>
        obtain ⟨rfl, hshorter⟩ := List.cons_prefix_cons.mp hfront
        rw [valueAt?, Option.bind_eq_some_iff] at hw
        obtain ⟨v, hv, hw⟩ := hw
        exact hrest v hv front w hshorter (fun heq => hne (heq ▸ rfl)) hw

/-- An object is given by its members. -/
theorem exists_members (h : j.isObject = true) : ∃ members, j = object members := by
  cases j with
  | object members => exact ⟨members, rfl⟩
  | null | bool | number | string | array => cases h

/-! ## Merging two documents -/

/-- What an object holds under a name after a merge. -/
theorem find?_mergeMembers (hfragment : Assoc.Sorted fragment) :
    Assoc.find? name (mergeMembers base fragment) =
      Option.merge merge (Assoc.find? name base) (Assoc.find? name fragment) := by
  induction fragment generalizing base with
  | nil =>
      rw [mergeMembers]
      cases Assoc.find? name base <;> rfl
  | cons e rest ih =>
      obtain ⟨first, value⟩ := e
      obtain ⟨hfirst, hrest⟩ := List.pairwise_cons.mp hfragment
      -- The head of the fragment is inserted, alone or merged with what was there.
      obtain ⟨w, hw, hstep⟩ : ∃ w,
          Option.merge merge (Assoc.find? first base) (some value) = some w ∧
          mergeMembers base ((first, value) :: rest) =
            mergeMembers (Assoc.insert first w base) rest := by
        rw [mergeMembers]
        cases Assoc.find? first base with
        | none => exact ⟨value, rfl, rfl⟩
        | some old => exact ⟨merge old value, rfl, rfl⟩
      rw [hstep, ih hrest]
      by_cases hname : first = name
      · subst hname
        have hnone : Assoc.find? first rest = none := by
          cases hfind : Assoc.find? first rest with
          | none => rfl
          | some v =>
              have hlt := hfirst _ (Assoc.mem_of_find? hfind)
              exact absurd hlt (String.lt_irrefl _)
        rw [Assoc.find?_insert_self, hnone, Assoc.find?, if_pos rfl, hw]
        rfl
      · have htext : Key.text first ≠ Key.text name := hname
        rw [Assoc.find?_insert_ne hname, Assoc.find?, if_neg htext]

/-- Merging keeps the order of the members. -/
theorem sorted_mergeMembers (hbase : Assoc.Sorted base) :
    Assoc.Sorted (mergeMembers base fragment) := by
  induction fragment generalizing base with
  | nil =>
      rw [mergeMembers]
      exact hbase
  | cons e rest ih =>
      rw [mergeMembers]
      split
      · exact ih (Assoc.sorted_insert hbase _ _)
      · exact ih (Assoc.sorted_insert hbase _ _)

/-- Nothing is lost or added when a document is merged into the empty object. -/
theorem merge_emptyObject (hj : j.Canonical) : merge emptyObject j = j := by
  cases hj with
  | null | bool | number | string | array => rfl
  | @object members hsorted _ =>
      have heq : mergeMembers [] members = members := by
        refine Assoc.ext_find? (sorted_mergeMembers List.Pairwise.nil) hsorted fun k => ?_
        rw [find?_mergeMembers hsorted]
        exact Option.merge_none_left
      show merge (object []) (object members) = object members
      rw [merge, heq]

/-- A member of a document in order is in order. -/
theorem Canonical.field? {v : Json} (hj : j.Canonical) (h : j.field? name = some v) :
    v.Canonical := by
  cases hj with
  | null | bool | number | string | array => cases h
  | object _ hmembers => exact hmembers _ (Assoc.mem_of_find? h)

/-- What a merge holds at a path that stays open is what the two hold there, merged. -/
theorem valueAt?_merge (hb : b.Canonical) (hopen : a.OpensAlong path) (hopen' : b.OpensAlong path) :
    (merge a b).valueAt? path =
      Option.merge merge (a.valueAt? path) (b.valueAt? path) := by
  induction path generalizing a b with
  | nil => rfl
  | cons name rest ih =>
      obtain ⟨hobject, hrest⟩ := opensAlong_cons.mp hopen
      obtain ⟨hobject', hrest'⟩ := opensAlong_cons.mp hopen'
      obtain ⟨members, rfl⟩ := exists_members hobject
      obtain ⟨members', rfl⟩ := exists_members hobject'
      have hfield : (merge (object members) (object members')).field? name =
          Option.merge merge ((object members).field? name) ((object members').field? name) := by
        cases hb with
        | object hsorted _ =>
            rw [merge]
            exact find?_mergeMembers hsorted
      simp only [valueAt?]
      rw [hfield]
      cases hv : (object members).field? name with
      | none => cases (object members').field? name <;> simp
      | some v =>
          cases hv' : (object members').field? name with
          | none => simp
          | some v' =>
              exact ih (hb.field? hv') (hrest v hv) (hrest' v' hv')

/-- A path that stays open in two documents stays open in their merge. -/
theorem OpensAlong.merge (hb : b.Canonical) (hopen : a.OpensAlong path)
    (hopen' : b.OpensAlong path) : (Json.merge a b).OpensAlong path := by
  intro front v hfront hne hv
  -- A prefix of the path stays open as well, so that its end holds a merge of objects.
  have hshort : ∀ {c : Json}, c.OpensAlong path → c.OpensAlong front := by
    intro c hc front' w hfront' hne' hw
    refine hc front' w (hfront'.trans hfront) ?_ hw
    rintro rfl
    exact hne' (List.IsPrefix.eq_of_length_le hfront' hfront.length_le)
  rw [valueAt?_merge hb (hshort hopen) (hshort hopen')] at hv
  cases ha : a.valueAt? front with
  | none =>
      rw [ha, Option.merge_none_left] at hv
      exact hopen' front v hfront hne hv
  | some w =>
      cases hb' : b.valueAt? front with
      | none =>
          rw [ha, hb', Option.merge_none_right] at hv
          cases hv
          exact hopen front _ hfront hne ha
      | some w' =>
          rw [ha, hb'] at hv
          cases hv
          obtain ⟨members, rfl⟩ := exists_members (hopen front w hfront hne ha)
          obtain ⟨members', rfl⟩ := exists_members (hopen' front w' hfront hne hb')
          rw [Json.merge]
          rfl

/-! ## Merging a sequence -/

/-- Values merged one after the other; there must be one. -/
def mergeAll? : List Json → Option Json
  | [] => none
  | v :: rest => some (rest.foldl merge v)

/-- One more value is merged into those before. -/
theorem mergeAll?_concat (values : List Json) (v : Json) :
    mergeAll? (values ++ [v]) = Option.merge merge (mergeAll? values) (some v) := by
  cases values with
  | nil => rfl
  | cons first rest =>
      rw [List.cons_append, mergeAll?, List.foldl_append]
      rfl

/-- What a sequence of documents holds at a path that stays open in all of them: what those hold
that have the path, merged. -/
theorem valueAt?_foldl_merge (first : Json) (rest : List Json)
    (hcanonical : ∀ part ∈ rest, part.Canonical)
    (hopen : ∀ part ∈ first :: rest, part.OpensAlong path) :
    (rest.foldl merge first).OpensAlong path ∧
      (rest.foldl merge first).valueAt? path =
        mergeAll? ((first :: rest).filterMap (valueAt? path)) := by
  induction rest using List.reverseRecOn with
  | nil =>
      refine ⟨hopen first List.mem_cons_self, ?_⟩
      rw [List.filterMap_cons]
      cases hfirst : valueAt? path first with
      | none => exact hfirst
      | some v => exact hfirst
  | append_singleton rest last ih =>
      obtain ⟨hopened, hvalue⟩ := ih
        (fun part hpart => hcanonical part (List.mem_append_left _ hpart))
        (fun part hpart => hopen part (by
          rcases List.mem_cons.mp hpart with rfl | hpart
          · exact List.mem_cons_self
          · exact List.mem_cons_of_mem _ (List.mem_append_left _ hpart)))
      have hlast : last.Canonical := hcanonical last (by simp)
      have hlastOpen : last.OpensAlong path := hopen last (by simp)
      rw [List.foldl_append, List.foldl_cons, List.foldl_nil]
      refine ⟨hopened.merge hlast hlastOpen, ?_⟩
      rw [valueAt?_merge hlast hopened hlastOpen, hvalue, ← List.cons_append, List.filterMap_append]
      cases hend : valueAt? path last with
      | none => simp [hend]
      | some v =>
          rw [List.filterMap_cons_some hend, List.filterMap_nil, mergeAll?_concat]

/-- Lists are put one behind the other. -/
theorem mergeAll?_arrays {lists : List (List Json)} (h : lists ≠ []) :
    mergeAll? (lists.map array) = some (array lists.flatten) := by
  induction lists using List.reverseRecOn with
  | nil => exact absurd rfl h
  | append_singleton rest last ih =>
      rw [List.map_append, List.map_singleton, mergeAll?_concat, List.flatten_append,
        List.flatten_singleton]
      cases rest with
      | nil => rfl
      | cons first rest =>
          rw [ih (List.cons_ne_nil first rest)]
          rfl

/-- A last value that is neither list nor object replaces what came before. -/
theorem mergeAll?_of_last {values : List Json} {v : Json} (hlast : values.getLast? = some v)
    (hobject : v.isObject = false) (harray : v.isArray = false) : mergeAll? values = some v := by
  obtain ⟨front, rfl⟩ := List.getLast?_eq_some_iff.mp hlast
  rw [mergeAll?_concat]
  cases mergeAll? front with
  | none => rfl
  | some w =>
      have hreplace : merge w v = v := by
        cases v with
        | object => cases hobject
        | array => cases harray
        | null | bool | number | string => cases w <;> rfl
      exact congrArg some hreplace

/-- Values merge to something exactly when there are some. -/
theorem isSome_mergeAll? {values : List Json} : (mergeAll? values).isSome = true ↔ values ≠ [] := by
  cases values <;> simp [mergeAll?]

/-! ## Files -/

/-- The items left are the first ones of those with equal keys. -/
theorem distinctBy_eq_eraseDupsBy {α : Type} (key : α → String) (l : List α) :
    distinctBy key [] l = l.eraseDupsBy fun a b => key a == key b := by
  have hloop : ∀ (l seen : List α), List.eraseDupsBy.loop (fun a b => key a == key b) l seen =
      seen.reverse ++ distinctBy key (seen.map key) l := by
    intro l
    induction l with
    | nil =>
        intro seen
        rw [List.eraseDupsBy.loop, distinctBy, List.append_nil]
    | cons a rest ih =>
        intro seen
        have hseen : seen.any (fun b => key a == key b) = (seen.map key).contains (key a) := by
          rw [List.contains_eq_any_beq, List.any_map]
          rfl
        rw [List.eraseDupsBy.loop, distinctBy, hseen]
        split
        · rename_i hany
          rw [ih, if_pos hany]
        · rename_i hany
          rw [ih, if_neg (by rw [hany]; exact Bool.false_ne_true), List.reverse_cons,
            List.append_assoc]
          rfl
  exact (hloop l []).symm

/-- A list without the later ones of items that are written alike. -/
def collapsed : Json → Json
  | array files => array (files.eraseDupsBy fun a b => render a == render b)
  | v => v

/-- There are no files to collapse in a document that is no object. -/
theorem dedupeFiles_eq_self (h : j.isObject = false) : dedupeFiles j = j := by
  cases j with
  | object => cases h
  | null | bool | number | string | array => rfl

/-- Collapsing files replaces the list of files, if there is one. -/
theorem dedupeFiles_object (members : List (String × Json)) :
    dedupeFiles (object members) = object members ∧
        (Assoc.find? "files" members).map collapsed = Assoc.find? "files" members ∨
      ∃ files, Assoc.find? "files" members = some (array files) ∧
        dedupeFiles (object members) =
          object (Assoc.insert "files" (collapsed (array files)) members) := by
  rw [dedupeFiles]
  cases hfiles : Assoc.find? "files" members with
  | none => exact Or.inl ⟨rfl, rfl⟩
  | some v =>
      cases v with
      | array files =>
          right
          refine ⟨files, rfl, ?_⟩
          dsimp only
          rw [collapsed, distinctBy_eq_eraseDupsBy]
      | null | bool | number | string | object => exact Or.inl ⟨rfl, rfl⟩

/-- At the end of a path that is not empty, collapsing files changes the list of files and nothing
else. -/
theorem valueAt?_dedupeFiles (hpath : path ≠ []) :
    (dedupeFiles j).valueAt? path =
      if path = ["files"] then (j.valueAt? path).map collapsed else j.valueAt? path := by
  obtain ⟨name, rest, rfl⟩ := List.exists_cons_of_ne_nil hpath
  cases j with
  | null | bool | number | string | array =>
      have hnone : ∀ {k : Json}, k.field? name = none → valueAt? (name :: rest) k = none := by
        intro k hk
        rw [valueAt?, hk]
        rfl
      rw [dedupeFiles_eq_self rfl, hnone rfl]
      split <;> rfl
  | object members =>
      rcases dedupeFiles_object members with ⟨hsame, hfiles⟩ | ⟨files, hfiles, hchanged⟩
      · rw [hsame]
        split
        · rename_i heq
          cases heq
          simp only [valueAt?, field?, Option.bind_fun_some]
          exact hfiles.symm
        · rfl
      · rw [hchanged]
        by_cases hname : "files" = name
        · subst hname
          simp only [valueAt?, field?, Assoc.find?_insert_self, hfiles, Option.bind_some]
          cases rest with
          | nil => rfl
          | cons next rest =>
              rw [if_neg (by simp)]
              rfl
        · simp only [valueAt?, field?, Assoc.find?_insert_ne hname]
          rw [if_neg (fun heq => hname (List.cons.inj heq).1.symm)]

/-- Collapsing files adds and removes no path. -/
theorem isSome_valueAt?_dedupeFiles (path : List String) (j : Json) :
    ((dedupeFiles j).valueAt? path).isSome = (j.valueAt? path).isSome := by
  cases path with
  | nil => rfl
  | cons name rest =>
      rw [valueAt?_dedupeFiles (List.cons_ne_nil name rest)]
      split
      · exact Option.isSome_map
      · rfl

/-- What collapsing files leaves of a value that is no object. -/
theorem valueAt?_dedupeFiles_of_value {v : Json} (hv : j.valueAt? path = some v)
    (hobject : v.isObject = false) :
    (dedupeFiles j).valueAt? path = some (if path = ["files"] then collapsed v else v) := by
  cases path with
  | nil =>
      cases hv
      rw [dedupeFiles_eq_self hobject]
      rfl
  | cons name rest =>
      rw [valueAt?_dedupeFiles (List.cons_ne_nil name rest), hv]
      split <;> rfl

end Fleet.Json
