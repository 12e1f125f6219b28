/-
# What a rendered document is merged from

A rendered document is the merge of a sequence of fragments: the filled in documents of the
templates in their order, the document of a VPN template followed by the stanza of its server, and
the filled in base document at the end.  What the document holds at a path can therefore be read
off the fragments.

Main statements: `RenderInput.sequence_of_fragments`, `RenderInput.mergedAt_of_compose`.
-/
import Fleet.Compose.Device
import Fleet.Proofs.Merging
import Fleet.Proofs.Outcomes
import Fleet.Proofs.Runs

namespace Fleet

open Outcomes

namespace Json

/-! ## Filled in documents -/

/-- Inserting a document in order keeps members in order. -/
theorem canonical_insert {members : List (String × Json)} {name : String} {v : Json}
    (hmembers : (object members).Canonical) (hv : v.Canonical) :
    (object (Assoc.insert name v members)).Canonical := by
  cases hmembers with
  | object hsorted hvalues =>
      refine .object (Assoc.sorted_insert hsorted name v) fun e he => ?_
      rcases Assoc.mem_insert he with rfl | he
      · exact hv
      · exact hvalues e he

/-- Documents in order make an object in order, in whatever order they are inserted. -/
theorem canonical_insertAll {entries members : List (String × Json)}
    (hmembers : (object members).Canonical) (hentries : ∀ e ∈ entries, e.2.Canonical) :
    (object (Assoc.insertAll members entries)).Canonical := by
  induction entries generalizing members with
  | nil => exact hmembers
  | cons e rest ih =>
      exact ih (canonical_insert hmembers (hentries e List.mem_cons_self))
        fun e' he' => hentries e' (List.mem_cons_of_mem e he')

section Fill

variable {source : String} {values : Context}

mutual

/-- A filled in document is in order. -/
theorem canonical_fillAll : ∀ {j k : Json}, fillAll source values j = .ok k → k.Canonical
  | null, k, h | bool _, k, h | number _, k, h => by
      rw [fillAll] at h
      cases h
      constructor
  | string s, k, h => by
      rw [fillAll, map_eq_ok] at h
      obtain ⟨t, _, rfl⟩ := h
      exact .string t
  | array items, k, h => by
      rw [fillAll, map_eq_ok] at h
      obtain ⟨filled, hfilled, rfl⟩ := h
      exact .array (canonical_fillItems hfilled)
  | object members, k, h => by
      rw [fillAll, map_eq_ok] at h
      obtain ⟨filled, hfilled, rfl⟩ := h
      exact canonical_fillMembers (.object List.Pairwise.nil (by simp)) hfilled

/-- The filled in items of a list are in order. -/
theorem canonical_fillItems : ∀ {items filled : List Json},
    fillItems source values items = .ok filled → ∀ j ∈ filled, j.Canonical
  | [], filled, h => by
      rw [fillItems] at h
      cases h
      simp
  | j :: rest, filled, h => by
      rw [fillItems] at h
      split at h
      · cases h
      · rename_i k hk
        split at h
        · cases h
        · rename_i ks hks
          cases h
          exact List.forall_mem_cons.mpr ⟨canonical_fillAll hk, canonical_fillItems hks⟩

/-- Filled in members are in order, however they were written. -/
theorem canonical_fillMembers : ∀ {members done filled : List (String × Json)},
    (object done).Canonical → fillMembers source values done members = .ok filled →
      (object filled).Canonical
  | [], done, filled, hdone, h => by
      rw [fillMembers] at h
      cases h
      exact hdone
  | (name, j) :: rest, done, filled, hdone, h => by
      rw [fillMembers] at h
      split at h
      · cases h
      · split at h
        · cases h
        · rename_i k hk
          exact canonical_fillMembers (canonical_insert hdone (canonical_fillAll hk)) h

end

end Fill

end Json

/-- The entry of a server in the list of tunnels has its fields in order. -/
theorem VpnServer.canonical_stanza (server : VpnServer) (context : Context) :
    (server.stanza context).Canonical := by
  have hentry : (server.stanzaEntry context).Canonical := by
    refine Json.canonical_insertAll (.object List.Pairwise.nil (by simp)) fun e he => ?_
    -- All fields of the entry are texts.
    rcases List.mem_cons.mp he with rfl | he
    · exact .string _
    · rcases List.mem_cons.mp he with rfl | he
      · exact .string _
      · obtain ⟨v, _, hv⟩ := List.mem_filterMap.mp he
        obtain ⟨value, _, rfl⟩ := Option.map_eq_some_iff.mp hv
        exact .string value
  exact .object (List.pairwise_singleton _ _) fun e he => by
    obtain rfl := List.mem_singleton.mp he
    exact .array fun j hj => List.mem_singleton.mp hj ▸ hentry

namespace RenderInput

variable {input : RenderInput} {fleet context : Context} {parts : List Json} {document : Json}

/-! ## The sequence -/

/-- What follows the document of a template: the stanza of the server of a VPN template, if the
device has joined it. -/
def stanzas (input : RenderInput) (context : Context) (t : Template) : List Json :=
  if t.isVpn then ((input.attachmentFor t).map fun a => a.server.stanza context).toList else []

/-- The filled in document of a template. -/
def fillTemplate (context : Context) (t : Template) : Except Error Json :=
  t.document.substitute t.id.text context t.defaultValues

/-- Documents are the filled in documents of the templates in their order, each followed by the
stanza that goes with it, and the filled in base document. -/
structure Sequence (input : RenderInput) (fleet : Context) (ordered : List Template)
    (filled : List Json) (base : Json) : Prop where
  /-- The templates stand in the order of the list. -/
  inOrder : input.catalog.order input.configuration = .ok ordered
  /-- Their documents are filled in. -/
  templatesFilled : ordered.mapM (fillTemplate (input.resolve fleet)) = .ok filled
  /-- So is the base document, for which there are no defaults. -/
  baseFilled :
    input.configuration.document.substitute Json.baseDocument (input.resolve fleet) .empty =
      .ok base

/-- The fragments of templates whose documents are filled in, and of the base document. -/
def spliced (input : RenderInput) (context : Context) (ordered : List Template) (filled : List Json)
    (base : Json) : List Json :=
  (List.zipWith (fun t j => j :: input.stanzas context t) ordered filled).flatten ++ [base]

/-- A template contributes its filled in document and what follows it. -/
theorem templateFragments_eq_ok {t : Template} (h : input.templateFragments context t = .ok parts) :
    ∃ j, fillTemplate context t = .ok j ∧ parts = j :: input.stanzas context t := by
  unfold templateFragments at h
  rw [seq_eq_ok] at h
  obtain ⟨_, h⟩ := h
  rw [bind_eq_ok] at h
  obtain ⟨j, hj, h⟩ := h
  refine ⟨j, hj, ?_⟩
  unfold stanzas
  cases hvpn : t.isVpn with
  | false =>
      rw [hvpn] at h
      cases h
      rfl
  | true =>
      cases hattachment : input.attachmentFor t with
      | none =>
          rw [hvpn, hattachment] at h
          cases h
          rfl
      | some a =>
          rw [hvpn, hattachment] at h
          cases h
          rfl

/-- Templates contribute their filled in documents, each with what follows it. -/
theorem mapM_templateFragments {ordered : List Template} {contributed : List (List Json)}
    (h : ordered.mapM (input.templateFragments context) = .ok contributed) :
    ∃ filled, ordered.mapM (fillTemplate context) = .ok filled ∧
      contributed = List.zipWith (fun t j => j :: input.stanzas context t) ordered filled := by
  induction ordered generalizing contributed with
  | nil =>
      rw [List.mapM_nil, pure_eq_ok] at h
      subst h
      exact ⟨[], rfl, rfl⟩
  | cons t rest ih =>
      rw [List.mapM_cons, bind_eq_ok] at h
      obtain ⟨first, hfirst, h⟩ := h
      rw [bind_eq_ok] at h
      obtain ⟨others, hothers, h⟩ := h
      rw [pure_eq_ok] at h
      subst h
      obtain ⟨j, hj, rfl⟩ := templateFragments_eq_ok hfirst
      obtain ⟨filled, hfilled, rfl⟩ := ih hothers
      refine ⟨j :: filled, ?_, rfl⟩
      rw [List.mapM_cons, hj, hfilled]
      rfl

/-- The fragments are the spliced documents. -/
theorem sequence_of_fragments (h : input.fragments fleet = .ok parts) :
    ∃ ordered filled base, input.Sequence fleet ordered filled base ∧
      parts = input.spliced (input.resolve fleet) ordered filled base := by
  unfold fragments at h
  rw [bind_eq_ok] at h
  obtain ⟨ordered, hordered, h⟩ := h
  rw [bind_eq_ok] at h
  obtain ⟨contributed, hcontributed, h⟩ := h
  rw [bind_eq_ok] at h
  obtain ⟨base, hbase, h⟩ := h
  rw [pure_eq_ok] at h
  obtain ⟨filled, hfilled, rfl⟩ := mapM_templateFragments hcontributed
  exact ⟨ordered, filled, base, ⟨hordered, hfilled, hbase⟩, h.symm⟩

/-- All fragments have their members in order. -/
theorem Sequence.canonical {ordered : List Template} {filled : List Json} {base : Json}
    (h : input.Sequence fleet ordered filled base) :
    ∀ part ∈ input.spliced (input.resolve fleet) ordered filled base, part.Canonical := by
  intro part hpart
  rcases List.mem_append.mp hpart with hpart | hpart
  · obtain ⟨group, hgroup, hpart⟩ := List.mem_flatten.mp hpart
    rw [← List.map_uncurry_zip_eq_zipWith] at hgroup
    obtain ⟨⟨t, j⟩, htj, rfl⟩ := List.mem_map.mp hgroup
    rcases List.mem_cons.mp hpart with rfl | hpart
    · obtain ⟨t', _, ht'⟩ := (mem_of_mapM h.templatesFilled).mp (List.of_mem_zip htj).2
      exact Json.canonical_fillAll ht'
    · unfold stanzas at hpart
      split at hpart
      · obtain ⟨a, _, rfl⟩ := Option.map_eq_some_iff.mp (Option.mem_toList.mp hpart)
        exact a.server.canonical_stanza _
      · cases hpart
  · obtain rfl := List.mem_singleton.mp hpart
    exact Json.canonical_fillAll h.baseFilled

/-! ## The document -/

/-- A document holds at a path what documents that keep it open hold there one after the other: it
has the path if one of them does; lists are put one behind the other, in the list of files without
those that occur again; and a last value that is neither list nor object is the one it holds. -/
structure MergedAt (path : List String) (parts : List Json) (document : Json) : Prop where
  /-- The path leads to something in one of them. -/
  present : (document.valueAt? path).isSome = true ↔
    ∃ part ∈ parts, (part.valueAt? path).isSome = true
  /-- Those that have the path hold lists there. -/
  lists : ∀ lists, parts.filterMap (Json.valueAt? path) = lists.map .array → lists ≠ [] →
    document.valueAt? path = some (.array (
      if path = ["files"] then lists.flatten.eraseDupsBy fun a b => a.render == b.render
      else lists.flatten))
  /-- The last of those that have the path holds neither a list nor an object there. -/
  last : ∀ v, (parts.filterMap (Json.valueAt? path)).getLast? = some v → v.isObject = false →
    v.isArray = false → document.valueAt? path = some v

/-- Documents that are merged into the empty object, and whose files are collapsed then. -/
theorem mergedAt_foldl {path : List String} (hparts : parts ≠ [])
    (hcanonical : ∀ part ∈ parts, part.Canonical) (hopen : ∀ part ∈ parts, part.OpensAlong path) :
    MergedAt path parts (parts.foldl Json.merge .emptyObject).dedupeFiles := by
  obtain ⟨first, rest, rfl⟩ := List.exists_cons_of_ne_nil hparts
  rw [List.foldl_cons, Json.merge_emptyObject (hcanonical first List.mem_cons_self)]
  have hvalue := (Json.valueAt?_foldl_merge first rest
    (fun part hpart => hcanonical part (List.mem_cons_of_mem first hpart)) hopen).2
  refine ⟨?_, fun lists hlists hne => ?_, fun v hlast hobject harray => ?_⟩
  · rw [Json.isSome_valueAt?_dedupeFiles, hvalue, Json.isSome_mergeAll?, ne_eq,
      List.filterMap_eq_nil_iff]
    simp only [not_forall, ← Option.isSome_iff_ne_none, exists_prop]
  · rw [hlists, Json.mergeAll?_arrays hne] at hvalue
    rw [Json.valueAt?_dedupeFiles_of_value hvalue rfl]
    split <;> rfl
  · rw [Json.mergeAll?_of_last hlast hobject harray] at hvalue
    rw [Json.valueAt?_dedupeFiles_of_value hvalue hobject]
    -- A value that is no list is not collapsed.
    cases v with
    | array => cases harray
    | null | bool | number | string | object => split <;> rfl

/-- A rendered document is the merge of its fragments without the files that occur again. -/
theorem compose_eq_ok (h : input.compose fleet = .ok document) :
    ∃ parts, input.fragments fleet = .ok parts ∧
      document = (parts.foldl Json.merge .emptyObject).dedupeFiles := by
  unfold compose at h
  rw [bind_eq_ok] at h
  obtain ⟨parts, hparts, h⟩ := h
  rw [seq_eq_ok, pure_eq_ok] at h
  exact ⟨parts, hparts, h.2.symm⟩

/-- A rendered document holds, at every path that stays open in all its fragments, what these hold
there one after the other: the filled in documents of the templates in their order, each followed by
the stanza that goes with it, and the filled in base document at the end. -/
theorem mergedAt_of_compose (h : input.compose fleet = .ok document) :
    ∃ ordered filled base, input.Sequence fleet ordered filled base ∧
      ∀ path,
        (∀ part ∈ input.spliced (input.resolve fleet) ordered filled base, part.OpensAlong path) →
          MergedAt path (input.spliced (input.resolve fleet) ordered filled base) document := by
  obtain ⟨parts, hparts, rfl⟩ := compose_eq_ok h
  obtain ⟨ordered, filled, base, hsequence, rfl⟩ := sequence_of_fragments hparts
  exact ⟨ordered, filled, base, hsequence, fun path hopen =>
    mergedAt_foldl (by simp [spliced]) hsequence.canonical hopen⟩

/-- A device with a configuration that asks for a plain template and one of a server that
it has joined. -/
def layeredSample : RenderInput where
  device := Sample.device
  configuration :=
    { Sample.configuration [Sample.template.id, ⟨"v"⟩] with
      document := .object [("dns", .array [.string "base"]), ("mode", .string "{{name}}")] }
  organization := none
  group := none
  vpn := [⟨Sample.server, Sample.client⟩]
  catalog := .ofList [
    (Sample.template.id,
      { Sample.template with
        document := .object [("dns", .array [.string "first"]), ("mode", .null)] }),
    (⟨"v"⟩,
      { Sample.template with
        id := ⟨"v"⟩
        kind := .vpn
        vpn := some Sample.server.id
        document := .object [("tunnels", .array [.object []])] })]

/-- What is rendered for it. -/
def layeredDocument : Json :=
  .object [
    ("dns", .array [.string "first", .string "base"]),
    ("mode", .string "host"),
    ("tunnels", .array [
      .object [],
      .object [
        ("address", .string "10.0.0.1"), ("family", .string "vxlan"), ("host", .string "vpn"),
        ("server", .string "s")]])]

/-- The document is rendered: the lists of the first template and of the base document lie one
behind the other, the stanza stands behind the document of the second template, and the mode of the
base document replaces that of the first template. -/
theorem mergedAt_of_compose_layered :
    layeredSample.compose .empty = .ok layeredDocument ∧
      ∃ ordered filled base, layeredSample.Sequence .empty ordered filled base ∧
        ∀ path,
          (∀ part ∈ layeredSample.spliced (layeredSample.resolve .empty) ordered filled base,
            part.OpensAlong path) →
            MergedAt path (layeredSample.spliced (layeredSample.resolve .empty) ordered filled base)
              layeredDocument := by
  have hcompose : layeredSample.compose .empty = .ok layeredDocument := by
    decide +kernel
  exact ⟨hcompose, mergedAt_of_compose hcompose⟩

end RenderInput

end Fleet
