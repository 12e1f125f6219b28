/-
# Records are read back

Every record is read back from its text: a record without a document always, one with a document
exactly when the document is.  Maps and lists of records are read back when all their records are.

Main statements: `Json.Decoder.restores_sortedMap_iff`, `restores_configuration_iff`,
`restores_template_iff`, `restores_vpnServer_iff`.
-/
import Fleet.Proofs.Addresses
import Fleet.Proofs.Documents
import Fleet.Record.Reader
import Fleet.Record.Writer
import Mathlib.Data.List.Forall2

namespace Fleet

open Json (Decoder Fields Written)

namespace Json

variable {levels : Nat} {α β κ : Type}

namespace Decoder

/-- A decoder restores a value: within a number of levels it reads the value back from its text. -/
abbrev Restores (d : Decoder α) (write : α → Written) (levels : Nat) (a : α) : Prop :=
  d levels (write a).reread = some a

variable {d : Decoder α} {write : α → Written}

/-! ## Leaves -/

/-- Strings are read back. -/
@[simp] theorem restores_string (levels : Nat) (s : String) :
    Restores string .string levels s := rfl

/-- Truth values are read back. -/
@[simp] theorem restores_bool (levels : Nat) (b : Bool) : Restores bool .bool levels b := rfl

/-- A number that fits 64 bits is written as a number. -/
theorem reread_ofNat {n : Nat} (h : n < UInt64.size) :
    (Written.ofNat n).reread = .number (.integer (.ofNat n h)) := by
  unfold Written.ofNat
  rw [dif_pos h, Written.reread]
  exact Number.readsBack_iff.mp (Number.readsBack_integer _)

/-- Numbers below a bound of at most 64 bits are read back. -/
theorem restores_natBelow {bound n : Nat} (hbound : bound ≤ UInt64.size) (h : n < bound)
    (levels : Nat) : Restores (natBelow bound) .ofNat levels n := by
  rw [Restores, reread_ofNat (Nat.lt_of_lt_of_le h hbound), natBelow, if_pos]
  · rfl
  · exact ⟨Int.natCast_nonneg n, Int.ofNat_lt.mpr h⟩

/-! ## Composed values -/

/-- A text that is not null is read as a value. -/
theorem nullable_of_ne {w : Written} (h : w ≠ .null) :
    d.nullable levels w = (d levels w).map some := by
  cases w with
  | null => exact absurd rfl h
  | bool | number | string | array | object | void => rfl

/-- Optional values are read back if none is written as null. -/
theorem restores_nullable {o : Option α}
    (h : ∀ a ∈ o, Restores d write levels a ∧ (write a).reread ≠ .null) :
    Restores d.nullable (.ofOption write) levels o := by
  cases o with
  | none => rfl
  | some a =>
      obtain ⟨hrestores, hne⟩ := h a rfl
      rw [Restores, Written.ofOption, nullable_of_ne hne, hrestores]
      rfl

/-- The texts of items stand in a list. -/
theorem reread_ofList (write : α → Written) (l : List α) :
    (Written.ofList write l).reread = .array (l.map fun a => (write a).reread) := by
  have hitems : Written.rereadItems (l.map write) = l.map fun a => (write a).reread := by
    induction l with
    | nil => rfl
    | cons a rest ih => rw [List.map_cons, Written.rereadItems, ih, List.map_cons]
  rw [Written.ofList, Written.reread, hitems]

/-- The texts of values stand under their keys. -/
theorem reread_ofMap [Key κ] (write : α → Written) (m : SortedMap κ α) :
    (Written.ofMap write m).reread =
      .object (m.entries.map fun e => (Key.text e.1, (write e.2).reread)) := by
  have hmembers : ∀ l : List (κ × α),
      Written.rereadMembers (l.map fun e => (Key.text e.1, write e.2)) =
        l.map fun e => (Key.text e.1, (write e.2).reread) := by
    intro l
    induction l with
    | nil => rfl
    | cons e rest ih => rw [List.map_cons, Written.rereadMembers, ih, List.map_cons]
  rw [Written.ofMap, Written.reread, hmembers]

/-- What is computed for a list is what is computed for each item. -/
theorem mapM_eq_some_iff {f : α → Option β} {l : List α} {found : List β} :
    l.mapM f = some found ↔ List.Forall₂ (fun a b => f a = some b) l found := by
  induction l generalizing found with
  | nil => simp [eq_comm]
  | cons a rest ih =>
      rw [List.mapM_cons, List.forall₂_cons_left_iff]
      simp only [Option.bind_eq_bind, Option.bind_eq_some_iff, Option.pure_def,
        Option.some.injEq, ih]
      constructor
      · rintro ⟨b, hb, bs, hbs, rfl⟩
        exact ⟨b, bs, hb, hbs, rfl⟩
      · rintro ⟨b, bs, hb, hbs, rfl⟩
        exact ⟨b, hb, bs, hbs, rfl⟩

/-- Where something is computed for a list, something is computed for each item. -/
theorem isSome_of_mapM {f : α → Option β} {l : List α} (h : (l.mapM f).isSome = true) :
    ∀ a ∈ l, (f a).isSome = true := by
  obtain ⟨found, hfound⟩ := Option.isSome_iff_exists.mp h
  have heach := mapM_eq_some_iff.mp hfound
  clear h hfound
  induction heach with
  | nil => nofun
  | cons hb _ ih => exact List.forall_mem_cons.mpr ⟨Option.isSome_of_eq_some hb, ih⟩

/-- Lists are read back if their items are. -/
theorem restores_list {l : List α} (h : ∀ a ∈ l, Restores d write levels a) :
    Restores (list d) (.ofList write) (levels + 1) l := by
  rw [Restores, reread_ofList, list]
  exact mapM_eq_some_iff.mpr (List.forall₂_map_left_iff.mpr (List.forall₂_same.mpr h))

section Maps

variable [Key κ] {key : String → κ} {m : SortedMap κ α}

/-- A map is read from the texts of its values. -/
theorem sortedMap_reread (hkey : ∀ k : κ, key (Key.text k) = k) :
    sortedMap key d (levels + 1) (Written.ofMap write m).reread =
      (m.entries.mapM fun e => (d levels (write e.2).reread).map fun v => (e.1, v)).map
        SortedMap.ofList := by
  rw [reread_ofMap, sortedMap, List.mapM_map]
  congr 2
  funext e
  exact congrArg (Option.map · _) (funext fun v => by rw [hkey])

/-- Maps are read back exactly when their values are. -/
theorem restores_sortedMap_iff (hkey : ∀ k : κ, key (Key.text k) = k) :
    Restores (sortedMap key d) (.ofMap write) (levels + 1) m ↔
      ∀ e ∈ m.entries, Restores d write levels e.2 := by
  have hsame : ∀ found : List (κ × α), found.map Prod.fst = m.entries.map Prod.fst →
      (SortedMap.ofList found).entries = found := fun found hkeys =>
    Assoc.insertAll_of_sorted (l := []) (Assoc.sorted_of_keys m.sorted hkeys)
  have heach : (m.entries.mapM fun e => (d levels (write e.2).reread).map fun v => (e.1, v)) =
      some m.entries ↔ ∀ e ∈ m.entries, Restores d write levels e.2 := by
    rw [mapM_eq_some_iff, List.forall₂_same]
    refine forall₂_congr fun e _ => ?_
    obtain ⟨k, v⟩ := e
    simp
  rw [Restores, sortedMap_reread hkey, ← heach, Option.map_eq_some_iff]
  constructor
  · rintro ⟨found, hfound, heq⟩
    have hkeys : m.entries.map Prod.fst = found.map Prod.fst := by
      rw [← List.forall₂_eq_eq_eq, List.forall₂_map_left_iff, List.forall₂_map_right_iff]
      refine (mapM_eq_some_iff.mp hfound).imp fun e found hread => ?_
      obtain ⟨v, _, rfl⟩ := Option.map_eq_some_iff.mp hread
      rfl
    have hentries : found = m.entries :=
      (hsame found hkeys.symm).symm.trans (congrArg SortedMap.entries heq)
    exact hentries ▸ hfound
  · exact fun h => ⟨m.entries, h, SortedMap.ext_entries (hsame m.entries rfl)⟩

/-- The values of a map that is read are read. -/
theorem isSome_of_sortedMap (hkey : ∀ k : κ, key (Key.text k) = k)
    (h : (sortedMap key d (levels + 1) (Written.ofMap write m).reread).isSome = true) :
    ∀ e ∈ m.entries, (d levels (write e.2).reread).isSome = true := by
  rw [sortedMap_reread hkey, Option.isSome_map] at h
  intro e he
  have hvalue := isSome_of_mapM h e he
  rwa [Option.isSome_map] at hvalue

end Maps

end Decoder

/-! ## Fields -/

/-- The fields of a record are found as they are written. -/
theorem Fields.of?_object {names : List String} {members : List (String × Written)}
    (hnames : members.map Prod.fst = names) (hnodup : names.Nodup) :
    Fields.of? names (levels + 1) (.object members) = some ⟨members, false, levels⟩ := by
  have hknown : (members.filter fun m => names.contains m.1) = members := by
    rw [List.filter_eq_self]
    intro m hm
    rw [List.contains_iff_mem, ← hnames]
    exact List.mem_map_of_mem hm
  rw [Fields.of?, hknown, hnames, if_pos hnodup]

namespace Fields

variable {name key : String} {w : Written} {rest : List (String × Written)} {positional : Bool}
  {d : Decoder α} {fallback : α}

/-- A field that comes first is read. -/
@[simp] theorem required_head :
    required ⟨(name, w) :: rest, positional, levels⟩ name d = d levels w := by
  simp [required]

/-- Fields before the one that is read are passed over. -/
@[simp] theorem required_tail (h : name ≠ key) :
    required ⟨(key, w) :: rest, positional, levels⟩ name d =
      required ⟨rest, positional, levels⟩ name d := by
  have hne : (name == key) = false := beq_eq_false_iff_ne.mpr h
  unfold required
  rw [List.lookup_cons, hne]

/-- A field that comes first is read, whatever its default. -/
@[simp] theorem withDefault_head :
    withDefault ⟨(name, w) :: rest, positional, levels⟩ name d fallback = d levels w := by
  simp [withDefault]

/-- Fields before the one that is read or left to its default are passed over. -/
@[simp] theorem withDefault_tail (h : name ≠ key) :
    withDefault ⟨(key, w) :: rest, positional, levels⟩ name d fallback =
      withDefault ⟨rest, positional, levels⟩ name d fallback := by
  have hne : (name == key) = false := beq_eq_false_iff_ne.mpr h
  unfold withDefault
  rw [List.lookup_cons, hne]

end Fields

end Json

open Json.Decoder

variable {levels : Nat}

/-! ## Leaves of records -/

/-- Identifiers are read back. -/
@[simp] theorem restores_id {sort : Named} (id : Id sort) (levels : Nat) :
    Restores Id.reader Id.written levels id := rfl

/-- Addresses are read back. -/
@[simp] theorem restores_address (ip : IpAddress) (levels : Nat) :
    Restores IpAddress.reader IpAddress.written levels ip :=
  IpAddress.parse?_render ip

/-- Identifiers that may be missing are read back. -/
@[simp] theorem restores_optional_id {sort : Named} (o : Option (Id sort)) (levels : Nat) :
    Restores Id.reader.nullable (.ofOption Id.written) levels o :=
  restores_nullable fun id _ => ⟨restores_id id levels, nofun⟩

/-- Addresses that may be missing are read back. -/
@[simp] theorem restores_optional_address (o : Option IpAddress) (levels : Nat) :
    Restores IpAddress.reader.nullable (.ofOption IpAddress.written) levels o :=
  restores_nullable fun ip _ => ⟨restores_address ip levels, nofun⟩

/-- Strings that may be missing are read back. -/
@[simp] theorem restores_optional_string (o : Option String) (levels : Nat) :
    Restores string.nullable (.ofOption .string) levels o :=
  restores_nullable fun s _ => ⟨restores_string levels s, nofun⟩

/-- Numbers of 32 bits that may be missing are read back. -/
theorem restores_optional_word32 {o : Option Nat} (h : ∀ n ∈ o, n < UInt32.size) (levels : Nat) :
    Restores word32.nullable (.ofOption .ofNat) levels o := by
  have hsize : UInt32.size ≤ UInt64.size := by decide
  refine restores_nullable fun n hn => ⟨restores_natBelow hsize (h n hn) levels, ?_⟩
  rw [reread_ofNat (Nat.lt_of_lt_of_le (h n hn) hsize)]
  nofun

/-- Lists of identifiers are read back. -/
@[simp] theorem restores_ids {sort : Named} (ids : List (Id sort)) (levels : Nat) :
    Restores (list Id.reader) (.ofList Id.written) (levels + 1) ids :=
  restores_list fun id _ => restores_id id levels

/-- Variables are read back. -/
@[simp] theorem restores_context (context : Context) (levels : Nat) :
    Restores Context.reader Context.written (levels + 1) context :=
  (restores_sortedMap_iff fun _ => rfl).mpr fun e _ => restores_string levels e.2

/-- States are read back. -/
@[simp] theorem restores_status (status : Status) (levels : Nat) :
    Restores Status.reader (fun status => .string status.name) levels status := by
  cases status <;> rfl

/-- Kinds of templates are read back. -/
@[simp] theorem restores_kind (kind : TemplateKind) (levels : Nat) :
    Restores (choice TemplateKind.table) (fun kind => .string kind.name) levels kind := by
  cases kind <;> rfl

/-! ## Records -/

/-- Devices are read back. -/
theorem restores_device (d : Device) (levels : Nat) :
    Restores Device.reader Device.written (levels + 1) d := by
  unfold Restores Device.reader Device.written
  rw [Written.reread, Fields.of?_object (by rfl) (by decide)]
  simp [Written.rereadMembers, Fields.optional]

/-- Settings of organizations are read back. -/
theorem restores_organizationSettings (s : OrganizationSettings) (levels : Nat) :
    Restores OrganizationSettings.reader OrganizationSettings.written (levels + 2) s := by
  unfold Restores OrganizationSettings.reader OrganizationSettings.written
  rw [Written.reread, Fields.of?_object (by rfl) (by decide)]
  simp [Written.rereadMembers]

/-- Groups are read back. -/
theorem restores_deviceGroup (g : DeviceGroup) (levels : Nat) :
    Restores DeviceGroup.reader DeviceGroup.written (levels + 2) g := by
  unfold Restores DeviceGroup.reader DeviceGroup.written
  rw [Written.reread, Fields.of?_object (by rfl) (by decide)]
  simp [Written.rereadMembers]

/-- Memberships are read back if their tunnel id has 32 bits. -/
theorem restores_vpnClient {c : VpnClient} (hvni : ∀ vni ∈ c.vni, vni < UInt32.size)
    (levels : Nat) : Restores VpnClient.reader VpnClient.written (levels + 1) c := by
  unfold Restores VpnClient.reader VpnClient.written
  rw [Written.reread, Fields.of?_object (by rfl) (by decide)]
  simp [Written.rereadMembers, Fields.optional,
    restores_optional_word32 hvni]

/-- A configuration is read as its document is. -/
theorem reader_configuration (c : Configuration) (levels : Nat) :
    Configuration.reader (levels + 2) c.written.reread =
      (c.document.reread? (levels + 1)).map fun document => { c with document } := by
  unfold Configuration.reader Configuration.written
  rw [Written.reread, Fields.of?_object (by rfl) (by decide), Option.map_eq_bind]
  simp [Written.rereadMembers]
  rfl

/-- A template is read as its document is, if its creation number has 64 bits. -/
theorem reader_template {t : Template} (hcreated : t.created < UInt64.size) (levels : Nat) :
    Template.reader (levels + 2) t.written.reread =
      (t.document.reread? (levels + 1)).map fun document => { t with document } := by
  have hnumber : word64 (levels + 1) (Written.ofNat t.created).reread = some t.created :=
    restores_natBelow (Nat.le_refl _) hcreated (levels + 1)
  unfold Template.reader Template.written
  rw [Written.reread, Fields.of?_object (by rfl) (by decide), Option.map_eq_bind]
  simp [Written.rereadMembers, Fields.optional, hnumber]
  rfl

/-- A server is read as its document is. -/
theorem reader_vpnServer (s : VpnServer) (levels : Nat) :
    VpnServer.reader (levels + 1) s.written.reread =
      (s.document.reread? levels).map fun document => { s with document } := by
  unfold VpnServer.reader VpnServer.written
  rw [Written.reread, Fields.of?_object (by rfl) (by decide), Option.map_eq_bind]
  simp [Written.rereadMembers, Fields.optional]
  rfl

/-- A record that is read as its document is comes back exactly when its document does. -/
theorem restores_iff_document {α : Type} {record : Json → α} {j : Json} {found : Option Json}
    (hrecord : Function.Injective record) : found.map record = some (record j) ↔ found = some j :=
  (Option.map_injective hrecord).eq_iff (b := some j)

/-- Configurations are read back exactly when their document is. -/
theorem restores_configuration_iff {c : Configuration} {levels : Nat} :
    Restores Configuration.reader Configuration.written (levels + 2) c ↔
      c.document.reread? (levels + 1) = some c.document := by
  rw [Restores, reader_configuration]
  exact restores_iff_document fun _ _ h => congrArg Configuration.document h

/-- Templates are read back exactly when their document is. -/
theorem restores_template_iff {t : Template} {levels : Nat} (hcreated : t.created < UInt64.size) :
    Restores Template.reader Template.written (levels + 2) t ↔
      t.document.reread? (levels + 1) = some t.document := by
  rw [Restores, reader_template hcreated]
  exact restores_iff_document fun _ _ h => congrArg Template.document h

/-- Servers are read back exactly when their document is. -/
theorem restores_vpnServer_iff {s : VpnServer} {levels : Nat} :
    Restores VpnServer.reader VpnServer.written (levels + 1) s ↔
      s.document.reread? levels = some s.document := by
  rw [Restores, reader_vpnServer]
  exact restores_iff_document fun _ _ h => congrArg VpnServer.document h

end Fleet
