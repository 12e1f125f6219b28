/-
# Addresses are read back

The canonical text of an IP address is read as that address: octets with points between them, groups
with colons between them, the two colons that stand for the longest run of zeros, and the four
octets at the end of an address of the fourth version in groups.

Main statement: `IpAddress.parse?_render`.
-/
import Fleet.IpAddress
import Fleet.Proofs.Digits
import Mathlib.Data.List.Basic
import Mathlib.Data.List.Induction

namespace Fleet.IpAddress

variable {base n limit : Nat} {ds os gs : List Nat} {cs rest : List Char} {first : Bool}

/-! ## Digits -/

/-- The digits of a base: ten, or sixteen with letters. -/
def IsBase (base : Nat) : Prop := base = 10 ∨ base = 16

/-- A digit is read back. -/
theorem digit?_digitChar (hbase : IsBase base) : ∀ d < base, digit? base d.digitChar = some d := by
  rcases hbase with rfl | rfl <;> decide

/-- Nothing is read of a text that does not start with a digit. -/
theorem spanDigits_of_head (h : ∀ c ∈ cs.head?, digit? base c = none) :
    spanDigits base cs = ([], cs) := by
  cases cs with
  | nil => rfl
  | cons c cs => rw [spanDigits, h c rfl]

/-- Digits are read up to the first character that is none. -/
theorem spanDigits_append (hbase : IsBase base) (hds : ∀ d ∈ ds, d < base)
    (hrest : ∀ c ∈ rest.head?, digit? base c = none) :
    spanDigits base (ds.map Nat.digitChar ++ rest) = (ds, rest) := by
  induction ds with
  | nil => exact spanDigits_of_head hrest
  | cons d ds ih =>
      rw [List.map_cons, List.cons_append, spanDigits,
        digit?_digitChar hbase d (hds d List.mem_cons_self)]
      dsimp only
      rw [ih fun d' hd' => hds d' (List.mem_cons_of_mem d hd')]

/-- What the digits leave is the end of the text. -/
theorem spanDigits_suffix (base : Nat) (cs : List Char) : (spanDigits base cs).2 <:+ cs := by
  induction cs with
  | nil => exact List.suffix_refl []
  | cons c cs ih =>
      rw [spanDigits]
      split
      · exact ih.trans (List.suffix_cons c cs)
      · exact List.suffix_refl (c :: cs)

/-! ## Octets -/

/-- An octet is read back. -/
theorem readOctet_append (hn : n < 256) (hrest : ∀ c ∈ rest.head?, digit? 10 c = none) :
    readOctet (Nat.toDigits 10 n ++ rest) = some (n, rest) := by
  have hten : IsBase 10 := Or.inl rfl
  have hspan : spanDigits 10 (Nat.toDigits 10 n ++ rest) = (digitsOf 10 n, rest) := by
    rw [toDigits_eq_map (by decide)]
    exact spanDigits_append hten (fun d => lt_of_mem_digitsOf (by decide)) hrest
  have hvalue : ofDigits 10 (digitsOf 10 n) = n := foldl_digitsOf (by decide) n
  unfold readOctet
  rw [hspan]
  dsimp only
  rw [hvalue, if_neg]
  rintro (hempty | hlong | ⟨hzero, hlong⟩ | hbig)
  · exact digitsOf_ne_nil (by decide) n (List.isEmpty_iff.mp hempty)
  · have hlength : (digitsOf 10 n).length ≤ 3 :=
      length_digitsOf_le (by decide) (by decide) (show n < 10 ^ 3 by omega)
    omega
  · obtain rfl := head?_digitsOf (by decide) hzero
    exact hlong (by rw [digitsOf_of_lt (by decide)]; rfl)
  · omega

/-- The text of octets. -/
def octetsChars (os : List Nat) : List Char :=
  ['.'].intercalate (os.map (Nat.toDigits 10))

/-- Octets with points between them are written so. -/
theorem toList_dottedText (os : List Nat) : (dottedText os).toList = octetsChars os := by
  unfold dottedText octetsChars
  rw [String.toList_intercalate, List.map_map]
  congr 1
  exact List.map_congr_left fun n _ => by simp

/-- Octets are read back. -/
theorem readOctets_append (hos : ∀ o ∈ os, o < 256) (hrest : ∀ c ∈ rest.head?, digit? 10 c = none) :
    readOctets os.length (octetsChars os ++ rest) = some (os, rest) := by
  induction os with
  | nil => rfl
  | cons o os ih =>
      have hos' : ∀ o' ∈ os, o' < 256 := fun o' ho' => hos o' (List.mem_cons_of_mem o ho')
      cases os with
      | nil =>
          have htext : octetsChars [o] = Nat.toDigits 10 o := by
            simp [octetsChars]
          rw [htext, List.length_singleton, readOctets,
            readOctet_append (hos o List.mem_cons_self) hrest]
          rfl
      | cons o' os =>
          have htext : octetsChars (o :: o' :: os) ++ rest =
              Nat.toDigits 10 o ++ '.' :: (octetsChars (o' :: os) ++ rest) := by
            simp [octetsChars, List.intercalate_cons_cons]
          have hpoint : ∀ c ∈ ('.' :: (octetsChars (o' :: os) ++ rest)).head?,
              digit? 10 c = none := by
            rintro c ⟨⟩
            decide
          rw [htext, List.length_cons, List.length_cons, readOctets,
            readOctet_append (hos o List.mem_cons_self) hpoint]
          show ((readOctets (os.length + 1) _).map _) = _
          rw [show os.length + 1 = (o' :: os).length from rfl, ih hos']
          rfl

/-- Octets are read back if nothing follows. -/
theorem readOctets_octetsChars (hos : ∀ o ∈ os, o < 256) :
    readOctets os.length (octetsChars os) = some (os, []) := by
  have happend : readOctets os.length (octetsChars os ++ []) = some (os, []) :=
    readOctets_append hos (by simp)
  rwa [List.append_nil] at happend

/-- More than one octet is not read where there is no point. -/
theorem readOctets_of_no_point (h : '.' ∉ cs) : readOctets (n + 2) cs = none := by
  rw [readOctets, Option.bind_eq_none_iff]
  rintro ⟨o, rest⟩ hread
  have hsuffix : rest <:+ cs := by
    unfold readOctet at hread
    dsimp only at hread
    split at hread
    · cases hread
    · cases hread
      exact spanDigits_suffix 10 cs
  dsimp only
  split
  · exact absurd (hsuffix.subset List.mem_cons_self) h
  · rfl

/-- No octet is read where the text does not start with a decimal digit. -/
theorem readOctets_of_head (h : ∀ c ∈ cs.head?, digit? 10 c = none) :
    readOctets (n + 2) cs = none := by
  have hnone : readOctet cs = none := by
    unfold readOctet
    rw [spanDigits_of_head h]
    rfl
  rw [readOctets, hnone]
  rfl

/-! ## Groups -/

/-- A group is read back. -/
theorem readGroup_append (hn : n < 65536) (hrest : ∀ c ∈ rest.head?, digit? 16 c = none) :
    readGroup (Nat.toDigits 16 n ++ rest) = some (n, rest) := by
  have hspan : spanDigits 16 (Nat.toDigits 16 n ++ rest) = (digitsOf 16 n, rest) := by
    rw [toDigits_eq_map (by decide)]
    exact spanDigits_append (Or.inr rfl) (fun d => lt_of_mem_digitsOf (by decide)) hrest
  have hvalue : ofDigits 16 (digitsOf 16 n) = n := foldl_digitsOf (by decide) n
  unfold readGroup
  rw [hspan]
  dsimp only
  rw [hvalue, if_neg]
  rintro (hempty | hlong)
  · exact digitsOf_ne_nil (by decide) n (List.isEmpty_iff.mp hempty)
  · have hlength : (digitsOf 16 n).length ≤ 4 :=
      length_digitsOf_le (by decide) (by decide) (show n < 16 ^ 4 by omega)
    omega

/-- No group is read where the text does not start with a hexadecimal digit. -/
theorem readGroup_of_head (h : ∀ c ∈ cs.head?, digit? 16 c = none) : readGroup cs = none := by
  unfold readGroup
  rw [spanDigits_of_head h]
  rfl

/-- The text of groups, with a colon before each of them but perhaps the first. -/
def groupsChars : Bool → List Nat → List Char
  | _, [] => []
  | true, g :: gs => Nat.toDigits 16 g ++ groupsChars false gs
  | false, g :: gs => ':' :: (Nat.toDigits 16 g ++ groupsChars false gs)

/-- Groups with colons between them are written so. -/
theorem toList_groupsText (gs : List Nat) : (groupsText gs).toList = groupsChars true gs := by
  have hchars : ∀ gs : List Nat,
      [':'].intercalate (gs.map (Nat.toDigits 16)) = groupsChars true gs := by
    intro gs
    induction gs with
    | nil => rfl
    | cons g gs ih =>
        cases gs with
        | nil => simp [groupsChars]
        | cons g' gs =>
            rw [List.map_cons, List.map_cons, List.intercalate_cons_cons, ← List.map_cons, ih]
            simp [groupsChars]
  unfold groupsText
  rw [String.toList_intercalate, List.map_map, ← hchars]
  congr 1
  exact List.map_congr_left fun n _ => by simp

/-- There is no point in the text of groups. -/
theorem not_mem_groupsChars (first : Bool) (gs : List Nat) : '.' ∉ groupsChars first gs := by
  have hgroup : ∀ g, '.' ∉ Nat.toDigits 16 g := by
    intro g hmem
    rw [toDigits_eq_map (by decide)] at hmem
    obtain ⟨d, _, hd⟩ := List.mem_map.mp hmem
    exact Nat.digitChar_ne '.' (by decide) hd
  induction gs generalizing first with
  | nil => simp [groupsChars]
  | cons g gs ih => cases first <;> simp [groupsChars, hgroup g, ih false]

/-- A text goes on behind groups without a further one: it ends, or two colons follow. -/
def EndsGroups (rest : List Char) : Prop := rest = [] ∨ ∃ tail, rest = ':' :: ':' :: tail

/-- There is no digit then. -/
theorem EndsGroups.head (h : EndsGroups rest) : ∀ c ∈ rest.head?, digit? 16 c = none := by
  rcases h with rfl | ⟨tail, rfl⟩
  · simp
  · rintro c ⟨⟩
    decide

/-- Where there is no point, no octets are read in the place of groups. -/
theorem octets_of_no_point (h : '.' ∉ cs) :
    (if limit = 0 then none else (dropColon first cs).bind (readOctets 4)) = none := by
  split
  · rfl
  · rw [Option.bind_eq_none_iff]
    intro text htext
    refine readOctets_of_no_point fun hmem => h ?_
    unfold dropColon at htext
    split at htext
    · cases htext
      exact hmem
    · split at htext
      · cases htext
        exact List.mem_cons_of_mem _ hmem
      · cases htext

/-- No groups are read where none follow. -/
theorem readGroups_of_ends (hrest : EndsGroups rest) (hpoint : '.' ∉ rest) :
    readGroups first limit rest = ([], false, rest) := by
  cases limit with
  | zero => rfl
  | succ limit =>
      have hgroup : (dropColon first rest).bind readGroup = none := by
        rw [Option.bind_eq_none_iff]
        intro text htext
        unfold dropColon at htext
        split at htext
        · cases htext
          exact readGroup_of_head hrest.head
        · rcases hrest with rfl | ⟨tail, rfl⟩
          · cases htext
          · cases htext
            exact readGroup_of_head (by rintro c ⟨⟩; decide)
      rw [readGroups, octets_of_no_point hpoint, hgroup]

/-- Groups are read back. -/
theorem readGroups_append (hgs : ∀ g ∈ gs, g < 65536) (hlength : gs.length ≤ limit)
    (hrest : EndsGroups rest) (hpoint : '.' ∉ rest) :
    readGroups first limit (groupsChars first gs ++ rest) = (gs, false, rest) := by
  induction gs generalizing first limit with
  | nil => exact readGroups_of_ends hrest hpoint
  | cons g gs ih =>
      obtain ⟨limit, rfl⟩ := Nat.exists_eq_add_one_of_ne_zero (n := limit) (by
        rw [List.length_cons] at hlength
        omega)
      have hnoPoint : '.' ∉ groupsChars first (g :: gs) ++ rest := fun hmem =>
        (List.mem_append.mp hmem).elim (not_mem_groupsChars _ _) hpoint
      have hdrop : dropColon first (groupsChars first (g :: gs) ++ rest) =
          some (Nat.toDigits 16 g ++ (groupsChars false gs ++ rest)) := by
        cases first <;> simp [dropColon, groupsChars]
      have hhead : ∀ c ∈ (groupsChars false gs ++ rest).head?, digit? 16 c = none := by
        cases gs with
        | nil => exact hrest.head
        | cons g' gs =>
            rintro c ⟨⟩
            decide
      rw [readGroups, octets_of_no_point hnoPoint, hdrop, Option.bind_some,
        readGroup_append (hgs g List.mem_cons_self) hhead]
      dsimp only
      rw [ih (fun g' hg' => hgs g' (List.mem_cons_of_mem g hg')) (by simpa using hlength)]

/-- Groups are read back if nothing follows. -/
theorem readGroups_groupsChars (hgs : ∀ g ∈ gs, g < 65536) (hlength : gs.length ≤ limit) :
    readGroups true limit (groupsChars true gs) = (gs, false, []) := by
  have happend : readGroups true limit (groupsChars true gs ++ []) = (gs, false, []) :=
    readGroups_append hgs hlength (Or.inl rfl) List.not_mem_nil
  rwa [List.append_nil] at happend

/-! ## Runs of zeros -/

/-- A run of zeros starts where the longest one is found, and ends in the list. -/
theorem longestZeroRun_le (gs : List Nat) :
    (longestZeroRun gs).2 ≤ zeroRun (gs.drop (longestZeroRun gs).1) := by
  unfold longestZeroRun
  generalize List.range gs.length = starts
  induction starts using List.reverseRecOn with
  | nil => exact Nat.zero_le _
  | append_singleton starts i ih =>
      rw [List.foldl_append, List.foldl_cons, List.foldl_nil]
      split
      · exact Nat.le_refl _
      · exact ih

/-- A run of zeros at the start of a list. -/
theorem take_of_le_zeroRun (h : n ≤ zeroRun gs) : gs.take n = List.replicate n 0 := by
  induction gs generalizing n with
  | nil =>
      obtain rfl : n = 0 := Nat.le_zero.mp h
      rfl
  | cons g gs ih =>
      cases n with
      | zero => rfl
      | succ n =>
          unfold zeroRun at h
          by_cases hg : g = 0
          · subst hg
            rw [List.takeWhile_cons_of_pos (by rfl), List.length_cons] at h
            rw [List.take_succ_cons, ih (Nat.le_of_succ_le_succ h), List.replicate_succ]
          · rw [List.takeWhile_cons_of_neg (by simpa using hg)] at h
            cases h

/-- A run of zeros is no longer than the list. -/
theorem zeroRun_le_length (gs : List Nat) : zeroRun gs ≤ gs.length :=
  (List.takeWhile_sublist _).length_le

/-! ## Addresses -/

/-- The octets of an address make the address. -/
theorem ofOctets?_toList (octets : Vector UInt8 4) :
    ofOctets? (octets.toList.map UInt8.toNat) = some (v4 octets) := by
  have hsame : ((octets.toList.map UInt8.toNat).map UInt8.ofNat).toArray = octets.toArray := by
    rw [List.map_map, List.map_id'' (f := UInt8.ofNat ∘ UInt8.toNat) fun _ => UInt8.ofNat_toNat]
    exact Array.toArray_toList
  unfold ofOctets?
  rw [dif_pos (by rw [hsame]; exact octets.size_toArray)]
  exact congrArg (some ∘ v4) (Vector.toArray_inj.mp hsame)

/-- The groups of an address make the address. -/
theorem ofGroups?_toList (groups : Vector UInt16 8) :
    ofGroups? (groups.toList.map UInt16.toNat) = some (v6 groups) := by
  have hsame : ((groups.toList.map UInt16.toNat).map UInt16.ofNat).toArray = groups.toArray := by
    rw [List.map_map, List.map_id'' (f := UInt16.ofNat ∘ UInt16.toNat) fun _ => UInt16.ofNat_toNat]
    exact Array.toArray_toList
  unfold ofGroups?
  rw [dif_pos (by rw [hsame]; exact groups.size_toArray)]
  exact congrArg (some ∘ v6) (Vector.toArray_inj.mp hsame)

/-- Eight groups are read back. -/
theorem parseV6?_groups (hgs : ∀ g ∈ gs, g < 65536) (hlength : gs.length = 8) :
    parseV6? (groupsChars true gs) = ofGroups? gs := by
  unfold parseV6?
  rw [readGroups_groupsChars hgs hlength.le]
  dsimp only
  rw [if_pos hlength]
  rfl

/-- What is read before and after two colons is an address with the zeros between them. -/
theorem parseV6?_of_read {tail : List Nat} {dotted : Bool}
    (hhead : readGroups true 8 cs = (gs, false, ':' :: ':' :: rest)) (hlength : gs.length ≠ 8)
    (htail : readGroups true (7 - gs.length) rest = (tail, dotted, [])) :
    parseV6? cs = ofGroups? (gs ++ List.replicate (8 - gs.length - tail.length) 0 ++ tail) := by
  unfold parseV6?
  rw [hhead]
  dsimp only
  rw [if_neg hlength, if_neg Bool.false_ne_true]
  simp only [htail]
  rfl

/-- Groups on both sides of two colons are read back with the zeros between them. -/
theorem parseV6?_abridged {tail : List Nat} (hgs : ∀ g ∈ gs, g < 65536)
    (htail : ∀ g ∈ tail, g < 65536) (hlength : gs.length + tail.length ≤ 7) :
    parseV6? (groupsChars true gs ++ ':' :: ':' :: groupsChars true tail) =
      ofGroups? (gs ++ List.replicate (8 - gs.length - tail.length) 0 ++ tail) := by
  have hpoint : '.' ∉ ':' :: ':' :: groupsChars true tail := by
    simp [not_mem_groupsChars]
  exact parseV6?_of_read
    (readGroups_append hgs (by omega) (Or.inr ⟨groupsChars true tail, rfl⟩) hpoint) (by omega)
    (readGroups_groupsChars htail (by omega))

/-- Four octets behind two colons and a group of ones are read back as the last two groups. -/
theorem parseV6?_mapped {a b : Nat} (ha : a < 65536) (hb : b < 65536) :
    parseV6? (':' :: ':' :: 'f' :: 'f' :: 'f' :: 'f' :: ':' ::
        octetsChars [a / 256, a % 256, b / 256, b % 256]) =
      ofGroups? [0, 0, 0, 0, 0, 0xFFFF, a, b] := by
  have hbytes : ∀ o ∈ [a / 256, a % 256, b / 256, b % 256], o < 256 := by
    simp only [List.forall_mem_cons, List.not_mem_nil, IsEmpty.forall_iff, implies_true, and_true]
    omega
  have hoctets : readOctets 4 (octetsChars [a / 256, a % 256, b / 256, b % 256]) =
      some ([a / 256, a % 256, b / 256, b % 256], []) :=
    readOctets_octetsChars hbytes
  generalize octetsChars [a / 256, a % 256, b / 256, b % 256] = text at hoctets
  have hdrop : ∀ cs, dropColon true cs = some cs := fun _ => rfl
  have hhead : readGroups true 8 (':' :: ':' :: 'f' :: 'f' :: 'f' :: 'f' :: ':' :: text) =
      ([], false, ':' :: ':' :: 'f' :: 'f' :: 'f' :: 'f' :: ':' :: text) := by
    rw [readGroups, if_neg (by decide), hdrop, Option.bind_some, Option.bind_some,
      readOctets_of_head (by rintro c ⟨⟩; decide), readGroup_of_head (by rintro c ⟨⟩; decide)]
  have htail : readGroups true 7 ('f' :: 'f' :: 'f' :: 'f' :: ':' :: text) =
      ([0xFFFF, a, b], true, []) := by
    have hones : readGroup ('f' :: 'f' :: 'f' :: 'f' :: ':' :: text) = some (0xFFFF, ':' :: text) :=
      readGroup_append (n := 0xFFFF) (by decide) (by rintro c ⟨⟩; decide)
    have hcolon : dropColon false (':' :: text) = some text := rfl
    rw [readGroups, if_neg (by decide), hdrop, Option.bind_some, Option.bind_some,
      readOctets_of_head (by rintro c ⟨⟩; decide), hones]
    dsimp only
    rw [readGroups, if_neg (by decide), hcolon, Option.bind_some, hoctets]
    dsimp only
    rw [Nat.div_add_mod', Nat.div_add_mod']
  exact parseV6?_of_read hhead (by decide) htail

/-- The text of an address in groups. -/
theorem toList_render_v6 (groups : Vector UInt16 8) :
    let gs := groups.toList.map UInt16.toNat
    (v6 groups).render.toList =
      if zeroRun gs = 5 ∧ gs[5]? = some 0xFFFF then
        ':' :: ':' :: 'f' :: 'f' :: 'f' :: 'f' :: ':' ::
          octetsChars ((gs.drop 6).flatMap fun g => [g / 256, g % 256])
      else if 1 < (longestZeroRun gs).2 then
        groupsChars true (gs.take (longestZeroRun gs).1) ++
          ':' :: ':' :: groupsChars true (gs.drop ((longestZeroRun gs).1 + (longestZeroRun gs).2))
      else groupsChars true gs := by
  dsimp only
  unfold render
  dsimp only
  split
  · rw [String.toList_append, toList_dottedText]
    rfl
  · split
    · rw [String.toList_append, String.toList_append, toList_groupsText, toList_groupsText,
        List.append_assoc]
      rfl
    · rw [toList_groupsText]

/-- An address in groups is read back from its canonical text, which are not four octets. -/
theorem parseV6?_render (groups : Vector UInt16 8) :
    readOctets 4 (v6 groups).render.toList = none ∧
      parseV6? (v6 groups).render.toList = some (v6 groups) := by
  rw [toList_render_v6, ← ofGroups?_toList groups]
  have hgs : ∀ g ∈ groups.toList.map UInt16.toNat, g < 65536 := by
    intro g hg
    obtain ⟨w, _, rfl⟩ := List.mem_map.mp hg
    exact w.toNat_lt
  have hlength : (groups.toList.map UInt16.toNat).length = 8 := by
    rw [List.length_map, Vector.length_toList]
  generalize groups.toList.map UInt16.toNat = gs at hgs hlength
  split
  · rename_i hmapped
    obtain ⟨hzeros, hones⟩ := hmapped
    refine ⟨readOctets_of_head (by rintro c ⟨⟩; decide), ?_⟩
    obtain ⟨a, b, rfl⟩ : ∃ a b, gs = [0, 0, 0, 0, 0, 0xFFFF, a, b] := by
      have htake : gs.take 5 = List.replicate 5 0 := take_of_le_zeroRun hzeros.ge
      have hdrop : (gs.drop 5).length = 3 := by
        rw [List.length_drop, hlength]
      obtain ⟨x, a, b, habc⟩ := List.length_eq_three.mp hdrop
      have hx : x = 0xFFFF := by
        have hget : (gs.drop 5)[0]? = gs[5]? := List.getElem?_drop
        rw [habc, hones] at hget
        exact Option.some.inj hget
      refine ⟨a, b, ?_⟩
      rw [← List.take_append_drop 5 gs, htake, habc, hx]
      rfl
    exact parseV6?_mapped (hgs a (by simp)) (hgs b (by simp))
  · split
    · rename_i hrun
      have hle := longestZeroRun_le gs
      generalize (longestZeroRun gs).1 = start at hrun hle
      generalize (longestZeroRun gs).2 = length at hrun hle
      have hend : start + length ≤ 8 := by
        have hshort := zeroRun_le_length (gs.drop start)
        rw [List.length_drop] at hshort
        omega
      have hzeros : (gs.drop start).take length = List.replicate length 0 := take_of_le_zeroRun hle
      have hhead : (gs.take start).length = start := by
        rw [List.length_take]
        omega
      have htail : (gs.drop (start + length)).length = 8 - (start + length) := by
        rw [List.length_drop, hlength]
      refine ⟨readOctets_of_no_point ?_, ?_⟩
      · simp [not_mem_groupsChars]
      · rw [parseV6?_abridged (fun g hg => hgs g (List.mem_of_mem_take hg))
          (fun g hg => hgs g (List.mem_of_mem_drop hg)) (by omega), hhead, htail,
          show 8 - start - (8 - (start + length)) = length by omega, ← hzeros, ← List.drop_drop,
          List.append_assoc, List.take_append_drop, List.take_append_drop]
    · exact ⟨readOctets_of_no_point (not_mem_groupsChars true gs), parseV6?_groups hgs hlength⟩

/-- An address is read back from its canonical text. -/
theorem parse?_render (ip : IpAddress) : parse? ip.render = some ip := by
  unfold parse?
  cases ip with
  | v4 octets =>
      have hoctets : ∀ o ∈ octets.toList.map UInt8.toNat, o < 256 := by
        intro o ho
        obtain ⟨w, _, rfl⟩ := List.mem_map.mp ho
        exact w.toNat_lt
      have hread := readOctets_octetsChars hoctets
      rw [List.length_map, Vector.length_toList, ← toList_dottedText] at hread
      rw [render, hread]
      exact ofOctets?_toList octets
  | v6 groups =>
      obtain ⟨hnone, hparse⟩ := parseV6?_render groups
      rw [hnone]
      exact hparse

end Fleet.IpAddress
