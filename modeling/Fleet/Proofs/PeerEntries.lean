/-
# The entries of peers

A WireGuard interface lists the peers that have a public key; a VXLAN server ships a file whose text
lists all of them.  The text of that file is read back as the entries that it was made of, since
these nest no deeper than two levels and have no numbers but integers.

Main statements: `Peer.forall₂_wireguardEntries`, `Json.ofText?_renderPretty`,
`VpnServer.isPeersFile_peersFile`.
-/
import Fleet.Compose.Server
import Fleet.Proofs.Duplicates
import Fleet.Proofs.Positions

namespace Fleet

/-! ## Entries of a WireGuard interface -/

/-- The entry of a peer in a WireGuard interface. -/
structure Peer.IsWireguardEntry (p : Peer) (entry : Json) : Prop where
  /-- It has the public key of the peer. -/
  key : ∃ key, p.publicKey = some key ∧ entry.field? "public_key" = some (.string key)
  /-- It has an address of four octets with the prefix 32. -/
  v4 : p.address.isV4 = true →
    entry.field? "allowed_ips" = some (.string (p.address.render ++ "/32"))
  /-- It has an address of eight groups with the prefix 128. -/
  v6 : p.address.isV4 = false →
    entry.field? "allowed_ips" = some (.string (p.address.render ++ "/128"))
  /-- It has no other fields. -/
  only : ∀ name, name ≠ "public_key" → name ≠ "allowed_ips" → entry.field? name = none

namespace Peer

variable {p : Peer} {entry : Json} {server : VpnServer}

/-- What is made for a peer in an interface has the form of its entry. -/
theorem isWireguardEntry_of_eq_some (h : p.wireguardEntry? = some entry) :
    p.IsWireguardEntry entry := by
  obtain ⟨key, hkey, rfl⟩ := Option.map_eq_some_iff.mp h
  refine ⟨⟨key, hkey, rfl⟩, fun hv4 => ?_, fun hv6 => ?_, fun name hname hname' => ?_⟩
  · show some (Json.string p.network) = _
    rw [network, if_pos hv4]
  · show some (Json.string p.network) = _
    rw [network, hv6]
    rfl
  · simp [Json.field?, Assoc.find?, Key.text_inj, hname.symm, hname'.symm]

/-- A peer without a public key gets no entry. -/
theorem isSome_wireguardEntry? (p : Peer) : p.wireguardEntry?.isSome = p.publicKey.isSome :=
  Option.isSome_map

/-- The peers that have a public key get their entries, in order. -/
theorem forall₂_wireguardEntries (peers : List Peer) :
    List.Forall₂ IsWireguardEntry (peers.filter (·.publicKey.isSome))
      (peers.filterMap wireguardEntry?) := by
  induction peers with
  | nil => exact .nil
  | cons p rest ih =>
      cases hentry : p.wireguardEntry? with
      | none =>
          have hkey : ¬ p.publicKey.isSome = true := by
            rw [← isSome_wireguardEntry?, hentry]
            exact Bool.false_ne_true
          rw [List.filter_cons, if_neg hkey, List.filterMap_cons_none hentry]
          exact ih
      | some entry =>
          have hkey : p.publicKey.isSome = true := by
            rw [← isSome_wireguardEntry?, hentry]
            rfl
          rw [List.filter_cons, if_pos hkey, List.filterMap_cons_some hentry]
          exact .cons (isWireguardEntry_of_eq_some hentry) ih

end Peer

/-! ## Entries of a file of VXLAN peers -/

namespace VpnServer

/-- The tunnel id that the document of a server has for all clients. -/
def sharedId? (server : VpnServer) : Option Nat :=
  ((server.document.locate? [.member "vxlan", .item 0, .member "vni"]).bind Json.nat?).filter
    (· < UInt32.size)

/-- The name that the document of a server has for the VXLAN interface. -/
def interfaceName? (server : VpnServer) : Option String :=
  (server.document.locate? [.member "vxlan", .item 0, .member "name"]).bind Json.text?

end VpnServer

/-- The entry of a peer in the file of the VXLAN peers of a server. -/
structure Peer.IsVxlanEntry (server : VpnServer) (p : Peer) (entry : Json) : Prop where
  /-- It has the tunnel id of the peer. -/
  ownId : ∀ id, p.vni = some id → entry.field? "vni" = some (.ofNat id)
  /-- If the peer has none, it has the one that all clients share. -/
  sharedId : p.vni = none → ∀ id, server.sharedId? = some id → entry.field? "vni" = some (.ofNat id)
  /-- If there is neither, it has null. -/
  noId : p.vni = none → server.sharedId? = none → entry.field? "vni" = some .null
  /-- It has the address of the peer. -/
  remote : entry.field? "remote" = some (.string p.address.render)
  /-- It has the name of the interface, if the document of the server has one. -/
  interface : entry.field? "interface" = server.interfaceName?.map .string
  /-- It has no other fields. -/
  only : ∀ name, name ≠ "vni" → name ≠ "remote" → name ≠ "interface" → entry.field? name = none

namespace Peer

variable {p : Peer} {server : VpnServer}

/-- The tunnel id in the entry of a peer. -/
def listedId (server : VpnServer) (p : Peer) : Json :=
  ((p.vni.or server.fixedVni?).map Json.ofNat).getD .null

/-- The fields of an entry in their order. -/
theorem vxlanEntry_eq (server : VpnServer) (p : Peer) :
    p.vxlanEntry server = .object (
      (server.vxlanInterface?.map fun name => ("interface", Json.string name)).toList ++
        [("remote", .string p.address.render), ("vni", p.listedId server)]) := by
  have hremote : Key.text "remote" < Key.text "vni" := by decide
  have hinterface : Key.text "interface" < Key.text "remote" := by decide
  have hfirst : Assoc.insert "remote" (Json.string p.address.render) [("vni", p.listedId server)] =
      [("remote", .string p.address.render), ("vni", p.listedId server)] := by
    rw [Assoc.insert, if_pos hremote]
  unfold vxlanEntry Json.ofMembers Assoc.insertAll
  rw [← listedId, List.foldl_cons, List.foldl_cons]
  show Json.object (List.foldl _ (Assoc.insert "remote" _ [("vni", _)]) _) = _
  rw [hfirst]
  cases server.vxlanInterface? with
  | none => rfl
  | some name =>
      rw [Option.map_some, Option.toList_some, List.foldl_cons, List.foldl_nil, Assoc.insert,
        if_pos hinterface, List.singleton_append]

/-- What an entry has in a field. -/
theorem field?_vxlanEntry (server : VpnServer) (p : Peer) (name : String) :
    (p.vxlanEntry server).field? name =
      if name = "interface" then server.vxlanInterface?.map .string
      else if name = "remote" then some (.string p.address.render)
      else if name = "vni" then some (p.listedId server)
      else none := by
  rw [vxlanEntry_eq]
  cases server.vxlanInterface? with
  | none =>
      simp only [Option.map_none, Option.toList_none, List.nil_append, Json.field?, Assoc.find?,
        Key.text_inj]
      grind
  | some interface =>
      simp only [Option.map_some, Option.toList_some, List.singleton_append, Json.field?,
        Assoc.find?, Key.text_inj]
      grind

/-- What is made for a peer in the file has the form of its entry, if the server reads its own
document right. -/
theorem isVxlanEntry_vxlanEntry (hid : server.fixedVni? = server.sharedId?)
    (hname : server.vxlanInterface? = server.interfaceName?) (p : Peer) :
    p.IsVxlanEntry server (p.vxlanEntry server) := by
  have hvni : (p.vxlanEntry server).field? "vni" =
      some (((p.vni.or server.sharedId?).map Json.ofNat).getD .null) := by
    rw [field?_vxlanEntry, ← hid]
    rfl
  refine ⟨fun id hown => ?_, fun hown id hshared => ?_, fun hown hshared => ?_, ?_, ?_,
    fun name h₁ h₂ h₃ => ?_⟩
  · rw [hvni, hown]
    rfl
  · rw [hvni, hown, hshared]
    rfl
  · rw [hvni, hown, hshared]
    rfl
  · exact field?_vxlanEntry server p "remote"
  · rw [← hname]
    exact field?_vxlanEntry server p "interface"
  · rw [field?_vxlanEntry, if_neg h₃, if_neg h₂, if_neg h₁]

end Peer

namespace Json

/-! ## Values that are not nested -/

/-- The values of which entries are made. -/
inductive Atomic : Json → Prop where
  | null : Atomic null
  | string (s : String) : Atomic (string s)
  | ofNat (n : Nat) : Atomic (ofNat n)

variable {j : Json} {members : List (String × Json)} {items : List Json} {levels : Nat}

/-- A natural number is an integer or null. -/
theorem ofNat_cases (n : Nat) : (∃ i, ofNat n = number (.integer i)) ∨ ofNat n = null := by
  unfold ofNat
  split
  · exact Or.inl ⟨_, rfl⟩
  · exact Or.inr rfl

namespace Atomic

/-- There are no members to be in order. -/
theorem canonical (h : j.Atomic) : j.Canonical := by
  cases h with
  | null => exact .null
  | string s => exact .string s
  | ofNat n =>
      rcases ofNat_cases n with ⟨i, hi⟩ | hnull
      · rw [hi]
        exact .number _
      · rw [hnull]
        exact .null

/-- There is no decimal number. -/
theorem integral (h : j.Atomic) : j.Integral := by
  cases h with
  | null => exact .null
  | string s => exact .string s
  | ofNat n =>
      rcases ofNat_cases n with ⟨i, hi⟩ | hnull
      · rw [hi]
        exact .integer i
      · rw [hnull]
        exact .null

/-- There is no list and no object. -/
theorem depth_eq_zero (h : j.Atomic) : j.depth = 0 := by
  cases h with
  | null | string => rfl
  | ofNat n =>
      rcases ofNat_cases n with ⟨i, hi⟩ | hnull
      · rw [hi]
        rfl
      · rw [hnull]
        rfl

end Atomic

/-- The document that a text denotes, if its lists and objects nest at most this many levels. -/
def ofText? (levels : Nat) (text : String) : Option Json :=
  (Written.parse? text).bind (·.toJson? levels)

/-- The indented text of a document in order denotes it if its numbers read back and it is not too
deep. -/
theorem ofText?_renderPretty (hj : j.Canonical) (hnumbers : j.NumbersReadBack)
    (hlevels : j.depth ≤ levels) (width : Nat) :
    ofText? levels (j.renderPretty width) = some j := by
  rw [ofText?, renderPretty, Written.parse?_pretty, Option.bind_some]
  exact (reread?_eq_some_iff hj).mpr ⟨hlevels, hnumbers⟩

/-- The indented text of a list of objects of atomic values in order denotes the list. -/
theorem ofText?_renderPretty_of_atomic (hsorted : ∀ j ∈ items, ∃ members, j = object members ∧
    Assoc.Sorted members ∧ ∀ e ∈ members, e.2.Atomic) (hlevels : 2 ≤ levels) (width : Nat) :
    ofText? levels ((array items).renderPretty width) = some (array items) := by
  have hcanonical : (array items).Canonical := by
    refine .array fun j hj => ?_
    obtain ⟨members, rfl, hmembers, hatomic⟩ := hsorted j hj
    exact .object hmembers fun e he => (hatomic e he).canonical
  have hintegral : (array items).Integral := by
    refine .array fun j hj => ?_
    obtain ⟨members, rfl, _, hatomic⟩ := hsorted j hj
    exact .object fun e he => (hatomic e he).integral
  have hdepth : depthItems items ≤ 1 := by
    refine depthItems_le.mpr fun j hj => ?_
    obtain ⟨members, rfl, _, hatomic⟩ := hsorted j hj
    exact Nat.succ_le_succ (depthMembers_le.mpr fun e he => (hatomic e he).depth_eq_zero.le)
  exact ofText?_renderPretty hcanonical hintegral.numbersReadBack
    ((Nat.succ_le_succ hdepth).trans hlevels) width

end Json

namespace Peer

/-- The entry of a peer is an object of atomic values in order. -/
theorem exists_atomic_vxlanEntry (server : VpnServer) (p : Peer) : ∃ members,
    p.vxlanEntry server = .object members ∧ Assoc.Sorted members ∧ ∀ e ∈ members, e.2.Atomic := by
  have hid : (p.listedId server).Atomic := by
    unfold listedId
    cases p.vni.or server.fixedVni? with
    | none => exact .null
    | some id => exact .ofNat id
  have hremote : Key.text "remote" < Key.text "vni" := by decide
  have hinterface : Key.text "interface" < Key.text "remote" := by decide
  have hends : Key.text "interface" < Key.text "vni" := by decide
  refine ⟨_, vxlanEntry_eq server p, ?_, ?_⟩
  · cases server.vxlanInterface? with
    | none => exact List.pairwise_pair.mpr hremote
    | some name =>
        refine List.pairwise_cons.mpr ⟨?_, List.pairwise_pair.mpr hremote⟩
        exact List.forall_mem_cons.mpr ⟨hinterface, List.forall_mem_singleton.mpr hends⟩
  · intro e he
    rcases List.mem_append.mp he with he | he
    · obtain ⟨name, _, rfl⟩ := Option.map_eq_some_iff.mp (Option.mem_toList.mp he)
      exact .string name
    · rcases List.mem_cons.mp he with rfl | he
      · exact .string _
      · rw [List.mem_singleton.mp he]
        exact hid

end Peer

/-! ## The file of VXLAN peers -/

namespace VpnServer

/-- A file lists the VXLAN peers of a server. -/
structure IsPeersFile (server : VpnServer) (peers : List Peer) (file : Json) : Prop where
  /-- It has this path. -/
  path : file.field? "path" = some (.string "vxlan.json")
  /-- All may read it. -/
  mode : file.field? "mode" = some (.string "0644")
  /-- Its contents are a text of a list of the peers' entries, in order. -/
  contents : ∃ text entries, file.field? "contents" = some (.string text) ∧
    (∀ levels, 2 ≤ levels → Json.ofText? levels text = some (.array entries)) ∧
      List.Forall₂ (Peer.IsVxlanEntry server) peers entries
  /-- It has no other fields. -/
  only : ∀ name, name ≠ "path" → name ≠ "mode" → name ≠ "contents" → file.field? name = none

/-- The file that is made for the peers lists them, if the server reads its own document right. -/
theorem isPeersFile_peersFile {server : VpnServer} (hid : server.fixedVni? = server.sharedId?)
    (hname : server.vxlanInterface? = server.interfaceName?) (peers : List Peer) :
    server.IsPeersFile peers (server.peersFile peers) := by
  have hentries :
      List.Forall₂ (Peer.IsVxlanEntry server) peers (peers.map (Peer.vxlanEntry server)) := by
    rw [List.forall₂_map_right_iff]
    exact List.forall₂_same.mpr fun p _ => Peer.isVxlanEntry_vxlanEntry hid hname p
  refine ⟨rfl, rfl, ⟨_, _, rfl, fun levels hlevels => ?_, hentries⟩, fun name h₁ h₂ h₃ => ?_⟩
  · refine Json.ofText?_renderPretty_of_atomic (fun j hj => ?_) hlevels 4
    obtain ⟨p, _, rfl⟩ := List.mem_map.mp hj
    exact Peer.exists_atomic_vxlanEntry server p
  · simp [peersFile, Json.field?, Assoc.find?, Key.text_inj, h₁.symm, h₂.symm, h₃.symm]

end VpnServer

end Fleet
