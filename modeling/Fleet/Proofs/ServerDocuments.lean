/-
# What the document of a VPN server lists

The document that is composed for a list of peers has them in the first WireGuard interface and in a
file of VXLAN peers, as far as the tunnel family of the server has those, and is otherwise the
document that the server has of its own.  The two changes are described one after the other by the
positions that they edit.  A document that is no object has no members to keep: a VXLAN server loses
it to the list of files.

Main statements: `VpnServer.listsInterface_of_addWireguardPeers`,
`VpnServer.agreeOutside_withPeersFile`, `VpnServer.listsPeers_of_compose`,
`VpnServer.exists_compose_eq_ok`.
-/
import Fleet.Proofs.Outcomes
import Fleet.Proofs.PeerEntries
import Fleet.Proofs.Runs
import Fleet.Proofs.Violations

namespace Fleet

open Outcomes

/-! ## What is read of a document -/

namespace Json

variable {a : Json}

/-- What has a member is an object. -/
theorem isObject_of_field? {name : String} {v : Json} (h : a.field? name = some v) :
    a.isObject = true := by
  cases a with
  | object members => rfl
  | null | bool | number | string | array => cases h

/-- A path of names that reads the first entry of a section leads to a position, if the section is a
list of objects. -/
theorem at?_eq_locate? {list : String} (hlist : list ≠ "0")
    (hobjects : ∀ v, a.field? list = some v →
      ∃ entries, v = array entries ∧ ∀ entry ∈ entries, entry.isObject = true) (name : String) :
    a.at? [list, "0", name] = a.locate? [.member list, .item 0, .member name] := by
  cases a with
  | object members =>
      show (Assoc.find? list members).bind _ = (Assoc.find? list members).bind _
      cases hfind : Assoc.find? list members with
      | none => rfl
      | some v =>
          obtain ⟨entries, rfl, hentries⟩ := hobjects v hfind
          cases entries with
          | nil => rfl
          | cons first rest =>
              obtain ⟨fields, rfl⟩ := exists_members (hentries first List.mem_cons_self)
              rfl
  | array items =>
      rw [at?, step?, if_neg hlist]
      rfl
  | null | bool | number | string => rfl

/-- The entries in the list of files. -/
def fileEntries (document : Json) : List Json :=
  ((document.field? "files").bind items?).getD []

/-- Merging a list of one item appends the item to a list, and replaces anything else. -/
theorem merge_singleton (j item : Json) :
    j.merge (array [item]) = array (j.items?.getD [] ++ [item]) := by
  cases j with
  | array items => rw [merge, items?, Option.getD_some]
  | null | bool | number | string | object => simp [merge, items?]

/-- Merging a file into an object appends it to the list of files. -/
theorem merge_file (members : List (String × Json)) (file : Json) :
    (object members).merge (object [("files", array [file])]) =
      object (Assoc.insert "files" (array ((object members).fileEntries ++ [file])) members) := by
  have hentries : (object members).fileEntries =
      ((Assoc.find? "files" members).bind items?).getD [] := rfl
  rw [merge, mergeMembers, hentries]
  cases Assoc.find? "files" members with
  | none =>
      rw [mergeMembers]
      rfl
  | some old =>
      dsimp only
      rw [mergeMembers, merge_singleton, Option.bind_some]

end Json

/-- A family for VXLAN but not for WireGuard. -/
theorem TunnelFamily.eq_vxlan {f : TunnelFamily} (hwireguard : f.usesWireguard = false)
    (hvxlan : f.usesVxlan = true) : f = .vxlan := by
  cases f with
  | vxlan => rfl
  | other => cases hvxlan
  | wireguard | vxlanOverWireguard => cases hwireguard

namespace VpnServer

variable {server : VpnServer} {peers : List Peer} {document a b entry edited : Json}

/-! ## Edits of a document -/

/-- What is edited of a WireGuard interface. -/
inductive EditsInterface (server : VpnServer) : List Json.Step → Prop where
  /-- The list of peers. -/
  | peers : EditsInterface server [.member "peers"]
  /-- The private key, if the server has one. -/
  | privateKey {key : String} (h : server.privateKey = some key) :
      EditsInterface server [.member "private_key"]

/-- The positions of these edits in a document that has the interface first in its list. -/
def EditsWireguard (server : VpnServer) (position : List Json.Step) : Prop :=
  ∃ inner, server.EditsInterface inner ∧ position = .member "wireguard" :: .item 0 :: inner

/-- What is edited of the document of a server. -/
inductive Edits (server : VpnServer) : List Json.Step → Prop where
  /-- The first WireGuard interface. -/
  | wireguard {position : List Json.Step} (hfamily : server.family.usesWireguard = true)
      (h : server.EditsWireguard position) : Edits server position
  /-- The list of files. -/
  | files (hfamily : server.family.usesVxlan = true) : Edits server [.member "files"]

/-! ## The WireGuard interface -/

/-- An interface with its peers differs in the peers and perhaps the private key. -/
theorem agreeOutside_of_withPeers (h : server.withPeers peers entry = some edited) :
    Json.AgreeOutside server.EditsInterface entry edited := by
  cases entry with
  | object members =>
      cases h
      have hpeers : Json.AgreeOutside server.EditsInterface (.object members) (.object
          (Assoc.insert "peers" (.array (peers.filterMap Peer.wireguardEntry?)) members)) :=
        (Json.agreeOutside_insert "peers" _ members).mono fun _ hp => hp ▸ .peers
      cases hkey : server.privateKey with
      | none => exact hpeers
      | some key =>
          exact hpeers.trans ((Json.agreeOutside_insert "private_key" _ _).mono
            fun _ hp => hp ▸ .privateKey hkey)
  | null | bool | number | string | array => cases h

/-- It lists the peers, and it has the private key of the server. -/
theorem field?_of_withPeers (h : server.withPeers peers entry = some edited) :
    edited.field? "peers" = some (.array (peers.filterMap Peer.wireguardEntry?)) ∧
      ∀ key, server.privateKey = some key → edited.field? "private_key" = some (.string key) := by
  cases entry with
  | object members =>
      cases h
      cases hkey : server.privateKey with
      | none => exact ⟨Assoc.find?_insert_self "peers" _ members, nofun⟩
      | some key =>
          refine ⟨?_, fun key' hkey' => ?_⟩
          · show Assoc.find? "peers" (Assoc.insert "private_key" _ _) = _
            rw [Assoc.find?_insert_ne (by decide), Assoc.find?_insert_self]
          · cases hkey'
            exact Assoc.find?_insert_self "private_key" _ _
  | null | bool | number | string | array => cases h

/-- A list whose first entry is changed was one with that entry first. -/
theorem exists_first_of_updateAt? {f : Json → Option Json} {v : Json} {items : List Json}
    (h : v.updateAt? f ["0"] = some (.array items)) : ∃ first rest edited,
      v = .array (first :: rest) ∧ f first = some edited ∧ items = edited :: rest := by
  cases v with
  | object members =>
      obtain ⟨_, _, heq⟩ := Option.map_eq_some_iff.mp h
      cases heq
  | array entries =>
      cases entries with
      | nil => cases h
      | cons first rest =>
          obtain ⟨edited, hedited, heq⟩ := Option.map_eq_some_iff.mp h
          cases heq
          exact ⟨first, rest, edited, rfl, hedited, rfl⟩
  | null | bool | number | string => cases h

/-- The document gets a new member for its WireGuard interfaces. -/
theorem addWireguardPeers_eq_ok (h : server.addWireguardPeers peers a = .ok b) : ∃ members v w,
    a = .object members ∧ Assoc.find? "wireguard" members = some v ∧
      v.updateAt? (server.withPeers peers) ["0"] = some w ∧
        b = .object (Assoc.insert "wireguard" w members) := by
  unfold addWireguardPeers at h
  split at h
  · rename_i document hdocument
    cases h
    cases a with
    | object members =>
        obtain ⟨w, hw, rfl⟩ := Option.map_eq_some_iff.mp hdocument
        obtain ⟨v, hv, hupdate⟩ := Option.bind_eq_some_iff.mp hw
        exact ⟨members, v, w, rfl, hv, hupdate, rfl⟩
    | array items =>
        cases items with
        | nil => cases hdocument
        | cons first rest =>
            rw [Json.updateAt?, if_neg (by decide)] at hdocument
            cases hdocument
    | null | bool | number | string => cases hdocument
  · cases h

/-- A document with the peers in its first WireGuard interface. -/
structure ListsInterface (server : VpnServer) (peers : List Peer) (a b : Json) : Prop where
  /-- It is an object, as the document without them is. -/
  objects : a.isObject = true ∧ b.isObject = true
  /-- Only the interface differs. -/
  agree : Json.AgreeOutside server.EditsWireguard a b
  /-- The interface lists the peers that have a public key. -/
  peers : b.locate? [.member "wireguard", .item 0, .member "peers"] =
    some (.array (peers.filterMap Peer.wireguardEntry?))
  /-- The interface has the private key of the server. -/
  privateKey : ∀ key, server.privateKey = some key →
    b.locate? [.member "wireguard", .item 0, .member "private_key"] = some (.string key)

/-- Adding the peers gives such a document, if its WireGuard interfaces are a list. -/
theorem listsInterface_of_addWireguardPeers (h : server.addWireguardPeers peers a = .ok b)
    (hlist : ∀ v, b.field? "wireguard" = some v → ∃ entries, v = .array entries) :
    server.ListsInterface peers a b := by
  obtain ⟨members, v, w, rfl, hv, hupdate, rfl⟩ := addWireguardPeers_eq_ok h
  -- The path that is edited also leads to a member named 0 of an object, which no list is.
  obtain ⟨entries, rfl⟩ := hlist w (Assoc.find?_insert_self "wireguard" w members)
  obtain ⟨first, rest, edited, rfl, hedited, rfl⟩ := exists_first_of_updateAt? hupdate
  obtain ⟨hpeers, hkey⟩ := field?_of_withPeers hedited
  have hinner : ∃ inner, server.EditsInterface inner := ⟨_, .peers⟩
  have hitem := (agreeOutside_of_withPeers hedited).firstItem hinner rest
  have hlocate : ∀ name,
      (Json.object (Assoc.insert "wireguard" (.array (edited :: rest)) members)).locate?
        [.member "wireguard", .item 0, .member name] = edited.field? name := by
    intro name
    show (Assoc.find? "wireguard" (Assoc.insert "wireguard" _ members)).bind _ = _
    rw [Assoc.find?_insert_self]
    exact Option.bind_fun_some (edited.field? name)
  refine ⟨⟨rfl, rfl⟩, ?_, (hlocate "peers").trans hpeers,
    fun key hprivate => (hlocate "private_key").trans (hkey key hprivate)⟩
  refine (hitem.member ⟨_, _, .peers, rfl⟩ hv).mono ?_
  rintro _ ⟨_, ⟨inner, hedits, rfl⟩, rfl⟩
  exact ⟨inner, hedits, rfl⟩

/-- Other members are left. -/
theorem ListsInterface.field?_eq (h : server.ListsInterface peers a b) {name : String}
    (hname : name ≠ "wireguard") : b.field? name = a.field? name := by
  refine (h.agree.field?_of_ne ?_).symm
  rintro _ ⟨_, _, rfl⟩
  exact ⟨_, _, rfl, fun heq => hname (Json.Step.member.inj heq).symm⟩

/-! ## The file of VXLAN peers -/

/-- A document with the file of the VXLAN peers, if the server is one for VXLAN. -/
def withPeersFile (server : VpnServer) (peers : List Peer) (document : Json) : Json :=
  if server.family.usesVxlan then
    document.merge (.object [("files", .array [server.peersFile peers])])
  else document

/-- Only the list of files differs, if the document is an object. -/
theorem agreeOutside_withPeersFile (hobject : a.isObject = true) (peers : List Peer) :
    Json.AgreeOutside (fun p => server.family.usesVxlan = true ∧ p = [.member "files"]) a
      (server.withPeersFile peers a) := by
  unfold withPeersFile
  split
  · rename_i hfamily
    obtain ⟨members, rfl⟩ := Json.exists_members hobject
    rw [Json.merge_file]
    exact (Json.agreeOutside_insert "files" _ members).mono fun _ hp => ⟨hfamily, hp⟩
  · exact .refl _ a

/-- What does not lie in the list of files is left. -/
theorem locate?_withPeersFile (hobject : a.isObject = true) (peers : List Peer) {name : String}
    (hname : name ≠ "files") (rest : List Json.Step) :
    (server.withPeersFile peers a).locate? (.member name :: rest) =
      a.locate? (.member name :: rest) := by
  refine ((agreeOutside_withPeersFile hobject peers).locate?_of_ne ?_ rest).symm
  rintro _ ⟨_, rfl⟩
  exact ⟨_, _, rfl, fun heq => hname (Json.Step.member.inj heq).symm⟩

/-- A member other than the list of files stays. -/
theorem field?_withPeersFile_of_eq_some {name : String} {v : Json} (h : a.field? name = some v)
    (hname : name ≠ "files") (peers : List Peer) :
    (server.withPeersFile peers a).field? name = some v := by
  have hlocate : (server.withPeersFile peers a).locate? [.member name] = a.locate? [.member name] :=
    locate?_withPeersFile (Json.isObject_of_field? h) peers hname []
  rw [Json.locate?_singleton, Json.locate?_singleton] at hlocate
  exact hlocate.trans h

/-- The list of files has the file at its end. -/
theorem field?_files_withPeersFile (hfamily : server.family.usesVxlan = true) (peers : List Peer)
    (a : Json) :
    (server.withPeersFile peers a).field? "files" =
      some (.array (a.fileEntries ++ [server.peersFile peers])) := by
  rw [withPeersFile, if_pos hfamily]
  cases a with
  | object members =>
      rw [Json.merge_file]
      exact Assoc.find?_insert_self "files" _ members
  | null | bool | number | string | array => rfl

/-- A document that is no object is replaced by the list of files. -/
theorem withPeersFile_of_not_object (hfamily : server.family.usesVxlan = true)
    (hobject : a.isObject = false) (peers : List Peer) :
    server.withPeersFile peers a = .object [("files", .array [server.peersFile peers])] := by
  rw [withPeersFile, if_pos hfamily]
  cases a with
  | object members => cases hobject
  | null | bool | number | string | array => rfl

/-! ## The document -/

/-- The document of a server is its own one with the peers in the interface and in the file, if that
conforms. -/
theorem compose_eq_ok_iff : server.compose peers = .ok document ↔ ∃ base,
    (if server.family.usesWireguard then server.addWireguardPeers peers server.document
      else .ok server.document) = .ok base ∧
    document = server.withPeersFile peers base ∧ document.Conforms := by
  have hcompose : server.compose peers =
      (if server.family.usesWireguard then server.addWireguardPeers peers server.document
        else .ok server.document) >>= fun base => do
          (server.withPeersFile peers base).validate
          return server.withPeersFile peers base := by
    unfold compose
    cases server.family.usesWireguard <;> rfl
  rw [hcompose, bind_eq_ok]
  refine exists_congr fun base => and_congr_right fun _ => ?_
  rw [seq_eq_ok, pure_eq_ok, (Json.validate_conforms _).1]
  constructor
  · rintro ⟨hconforms, rfl⟩
    exact ⟨rfl, hconforms⟩
  · rintro ⟨rfl, hconforms⟩
    exact ⟨hconforms, rfl⟩

/-- A document to which only the file of VXLAN peers has still to be added. -/
structure IsBase (server : VpnServer) (peers : List Peer) (base : Json) : Prop where
  /-- It has the peers of a WireGuard server. -/
  interface : server.family.usesWireguard = true → server.ListsInterface peers server.document base
  /-- It is the document of any other server. -/
  own : server.family.usesWireguard = false → base = server.document

/-- The document of a server is such a one with the file. -/
theorem exists_base_of_compose (h : server.compose peers = .ok document) : ∃ base,
    server.IsBase peers base ∧ document = server.withPeersFile peers base ∧ document.Conforms := by
  obtain ⟨base, hbase, rfl, hconforms⟩ := compose_eq_ok_iff.mp h
  refine ⟨base, ⟨fun hfamily => ?_, fun hfamily => ?_⟩, rfl, hconforms⟩
  · rw [if_pos hfamily] at hbase
    refine listsInterface_of_addWireguardPeers hbase fun v hv => ?_
    -- That the interfaces are a list is known of the document that was checked, which has
    -- the same ones.
    obtain ⟨entries, hentries, _⟩ :=
      hconforms.lists .wireguard v (field?_withPeersFile_of_eq_some hv (by decide) peers)
    exact ⟨entries, hentries⟩
  · rw [hfamily, if_neg Bool.false_ne_true] at hbase
    exact (Except.ok.inj hbase).symm

namespace IsBase

variable {base : Json}

/-- It is an object if the document of the server is one. -/
theorem isObject (h : server.IsBase peers base) (hserver : server.document.isObject = true) :
    base.isObject = true := by
  cases hfamily : server.family.usesWireguard with
  | false =>
      rw [h.own hfamily]
      exact hserver
  | true => exact (h.interface hfamily).objects.2

/-- It differs from the document of the server only in what is edited of that. -/
theorem agreeOutside (h : server.IsBase peers base) :
    Json.AgreeOutside server.Edits server.document base := by
  cases hfamily : server.family.usesWireguard with
  | false =>
      rw [h.own hfamily]
      exact .refl _ _
  | true => exact (h.interface hfamily).agree.mono fun _ hp => .wireguard hfamily hp

/-- It has the same members but for the WireGuard interfaces. -/
theorem field?_eq (h : server.IsBase peers base) {name : String} (hname : name ≠ "wireguard") :
    base.field? name = server.document.field? name := by
  cases hfamily : server.family.usesWireguard with
  | false => rw [h.own hfamily]
  | true => exact (h.interface hfamily).field?_eq hname

/-- The VXLAN section of the server's own document is a list of objects, since the document with the
file conforms. -/
theorem objects_of_vxlan (h : server.IsBase peers base)
    (hconforms : (server.withPeersFile peers base).Conforms) {v : Json}
    (hv : server.document.field? "vxlan" = some v) :
    ∃ entries, v = .array entries ∧ ∀ entry ∈ entries, entry.isObject = true := by
  have hbase : base.field? "vxlan" = some v := (h.field?_eq (by decide)).trans hv
  exact hconforms.lists .vxlan v (field?_withPeersFile_of_eq_some hbase (by decide) peers)

/-- Only a server for VXLAN and not for WireGuard has a document of its own that is no object. -/
theorem family_of_not_object (h : server.IsBase peers base)
    (hconforms : (server.withPeersFile peers base).Conforms)
    (hserver : server.document.isObject = false) :
    base.isObject = false ∧ server.family = .vxlan := by
  have hwireguard : server.family.usesWireguard = false := by
    rw [← Bool.not_eq_true]
    exact fun hfamily => Bool.false_ne_true (hserver.symm.trans (h.interface hfamily).objects.1)
  have hbase : base.isObject = false := by
    rw [h.own hwireguard]
    exact hserver
  have hvxlan : server.family.usesVxlan = true := by
    rw [← Bool.not_eq_false]
    intro hno
    have hroot := hconforms.root
    rw [withPeersFile, hno, if_neg Bool.false_ne_true, hbase] at hroot
    exact Bool.false_ne_true hroot
  exact ⟨hbase, TunnelFamily.eq_vxlan hwireguard hvxlan⟩

end IsBase

/-- What the document of a server is for a list of peers. -/
structure ListsPeers (server : VpnServer) (peers : List Peer) (document : Json) : Prop where
  /-- A WireGuard server lists the peers that have a public key, in order. -/
  wireguard : server.family.usesWireguard = true → ∃ entries,
    document.locate? [.member "wireguard", .item 0, .member "peers"] = some (.array entries) ∧
      List.Forall₂ Peer.IsWireguardEntry (peers.filter (·.publicKey.isSome)) entries
  /-- It has its private key beside them. -/
  privateKey : server.family.usesWireguard = true → ∀ key, server.privateKey = some key →
    document.locate? [.member "wireguard", .item 0, .member "private_key"] = some (.string key)
  /-- A VXLAN server has the file of all peers after its own files. -/
  vxlan : server.family.usesVxlan = true → ∃ file,
    document.field? "files" = some (.array (server.document.fileEntries ++ [file])) ∧
      server.IsPeersFile peers file
  /-- A server of another family has its own document. -/
  other : server.family = .other → document = server.document
  /-- All else is as in the document of the server, if that is an object. -/
  unchanged : server.document.isObject = true →
    Json.AgreeOutside server.Edits server.document document
  /-- If it is none, the server is one for VXLAN, and has nothing but the list of files. -/
  replaced : server.document.isObject = false →
    server.family = .vxlan ∧ ∃ files, document = .object [("files", files)]

/-- The document that is composed for a list of peers lists exactly these. -/
theorem listsPeers_of_compose (h : server.compose peers = .ok document) :
    server.ListsPeers peers document := by
  obtain ⟨base, hbase, rfl, hconforms⟩ := exists_base_of_compose h
  have hvxlan := fun v => hbase.objects_of_vxlan hconforms (v := v)
  constructor
  case wireguard =>
    intro hfamily
    have hlists := hbase.interface hfamily
    refine ⟨_, ?_, Peer.forall₂_wireguardEntries peers⟩
    exact (locate?_withPeersFile hlists.objects.2 peers (by decide) _).trans hlists.peers
  case privateKey =>
    intro hfamily key hkey
    have hlists := hbase.interface hfamily
    exact (locate?_withPeersFile hlists.objects.2 peers (by decide) _).trans
      (hlists.privateKey key hkey)
  case vxlan =>
    intro hfamily
    have hentries : base.fileEntries = server.document.fileEntries := by
      rw [Json.fileEntries, hbase.field?_eq (by decide), Json.fileEntries]
    refine ⟨server.peersFile peers, ?_, isPeersFile_peersFile ?_ ?_ peers⟩
    · rw [field?_files_withPeersFile hfamily, hentries]
    · rw [fixedVni?, if_pos hfamily, Json.at?_eq_locate? (by decide) hvxlan, sharedId?]
    · rw [vxlanInterface?, Json.at?_eq_locate? (by decide) hvxlan, interfaceName?]
  case other =>
    intro hfamily
    rw [withPeersFile, hfamily, if_neg (by decide)]
    exact hbase.own (by rw [hfamily]; rfl)
  case unchanged =>
    intro hserver
    refine hbase.agreeOutside.trans
      ((agreeOutside_withPeersFile (hbase.isObject hserver) peers).mono ?_)
    rintro _ ⟨hfamily, rfl⟩
    exact .files hfamily
  case replaced =>
    intro hserver
    obtain ⟨hno, hfamily⟩ := hbase.family_of_not_object hconforms hserver
    exact ⟨hfamily, _, withPeersFile_of_not_object (by rw [hfamily]; rfl) hno peers⟩

/-! ## Samples -/

/-- A server for VXLAN over WireGuard with files of its own, a tunnel id for all and
a private key. -/
def meshServer : VpnServer :=
  { Sample.server with
    backend := ⟨"VxlanWireguard"⟩
    document := .object [
      ("files", .array [.object [("contents", .string "hi"), ("path", .string "motd")]]),
      ("general", .object [("hostname", .string "gate")]),
      ("vxlan", .array [.object [("name", .string "vx0"), ("vni", .ofNat 7)]]),
      ("wireguard", .array [.object [("name", .string "wg0")]])]
    privateKey := some "secret" }

/-- Peers of both versions of addresses, one without a public key and one with a tunnel
id of its own. -/
def meshPeers : List Peer :=
  [⟨⟨"a"⟩, some "key", .v4 #v[10, 8, 0, 2], none⟩,
    ⟨⟨"b"⟩, none, .v4 #v[10, 8, 0, 3], some 5⟩,
    ⟨⟨"c"⟩, some "other", .v6 #v[64768, 0, 0, 0, 0, 0, 0, 2], none⟩]

/-- The document of the server with these peers. -/
def meshDocument : Json :=
  .object [
    ("files", .array [
      .object [("contents", .string "hi"), ("path", .string "motd")],
      .object [
        ("contents", .string ((Json.array [
          .object [("interface", .string "vx0"), ("remote", .string "10.8.0.2"), ("vni", .ofNat 7)],
          .object [("interface", .string "vx0"), ("remote", .string "10.8.0.3"), ("vni", .ofNat 5)],
          .object [("interface", .string "vx0"), ("remote", .string "fd00::2"), ("vni", .ofNat 7)]
          ]).renderPretty 4)),
        ("mode", .string "0644"), ("path", .string "vxlan.json")]]),
    ("general", .object [("hostname", .string "gate")]),
    ("vxlan", .array [.object [("name", .string "vx0"), ("vni", .ofNat 7)]]),
    ("wireguard", .array [.object [
      ("name", .string "wg0"),
      ("peers", .array [
        .object [("allowed_ips", .string "10.8.0.2/32"), ("public_key", .string "key")],
        .object [("allowed_ips", .string "fd00::2/128"), ("public_key", .string "other")]]),
      ("private_key", .string "secret")]])]

/-- The document of the sample lists its peers. -/
theorem listsPeers_of_compose_mesh : meshServer.compose meshPeers = .ok meshDocument ∧
    meshServer.ListsPeers meshPeers meshDocument := by
  have hcompose : meshServer.compose meshPeers = .ok meshDocument := by decide +kernel
  exact ⟨hcompose, listsPeers_of_compose hcompose⟩

/-- A server for VXLAN whose document is a list. -/
def listServer : VpnServer :=
  { Sample.server with document := .array [.string "kept"] }

/-- The document that is composed need not have what the server's own one has. -/
theorem compose_replaces_list : ¬ ∀ (server : VpnServer) (peers : List Peer) (document : Json),
    server.compose peers = .ok document →
      Json.AgreeOutside server.Edits server.document document := by
  intro h
  have hcompose :
      listServer.compose [] = .ok (.object [("files", .array [listServer.peersFile []])]) := by
    decide +kernel
  have hkinds := (h listServer [] _ hcompose).kinds [] ?_
  · exact absurd hkinds (by decide)
  · intro p hp hprefix
    rw [List.prefix_nil] at hprefix
    subst hprefix
    cases hp with
    | wireguard _ hinterface =>
        obtain ⟨_, _, hnil⟩ := hinterface
        cases hnil

end VpnServer

/-! ## Documents that can be composed -/

namespace Json

/-- Sections differ in their names. -/
theorem ListSection.name_injective {s t : ListSection} (h : s.name = t.name) : s = t := by
  revert h
  cases s <;> cases t <;> decide

/-- A document conforms with a new list for a section, if the entries have the form of
that section. -/
theorem Conforms.insert {members : List (String × Json)} (h : (object members).Conforms)
    (s : ListSection) {entries : List Json} (hobjects : ∀ entry ∈ entries, entry.isObject = true)
    (hinterfaces : s = .interfaces → ∀ entry ∈ entries, entry.HasString "name")
    (hfiles : s = .files → ∀ entry ∈ entries,
      entry.HasString "path" ∧ entry.HasString "contents" ∧ entry.ModeOctal) :
    (object (Assoc.insert s.name (array entries) members)).Conforms := by
  have hfield : ∀ (t : ListSection) (v : Json),
      (object (Assoc.insert s.name (array entries) members)).field? t.name = some v →
        (s = t ∧ v = array entries) ∨ (object members).field? t.name = some v := by
    intro t v hv
    rw [field?, Assoc.find?_insert] at hv
    split at hv
    · rename_i hname
      exact Or.inl ⟨ListSection.name_injective hname, (Option.some.inj hv).symm⟩
    · exact Or.inr hv
  refine ⟨rfl, fun t v hv => ?_, fun entries' hv => ?_, fun entries' hv => ?_⟩
  · rcases hfield t v hv with ⟨rfl, rfl⟩ | hold
    · exact ⟨entries, rfl, hobjects⟩
    · exact h.lists t v hold
  · rcases hfield .interfaces _ hv with ⟨rfl, heq⟩ | hold
    · cases heq
      exact hinterfaces rfl
    · exact h.interfaces entries' hold
  · rcases hfield .files _ hv with ⟨rfl, heq⟩ | hold
    · cases heq
      exact hfiles rfl
    · exact h.files entries' hold

/-- The entries in the list of files are those of a list. -/
theorem exists_of_mem_fileEntries {document entry : Json} (h : entry ∈ document.fileEntries) :
    ∃ entries, document.field? "files" = some (array entries) ∧ entry ∈ entries := by
  unfold fileEntries at h
  cases hfiles : document.field? "files" with
  | none =>
      rw [hfiles] at h
      cases h
  | some v =>
      rw [hfiles] at h
      cases v with
      | array entries => exact ⟨entries, rfl, h⟩
      | null | bool | number | string | object => cases h

end Json

namespace VpnServer

variable {server : VpnServer} {members : List (String × Json)}

/-- The peers are added to a first interface that is an object, and it stays one. -/
theorem exists_addWireguardPeers_eq_ok (server : VpnServer) {fields : List (String × Json)}
    {rest : List Json}
    (h : Assoc.find? "wireguard" members = some (.array (.object fields :: rest)))
    (peers : List Peer) :
    ∃ edited, edited.isObject = true ∧
      server.addWireguardPeers peers (.object members) =
        .ok (.object (Assoc.insert "wireguard" (.array (edited :: rest)) members)) := by
  obtain ⟨edited, hedited⟩ : ∃ edited,
      server.withPeers peers (.object fields) = some (.object edited) := ⟨_, rfl⟩
  refine ⟨.object edited, rfl, ?_⟩
  rw [addWireguardPeers, Json.updateAt?, h, Option.bind_some, Json.updateAt?, if_pos rfl,
    Json.updateAt?, hedited]
  rfl

/-- A document that conforms and has an interface gets the peers, and still conforms. -/
theorem exists_conforms_of_interface (hconforms : (Json.object members).Conforms)
    (hinterface : ((Json.object members).locate? [.member "wireguard", .item 0]).isSome = true)
    (peers : List Peer) : ∃ edited,
      server.addWireguardPeers peers (.object members) = .ok (.object edited) ∧
        (Json.object edited).Conforms := by
  obtain ⟨first, hfirst⟩ := Option.isSome_iff_exists.mp hinterface
  obtain ⟨v, hv, hitem⟩ := Option.bind_eq_some_iff.mp hfirst
  obtain ⟨entries, rfl, hobjects⟩ := hconforms.lists .wireguard v hv
  cases entries with
  | nil => cases hitem
  | cons entry rest =>
      obtain ⟨hentry, hrest⟩ := List.forall_mem_cons.mp hobjects
      obtain ⟨fields, rfl⟩ := Json.exists_members hentry
      obtain ⟨edited, hedited, hadd⟩ := exists_addWireguardPeers_eq_ok server hv peers
      refine ⟨_, hadd,
        hconforms.insert .wireguard (List.forall_mem_cons.mpr ⟨hedited, hrest⟩) ?_ ?_⟩
      · exact fun heq => absurd heq (by decide)
      · exact fun heq => absurd heq (by decide)

/-- A document that conforms does so with the file. -/
theorem conforms_withPeersFile (hconforms : (Json.object members).Conforms) (peers : List Peer) :
    (server.withPeersFile peers (.object members)).Conforms := by
  have hfile : (server.peersFile peers).HasString "path" ∧
      (server.peersFile peers).HasString "contents" ∧ (server.peersFile peers).ModeOctal := by
    refine ⟨⟨_, rfl⟩, ⟨_, rfl⟩, fun v hv => ⟨"0644", (Option.some.inj hv).symm, ?_⟩⟩
    exact Json.isOctalMode_iff.mp (by decide)
  unfold withPeersFile
  split
  · rw [Json.merge_file]
    refine hconforms.insert .files ?_ (fun heq => absurd heq (by decide)) fun _ => ?_
    · intro entry hentry
      rcases List.mem_append.mp hentry with hown | hnew
      · obtain ⟨entries, hentries, hmem⟩ := Json.exists_of_mem_fileEntries hown
        obtain ⟨_, heq, hobjects⟩ := hconforms.lists .files _ hentries
        cases heq
        exact hobjects entry hmem
      · rw [List.mem_singleton.mp hnew]
        rfl
    · intro entry hentry
      rcases List.mem_append.mp hentry with hown | hnew
      · obtain ⟨entries, hentries, hmem⟩ := Json.exists_of_mem_fileEntries hown
        exact hconforms.files entries hentries entry hmem
      · rw [List.mem_singleton.mp hnew]
        exact hfile
  · exact hconforms

/-- If the document of a server conforms, and has an interface if the server is one for WireGuard,
then it can be composed for every list of peers. -/
theorem exists_compose_eq_ok (hconforms : server.document.Conforms)
    (hinterface : server.family.usesWireguard = true →
      (server.document.locate? [.member "wireguard", .item 0]).isSome = true) (peers : List Peer) :
    ∃ document, server.compose peers = .ok document := by
  obtain ⟨members, hmembers⟩ := Json.exists_members hconforms.root
  rw [hmembers] at hconforms hinterface
  cases hfamily : server.family.usesWireguard with
  | false =>
      refine ⟨_, compose_eq_ok_iff.mpr ⟨_, ?_, rfl, conforms_withPeersFile hconforms peers⟩⟩
      rw [hfamily, hmembers]
      rfl
  | true =>
      obtain ⟨edited, hadd, hedited⟩ :=
        exists_conforms_of_interface hconforms (hinterface hfamily) peers
      refine ⟨_, compose_eq_ok_iff.mpr ⟨_, ?_, rfl, conforms_withPeersFile hedited peers⟩⟩
      rw [if_pos hfamily, hmembers]
      exact hadd

end VpnServer

end Fleet
