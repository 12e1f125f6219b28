/-
# What a tunnel stanza shows

The stanza of a server is read back from the variables of the configuration, into which all layers
and all memberships were merged before.  It shows the data of its own server and of the membership
there all the same: no context overrides a variable that a membership defines, no other membership
defines it, and the names of the fields and those of the variables differ among themselves.

Main statements: `VpnServer.field?_stanzaEntry`, `VariableSources.get?_resolve_name`,
`RenderInput.stanzas_of_compose`.
-/
import Fleet.Proofs.Composition
import Fleet.Proofs.Lists
import Fleet.Proofs.Precedence

namespace Fleet

open Outcomes

/-! ## Fields of an entry -/

namespace VpnVariable

/-- Different variables are shown in different fields. -/
theorem field_inj {v w : VpnVariable} (h : v.field = w.field) : v = w := by
  have hall : ∀ v ∈ all, ∀ w ∈ all, v.field = w.field → v = w := by decide
  exact hall v (mem_all v) w (mem_all w) h

/-- No variable is shown in place of the server or its family. -/
theorem field_ne (v : VpnVariable) : v.field ≠ "server" ∧ v.field ≠ "family" := by
  cases v <;> decide

/-- What is listed for a variable is found under its key if the keys differ. -/
theorem lookup_filterMap {α β : Type} (key : VpnVariable → String)
    (hkey : ∀ {v w : VpnVariable}, key v = key w → v = w) (value? : VpnVariable → Option α)
    (f : α → β) (v : VpnVariable) (l : List VpnVariable) :
    (l.filterMap fun w => (value? w).map fun a => (key w, f a)).lookup (key v) =
      if v ∈ l then (value? v).map f else none := by
  induction l with
  | nil => rfl
  | cons w rest ih =>
      by_cases hv : v = w
      · subst hv
        rw [if_pos List.mem_cons_self]
        cases hvalue : value? v with
        | none => simp [hvalue, ih]
        | some a => simp [hvalue]
      · have hne : (key v == key w) = false := beq_false_of_ne fun h => hv (hkey h)
        cases hvalue : value? w <;> simp [hvalue, List.lookup_cons, hne, hv, ih]

end VpnVariable

namespace VpnServer

variable {server : VpnServer} {context : Context} {name : String}

/-- The fields of the entry of a server, before they are put in order. -/
def stanzaFields (server : VpnServer) (context : Context) : List (String × Json) :=
  ("server", .string server.id.text) :: ("family", .string server.family.name) ::
    VpnVariable.all.filterMap fun v =>
      (context.get? (v.name server.id)).map fun value => (v.field, .string value)

/-- The fields of an entry differ. -/
theorem nodup_stanzaFields (server : VpnServer) (context : Context) :
    ((server.stanzaFields context).map Prod.fst).Nodup := by
  have hfields : ∀ name ∈ (VpnVariable.all.filterMap fun v =>
      (context.get? (v.name server.id)).map fun _ => v.field),
      name ≠ "server" ∧ name ≠ "family" := by
    intro name hname
    obtain ⟨v, _, hv⟩ := List.mem_filterMap.mp hname
    obtain ⟨_, _, rfl⟩ := Option.map_eq_some_iff.mp hv
    exact v.field_ne
  have hnodup : (VpnVariable.all.filterMap fun v =>
      (context.get? (v.name server.id)).map fun _ => v.field).Nodup := by
    refine List.Nodup.filterMap ?_ (by decide)
    intro v w name hv hw
    simp only [Option.mem_def, Option.map_eq_some_iff] at hv hw
    obtain ⟨_, _, rfl⟩ := hv
    obtain ⟨_, _, hname⟩ := hw
    exact VpnVariable.field_inj hname.symm
  unfold stanzaFields
  rw [List.map_cons, List.map_cons, List.map_filterMap]
  simp only [Option.map_map, Function.comp_def]
  refine List.nodup_cons.mpr ⟨fun h => ?_, List.nodup_cons.mpr ⟨fun h => ?_, hnodup⟩⟩
  · rcases List.mem_cons.mp h with h | h
    · exact absurd h (by decide)
    · exact (hfields _ h).1 rfl
  · exact (hfields _ h).2 rfl

/-- What an entry has in a field. -/
theorem field?_stanzaEntry (server : VpnServer) (context : Context) (name : String) :
    (server.stanzaEntry context).field? name = (server.stanzaFields context).lookup name := by
  have h := SortedMap.get?_insertAll_of_nodup (server.nodup_stanzaFields context) .empty name
  rw [SortedMap.get?_empty, Option.or_none] at h
  exact h

/-- An entry names the server. -/
theorem field?_stanzaEntry_server (server : VpnServer) (context : Context) :
    (server.stanzaEntry context).field? "server" = some (.string server.id.text) :=
  field?_stanzaEntry server context "server"

/-- An entry names the tunnel family of the server. -/
theorem field?_stanzaEntry_family (server : VpnServer) (context : Context) :
    (server.stanzaEntry context).field? "family" = some (.string server.family.name) :=
  field?_stanzaEntry server context "family"

/-- An entry shows what the context says of a variable. -/
theorem field?_stanzaEntry_variable (server : VpnServer) (context : Context) (v : VpnVariable) :
    (server.stanzaEntry context).field? v.field =
      (context.get? (v.name server.id)).map .string := by
  have hlisted := VpnVariable.lookup_filterMap VpnVariable.field VpnVariable.field_inj
    (fun w => context.get? (w.name server.id)) Json.string v VpnVariable.all
  rw [if_pos v.mem_all] at hlisted
  rw [field?_stanzaEntry, stanzaFields, List.lookup_cons, List.lookup_cons,
    beq_false_of_ne v.field_ne.1, beq_false_of_ne v.field_ne.2]
  exact hlisted

/-- There are no other fields. -/
theorem exists_field_of_field?_stanzaEntry {j : Json}
    (h : (server.stanzaEntry context).field? name = some j) :
    name = "server" ∨ name = "family" ∨ ∃ v : VpnVariable, v.field = name := by
  have hsome : ((server.stanzaFields context).lookup name).isSome = true := by
    rw [← field?_stanzaEntry, h]
    rfl
  obtain ⟨e, he, hname⟩ := List.lookup_isSome_iff.mp hsome
  obtain rfl := beq_iff_eq.mp hname
  rcases List.mem_cons.mp he with rfl | he
  · exact Or.inl rfl
  rcases List.mem_cons.mp he with rfl | he
  · exact Or.inr (Or.inl rfl)
  · obtain ⟨v, _, hv⟩ := List.mem_filterMap.mp he
    obtain ⟨_, _, rfl⟩ := Option.map_eq_some_iff.mp hv
    exact Or.inr (Or.inr ⟨v, rfl⟩)

end VpnServer

/-! ## Variables of a membership -/

namespace VpnAttachment

/-- A membership writes what it has for a variable. -/
theorem lookup_variables (a : VpnAttachment) (v : VpnVariable) :
    a.variables.lookup (v.name a.server.id) = v.value? a := by
  have hlisted := VpnVariable.lookup_filterMap (fun w => w.name a.server.id)
    (fun h => (VpnVariable.name_inj.mp h).1) (fun w => w.value? a) id v VpnVariable.all
  rw [if_pos v.mem_all, Option.map_id_fun, id] at hlisted
  exact hlisted

/-- A membership in another server writes nothing under the name. -/
theorem lookup_variables_ne {a : VpnAttachment} {id : ServerId} (h : a.server.id ≠ id)
    (v : VpnVariable) : a.variables.lookup (v.name id) = none := by
  rw [List.lookup_eq_none_iff]
  intro e he
  have hne : v.name id ≠ e.1 := by
    intro heq
    obtain ⟨w, hw⟩ := exists_name_of_mem (List.mem_map_of_mem he)
    exact h (VpnVariable.name_inj.mp (heq.trans hw)).2.symm
  simpa using hne

end VpnAttachment

namespace VariableSources

variable {sources : VariableSources}

/-- The contexts that operators write, from the highest to the lowest: those of the configuration,
of the group, of the organization, and of the fleet. -/
def contexts (sources : VariableSources) (fleet : Context) : List Context :=
  [sources.configuration.context] ++ sources.group.toList ++ sources.organization.toList ++ [fleet]

/-- The first context is asked before the others. -/
theorem findSome?_cons_eq_or (get? : Context → Option String) (first : Context)
    (others : List Context) :
    (first :: others).findSome? get? = (get? first).or (others.findSome? get?) := by
  rw [List.findSome?_cons]
  cases get? first <;> rfl

/-- Memberships in different servers leave a variable to the one in its own server. -/
theorem findSome?_memberships {vpn : List VpnAttachment} (h : (vpn.map fun a => a.server.id).Nodup)
    {a : VpnAttachment} (ha : a ∈ vpn) (v : VpnVariable) :
    (vpn.findSome? fun b => b.variables.lookup (v.name a.server.id)) = v.value? a := by
  induction vpn with
  | nil => cases ha
  | cons b rest ih =>
      obtain ⟨hb, hrest⟩ := List.nodup_cons.mp h
      rw [List.findSome?_cons]
      rcases List.mem_cons.mp ha with rfl | ha
      · rw [VpnAttachment.lookup_variables]
        cases v.value? a with
        | some value => rfl
        | none =>
            -- The other memberships are in other servers.
            rw [List.findSome?_eq_none_iff]
            intro c hc
            exact VpnAttachment.lookup_variables_ne
              (fun hid => hb (List.mem_map.mpr ⟨c, hc, hid⟩)) v
      · have hid : b.server.id ≠ a.server.id := fun hid => hb (List.mem_map.mpr ⟨a, ha, hid.symm⟩)
        rw [VpnAttachment.lookup_variables_ne hid]
        exact ih hrest ha

/-- A variable of a membership has the value that the membership supplies, or else the one of the
highest context that defines it. -/
theorem get?_resolve_name (h : (sources.vpn.map fun a => a.server.id).Nodup) (fleet : Context)
    {a : VpnAttachment} (ha : a ∈ sources.vpn) (v : VpnVariable) :
    (sources.resolve fleet).get? (v.name a.server.id) =
      (v.value? a).or ((sources.contexts fleet).findSome? fun context =>
        context.get? (v.name a.server.id)) := by
  have hidentity : sources.device.variables.lookup (v.name a.server.id) = none := by
    rw [List.lookup_eq_none_iff]
    intro e he
    have hne : v.name a.server.id ≠ e.1 := by
      intro heq
      exact v.name_not_mem_identityNames a.server.id
        (heq ▸ Device.mem_identityNames (List.mem_map_of_mem he))
    simpa using hne
  rw [resolve, SortedMap.get?_insertAll_of_nodup sources.device.nodup_variables, hidentity,
    SortedMap.get?_insertAll_of_nodup (nodup_memberships h), lookup_memberships,
    findSome?_memberships h ha, SortedMap.get?_union, SortedMap.get?_union, SortedMap.get?_union,
    get?_getD, get?_getD, Option.none_or]
  congr 1
  unfold contexts
  cases sources.group <;> cases sources.organization <;>
    simp only [Option.toList_none, Option.toList_some, List.append_nil, List.cons_append,
      List.nil_append, findSome?_cons_eq_or, List.findSome?_nil, Option.or_none, Option.bind_none,
      Option.bind_some, Option.none_or]

end VariableSources

/-! ## Stanzas that are merged -/

namespace VpnAttachment

/-- What the server and the membership supply for a field of the stanza, by the tunnel family. -/
inductive Supplies (a : VpnAttachment) : String → String → Prop
  /-- The host of the server. -/
  | host (h : a.server.host ≠ "") : Supplies a "host" a.server.host
  /-- The port on which the server listens. -/
  | port {port : Nat} (hfamily : a.server.family.usesWireguard = true)
      (h : a.server.wireguardPort? = some port) : Supplies a "port" (toString port)
  /-- The public key of the server. -/
  | serverKey {key : String} (hfamily : a.server.family.usesWireguard = true)
      (h : a.server.publicKey = some key) : Supplies a "server_public_key" key
  /-- The public key of the member. -/
  | clientKey {key : String} (hfamily : a.server.family.usesWireguard = true)
      (h : a.client.publicKey = some key) : Supplies a "public_key" key
  /-- The private key of the member. -/
  | privateKey {key : String} (hfamily : a.server.family.usesWireguard = true)
      (h : a.client.privateKey = some key) : Supplies a "private_key" key
  /-- The tunnel id of the member. -/
  | ownTunnelId {id : Nat} (hfamily : a.server.family.usesVxlan = true)
      (h : a.client.vni = some id) : Supplies a "vni" (toString id)
  /-- The tunnel id that the server fixes, where the member has none of its own. -/
  | sharedTunnelId {id : Nat} (hfamily : a.server.family.usesVxlan = true)
      (hnone : a.client.vni = none) (h : a.server.fixedVni? = some id) :
      Supplies a "vni" (toString id)
  /-- The address of the member inside the tunnel. -/
  | clientAddress {ip : IpAddress} (h : a.client.address = some ip) : Supplies a "address" ip.render
  /-- The address of the server inside the tunnel. -/
  | serverAddress {ip : IpAddress} (h : a.server.ipAddress = some ip) :
      Supplies a "server_address" ip.render

/-- What is supplied is the value of the variable that the field shows. -/
theorem supplies_iff {a : VpnAttachment} {name value : String} :
    a.Supplies name value ↔ ∃ v : VpnVariable, v.field = name ∧ v.value? a = some value := by
  constructor
  · intro h
    cases h with
    | host h => exact ⟨.host, rfl, by simp [VpnVariable.value?, h]⟩
    | port hfamily h => exact ⟨.port, rfl, by simp [VpnVariable.value?, hfamily, h]⟩
    | serverKey hfamily h => exact ⟨.serverKey, rfl, by simp [VpnVariable.value?, hfamily, h]⟩
    | clientKey hfamily h => exact ⟨.clientKey, rfl, by simp [VpnVariable.value?, hfamily, h]⟩
    | privateKey hfamily h => exact ⟨.privateKey, rfl, by simp [VpnVariable.value?, hfamily, h]⟩
    | ownTunnelId hfamily h => exact ⟨.tunnelId, rfl, by simp [VpnVariable.value?, hfamily, h]⟩
    | sharedTunnelId hfamily hnone h =>
        exact ⟨.tunnelId, rfl, by simp [VpnVariable.value?, hfamily, hnone, h]⟩
    | clientAddress h => exact ⟨.clientAddress, rfl, by simp [VpnVariable.value?, h]⟩
    | serverAddress h => exact ⟨.serverAddress, rfl, by simp [VpnVariable.value?, h]⟩
  · rintro ⟨v, rfl, hvalue⟩
    unfold VpnVariable.value? at hvalue
    cases v with
    | host =>
        rw [Option.ite_none_left_eq_some, Option.some.injEq] at hvalue
        obtain ⟨hhost, rfl⟩ := hvalue
        exact .host fun hempty => hhost (by rw [hempty]; rfl)
    | port =>
        rw [Option.ite_none_right_eq_some, Option.map_eq_some_iff] at hvalue
        obtain ⟨hfamily, port, hport, rfl⟩ := hvalue
        exact .port hfamily hport
    | serverKey =>
        rw [Option.ite_none_right_eq_some] at hvalue
        exact .serverKey hvalue.1 hvalue.2
    | clientKey =>
        rw [Option.ite_none_right_eq_some] at hvalue
        exact .clientKey hvalue.1 hvalue.2
    | privateKey =>
        rw [Option.ite_none_right_eq_some] at hvalue
        exact .privateKey hvalue.1 hvalue.2
    | tunnelId =>
        rw [Option.ite_none_right_eq_some, Option.map_eq_some_iff] at hvalue
        obtain ⟨hfamily, id, hid, rfl⟩ := hvalue
        cases hown : a.client.vni with
        | some own =>
            rw [hown, Option.some_or, Option.some.injEq] at hid
            exact .ownTunnelId hfamily (hid ▸ hown)
        | none =>
            rw [hown, Option.none_or] at hid
            exact .sharedTunnelId hfamily hown hid
    | clientAddress =>
        obtain ⟨ip, hip, rfl⟩ := Option.map_eq_some_iff.mp hvalue
        exact .clientAddress hip
    | serverAddress =>
        obtain ⟨ip, hip, rfl⟩ := Option.map_eq_some_iff.mp hvalue
        exact .serverAddress hip

end VpnAttachment

namespace RenderInput

variable {input : RenderInput} {fleet : Context} {document : Json} {a : VpnAttachment}

/-- An entry in the list of tunnels carries the data of the server and of the membership
that it is for. -/
structure Carries (input : RenderInput) (fleet : Context) (a : VpnAttachment) (entry : Json) :
    Prop where
  /-- It names the server. -/
  server : entry.field? "server" = some (.string a.server.id.text)
  /-- It names the tunnel family. -/
  family : entry.field? "family" = some (.string a.server.family.name)
  /-- What the server or the membership supplies for a field stands there. -/
  own : ∀ name value, a.Supplies name value → entry.field? name = some (.string value)
  /-- Every other field shows a variable for the server that some context defines, and has its value
  in the highest of these. -/
  others : ∀ name j, name ≠ "server" → name ≠ "family" → (∀ value, ¬ a.Supplies name value) →
    entry.field? name = some j →
      ∃ (v : VpnVariable) (value : String), v.field = name ∧ j = .string value ∧
        ((input.contexts fleet).findSome? fun context => context.get? (v.name a.server.id)) =
          some value

/-- The entry of a server that is joined carries its data. -/
theorem carries_stanzaEntry (hdistinct : (input.vpn.map fun a => a.server.id).Nodup)
    (fleet : Context) (ha : a ∈ input.vpn) :
    input.Carries fleet a (a.server.stanzaEntry (input.resolve fleet)) := by
  have hvariable : ∀ v : VpnVariable,
      (a.server.stanzaEntry (input.resolve fleet)).field? v.field =
        ((v.value? a).or ((input.contexts fleet).findSome? fun context =>
          context.get? (v.name a.server.id))).map .string := by
    intro v
    rw [VpnServer.field?_stanzaEntry_variable]
    exact congrArg (Option.map Json.string) (VariableSources.get?_resolve_name hdistinct fleet ha v)
  refine ⟨VpnServer.field?_stanzaEntry_server _ _, VpnServer.field?_stanzaEntry_family _ _, ?_, ?_⟩
  · intro name value hsupplies
    obtain ⟨v, rfl, hvalue⟩ := VpnAttachment.supplies_iff.mp hsupplies
    rw [hvariable, hvalue]
    rfl
  · intro name j hserver hfamily hnone hj
    rcases VpnServer.exists_field_of_field?_stanzaEntry hj with h | h | ⟨v, rfl⟩
    · exact absurd h hserver
    · exact absurd h hfamily
    · have hunsupplied : v.value? a = none := by
        rw [Option.eq_none_iff_forall_ne_some]
        exact fun value hvalue => hnone value (VpnAttachment.supplies_iff.mpr ⟨v, rfl, hvalue⟩)
      rw [hvariable, hunsupplied, Option.none_or, Option.map_eq_some_iff] at hj
      obtain ⟨value, hvalue, rfl⟩ := hj
      exact ⟨v, value, rfl, rfl, hvalue⟩

/-- The membership for a template is the one in its server. -/
theorem attachmentFor_eq (hdistinct : (input.vpn.map fun a => a.server.id).Nodup)
    (ha : a ∈ input.vpn) {t : Template} (ht : t.vpn = some a.server.id) :
    input.attachmentFor t = some a := by
  unfold attachmentFor
  cases hfound : input.vpn.find? fun b => t.vpn == some b.server.id with
  | none =>
      have hno := List.find?_eq_none.mp hfound a ha
      rw [ht, beq_self_eq_true] at hno
      exact absurd rfl hno
  | some b =>
      have hb := List.find?_some hfound
      rw [ht, beq_iff_eq, Option.some.injEq] at hb
      rw [List.inj_on_of_nodup_map hdistinct ha (List.mem_of_find?_eq_some hfound) hb]

/-- The templates that are listed are among those that are merged. -/
theorem mem_of_order {ordered : List Template} {t : Template}
    (horder : input.catalog.order input.configuration = .ok ordered)
    (hlisted : t.id ∈ input.configuration.templates) (hstored : input.catalog.get? t.id = some t) :
    t ∈ ordered := by
  unfold Catalog.order at horder
  rw [bind_eq_ok] at horder
  obtain ⟨selection, hselection, hordered⟩ := horder
  have hfind : input.catalog.find t.id = .ok t := Catalog.find_eq_ok.mpr hstored
  obtain ⟨u, hu, hlookup⟩ := ok_of_mapM hselection hlisted
  rw [bind_eq_ok] at hlookup
  obtain ⟨w, hw, hlookup⟩ := hlookup
  rw [seq_eq_ok, pure_eq_ok] at hlookup
  obtain rfl : w = u := hlookup.2
  obtain rfl : t = w := Except.ok.inj (hfind.symm.trans hw)
  exact (mem_of_mapM hordered).mpr ⟨t.id, Template.mem_sortedIds.mpr ⟨t, hu, rfl⟩, hfind⟩

/-- A rendered document is the merge of its fragments, among which every template of the
configuration has its place; and the document of a VPN template is followed by the stanza of its
server, if the device has joined that, with an entry that carries the data of the server and of
the membership. -/
theorem stanzas_of_compose (h : input.compose fleet = .ok document)
    (hdistinct : (input.vpn.map fun a => a.server.id).Nodup) :
    ∃ ordered filled base, input.Sequence fleet ordered filled base ∧
      document = ((input.spliced (input.resolve fleet) ordered filled base).foldl Json.merge
        .emptyObject).dedupeFiles ∧
      (∀ t, t.id ∈ input.configuration.templates → input.catalog.get? t.id = some t → t ∈ ordered) ∧
      ∀ t ∈ ordered, t.isVpn = true → ∀ a ∈ input.vpn, t.vpn = some a.server.id →
        ∃ entry, input.stanzas (input.resolve fleet) t = [.object [("tunnels", .array [entry])]] ∧
          input.Carries fleet a entry := by
  obtain ⟨parts, hparts, hdocument⟩ := compose_eq_ok h
  obtain ⟨ordered, filled, base, hsequence, rfl⟩ := sequence_of_fragments hparts
  refine ⟨ordered, filled, base, hsequence, hdocument, fun t => mem_of_order hsequence.inOrder, ?_⟩
  intro t _ hvpn a ha ht
  refine ⟨a.server.stanzaEntry (input.resolve fleet), ?_, carries_stanzaEntry hdistinct fleet ha⟩
  rw [stanzas, if_pos hvpn, attachmentFor_eq hdistinct ha ht]
  rfl

/-- A member of a WireGuard server with keys. -/
def keyedMember : VpnAttachment where
  server :=
    { Sample.server with
      backend := ⟨"wireguard"⟩
      document := .object [("wireguard", .array [.object [("port", .ofNat 51820)]])]
      publicKey := some "server" }
  client := { Sample.client with publicKey := some "member" }

/-- A template of that server. -/
def keyedTemplate : Template :=
  { Sample.template with kind := .vpn, vpn := some keyedMember.server.id }

/-- A device that has joined that server and another one, with contexts that define the
variables of both. -/
def forgedSample : RenderInput where
  device := Sample.device
  configuration :=
    { Sample.configuration [keyedTemplate.id] with
      context := .ofList [("pub_key_s", "forged"), ("public_key_s", "forged"), ("vni_s", "7")] }
  organization := some (.ofList [("vpn_port_s", "forged"), ("server_ip_address_s", "10.0.0.254")])
  group := none
  vpn := [
    ⟨{ Sample.server with id := ⟨"s_2"⟩, publicKey := some "other" },
      { Sample.client with server := ⟨"s_2"⟩ }⟩,
    keyedMember]
  catalog := .ofList [(keyedTemplate.id, keyedTemplate)]

/-- What is rendered for it: the fields for which neither the server nor the membership has a value
are those of the contexts. -/
def forgedDocument : Json :=
  .object [("tunnels", .array [.object [
    ("address", .string "10.0.0.1"), ("family", .string "wireguard"), ("host", .string "vpn"),
    ("port", .string "51820"), ("public_key", .string "member"), ("server", .string "s"),
    ("server_address", .string "10.0.0.254"), ("server_public_key", .string "server"),
    ("vni", .string "7")]])]

/-- The stanza carries the key of the member, which the context of the configuration
tries to replace. -/
theorem stanzas_of_compose_forged :
    forgedSample.compose .empty = .ok forgedDocument ∧
      (forgedSample.vpn.map fun a => a.server.id).Nodup ∧
      ∃ entry, forgedSample.stanzas (forgedSample.resolve .empty) keyedTemplate =
          [.object [("tunnels", .array [entry])]] ∧
        forgedSample.Carries .empty keyedMember entry ∧
        entry.field? "public_key" = some (.string "member") := by
  have hcompose : forgedSample.compose .empty = .ok forgedDocument := by
    decide +kernel
  have hdistinct : (forgedSample.vpn.map fun a => a.server.id).Nodup := by
    decide
  obtain ⟨ordered, filled, base, _, _, hlisted, hstanzas⟩ := stanzas_of_compose hcompose hdistinct
  have hmem : keyedTemplate ∈ ordered := hlisted keyedTemplate List.mem_cons_self rfl
  have hjoined : keyedMember ∈ forgedSample.vpn := List.mem_cons_of_mem _ List.mem_cons_self
  obtain ⟨entry, hentry, hcarries⟩ := hstanzas keyedTemplate hmem rfl keyedMember hjoined rfl
  exact ⟨hcompose, hdistinct, entry, hentry, hcarries, hcarries.own _ _ (.clientKey rfl rfl)⟩

end RenderInput

end Fleet
