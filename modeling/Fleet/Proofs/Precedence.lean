/-
# Which layer a variable comes from

A variable of a configuration has the value of the highest layer that defines it.  Within the layer
of memberships nothing has to be decided: the names that two memberships write for different
servers differ, and none of them is a name of the identity of a device, whatever the identifiers of
the servers are.

Main statements: `VpnVariable.name_inj`, `VpnVariable.name_not_mem_identityNames`,
`VariableSources.get?_resolve_layers`.
-/
import Fleet.Proofs.Maps
import Fleet.Proofs.Runs
import Mathlib.Data.List.Nodup

namespace Fleet

/-! ## Names of variables -/

/-- The names of the variables that tell the identity of a device. -/
def Device.identityNames : List String :=
  ["id", "key", "name", "mac_address", "hardware_id"]

/-- The variables of the identity have these names. -/
theorem Device.mem_identityNames {d : Device} {name : String}
    (h : name ∈ d.variables.map Prod.fst) : name ∈ identityNames := by
  rw [Device.variables] at h
  cases hhardware : d.hardwareId with
  | none =>
      rw [hhardware] at h
      have hfour : name ∈ ["id", "key", "name", "mac_address"] := h
      exact List.mem_append_left ["hardware_id"] hfour
  | some hardware =>
      rw [hhardware] at h
      exact h

/-- The names of the variables of the identity differ. -/
theorem Device.nodup_variables (d : Device) : (d.variables.map Prod.fst).Nodup := by
  rw [Device.variables]
  cases d.hardwareId with
  | none =>
      show ["id", "key", "name", "mac_address"].Nodup
      decide
  | some hardware =>
      show identityNames.Nodup
      decide

namespace VpnVariable

/-- The text before the server in the name of a variable. -/
def lead (v : VpnVariable) : List Char :=
  v.stem.toList ++ ['_']

/-- All of them are listed. -/
theorem mem_all (v : VpnVariable) : v ∈ all := by
  cases v <;> decide

/-- No lead is the beginning of another one. -/
theorem eq_of_prefix_lead : ∀ v ∈ all, ∀ w ∈ all, v.lead <+: w.lead → v = w := by
  decide

/-- No lead is the beginning of a name of the identity. -/
theorem not_lead_prefix_identityNames :
    ∀ v ∈ all, ∀ name ∈ Device.identityNames, ¬ v.lead <+: name.toList := by
  decide

/-- A name is the lead followed by the server. -/
theorem toList_name (v : VpnVariable) (server : ServerId) :
    (v.name server).toList = v.lead ++ server.text.toList := by
  simp [name, lead]

/-- The name of a variable tells which one it is and for which server. -/
theorem name_inj {v w : VpnVariable} {server other : ServerId} :
    v.name server = w.name other ↔ v = w ∧ server = other := by
  constructor
  · intro h
    have hlist : v.lead ++ server.text.toList = w.lead ++ other.text.toList := by
      rw [← toList_name, ← toList_name, h]
    -- One of the two leads is the beginning of the other.
    have hvw : v = w := by
      have hv : v.lead <+: w.lead ++ other.text.toList := ⟨server.text.toList, hlist⟩
      rcases List.prefix_or_prefix_of_prefix hv (List.prefix_append w.lead _) with h | h
      · exact eq_of_prefix_lead v (mem_all v) w (mem_all w) h
      · exact (eq_of_prefix_lead w (mem_all w) v (mem_all v) h).symm
    subst hvw
    have htext : server.text = other.text := String.toList_injective (List.append_cancel_left hlist)
    exact ⟨rfl, Key.text_injective htext⟩
  · rintro ⟨rfl, rfl⟩
    rfl

/-- The name of a variable is no name of the identity, whatever the server is. -/
theorem name_not_mem_identityNames (v : VpnVariable) (server : ServerId) :
    v.name server ∉ Device.identityNames := by
  intro h
  refine not_lead_prefix_identityNames v (mem_all v) _ h ?_
  rw [toList_name]
  exact List.prefix_append _ _

end VpnVariable

namespace VpnAttachment

/-- What a membership writes are variables for its server. -/
theorem exists_name_of_mem {a : VpnAttachment} {name : String}
    (h : name ∈ a.variables.map Prod.fst) : ∃ v : VpnVariable, name = v.name a.server.id := by
  obtain ⟨e, he, rfl⟩ := List.mem_map.mp h
  obtain ⟨v, _, hv⟩ := List.mem_filterMap.mp he
  obtain ⟨value, _, rfl⟩ := Option.map_eq_some_iff.mp hv
  exact ⟨v, rfl⟩

/-- A membership writes every name at most once. -/
theorem nodup_variables (a : VpnAttachment) : (a.variables.map Prod.fst).Nodup := by
  rw [VpnAttachment.variables, List.map_filterMap]
  refine List.Nodup.filterMap ?_ (by decide)
  intro v w name hv hw
  simp only [Option.map_map, Option.mem_def, Option.map_eq_some_iff] at hv hw
  obtain ⟨_, _, rfl⟩ := hv
  obtain ⟨_, _, hname⟩ := hw
  exact (VpnVariable.name_inj.mp hname.symm).1

/-- Memberships in different servers write different names. -/
theorem disjoint_variables {a b : VpnAttachment} (h : a.server.id ≠ b.server.id) :
    (a.variables.map Prod.fst).Disjoint (b.variables.map Prod.fst) := by
  intro name ha hb
  obtain ⟨v, rfl⟩ := exists_name_of_mem ha
  obtain ⟨w, hw⟩ := exists_name_of_mem hb
  exact h (VpnVariable.name_inj.mp hw).2

/-- A membership writes no name of the identity of a device. -/
theorem disjoint_identity (a : VpnAttachment) (d : Device) :
    (a.variables.map Prod.fst).Disjoint (d.variables.map Prod.fst) := by
  intro name ha hd
  obtain ⟨v, rfl⟩ := exists_name_of_mem ha
  exact v.name_not_mem_identityNames a.server.id (Device.mem_identityNames hd)

end VpnAttachment

/-! ## Layers -/

namespace VariableSources

variable {sources : VariableSources}

/-- What each layer says about a name, from the highest to the lowest: the identity of the device,
the memberships, the configuration, the group, the organization, and the fleet. -/
def layers (sources : VariableSources) (fleet : Context) (name : String) : List (Option String) :=
  [sources.device.variables.lookup name,
    sources.vpn.findSome? fun a => a.variables.lookup name,
    sources.configuration.context.get? name,
    sources.group.bind fun context => context.get? name,
    sources.organization.bind fun context => context.get? name,
    fleet.get? name]

/-- Memberships in different servers write every name at most once. -/
theorem nodup_memberships (h : (sources.vpn.map fun a => a.server.id).Nodup) :
    ((sources.vpn.flatMap VpnAttachment.variables).map Prod.fst).Nodup := by
  rw [List.map_flatMap, List.nodup_flatMap]
  refine ⟨fun a _ => a.nodup_variables, ?_⟩
  rw [List.Nodup, List.pairwise_map] at h
  exact h.imp VpnAttachment.disjoint_variables

/-- A name is looked up in one membership after the other. -/
theorem lookup_memberships (vpn : List VpnAttachment) (name : String) :
    (vpn.flatMap VpnAttachment.variables).lookup name =
      vpn.findSome? fun a => a.variables.lookup name := by
  induction vpn with
  | nil => rfl
  | cons a rest ih =>
      rw [List.flatMap_cons, List.lookup_append, ih, List.findSome?_cons]
      cases a.variables.lookup name <;> rfl

/-- A layer that may be missing defines nothing if it is. -/
theorem get?_getD (layer : Option Context) (name : String) :
    (layer.getD .empty).get? name = layer.bind fun context => context.get? name := by
  cases layer <;> rfl

/-- The first layer comes before the others. -/
theorem findSome?_id_cons (first : Option String) (lower : List (Option String)) :
    (first :: lower).findSome? id = first.or (lower.findSome? id) := by
  cases first <;> rfl

/-- A variable has the value of the highest layer that defines it, and none if no layer does.
Memberships in different servers never write the same name, and no membership writes a name of the
identity of a device, whatever the servers are called. -/
theorem get?_resolve_layers (h : (sources.vpn.map fun a => a.server.id).Nodup) (fleet : Context) :
    (∀ name, (sources.resolve fleet).get? name = (sources.layers fleet name).findSome? id) ∧
      (∀ a b : VpnAttachment, a.server.id ≠ b.server.id →
        (a.variables.map Prod.fst).Disjoint (b.variables.map Prod.fst)) ∧
      ∀ (a : VpnAttachment) (d : Device),
        (a.variables.map Prod.fst).Disjoint (d.variables.map Prod.fst) := by
  refine ⟨fun name => ?_, fun _ _ => VpnAttachment.disjoint_variables,
    VpnAttachment.disjoint_identity⟩
  rw [resolve, SortedMap.get?_insertAll_of_nodup sources.device.nodup_variables,
    SortedMap.get?_insertAll_of_nodup (nodup_memberships h), lookup_memberships,
    SortedMap.get?_union, SortedMap.get?_union, SortedMap.get?_union, get?_getD, get?_getD]
  simp only [layers, findSome?_id_cons, List.findSome?_nil, Option.or_none]

/-- A device in two servers, with names that several layers define. -/
def overlappingSample : VariableSources where
  device := Sample.device
  configuration :=
    { Sample.configuration [] with
      context := .ofList [("name", "forged"), ("vpn_host_s", "forged"), ("zone", "own")] }
  organization := some (.ofList [("ntp", "organization"), ("zone", "organization")])
  group := some (.ofList [("ntp", "group"), ("zone", "group")])
  vpn := [⟨Sample.server, Sample.client⟩,
    ⟨{ Sample.server with id := ⟨"s_2"⟩, host := "other" },
      { Sample.client with server := ⟨"s_2"⟩ }⟩]

/-- The variables of the fleet that the device is in. -/
def fleetSample : Context :=
  .ofList [("dns", "fleet"), ("ntp", "fleet")]

/-- Each of the names has the value of the highest of its layers. -/
theorem get?_resolve_layers_sample :
    (overlappingSample.vpn.map fun a => a.server.id).Nodup ∧
      (∀ name, (overlappingSample.resolve fleetSample).get? name =
        (overlappingSample.layers fleetSample name).findSome? id) ∧
      ["name", "vpn_host_s", "vpn_host_s_2", "zone", "ntp", "dns", "mtu"].map
          (overlappingSample.resolve fleetSample).get? =
        [some "host", some "vpn", some "other", some "own", some "group", some "fleet", none] := by
  have hdistinct : (overlappingSample.vpn.map fun a => a.server.id).Nodup := by decide
  exact ⟨hdistinct, (get?_resolve_layers hdistinct fleetSample).1, by decide +kernel⟩

end VariableSources

end Fleet
