/-
# The inventory file is saved after a successful change only

On a disk whose writes succeed, a command other than `init` replaces the inventory file exactly
when it sends a signal to a configuration, the file could be used or was missing, and the
controller accepted the signal.  The new file holds the inventory that the signal led to: it is
loaded from there if the numbers of its documents read back.  Everything else leaves all files as
they are, and so does a file that cannot be used.  Only `init` writes without looking, to the path
that it is given.

Main statements: `Command.mutation?_eq_some_iff`, `Command.storable_of_mutation?`,
`Program.run_writes`.
-/
import Fleet.Command.Program
import Fleet.Proofs.DeviceEdits
import Fleet.Proofs.Loading
import Fleet.Proofs.Steps

namespace Fleet

/-! ## A disk in memory -/

/-- The files of a disk and what was written there. -/
structure Files where
  /-- What reading a path gives: a text, or why there is none. -/
  read : String → Except DiskError String
  /-- The paths written to so far, in order. -/
  written : List String

/-- The files once a text stands at a path. -/
def Files.put (files : Files) (path text : String) : Files where
  read p := if p = path then .ok text else files.read p
  written := files.written ++ [path]

/-- A disk in memory, on which every write succeeds. -/
def Disk.inMemory : Disk (StateM Files) where
  read path := fun files => (files.read path, files)
  write path text := fun files => (.ok (), files.put path text)
  replace path text := fun files => (.ok (), files.put path text)

/-! ## Signals to storable inventories -/

namespace Inventory.Storable

variable {inv inv' : Inventory} {x : DeviceId} {k : Configuration}

/-- A configuration may be stored if its document is empty or one of the inventory. -/
theorem putConfiguration (h : inv.Storable)
    (hk : k.document = .emptyObject ∨ k.document ∈ inv.documents) (x : DeviceId) :
    (inv.putConfiguration x k).Storable := by
  refine ⟨⟨h.fits.created, h.fits.vni, h.fits.tunnelIds, h.fits.templateSequence⟩, fun j hj => ?_⟩
  have hdocument : k.document.Within InventoryFile.documentLevels := by
    rcases hk with hempty | hold
    · rw [hempty]
      exact Json.within_emptyObject (by decide)
    · exact h.within _ hold
  rcases mem_documents.mp hj with ⟨y, k', hk', rfl⟩ | hshared
  · rw [Inventory.putConfiguration, SortedMap.get?_insert] at hk'
    split at hk'
    · cases hk'
      exact hdocument
    · exact h.within _ (mem_documents.mpr (Or.inl ⟨y, k', hk', rfl⟩))
  · exact h.within j (mem_documents.mpr (Or.inr hshared))

/-- Devices do not count. -/
theorem putDevice (h : inv.Storable) (x : DeviceId) (d : Device) : (inv.putDevice x d).Storable :=
  ⟨⟨h.fits.created, h.fits.vni, h.fits.tunnelIds, h.fits.templateSequence⟩, h.within⟩

/-- Memberships may end. -/
theorem filterClients (h : inv.Storable) (p : VpnClient → Bool) :
    Storable { inv with clients := inv.clients.filter p } :=
  ⟨⟨h.fits.created, fun c hc => h.fits.vni c (List.mem_of_mem_filter hc), h.fits.tunnelIds,
    h.fits.templateSequence⟩, h.within⟩

/-- A signal prepares a storable inventory for the new state. -/
theorem prepare {signal : Signal} {changes : Bool} {left : List VpnClient} (h : inv.Storable)
    (hprepare : Controller.prepare inv x signal changes = .ok (left, inv')) : inv'.Storable := by
  unfold Controller.prepare at hprepare
  split at hprepare
  · split at hprepare
    · obtain ⟨d, k, _, _, _, rfl⟩ := deactivate_eq_ok hprepare
      exact ((h.putConfiguration (Or.inl rfl) x).putDevice x _).filterClients _
    · cases hprepare
      exact h
  · obtain ⟨inv₁, hreactivate, hpair⟩ := Outcomes.map_eq_ok.mp hprepare
    cases hpair
    obtain ⟨d, k, _, hk, rfl⟩ := reactivate_eq_ok hreactivate
    have hdocument : k.document ∈ inv.documents := mem_documents.mpr (Or.inl ⟨x, k, hk, rfl⟩)
    refine (h.putConfiguration ?_ x).putDevice x _
    exact Or.inr hdocument
  · cases hprepare
    exact h

end Inventory.Storable

namespace Controller

/-- A controller starts with its inventory. -/
theorem start_inventory (inv : Inventory) (now : Nat) : (start inv now).inventory = inv := by
  unfold start
  rw [reindexAll_eq]

/-- A signal that is accepted leads from a storable inventory to a storable one. -/
theorem send_storable {c : Controller} {outage : Outage} {x : DeviceId} {signal : Signal}
    {s : Status} (h : c.inventory.Storable) (hsend : (c.send outage x signal).1 = .ok s) :
    (c.send outage x signal).2.inventory.Storable := by
  obtain ⟨d, k, left, inv, k₁, _, _, _, hprepare, hk₁, heq⟩ := send_eq_ok hsend
  have hdocument : k₁.document ∈ inv.documents :=
    Inventory.mem_documents.mpr (Or.inl ⟨x, k₁, hk₁, rfl⟩)
  rw [heq]
  exact (h.prepare hprepare).putConfiguration (k := { k₁ with status := s }) (Or.inr hdocument) x

end Controller

/-! ## What a command changes -/

/-- The inventory that a file stands for: an empty one if there is no file, none if it cannot be
used. -/
def InventoryFile.Loaded.inventory? : InventoryFile.Loaded → Option Inventory
  | .inventory inv => some inv
  | .notFound => some .empty
  | .corrupted _ => none

namespace Command

/-- The signal that a command sends, and the device to whose configuration it goes. -/
def signal? : Command → Option (DeviceId × Signal)
  | report device verdict => some (device, verdict.signal)
  | deactivate device => some (device, .deactivate)
  | activate device => some (device, .activate)
  | init _ | render _ | checksum _ | peers _ | status _ | check => none

/-- The inventory that a command leads to: the one after its signal, if it sends one and a
controller over the loaded inventory accepts it. -/
def mutation? (command : Command) (now : Nat) (loaded : InventoryFile.Loaded) : Option Inventory :=
  match loaded.inventory?, command.signal? with
  | some inv, some (device, signal) =>
    match (Controller.start inv now).send .none device signal with
    | (.ok _, c) => some c.inventory
    | (.error _, _) => none
  | _, _ => none

/-- A command that prints what it was given saves nothing. -/
theorem saved_ofResult {α : Type} (print : α → String) (result : Except Error α) :
    (Execution.ofResult print result).saved = none := by
  cases result with
  | ok a => rfl
  | error e => rfl

/-- A command without a signal saves nothing. -/
theorem saved_run_of_none {settings : Settings} {c : Controller} {command : Command}
    (h : command.signal? = none) : (command.run settings c).saved = none := by
  cases command with
  | init path => rfl
  | render device => exact saved_ofResult _ _
  | checksum device => exact saved_ofResult _ _
  | peers server => exact saved_ofResult _ _
  | status device => exact saved_ofResult _ _
  | report device verdict => cases h
  | deactivate device => cases h
  | activate device => cases h
  | check =>
      rw [run]
      split <;> rfl

/-- A command with a signal saves the inventory after it, if it was accepted. -/
theorem run_of_signal {settings : Settings} {c : Controller} {command : Command} {device : DeviceId}
    {signal : Signal} (h : command.signal? = some (device, signal)) :
    command.run settings c = .ofChange (c.send .none device signal) := by
  cases command with
  | report | deactivate | activate =>
      cases h
      rfl
  | init | render | checksum | peers | status | check => cases h

/-- What a command saves is the inventory that it leads to. -/
theorem saved_run (settings : Settings) (now : Nat) {loaded : InventoryFile.Loaded}
    {inv : Inventory} (hinv : loaded.inventory? = some inv) (command : Command) :
    (command.run settings (.start inv now)).saved = command.mutation? now loaded := by
  unfold mutation?
  rw [hinv]
  cases hsignal : command.signal? with
  | none => exact saved_run_of_none hsignal
  | some sent =>
      obtain ⟨device, signal⟩ := sent
      rw [run_of_signal hsignal]
      dsimp only
      rcases (Controller.start inv now).send .none device signal with ⟨_ | status, c⟩
      · rfl
      · rfl

/-- What a command saves on what was loaded is the inventory that it leads to; on a file that cannot
be used it leads to none. -/
theorem saved_execute (settings : Settings) (now : Nat) (loaded : InventoryFile.Loaded)
    (command : Command) :
    (command.execute settings now loaded).saved = command.mutation? now loaded := by
  cases loaded with
  | inventory inv => exact saved_run settings now rfl command
  | notFound => exact saved_run settings now rfl command
  | corrupted why => rfl

/-- A command leads to an inventory exactly when the file could be used or was missing, the command
sends a signal, and the controller accepts it; the inventory is the one after the signal. -/
theorem mutation?_eq_some_iff {now : Nat} {loaded : InventoryFile.Loaded} {command : Command}
    {inv : Inventory} :
    command.mutation? now loaded = some inv ↔
      ∃ before device signal status c, loaded.inventory? = some before ∧
        command.signal? = some (device, signal) ∧
        (Controller.start before now).send .none device signal = (.ok status, c) ∧
        c.inventory = inv := by
  unfold mutation?
  constructor
  · intro h
    split at h
    · rename_i before device signal hbefore hsignal
      split at h
      · rename_i status c hsend
        exact ⟨before, device, signal, status, c, hbefore, hsignal, hsend, Option.some.inj h⟩
      · cases h
    · cases h
  · rintro ⟨before, device, signal, status, c, hbefore, hsignal, hsend, rfl⟩
    rw [hbefore, hsignal]
    dsimp only
    rw [hsend]

/-- What is loaded from a file that can be used or is missing is storable. -/
theorem storable_of_ofRead {found : Except DiskError String} {inv : Inventory}
    (h : (InventoryFile.ofRead found).inventory? = some inv) : inv.Storable := by
  cases found with
  | ok text =>
      cases hparse : InventoryFile.parse text with
      | inventory loaded =>
          rw [InventoryFile.ofRead, hparse] at h
          cases h
          exact InventoryFile.storable_of_parse hparse
      | notFound =>
          rw [InventoryFile.ofRead, hparse] at h
          cases h
          exact Inventory.storable_empty
      | corrupted =>
          rw [InventoryFile.ofRead, hparse] at h
          cases h
  | error why =>
      cases why with
      | missing =>
          cases h
          exact Inventory.storable_empty
      | isDirectory | notDirectory | nameTooLong | other => cases h

/-- The inventory that a command leads to from a file is storable. -/
theorem storable_of_mutation? {now : Nat} {found : Except DiskError String} {command : Command}
    {inv : Inventory} (h : command.mutation? now (InventoryFile.ofRead found) = some inv) :
    inv.Storable := by
  obtain ⟨before, device, signal, status, c, hbefore, _, hsend, rfl⟩ := mutation?_eq_some_iff.mp h
  have hstorable : (Controller.start before now).inventory.Storable := by
    rw [Controller.start_inventory]
    exact storable_of_ofRead hbefore
  have hafter := Controller.send_storable hstorable (congrArg Prod.fst hsend)
  rwa [hsend] at hafter

end Command

/-! ## What happens to the files -/

namespace Program

variable {now : Nat} {files : Files}

/-- Saving puts the inventory that a command changed into its file. -/
theorem save_files (path : String) (e : Execution) :
    (save .inMemory now path e files).2 =
      e.saved.elim files fun inv => files.put path (InventoryFile.text now inv) := by
  unfold save
  cases e.saved with
  | none => rfl
  | some inv => rfl

/-- Carrying a command out replaces the inventory file by the inventory that the command leads to,
and changes no file if it leads to none. -/
theorem execute_files (now : Nat) (files : Files) (config : Config) (command : Command) :
    (execute .inMemory now config command files).2 =
      (command.mutation? now (InventoryFile.ofRead (files.read config.inventory))).elim files
        fun inv => files.put config.inventory (InventoryFile.text now inv) := by
  rw [← Command.saved_execute config.settings]
  exact save_files config.inventory _

/-- Reading the configuration file changes no file. -/
theorem loadConfig_files (options : Options) :
    (loadConfig .inMemory options files).2 = files := by
  unfold loadConfig
  cases options.config with
  | none => rfl
  | some path =>
      cases hread : files.read path with
      | error why =>
          simp only [bind, StateT.bind, Disk.inMemory, hread]
          rfl
      | ok text =>
          simp only [bind, StateT.bind, Disk.inMemory, hread]
          cases ConfigFile.parse? text <;> rfl

/-- The template is written to the path that was asked for. -/
theorem invoke_files_of_init {i : Invocation} {path : String} (h : i.command = .init path) :
    (invoke .inMemory now i files).2 = files.put path ConfigFile.template := by
  unfold invoke
  rw [h]
  rfl

/-- Every other command is carried out with the configuration, if that is usable. -/
theorem invoke_eq {i : Invocation} (h : ∀ path, i.command ≠ .init path) :
    invoke .inMemory now i = (do
      match ← loadConfig .inMemory i.options with
      | .error e => return .misconfigured e
      | .ok config => return .executed (← execute .inMemory now config i.command)) := by
  unfold invoke
  split
  · rename_i path hpath
    exact absurd hpath (h path)
  · rfl

/-- It changes what carrying it out changes. -/
theorem invoke_files {i : Invocation} (h : ∀ path, i.command ≠ .init path) :
    (invoke .inMemory now i files).2 =
      match (loadConfig .inMemory i.options files).1 with
      | .ok config => (execute .inMemory now config i.command files).2
      | .error _ => files := by
  have hsame : (loadConfig .inMemory i.options files).2 = files := loadConfig_files i.options
  rw [invoke_eq h]
  simp only [bind, StateT.bind]
  rcases hload : loadConfig .inMemory i.options files with ⟨_ | config, after⟩
  · rw [hload] at hsame
    exact hsame
  · rw [hload] at hsame
    obtain rfl : after = files := hsame
    rfl

/-! ## Runs of the program -/

/-- How a run of the program leaves the files: it writes nothing, the template that it was asked
for, or the inventory that its command leads to. -/
inductive Writes (now : Nat) (files : Files) (arguments : List String) : Files → Prop where
  /-- There is no command. -/
  | refused {why : Refusal} (hparse : Invocation.parse arguments = .error why) :
      Writes now files arguments files
  /-- `init` writes the template to the path that it is given, whatever stands there. -/
  | template {i : Invocation} {path : String} (hparse : Invocation.parse arguments = .ok i)
      (hinit : i.command = .init path) :
      Writes now files arguments (files.put path ConfigFile.template)
  /-- There is no configuration for another command. -/
  | misconfigured {i : Invocation} {e : ConfigError} (hparse : Invocation.parse arguments = .ok i)
      (hother : ∀ path, i.command ≠ .init path)
      (hconfig : (loadConfig .inMemory i.options files).1 = .error e) :
      Writes now files arguments files
  /-- Another command leads to no inventory. -/
  | kept {i : Invocation} {config : Config} (hparse : Invocation.parse arguments = .ok i)
      (hother : ∀ path, i.command ≠ .init path)
      (hconfig : (loadConfig .inMemory i.options files).1 = .ok config)
      (hnone : i.command.mutation? now (InventoryFile.ofRead (files.read config.inventory)) =
        none) :
      Writes now files arguments files
  /-- Another command leads to an inventory.  It replaces the one in the file, and is what the file
  is read as from then on, as long as the numbers of its documents are read back. -/
  | replaced {i : Invocation} {config : Config} {inv : Inventory}
      (hparse : Invocation.parse arguments = .ok i) (hother : ∀ path, i.command ≠ .init path)
      (hconfig : (loadConfig .inMemory i.options files).1 = .ok config)
      (hsome : i.command.mutation? now (InventoryFile.ofRead (files.read config.inventory)) =
        some inv)
      (hloads : InventoryFile.ofRead
          ((files.put config.inventory (InventoryFile.text now inv)).read config.inventory) =
        .inventory inv ↔ ∀ j ∈ inv.documents, j.NumbersReadBack) :
      Writes now files arguments (files.put config.inventory (InventoryFile.text now inv))

/-- What was put at a path is read there. -/
theorem read_put_self (files : Files) (path text : String) :
    (files.put path text).read path = .ok text :=
  if_pos rfl

/-- A run of the program writes at most one file: the template that it was asked for, or the
inventory that its command leads to. -/
theorem run_writes (now : Nat) (files : Files) (arguments : List String) :
    Writes now files arguments (run .inMemory now arguments files).2 := by
  unfold run
  cases hparse : Invocation.parse arguments with
  | error why => exact .refused hparse
  | ok i =>
      dsimp only
      by_cases hinit : ∃ path, i.command = .init path
      · obtain ⟨path, hpath⟩ := hinit
        rw [invoke_files_of_init hpath]
        exact .template hparse hpath
      · have hother : ∀ path, i.command ≠ .init path := fun path hpath => hinit ⟨path, hpath⟩
        rw [invoke_files hother]
        cases hconfig : (loadConfig .inMemory i.options files).1 with
        | error e => exact .misconfigured hparse hother hconfig
        | ok config =>
            dsimp only
            rw [execute_files]
            cases hmutation :
                i.command.mutation? now (InventoryFile.ofRead (files.read config.inventory)) with
            | none => exact .kept hparse hother hconfig hmutation
            | some inv =>
                refine .replaced hparse hother hconfig hmutation ?_
                rw [read_put_self]
                exact (Command.storable_of_mutation? hmutation).parse_text_iff now

/-- A disk on which every path has the file of an inventory without records. -/
def emptySample : Files := ⟨fun _ => .ok (InventoryFile.text 0 .empty), []⟩

/-- `init` overwrites an inventory file that can be used if it is given its path. -/
theorem init_overwrites_inventory :
    ¬ ∀ (now : Nat) (files : Files) (arguments : List String) (i : Invocation) (config : Config),
      Invocation.parse arguments = .ok i →
      (loadConfig .inMemory i.options files).1 = .ok config →
      (InventoryFile.ofRead (files.read config.inventory)).isLoaded = true →
      i.command.mutation? now (InventoryFile.ofRead (files.read config.inventory)) = none →
        (run .inMemory now arguments files).2.read config.inventory =
          files.read config.inventory := by
  intro h
  have hloads : InventoryFile.parse (InventoryFile.text 0 .empty) = .inventory .empty :=
    (Inventory.storable_empty.parse_text_iff 0).mpr nofun
  have hsame := h 0 emptySample ["init", "--output", Config.defaultInventory]
    ⟨.init Config.defaultInventory, { Options.empty with output := some Config.defaultInventory }⟩
    ⟨Config.defaultInventory, ⟨.empty, Settings.defaultTtl, Settings.greatestTunnelId⟩, false⟩
    (by rfl) (by rfl) (by rw [emptySample, InventoryFile.ofRead, hloads]; rfl) (by
      rw [emptySample, InventoryFile.ofRead, hloads]; rfl)
  have htemplate :
      (run .inMemory 0 ["init", "--output", Config.defaultInventory] emptySample).2.read
        Config.defaultInventory = .ok ConfigFile.template := by rfl
  rw [htemplate] at hsame
  exact absurd (Except.ok.inj hsame) (by decide +kernel)

end Program

end Fleet
