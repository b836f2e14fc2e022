import SearchIndex.Config.Resolved
import SearchIndex.Proofs.Json.Objects

/-!
# Layers of a configuration

The settings of a run come from layers: the command line with the environment, the file laid over
the one in the home directory, that file, and defaults. Each field is the first that is set in this
order, whichever sections and fields the files have, and each index has the definition of the first
file that has one (`load_layers`). Nothing but what results from the layers is checked, so a bad
value below a good one does no harm.

Files are laid over one another in `layered`. A field of a section is one way to look into a file
(`IsField.layered`), and all of them go the same way.
-/

namespace SearchIndex.Json

/-! ## Readings -/

/-- A reading that goes on was read so far. -/
theorem Step.exists_of_andThen_eq_ok {α β : Type} {step : Step α} {next : α → List Char → Step β}
    {result : β × List Char} (h : step.andThen next = .ok result) :
    ∃ a rest, step = .ok (a, rest) ∧ next a rest = .ok result := by
  cases step with
  | error stop => cases h
  | ok read => exact ⟨read.1, read.2, rfl, h⟩

/-- A mapped step that succeeds has a result that was mapped. -/
theorem Step.exists_of_map_eq_ok {α β : Type} {step : Step α} {f : α → β} {b : β}
    {rest : List Char} (h : step.map f = .ok (b, rest)) :
    ∃ a, step = .ok (a, rest) ∧ b = f a := by
  obtain ⟨a, rest', hstep, hresult⟩ := Step.exists_of_andThen_eq_ok h
  cases hresult
  exact ⟨a, hstep, rfl⟩

/-- No name is read twice into an object. -/
theorem nodup_names_of_readMembers {item : List Char → Step Value} {fuel : Nat} {first : Bool}
    {members result : Members} {text rest : List Char} (hmembers : members.names.Nodup)
    (h : readMembers item fuel first members text = .ok (result, rest)) : result.names.Nodup := by
  induction fuel generalizing first members text with
  | zero => cases h
  | succ fuel ih =>
    obtain ⟨name, _, -, h⟩ := Step.exists_of_andThen_eq_ok h
    cases name with
    | none =>
      cases h
      exact hmembers
    | some name =>
      obtain ⟨_, _, -, h⟩ := Step.exists_of_andThen_eq_ok h
      obtain ⟨value, _, -, h⟩ := Step.exists_of_andThen_eq_ok h
      exact ih (Members.nodup_names_set hmembers name value) h

end SearchIndex.Json

namespace SearchIndex.Config

open Files (Disk Places)
open Json (Members Step)

/-! ## Well-formed files -/

/-- The definitions of indexes in a file. -/
def File.definitions (file : File) : Members :=
  file.indexes.getD []

/-- No index is defined twice. -/
def File.IsWellFormed (file : File) : Prop :=
  file.definitions.names.Nodup

/-- A value of another type is not read. -/
theorem mismatch_ne_ok {α : Type} {expected : String} {text : List Char} {result : α × List Char} :
    mismatch expected text ≠ .ok result := by
  intro h
  unfold mismatch at h
  split at h
  · cases h
  · split_ifs at h
    all_goals first
      | cases h
      | obtain ⟨read, _, -, h⟩ := Step.exists_of_andThen_eq_ok h
        cases read <;> cases h

/-- An object that is read has no name twice. -/
theorem nodup_names_of_readObject {room : Nat} {text rest : List Char} {members : Members}
    (h : readObject room text = .ok (members, rest)) : members.names.Nodup := by
  have hnone : (Members.names []).Nodup := List.nodup_nil
  unfold readObject at h
  split at h
  · exact Json.nodup_names_of_readMembers hnone h
  · exact absurd h mismatch_ne_ok

/-- What every field and every other member leaves true of a record is true when it is read. -/
theorem readFields_induction {ρ : Type} {P : ρ → Prop} {fields : List (FieldReader ρ)}
    {unknown : String → List Char → Step (ρ → ρ)}
    (hfields : ∀ field ∈ fields, ∀ text set rest, field.read text = .ok (set, rest) →
      ∀ record, P record → P (set record))
    (hunknown : ∀ name text set rest, unknown name text = .ok (set, rest) →
      ∀ record, P record → P (set record))
    {fuel : Nat} {first : Bool} {seen : List String} {record result : ρ} {text rest : List Char}
    (hrecord : P record)
    (h : readFields fields unknown fuel first seen record text = .ok (result, rest)) :
    P result := by
  induction fuel generalizing first seen record text with
  | zero => cases h
  | succ fuel ih =>
    obtain ⟨name, _, -, h⟩ := Step.exists_of_andThen_eq_ok h
    cases name with
    | none =>
      cases h
      exact hrecord
    | some name =>
      simp only at h
      split at h
      · next field hfield =>
        split at h
        · cases h
        · obtain ⟨_, _, -, h⟩ := Step.exists_of_andThen_eq_ok h
          obtain ⟨set, _, hset, h⟩ := Step.exists_of_andThen_eq_ok h
          exact ih (hfields field (List.mem_of_find?_eq_some hfield) _ _ _ hset record hrecord) h
      · obtain ⟨_, _, -, h⟩ := Step.exists_of_andThen_eq_ok h
        obtain ⟨set, _, hset, h⟩ := Step.exists_of_andThen_eq_ok h
        exact ih (hunknown name _ _ _ hset record hrecord) h

/-- A value that is read where null may stand is read as a value. -/
theorem exists_of_readOptional {α : Type} {read : List Char → Step α} {text rest : List Char}
    {a : α} (h : readOptional read text = .ok (some a, rest)) :
    ∃ text rest, read text = .ok (a, rest) := by
  unfold readOptional at h
  split at h
  · cases h
  · split at h
    · obtain ⟨_, -, h⟩ := Step.exists_of_map_eq_ok h
      cases h
    · obtain ⟨a', h', heq⟩ := Step.exists_of_map_eq_ok h
      cases heq
      exact ⟨_, _, h'⟩

/-- What is read of one member of a file leaves it well-formed. -/
theorem isWellFormed_of_fileFields : ∀ field ∈ fileFields, ∀ text set rest,
    field.read text = .ok (set, rest) →
      ∀ file, File.IsWellFormed file → (set file).IsWellFormed := by
  simp only [fileFields, List.forall_mem_cons]
  refine ⟨?_, ?_, ?_, ?_, nofun⟩
  all_goals
    intro text set rest h file hfile
    obtain ⟨v, hv, rfl⟩ := Step.exists_of_map_eq_ok h
  · exact hfile
  · exact hfile
  · exact hfile
  · cases v with
    | none => exact List.nodup_nil
    | some members =>
      obtain ⟨_, _, hread⟩ := exists_of_readOptional hv
      exact nodup_names_of_readObject hread

/-- A configuration file that is read is well-formed. -/
theorem isWellFormed_of_readFile {text rest : List Char} {file : File}
    (h : readFile text = .ok (file, rest)) : file.IsWellFormed := by
  have hempty : File.IsWellFormed {} := List.nodup_nil
  unfold readFile at h
  split at h
  · refine readFields_induction isWellFormed_of_fileFields ?_ hempty h
    intro name text set rest hunknown file hfile
    obtain ⟨v, -, rfl⟩ := Step.exists_of_map_eq_ok hunknown
    exact hfile
  · exact absurd h mismatch_ne_ok

/-- A file that was read is well-formed. -/
theorem isWellFormed_of_parseFile {text : String} {file : File} (h : parseFile text = .ok file) :
    file.IsWellFormed := by
  simp only [parseFile] at h
  split at h
  · cases h
  · next file' rest hread =>
    split at h
    · cases h
    · cases h
      exact isWellFormed_of_readFile hread

/-! ## Layers -/

/-- The first value that is set, from the top layer down. -/
def firstSet {α : Type} (layers : List (Option α)) : Option α :=
  layers.findSome? id

theorem firstSet_cons {α : Type} (top : Option α) (rest : List (Option α)) :
    firstSet (top :: rest) = top.or (firstSet rest) := by
  cases top <;> rfl

/-- Files laid over one another, the first of them on top. -/
def layered (files : List File) : File :=
  files.foldr File.over {}

/-- A field that sections laid over one another have from the upper one, or else from the lower. -/
structure IsField {σ α : Type} (lay : σ → σ → σ) (empty : σ) (field : σ → Option α) : Prop where
  of_empty : field empty = none
  of_lay (top bottom : σ) : field (lay top bottom) = (field top).or (field bottom)

section Fields

variable {σ α : Type} {lay : σ → σ → σ} {empty : σ} {field : σ → Option α}

/-- Either of the sections may be missing. -/
theorem IsField.bind_overSection (h : IsField lay empty field) (top bottom : Option σ) :
    (overSection lay empty top bottom).bind field = (top.bind field).or (bottom.bind field) := by
  cases top with
  | none => rfl
  | some given =>
    cases bottom with
    | none =>
      rw [overSection, Option.getD_none, Option.bind_some, h.of_lay, h.of_empty]
      rfl
    | some other =>
      rw [overSection, Option.getD_some, Option.bind_some, h.of_lay]
      rfl

/-- A field of a section in layers of files is the first that is set. -/
theorem IsField.layered (h : IsField lay empty field) (part : File → Option σ)
    (hempty : part {} = none)
    (hover : ∀ top bottom,
      part (top.over bottom) = overSection lay empty (part top) (part bottom))
    (files : List File) : field ((part (Config.layered files)).getD empty) =
      firstSet (files.map fun file => (part file).bind field) := by
  have hbind : field ((part (Config.layered files)).getD empty) =
      (part (Config.layered files)).bind field := by
    cases part (Config.layered files) with
    | none => exact h.of_empty
    | some given => rfl
  rw [hbind]
  clear hbind
  induction files with
  | nil =>
    rw [Config.layered, List.foldr_nil, hempty]
    rfl
  | cons top rest ih =>
    rw [Config.layered, List.foldr_cons, ← Config.layered, hover, h.bind_overSection, ih,
      List.map_cons, firstSet_cons]

end Fields

/-! ### Indexes -/

/-- The definitions of an upper file replace those of the same name in a lower one. -/
theorem definitions_over (top bottom : File) :
    (top.over bottom).definitions = Members.setAll bottom.definitions top.definitions := by
  simp only [File.definitions, File.over]
  cases top.indexes <;> rfl

section Indexes

variable {files : List File}

/-- The definition of an index in layers is that of the first file that has one. -/
theorem get?_definitions_layered (hfiles : ∀ file ∈ files, file.IsWellFormed) (name : String) :
    (layered files).definitions.get? name =
      firstSet (files.map fun file => file.definitions.get? name) := by
  induction files with
  | nil => rfl
  | cons top rest ih =>
    obtain ⟨htop, hrest⟩ := List.forall_mem_cons.1 hfiles
    rw [layered, List.foldr_cons, ← layered, definitions_over, Members.get?_setAll htop, ih hrest,
      List.map_cons, firstSet_cons]

/-- Layers of files define no index twice, also where several of them do. -/
theorem isWellFormed_layered (files : List File) : (layered files).IsWellFormed := by
  induction files with
  | nil => exact List.nodup_nil
  | cons top rest ih =>
    rw [layered, List.foldr_cons, ← layered, File.IsWellFormed, definitions_over]
    exact Members.nodup_names_setAll ih

/-- Layers of files define the indexes that one of them defines. -/
theorem mem_names_layered (hfiles : ∀ file ∈ files, file.IsWellFormed) (name : String) :
    name ∈ (layered files).definitions.names ↔ ∃ file ∈ files, name ∈ file.definitions.names := by
  simp only [Members.mem_names_iff, get?_definitions_layered hfiles, firstSet,
    List.findSome?_isSome_iff, List.mem_map, id, exists_exists_and_eq_and]

end Indexes

/-! ## Checks -/

/-- The configuration has no useless value. -/
structure AppConfig.IsUsable (config : AppConfig) : Prop where
  timeout : 0 < config.search.timeoutSecs
  depth : 0 < config.engine.filter.maxDepth
  version : Text.isBlankText config.search.apiVersion = false
  column : Text.isBlankText config.engine.softDelete.column = false

/-- A check gives the configuration itself, if it is usable. -/
theorem AppConfig.check_eq_ok_iff {config result : AppConfig} :
    config.check = .ok result ↔ result = config ∧ config.IsUsable := by
  unfold AppConfig.check
  split_ifs with htimeout hdepth hversion hcolumn
  · exact ⟨nofun, fun h => absurd htimeout (Nat.ne_of_gt h.2.timeout)⟩
  · exact ⟨nofun, fun h => absurd hdepth (Nat.ne_of_gt h.2.depth)⟩
  · exact ⟨nofun, fun h => absurd (h.2.version.symm.trans hversion) Bool.false_ne_true⟩
  · exact ⟨nofun, fun h => absurd (h.2.column.symm.trans hcolumn) Bool.false_ne_true⟩
  · simp only [Except.ok.injEq, eq_comm, iff_self_and]
    rintro -
    exact ⟨Nat.pos_of_ne_zero htimeout, Nat.pos_of_ne_zero hdepth,
      Bool.eq_false_iff.2 hversion, Bool.eq_false_iff.2 hcolumn⟩

/-! ## Loading -/

section Load

variable {disk : Disk} {places : Places} {overrides : Overrides} {profile overlay : Option File}

/-- What is found in the home directory: a file that can be read, or nothing. -/
inductive FindsProfile (disk : Disk) (places : Places) : Option File → Prop
  | missing (h : disk.has (profilePath places) = false) : FindsProfile disk places none
  | found {file : File} (h : disk.has (profilePath places) = true)
      (hfile : loadFile disk (profilePath places) (profilePath places) = .ok file) :
      FindsProfile disk places (some file)

/-- What is found to lie over the file in the home directory: a file that can be read, or
nothing. -/
inductive FindsOverlay (disk : Disk) (places : Places) (overrides : Overrides) : Option File → Prop
  | missing (h : overlayPath disk places overrides = .ok none) :
      FindsOverlay disk places overrides none
  | found {path shown : String} {file : File}
      (h : overlayPath disk places overrides = .ok (some (path, shown)))
      (hfile : loadFile disk path shown = .ok file) : FindsOverlay disk places overrides (some file)

/-- What is loaded is what the files found resolve to, if that passes the check. -/
theorem result_load (hprofile : FindsProfile disk places profile)
    (hoverlay : FindsOverlay disk places overrides overlay) :
    (load disk places overrides).result =
      (resolve overrides (layered (overlay.toList ++ profile.toList))).check := by
  -- A file that is missing stands for one that says nothing, and such a file is no layer.
  cases hprofile with
  | missing h =>
    cases hoverlay with
    | missing h' => simp only [load, h, h']; rfl
    | found h' hfile' => simp only [load, h, h', hfile']; rfl
  | found h hfile =>
    cases hoverlay with
    | missing h' => simp only [load, h, h', hfile]; rfl
    | found h' hfile' => simp only [load, h, h', hfile, hfile']; rfl

/-- Each setting is the first that is set on the command line, in the file on top and in the one
below, in this order, or else its default. Leniency is never taken back. An index is defined as in
the first file that defines it. What is loaded where these files are found is this configuration,
if its own values are usable. -/
theorem load_layers (overrides : Overrides) (profile overlay : Option File)
    (hprofile : ∀ file ∈ profile, file.IsWellFormed)
    (hoverlay : ∀ file ∈ overlay, file.IsWellFormed) :
    let files := overlay.toList ++ profile.toList
    let config := resolve overrides (layered files)
    let search {α : Type} (field : SearchSection → Option α) : List (Option α) :=
      files.map fun file => file.search.bind field
    let filters {α : Type} (field : FilterSection → Option α) : List (Option α) :=
      files.map fun file => file.filters.bind field
    let softDelete {α : Type} (field : SoftDeleteSection → Option α) : List (Option α) :=
      files.map fun file => file.softDelete.bind field
    config.search = {
        endpoint := firstSet (overrides.endpoint :: search (·.endpoint))
        apiKey := firstSet (overrides.apiKey :: search (·.apiKey))
        apiVersion := (firstSet (overrides.apiVersion :: search (·.apiVersion))).getD "2024-07-01"
        timeoutSecs := (firstSet (overrides.timeout :: search (·.timeoutSecs))).getD 30 } ∧
      config.engine.filter.maxDepth =
        (firstSet (overrides.maxDepth :: filters (·.maxDepth))).getD 32 ∧
      (config.engine.filter.strict = true ↔
        overrides.lenient = false ∧ (firstSet (filters (·.strict))).getD true = true) ∧
      config.engine.softDelete = {
        enabled := (firstSet (softDelete (·.enabled))).getD false
        column := (firstSet (softDelete (·.column))).getD "isDeleted"
        marker := (firstSet (softDelete (·.marker))).getD "true" } ∧
      config.engine.indexes.names.Nodup ∧
      (∀ name, name ∈ config.engine.indexes.names ↔ ∃ file ∈ files, name ∈ file.definitions.names) ∧
      (∀ name, config.engine.indexes.get? name =
        firstSet (files.map fun file => file.definitions.get? name)) ∧
      ∀ disk places, FindsProfile disk places profile → FindsOverlay disk places overrides overlay →
        ∀ result, (load disk places overrides).result = .ok result ↔
          result = config ∧ config.IsUsable := by
  intro files config search filters softDelete
  have hfiles : ∀ file ∈ files, file.IsWellFormed := by
    simp only [files, List.mem_append, Option.mem_toList]
    rintro file (hfile | hfile)
    · exact hoverlay file hfile
    · exact hprofile file hfile
  refine ⟨?_, ?_, ?_, ?_, isWellFormed_layered files, mem_names_layered hfiles,
    get?_definitions_layered hfiles, fun disk places hp ho result => ?_⟩
  · -- Each field of a section is layered on its own, so one lemma serves them all.
    have hsearch {α : Type} {field : SearchSection → Option α}
        (h : IsField SearchSection.over {} field) :=
      h.layered File.search rfl (fun _ _ => rfl) files
    have hendpoint := @hsearch _ (·.endpoint) ⟨rfl, fun _ _ => rfl⟩
    have hapiKey := @hsearch _ (·.apiKey) ⟨rfl, fun _ _ => rfl⟩
    have hapiVersion := @hsearch _ (·.apiVersion) ⟨rfl, fun _ _ => rfl⟩
    have htimeout := @hsearch _ (·.timeoutSecs) ⟨rfl, fun _ _ => rfl⟩
    simp only [search, firstSet_cons, ← hendpoint, ← hapiKey, ← hapiVersion, ← htimeout]
    rfl
  · have hdepth : IsField FilterSection.over {} (·.maxDepth) := ⟨rfl, fun _ _ => rfl⟩
    rw [firstSet_cons, ← hdepth.layered File.filters rfl (fun _ _ => rfl) files]
    rfl
  · have hstrict : IsField FilterSection.over {} (·.strict) := ⟨rfl, fun _ _ => rfl⟩
    rw [← hstrict.layered File.filters rfl (fun _ _ => rfl) files]
    simp [config, resolve]
  · have hsoftDelete {α : Type} {field : SoftDeleteSection → Option α}
        (h : IsField SoftDeleteSection.over {} field) :=
      h.layered File.softDelete rfl (fun _ _ => rfl) files
    have henabled := @hsoftDelete _ (·.enabled) ⟨rfl, fun _ _ => rfl⟩
    have hcolumn := @hsoftDelete _ (·.column) ⟨rfl, fun _ _ => rfl⟩
    have hmarker := @hsoftDelete _ (·.marker) ⟨rfl, fun _ _ => rfl⟩
    simp only [softDelete, ← henabled, ← hcolumn, ← hmarker]
    rfl
  · -- Loading resolves the same layers, and then it only checks the result.
    rw [result_load hp ho]
    exact AppConfig.check_eq_ok_iff

end Load

/-- A disk with a useless timeout in the home directory and another one in the current directory. -/
def timeoutDisk : Disk where
  read path :=
    if path = "/home/.azscout/azscout.json" then
      .ok "\x7b\"search\":\x7b\"timeout_secs\":0\x7d\x7d".toUTF8
    else if path = "/azscout.json" then
      .ok "\x7b\"search\":\x7b\"timeout_secs\":5\x7d\x7d".toUTF8
    else .error .missing

/-- The timeout of zero does no harm. -/
theorem load_layers_timeout : ∃ config,
    (load timeoutDisk ⟨"/home", "/"⟩ { lenient := true }).result = .ok config ∧
      config.search.timeoutSecs = 5 ∧ config.engine.filter.strict = false := by
  have hprofile : parseFile "\x7b\"search\":\x7b\"timeout_secs\":0\x7d\x7d" =
      .ok { search := some { timeoutSecs := some 0 } } := rfl
  have hoverlay : parseFile "\x7b\"search\":\x7b\"timeout_secs\":5\x7d\x7d" =
      .ok { search := some { timeoutSecs := some 5 } } := rfl
  have h := load_layers { lenient := true } (some { search := some { timeoutSecs := some 0 } })
    (some { search := some { timeoutSecs := some 5 } })
    (fun _ hfile => Option.some.inj hfile ▸ isWellFormed_of_parseFile hprofile)
    (fun _ hfile => Option.some.inj hfile ▸ isWellFormed_of_parseFile hoverlay)
  obtain ⟨-, -, -, -, -, -, -, hload⟩ := h
  have hfound := hload timeoutDisk ⟨"/home", "/"⟩ (.found rfl rfl) (.found rfl rfl)
  exact ⟨_, (hfound _).2 ⟨rfl, by decide, by decide, by decide, by decide⟩, rfl, rfl⟩

end SearchIndex.Config
