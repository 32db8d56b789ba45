/-
The configuration as its layers put together: which file is used, when loading fails, and
which value every field has.

* `ConfigField`: the four fields, each with its key, its variable, its default and its value
  in every layer.
* `ConfigLayer.IsWrittenIn`, `ofToml?_eq_some_iff`: what a configuration file has to say for a
  layer.
* `ofConfig_resolve`: a field has the first value that is present.
* `Tree.UsesConfigFile`, `Tree.HasFileLayer`: the configuration file that is used on a tree,
  and the layer that it gives.
* `Tree.load_eq_ok_iff`, `Tree.load_eq_error_iff`: when a configuration is loaded, and when
  loading fails.
* `load_layered`: loading fails exactly where the file that is used gives no layer, and
  otherwise every field has the first value that is present for it.
-/
import ContractScaffold.Config
import ContractScaffold.Proofs.FileSystem

namespace ContractScaffold

open Text

/-! ### The fields of a configuration -/

/-- The fields of a configuration. -/
inductive ConfigField where
  | templatesDir
  | outputDir
  | recordsDir
  | defaultTemplate
  deriving DecidableEq, Repr

namespace ConfigField

/-- The key of a field in a configuration file. -/
def key : ConfigField → Text
  | templatesDir => "templates_dir"
  | outputDir => "output_dir"
  | recordsDir => "records_dir"
  | defaultTemplate => "default_template"

/-- The variable of the environment that is looked at for a field. -/
def variableName : ConfigField → Text
  | templatesDir => "CHAINSPEC_TEMPLATES_DIR"
  | outputDir => "CHAINSPEC_OUTPUT_DIR"
  | recordsDir => "CHAINSPEC_RECORDS_DIR"
  | defaultTemplate => "CHAINSPEC_DEFAULT_TEMPLATE"

/-- The value that a field has without any layer, where it has one. -/
def default : ConfigField → Option Text
  | templatesDir => none
  | outputDir => some "contracts/generated"
  | recordsDir => some "output"
  | defaultTemplate => none

/-- The value that the command line gives for a field; it names no template. -/
def ofOverrides (o : Overrides) : ConfigField → Option Text
  | templatesDir => o.templatesDir
  | outputDir => o.outputDir
  | recordsDir => o.recordsDir
  | defaultTemplate => none

/-- The value that the environment gives for a field: that of its variable, as it is, unless
it is blank. -/
def ofEnvironment (env : Environment) (field : ConfigField) : Option Text :=
  (env field.variableName).filter fun t => !isAllBlank t

/-- The value that a layer gives for a field. -/
def ofLayer (layer : ConfigLayer) : ConfigField → Option Text
  | templatesDir => layer.templatesDir
  | outputDir => layer.outputDir
  | recordsDir => layer.recordsDir
  | defaultTemplate => layer.defaultTemplate

/-- The value of a field in a configuration. -/
def ofConfig (c : Config) : ConfigField → Option Text
  | templatesDir => c.templatesDir
  | outputDir => some c.outputDir
  | recordsDir => some c.recordsDir
  | defaultTemplate => c.defaultTemplate

/-- The first value that is present. -/
def firstPresent (values : List (Option Text)) : Option Text :=
  values.findSome? id

lemma firstPresent_cons (value : Option Text) (values : List (Option Text)) :
    firstPresent (value :: values) = (value <|> firstPresent values) := by
  cases value <;> rfl

lemma firstPresent_singleton (value : Option Text) : firstPresent [value] = value := by
  cases value <;> rfl

/-- The value for a field on the command line, in the environment, in the configuration file
and by default, in this order. -/
def values (overrides : Overrides) (env : Environment) (file : ConfigLayer)
    (field : ConfigField) : List (Option Text) :=
  [field.ofOverrides overrides, field.ofEnvironment env, field.ofLayer file, field.default]

lemma ofConfig_default (field : ConfigField) : field.ofConfig Config.default = field.default := by
  cases field <;> rfl

/-- A layer over a configuration: its value for a field counts where it has one. -/
lemma ofConfig_overlay (c : Config) (layer : ConfigLayer) (field : ConfigField) :
    field.ofConfig (c.overlay layer) = (field.ofLayer layer <|> field.ofConfig c) := by
  cases field
  case templatesDir => rfl
  case outputDir => cases h : layer.outputDir <;> simp [ofConfig, ofLayer, Config.overlay, h]
  case recordsDir => cases h : layer.recordsDir <;> simp [ofConfig, ofLayer, Config.overlay, h]
  case defaultTemplate => rfl

lemma ofLayer_overrides (o : Overrides) (field : ConfigField) :
    field.ofLayer o.layer = field.ofOverrides o := by
  cases field <;> rfl

lemma ofLayer_environment (env : Environment) (field : ConfigField) :
    field.ofLayer (.ofEnvironment env) = field.ofEnvironment env := by
  cases field <;> rfl

/-- **A field has the first value that is present for it.** -/
lemma ofConfig_resolve (file : ConfigLayer) (env : Environment) (overrides : Overrides)
    (field : ConfigField) :
    field.ofConfig (Config.resolve file env overrides) =
      firstPresent (field.values overrides env file) := by
  rw [Config.resolve, ofConfig_overlay, ofConfig_overlay, ofConfig_overlay, ofConfig_default,
    ofLayer_overrides, ofLayer_environment, values, firstPresent_cons, firstPresent_cons,
    firstPresent_cons, firstPresent_singleton]

end ConfigField

/-! ### Configuration files -/

namespace ConfigLayer

/-- The text is a TOML document with the values of the layer: under the key of a field stands
its text, or nothing. -/
def IsWrittenIn (layer : ConfigLayer) (text : Text) : Prop :=
  ∃ ms, Toml.document? text = some ms ∧
    ∀ field : ConfigField, ms.lookup field.key = (field.ofLayer layer).map Toml.string

lemma textAt?_eq_some_iff {ms : Members} {key : Text} {value : Option Text} :
    textAt? ms key = some value ↔ ms.lookup key = value.map Toml.string := by
  rw [textAt?]
  rcases ms.lookup key with _ | _ | _ | _ | _ | _ | _ | _ | _ | _ <;> cases value <;> simp

/-- **A text gives a layer where it is written in it**: a document in which the four keys have
texts for their values. -/
lemma ofToml?_eq_some_iff {text : Text} {layer : ConfigLayer} :
    ofToml? text = some layer ↔ layer.IsWrittenIn text := by
  have hfields : ∀ ms : Members,
      (∀ field : ConfigField, ms.lookup field.key = (field.ofLayer layer).map Toml.string) ↔
        textAt? ms "templates_dir" = some layer.templatesDir ∧
        textAt? ms "output_dir" = some layer.outputDir ∧
        textAt? ms "records_dir" = some layer.recordsDir ∧
        textAt? ms "default_template" = some layer.defaultTemplate := by
    intro ms
    simp only [textAt?_eq_some_iff]
    refine ⟨fun h => ⟨h .templatesDir, h .outputDir, h .recordsDir, h .defaultTemplate⟩, ?_⟩
    rintro ⟨htemplates, houtput, hrecords, htemplate⟩ field
    cases field <;> assumption
  simp only [IsWrittenIn, hfields, ofToml?, Option.bind_eq_bind, Option.bind_eq_some_iff]
  constructor
  · rintro ⟨ms, hms, templatesDir, h₁, outputDir, h₂, recordsDir, h₃, defaultTemplate, h₄, h⟩
    obtain rfl := Option.some.inj h
    exact ⟨ms, hms, h₁, h₂, h₃, h₄⟩
  · rintro ⟨ms, hms, h₁, h₂, h₃, h₄⟩
    exact ⟨ms, hms, _, h₁, _, h₂, _, h₃, _, h₄, rfl⟩

end ConfigLayer

/-! ### Loading a configuration -/

namespace Tree

variable {t : Tree} {root : Path} {overrides : Overrides} {env : Environment} {path : Path}

/-- The configuration file that is used: the one that the command line names, and otherwise the
one of the working directory, if it is a regular file. -/
inductive UsesConfigFile (t : Tree) (root : Path) (overrides : Overrides) : Path → Prop
  | named {path : Path} (h : overrides.configPath = some path) :
      UsesConfigFile t root overrides path
  | found (h : overrides.configPath = none)
      (hfile : t.kind (root.join configFileName) = .ok .file) :
      UsesConfigFile t root overrides (root.join configFileName)

/-- The layer of the configuration file that is used; without one it gives no value. -/
inductive HasFileLayer (t : Tree) (root : Path) (overrides : Overrides) : ConfigLayer → Prop
  | used {path : Path} {text : Text} {layer : ConfigLayer}
      (h : t.UsesConfigFile root overrides path) (hread : t.readText path = .ok text)
      (hlayer : layer.IsWrittenIn text) : HasFileLayer t root overrides layer
  | unused (h : ∀ path, ¬ t.UsesConfigFile root overrides path) :
      HasFileLayer t root overrides .empty

/-- The failure at a configuration file: it cannot be read as a text, or its text gives no
layer. -/
inductive FailsAt (t : Tree) (path : Path) : Failure → Prop
  | unreadable {fault : Fault} (h : t.readText path = .error fault) :
      FailsAt t path (.unreadableConfig path fault)
  | malformed {text : Text} (h : t.readText path = .ok text)
      (hlayer : ∀ layer : ConfigLayer, ¬ layer.IsWrittenIn text) :
      FailsAt t path (.malformedConfig path)

lemma perform_readFile (t : Tree) (path : Path) : t.perform (Config.readFile path) =
    (((t.readText path).mapError (Failure.unreadableConfig path)).bind fun text =>
      match ConfigLayer.ofToml? text with
      | some layer => .ok layer
      | none => .error (.malformedConfig path), t) := by
  have hread := (asks_readText path).perform_eq (t := t)
  rw [Config.readFile, perform_bind, perform_adapt, hread, ← readText]
  rcases t.readText path with fault | text
  · rfl
  · simp only [Except.mapError, Except.bind]
    cases ConfigLayer.ofToml? text <;> rfl

/-- Loading the file that is used is reading it. -/
lemma UsesConfigFile.perform (h : t.UsesConfigFile root overrides path) :
    t.perform (Config.fileLayer root overrides) = t.perform (Config.readFile path) := by
  cases h with
  | named h => rw [Config.fileLayer, h]
  | found h hfile =>
      obtain ⟨found, hfound, hiff⟩ := t.perform_isKind .file (root.join configFileName)
      rw [Config.fileLayer, h]
      simp only
      rw [perform_bind, atPath, perform_adapt, hfound, hiff.mpr hfile]
      rfl

/-- The layer of the file that is used is what it gives. -/
lemma HasFileLayer.perform {layer : ConfigLayer} (h : t.HasFileLayer root overrides layer) :
    t.perform (Config.fileLayer root overrides) = (.ok layer, t) := by
  cases h with
  | used hpath hread hlayer =>
      rw [hpath.perform, perform_readFile, hread]
      simp [Except.mapError, Except.bind, ConfigLayer.ofToml?_eq_some_iff.mpr hlayer]
  | unused h =>
      rcases hpath : overrides.configPath with _ | path
      · obtain ⟨found, hfound, hiff⟩ := t.perform_isKind .file (root.join configFileName)
        have hnot : found = false := Bool.eq_false_iff.mpr fun hfound =>
          h _ (.found hpath (hiff.mp hfound))
        rw [Config.fileLayer, hpath]
        simp only
        rw [perform_bind, atPath, perform_adapt, hfound, hnot]
        rfl
      · exact absurd (.named hpath) (h path)

/-- Loading fails with the failure at the file that is used. -/
lemma FailsAt.perform {failure : Failure} (h : t.FailsAt path failure)
    (hpath : t.UsesConfigFile root overrides path) :
    t.perform (Config.fileLayer root overrides) = (.error failure, t) := by
  rw [hpath.perform, perform_readFile]
  cases h with
  | unreadable hread => rw [hread]; rfl
  | malformed hread hlayer =>
      have hnone : ConfigLayer.ofToml? _ = none := Option.eq_none_iff_forall_ne_some.mpr
        fun layer h => hlayer layer (ConfigLayer.ofToml?_eq_some_iff.mp h)
      rw [hread]
      simp [Except.mapError, Except.bind, hnone]

/-- A file fails that gives no layer. -/
lemma exists_failsAt_iff : (∃ failure, t.FailsAt path failure) ↔
    ∀ text, t.readText path = .ok text → ∀ layer : ConfigLayer, ¬ layer.IsWrittenIn text := by
  constructor
  · rintro ⟨failure, hfails⟩ text htext
    cases hfails with
    | unreadable hread => cases hread.symm.trans htext
    | malformed hread hlayer =>
        obtain rfl := Except.ok.inj (hread.symm.trans htext)
        exact hlayer
  · intro hnone
    rcases hread : t.readText path with fault | text
    · exact ⟨_, .unreadable hread⟩
    · exact ⟨_, .malformed hread (hnone text hread)⟩

/-- Either there is a layer, or a failure at the file that is used. -/
lemma exists_fileLayer_or_failsAt (t : Tree) (root : Path) (overrides : Overrides) :
    (∃ layer, t.HasFileLayer root overrides layer) ∨
      ∃ path failure, t.UsesConfigFile root overrides path ∧ t.FailsAt path failure := by
  by_cases h : ∃ path, t.UsesConfigFile root overrides path
  · obtain ⟨path, hpath⟩ := h
    by_cases hfails : ∃ failure, t.FailsAt path failure
    · obtain ⟨failure, hfails⟩ := hfails
      exact .inr ⟨path, failure, hpath, hfails⟩
    · rw [exists_failsAt_iff] at hfails
      push Not at hfails
      obtain ⟨text, hread, layer, hlayer⟩ := hfails
      exact .inl ⟨layer, .used hpath hread hlayer⟩
  · exact .inl ⟨.empty, .unused (not_exists.mp h)⟩

lemma perform_load (t : Tree) (root : Path) (overrides : Overrides) (env : Environment) :
    t.perform (Config.load root overrides env) =
      match t.perform (Config.fileLayer root overrides) with
      | (.ok file, t') => (.ok (Config.resolve file env overrides), t')
      | (.error failure, t') => (.error failure, t') := by
  rw [Config.load, perform_bind]
  rcases t.perform (Config.fileLayer root overrides) with ⟨_ | _, _⟩ <;> rfl

/-- Loading a configuration changes nothing. -/
lemma asks_load_config (root : Path) (overrides : Overrides) (env : Environment) :
    Asks (Config.load root overrides env : ExceptT Failure (StateM Tree) Config) := fun t => by
  rw [perform_load]
  rcases t.exists_fileLayer_or_failsAt root overrides with
    ⟨layer, hlayer⟩ | ⟨path, failure, hpath, hfails⟩
  · rw [hlayer.perform]
  · rw [hfails.perform hpath]

/-- **A configuration is loaded** where the file that is used gives a layer. -/
lemma load_eq_ok_iff {config : Config} :
    (t.perform (Config.load root overrides env)).1 = .ok config ↔
      ∃ file, t.HasFileLayer root overrides file ∧
        Config.resolve file env overrides = config := by
  rw [perform_load]
  constructor
  · intro h
    rcases t.exists_fileLayer_or_failsAt root overrides with
      ⟨file, hfile⟩ | ⟨path, failure, hpath, hfails⟩
    · rw [hfile.perform] at h
      exact ⟨file, hfile, Except.ok.inj h⟩
    · rw [hfails.perform hpath] at h
      cases h
  · rintro ⟨file, hfile, rfl⟩
    rw [hfile.perform]

/-- **Loading fails** where the file that is used does. -/
lemma load_eq_error_iff {failure : Failure} :
    (t.perform (Config.load root overrides env)).1 = .error failure ↔
      ∃ path, t.UsesConfigFile root overrides path ∧ t.FailsAt path failure := by
  rw [perform_load]
  constructor
  · intro h
    rcases t.exists_fileLayer_or_failsAt root overrides with
      ⟨file, hfile⟩ | ⟨path, found, hpath, hfails⟩
    · rw [hfile.perform] at h
      cases h
    · rw [hfails.perform hpath] at h
      obtain rfl := Except.error.inj h
      exact ⟨path, hpath, hfails⟩
  · rintro ⟨path, hpath, hfails⟩
    rw [hfails.perform hpath]

/-- There is at most one layer. -/
lemma HasFileLayer.unique {file other : ConfigLayer} (h : t.HasFileLayer root overrides file)
    (hother : t.HasFileLayer root overrides other) : other = file :=
  Except.ok.inj (congrArg Prod.fst (hother.perform.symm.trans h.perform))

end Tree

/-- **The configuration in layers.** Loading fails exactly where the file that is used gives no
layer, and then it tells that file and whether it was not read or is malformed. Otherwise every
field has the first value among that of the command line, of the environment, of the file and
the default, and two configurations whose layers have the same values for a field agree on
it. -/
theorem load_layered (t : Tree) (root : Path) (overrides : Overrides) (env : Environment) :
    let loaded := (t.perform (Config.load root overrides env)).1
    ((∃ failure, loaded = .error failure) ↔
      ∃ path, t.UsesConfigFile root overrides path ∧
        ∀ text, t.readText path = .ok text → ∀ layer : ConfigLayer, ¬ layer.IsWrittenIn text) ∧
    (∀ failure, loaded = .error failure →
      ∃ path, t.UsesConfigFile root overrides path ∧ t.FailsAt path failure) ∧
    (∀ config, loaded = .ok config → ∃ file, t.HasFileLayer root overrides file ∧
      ∀ field : ConfigField, field.ofConfig config =
        ConfigField.firstPresent (field.values overrides env file)) ∧
    ∀ (t' : Tree) (root' : Path) (overrides' : Overrides) (env' : Environment) config config',
      loaded = .ok config → (t'.perform (Config.load root' overrides' env')).1 = .ok config' →
      ∀ file file', t.HasFileLayer root overrides file → t'.HasFileLayer root' overrides' file' →
      ∀ field : ConfigField, field.values overrides' env' file' = field.values overrides env file →
        field.ofConfig config' = field.ofConfig config := by
  intro loaded
  refine ⟨?_, fun failure hfailure => ?_, fun config hconfig => ?_, ?_⟩
  · simp only [loaded, Tree.load_eq_error_iff]
    rw [exists_comm]
    simp only [exists_and_left, Tree.exists_failsAt_iff]
  · exact Tree.load_eq_error_iff.mp hfailure
  · obtain ⟨file, hfile, rfl⟩ := Tree.load_eq_ok_iff.mp hconfig
    exact ⟨file, hfile, ConfigField.ofConfig_resolve file env overrides⟩
  · intro t' root' overrides' env' config config' hconfig hconfig' file file' hfile hfile' field
      hsame
    obtain ⟨used, hused, rfl⟩ := Tree.load_eq_ok_iff.mp hconfig
    obtain ⟨used', hused', rfl⟩ := Tree.load_eq_ok_iff.mp hconfig'
    obtain rfl := hfile.unique hused
    obtain rfl := hfile'.unique hused'
    rw [ConfigField.ofConfig_resolve, ConfigField.ofConfig_resolve, hsame]

end ContractScaffold
