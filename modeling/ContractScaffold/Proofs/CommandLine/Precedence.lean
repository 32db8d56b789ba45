/-
The template that a command uses. It is the first that is named for it, on the command line or in
the configuration, and where none is named the one that the name of the contract calls for. A
blank name in the environment or in the configuration counts as none. A blank name on the command
line is taken before the one in the configuration is looked at, which it then hides.

* `IsChosen`: the template for a contract, where several names are looked at in order;
  `isChosen_singleton_iff` and `IsChosen.unique` say that it is there, and only one.
* `BlankHides`, `isChosen_request_iff`: where the name in the configuration is not seen.
* `isChosen_resolve_iff`: the layers of the configuration, blank names in the environment left
  out.
* `Tree.generationWith`, `Tree.entryWith`: what a template of a name makes of a document.
* `template_chosen`: the templates that the commands use.
* `not_isChosen_namedTree`: a blank name on the command line that hides another name.
-/
import ContractScaffold.Proofs.CommandLine.Agreement
import ContractScaffold.Proofs.Text.Occurs

namespace ContractScaffold

open Text

/-! ### The choice of a template -/

/-- The template for a contract, where these names are looked at in order: the first that is
present and not blank, without the blanks around it, and where there is none the one for vaults or
the one for tokens, by the name of the contract. -/
inductive IsChosen (contractName : Text) : List (Option Text) → Text → Prop
  | named {name : Text} {names : List (Option Text)} (hname : trim name ≠ []) :
      IsChosen contractName (some name :: names) (trim name)
  | blank {name template : Text} {names : List (Option Text)} (hname : trim name = [])
      (h : IsChosen contractName names template) :
      IsChosen contractName (some name :: names) template
  | absent {template : Text} {names : List (Option Text)}
      (h : IsChosen contractName names template) : IsChosen contractName (none :: names) template
  | vault (hvault : "vault" <:+: lower contractName) :
      IsChosen contractName [] "DAOVault_Template"
  | token (htoken : ¬ "vault" <:+: lower contractName) : IsChosen contractName [] "ERC20_Template"

section

variable {contractName name template other : Text} {names : List (Option Text)}
  {requested default : Option Text}

lemma isChosen_absent_iff :
    IsChosen contractName (none :: names) template ↔ IsChosen contractName names template :=
  ⟨fun | .absent h => h, .absent⟩

lemma isChosen_blank_iff (hname : trim name = []) :
    IsChosen contractName (some name :: names) template ↔ IsChosen contractName names template := by
  constructor
  · intro h
    cases h with
    | named hne => exact absurd hname hne
    | blank _ h => exact h
  · exact .blank hname

lemma isChosen_named_iff (hname : trim name ≠ []) :
    IsChosen contractName (some name :: names) template ↔ template = trim name := by
  constructor
  · intro h
    cases h with
    | named => rfl
    | blank hblank _ => exact absurd hblank hname
  · rintro rfl
    exact .named hname

lemma isChosen_nil_iff : IsChosen contractName [] template ↔
    template = if namesVault contractName then vaultTemplate else erc20Template := by
  have hiff : namesVault contractName = true ↔ "vault" <:+: lower contractName := occursIn_iff
  constructor
  · intro h
    cases h with
    | vault hvault =>
        rw [if_pos (hiff.mpr hvault)]
        rfl
    | token htoken =>
        rw [if_neg (mt hiff.mp htoken)]
        rfl
  · rintro rfl
    split_ifs with hvault
    · exact .vault (hiff.mp hvault)
    · exact .token (mt hiff.mpr hvault)

/-- **One name at most**: the template is the one that is selected. -/
lemma isChosen_singleton_iff : IsChosen contractName [requested] template ↔
    template = selectTemplate contractName requested := by
  cases requested with
  | none => exact isChosen_absent_iff.trans isChosen_nil_iff
  | some name =>
      by_cases hname : trim name = []
      · rw [isChosen_blank_iff hname, isChosen_nil_iff, selectTemplate, Option.map_some, hname]
        rfl
      · have hselect : selectTemplate contractName (some name) = trim name := by
          rw [selectTemplate, Option.map_some, Option.filter_some, if_pos (by simpa using hname)]
        rw [isChosen_named_iff hname, hselect]

/-- Only one template is chosen. -/
lemma IsChosen.unique (h : IsChosen contractName names template)
    (hother : IsChosen contractName names other) : template = other := by
  induction h with
  | named hname => exact ((isChosen_named_iff hname).mp hother).symm
  | blank hname _ ih => exact ih ((isChosen_blank_iff hname).mp hother)
  | absent _ ih => exact ih (isChosen_absent_iff.mp hother)
  | vault hvault =>
      exact (isChosen_nil_iff.mp (.vault hvault)).trans (isChosen_nil_iff.mp hother).symm
  | token htoken =>
      exact (isChosen_nil_iff.mp (.token htoken)).trans (isChosen_nil_iff.mp hother).symm

/-! ### A blank name before another -/

/-- A blank name that is asked for hides the default one, which would be another template than the
one for the contract. -/
inductive BlankHides (contractName : Text) : Option Text → Option Text → Prop
  | intro {name default : Text} (hname : trim name = []) (hdefault : trim default ≠ [])
      (hother : ¬ IsChosen contractName [] (trim default)) :
      BlankHides contractName (some name) (some default)

/-- **The first name that is present** is the first that is present and not blank, or leads to the
same template, unless a blank one hides another. -/
lemma isChosen_request_iff (h : IsChosen contractName [requested <|> default] template) :
    IsChosen contractName [requested, default] template ↔
      ¬ BlankHides contractName requested default := by
  cases requested with
  | none => exact iff_of_true (.absent h) fun h => nomatch h
  | some name =>
      have h : IsChosen contractName [some name] template := h
      by_cases hname : trim name = []
      · have hcontract : IsChosen contractName [] template := (isChosen_blank_iff hname).mp h
        rw [isChosen_blank_iff hname]
        cases default with
        | none => exact iff_of_true (.absent hcontract) fun h => nomatch h
        | some default =>
            by_cases hdefault : trim default = []
            · exact iff_of_true (.blank hdefault hcontract) fun ⟨_, hne, _⟩ => hne hdefault
            · rw [isChosen_named_iff hdefault]
              constructor
              · rintro rfl ⟨-, -, hother⟩
                exact hother hcontract
              · intro hhides
                by_contra hne
                exact hhides ⟨hname, hdefault, fun hother => hne (hcontract.unique hother)⟩
      · rw [isChosen_named_iff hname] at h ⊢
        exact iff_of_true h fun ⟨hblank, _, _⟩ => hname hblank

/-- **The layers of the configuration**: the name in the environment stands before the one in the
configuration file, and does not count where it is blank. -/
lemma isChosen_resolve_iff (file : ConfigLayer) (env : Environment) (overrides : Overrides) :
    IsChosen contractName [(Config.resolve file env overrides).defaultTemplate] template ↔
      IsChosen contractName [env "CHAINSPEC_DEFAULT_TEMPLATE", file.defaultTemplate] template := by
  have hresolve : (Config.resolve file env overrides).defaultTemplate =
      ((env "CHAINSPEC_DEFAULT_TEMPLATE").filter (fun t => !isAllBlank t)
        <|> file.defaultTemplate) := by
    have hnone : (file.defaultTemplate <|> none) = file.defaultTemplate := by
      cases file.defaultTemplate <;> rfl
    rw [← hnone]
    rfl
  rw [hresolve]
  cases env "CHAINSPEC_DEFAULT_TEMPLATE" with
  | none => exact isChosen_absent_iff.symm
  | some name =>
      by_cases hblank : isAllBlank name = true
      · rw [isChosen_blank_iff (trim_eq_nil_iff_isAllBlank.mpr hblank), Option.filter_some, hblank]
        rfl
      · have hname : trim name ≠ [] := mt trim_eq_nil_iff_isAllBlank.mp hblank
        rw [isChosen_named_iff hname, Option.filter_some, Bool.eq_false_iff.mpr hblank]
        exact isChosen_named_iff hname

end

/-! ### What a template makes of a document -/

/-- What comes of generating a contract with the template of this name: trouble if it is not to be
had, and else the contract that it gives is put out or written. -/
def Tree.generationWith (t : Tree) (config : Config) (file : Path) (s : Spec) (template : Text)
    (record : Option Path) (toStdout : Bool) (format : Format) : Result × Tree :=
  match t.template config.templates template with
  | .error failure => (.trouble [] (.failure failure), t)
  | .ok source =>
    let code := rendered RuleSet.standard s template source
    let g : Generated := ⟨code, s, template, textDigest code⟩
    t.run (if toStdout then sourceResult g record
      else toResult (writeGenerated config file record format g))

/-- What becomes of a document of a batch with the template of this name. -/
def Tree.entryWith (t : Tree) (config : Config) (file : Path) (s : Spec) (template : Text) :
    BatchEntry × Tree :=
  match t.template config.templates template with
  | .error failure => (⟨file, .failed (Trouble.rendering file failure).report⟩, t)
  | .ok source =>
    let code := rendered RuleSet.standard s template source
    match t.perform (writeOutputs config s template code) with
    | (.ok outcome, t') => (⟨file, outcome⟩, t')
    | (.error trouble, t') => (⟨file, .failed trouble.report⟩, t')

section

variable {t : Tree} {config : Config} {file : Path} {markdown : Text}

lemma generateCommand_run_eq (hread : t.readText file = .ok markdown) (requested : Option Text)
    (record : Option Path) (toStdout : Bool) (format : Format) :
    t.run (generateCommand config file requested record toStdout format) =
      t.generationWith config file (Spec.ofText markdown)
        (selectTemplate (Spec.ofText markdown).contractName (requested <|> config.defaultTemplate))
        record toStdout format := by
  rw [generateCommand_run, perform_generateFrom, hread, Tree.generationWith]
  simp only
  cases t.template config.templates (selectTemplate (Spec.ofText markdown).contractName
    (requested <|> config.defaultTemplate)) <;> rfl

lemma batchEntry_run_eq (hread : t.readText file = .ok markdown) :
    t.run (batchEntry config file) = t.entryWith config file (Spec.ofText markdown)
      (selectTemplate (Spec.ofText markdown).contractName config.defaultTemplate) := by
  rw [batchEntry_run, perform_processDocument_eq, hread, Tree.entryWith]
  simp only
  generalize selectTemplate (Spec.ofText markdown).contractName config.defaultTemplate = template
  cases t.template config.templates template with
  | error failure => rfl
  | ok source =>
      simp only
      rcases t.perform (writeOutputs config (Spec.ofText markdown) template
        (rendered RuleSet.standard (Spec.ofText markdown) template source)) with
        ⟨trouble | outcome, t'⟩ <;> rfl

end

/-! ### The templates that commands use -/

/-- **The template that is used.** Generating a contract uses the template that is chosen from the
first name that is present, the one asked for or the one in the configuration; it is the one that
is chosen from both, unless a blank name that is asked for hides another. Every document of a
batch, on the tree that those before it left, uses the one chosen from the name in the
configuration. And this is a name in the environment, unless it is blank, or else one in the
configuration file. -/
theorem template_chosen (t : Tree) (config : Config) :
    (∀ file requested record toStdout format markdown, t.readText file = .ok markdown →
      ∃ template,
        t.run (generateCommand config file requested record toStdout format) =
            t.generationWith config file (Spec.ofText markdown) template record toStdout format
          ∧ IsChosen (Spec.ofText markdown).contractName [requested <|> config.defaultTemplate]
              template
          ∧ (IsChosen (Spec.ofText markdown).contractName [requested, config.defaultTemplate]
                template ↔
              ¬ BlankHides (Spec.ofText markdown).contractName requested config.defaultTemplate))
      ∧ (∀ files before e after, (t.run (batchEntries config files)).1 = before ++ e :: after →
        let earlier := (t.run (batchEntries config (before.map BatchEntry.file))).2
        ∀ markdown, earlier.readText e.file = .ok markdown →
          ∃ template later,
            earlier.entryWith config e.file (Spec.ofText markdown) template = (e, later)
              ∧ later.run (batchEntries config (after.map BatchEntry.file)) =
                (after, (t.run (batchEntries config files)).2)
              ∧ IsChosen (Spec.ofText markdown).contractName [config.defaultTemplate] template)
      ∧ ∀ root overrides env, (t.perform (Config.load root overrides env)).1 = .ok config →
        ∃ file, t.HasFileLayer root overrides file ∧
          ∀ contractName template, IsChosen contractName [config.defaultTemplate] template ↔
            IsChosen contractName [env "CHAINSPEC_DEFAULT_TEMPLATE", file.defaultTemplate]
              template := by
  refine ⟨fun file requested record toStdout format markdown hread => ?_, ?_,
    fun root overrides env hload => ?_⟩
  · have hchosen := isChosen_singleton_iff.mpr (Eq.refl (selectTemplate
      (Spec.ofText markdown).contractName (requested <|> config.defaultTemplate)))
    exact ⟨_, generateCommand_run_eq hread requested record toStdout format, hchosen,
      isChosen_request_iff hchosen⟩
  · intro files before e after hbatch earlier markdown hread
    obtain ⟨-, -, hentry, hafter⟩ := batchEntries_run_of_eq hbatch
    have hrun : earlier.run (batchEntry config e.file) = _ := batchEntry_run_eq hread
    exact ⟨_, _, hrun.symm.trans (Prod.ext hentry rfl), hafter, isChosen_singleton_iff.mpr rfl⟩
  · obtain ⟨file, hfile, rfl⟩ := Tree.load_eq_ok_iff.mp hload
    exact ⟨file, hfile, fun _ _ => isChosen_resolve_iff file env overrides⟩

/-- A tree with one document and two templates. -/
def namedTree : Tree := [
  (["specs"], .directory),
  (["specs", "a.md"], .file (utf8 (namedDocument "Token"))),
  (["own"], .directory),
  (["own", "Mine.sol"], .file (utf8 "\x7b\x7bCONTRACT_NAME\x7d\x7d")),
  (["own", "ERC20_Template.sol"], .file (utf8 "erc20"))]

/-- The configuration with these templates and one of them by default. -/
def namedConfig : Config :=
  { Config.default with templatesDir := some "own", defaultTemplate := some "Mine" }

/-- The environment with the default template of this configuration. -/
def namedEnvironment : Environment := fun variableName =>
  if variableName = "CHAINSPEC_DEFAULT_TEMPLATE" then some "Mine" else none

lemma readText_namedTree : namedTree.readText "specs/a.md" = .ok (namedDocument "Token") :=
  Tree.readText_eq_ok_iff.mpr ⟨_, rfl, ofUtf8?_utf8 _⟩

/-- Where no template is asked for, the default one is chosen for the document of that tree, by
itself and in a batch. -/
theorem template_chosen_namedTree :
    let s := Spec.ofText (namedDocument "Token")
    (∃ template,
      namedTree.run (generateCommand namedConfig "specs/a.md" none none true .human) =
          namedTree.generationWith namedConfig "specs/a.md" s template none true .human
        ∧ IsChosen s.contractName [some "Mine"] template)
      ∧ (∃ e template later, (namedTree.run (batchEntries namedConfig ["specs/a.md"])).1 = [e]
        ∧ namedTree.entryWith namedConfig "specs/a.md" s template = (e, later)
        ∧ IsChosen s.contractName [some "Mine"] template)
      ∧ ∃ file, namedTree.HasFileLayer [] ⟨none, some "own", none, none⟩ file
        ∧ ∀ template, IsChosen s.contractName [some "Mine"] template ↔
          IsChosen s.contractName [some "Mine", file.defaultTemplate] template := by
  intro s
  obtain ⟨hgenerate, hbatch, hload⟩ := template_chosen namedTree namedConfig
  have hconfig : (namedTree.perform
      (Config.load [] ⟨none, some "own", none, none⟩ namedEnvironment)).1 = .ok namedConfig := rfl
  obtain ⟨outcome, houtcome⟩ : ∃ outcome,
      (namedTree.run (batchEntries namedConfig ["specs/a.md"])).1 = [⟨"specs/a.md", outcome⟩] := by
    rw [batchEntries_cons_run, batchEntry_run]
    exact ⟨_, rfl⟩
  obtain ⟨template, hrun, hchosen, -⟩ :=
    hgenerate "specs/a.md" none none true .human _ readText_namedTree
  obtain ⟨template', later, hentry, -, hchosen'⟩ :=
    hbatch _ [] _ [] houtcome _ readText_namedTree
  obtain ⟨file, hfile, hlayers⟩ := hload _ _ _ hconfig
  exact ⟨⟨template, hrun, hchosen⟩, ⟨_, template', later, houtcome, hentry, hchosen'⟩,
    ⟨file, hfile, hlayers s.contractName⟩⟩

lemma stdout_namedTree :
    (namedTree.run (generateCommand namedConfig "specs/a.md" (some " ") none true .human)).1.stdout
        = "erc20"
      ∧ (namedTree.generationWith namedConfig "specs/a.md" (Spec.ofText (namedDocument "Token"))
          "Mine" none true .human).1.stdout = "Token" := by
  decide +kernel

/-- **A blank name hides another**: where a blank template is asked for, the document of that tree
is not generated from the template that is chosen from the names, the default one. -/
theorem not_isChosen_namedTree :
    let s := Spec.ofText (namedDocument "Token")
    namedTree.readText "specs/a.md" = .ok (namedDocument "Token")
      ∧ ¬ ∃ template,
        namedTree.run (generateCommand namedConfig "specs/a.md" (some " ") none true .human) =
            namedTree.generationWith namedConfig "specs/a.md" s template none true .human
          ∧ IsChosen s.contractName [some " ", namedConfig.defaultTemplate] template := by
  refine ⟨readText_namedTree, ?_⟩
  rintro ⟨template, hrun, hchosen⟩
  have hdefault := (isChosen_blank_iff (by decide)).mp hchosen
  obtain rfl : template = "Mine" := (isChosen_named_iff (by decide)).mp hdefault
  have hstdout := congrArg (fun r => r.1.stdout) hrun
  obtain ⟨hblank, hmine⟩ := stdout_namedTree
  have hsame : ("erc20" : Text) = "Token" := hblank.symm.trans (hstdout.trans hmine)
  exact absurd hsame (by decide)

end ContractScaffold
