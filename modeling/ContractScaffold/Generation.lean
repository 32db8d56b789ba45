/-
Generation: a document in, a contract source and the record of the specification
out.

* `selectTemplate`: the template for a contract.
* `rendered`: a template with its placeholders filled from a specification.
* `textDigest`: the digest of a text.
* `render`, `generate`: the same for templates that a store gives under their
  names; only a missing or unreadable template fails.
-/
import ContractScaffold.Digest.Sha256
import ContractScaffold.Scaffold
import ContractScaffold.Spec.Reading
import ContractScaffold.Template
import ContractScaffold.Text.Utf8

namespace ContractScaffold

open Text

/-- The template for a contract: the one that is asked for, unless its name is
blank, and else the one that the name of the contract calls for. -/
def selectTemplate (contractName : Text) (requested : Option Text) : Text :=
  match (requested.map trim).filter fun name => !name.isEmpty with
  | some name => name
  | none => if namesVault contractName then vaultTemplate else erc20Template

/-- The source of the template under that name, filled from the specification. -/
def rendered (rules : RuleSet) (s : Spec) (template source : Text) : Text :=
  let tokens := Scaffold.tokens (Family.ofTemplate template) rules s
  Template.substitute (fun name => tokens.lookup name) source

/-- The digest of a text: the hash of its bytes in UTF-8. -/
def textDigest (t : Text) : Text :=
  Sha256.hex (utf8 t)

/-- What generation gives. -/
structure Generated where
  code : Text
  spec : Spec
  template : Text
  digest : Text

/-- The template under the name, filled from the specification. -/
def render {n : Type → Type} [Monad n] (load : Text → n Text) (rules : RuleSet) (s : Spec)
    (template : Text) : n Text := do
  return rendered rules s template (← load template)

/-- The contract that a document describes, by the standard rules. -/
def generate {n : Type → Type} [Monad n] (load : Text → n Text) (markdown : Text)
    (requested : Option Text) : n Generated := do
  let spec := Spec.ofText markdown
  let template := selectTemplate spec.contractName requested
  let code ← render load RuleSet.standard spec template
  return { code, spec, template, digest := textDigest code }

end ContractScaffold
