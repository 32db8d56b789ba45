/-
The constructor of a generated token. One function of the specification gives its parameters, the
call of the base contract and its comments, and no constructor is among the functions. The call
passes on the first parameter whose name has the word `name` in it and the first that has the word
`symbol`, and these are two parameters unless the first that has either word has both.

* `IsFirst`: the first of a list with a property; `find?_eq_some_iff_isFirst` finds it.
* `CallsBase`: the call of the base contract; `callsBase_iff` says that the parameters decide it.
* `IsConstructorOf`, `isConstructorOf_tokens`: the texts for the constructor.
* `constructor_wired`: the constructor of every specification.
* `jointSpec`, `not_namesTwo_jointSpec`: a constructor that passes one parameter on twice.
-/
import ContractScaffold.Proofs.Scaffold.Members

namespace ContractScaffold

open Text

namespace Scaffold

/-! ### The first of a list -/

section

variable {α : Type*} {P Q : α → Prop} {l : List α}

/-- The element at the index is the first of the list with the property. -/
structure IsFirst (P : α → Prop) (l : List α) (i : Nat) (a : α) : Prop where
  get : l[i]? = some a
  holds : P a
  before : ∀ j < i, ∀ b, l[j]? = some b → ¬ P b

lemma find?_eq_some_iff_isFirst {p : α → Bool} {a : α} :
    l.find? p = some a ↔ ∃ i, IsFirst (fun x => p x = true) l i a := by
  rw [List.find?_eq_some_iff_getElem]
  constructor
  · rintro ⟨hp, i, hi, rfl, hbefore⟩
    refine ⟨i, List.getElem?_eq_getElem hi, hp, fun j hj b hb => ?_⟩
    obtain ⟨hlength, rfl⟩ := List.getElem?_eq_some_iff.mp hb
    simpa using hbefore j hj
  · rintro ⟨i, hget, hp, hbefore⟩
    obtain ⟨hi, rfl⟩ := List.getElem?_eq_some_iff.mp hget
    refine ⟨hp, i, hi, rfl, fun j hj => ?_⟩
    simpa using hbefore j hj _ (List.getElem?_eq_getElem (hj.trans hi))

lemma IsFirst.le_of_holds {i j : Nat} {a b : α} (h : IsFirst P l i a) (hb : l[j]? = some b)
    (hP : P b) : i ≤ j :=
  not_lt.mp fun hj => h.before j hj b hb hP

lemma IsFirst.eq_of_index_eq {i : Nat} {a b : α} (ha : IsFirst P l i a) (hb : IsFirst Q l i b) :
    a = b :=
  Option.some.inj (ha.get.symm.trans hb.get)

/-- The first with one property that is also the first with another is the first with either. -/
lemma IsFirst.or {i : Nat} {a : α} (hP : IsFirst P l i a) (hQ : IsFirst Q l i a) :
    IsFirst (fun x => P x ∨ Q x) l i a :=
  ⟨hP.get, .inl hP.holds, fun j hj b hb hPQ => hPQ.elim (hP.before j hj b hb) (hQ.before j hj b hb)⟩

/-- The first with a property is the first with every narrower one that it has. -/
lemma IsFirst.of_imp {i : Nat} {a : α} (ha : IsFirst P l i a) (hQ : Q a)
    (himp : ∀ x, Q x → P x) : IsFirst Q l i a :=
  ⟨ha.get, hQ, fun j hj b hb hQb => ha.before j hj b hb (himp b hQb)⟩

end

/-! ### The call of the base contract -/

/-- The name of the parameter has the word in it, in any letter case. -/
def HasWord (word : Text) (p : Parameter) : Prop :=
  word <:+: lower p.name

/-- The call of the base contract of a token, with a name and a symbol. -/
def baseCall (name symbol : Text) : Text :=
  "ERC20(" ++ name ++ ", " ++ symbol ++ ")"

/-- The call with the literals that stand for a name and a symbol. -/
def literalCall : Text :=
  "ERC20(\"DefaultToken\", \"DFT\")"

/-- The call of the base contract in a constructor with these parameters: with two of them, of
different names, where these are the first with each of the words; with one of them for both,
where the first with either word has both; and with literals, where none has one of the words. -/
inductive CallsBase (parameters : List Parameter) : Text → Prop
  | two {i j : Nat} {a b : Parameter} (ha : IsFirst (HasWord "name") parameters i a)
      (hb : IsFirst (HasWord "symbol") parameters j b) (hindex : i ≠ j) (hnames : a.name ≠ b.name) :
      CallsBase parameters (baseCall a.name b.name)
  | one {i : Nat} {p : Parameter}
      (hp : IsFirst (fun q => HasWord "name" q ∨ HasWord "symbol" q) parameters i p)
      (hname : HasWord "name" p) (hsymbol : HasWord "symbol" p) :
      CallsBase parameters (baseCall p.name p.name)
  | literals {word : Text} (hword : word = "name" ∨ word = "symbol")
      (hnone : ∀ p ∈ parameters, ¬ HasWord word p) : CallsBase parameters literalCall

/-- The call with these two parameters, or with literals if one of them is missing. -/
def callWith : Option Parameter → Option Parameter → Text
  | some a, some b => baseCall a.name b.name
  | _, _ => literalCall

lemma callWith_none_left (b : Option Parameter) : callWith none b = literalCall := by
  cases b <;> rfl

lemma callWith_none_right (a : Option Parameter) : callWith a none = literalCall := by
  cases a <;> rfl

section

variable {word call : Text} {ps : List Parameter} {p : Parameter}

lemma find?_hasWord_eq_some_iff :
    ps.find? (fun p => occursIn word (lower p.name)) = some p
      ↔ ∃ i, IsFirst (HasWord word) ps i p := by
  simp only [find?_eq_some_iff_isFirst, occursIn_iff]
  rfl

lemma find?_hasWord_eq_none_iff :
    ps.find? (fun p => occursIn word (lower p.name)) = none ↔ ∀ p ∈ ps, ¬ HasWord word p := by
  simp only [List.find?_eq_none, occursIn_iff]
  rfl

/-- Two parameters that are passed on have different names: one that had both words would be the
first for both. -/
lemma name_ne_of_index_ne {i j : Nat} {a b : Parameter} (ha : IsFirst (HasWord "name") ps i a)
    (hb : IsFirst (HasWord "symbol") ps j b) (hindex : i ≠ j) : a.name ≠ b.name := by
  intro hnames
  have hab : HasWord "symbol" a := by simpa only [HasWord, hnames] using hb.holds
  have hba : HasWord "name" b := by simpa only [HasWord, hnames] using ha.holds
  have hij : i ≤ j := ha.le_of_holds hb.get hba
  have hji : j ≤ i := hb.le_of_holds ha.get hab
  exact hindex (hij.antisymm hji)

/-- **The call of the base contract**: the parameters decide it. -/
lemma callsBase_iff :
    CallsBase ps call ↔ call = callWith (ps.find? fun p => occursIn "name" (lower p.name))
      (ps.find? fun p => occursIn "symbol" (lower p.name)) := by
  constructor
  · rintro (⟨ha, hb, -, -⟩ | ⟨hp, hname, hsymbol⟩ | ⟨rfl | rfl, hnone⟩)
    · rw [find?_hasWord_eq_some_iff.mpr ⟨_, ha⟩, find?_hasWord_eq_some_iff.mpr ⟨_, hb⟩, callWith]
    · rw [find?_hasWord_eq_some_iff.mpr ⟨_, hp.of_imp hname fun _ => .inl⟩,
        find?_hasWord_eq_some_iff.mpr ⟨_, hp.of_imp hsymbol fun _ => .inr⟩, callWith]
    · rw [find?_hasWord_eq_none_iff.mpr hnone, callWith_none_left]
    · rw [find?_hasWord_eq_none_iff.mpr hnone, callWith_none_right]
  · rintro rfl
    cases hname : ps.find? fun p => occursIn "name" (lower p.name) with
    | none => exact .literals (.inl rfl) (find?_hasWord_eq_none_iff.mp hname)
    | some a =>
        cases hsymbol : ps.find? fun p => occursIn "symbol" (lower p.name) with
        | none => exact .literals (.inr rfl) (find?_hasWord_eq_none_iff.mp hsymbol)
        | some b =>
            obtain ⟨i, ha⟩ := find?_hasWord_eq_some_iff.mp hname
            obtain ⟨j, hb⟩ := find?_hasWord_eq_some_iff.mp hsymbol
            by_cases hindex : i = j
            · subst hindex
              obtain rfl : a = b := ha.eq_of_index_eq hb
              exact .one (ha.or hb) ha.holds hb.holds
            · exact .two ha hb hindex (name_ne_of_index_ne ha hb hindex)

end

/-! ### The constructor of a specification -/

/-- The texts for the constructor of a token: its parameters, the call of the base contract and
its comments. All three come from the first function that is named as one, in any case of its
letters, and where there is none they are nothing, the literals and a comment. -/
inductive IsConstructorOf (s : Spec) : Text → Text → Text → Prop
  | declared {i : Nat} {f : ContractFunction} {call : Text}
      (hf : IsFirst (fun g => sameLetters g.name "constructor" = true) s.functions i f)
      (hcall : CallsBase f.parameters call) :
      IsConstructorOf s (joinWith ", " (f.parameters.map fun p => trim (p.type ++ " " ++ p.name)))
        call (joinWith "\n        " (f.postconditions.map fun c => "// " ++ c))
  | absent (hnone : ∀ f ∈ s.functions, sameLetters f.name "constructor" = false) :
      IsConstructorOf s [] literalCall "// No constructor logic"

lemma isConstructorOf_tokens (s : Spec) :
    IsConstructorOf s (constructorArguments s) (constructorInheritance .erc20 s)
      (constructorLogic s) := by
  cases hf : s.constructor? with
  | some f =>
      obtain ⟨i, hfirst⟩ := find?_eq_some_iff_isFirst.mp hf
      have hcall : CallsBase f.parameters (constructorInheritance .erc20 s) := by
        rw [callsBase_iff, constructorInheritance, constructorParameter?, constructorParameter?,
          hf]
        rfl
      have h := IsConstructorOf.declared (s := s) hfirst hcall
      rw [constructorArguments, constructorLogic, hf]
      exact h
  | none =>
      have hnone : ∀ g ∈ s.functions, sameLetters g.name "constructor" = false := fun g hg =>
        Bool.eq_false_iff.mpr (List.find?_eq_none.mp hf g hg)
      have hcall : constructorInheritance .erc20 s = literalCall := by
        rw [constructorInheritance, constructorParameter?, constructorParameter?, hf]
        rfl
      rw [constructorArguments, constructorLogic, hf, hcall]
      exact .absent hnone

/-- **The constructor of a token**: for every specification and all rules, the parameters, the
call of the base contract and the comments are those of one function, the first that is named as
a constructor, and no function so named is among those that are declared. The call passes on two
parameters of this function or the literals, unless the first parameter that has either word in
its name has both. -/
theorem constructor_wired (rules : RuleSet) (s : Spec) :
    ∃ arguments call logic functions,
      (tokens .erc20 rules s).lookup ("CONSTRUCTOR_ARGS" : Text) = some arguments
      ∧ (tokens .erc20 rules s).lookup ("CONSTRUCTOR_INHERITANCE" : Text) = some call
      ∧ (tokens .erc20 rules s).lookup ("CONSTRUCTOR_LOGIC" : Text) = some logic
      ∧ (tokens .erc20 rules s).lookup ("FUNCTIONS" : Text) = some functions
      ∧ IsConstructorOf s arguments call logic
      ∧ IsJoined functionBreak ((s.functions.filter fun f => !sameLetters f.name "constructor"
            && !Family.erc20.providedFunctions.elem (lower f.name)).map (functionText rules))
          functions :=
  ⟨_, _, _, _, rfl, rfl, rfl, rfl, isConstructorOf_tokens s,
    isJoined_functionsText .erc20 rules s.functions⟩

/-! ### A parameter that is passed on twice -/

/-- The call passes on two parameters, one for each word. -/
def NamesTwo (parameters : List Parameter) (call : Text) : Prop :=
  ∃ (i j : Nat) (a b : Parameter), i ≠ j ∧ parameters[i]? = some a ∧ parameters[j]? = some b
    ∧ HasWord "name" a ∧ HasWord "symbol" b ∧ call = baseCall a.name b.name

/-- The specification of a token whose constructor takes one parameter, with both words in its
name. -/
def jointSpec : Spec where
  contractName := "Token"
  securityRequirements := []
  functions :=
    [{ name := "constructor", description := [], parameters := [⟨"string", "symbolName"⟩],
       preconditions := [], postconditions := [], security := [], events := [], returns := [] }]
  stateVariables := []
  events := []
  stateInvariants := []

/-- **One parameter is passed on twice**: the call in the constructor of the specification is
neither the one with literals nor one with two parameters. -/
theorem not_namesTwo_jointSpec :
    (tokens .erc20 RuleSet.standard jointSpec).lookup ("CONSTRUCTOR_INHERITANCE" : Text)
        = some "ERC20(symbolName, symbolName)"
      ∧ ("ERC20(symbolName, symbolName)" : Text) ≠ literalCall
      ∧ ¬ ∃ f ∈ jointSpec.functions, NamesTwo f.parameters "ERC20(symbolName, symbolName)" := by
  refine ⟨by decide, by decide, ?_⟩
  rintro ⟨f, hf, i, j, a, b, hindex, ha, hb, -⟩
  obtain rfl := List.mem_singleton.mp hf
  obtain ⟨hi, -⟩ := List.getElem?_eq_some_iff.mp ha
  obtain ⟨hj, -⟩ := List.getElem?_eq_some_iff.mp hb
  have hi0 : i = 0 := Nat.lt_one_iff.mp hi
  have hj0 : j = 0 := Nat.lt_one_iff.mp hj
  exact hindex (hi0.trans hj0.symm)

end Scaffold

end ContractScaffold
