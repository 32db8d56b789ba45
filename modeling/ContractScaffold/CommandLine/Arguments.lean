/-
The arguments of the command line: global options, a command, and the options and
the operand of the command.

* `Command`, `Invocation`: what a command line asks for.
* `OptionForm`, `CommandName.forms`: the options and which of them take a value.
* `Arguments.read`: the invocation, or why there is none: help or the version was
  asked for, or the usage is wrong.
-/
import ContractScaffold.Config
import ContractScaffold.Report

namespace ContractScaffold

open Text

/-- The commands with their operand and options. -/
inductive Command where
  | parse (file : Path) (output : Option Path) (format : Format)
  | generate (file : Path) (template : Option Text) (outDir record : Option Path)
      (toStdout : Bool) (format : Format)
  | batch (dir : Path) (outDir recordsDir : Option Path) (format : Format)
  | templates

/-- A command with the global options. -/
structure Invocation where
  verbose : Bool
  configPath : Option Path
  templatesDir : Option Path
  command : Command

/-- Why a command line gives no invocation. -/
inductive Stop where
  | help
  | version
  | usage
  deriving DecidableEq, Repr

/-- The names of the commands; `help` describes another one. -/
inductive CommandName where
  | parse
  | generate
  | batch
  | templates
  | help
  deriving DecidableEq, Repr

/-- What values an option takes. -/
inductive ValueForm where
  /-- No value. -/
  | flag
  /-- A path, which is not empty. -/
  | path
  /-- Any text. -/
  | text
  /-- The name of a report format. -/
  | format
  deriving DecidableEq, Repr

/-- An option: its long name, its letter, if it has one, and its values. -/
structure OptionForm where
  long : Text
  letter : Option Char
  value : ValueForm

/-- Whether a value is one of the form. -/
def ValueForm.accepts : ValueForm → Text → Bool
  | flag, _ => false
  | path, t => !t.isEmpty
  | text, _ => true
  | format, t => (Format.ofText? t).isSome

/-- The options that may stand before and after the command. -/
def globalForms : List OptionForm :=
  [⟨"verbose", some 'v', .flag⟩, ⟨"config", none, .path⟩, ⟨"templates-dir", none, .path⟩]

namespace CommandName

/-- The command of that name. -/
def ofText? (t : Text) : Option CommandName :=
  if t = "parse" then some parse
  else if t = "generate" then some generate
  else if t = "batch" then some batch
  else if t = "templates" then some templates
  else if t = "help" then some help
  else none

/-- The options of a command. -/
def forms : CommandName → List OptionForm
  | parse => [⟨"output", some 'o', .path⟩, ⟨"format", none, .format⟩]
  | generate =>
    [⟨"template", some 't', .text⟩, ⟨"out-dir", none, .path⟩, ⟨"record", none, .path⟩,
     ⟨"stdout", none, .flag⟩, ⟨"format", none, .format⟩]
  | batch =>
    [⟨"out-dir", none, .path⟩, ⟨"records-dir", none, .path⟩, ⟨"format", none, .format⟩]
  | templates => []
  | help => []

/-- Whether a text may be an operand of the command after those before it. -/
def admits (name : CommandName) (before : List Text) (t : Text) : Bool :=
  match name with
  | templates => false
  | help => before.isEmpty && (ofText? t).isSome
  | _ => before.isEmpty && !t.isEmpty

end CommandName

namespace Arguments

/-- The options given at one level, with their values; a flag has the empty
value. -/
abbrev Given := List (Text × Text)

/-- What was read of a command line: the global options before the command, the
command, its options and operands, the option that waits for its value, and
whether options have ended. -/
structure State where
  before : Given
  command : Option CommandName
  after : Given
  operands : List Text
  waiting : Option OptionForm
  ended : Bool

/-- Nothing was read. -/
def State.initial : State :=
  ⟨[], none, [], [], none, false⟩

/-- The options that may come next. -/
def State.forms (s : State) : List OptionForm :=
  match s.command with
  | some name => globalForms ++ name.forms
  | none => globalForms

/-- The options given so far at the level that was reached. -/
def State.given (s : State) : Given :=
  match s.command with
  | some _ => s.after
  | none => s.before

/-- The state with an option and its value. An option is given once at each
level. -/
def State.give (s : State) (form : OptionForm) (value : Text) : Except Stop State :=
  if (s.given.lookup form.long).isSome then .error .usage
  else
    match s.command with
    | some _ => .ok { s with after := s.after ++ [(form.long, value)], waiting := none }
    | none => .ok { s with before := s.before ++ [(form.long, value)], waiting := none }

/-- The state with an option and a value that has to be of its form. -/
def State.giveValue (s : State) (form : OptionForm) (value : Text) : Except Stop State :=
  if form.value.accepts value then s.give form value else .error .usage

/-- The state with an operand. The first one before a command names it. -/
def State.operand (s : State) (t : Text) : Except Stop State :=
  match s.command with
  | some name =>
    if name.admits s.operands t then .ok { s with operands := s.operands ++ [t] }
    else .error .usage
  | none =>
    match CommandName.ofText? t with
    | some name => if s.ended then .error .usage else .ok { s with command := some name }
    | none => .error .usage

/-- The state after a long option, without its hyphens. -/
def State.long (s : State) (t : Text) : Except Stop State :=
  let name := t.takeWhile (· != '=')
  let value? := after? '=' (t.dropWhile (· != '='))
  if name = "help" then if value?.isSome then .error .usage else .error .help
  else if name = "version" ∧ s.command = none then
    if value?.isSome then .error .usage else .error .version
  else
    match s.forms.find? (fun form => form.long == name), value? with
    | none, _ => .error .usage
    | some form, some value => s.giveValue form value
    | some form, none =>
      if form.value = .flag then s.give form [] else .ok { s with waiting := some form }

/-- The state after a group of option letters. The rest of a group after an
option with a value is that value. -/
def State.letters (s : State) : Text → Except Stop State
  | [] => .ok s
  | c :: rest =>
    if c = 'h' then .error .help
    else if c = 'V' ∧ s.command = none then .error .version
    else
      match s.forms.find? fun form => form.letter == some c with
      | none => .error .usage
      | some form =>
        if form.value = .flag then do State.letters (← s.give form []) rest
        else
          match rest with
          | [] => .ok { s with waiting := some form }
          | '=' :: value => s.giveValue form value
          | value => s.giveValue form value

/-- The state after an argument. -/
def State.read (s : State) (argument : Text) : Except Stop State :=
  if s.ended then s.operand argument
  else if s.command = some .help then s.operand argument
  else
    match argument, s.waiting with
    | '-' :: _ :: _, some _ => .error .usage
    | ['-', '-'], none => .ok { s with ended := true }
    | '-' :: '-' :: name, none => s.long name
    | '-' :: c :: rest, none => s.letters (c :: rest)
    | value, some form => s.giveValue form value
    | t, none => s.operand t

/-- The value of an option, that after the command first. -/
def State.value? (s : State) (long : Text) : Option Text :=
  s.after.lookup long <|> s.before.lookup long

/-- Whether an option was given. -/
def State.has (s : State) (long : Text) : Bool :=
  (s.value? long).isSome

/-- The report format that was asked for. -/
def State.format (s : State) : Format :=
  ((s.value? "format").bind Format.ofText?).getD .human

/-- The command that was read. -/
def State.toCommand (s : State) : Except Stop Command :=
  match s.command, s.operands with
  | some .parse, [file] => .ok (.parse file (s.value? "output") s.format)
  | some .generate, [file] =>
    .ok (.generate file (s.value? "template") (s.value? "out-dir") (s.value? "record")
      (s.has "stdout") s.format)
  | some .batch, [dir] =>
    .ok (.batch dir (s.value? "out-dir") (s.value? "records-dir") s.format)
  | some .templates, [] => .ok .templates
  | some .help, _ => .error .help
  | _, _ => .error .usage

/-- The invocation that the arguments of a command line ask for. -/
def read (arguments : List Text) : Except Stop Invocation := do
  let s ← arguments.foldlM State.read State.initial
  if s.waiting.isSome then .error .usage
  else
    return {
      verbose := s.has "verbose"
      configPath := s.value? "config"
      templatesDir := s.value? "templates-dir"
      command := ← s.toCommand }

end Arguments

end ContractScaffold
