/-
Documents: a text split into the sections that its level-two headings open.

* `headingOf?`: the heading that a line opens, if it is a heading line.
* `segment`: the lines before the first heading line, and each heading with the
  lines up to the next.
* `Document.ofText`: the document of a text; bodies are trimmed.
* `Document.section?`, `Document.body`: a section by its heading, in any case of
  ASCII letters; the first one counts.
-/
import ContractScaffold.Text.Blank
import ContractScaffold.Text.Lines

namespace ContractScaffold

open Text

/-- A section: the heading without its mark, and the text below it. -/
structure Section where
  heading : Text
  body : Text
  deriving DecidableEq, Repr

/-- A document: the text before the first section, and the sections in order. -/
structure Document where
  preamble : Text
  sections : List Section
  deriving DecidableEq, Repr

/-- The heading that a line opens. A heading line has at most three spaces, two
number signs and then nothing or a character other than a third sign. -/
def headingOf? (line : Text) : Option Text :=
  if (line.takeWhile (· == ' ')).length ≤ 3 then
    match line.dropWhile (· == ' ') with
    | '#' :: '#' :: rest => if rest.head? = some '#' then none else some (trim rest)
    | _ => none
  else none

/-- The lines before the first heading line, and every heading with the lines
between it and the next heading line. -/
def segment : List Text → List Text × List (Text × List Text)
  | [] => ([], [])
  | line :: rest =>
    let below := segment rest
    match headingOf? line with
    | some heading => ([], (heading, below.1) :: below.2)
    | none => (line :: below.1, below.2)

namespace Document

/-- The lines of a section as one text, without blank space at its ends. -/
def block (ls : List Text) : Text :=
  trim (unlines ls)

/-- The document of a text. -/
def ofText (t : Text) : Document :=
  let parts := segment (lines t)
  ⟨block parts.1, parts.2.map fun s => ⟨s.1, block s.2⟩⟩

/-- The first section under the heading, in any case of ASCII letters. -/
def section? (d : Document) (heading : Text) : Option Section :=
  d.sections.find? fun s => sameLetters s.heading (trim heading)

/-- The body of the section under the heading, empty where there is none. -/
def body (d : Document) (heading : Text) : Text :=
  match d.section? heading with
  | some s => s.body
  | none => []

end Document

end ContractScaffold
