import Mathlib.Data.List.Forall2

/-! Reading SQL text one character at a time: which characters stand in the open,
which open a literal, and which belong to a literal or a comment. Dialects differ
in what opens a comment, so the rules for that are parameters. -/

namespace OmpMySQL.Library.Lexical

/-- `dash` tells from the character after `--` whether it opens a comment, and
`bang` whether the contents of `/*! */` are read as code. -/
structure Rules where
  dash : Option Char → Bool
  bang : Bool

inductive Mode where
  | bare
  | single
  | double
  | back
  | line
  | block
  deriving DecidableEq, Repr

inductive Mark where
  | code
  | opening
  | hidden
  deriving DecidableEq, Repr

/-- `skip` characters ahead belong to what has been read already; `executed` is
set inside a comment whose contents are code. -/
structure Reader where
  mode : Mode := .bare
  skip : Nat := 0
  executed : Bool := false
  deriving DecidableEq, Repr

def versionDigits (text : List Char) : Nat :=
  if text.length < 5 ∨ ¬ (text.take 5).all Char.isDigit then 0
  else if (text.drop 5).head?.any Char.isDigit then 6 else 5

namespace Reader

def readBare (rules : Rules) (reader : Reader) (char : Char) (rest : List Char) : Mark × Reader :=
  if char = '\'' then (.opening, { reader with mode := .single })
  else if char = '"' then (.opening, { reader with mode := .double })
  else if char = '`' then (.opening, { reader with mode := .back })
  else if char = '-' ∧ rest.head? = some '-' ∧ rules.dash rest.tail.head? then
    (.hidden, { reader with mode := .line, skip := 1 })
  else if char = '#' then (.hidden, { reader with mode := .line })
  else if char = '/' ∧ rest.head? = some '*' then
    if rules.bang ∧ rest.tail.head? = some '!' then
      (.hidden, { reader with skip := 2 + versionDigits (rest.drop 2), executed := true })
    else (.hidden, { reader with mode := .block, skip := 1 })
  else if reader.executed ∧ char = '*' ∧ rest.head? = some '/' then
    (.hidden, { reader with skip := 1, executed := false })
  else (.code, reader)

def readLiteral (reader : Reader) (close : Char) (escapes : Bool) (char : Char) : Reader :=
  if escapes ∧ char = '\\' then { reader with skip := 1 }
  else if char = close then { reader with mode := .bare }
  else reader

def read (rules : Rules) (reader : Reader) (char : Char) (rest : List Char) : Mark × Reader :=
  match reader.skip, reader.mode with
  | skip + 1, _ => (.hidden, { reader with skip := skip })
  | 0, .bare => reader.readBare rules char rest
  | 0, .single => (.hidden, reader.readLiteral '\'' true char)
  | 0, .double => (.hidden, reader.readLiteral '"' true char)
  | 0, .back => (.hidden, reader.readLiteral '`' false char)
  | 0, .line => (.hidden, if char = '\n' then { reader with mode := .bare } else reader)
  | 0, .block =>
    (.hidden, if char = '*' ∧ rest.head? = some '/' then { reader with mode := .bare, skip := 1 } else reader)

end Reader

def marks (rules : Rules) : Reader → List Char → List (Char × Mark)
  | _, [] => []
  | reader, char :: rest =>
    (char, (reader.read rules char rest).1) :: marks rules (reader.read rules char rest).2 rest

/-- The reader that a whole text leaves. -/
def finish (rules : Rules) : Reader → List Char → Reader
  | reader, [] => reader
  | reader, char :: rest => finish rules (reader.read rules char rest).2 rest

/-- The text ends inside a literal. -/
def Unterminated (rules : Rules) (text : List Char) : Prop :=
  (finish rules {} text).mode ∈ [Mode.single, .double, .back]

instance (rules : Rules) (text : List Char) : Decidable (Unterminated rules text) :=
  inferInstanceAs (Decidable (_ ∈ _))

def Separates (separator : Char) (counts : Char × Mark → Prop) (text : List (Char × Mark)) : Prop :=
  ∃ before after, text = before ++ (separator, .code) :: after ∧ ∃ item ∈ after, counts item

variable {separator : Char} {counts : Char × Mark → Prop}

theorem separates_nil : ¬ Separates separator counts [] := by
  rintro ⟨before, after, same, _⟩
  simp at same

theorem separates_cons (item : Char × Mark) (text : List (Char × Mark)) :
    Separates separator counts (item :: text) ↔
      item = (separator, .code) ∧ (∃ later ∈ text, counts later) ∨ Separates separator counts text := by
  constructor
  · rintro ⟨before, after, same, later⟩
    cases before with
    | nil =>
      cases same
      exact Or.inl ⟨rfl, later⟩
    | cons first before =>
      cases same
      exact Or.inr ⟨before, after, rfl, later⟩
  · rintro (⟨rfl, later⟩ | ⟨before, after, rfl, later⟩)
    · exact ⟨[], text, rfl, later⟩
    · exact ⟨item :: before, after, rfl, later⟩

/-- Texts that agree item by item on what separates and what counts. -/
theorem separates_congr {other : Char × Mark → Prop} {first second : List (Char × Mark)}
    (alike : List.Forall₂ (fun item item' => (item = (separator, .code) ↔ item' = (separator, .code)) ∧
      (counts item ↔ other item')) first second) :
    Separates separator counts first ↔ Separates separator other second := by
  induction alike with
  | nil => exact iff_of_false separates_nil separates_nil
  | @cons item item' first second same rest ih =>
    have later : (∃ item ∈ first, counts item) ↔ ∃ item ∈ second, other item := by
      clear ih
      induction rest with
      | nil => simp
      | cons here _ ih => simp only [List.mem_cons, exists_eq_or_imp, here.2, ih]
    rw [separates_cons, separates_cons, ih, same.1, later]

end OmpMySQL.Library.Lexical
