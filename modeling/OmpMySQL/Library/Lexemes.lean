import Mathlib.Data.List.Basic

/-! Texts as their lexemes: white space, separators, quoted literals, comments and
single characters. What counts as white space is a parameter. -/

namespace OmpMySQL.Library.Lexemes

inductive Quote where
  | single
  | double
  | back
  deriving DecidableEq, Repr

def Quote.char : Quote → Char
  | .single => '\''
  | .double => '"'
  | .back => '`'

/-- Nothing is escaped between backticks. -/
def Quote.escapes : Quote → Bool
  | .single | .double => true
  | .back => false

/-- A character of a literal, as it stands or after a backslash. -/
inductive Item where
  | plain (char : Char)
  | escaped (char : Char)
  deriving DecidableEq, Repr

inductive Lexeme where
  | blank (char : Char)
  | separator
  | literal (quote : Quote) (body : List Item)
  | dashComment (body : List Char)
  | hashComment (body : List Char)
  | blockComment (body : List Char)
  | other (char : Char)
  deriving DecidableEq, Repr

def Item.text : Item → List Char
  | .plain char => [char]
  | .escaped char => ['\\', char]

def Lexeme.text : Lexeme → List Char
  | .blank char => [char]
  | .separator => [';']
  | .literal quote body => quote.char :: (body.flatMap Item.text ++ [quote.char])
  | .dashComment body => '-' :: '-' :: (body ++ ['\n'])
  | .hashComment body => '#' :: (body ++ ['\n'])
  | .blockComment body => '/' :: '*' :: (body ++ ['*', '/'])
  | .other char => [char]

def text (lexemes : List Lexeme) : List Char := lexemes.flatMap Lexeme.text

/-- The character neither ends the literal nor escapes what follows it. -/
def Item.Formed (quote : Quote) : Item → Prop
  | .plain char => char ≠ quote.char ∧ (quote.escapes = true → char ≠ '\\')
  | .escaped _ => quote.escapes = true

instance (quote : Quote) : (item : Item) → Decidable (item.Formed quote)
  | .plain _ => inferInstanceAs (Decidable (_ ∧ _))
  | .escaped _ => inferInstanceAs (Decidable (_ = true))

/-- The characters that make up a lexeme of their own or open one. -/
def reserved : List Char := [';', '\'', '"', '`', '#']

/-- A lexeme is well formed before `rest`. Comments end where they first can, and a
single character opens no comment with the next one. -/
def Lexeme.Formed (blank : Char → Bool) (rest : List Char) : Lexeme → Prop
  | .blank char => blank char = true
  | .separator => True
  | .literal quote body => ∀ item ∈ body, item.Formed quote
  | .dashComment body | .hashComment body => '\n' ∉ body
  | .blockComment body => ¬ ['*', '/'] <:+: body
  | .other char =>
    blank char = false ∧ char ∉ reserved ∧ ¬ (char = '-' ∧ rest.head? = some '-') ∧
      ¬ (char = '/' ∧ rest.head? = some '*')

instance (blank : Char → Bool) (rest : List Char) : (lexeme : Lexeme) → Decidable (lexeme.Formed blank rest)
  | .blank _ => inferInstanceAs (Decidable (_ = true))
  | .separator => inferInstanceAs (Decidable True)
  | .literal _ body => inferInstanceAs (Decidable (∀ item ∈ body, _))
  | .dashComment _ | .hashComment _ => inferInstanceAs (Decidable (_ ∉ _))
  | .blockComment _ => inferInstanceAs (Decidable (¬ _))
  | .other _ => inferInstanceAs (Decidable (_ ∧ _))

def Spelled (blank : Char → Bool) : List Lexeme → Prop
  | [] => True
  | lexeme :: rest => lexeme.Formed blank (text rest) ∧ Spelled blank rest

instance decidableSpelled (blank : Char → Bool) : (lexemes : List Lexeme) → Decidable (Spelled blank lexemes)
  | [] => inferInstanceAs (Decidable True)
  | lexeme :: rest =>
    have := decidableSpelled blank rest
    inferInstanceAs (Decidable (lexeme.Formed blank (text rest) ∧ Spelled blank rest))

/-- Some separator has a lexeme that counts anywhere after it. -/
def Follows (counts : Lexeme → Prop) (lexemes : List Lexeme) : Prop :=
  ∃ before later, lexemes = before ++ .separator :: later ∧ ∃ lexeme ∈ later, counts lexeme

variable {counts : Lexeme → Prop}

theorem follows_nil : ¬ Follows counts [] := by
  rintro ⟨before, later, same, _⟩
  simp at same

theorem follows_cons (lexeme : Lexeme) (rest : List Lexeme) :
    Follows counts (lexeme :: rest) ↔
      lexeme = .separator ∧ (∃ later ∈ rest, counts later) ∨ Follows counts rest := by
  constructor
  · rintro ⟨before, later, same, counted⟩
    cases before with
    | nil =>
      cases same
      exact Or.inl ⟨rfl, counted⟩
    | cons first before =>
      cases same
      exact Or.inr ⟨before, later, rfl, counted⟩
  · rintro (⟨rfl, counted⟩ | ⟨before, later, rfl, counted⟩)
    · exact ⟨[], rest, rfl, counted⟩
    · exact ⟨lexeme :: before, later, rfl, counted⟩

theorem follows_or {other : Lexeme → Prop} (lexemes : List Lexeme) :
    Follows (fun lexeme => counts lexeme ∨ other lexeme) lexemes ↔ Follows counts lexemes ∨ Follows other lexemes := by
  constructor
  · rintro ⟨before, later, same, lexeme, present, counted | counted⟩
    · exact Or.inl ⟨before, later, same, lexeme, present, counted⟩
    · exact Or.inr ⟨before, later, same, lexeme, present, counted⟩
  · rintro (⟨before, later, same, lexeme, present, counted⟩ | ⟨before, later, same, lexeme, present, counted⟩)
    · exact ⟨before, later, same, lexeme, present, Or.inl counted⟩
    · exact ⟨before, later, same, lexeme, present, Or.inr counted⟩

end OmpMySQL.Library.Lexemes
