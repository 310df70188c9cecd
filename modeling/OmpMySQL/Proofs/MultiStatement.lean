import OmpMySQL.Library.Lexemes
import OmpMySQL.Proofs.StackedGuard

/-! What the stacked-statement check decides about a text that is made of whole
lexemes. -/

namespace OmpMySQL
open Library.Lexemes

def isLiteral : Lexeme → Bool
  | .literal _ _ => true
  | _ => false

def isOther : Lexeme → Bool
  | .other _ => true
  | _ => false

/-- Neither white space, nor a comment, nor a separator. -/
def isRealSql (lexeme : Lexeme) : Bool := isOther lexeme || isLiteral lexeme

/-- The scanner's state inside a literal. -/
def quoteState : Quote → ScanState
  | .single => .sQuote
  | .double => .dQuote
  | .back => .bQuote

variable {saw : Bool} {rest : List Char}

theorem scan_quote (quote : Quote) : scanStatements .normal saw false (quote.char :: rest) =
    scanStatements (quoteState quote) saw false rest := by
  cases quote <;> rfl

theorem scan_close (quote : Quote) : scanStatements (quoteState quote) saw false (quote.char :: rest) =
    scanStatements .normal saw false rest := by
  cases quote <;> rfl

theorem scan_item {quote : Quote} {item : Item} (formed : item.Formed quote) :
    scanStatements (quoteState quote) saw false (item.text ++ rest) = scanStatements (quoteState quote) saw false rest := by
  cases item with
  | plain char =>
    obtain ⟨inside, unescaped⟩ := formed
    cases quote <;> simp_all [Item.text, scanStatements, quoteState, Quote.char, Quote.escapes]
  | escaped char =>
    cases quote with
    | single | double => rfl
    | back => cases formed

theorem scan_items {quote : Quote} {body : List Item} (formed : ∀ item ∈ body, item.Formed quote) :
    scanStatements (quoteState quote) saw false (body.flatMap Item.text ++ rest) =
      scanStatements (quoteState quote) saw false rest := by
  induction body with
  | nil => rfl
  | cons item body ih =>
    obtain ⟨first, others⟩ := List.forall_mem_cons.mp formed
    rw [List.flatMap_cons, List.append_assoc, scan_item first, ih others]

theorem scan_line {body : List Char} (formed : '\n' ∉ body) :
    scanStatements .lineComment saw false (body ++ '\n' :: rest) = scanStatements .normal saw false rest := by
  induction body with
  | nil => rfl
  | cons char body ih =>
    obtain ⟨inside, others⟩ := not_or.mp (mt List.mem_cons.mpr formed)
    rw [List.cons_append, scanStatements]
    simp only [Bool.false_eq_true, if_false, Ne.symm inside]
    exact ih others

theorem scan_block {body : List Char} (formed : ¬ ['*', '/'] <:+: body) :
    scanStatements .blockComment saw false (body ++ '*' :: '/' :: rest) = scanStatements .normal saw false rest := by
  induction body with
  | nil => rfl
  | cons char body ih =>
    have others : ¬ ['*', '/'] <:+: body := fun inside => formed (inside.trans (List.suffix_cons _ _).isInfix)
    have goes : ¬ (char = '*' ∧ (body ++ '*' :: '/' :: rest).head?.getD (Char.ofNat 0) = '/') := by
      rintro ⟨rfl, closes⟩
      cases body with
      | nil => simp at closes
      | cons next body =>
        have slash : next = '/' := closes
        subst slash
        exact formed ⟨[], body, rfl⟩
    rw [List.cons_append, scanStatements]
    simp only [Bool.false_eq_true, if_false, goes]
    exact ih others

theorem scan_bare {char : Char} (unreserved : char ∉ reserved) (undashed : ¬ (char = '-' ∧ rest.head? = some '-'))
    (unblocked : ¬ (char = '/' ∧ rest.head? = some '*')) :
    scanStatements .normal saw false (char :: rest) =
      (saw && !isspace char || scanStatements .normal saw false rest) := by
  simp only [reserved, List.mem_cons, List.not_mem_nil, or_false, not_or] at unreserved
  rw [← headD_eq rest '-' (by decide)] at undashed
  rw [← headD_eq rest '*' (by decide)] at unblocked
  rw [scanStatements]
  simp only [unreserved, undashed, unblocked, Bool.false_eq_true, if_false]
  cases saw && !isspace char <;> simp

theorem isspace_unreserved {char : Char} (blank : isspace char = true) :
    char ∉ reserved ∧ char ≠ '-' ∧ char ≠ '/' := by
  refine ⟨?_, ?_, ?_⟩
  · intro present
    have none : reserved.all (fun char => !isspace char) = true := rfl
    simpa [blank] using List.all_eq_true.mp none char present
  · rintro rfl
    cases blank
  · rintro rfl
    cases blank

/-- A lexeme in the open ends the scan only if it is a bare character after a
separator. -/
theorem scan_lexeme {lexeme : Lexeme} (formed : lexeme.Formed isspace rest) :
    scanStatements .normal saw false (lexeme.text ++ rest) =
      (saw && isOther lexeme || scanStatements .normal (saw || decide (lexeme = .separator)) false rest) := by
  cases lexeme with
  | blank char =>
    obtain ⟨unreserved, undashed, unblocked⟩ := isspace_unreserved formed
    have blank : isspace char = true := formed
    rw [Lexeme.text, List.singleton_append, scan_bare unreserved (by simp [undashed]) (by simp [unblocked])]
    simp [blank, isOther]
  | separator => simp [Lexeme.text, scanStatements, isOther]
  | literal quote body =>
    have items : ∀ item ∈ body, item.Formed quote := formed
    simp [Lexeme.text, scan_quote, scan_items items, scan_close, isOther]
  | dashComment body =>
    have line : '\n' ∉ body := formed
    have opens : scanStatements .normal saw false ('-' :: '-' :: (body ++ '\n' :: rest)) =
        scanStatements .lineComment saw false (body ++ '\n' :: rest) := rfl
    simp [Lexeme.text, opens, scan_line line, isOther]
  | hashComment body =>
    have line : '\n' ∉ body := formed
    have opens : scanStatements .normal saw false ('#' :: (body ++ '\n' :: rest)) =
        scanStatements .lineComment saw false (body ++ '\n' :: rest) := rfl
    simp [Lexeme.text, opens, scan_line line, isOther]
  | blockComment body =>
    have block : ¬ ['*', '/'] <:+: body := formed
    have opens : scanStatements .normal saw false ('/' :: '*' :: (body ++ '*' :: '/' :: rest)) =
        scanStatements .blockComment saw false (body ++ '*' :: '/' :: rest) := rfl
    simp [Lexeme.text, opens, scan_block block, isOther]
  | other char =>
    obtain ⟨solid, unreserved, undashed, unblocked⟩ := formed
    rw [Lexeme.text, List.singleton_append, scan_bare unreserved undashed unblocked]
    simp [solid, isOther]

theorem scan_lexemes {lexemes : List Lexeme} (spelled : Spelled isspace lexemes) (saw : Bool) :
    scanStatements .normal saw false (text lexemes) = true ↔
      saw = true ∧ (∃ lexeme ∈ lexemes, isOther lexeme = true) ∨ Follows (isOther · = true) lexemes := by
  induction lexemes generalizing saw with
  | nil => simp [text, scanStatements, follows_nil]
  | cons lexeme rest ih =>
    obtain ⟨formed, others⟩ := spelled
    have whole : text (lexeme :: rest) = lexeme.text ++ text rest := List.flatMap_cons
    rw [whole, scan_lexeme formed, Bool.or_eq_true, ih others, follows_cons, Bool.and_eq_true, Bool.or_eq_true, decide_eq_true_eq]
    rw [List.exists_mem_cons_iff]
    simp only [or_and_right, and_or_left, or_assoc]

/-- The check decides what it documents exactly when a literal after a separator does
not stand there alone: it sees bare characters only. -/
theorem decides_language_iff (lexemes : List Lexeme) (spelled : Spelled isspace lexemes) :
    (isMultiStatement (String.ofList (text lexemes)) = true ↔ Follows (isRealSql · = true) lexemes) ↔
      (Follows (isLiteral · = true) lexemes → Follows (isOther · = true) lexemes) := by
  have real : Follows (isRealSql · = true) lexemes ↔
      Follows (isOther · = true) lexemes ∨ Follows (isLiteral · = true) lexemes := by
    simp only [isRealSql, Bool.or_eq_true]
    exact follows_or lexemes
  have multi : isMultiStatement (String.ofList (text lexemes)) = true ↔ Follows (isOther · = true) lexemes := by
    rw [isMultiStatement, String.toList_ofList, scan_lexemes spelled]
    simp
  rw [real, multi]
  tauto

/-- `1; 'x' -- y` with its line end. -/
def loneLiteral : List Lexeme :=
  [.other '1', .separator, .blank ' ', .literal .single [.plain 'x'], .blank ' ', .dashComment [' ', 'y']]

theorem decides_language_lone :
    (isMultiStatement (String.ofList (text loneLiteral)) = true ↔ Follows (isRealSql · = true) loneLiteral) ↔
      (Follows (isLiteral · = true) loneLiteral → Follows (isOther · = true) loneLiteral) :=
  decides_language_iff loneLiteral (by decide)

theorem literal_unseen : ¬ ∀ lexemes, Spelled isspace lexemes →
    (isMultiStatement (String.ofList (text lexemes)) = true ↔ Follows (isRealSql · = true) lexemes) := by
  intro decides
  have real : Follows (isRealSql · = true) loneLiteral :=
    ⟨[.other '1'], _, rfl, .literal .single [.plain 'x'], by decide, rfl⟩
  exact absurd ((decides loneLiteral (by decide)).mpr real) (by decide)

end OmpMySQL
