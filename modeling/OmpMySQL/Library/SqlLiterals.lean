import OmpMySQL.Library.SqlTokens

/-! Which texts denote what between single quotes, whatever they hold. -/

namespace OmpMySQL.Library.SqlTokens

/-- The tokens from the middle of a text on. -/
def tokensFrom (mode : Mode) (text : List Char) : Option (List Token) :=
  (run mode text).2.ends.map ((run mode text).1 ++ ·)

theorem tokensFrom_silent {mode next : Mode} {char : Char} (silent : advance mode char = ([], next)) (rest : List Char) :
    tokensFrom mode (char :: rest) = tokensFrom next rest := by
  rw [tokensFrom, tokensFrom, run_silent silent]

/-- A token that is closed comes first. -/
theorem tokensFrom_closes {mode : Mode} {char : Char} {first : Token}
    (closed : advance mode char = closes [first] char) {rest : List Char} {read : List Token}
    (done : tokensFrom mode (char :: rest) = some read) : ∃ more, read = first :: more := by
  simp only [tokensFrom, run, closed, closes, List.cons_append, List.nil_append, Option.map_eq_some_iff] at done
  obtain ⟨last, _, rfl⟩ := done
  exact ⟨_, rfl⟩

/-- The text between single quotes is read as one literal with this value. -/
def Denotes (text value : List Char) : Prop := tokens ('\'' :: text ++ ['\'']) = some [.text value]

instance (text value : List Char) : Decidable (Denotes text value) := inferInstanceAs (Decidable (_ = _))

/-- No quote, and no backslash but those that are kept. -/
def standsForItself : List Char → Bool
  | [] => true
  | [char] => char != '\\' && char != '\''
  | char :: next :: rest =>
    if char = '\\' then (next == '%' || next == '_') && standsForItself rest
    else char != '\'' && standsForItself (next :: rest)

theorem unescape_cases (char : Char) :
    (char = '%' ∨ char = '_') ∧ unescape char = ['\\', char] ∨
      ¬ (char = '%' ∨ char = '_') ∧ (unescape char).length = 1 := by
  by_cases kept : char = '%' ∨ char = '_'
  · refine Or.inl ⟨kept, ?_⟩
    rcases kept with rfl | rfl
    · rfl
    · rfl
  · refine Or.inr ⟨kept, ?_⟩
    rw [not_or] at kept
    unfold unescape
    split
    all_goals first | rfl | simp at kept

theorem literal_standsForItself {text : List Char} (stands : standsForItself text = true) :
    literal '\'' text = some text := by
  induction text using standsForItself.induct with
  | case1 => rfl
  | case2 char => simpa [literal, standsForItself] using stands
  | case3 next rest ih =>
    simp only [standsForItself, if_true, Bool.and_eq_true, Bool.or_eq_true, beq_iff_eq] at stands
    rcases unescape_cases next with ⟨_, kept⟩ | ⟨other, _⟩
    · simp [literal, ih stands.2, kept]
    · exact absurd stands.1 other
  | case4 char next rest plain ih =>
    simp only [standsForItself, if_neg plain, Bool.and_eq_true, bne_iff_ne] at stands
    simp [literal, plain, stands.1, ih stands.2]

/-- Reading a literal never adds to it. -/
theorem literal_length {text value : List Char} (denotes : literal '\'' text = some value) :
    value.length ≤ text.length := by
  induction text using literal.induct '\'' generalizing value with
  | case1 =>
    cases denotes
    exact Nat.le_refl _
  | case2 char bad => simp [literal, bad] at denotes
  | case3 char good =>
    simp only [literal, good, if_false, Option.some.injEq] at denotes
    simp [← denotes]
  | case4 next rest ih =>
    simp only [literal, if_true, Option.map_eq_some_iff] at denotes
    obtain ⟨value, denotes, rfl⟩ := denotes
    have shorter := ih denotes
    rcases unescape_cases next with ⟨_, kept⟩ | ⟨_, one⟩
    · simp only [kept, List.length_append, List.length_cons, List.length_nil]
      omega
    · simp only [one, List.length_append, List.length_cons]
      omega
  | case5 rest plain ih =>
    simp only [literal, plain, if_false, if_true, Option.map_eq_some_iff] at denotes
    obtain ⟨value, denotes, rfl⟩ := denotes
    have shorter := ih denotes
    simp only [List.length_cons]
    omega
  | case6 next rest plain other => simp [literal, plain, other] at denotes
  | case7 char next rest plain unquoted ih =>
    simp only [literal, plain, unquoted, if_false, Option.map_eq_some_iff] at denotes
    obtain ⟨value, denotes, rfl⟩ := denotes
    have shorter := ih denotes
    simp only [List.length_cons] at shorter ⊢
    omega

theorem standsForItself_of_literal {text : List Char} (denotes : literal '\'' text = some text) :
    standsForItself text = true := by
  induction text using literal.induct '\'' with
  | case1 => rfl
  | case2 char bad => simp [literal, bad] at denotes
  | case3 char good =>
    rw [not_or] at good
    simp [standsForItself, good]
  | case4 next rest ih =>
    simp only [literal, if_true, Option.map_eq_some_iff] at denotes
    obtain ⟨value, denotes, same⟩ := denotes
    rcases unescape_cases next with ⟨known, kept⟩ | ⟨_, one⟩
    · rw [kept] at same
      have tail : value = rest := by simpa using same
      subst tail
      simp [standsForItself, known, ih denotes]
    · have lengths := congrArg List.length same
      have shorter := literal_length denotes
      simp only [List.length_append, one, List.length_cons] at lengths
      omega
  | case5 rest plain ih =>
    simp only [literal, plain, if_false, if_true, Option.map_eq_some_iff] at denotes
    obtain ⟨value, denotes, same⟩ := denotes
    have lengths := congrArg List.length same
    have shorter := literal_length denotes
    simp only [List.length_cons] at lengths
    omega
  | case6 next rest plain other => simp [literal, plain, other] at denotes
  | case7 char next rest plain unquoted ih =>
    simp only [literal, plain, unquoted, if_false, Option.map_eq_some_iff] at denotes
    obtain ⟨value, denotes, same⟩ := denotes
    have tail : value = next :: rest := (List.cons.inj same).2
    subst tail
    simp [standsForItself, plain, unquoted, ih denotes]

theorem literal_self {text : List Char} : literal '\'' text = some text ↔ standsForItself text = true :=
  ⟨standsForItself_of_literal, literal_standsForItself⟩

/-- A text that is no literal does not become one between quotes: what comes first is shorter. -/
theorem tokensFrom_not_literal {body read value : List Char} (ends : literal '\'' body = none)
    (done : tokensFrom (.text '\'' read) (body ++ ['\'']) = some [.text value]) :
    value.length < read.length + body.length := by
  induction body using literal.induct '\'' generalizing read with
  | case1 => cases ends
  | case2 char bad =>
    rcases bad with rfl | rfl
    · cases done
    · cases done
  | case3 char good => simp [literal, good] at ends
  | case4 next rest ih =>
    simp only [literal, if_true, Option.map_eq_none_iff] at ends
    have opened : advance (.text '\'' read) '\\' = ([], .escaped '\'' read) := by simp [advance]
    have escaped : advance (.escaped '\'' read) next = ([], .text '\'' ((unescape next).reverse ++ read)) := rfl
    rw [List.cons_append, List.cons_append, tokensFrom_silent opened, tokensFrom_silent escaped] at done
    have shorter := ih ends done
    rw [List.length_append, List.length_reverse] at shorter
    rcases unescape_cases next with ⟨_, kept⟩ | ⟨_, one⟩
    · simp only [kept, List.length_cons, List.length_nil] at shorter ⊢
      omega
    · simp only [one, List.length_cons] at shorter ⊢
      omega
  | case5 rest plain ih =>
    simp only [literal, plain, if_false, if_true, Option.map_eq_none_iff] at ends
    have closed : advance (.text '\'' read) '\'' = ([], .textClosed '\'' read) := by simp [advance]
    have reopened : advance (.textClosed '\'' read) '\'' = ([], .text '\'' ('\'' :: read)) := by simp [advance]
    rw [List.cons_append, List.cons_append, tokensFrom_silent closed, tokensFrom_silent reopened] at done
    have shorter := ih ends done
    simp only [List.length_cons] at shorter ⊢
    omega
  | case6 next rest other plain =>
    have closed : advance (.text '\'' read) '\'' = ([], .textClosed '\'' read) := by simp [advance]
    rw [List.cons_append, List.cons_append, tokensFrom_silent closed] at done
    have ended : advance (.textClosed '\'' read) next = closes [.text read.reverse] next := if_neg other
    obtain ⟨more, same⟩ := tokensFrom_closes ended done
    have first : value = read.reverse := by simpa using (List.cons.inj same).1
    simp only [first, List.length_reverse, List.length_cons]
    omega
  | case7 char next rest plain unquoted ih =>
    simp only [literal, plain, unquoted, if_false, Option.map_eq_none_iff] at ends
    have inside : advance (.text '\'' read) char = ([], .text '\'' (char :: read)) := by
      rw [advance, if_neg plain, if_neg unquoted]
    rw [List.cons_append, tokensFrom_silent inside] at done
    have shorter := ih ends done
    simp only [List.length_cons] at shorter ⊢
    omega

theorem denotes_of_literal {text value : List Char} (denotes : literal '\'' text = some value) : Denotes text value :=
  (reads_text denotes).tokens

/-- A text denotes itself between quotes exactly when nothing in it needs escaping. -/
theorem denotes_self_iff {text : List Char} : Denotes text text ↔ standsForItself text = true := by
  rw [← literal_self]
  refine ⟨?_, denotes_of_literal⟩
  intro denotes
  cases read : literal '\'' text with
  | some value =>
    have same := denotes_of_literal read
    rw [Denotes, denotes] at same
    simp only [Option.some.injEq, List.cons.injEq, Token.text.injEq, and_true] at same
    rw [same]
  | none =>
    have opened : advance .between '\'' = ([], .text '\'' []) := by decide
    have done : tokensFrom (.text '\'' []) (text ++ ['\'']) = some [.text text] := by
      rw [← tokensFrom_silent opened]
      exact denotes
    have shorter := tokensFrom_not_literal read done
    simp at shorter

end OmpMySQL.Library.SqlTokens
