import Mathlib.Data.List.Basic

/-! The words of an SQL text, by MySQL's rules, with names and literals already
decoded. Executable comments are read as comments. -/

namespace OmpMySQL.Library.SqlTokens

inductive Token where
  | word (text : List Char)
  | number (value : Nat)
  | name (text : List Char)
  | text (value : List Char)
  | symbol (char : Char)
  deriving DecidableEq, Repr

/-- What has been read of the token at hand, last character first. -/
inductive Mode where
  | between
  | word (read : List Char)
  | name (read : List Char)
  | nameClosed (read : List Char)
  | text (quote : Char) (read : List Char)
  | escaped (quote : Char) (read : List Char)
  | textClosed (quote : Char) (read : List Char)
  | dash
  | dashes
  | line
  | slash
  | block
  | star
  deriving DecidableEq, Repr

def isBlank (char : Char) : Bool := char = ' ' || (9 ≤ char.toNat && char.toNat ≤ 13)

def isWordChar (char : Char) : Bool := char.isAlphanum || char = '_' || char = '$' || 128 ≤ char.toNat

def wordToken (text : List Char) : Token :=
  if text.all Char.isDigit then .number (Nat.ofDigitChars 10 text 0) else .word text

def unescape (char : Char) : List Char :=
  match char with
  | '0' => [Char.ofNat 0]
  | 'b' => [Char.ofNat 8]
  | 'n' => ['\n']
  | 'r' => ['\r']
  | 't' => ['\t']
  | 'Z' => [Char.ofNat 26]
  | '%' => ['\\', '%']
  | '_' => ['\\', '_']
  | other => [other]

def opens (char : Char) : List Token × Mode :=
  if isBlank char then ([], .between)
  else if isWordChar char then ([], .word [char])
  else if char = '`' then ([], .name [])
  else if char = '\'' ∨ char = '"' then ([], .text char [])
  else if char = '-' then ([], .dash)
  else if char = '#' then ([], .line)
  else if char = '/' then ([], .slash)
  else ([.symbol char], .between)

/-- The tokens a mode stands for when the text ends there, if it may. -/
def Mode.ends : Mode → Option (List Token)
  | .between | .dashes | .line => some []
  | .word read => some [wordToken read.reverse]
  | .nameClosed read => some [.name read.reverse]
  | .textClosed _ read => some [.text read.reverse]
  | .dash => some [.symbol '-']
  | .slash => some [.symbol '/']
  | .name _ | .text _ _ | .escaped _ _ | .block | .star => none

def closes (tokens : List Token) (char : Char) : List Token × Mode := (tokens ++ (opens char).1, (opens char).2)

def advance (mode : Mode) (char : Char) : List Token × Mode :=
  match mode with
  | .between => opens char
  | .word read => if isWordChar char then ([], .word (char :: read)) else closes [wordToken read.reverse] char
  | .name read => if char = '`' then ([], .nameClosed read) else ([], .name (char :: read))
  | .nameClosed read => if char = '`' then ([], .name ('`' :: read)) else closes [.name read.reverse] char
  | .text quote read =>
    if char = '\\' then ([], .escaped quote read)
    else if char = quote then ([], .textClosed quote read)
    else ([], .text quote (char :: read))
  | .escaped quote read => ([], .text quote ((unescape char).reverse ++ read))
  | .textClosed quote read =>
    if char = quote then ([], .text quote (quote :: read)) else closes [.text read.reverse] char
  | .dash => if char = '-' then ([], .dashes) else closes [.symbol '-'] char
  | .dashes =>
    if char = '\n' then ([], .between)
    else if char.toNat ≤ 32 ∨ char.toNat = 127 then ([], .line)
    else closes [.symbol '-', .symbol '-'] char
  | .line => if char = '\n' then ([], .between) else ([], .line)
  | .slash => if char = '*' then ([], .block) else closes [.symbol '/'] char
  | .block => if char = '*' then ([], .star) else ([], .block)
  | .star => if char = '/' then ([], .between) else if char = '*' then ([], .star) else ([], .block)

def run : Mode → List Char → List Token × Mode
  | mode, [] => ([], mode)
  | mode, char :: rest =>
    let first := advance mode char
    let more := run first.2 rest
    (first.1 ++ more.1, more.2)

/-- A text with an unfinished name, literal or comment has no tokens. -/
def tokens (text : List Char) : Option (List Token) :=
  let read := run .between text
  read.2.ends.map (read.1 ++ ·)

/-- The value of a literal from the text between its quotes. -/
def literal (quote : Char) : List Char → Option (List Char)
  | [] => some []
  | [char] => if char = '\\' ∨ char = quote then none else some [char]
  | char :: next :: rest =>
    if char = '\\' then (literal quote rest).map (unescape next ++ ·)
    else if char = quote then if next = quote then (literal quote rest).map (quote :: ·) else none
    else (literal quote (next :: rest)).map (char :: ·)

theorem run_append (mode : Mode) (first second : List Char) :
    run mode (first ++ second) =
      ((run mode first).1 ++ (run (run mode first).2 second).1, (run (run mode first).2 second).2) := by
  induction first generalizing mode with
  | nil => simp [run]
  | cons char rest ih => simp only [List.cons_append, run, ih, List.append_assoc]

theorem run_silent {mode next : Mode} {char : Char} (silent : advance mode char = ([], next)) (rest : List Char) :
    run mode (char :: rest) = run next rest := by
  rw [run, silent]
  rfl

/-- What ends a word, a name or a literal without being part of it. -/
def Boundary (char : Char) : Prop := isWordChar char = false ∧ char ≠ '`' ∧ char ≠ '\'' ∧ char ≠ '"'

instance (char : Char) : Decidable (Boundary char) := inferInstanceAs (Decidable (_ ∧ _))

structure Mode.Settles (mode : Mode) (read : List Token) : Prop where
  ends : mode.ends = some read
  closes : ∀ char, Boundary char → advance mode char = closes read char

/-- A text after which anything may follow. -/
def Closes (text : List Char) (read : List Token) : Prop := run .between text = (read, .between)

instance (text : List Char) (read : List Token) : Decidable (Closes text read) := inferInstanceAs (Decidable (_ = _))

/-- A text that may stand at the end or before a boundary. -/
structure Reads (text : List Char) (read : List Token) : Prop where
  settled : ∃ last, (run .between text).2.Settles last ∧ read = (run .between text).1 ++ last

theorem settles_between : Mode.between.Settles [] := ⟨rfl, fun _ _ => rfl⟩

theorem settles_word (read : List Char) : (Mode.word read).Settles [wordToken read.reverse] where
  ends := rfl
  closes _ boundary := if_neg (by simp [boundary.1])

theorem settles_name (read : List Char) : (Mode.nameClosed read).Settles [.name read.reverse] where
  ends := rfl
  closes _ boundary := if_neg boundary.2.1

theorem settles_text (read : List Char) : (Mode.textClosed '\'' read).Settles [.text read.reverse] where
  ends := rfl
  closes _ boundary := if_neg boundary.2.2.1

variable {text more : List Char} {read next : List Token}

theorem Reads.tokens (reads : Reads text read) : tokens text = some read := by
  obtain ⟨last, settles, rfl⟩ := reads.settled
  rw [SqlTokens.tokens, settles.ends, Option.map_some]

theorem Closes.reads (closed : Closes text read) : Reads text read := by
  refine ⟨[], ?_, ?_⟩
  · rw [closed]
    exact settles_between
  · rw [closed, List.append_nil]

theorem Closes.reads_append (closed : Closes text read) (reads : Reads more next) :
    Reads (text ++ more) (read ++ next) := by
  obtain ⟨last, settles, rfl⟩ := reads.settled
  refine ⟨last, ?_, ?_⟩
  · rw [run_append, closed]
    exact settles
  · rw [run_append, closed, List.append_assoc]

theorem Reads.closes_append {char : Char} (reads : Reads text read) (boundary : Boundary char)
    (closed : Closes (char :: more) next) : Closes (text ++ char :: more) (read ++ next) := by
  obtain ⟨last, settles, rfl⟩ := reads.settled
  rw [Closes, run, advance] at closed
  rw [Closes, run_append, run, settles.closes char boundary, SqlTokens.closes]
  simp only [Prod.mk.injEq] at closed ⊢
  refine ⟨?_, closed.2⟩
  rw [← closed.1]
  simp only [List.append_assoc]

section Pieces

theorem run_word {text : List Char} (word : ∀ char ∈ text, isWordChar char = true) (read : List Char) :
    run (.word read) text = ([], .word (text.reverse ++ read)) := by
  induction text generalizing read with
  | nil => rfl
  | cons char rest ih =>
    have first : advance (.word read) char = ([], .word (char :: read)) := if_pos (word char List.mem_cons_self)
    rw [run_silent first, ih (fun other present => word other (List.mem_cons_of_mem _ present))]
    simp

theorem blank_forms {char : Char} (blank : isBlank char = true) :
    char ∈ [' ', Char.ofNat 9, Char.ofNat 10, Char.ofNat 11, Char.ofNat 12, Char.ofNat 13] := by
  simp only [isBlank, Bool.or_eq_true, Bool.and_eq_true, decide_eq_true_eq] at blank
  rcases blank with rfl | control
  · exact List.mem_cons_self
  · have sizes : char.toNat = 9 ∨ char.toNat = 10 ∨ char.toNat = 11 ∨ char.toNat = 12 ∨ char.toNat = 13 := by omega
    rw [← Char.ofNat_toNat char]
    rcases sizes with size | size | size | size | size <;> simp [size]

theorem not_blank_of_word {char : Char} (word : isWordChar char = true) : isBlank char = false := by
  cases blank : isBlank char with
  | false => rfl
  | true =>
    have forms := blank_forms blank
    simp only [List.mem_cons, List.not_mem_nil, or_false] at forms
    rcases forms with rfl | rfl | rfl | rfl | rfl | rfl <;> cases word

theorem advance_word {char : Char} (word : isWordChar char = true) : advance .between char = ([], .word [char]) := by
  rw [advance, opens, not_blank_of_word word, word]
  rfl

theorem reads_word {char : Char} {text : List Char} (word : ∀ other ∈ char :: text, isWordChar other = true) :
    Reads (char :: text) [wordToken (char :: text)] := by
  have ran : run .between (char :: text) = ([], .word (text.reverse ++ [char])) := by
    rw [run_silent (advance_word (word char List.mem_cons_self)),
      run_word (fun other present => word other (List.mem_cons_of_mem _ present))]
  refine ⟨[wordToken (char :: text)], ?_, by rw [ran, List.nil_append]⟩
  rw [ran]
  simpa using settles_word (text.reverse ++ [char])

/-- A name in backticks, its own backticks doubled. -/
def quoteName (name : List Char) : List Char := name.flatMap fun char => if char = '`' then ['`', '`'] else [char]

theorem run_name (name read : List Char) : run (.name read) (quoteName name) = ([], .name (name.reverse ++ read)) := by
  induction name generalizing read with
  | nil => rfl
  | cons char rest ih =>
    rw [quoteName, List.flatMap_cons, ← quoteName]
    by_cases tick : char = '`'
    · subst tick
      have closed : advance (.name read) '`' = ([], .nameClosed read) := by simp [advance]
      have reopened : advance (.nameClosed read) '`' = ([], .name ('`' :: read)) := by simp [advance]
      rw [if_pos rfl, List.cons_append, run_silent closed, List.cons_append, run_silent reopened, List.nil_append, ih]
      simp
    · have inside : advance (.name read) char = ([], .name (char :: read)) := if_neg tick
      rw [if_neg tick, List.cons_append, run_silent inside, List.nil_append, ih]
      simp

theorem reads_name (name : List Char) : Reads ('`' :: quoteName name ++ ['`']) [.name name] := by
  have ran : run .between ('`' :: quoteName name ++ ['`']) = ([], .nameClosed name.reverse) := by
    have opened : advance .between '`' = ([], .name []) := by decide
    have closed : advance (.name (name.reverse ++ [])) '`' = ([], .nameClosed (name.reverse ++ [])) := by
      simp [advance]
    rw [List.cons_append, run_silent opened, run_append, run_name, run_silent closed]
    simp [run]
  refine ⟨[.name name], ?_, by rw [ran, List.nil_append]⟩
  rw [ran]
  simpa using settles_name name.reverse

theorem run_literal {quote : Char} {body value : List Char} (denotes : literal quote body = some value)
    (read : List Char) : run (.text quote read) body = ([], .text quote (value.reverse ++ read)) := by
  have inside : ∀ {char}, char ≠ '\\' → char ≠ quote → ∀ read,
      advance (.text quote read) char = ([], .text quote (char :: read)) := by
    intro char unescaped unquoted read
    rw [advance, if_neg unescaped, if_neg unquoted]
  induction body using literal.induct quote generalizing value read with
  | case1 =>
    cases denotes
    rfl
  | case2 char bad => simp [literal, bad] at denotes
  | case3 char good =>
    simp only [literal, good, if_false, Option.some.injEq] at denotes
    subst denotes
    simp only [not_or] at good
    rw [run_silent (inside good.1 good.2 read)]
    rfl
  | case4 next rest ih =>
    simp only [literal, if_true, Option.map_eq_some_iff] at denotes
    obtain ⟨value, denotes, rfl⟩ := denotes
    have opened : advance (.text quote read) '\\' = ([], .escaped quote read) := by simp [advance]
    have escaped : advance (.escaped quote read) next = ([], .text quote ((unescape next).reverse ++ read)) := rfl
    rw [run_silent opened, run_silent escaped, ih denotes]
    simp
  | case5 rest plain ih =>
    simp only [literal, plain, if_false, if_true, Option.map_eq_some_iff] at denotes
    obtain ⟨value, denotes, rfl⟩ := denotes
    have closed : advance (.text quote read) quote = ([], .textClosed quote read) := by simp [advance, plain]
    have reopened : advance (.textClosed quote read) quote = ([], .text quote (quote :: read)) := by simp [advance]
    rw [run_silent closed, run_silent reopened, ih denotes]
    simp
  | case6 next rest plain other => simp [literal, plain, other] at denotes
  | case7 char next rest unescaped unquoted ih =>
    simp only [literal, unescaped, unquoted, if_false, Option.map_eq_some_iff] at denotes
    obtain ⟨value, denotes, rfl⟩ := denotes
    rw [run_silent (inside unescaped unquoted read), ih denotes]
    simp

theorem reads_text {body value : List Char} (denotes : literal '\'' body = some value) :
    Reads ('\'' :: body ++ ['\'']) [.text value] := by
  have ran : run .between ('\'' :: body ++ ['\'']) = ([], .textClosed '\'' value.reverse) := by
    have opened : advance .between '\'' = ([], .text '\'' []) := by decide
    have closed : advance (.text '\'' (value.reverse ++ [])) '\'' = ([], .textClosed '\'' (value.reverse ++ [])) := rfl
    rw [List.cons_append, run_silent opened, run_append, run_literal denotes, run_silent closed]
    simp [run]
  refine ⟨[.text value], ?_, by rw [ran, List.nil_append]⟩
  rw [ran]
  simpa using settles_text value.reverse

theorem word_of_digit {char : Char} (digit : char.isDigit = true) : isWordChar char = true := by
  simp [isWordChar, Char.isAlphanum, digit]

theorem digits_word (value : Nat) : ∀ char ∈ Nat.toDigits 10 value, isWordChar char = true :=
  fun _ present => word_of_digit (Nat.isDigit_of_mem_toDigits (by decide) (by decide) present)

theorem wordToken_digits (value : Nat) : wordToken (Nat.toDigits 10 value) = .number value := by
  have digits : (Nat.toDigits 10 value).all Char.isDigit = true :=
    List.all_eq_true.mpr (fun _ present => Nat.isDigit_of_mem_toDigits (by decide) (by decide) present)
  rw [wordToken, if_pos digits, Nat.ofDigitChars_ten_toDigits]

theorem reads_number (value : Nat) : Reads (Nat.toDigits 10 value) [.number value] := by
  rw [← wordToken_digits]
  obtain ⟨char, rest, same⟩ := List.exists_cons_of_ne_nil (Nat.toDigits_ne_nil (n := value) (b := 10))
  have word := digits_word value
  rw [same] at word ⊢
  exact reads_word word

theorem reads_negative (value : Nat) : Reads ('-' :: Nat.toDigits 10 value) [.symbol '-', .number value] := by
  obtain ⟨char, rest, same⟩ := List.exists_cons_of_ne_nil (Nat.toDigits_ne_nil (n := value) (b := 10))
  have word := digits_word value
  obtain ⟨last, settles, reads⟩ := (reads_number value).settled
  rw [same] at word reads settles ⊢
  have first := word char List.mem_cons_self
  have undashed : char ≠ '-' := by
    intro dash
    subst dash
    exact absurd first (by decide)
  have signed : advance .dash char = ([.symbol '-'], .word [char]) := by
    have opened : opens char = ([], .word [char]) := advance_word first
    simp [advance, undashed, SqlTokens.closes, opened]
  have dash : advance .between '-' = ([], .dash) := by decide
  have ran : run .between ('-' :: char :: rest) = (.symbol '-' :: (run .between (char :: rest)).1,
      (run .between (char :: rest)).2) := by
    rw [run_silent dash, run, signed, run_silent (advance_word first)]
    rfl
  refine ⟨last, ?_, ?_⟩
  · rw [ran]
    exact settles
  · rw [ran, List.cons_append, ← reads]

end Pieces

end OmpMySQL.Library.SqlTokens
