import OmpMySQL.Library.SqlLiterals

/-! SQL texts with places for values. A place is inside a literal, or stands for a number or
for a name. What the tokens of such a text are is settled before its values are known. -/

namespace OmpMySQL.Library.SqlTokens

inductive Fragment where
  | char (char : Char)
  | quoted (place : Nat)
  | number (place : Nat)
  | name (place : Nat)
  deriving DecidableEq, Repr

structure Values where
  text : Nat → List Char
  number : Nat → Int

def decimal (value : Int) : List Char :=
  if value < 0 then '-' :: Nat.toDigits 10 value.natAbs else Nat.toDigits 10 value.natAbs

def Fragment.render (escape : List Char → List Char) (values : Values) : Fragment → List Char
  | .char c => [c]
  | .quoted place => escape (values.text place)
  | .number place => decimal (values.number place)
  | .name place => '`' :: quoteName (values.text place) ++ ['`']

/-- What a literal holds: characters, and values that are not known yet. -/
inductive Content where
  | char (char : Char)
  | value (place : Nat)
  deriving DecidableEq, Repr

inductive Slot where
  | token (token : Token)
  | text (contents : List Content)
  | number (place : Nat)
  | name (place : Nat)
  deriving DecidableEq, Repr

def Content.fill (values : Values) : Content → List Char
  | .char c => [c]
  | .value place => values.text place

def Slot.fill (values : Values) : Slot → List Token
  | .token known => [known]
  | .text contents => [.text (contents.flatMap (Content.fill values))]
  | .number place =>
    if values.number place < 0 then [.symbol '-', .number (values.number place).natAbs]
    else [.number (values.number place).natAbs]
  | .name place => [.name (values.text place)]

/-- Where the reading of a template stands. From its first value on, a literal is read for
its contents, last content first. -/
inductive Reading where
  | mode (mode : Mode)
  | literal (read : List Content)
  | escaped (read : List Content)
  | closed (read : List Content)
  deriving DecidableEq, Repr

namespace Reading

def advance : Reading → Char → List Slot × Reading
  | .mode current, char => ((SqlTokens.advance current char).1.map .token, .mode (SqlTokens.advance current char).2)
  | .literal read, char =>
    if char = '\\' then ([], .escaped read)
    else if char = '\'' then ([], .closed read)
    else ([], .literal (.char char :: read))
  | .escaped read, char => ([], .literal ((unescape char).reverse.map .char ++ read))
  | .closed read, char =>
    if char = '\'' then ([], .literal (.char '\'' :: read))
    else (.text read.reverse :: (opens char).1.map .token, .mode (opens char).2)

/-- A value may stand between single quotes, but not after a backslash. -/
def hold (place : Nat) : Reading → Option Reading
  | .mode (.text '\'' read) => some (.literal (.value place :: read.map .char))
  | .literal read => some (.literal (.value place :: read))
  | .mode _ | .escaped _ | .closed _ => none

def ends : Reading → Option (List Slot)
  | .mode current => current.ends.map (·.map .token)
  | .closed read => some [.text read.reverse]
  | .literal _ | .escaped _ => none

end Reading

/-- Whether a number or a name ends before what comes next. -/
def apart : List Fragment → Bool
  | [] => true
  | .char char :: _ => decide (Boundary char)
  | .quoted _ :: _ | .number _ :: _ | .name _ :: _ => false

/-- The tokens of a template, unless they depend on its values. -/
def shape : Reading → List Fragment → Option (List Slot)
  | reading, [] => reading.ends
  | reading, .char char :: rest => (shape (reading.advance char).2 rest).map ((reading.advance char).1 ++ ·)
  | reading, .quoted place :: rest => (reading.hold place).bind fun next => shape next rest
  | reading, .number place :: rest =>
    if reading = .mode .between ∧ apart rest = true then (shape reading rest).map (.number place :: ·) else none
  | reading, .name place :: rest =>
    if reading = .mode .between ∧ apart rest = true then (shape reading rest).map (.name place :: ·) else none

def Reading.filled (values : Values) : Reading → Mode
  | .mode current => current
  | .literal read => .text '\'' (read.reverse.flatMap (Content.fill values)).reverse
  | .escaped read => .escaped '\'' (read.reverse.flatMap (Content.fill values)).reverse
  | .closed read => .textClosed '\'' (read.reverse.flatMap (Content.fill values)).reverse

section
variable {values : Values}

private theorem fill_chars (read : List Char) : (read.map Content.char).flatMap (Content.fill values) = read := by
  induction read with
  | nil => rfl
  | cons char rest ih => simp [Content.fill, ih]

private theorem fill_tokens (read : List Token) : (read.map Slot.token).flatMap (Slot.fill values) = read := by
  induction read with
  | nil => rfl
  | cons token rest ih => simp [Slot.fill, ih]

/-- The template is read as the text with the values in it is. -/
theorem Reading.filled_advance (reading : Reading) (char : Char) :
    SqlTokens.advance (reading.filled values) char =
      ((reading.advance char).1.flatMap (Slot.fill values), (reading.advance char).2.filled values) := by
  cases reading with
  | mode current => simp only [filled, Reading.advance, fill_tokens]
  | literal read =>
    simp only [filled, Reading.advance, SqlTokens.advance]
    split
    next => rfl
    next =>
      split
      next => rfl
      next => simp [Content.fill]
  | escaped read =>
    simp only [filled, Reading.advance, SqlTokens.advance, List.flatMap_nil, List.reverse_append, List.map_reverse,
      List.reverse_reverse, List.flatMap_append, fill_chars]
  | closed read =>
    simp only [filled, Reading.advance, SqlTokens.advance, closes]
    split
    next => simp [Content.fill]
    next => simp [Slot.fill, fill_tokens]

theorem Reading.filled_ends {reading : Reading} {slots : List Slot} (ends : reading.ends = some slots) :
    (reading.filled values).ends = some (slots.flatMap (Slot.fill values)) := by
  cases reading with
  | mode current =>
    obtain ⟨read, last, rfl⟩ := Option.map_eq_some_iff.mp ends
    rw [fill_tokens]
    exact last
  | closed read =>
    cases ends
    simp [filled, Mode.ends, Slot.fill]
  | literal | escaped => cases ends

/-- A value is part of the literal it stands in, and leaves it open. -/
theorem Reading.filled_hold {escape : List Char → List Char}
    (escapes : ∀ text, SqlTokens.literal '\'' (escape text) = some text)
    {reading next : Reading} {place : Nat} (held : reading.hold place = some next) :
    run (reading.filled values) (escape (values.text place)) = ([], next.filled values) := by
  unfold hold at held
  split at held
  next read =>
    cases held
    rw [filled, run_literal (escapes _)]
    simp only [filled, List.reverse_cons, List.flatMap_append, ← List.map_reverse, fill_chars]
    simp [Content.fill]
  next read =>
    cases held
    rw [filled, run_literal (escapes _)]
    simp [filled, Content.fill]
  all_goals cases held

theorem reads_decimal (value : Int) :
    Reads (decimal value) (if value < 0 then [.symbol '-', .number value.natAbs] else [.number value.natAbs]) := by
  unfold decimal
  split
  next => exact reads_negative value.natAbs
  next => exact reads_number value.natAbs

theorem tokensFrom_run {mode next : Mode} {text more : List Char} {read tokens : List Token}
    (ran : run mode text = (read, next)) (onward : tokensFrom next more = some tokens) :
    tokensFrom mode (text ++ more) = some (read ++ tokens) := by
  obtain ⟨last, ends, rfl⟩ := Option.map_eq_some_iff.mp onward
  rw [tokensFrom, run_append, ran, ends, Option.map_some, List.append_assoc]

/-- What stands apart from what comes next is read on its own. -/
theorem Reads.tokensFrom_append {text more : List Char} {read tokens : List Token} (reads : Reads text read)
    (apart : ∀ char rest, more = char :: rest → Boundary char) (onward : tokensFrom .between more = some tokens) :
    tokensFrom .between (text ++ more) = some (read ++ tokens) := by
  obtain ⟨last, settles, rfl⟩ := reads.settled
  obtain ⟨final, ends, rfl⟩ := Option.map_eq_some_iff.mp onward
  cases more with
  | nil =>
    cases ends
    rw [List.append_nil, tokensFrom, settles.ends, Option.map_some, run, List.append_nil, List.append_nil]
  | cons char rest =>
    have closed := settles.closes char (apart char rest rfl)
    simp only [run, advance] at ends
    rw [tokensFrom, run_append, run, closed]
    simp only [closes, ends, Option.map_some, run, advance, List.append_assoc]

theorem apart_render {escape : List Char → List Char} {parts : List Fragment} (separate : apart parts = true) (char : Char)
    (rest : List Char) (text : parts.flatMap (Fragment.render escape values) = char :: rest) : Boundary char := by
  cases parts with
  | nil => cases text
  | cons part parts =>
    cases part with
    | char next =>
      have same : next = char := (List.cons.inj text).1
      subst same
      exact of_decide_eq_true separate
    | quoted | number | name => cases separate

/-- Whatever the values, the tokens are those of the template with the values in their slots. -/
theorem tokens_render {escape : List Char → List Char} (escapes : ∀ text, literal '\'' (escape text) = some text)
    {parts : List Fragment} {reading : Reading} {slots : List Slot} (fixed : shape reading parts = some slots) :
    tokensFrom (reading.filled values) (parts.flatMap (Fragment.render escape values)) =
      some (slots.flatMap (Slot.fill values)) := by
  induction parts generalizing reading slots with
  | nil =>
    have ends := @Reading.filled_ends values reading slots fixed
    rw [List.flatMap_nil, tokensFrom, run, ends, Option.map_some, List.nil_append]
  | cons part parts ih =>
    rw [List.flatMap_cons]
    cases part with
    | char char =>
      obtain ⟨later, rest, rfl⟩ := Option.map_eq_some_iff.mp fixed
      have first : run (reading.filled values) [char] =
          ((reading.advance char).1.flatMap (Slot.fill values), (reading.advance char).2.filled values) := by
        rw [run, run, Reading.filled_advance, List.append_nil]
      rw [List.flatMap_append]
      exact tokensFrom_run first (ih rest)
    | quoted place =>
      obtain ⟨next, held, rest⟩ := Option.bind_eq_some_iff.mp fixed
      exact tokensFrom_run (Reading.filled_hold escapes held) (ih rest)
    | number place =>
      obtain ⟨⟨rfl, separate⟩, onward⟩ := Option.ite_none_right_eq_some.mp fixed
      obtain ⟨later, rest, rfl⟩ := Option.map_eq_some_iff.mp onward
      rw [List.flatMap_cons]
      exact (reads_decimal (values.number place)).tokensFrom_append (apart_render separate) (ih rest)
    | name place =>
      obtain ⟨⟨rfl, separate⟩, onward⟩ := Option.ite_none_right_eq_some.mp fixed
      obtain ⟨later, rest, rfl⟩ := Option.map_eq_some_iff.mp onward
      rw [List.flatMap_cons]
      exact (reads_name (values.text place)).tokensFrom_append (apart_render separate) (ih rest)

end

end OmpMySQL.Library.SqlTokens
