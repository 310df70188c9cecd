import Mathlib.Data.Nat.Digits.Defs
import OmpMySQL.Library.SqlTemplates
import OmpMySQL.Proofs.Escaping
import OmpMySQL.Proofs.ScannerAgreement

/-! A query that `mysql_format` makes says what its format says. Where `%e` stands in quotes
and `%d`, `%i` and `%q` stand on their own, no value changes how many tokens the query has or
of which kind they are, nor what the stacked-statement check makes of it. -/

namespace OmpMySQL
open FormatPiece Library.SqlTokens

/-- The format as a template. `%f` and `%s` go into the query as they are. -/
def FormatPiece.template : Nat → List FormatPiece → Option (List Fragment)
  | _, [] => some []
  | next, plain c :: rest => (template next rest).map (.char c :: ·)
  | next, percent :: rest => (template next rest).map (.char '%' :: ·)
  | next, lone :: rest => (template next rest).map (.char '%' :: ·)
  | next, directive spec :: rest =>
    if spec = 'd' ∨ spec = 'i' then (template (next + 1) rest).map (.number next :: ·)
    else if spec = 'e' then (template (next + 1) rest).map (.quoted next :: ·)
    else if spec = 'q' then (template (next + 1) rest).map (.name next :: ·)
    else if spec = 'f' ∨ spec = 's' then none
    else (template next rest).map (fun more => .char '%' :: .char spec :: more)

namespace NativeCall
variable (reader : ScriptReader) (call : NativeCall)

/-- The values after the format, as a text or as a number. -/
def values : Values where
  text place := (call.amxStringParam reader ((call.params.drop 4).getD place 0)).toList
  number place := call.cell ((call.params.drop 4).getD place 0)

end NativeCall

namespace StatementScan

/-- Whether the scan looks at the next character too. -/
def looksAhead (scan : StatementScan) (c : Char) : Bool :=
  scan.state = .normal && (c = '-' || c = '/') || scan.state = .blockComment && c = '*'

/-- The character the scan sees after `c`, where a value's first character does not matter. -/
def sees (scan : StatementScan) (c : Char) : List Fragment → Option Char
  | .char n :: _ => some n
  | [] => some (Char.ofNat 0)
  | .quoted _ :: _ | .number _ :: _ | .name _ :: _ => if scan.looksAhead c then none else some (Char.ofNat 0)

/-- What the scan answers from here on, unless the values decide. -/
def template (scan : StatementScan) (skip : Bool) : List Fragment → Option Bool
  | [] => some false
  | .char c :: rest =>
    if skip then template scan false rest
    else (scan.sees c rest).bind fun n =>
      if (scan.turn c n).hit then some true else template (scan.turn c n).state (scan.turn c n).skip rest
  | .quoted _ :: rest => if scan.state = .sQuote ∧ skip = false then template scan false rest else none
  | .number _ :: rest =>
    if scan.state = .normal ∧ skip = false then if scan.sawSeparator then some true else template scan false rest
    else none
  | .name _ :: rest => if scan.state = .normal ∧ skip = false then template scan false rest else none

theorem turn_steady {scan : StatementScan} {c : Char} (steady : scan.looksAhead c = false) (n other : Char) :
    scan.turn c n = scan.turn c other := by
  obtain ⟨state, saw⟩ := scan
  cases state with
  | normal =>
    have plain : c ≠ '-' ∧ c ≠ '/' := by simpa [looksAhead] using steady
    simp only [turn, plain, false_and, if_false]
  | blockComment =>
    have plain : c ≠ '*' := by simpa [looksAhead] using steady
    simp only [turn, plain, false_and, if_false]
  | sQuote | dQuote | bQuote | lineComment => rfl

end StatementScan

section Scan
variable {values : Values} {escape : List Char → List Char} {saw : Bool} {rest : List Char}

/-- An escaped value does not end its literal for the scan. -/
theorem scan_inside {body value : List Char} (denotes : literal '\'' body = some value) :
    scanStatements .sQuote saw false (body ++ rest) = scanStatements .sQuote saw false rest := by
  induction body using literal.induct '\'' generalizing value with
  | case1 => rfl
  | case2 char bad => simp [literal, bad] at denotes
  | case3 char good =>
    simp only [not_or] at good
    simp [scanStatements, good]
  | case4 next more ih =>
    simp only [literal, if_true, Option.map_eq_some_iff] at denotes
    obtain ⟨value, denotes, _⟩ := denotes
    simpa [scanStatements] using ih denotes
  | case5 more plain ih =>
    simp only [literal, plain, if_false, if_true, Option.map_eq_some_iff] at denotes
    obtain ⟨value, denotes, _⟩ := denotes
    simpa [scanStatements] using ih denotes
  | case6 next more plain other => simp [literal, plain, other] at denotes
  | case7 char next more unescaped unquoted ih =>
    simp only [literal, unescaped, unquoted, if_false, Option.map_eq_some_iff] at denotes
    obtain ⟨value, denotes, _⟩ := denotes
    simpa [scanStatements, unescaped, unquoted] using ih denotes

theorem scan_quoted_name (name : List Char) :
    scanStatements .normal saw false (('`' :: quoteName name ++ ['`']) ++ rest) = scanStatements .normal saw false rest := by
  have inside : scanStatements .bQuote saw false (quoteName name ++ '`' :: rest) = scanStatements .normal saw false rest := by
    induction name with
    | nil => simp [quoteName, scanStatements]
    | cons char name ih =>
      rw [quoteName, List.flatMap_cons, ← quoteName]
      by_cases tick : char = '`'
      · subst tick
        simpa [scanStatements] using ih
      · simpa [scanStatements, tick] using ih
  simpa [scanStatements] using inside

/-- A number is no separator, and is a statement of its own after one. -/
theorem scan_decimal (value : Int) :
    scanStatements .normal saw false (decimal value ++ rest) = if saw then true else scanStatements .normal saw false rest := by
  cases saw with
  | false =>
    unfold decimal
    split
    next => exact (spells_negative value.natAbs).passes rest
    next => exact (spells_number value.natAbs).passes rest
  | true =>
    obtain ⟨digit, more, digits⟩ := List.exists_cons_of_ne_nil (Nat.toDigits_ne_nil (n := value.natAbs) (b := 10))
    have numeric : digit.isDigit = true := toDigits_numeric value.natAbs digit (by rw [digits]; exact List.mem_cons_self)
    have plain : isPlain digit = true := plain_of_digit numeric
    simp only [isPlain, List.mem_cons, List.not_mem_nil, or_false, not_or, decide_eq_true_eq] at plain
    have solid : isspace digit = false := solid_of_digit numeric
    unfold decimal
    split
    next => simp [digits, scanStatements, plain, isspace]
    next => simp [digits, scanStatements, plain, solid]

private theorem turn_seen {scan : StatementScan} {c n : Char} {parts : List Fragment} (seen : scan.sees c parts = some n) :
    scan.turn c ((parts.flatMap (Fragment.render escape values)).head?.getD (Char.ofNat 0)) = scan.turn c n := by
  cases parts with
  | nil =>
    cases seen
    rfl
  | cons part parts =>
    cases part with
    | char next =>
      cases seen
      rfl
    | quoted | number | name =>
      simp only [StatementScan.sees, Option.ite_none_left_eq_some, Bool.not_eq_true] at seen
      exact StatementScan.turn_steady seen.1 _ _

/-- The check answers what it answers about the template. -/
theorem scan_render (escapes : ∀ text, literal '\'' (escape text) = some text) {parts : List Fragment} {scan : StatementScan}
    {skip verdict : Bool} (fixed : scan.template skip parts = some verdict) :
    scanStatements scan.state scan.sawSeparator skip (parts.flatMap (Fragment.render escape values)) = verdict := by
  induction parts generalizing scan skip with
  | nil =>
    cases fixed
    rfl
  | cons part parts ih =>
    rw [List.flatMap_cons]
    cases part with
    | char c =>
      cases skip with
      | true => exact ih fixed
      | false =>
        obtain ⟨n, seen, moved⟩ := Option.bind_eq_some_iff.mp fixed
        have turned := @turn_seen values escape scan c n parts seen
        rw [Fragment.render, List.singleton_append, scanStatements_turn, turned, StatementScan.answer]
        split at moved
        next hit =>
          cases moved
          rw [hit, Bool.true_or]
        next miss => rw [Bool.eq_false_of_not_eq_true miss, Bool.false_or, ih moved]
    | quoted place =>
      obtain ⟨⟨inside, rfl⟩, onward⟩ := Option.ite_none_right_eq_some.mp fixed
      have later := ih onward
      rw [inside] at later ⊢
      rw [Fragment.render, scan_inside (escapes _), later]
    | number place =>
      obtain ⟨⟨code, rfl⟩, onward⟩ := Option.ite_none_right_eq_some.mp fixed
      rw [Fragment.render, code, scan_decimal]
      split at onward
      next saw =>
        cases onward
        rw [saw, if_pos rfl]
      next none =>
        have later := ih onward
        rw [code] at later
        rw [if_neg none, later]
    | name place =>
      obtain ⟨⟨code, rfl⟩, onward⟩ := Option.ite_none_right_eq_some.mp fixed
      have later := ih onward
      rw [code] at later ⊢
      rw [Fragment.render, scan_quoted_name, later]

end Scan

section Format
variable {reader : ScriptReader} {registry : Connections} {mysql : Nat → Option (String → String)} {call : NativeCall}

/-- Ten digits and a sign fit. -/
theorem numbuf_cell (param : Cell) : NativeCall.numbuf (toString (call.cell param)) = decimal (call.cell param) := by
  have whole : Int.bmod (call.cell param) 0x100000000 = call.cell param := call.toCell_cell param
  have size : (call.cell param).natAbs < 10 ^ 10 := by
    have low := Int.le_bmod (x := call.cell param) (m := 0x100000000) (by decide)
    have high := Int.bmod_lt (x := call.cell param) (m := 0x100000000) (by decide)
    rw [whole] at low high
    omega
  have digits := Nat.toDigits_length 10 (call.cell param).natAbs 10 (by decide) size
  rw [NativeCall.numbuf, toString_toList, decimal]
  apply List.take_of_length_le
  split
  next =>
    rw [List.length_cons]
    omega
  next => omega

theorem formatLoop_taken {formatValue : Char → Cell → Option (List Char)} {spec : Char} {format text : List Char}
    {values : List Cell} {next : Nat} (other : spec ≠ '%') (inside : next < values.length)
    (renders : formatValue spec (values.getD next 0) = some text) :
    formatLoop formatValue ('%' :: spec :: format) (values.drop next) =
      text ++ formatLoop formatValue format (values.drop (next + 1)) := by
  rw [List.getD_eq_getElem?_getD, List.getElem?_eq_getElem inside, Option.getD_some] at renders
  rw [List.drop_eq_getElem_cons inside]
  simp only [formatLoop, ne_eq, not_true_eq_false, if_false, other, renders]

theorem formatLoop_kept {formatValue : Char → Cell → Option (List Char)} {spec : Char} {format : List Char} (other : spec ≠ '%')
    (unknown : ∀ value, formatValue spec value = none) (values : List Cell) :
    formatLoop formatValue ('%' :: spec :: format) values = '%' :: spec :: formatLoop formatValue format values := by
  cases values <;> simp [formatLoop, other, unknown]

/-- The output is the template with the values rendered in their places, but for a percent sign at the end. -/
theorem formatted_template {escape : String → String} {parts : List Fragment} {format : List Char} {next : Nat}
    (whole : lone ∉ parse format) (read : FormatPiece.template next (parse format) = some parts)
    (given : next + (parse format).countP consumes ≤ (call.params.drop 4).length) :
    formatLoop (call.formatValue reader escape) format ((call.params.drop 4).drop next) =
      parts.flatMap (Fragment.render (fun text => (escape (String.ofList text)).toList) (call.values reader)) := by
  induction format using parse.induct generalizing next parts with
  | case1 =>
    cases read
    rfl
  | case2 => simp [parse] at whole
  | case3 char plain =>
    simp only [parse, plain, if_false, FormatPiece.template, Option.map_some, Option.some.injEq] at read
    subst read
    simp [formatLoop, plain, Fragment.render]
  | case4 rest ih =>
    simp only [parse, if_true, FormatPiece.template, List.mem_cons, reduceCtorEq, false_or] at read given whole
    obtain ⟨more, later, rfl⟩ := Option.map_eq_some_iff.mp read
    rw [List.flatMap_cons, ← ih whole later (by simpa [consumes] using given)]
    simp [formatLoop, Fragment.render]
  | case5 spec rest other ih =>
    simp only [parse, if_true, if_neg other, FormatPiece.template, List.countP_cons, List.mem_cons, reduceCtorEq,
      false_or] at read given whole
    have taken {part : Fragment} {more : List Fragment} (takes : consumes (directive spec) = true)
        (renders : call.formatValue reader escape spec ((call.params.drop 4).getD next 0) =
          some (part.render (fun text => (escape (String.ofList text)).toList) (call.values reader)))
        (later : FormatPiece.template (next + 1) (parse rest) = some more) :
        formatLoop (call.formatValue reader escape) ('%' :: spec :: rest) ((call.params.drop 4).drop next) =
          (part :: more).flatMap (Fragment.render (fun text => (escape (String.ofList text)).toList) (call.values reader)) := by
      rw [takes, if_pos rfl] at given
      rw [formatLoop_taken other (by omega) renders, List.flatMap_cons, ih whole later (by omega)]
    split at read
    next number =>
      obtain ⟨more, later, rfl⟩ := Option.map_eq_some_iff.mp read
      apply taken _ _ later
      · rcases number with rfl | rfl <;> rfl
      · rw [NativeCall.formatValue, if_pos number, numbuf_cell]
        rfl
    next integers =>
      split at read
      next quoted =>
        subst quoted
        obtain ⟨more, later, rfl⟩ := Option.map_eq_some_iff.mp read
        apply taken rfl _ later
        simp [NativeCall.formatValue, NativeCall.values, Fragment.render]
      next texts =>
        split at read
        next name =>
          subst name
          obtain ⟨more, later, rfl⟩ := Option.map_eq_some_iff.mp read
          apply taken rfl _ later
          simp [NativeCall.formatValue, NativeCall.values, Fragment.render, ident, quoteName]
        next names =>
          split at read
          next => cases read
          next raw =>
            obtain ⟨more, later, rfl⟩ := Option.map_eq_some_iff.mp read
            have kept : isSpecifier spec = false := by
              simp only [not_or] at integers raw
              simp [isSpecifier, integers, texts, names, raw]
            have unknown (value : Cell) : call.formatValue reader escape spec value = none := by
              have known := call.formatValue_isSome reader escape spec value
              rw [kept] at known
              exact Option.isNone_iff_eq_none.mp (by simpa using known)
            have counted : consumes (directive spec) = false := kept
            rw [counted] at given
            rw [formatLoop_kept other unknown, ih whole later (by simpa using given)]
            rfl
  | case6 char spec rest plain ih =>
    simp only [parse, plain, if_false, FormatPiece.template, List.mem_cons, reduceCtorEq, false_or] at read given whole
    obtain ⟨more, later, rfl⟩ := Option.map_eq_some_iff.mp read
    rw [List.flatMap_cons, ← ih whole later (by simpa [consumes] using given)]
    simp [formatLoop, plain, Fragment.render]

end Format

/-- `='%e' %d` for `x' OR '1` and 7. -/
def numberedCall : NativeCall :=
  formatCall 1 ['=', '\'', '%', 'e', '\'', ' ', '%', 'd'] ['x', '\'', ' ', 'O', 'R', ' ', '\'', '1'] [300, 10]

def numberedParts : List Fragment := [.char '=', .char '\'', .quoted 0, .char '\'', .char ' ', .number 1]

example : ({} : StatementScan).template false numberedParts = some false := by decide

end OmpMySQL
