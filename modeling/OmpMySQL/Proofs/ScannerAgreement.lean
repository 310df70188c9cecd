import OmpMySQL.Scanners

/-! The two loops that read SQL text run in step: what is a literal or a comment for
the stacked-statement check is one for counting placeholders. -/

namespace OmpMySQL
open Library.Scanning

variable {c : Char} {rest : List Char}

/-- What the loop returns from a turn on, if it may return early. -/
def StatementScan.answer (rest : List Char) (turn : Turn StatementScan) : Bool :=
  turn.hit || scanStatements turn.state.state turn.state.sawSeparator turn.skip rest

theorem scanStatements_turn (scan : StatementScan) :
    scanStatements scan.state scan.sawSeparator false (c :: rest) =
      StatementScan.answer rest (scan.turn c (rest.head?.getD (Char.ofNat 0))) := by
  obtain ⟨state, saw⟩ := scan
  cases state with
  | normal =>
    have last second : StatementScan.answer rest { state := ⟨.normal, saw⟩, hit := second } =
        if second then true else scanStatements .normal saw false rest := by
      cases second <;> rfl
    simp only [scanStatements, StatementScan.turn, apply_ite (StatementScan.answer rest), last]
    rfl
  | sQuote | dQuote | bQuote | lineComment | blockComment =>
    simp only [scanStatements, StatementScan.turn, apply_ite (StatementScan.answer rest)]
    rfl

/-- Returning early is finding a first hit. -/
theorem scanStatements_visits (text : List Char) (position : Nat) (scan : StatementScan) (skip : Bool) :
    scanStatements scan.state scan.sawSeparator skip text =
      (visits StatementScan.turn (Char.ofNat 0) position scan skip text).any Visit.hit := by
  induction text generalizing position scan skip with
  | nil => rfl
  | cons c rest ih =>
    cases skip with
    | true => exact ih (position + 1) scan false
    | false => rw [visits_cons, List.any_cons, scanStatements_turn scan, StatementScan.answer, ih (position + 1)]

theorem isMultiStatement_visits (sql : String) : isMultiStatement sql = (statementVisits sql).any Visit.hit :=
  scanStatements_visits sql.toList 0 {} false

/-- What the loop counts from a turn on. -/
def PlaceholderScan.answer (rest : List Char) (turn : Turn PlaceholderScan) : Nat :=
  countFrom turn.state turn.skip rest + turn.hit.toNat

theorem countFrom_turn (scan : PlaceholderScan) :
    countFrom scan false (c :: rest) =
      PlaceholderScan.answer rest (scan.turn c (rest.head?.getD (Char.ofNat 0))) := by
  obtain ⟨quote, line, block⟩ := scan
  simp only [countFrom, PlaceholderScan.turn, Bool.false_eq_true, if_false]
  cases line with
  | true =>
    by_cases ends : c = '\n'
    · subst ends
      rfl
    · have goes : (c != '\n') = true := bne_iff_ne.mpr ends
      simp only [ends, goes, if_true, if_false]
      rfl
  | false =>
    cases block with
    | true =>
      simp only [Bool.false_eq_true, if_true, if_false, apply_ite (PlaceholderScan.answer rest)]
      rfl
    | false =>
      cases quote with
      | some quote =>
        simp only [Bool.false_eq_true, if_false, apply_ite (PlaceholderScan.answer rest)]
        rfl
      | none =>
        have last : PlaceholderScan.answer rest { state := {}, hit := c == '?' } =
            if c = '?' then countFrom {} false rest + 1 else countFrom {} false rest := by
          by_cases mark : c = '?' <;> simp [PlaceholderScan.answer, mark]
        simp only [Bool.false_eq_true, if_false, apply_ite (PlaceholderScan.answer rest), last]
        rfl

theorem countFrom_visits (text : List Char) (position : Nat) (scan : PlaceholderScan) (skip : Bool) :
    countFrom scan skip text =
      (visits PlaceholderScan.turn (Char.ofNat 0) position scan skip text).countP Visit.hit := by
  induction text generalizing position scan skip with
  | nil => rfl
  | cons c rest ih =>
    cases skip with
    | true => exact ih (position + 1) scan false
    | false =>
      rw [visits_cons, List.countP_cons, countFrom_turn scan, PlaceholderScan.answer, ih (position + 1)]
      cases (scan.turn c (rest.head?.getD (Char.ofNat 0))).hit <;> rfl

/-- `?` opens nothing, so whatever follows it, it counts in the open and nowhere else. -/
theorem PlaceholderScan.turn_hit (scan : PlaceholderScan) (c n : Char) :
    (scan.turn c n).hit = decide (scan = {} ∧ c = '?') := by
  obtain ⟨quote, line, block⟩ := scan
  rw [PlaceholderScan.turn]
  cases line with
  | true => by_cases ends : c = '\n' <;> simp [ends]
  | false =>
    cases block with
    | true => by_cases closes : c = '*' ∧ n = '/' <;> simp [closes]
    | false =>
      cases quote with
      | some quote =>
        dsimp only
        split_ifs <;> simp
      | none =>
        by_cases mark : c = '?'
        · subst mark
          rfl
        · dsimp only
          split_ifs <;> simp [mark]

/-- The two loops open, close and step over the same things. They test for them in
another order, which makes no difference since each begins with another character. -/
theorem loops_in_step :
    InStep (fun statement placeholder => SameContext statement.state placeholder)
      StatementScan.turn PlaceholderScan.turn := by
  intro ⟨state, saw⟩ other same c n
  cases same with
  | code =>
    by_cases single : c = '\''
    · subst single
      exact ⟨.single, rfl⟩
    by_cases double : c = '"'
    · subst double
      exact ⟨.double, rfl⟩
    by_cases back : c = '`'
    · subst back
      exact ⟨.back, rfl⟩
    by_cases dash : c = '-' ∧ n = '-'
    · obtain ⟨rfl, rfl⟩ := dash
      exact ⟨.line, rfl⟩
    by_cases hash : c = '#'
    · subst hash
      exact ⟨.line, rfl⟩
    by_cases block : c = '/' ∧ n = '*'
    · obtain ⟨rfl, rfl⟩ := block
      exact ⟨.block, rfl⟩
    · simp only [StatementScan.turn, PlaceholderScan.turn, single, double, back, dash, hash, block, or_false, if_false]
      split <;> exact ⟨.code, rfl⟩
  | single | double | back | line | block =>
    simp only [StatementScan.turn, PlaceholderScan.turn]
    split_ifs <;> simp_all

theorem SameContext.code_iff {state : ScanState} {scan : PlaceholderScan} (same : SameContext state scan) :
    scan = {} ↔ state = .normal := by
  cases same <;> simp

theorem countPlaceholders_open (sql : String) :
    countPlaceholders sql = (placeholderVisits sql).countP fun visit => visit.state = {} ∧ visit.char = '?' := by
  rw [countPlaceholders, countFrom_visits sql.toList 0]
  apply List.countP_congr
  intro visit present
  obtain ⟨next, hit⟩ := visits_hit sql.toList 0 {} false visit present
  rw [hit, PlaceholderScan.turn_hit]

/-- Both loops examine the same places in the same contexts, so every `?` that is counted
stands where the other loop reads code. Returning early only leaves out what comes behind the first hit. -/
theorem scanners_agree (sql : String) :
    List.Forall₂ (Alike fun statement placeholder => SameContext statement.state placeholder)
      (statementVisits sql) (placeholderVisits sql) ∧
    (countPlaceholders sql = (statementVisits sql).countP fun visit => visit.state.state = .normal ∧ visit.char = '?') ∧
    isMultiStatement sql = (statementVisits sql).any Visit.hit := by
  have alike : List.Forall₂ (Alike fun statement placeholder => SameContext statement.state placeholder)
      (statementVisits sql) (placeholderVisits sql) := loops_in_step.visits sql.toList 0 false .code
  refine ⟨alike, ?_, isMultiStatement_visits sql⟩
  rw [countPlaceholders_open]
  apply countP_related alike.flip
  intro placeholder statement same
  simp only [same.char, same.state.code_iff]

end OmpMySQL
