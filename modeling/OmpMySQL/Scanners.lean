import OmpMySQL.Guards
import OmpMySQL.Library.Scanning
import OmpMySQL.Statement

/-! The bodies of the two loops that read SQL text. A turn of the first hits where
`isMultiStatement` returns early, which does not end the loop here; a turn of the
second hits where `CountPlaceholders` counts. -/

namespace OmpMySQL
open Library.Scanning

structure StatementScan where
  state : ScanState := .normal
  sawSeparator : Bool := false
  deriving DecidableEq, Repr

/-- The body of `isMultiStatement`'s loop at `c` before `n`. -/
def StatementScan.turn (scan : StatementScan) (c n : Char) : Turn StatementScan :=
  match scan.state with
  | .normal =>
    if c = '\'' then { state := { scan with state := .sQuote } }
    else if c = '"' then { state := { scan with state := .dQuote } }
    else if c = '`' then { state := { scan with state := .bQuote } }
    else if c = '-' ∧ n = '-' then { state := { scan with state := .lineComment }, skip := true }
    else if c = '#' then { state := { scan with state := .lineComment } }
    else if c = '/' ∧ n = '*' then { state := { scan with state := .blockComment }, skip := true }
    else if c = ';' then { state := { scan with sawSeparator := true } }
    else { state := scan, hit := scan.sawSeparator && !isspace c }
  | .sQuote =>
    if c = '\\' then { state := scan, skip := true }
    else if c = '\'' then { state := { scan with state := .normal } }
    else { state := scan }
  | .dQuote =>
    if c = '\\' then { state := scan, skip := true }
    else if c = '"' then { state := { scan with state := .normal } }
    else { state := scan }
  | .bQuote =>
    if c = '`' then { state := { scan with state := .normal } }
    else { state := scan }
  | .lineComment =>
    if c = '\n' then { state := { scan with state := .normal } }
    else { state := scan }
  | .blockComment =>
    if c = '*' ∧ n = '/' then { state := { scan with state := .normal }, skip := true }
    else { state := scan }

/-- The body of `CountPlaceholders`' loop at `c` before `n`. -/
def PlaceholderScan.turn (scan : PlaceholderScan) (c n : Char) : Turn PlaceholderScan :=
  if scan.lineComment then
    if c = '\n' then { state := { scan with lineComment := false } }
    else { state := scan }
  else if scan.blockComment then
    if c = '*' ∧ n = '/' then { state := { scan with blockComment := false }, skip := true }
    else { state := scan }
  else match scan.quote with
    | some quote =>
      if c = '\\' ∧ quote ≠ '`' then { state := scan, skip := true }
      else if c = quote then { state := { scan with quote := none } }
      else { state := scan }
    | none =>
      if c = '-' ∧ n = '-' then { state := { scan with lineComment := true }, skip := true }
      else if c = '#' then { state := { scan with lineComment := true } }
      else if c = '/' ∧ n = '*' then { state := { scan with blockComment := true }, skip := true }
      else if c = '\'' ∨ c = '"' ∨ c = '`' then { state := { scan with quote := some c } }
      else { state := scan, hit := c == '?' }

def statementVisits (sql : String) : List (Visit StatementScan Char) :=
  visits StatementScan.turn (Char.ofNat 0) 0 {} false sql.toList

def placeholderVisits (sql : String) : List (Visit PlaceholderScan Char) :=
  visits PlaceholderScan.turn (Char.ofNat 0) 0 {} false sql.toList

/-- The six lexical contexts, as either loop holds them. No other flags occur. -/
inductive SameContext : ScanState → PlaceholderScan → Prop where
  | code : SameContext .normal {}
  | single : SameContext .sQuote { quote := some '\'' }
  | double : SameContext .dQuote { quote := some '"' }
  | back : SameContext .bQuote { quote := some '`' }
  | line : SameContext .lineComment { lineComment := true }
  | block : SameContext .blockComment { blockComment := true }

attribute [simp] SameContext.code SameContext.single SameContext.double SameContext.back SameContext.line SameContext.block

end OmpMySQL
