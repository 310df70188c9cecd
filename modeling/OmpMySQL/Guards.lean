import OmpMySQL.CLibrary
import OmpMySQL.Query

/-! The policy checks a query passes on the main thread before it reaches a
worker. Text is kept as one character for each byte. -/

namespace OmpMySQL

/-- Limits of zero are off. The window is in milliseconds. -/
structure QueryGuards where
  maxQueryLength : Nat := 1024 * 1024
  maxQueriesPerWindow : Nat := 0
  rateWindow : Nat := 1000
  maxPendingQueries : Int := 0
  deriving DecidableEq, Repr

inductive GuardReject where
  | none
  | unknownHandle
  | tooLong
  | rateLimited
  | tooManyPending
  | multiStatement
  deriving DecidableEq, Repr

def guardRejectText : GuardReject → String
  | .unknownHandle => "invalid connection handle"
  | .tooLong => "query exceeds the configured length limit"
  | .rateLimited => "query rate limit exceeded"
  | .tooManyPending => "too many pending queries"
  | .multiStatement => "multiple statements rejected (CLIENT_MULTI_STATEMENTS not enabled)"
  | .none => "query rejected"

inductive ScanState where
  | normal
  | sQuote
  | dQuote
  | bQuote
  | lineComment
  | blockComment
  deriving DecidableEq, Repr

/-- `isMultiStatement` from the middle of its text. `skip` is a pending `++i`. -/
def scanStatements (state : ScanState) (sawSeparator skip : Bool) : List Char → Bool
  | [] => false
  | c :: rest =>
    let n := rest.head?.getD (Char.ofNat 0)
    if skip then scanStatements state sawSeparator false rest
    else match state with
      | .normal =>
        if c = '\'' then scanStatements .sQuote sawSeparator false rest
        else if c = '"' then scanStatements .dQuote sawSeparator false rest
        else if c = '`' then scanStatements .bQuote sawSeparator false rest
        else if c = '-' ∧ n = '-' then scanStatements .lineComment sawSeparator true rest
        else if c = '#' then scanStatements .lineComment sawSeparator false rest
        else if c = '/' ∧ n = '*' then scanStatements .blockComment sawSeparator true rest
        else if c = ';' then scanStatements .normal true false rest
        else if sawSeparator && !isspace c then true
        else scanStatements .normal sawSeparator false rest
      | .sQuote =>
        if c = '\\' then scanStatements .sQuote sawSeparator true rest
        else if c = '\'' then scanStatements .normal sawSeparator false rest
        else scanStatements .sQuote sawSeparator false rest
      | .dQuote =>
        if c = '\\' then scanStatements .dQuote sawSeparator true rest
        else if c = '"' then scanStatements .normal sawSeparator false rest
        else scanStatements .dQuote sawSeparator false rest
      | .bQuote =>
        if c = '`' then scanStatements .normal sawSeparator false rest
        else scanStatements .bQuote sawSeparator false rest
      | .lineComment =>
        if c = '\n' then scanStatements .normal sawSeparator false rest
        else scanStatements .lineComment sawSeparator false rest
      | .blockComment =>
        if c = '*' ∧ n = '/' then scanStatements .normal sawSeparator true rest
        else scanStatements .blockComment sawSeparator false rest

def isMultiStatement (sql : String) : Bool := scanStatements .normal false false sql.toList

/-- What the component keeps for the checks, by connection handle. Times are in
nanoseconds. -/
structure GuardTable where
  guards : Int → Option QueryGuards := fun _ => none
  multiStatementAllowed : Int → Option Bool := fun _ => none
  rateLog : Int → Option (List Int) := fun _ => none

namespace GuardTable

def allowsMultiStatement (table : GuardTable) (handle : Int) : Bool :=
  (table.multiStatementAllowed handle).getD false

def rateLimit (table : GuardTable) (handle : Int) (g : QueryGuards) (now : Int) : GuardTable × GuardReject :=
  let cutoff := now - 1000000 * g.rateWindow
  -- Looking the log up creates it.
  let recent := ((table.rateLog handle).getD []).dropWhile (· < cutoff)
  let store (log : List Int) : GuardTable :=
    { table with rateLog := fun other => if other = handle then some log else table.rateLog other }
  if g.maxQueriesPerWindow ≤ recent.length then (store recent, .rateLimited)
  else (store (recent ++ [now]), .none)

def checkGuards (table : GuardTable) (job : QueryJob) (pending now : Int) : GuardTable × GuardReject :=
  let handle := job.connectionHandle
  let g := (table.guards handle).getD {}
  -- Looking the limits up creates the default entry.
  let table := { table with guards := fun other => if other = handle then some g else table.guards other }
  if job.statement = none ∧ g.maxQueryLength ≠ 0 ∧ g.maxQueryLength < job.sql.length then (table, .tooLong)
  else if job.statement = none ∧ ¬ table.allowsMultiStatement handle ∧ isMultiStatement job.sql then
    (table, .multiStatement)
  else if g.maxPendingQueries ≠ 0 ∧ g.maxPendingQueries ≤ pending then (table, .tooManyPending)
  else if g.maxQueriesPerWindow ≠ 0 then table.rateLimit handle g now
  else (table, .none)

end GuardTable
end OmpMySQL
