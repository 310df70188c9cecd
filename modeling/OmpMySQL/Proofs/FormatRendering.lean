import OmpMySQL.Natives
import OmpMySQL.Proofs.ScriptText

/-! What `mysql_format` makes of its format. The loop looks one character ahead, so the
format is read into pieces first and the loop is compared with them. -/

namespace OmpMySQL

inductive FormatPiece where
  | plain (char : Char)
  | percent
  | directive (spec : Char)
  | lone
  deriving DecidableEq, Repr

namespace FormatPiece

/-- The pieces of a format. Only the last one can be a lone percent sign. -/
def parse : List Char → List FormatPiece
  | [] => []
  | [char] => if char = '%' then [lone] else [plain char]
  | char :: spec :: rest =>
    if char = '%' then if spec = '%' then percent :: parse rest else directive spec :: parse rest
    else plain char :: parse (spec :: rest)

def isSpecifier (spec : Char) : Bool := spec ∈ ['d', 'i', 'f', 's', 'e', 'q']

def consumes : FormatPiece → Bool
  | directive spec => isSpecifier spec
  | plain _ | percent | lone => false

variable (formatValue : Char → Cell → Option (List Char))

/-- What a piece stands for in the output when this value, if any, is the next one. -/
def render (next : Option Cell) : FormatPiece → List Char
  | plain char => [char]
  | percent => ['%']
  | directive spec => (next.bind (formatValue spec)).getD ['%', spec]
  | lone => ['%']

/-- Each specifier gets the value at its own place among the specifiers. -/
def expected (pieces : List FormatPiece) (values : List Cell) : List Char :=
  (pieces.mapIdx fun i piece => piece.render formatValue values[(pieces.take i).countP consumes]?).flatten

variable {formatValue}

theorem expected_cons (piece : FormatPiece) (pieces : List FormatPiece) (values : List Cell) :
    expected formatValue (piece :: pieces) values =
      piece.render formatValue values[0]? ++
        expected formatValue pieces (if piece.consumes then values.drop 1 else values) := by
  rw [expected, List.mapIdx_cons, List.flatten_cons, expected, List.take_zero, List.countP_nil]
  congr 3
  funext i later
  rw [List.take_succ_cons, List.countP_cons]
  by_cases takes : piece.consumes
  · simp only [takes, if_true, List.getElem?_drop, Nat.add_comm]
  · simp only [takes, if_false, Bool.false_eq_true, Nat.add_zero]

end FormatPiece

open FormatPiece

section
variable {formatValue : Char → Cell → Option (List Char)}

/-- The loop renders the pieces one after the other, but for a lone percent sign. -/
theorem expected_eq (known : ∀ spec value, (formatValue spec value).isSome = isSpecifier spec) (format : List Char)
    (values : List Cell) :
    expected formatValue (parse format) values =
      formatLoop formatValue format values ++ if lone ∈ parse format then ['%'] else [] := by
  induction format using parse.induct generalizing values with
  | case1 => rfl
  | case2 => rfl
  | case3 char plain => simp [parse, plain, formatLoop, expected, render]
  | case4 rest ih =>
    have later := ih values
    simp only [parse, if_true, expected_cons, render, consumes, Bool.false_eq_true, if_false, later, formatLoop, ne_eq,
      not_true_eq_false, List.mem_cons, reduceCtorEq, false_or, List.cons_append, List.nil_append]
  | case5 spec rest other ih =>
    simp only [parse, if_true, if_neg other, expected_cons, render, consumes, formatLoop, ne_eq, not_true_eq_false,
      if_false, List.mem_cons, reduceCtorEq, false_or]
    cases values with
    | nil => simp [ih]
    | cons value others =>
      have takes := known spec value
      cases text : formatValue spec value with
      | none =>
        rw [text, Option.isSome_none] at takes
        simp [text, ← takes, ih]
      | some text' =>
        rw [text, Option.isSome_some] at takes
        simp [text, ← takes, ih]
  | case6 char spec rest plain ih =>
    simp only [parse, expected_cons, render, consumes, Bool.false_eq_true, if_false, ih, formatLoop, ne_eq,
      plain, not_false_eq_true, if_true, List.mem_cons, reduceCtorEq, false_or, List.cons_append, List.nil_append]

end

namespace NativeCall
variable (reader : ScriptReader) (registry : Connections) (mysql : Nat → Option (String → String)) (call : NativeCall)

theorem formatValue_isSome (escape : String → String) (spec : Char) (value : Cell) :
    (call.formatValue reader escape spec value).isSome = isSpecifier spec := by
  simp only [formatValue, apply_ite Option.isSome, Option.isSome_some, Option.isSome_none, isSpecifier]
  grind

/-- A number that a native takes is one cell of the script. -/
theorem toCell_cell (value : Cell) : toCell (call.cell value) = call.cell value := by
  rw [cell]
  cases call.getAddr value with
  | none => rfl
  | some addr => exact call.cells addr

/-- The pieces of the format that the native is given. -/
def formatPieces : List FormatPiece := parse (call.amxStringParam reader (call.param 4)).toList

/-- The text `mysql_format` is documented to produce. -/
def expectedText : List Char :=
  expected (call.formatValue reader (escapeFor registry mysql (call.param 1))) (call.formatPieces reader)
    (call.params.drop 4)

end NativeCall

/-- There is room for the text and its terminator, and the text does not end before its end. -/
def FitsString (text : List Char) (maxlen : Int) : Prop := (text.length : Int) < maxlen ∧ Char.ofNat 0 ∉ text

instance (text : List Char) (maxlen : Int) : Decidable (FitsString text maxlen) := inferInstanceAs (Decidable (_ ∧ _))

section
variable {reader : ScriptReader} {registry : Connections} {mysql : Nat → Option (String → String)} {call : NativeCall}

theorem writeAmxString_holds {dest : Cell} {maxlen : Int} {addr : Nat} {text : List Char}
    (valid : call.getAddr dest = some addr) (fits : FitsString text maxlen) :
    HoldsText (call.writeAmxString dest (String.ofList text) maxlen) addr text := by
  obtain ⟨short, whole⟩ := fits
  have positive : ¬ maxlen ≤ 0 := by omega
  have room : (String.ofList text).length < maxlen.toNat := by
    rw [String.length_ofList]
    omega
  have free : NulFree (String.ofList text) := by rwa [NulFree, String.toList_ofList]
  have written := Component.setString_holds { memory := call.memory } addr room
  rw [(cString_eq_iff _).mpr free, String.toList_ofList] at written
  rw [NativeCall.writeAmxString, valid]
  dsimp only
  rwa [if_neg positive]

/-- The output is the rendered format exactly when no percent sign stands alone at its end. -/
theorem format_renders_iff {addr : Nat} (count : 4 ≤ call.params.length)
    (valid : call.getAddr (call.param 2) = some addr)
    (fits : FitsString (call.expectedText reader registry mysql) (call.param 3)) :
    HoldsText (call.mysqlFormat reader registry mysql).1 addr (call.expectedText reader registry mysql) ↔
      lone ∉ call.formatPieces reader := by
  have parts : call.expectedText reader registry mysql =
      call.formatted reader registry mysql ++ if lone ∈ call.formatPieces reader then ['%'] else [] :=
    expected_eq (call.formatValue_isSome reader _) _ _
  have written : (call.mysqlFormat reader registry mysql).1 =
      call.writeAmxString (call.param 2) (String.ofList (call.formatted reader registry mysql)) (call.param 3) := by
    rw [NativeCall.mysqlFormat, if_neg (Nat.not_lt.mpr count)]
  have shorter : FitsString (call.formatted reader registry mysql) (call.param 3) := by
    obtain ⟨room, whole⟩ := fits
    rw [parts] at room whole
    rw [List.length_append] at room
    exact ⟨by omega, fun inside => whole (List.mem_append_left _ inside)⟩
  have held := writeAmxString_holds valid shorter
  rw [written]
  constructor
  · intro right last
    have same := right.unique held fits.2 shorter.2
    rw [if_pos last] at parts
    rw [same] at parts
    simp at parts
  · intro complete
    rw [if_neg complete, List.append_nil] at parts
    rw [parts]
    exact held

end

/-- A call with room for 64 cells at 100, the format at 200 and a text at 300. -/
def formatCall (handle : Cell) (format text : List Char) (values : List Cell) : NativeCall where
  params := [handle, 100, 64, 200] ++ values
  getAddr param := some param.toNat
  memory addr :=
    toCell
      (if addr < 200 then 7
      else if addr < 300 then (format.map fun char => (char.toNat : Int)).getD (addr - 200) 0
      else (text.map fun char => (char.toNat : Int)).getD (addr - 300) 0)
  cells _ := Int.bmod_bmod

theorem format_renders_plain :
    HoldsText ((formatCall 1 ['%', 'd'] [] [10]).mysqlFormat shortReader {} (fun _ => none)).1 100
        ((formatCall 1 ['%', 'd'] [] [10]).expectedText shortReader {} (fun _ => none)) ↔
      lone ∉ (formatCall 1 ['%', 'd'] [] [10]).formatPieces shortReader :=
  format_renders_iff (by decide) rfl (by decide)

/-- `100%` loses its percent sign. -/
theorem percent_dropped : ¬ ∀ (call : NativeCall) (addr : Nat), 4 ≤ call.params.length →
    call.getAddr (call.param 2) = some addr →
    FitsString (call.expectedText shortReader {} (fun _ => none)) (call.param 3) →
    HoldsText (call.mysqlFormat shortReader {} (fun _ => none)).1 addr (call.expectedText shortReader {} (fun _ => none)) := by
  intro renders
  have output := renders (formatCall 1 ['1', '0', '0', '%'] [] []) 100 (by decide) rfl (by decide)
  exact absurd output (by decide)

end OmpMySQL
