import OmpMySQL.Library.SqlTokens
import OmpMySQL.ModelSql

/-! A model's SQL means what the model says: names and values of any spelling are
read back as they were, in the operation's own pattern, as a single statement. -/

namespace OmpMySQL
open Library.SqlTokens

/-- What a bound variable holds. -/
inductive Value where
  | null
  | int (value : Int)
  | text (value : String)
  deriving DecidableEq, Repr

def keyword (text : String) : Token := .word text.toList

def nameOf (text : String) : Token := .name text.toList

def Value.tokens : Value → List Token
  | .null => [keyword "NULL"]
  | .int value => if value < 0 then [.symbol '-', .number value.natAbs] else [.number value.natAbs]
  | .text value => [.text value.toList]

def Value.ofTokens : List Token → Option Value
  | [.word chars] => if chars = "NULL".toList then some .null else none
  | [.number size] => some (.int size)
  | [.symbol '-', .number size] => some (.int (-size))
  | [.text chars] => some (.text (String.ofList chars))
  | _ => none

/-- No two values have the same tokens. -/
theorem Value.ofTokens_tokens (value : Value) : Value.ofTokens value.tokens = some value := by
  cases value with
  | null => rfl
  | int size =>
    by_cases negative : size < 0
    · have same : -(size.natAbs : Int) = size := by omega
      simp only [Value.tokens, negative, if_true, ofTokens, same]
    · have same : (size.natAbs : Int) = size := by omega
      simp only [Value.tokens, negative, if_false, ofTokens, same]
  | text chars => simp [Value.tokens, ofTokens]

/-- The integer or the string a field is bound to; floats are left aside. -/
def ScriptReader.boundValue (reader : ScriptReader) (memory : Nat → Cell) (f : ModelField) : Value :=
  match f.addr, f.type with
  | some addr, .int => .int (memory addr)
  | some addr, .string => .text (reader.getString memory addr)
  | some _, .float | none, _ => .null

namespace Model

/-- Items with commas between them. -/
def listed (items : List (List Token)) : List Token := [Token.symbol ','].intercalate items

def columnNames (model : Model) : List Token := listed (model.fields.map fun f => [nameOf f.column])

/-- The key column is left out. -/
def assignments (model : Model) (values : List Value) : List Token :=
  listed (((model.fields.zip values).filter (·.1.column ≠ model.key)).map fun pair =>
    nameOf pair.1.column :: .symbol '=' :: pair.2.tokens)

def whereKey (model : Model) (keyValue : Value) : List Token :=
  keyword "WHERE" :: nameOf model.key :: .symbol '=' :: keyValue.tokens

/-- The fixed pattern of an operation. -/
def pattern (model : Model) (op : Int) (values : List Value) (keyValue : Value) : List Token :=
  if op = opFind then
    keyword "SELECT" :: model.columnNames ++ [keyword "FROM", nameOf model.table] ++ model.whereKey keyValue ++
      [keyword "LIMIT", .number 1]
  else if op = opInsert then
    [keyword "INSERT", keyword "INTO", nameOf model.table, .symbol '('] ++ model.columnNames ++
      [.symbol ')', keyword "VALUES", .symbol '('] ++ listed (values.map Value.tokens) ++ [.symbol ')']
  else if op = opUpdate then
    [keyword "UPDATE", nameOf model.table, keyword "SET"] ++ model.assignments values ++ model.whereKey keyValue
  else [keyword "DELETE", keyword "FROM", nameOf model.table] ++ model.whereKey keyValue

/-- The columns an update writes. -/
def updated (model : Model) : List ModelField := model.fields.filter (·.column ≠ model.key)

/-- Whether there is anything to build an operation from. -/
def builds (model : Model) (op : Int) : Bool :=
  if op = opFind then model.key != "" && model.fields != []
  else if op = opInsert then model.fields != []
  else if op = opUpdate then model.key != "" && model.updated != []
  else op == opDelete && model.key != ""

end Model

/-- Scanning for a second statement comes out of the text as it went in. -/
def Passes (text : List Char) : Prop :=
  ∀ rest, scanStatements .normal false false (text ++ rest) = scanStatements .normal false false rest

/-- A text that reads as these tokens and shows the scan no separator. -/
structure Spells (text : List Char) (read : List Token) : Prop where
  reads : Reads text read
  passes : Passes text

/-- The same of a text after which anything may follow. -/
structure Leads (text : List Char) (read : List Token) : Prop where
  closes : Closes text read
  passes : Passes text

section Composition
variable {text more : List Char} {read next : List Token}

theorem Passes.append (first : Passes text) (second : Passes more) : Passes (text ++ more) := by
  intro rest
  rw [List.append_assoc, first, second]

theorem Leads.append (leads : Leads text read) (spells : Spells more next) : Spells (text ++ more) (read ++ next) :=
  ⟨leads.closes.reads_append spells.reads, leads.passes.append spells.passes⟩

theorem Leads.spells (leads : Leads text read) : Spells text read := ⟨leads.closes.reads, leads.passes⟩

theorem Spells.leads {char : Char} (spells : Spells text read) (leads : Leads more next)
    (starts : more.head? = some char) (boundary : Boundary char) : Leads (text ++ more) (read ++ next) := by
  obtain ⟨rest, rfl⟩ := List.head?_eq_some_iff.mp starts
  exact ⟨spells.reads.closes_append boundary leads.closes, spells.passes.append leads.passes⟩

def isPlain (char : Char) : Bool := char ∉ ['\'', '"', '`', '-', '#', '/', ';']

theorem passes_plain {text : List Char} (plain : text.all isPlain = true) : Passes text := by
  induction text with
  | nil => exact fun _ => rfl
  | cons char rest ih =>
    simp only [List.all_cons, Bool.and_eq_true] at plain
    have continued := ih plain.2
    intro beyond
    have here := plain.1
    simp only [isPlain, List.mem_cons, List.not_mem_nil, not_or, decide_eq_true_eq] at here
    simp only [List.cons_append, scanStatements, here, false_and, if_false, Bool.false_and, Bool.false_eq_true]
    exact continued beyond

theorem boundary_blank : Boundary ' ' := by decide

theorem boundary_comma : Boundary ',' := by decide

theorem boundary_closing : Boundary ')' := by decide

/-- The fixed parts of a text. -/
theorem leads_plain (closed : Closes text read) (plain : text.all isPlain = true) : Leads text read :=
  ⟨closed, passes_plain plain⟩

theorem plain_of_digit {char : Char} (digit : char.isDigit = true) : isPlain char = true := by
  have apart : ∀ other : Char, other.isDigit = false → char ≠ other := by
    intro other letter same
    rw [same, letter] at digit
    cases digit
  simp only [isPlain, List.mem_cons, List.not_mem_nil, or_false, not_or, decide_eq_true_eq]
  exact ⟨apart _ rfl, apart _ rfl, apart _ rfl, apart _ rfl, apart _ rfl, apart _ rfl, apart _ rfl⟩

theorem digits_plain (value : Nat) : (Nat.toDigits 10 value).all isPlain = true :=
  List.all_eq_true.mpr fun char present => plain_of_digit (toDigits_numeric value char present)

theorem spells_number (value : Nat) : Spells (Nat.toDigits 10 value) [.number value] :=
  ⟨reads_number value, passes_plain (digits_plain value)⟩

/-- A single dash opens no comment. -/
theorem spells_negative (value : Nat) : Spells ('-' :: Nat.toDigits 10 value) [.symbol '-', .number value] := by
  refine ⟨reads_negative value, ?_⟩
  intro rest
  have digits := passes_plain (digits_plain value) rest
  obtain ⟨char, more, same⟩ := List.exists_cons_of_ne_nil (Nat.toDigits_ne_nil (n := value) (b := 10))
  have plain := digits_plain value
  rw [same] at plain digits ⊢
  have undashed : char ≠ '-' := by
    intro dash
    subst dash
    simp [isPlain] at plain
  simpa [scanStatements, undashed] using digits

theorem scan_name (name rest : List Char) :
    scanStatements .bQuote false false (quoteName name ++ '`' :: rest) = scanStatements .normal false false rest := by
  induction name with
  | nil => simp [quoteName, scanStatements]
  | cons char name ih =>
    rw [quoteName, List.flatMap_cons, ← quoteName]
    by_cases tick : char = '`'
    · -- The scan takes a doubled backtick for the end of one name and the start of another.
      subst tick
      simpa [scanStatements] using ih
    · simpa [scanStatements, tick] using ih

theorem spells_ident (name : String) : Spells (ident name).toList [nameOf name] := by
  have text : (ident name).toList = '`' :: quoteName name.toList ++ ['`'] := by
    simp only [ident, String.toList_append, String.toList_ofList]
    rfl
  rw [text]
  refine ⟨reads_name name.toList, ?_⟩
  intro rest
  have scanned := scan_name name.toList rest
  simpa [scanStatements] using scanned

theorem scan_literal {body value : List Char} (denotes : literal '\'' body = some value) (rest : List Char) :
    scanStatements .sQuote false false (body ++ '\'' :: rest) = scanStatements .normal false false rest := by
  induction body using literal.induct '\'' generalizing value with
  | case1 => simp [scanStatements]
  | case2 char bad => simp [literal, bad] at denotes
  | case3 char good =>
    simp only [not_or] at good
    simp [scanStatements, good]
  | case4 next more ih =>
    simp only [literal, if_true, Option.map_eq_some_iff] at denotes
    obtain ⟨value, denotes, _⟩ := denotes
    simpa [scanStatements] using ih denotes
  | case5 more plain ih =>
    simp only [literal, plain, if_false, if_true, Option.map_eq_some_iff] at denotes
    obtain ⟨value, denotes, _⟩ := denotes
    simpa [scanStatements] using ih denotes
  | case6 next more plain other => simp [literal, plain, other] at denotes
  | case7 char next more unescaped unquoted ih =>
    simp only [literal, unescaped, unquoted, if_false, Option.map_eq_some_iff] at denotes
    obtain ⟨value, denotes, _⟩ := denotes
    simpa [scanStatements, unescaped, unquoted] using ih denotes

theorem spells_literal {body value : List Char} (denotes : literal '\'' body = some value) :
    Spells ('\'' :: body ++ ['\'']) [.text value] := by
  refine ⟨reads_text denotes, ?_⟩
  intro rest
  have scanned := scan_literal denotes rest
  simpa [scanStatements] using scanned

theorem spells_list {pieces : List (List Char × List Token)} (some_piece : pieces ≠ [])
    (spells : ∀ piece ∈ pieces, Spells piece.1 piece.2) :
    Spells ([',', ' '].intercalate (pieces.map Prod.fst)) (Model.listed (pieces.map Prod.snd)) := by
  induction pieces with
  | nil => exact absurd rfl some_piece
  | cons piece rest ih =>
    have first := spells piece List.mem_cons_self
    cases rest with
    | nil => simpa [Model.listed] using first
    | cons next rest =>
      have more := ih (by simp) (fun piece present => spells piece (List.mem_cons_of_mem _ present))
      have comma : Leads [',', ' '] [.symbol ','] := leads_plain rfl rfl
      have listed := (first.leads comma rfl boundary_comma).append more
      simpa [Model.listed, List.intercalate] using listed

end Composition

section Built
variable {reader : ScriptReader} {escape : String → String}

/-- What an escaped text between single quotes denotes is the text. -/
def Escapes (escape : String → String) : Prop :=
  ∀ text, literal '\'' (escape text).toList = some text.toList

theorem spells_int (value : Int) : Spells (toString value).toList (Value.int value).tokens := by
  rw [toString_toList, Value.tokens]
  by_cases negative : value < 0
  · rw [if_pos negative, if_pos negative]
    exact spells_negative value.natAbs
  · rw [if_neg negative, if_neg negative]
    exact spells_number value.natAbs

theorem spells_null : Spells "NULL".toList Value.null.tokens := by
  have letters : ['N', 'U', 'L', 'L'].all isWordChar = true := rfl
  have word : Reads "NULL".toList [keyword "NULL"] := reads_word (List.all_eq_true.mp letters)
  exact ⟨word, passes_plain rfl⟩

theorem spells_field (escapes : Escapes escape) (memory : Nat → Cell)
    {f : ModelField} (whole : f.type ≠ .float) :
    Spells (reader.modelFieldLiteral memory (some escape) f).toList (reader.boundValue memory f).tokens := by
  unfold ScriptReader.modelFieldLiteral ScriptReader.boundValue
  cases f.addr with
  | none => exact spells_null
  | some addr =>
    cases type : f.type with
    | int => exact spells_int _
    | float => exact absurd type whole
    | string =>
      have spelled := spells_literal (escapes (reader.getString memory addr))
      simpa [Value.tokens] using spelled

/-- `text ++ " WHERE " ++ ident key ++ " = " ++ keyText`. -/
theorem Spells.whereKey {text : List Char} {read : List Token} (spells : Spells text read) (model : Model)
    {keyText : String} {keyValue : Value} (keySpells : Spells keyText.toList keyValue.tokens) :
    Spells (text ++ " WHERE ".toList ++ (ident model.key).toList ++ " = ".toList ++ keyText.toList)
      (read ++ model.whereKey keyValue) := by
  have clause : Leads " WHERE ".toList [keyword "WHERE"] := leads_plain rfl rfl
  have equals : Leads " = ".toList [.symbol '='] := leads_plain rfl rfl
  have named := (spells.leads clause rfl boundary_blank).append (spells_ident model.key)
  have whole := (named.leads equals rfl boundary_blank).append keySpells
  simpa [Model.whereKey] using whole

theorem spells_columns (model : Model) (bound : model.fields ≠ []) :
    Spells (", ".intercalate (model.fields.map (ident ·.column))).toList model.columnNames := by
  let pieces := model.fields.map fun f => ((ident f.column).toList, [nameOf f.column])
  have each : ∀ piece ∈ pieces, Spells piece.1 piece.2 := by
    intro piece present
    obtain ⟨f, _, rfl⟩ := List.mem_map.mp present
    dsimp only
    exact spells_ident f.column
  have listed := spells_list (by simpa [pieces] using bound) each
  simpa [pieces, Model.columnNames, String.toList_intercalate, Function.comp_def] using listed

theorem spells_find (model : Model) (keyed : model.key ≠ "") (bound : model.fields ≠ []) {keyText : String}
    {keyValue : Value} (keySpells : Spells keyText.toList keyValue.tokens) :
    Spells (model.buildFind keyText).toList
      (keyword "SELECT" :: model.columnNames ++ [keyword "FROM", nameOf model.table] ++ model.whereKey keyValue ++
        [keyword "LIMIT", .number 1]) := by
  have select : Leads "SELECT ".toList [keyword "SELECT"] := leads_plain rfl rfl
  have source : Leads " FROM ".toList [keyword "FROM"] := leads_plain rfl rfl
  have limit : Leads " LIMIT ".toList [keyword "LIMIT"] := leads_plain rfl rfl
  have one : Spells "1".toList [.number 1] := spells_number 1
  have columns := select.append (spells_columns model bound)
  have table := (columns.leads source rfl boundary_blank).append (spells_ident model.table)
  have filtered := table.whereKey model keySpells
  have whole := (filtered.leads limit rfl boundary_blank).append one
  simpa [Model.buildFind, keyed, bound] using whole

theorem spells_values {memory : Nat → Cell} {fields : List ModelField} (bound : fields ≠ [])
    (escapes : Escapes escape) (whole : ∀ f ∈ fields, f.type ≠ .float) :
    Spells (", ".intercalate (fields.map (reader.modelFieldLiteral memory (some escape)))).toList
      (Model.listed ((fields.map (reader.boundValue memory)).map Value.tokens)) := by
  let pieces := fields.map fun f =>
    ((reader.modelFieldLiteral memory (some escape) f).toList, (reader.boundValue memory f).tokens)
  have each : ∀ piece ∈ pieces, Spells piece.1 piece.2 := by
    intro piece present
    obtain ⟨f, member, rfl⟩ := List.mem_map.mp present
    exact spells_field escapes memory (whole f member)
  have listed := spells_list (by simpa [pieces] using bound) each
  simpa [pieces, String.toList_intercalate, Function.comp_def] using listed

theorem spells_insert (model : Model) (bound : model.fields ≠ []) (memory : Nat → Cell)
    (escapes : Escapes escape) (whole : ∀ f ∈ model.fields, f.type ≠ .float) :
    Spells (model.buildInsert (model.fields.map (reader.modelFieldLiteral memory (some escape)))).toList
      ([keyword "INSERT", keyword "INTO", nameOf model.table, .symbol '('] ++ model.columnNames ++
        [.symbol ')', keyword "VALUES", .symbol '('] ++
        Model.listed ((model.fields.map (reader.boundValue memory)).map Value.tokens) ++ [.symbol ')']) := by
  have insert : Leads "INSERT INTO ".toList [keyword "INSERT", keyword "INTO"] := leads_plain rfl rfl
  have opening : Leads " (".toList [.symbol '('] := leads_plain rfl rfl
  have middle : Leads ") VALUES (".toList [.symbol ')', keyword "VALUES", .symbol '('] :=
    leads_plain rfl rfl
  have closing : Leads ")".toList [.symbol ')'] := leads_plain rfl rfl
  have table := insert.append (spells_ident model.table)
  have columns := (table.leads opening rfl boundary_blank).append (spells_columns model bound)
  have values := (columns.leads middle rfl boundary_closing).append (@spells_values reader _ memory _ bound escapes whole)
  have whole := (values.leads closing rfl boundary_closing).spells
  simpa [Model.buildInsert, bound] using whole

theorem updated_pairs {α : Type} (model : Model) (value : ModelField → α) :
    (model.fields.zip (model.fields.map value)).filter (·.1.column ≠ model.key) =
      model.updated.map fun f => (f, value f) := by
  rw [← List.map_prod_left_eq_zip, List.filter_map]
  rfl

theorem spells_assignments (model : Model) (memory : Nat → Cell)
    (escapes : Escapes escape) (whole : ∀ f ∈ model.fields, f.type ≠ .float)
    (written : model.updated ≠ []) :
    Spells (", ".intercalate (model.updated.map fun f =>
        ident f.column ++ " = " ++ reader.modelFieldLiteral memory (some escape) f)).toList
      (model.assignments (model.fields.map (reader.boundValue memory))) := by
  let pieces := model.updated.map fun f =>
    ((ident f.column ++ " = " ++ reader.modelFieldLiteral memory (some escape) f).toList,
      nameOf f.column :: .symbol '=' :: (reader.boundValue memory f).tokens)
  have each : ∀ piece ∈ pieces, Spells piece.1 piece.2 := by
    intro piece present
    obtain ⟨f, member, rfl⟩ := List.mem_map.mp present
    have equals : Leads " = ".toList [.symbol '='] := leads_plain rfl rfl
    have value := @spells_field reader escape escapes memory f (whole f (List.mem_filter.mp member).1)
    simpa using ((spells_ident f.column).leads equals rfl boundary_blank).append value
  have listed := spells_list (by simpa [pieces] using written) each
  rw [Model.assignments, updated_pairs]
  simpa [pieces, String.toList_intercalate, Function.comp_def] using listed

theorem spells_update (model : Model) (keyed : model.key ≠ "") (memory : Nat → Cell)
    (escapes : Escapes escape) (whole : ∀ f ∈ model.fields, f.type ≠ .float)
    (written : model.updated ≠ []) {keyText : String} {keyValue : Value}
    (keySpells : Spells keyText.toList keyValue.tokens) :
    Spells (model.buildUpdate (model.fields.map (reader.modelFieldLiteral memory (some escape))) keyText).toList
      ([keyword "UPDATE", nameOf model.table, keyword "SET"] ++
        model.assignments (model.fields.map (reader.boundValue memory)) ++ model.whereKey keyValue) := by
  have bound : model.fields ≠ [] := by
    intro none_bound
    exact written (by simp [Model.updated, none_bound])
  have update : Leads "UPDATE ".toList [keyword "UPDATE"] := leads_plain rfl rfl
  have set : Leads " SET ".toList [keyword "SET"] := leads_plain rfl rfl
  have table := update.append (spells_ident model.table)
  have assigned := (table.leads set rfl boundary_blank).append
    (@spells_assignments reader escape model memory escapes whole written)
  have filtered := assigned.whereKey model keySpells
  have some_set : ", ".intercalate (model.updated.map fun f =>
      ident f.column ++ " = " ++ reader.modelFieldLiteral memory (some escape) f) ≠ "" := by
    obtain ⟨f, rest, same⟩ := List.exists_cons_of_ne_nil written
    intro empty
    have blank := congrArg String.toList empty
    rw [same, String.toList_intercalate] at blank
    cases rest <;> simp [List.intercalate, ident] at blank
  have built : model.buildUpdate (model.fields.map (reader.modelFieldLiteral memory (some escape))) keyText =
      "UPDATE " ++ ident model.table ++ " SET " ++ ", ".intercalate (model.updated.map fun f =>
        ident f.column ++ " = " ++ reader.modelFieldLiteral memory (some escape) f) ++
        " WHERE " ++ ident model.key ++ " = " ++ keyText := by
    rw [Model.buildUpdate, if_neg (by simp [keyed, bound]), updated_pairs]
    simp only [List.map_map, Function.comp_def]
    exact if_neg some_set
  rw [built]
  simpa using filtered

theorem update_nothing (model : Model) (literal : ModelField → String) (keyText : String)
    (nothing : model.key = "" ∨ model.updated = []) : model.buildUpdate (model.fields.map literal) keyText = "" := by
  rw [Model.buildUpdate]
  split
  next => rfl
  next able =>
    have keyed : model.key ≠ "" := fun unkeyed => able (Or.inl unkeyed)
    rw [updated_pairs, nothing.resolve_left keyed]
    rfl

theorem spells_delete (model : Model) (keyed : model.key ≠ "") {keyText : String} {keyValue : Value}
    (keySpells : Spells keyText.toList keyValue.tokens) :
    Spells (model.buildDelete keyText).toList
      ([keyword "DELETE", keyword "FROM", nameOf model.table] ++ model.whereKey keyValue) := by
  have delete : Leads "DELETE FROM ".toList [keyword "DELETE", keyword "FROM"] := leads_plain rfl rfl
  have table := delete.append (spells_ident model.table)
  have whole := table.whereKey model keySpells
  simpa [Model.buildDelete, keyed] using whole

theorem spells_key (escapes : Escapes escape) (memory : Nat → Cell)
    {m : Model} (whole : ∀ f ∈ m.fields, f.type ≠ .float) :
    Spells (match m.keyField with
      | some kf => reader.modelFieldLiteral memory (some escape) kf
      | none => "NULL").toList ((m.keyField.map (reader.boundValue memory)).getD .null).tokens := by
  cases key : m.keyField with
  | none => exact spells_null
  | some kf =>
    apply spells_field escapes memory
    apply whole
    unfold Model.keyField at key
    split at key
    next => cases key
    next => exact List.mem_of_find?_eq_some key

/-- An operation that can be built reads as its pattern; any other has no text. -/
theorem spells_modelSql (escapes : Escapes escape) (memory : Nat → Cell)
    {m : Model} (whole : ∀ f ∈ m.fields, f.type ≠ .float) (op : Int) :
    if m.builds op then
      Spells (reader.modelSql memory (some escape) m op).toList
        (m.pattern op (m.fields.map (reader.boundValue memory)) ((m.keyField.map (reader.boundValue memory)).getD .null))
    else reader.modelSql memory (some escape) m op = "" := by
  have key := @spells_key reader escape escapes memory m whole
  unfold ScriptReader.modelSql Model.pattern Model.builds
  by_cases find : op = Model.opFind
  · simp only [if_pos find, Bool.and_eq_true, bne_iff_ne, ne_eq]
    split
    next able => exact spells_find m able.1 able.2 key
    next unable => exact if_pos (by tauto)
  by_cases insert : op = Model.opInsert
  · simp only [if_neg find, if_pos insert, bne_iff_ne, ne_eq]
    split
    next bound => exact spells_insert m bound memory escapes whole
    next unbound => exact if_pos (by tauto)
  by_cases update : op = Model.opUpdate
  · simp only [if_neg find, if_neg insert, if_pos update, Bool.and_eq_true, bne_iff_ne, ne_eq]
    split
    next able => exact spells_update m able.1 memory escapes whole able.2 key
    next unable => exact update_nothing m _ _ (by tauto)
  by_cases delete : op = Model.opDelete
  · simp only [if_neg find, if_neg insert, if_neg update, if_pos delete, Bool.and_eq_true, beq_iff_eq, bne_iff_ne, ne_eq]
    split
    next able => exact spells_delete m able.2 key
    next unable => exact if_pos (by tauto)
  · simp [find, insert, update, delete]

theorem pattern_ne_nil (m : Model) (op : Int) (values : List Value) (keyValue : Value) :
    m.pattern op values keyValue ≠ [] := by
  rw [Model.pattern]
  split_ifs <;> simp

/-- The text a model operation sends, and what the server makes of it. -/
structure FaithfulText (m : Model) (op : Int) (values : List Value) (keyValue : Value) (sql : String) : Prop where
  tokens : tokens sql.toList = some (m.pattern op values keyValue)
  single : isMultiStatement sql = false

theorem Spells.faithful {m : Model} {op : Int} {values : List Value} {keyValue : Value} {sql : String}
    (spells : Spells sql.toList (m.pattern op values keyValue)) : FaithfulText m op values keyValue sql where
  tokens := spells.reads.tokens
  single := by
    have scanned := spells.passes []
    rw [List.append_nil] at scanned
    exact scanned

/-- What an operation sends. -/
theorem modelExecute_sent {escape : Nat → String → String} (escapes : ∀ conn, Escapes (escape conn))
    {component : Component} {registry : Connections} {handle : Int} {m : Model} {conn : Nat}
    (found : component.models handle = some m) (live : registry.getConnection m.connectionHandle = some conn)
    (whole : ∀ f ∈ m.fields, f.type ≠ .float) (op : Int) (callback : String) (args : List CallbackArg) :
    (modelExecute reader escape component registry handle op callback args).2 =
      if m.builds op then
        some
          { connectionHandle := m.connectionHandle, sql := reader.modelSql component.memory (some (escape conn)) m op,
            modelHandle := handle, modelOp := op, callback, args }
      else none := by
  have text := @spells_modelSql reader (escape conn) (escapes conn) component.memory m whole op
  simp only [modelExecute, found, live]
  by_cases able : m.builds op = true
  · rw [if_pos able] at text
    have some_text : reader.modelSql component.memory (some (escape conn)) m op ≠ "" := by
      intro empty
      rw [empty] at text
      exact pattern_ne_nil m op _ _ (Option.some.inj text.reads.tokens).symm
    rw [if_pos able, if_neg some_text]
  · rw [if_neg able] at text
    rw [if_neg able, if_pos text]

/-- A model operation sends nothing, or the operation's own pattern with the model's
names and values in it, however these are spelled. -/
theorem model_sql_faithful (reader : ScriptReader) (escape : Nat → String → String)
    (escapes : ∀ conn text, literal '\'' (escape conn text).toList = some text.toList)
    (component : Component) (registry : Connections) (modelHandle op : Int) (callback : String)
    (args : List CallbackArg) (m : Model) (conn : Nat) (found : component.models modelHandle = some m)
    (live : registry.getConnection m.connectionHandle = some conn) (whole : ∀ f ∈ m.fields, f.type ≠ .float) :
    let sent := (modelExecute reader escape component registry modelHandle op callback args).2
    let value := reader.boundValue component.memory
    if m.builds op then
      ∃ job, sent = some job ∧
        FaithfulText m op (m.fields.map value) ((m.keyField.map value).getD .null) job.sql
    else sent = none := by
  have text := @spells_modelSql reader (escape conn) (escapes conn) component.memory m whole op
  have sends := @modelExecute_sent reader escape escapes _ _ _ _ _ found live whole op callback args
  intro sent value
  split
  next able =>
    rw [if_pos able] at text sends
    exact ⟨_, sends, text.faithful⟩
  next unable =>
    rw [if_neg unable] at sends
    exact sends

end Built

section Quoting

/-- The escapes of `mysql_real_escape_string`. -/
def escapeChar (char : Char) : List Char :=
  if char = '\'' ∨ char = '"' ∨ char = '\\' then ['\\', char]
  else if char = '\n' then ['\\', 'n']
  else if char = '\r' then ['\\', 'r']
  else if char = Char.ofNat 0 then ['\\', '0']
  else if char = Char.ofNat 26 then ['\\', 'Z']
  else [char]

def backslashes (text : String) : String := String.ofList (text.toList.flatMap escapeChar)

private theorem literal_plain {char : Char} (rest : List Char) (unescaped : char ≠ '\\') (unquoted : char ≠ '\'') :
    literal '\'' (char :: rest) = (literal '\'' rest).map (char :: ·) := by
  cases rest <;> simp [literal, unescaped, unquoted]

private theorem literal_escapeChar (char : Char) (rest : List Char) :
    literal '\'' (escapeChar char ++ rest) = (literal '\'' rest).map (char :: ·) := by
  rw [escapeChar]
  split_ifs with special newline cr zero substitute
  · rcases special with rfl | rfl | rfl <;> rfl
  · subst newline
    rfl
  · subst cr
    rfl
  · subst zero
    rfl
  · subst substitute
    rfl
  · exact literal_plain rest (fun same => special (Or.inr (Or.inr same))) (fun same => special (Or.inl same))

theorem literal_backslashes (text : String) : literal '\'' (backslashes text).toList = some text.toList := by
  rw [backslashes, String.toList_ofList]
  induction text.toList with
  | nil => rfl
  | cons char rest ih =>
    rw [List.flatMap_cons, literal_escapeChar, ih]
    rfl

/-- A script whose variable at 40 holds text. -/
private def reader : ScriptReader := ⟨fun _ addr => if addr = 40 then "x'; DROP TABLE a; -- " else "", fun _ => "0.000000"⟩

private def players : Model :=
  { connectionHandle := 1, table := "pla`yers", key := "id"
    fields := [{ column := "id", addr := some 8 }, { column := "na;me", type := .string, addr := some 40, maxlen := 24 }] }

private def host : Component := { models := fun _ => some players, memory := fun _ => -5 }

private def connected : Connections := ((({} : Connections).addConnection (some 3) false).1)

theorem model_sql_faithful_quoted : ∃ job,
    (modelExecute reader (fun _ => backslashes) host connected 1 Model.opUpdate "" []).2 = some job ∧
      FaithfulText players Model.opUpdate [.int (-5), .text "x'; DROP TABLE a; -- "] (.int (-5)) job.sql := by
  have sent := model_sql_faithful reader (fun _ => backslashes) (fun _ => literal_backslashes) host connected 1
    Model.opUpdate "" [] players 3 rfl (by decide) (by decide)
  have able : players.builds Model.opUpdate = true := by decide
  rw [able, if_pos rfl] at sent
  exact sent

end Quoting
end OmpMySQL
