import OmpMySQL.Proofs.ScriptText
import OmpMySQL.ServerRows

/-! What the server reads in the statements of a model: the columns, the values and the
condition that the model meant. -/

namespace OmpMySQL
open Library.SqlTokens

section Words
variable {word : String} {text rest : List Token}

theorem upToWord_append (other : keyword word ∉ text) : upToWord word (text ++ keyword word :: rest) = text := by
  rw [upToWord, List.takeWhile_append_of_pos]
  · simp
  · intro token inside
    exact decide_eq_true (fun same => other (same ▸ inside))

theorem afterWord_append (other : keyword word ∉ text) : afterWord word (text ++ keyword word :: rest) = rest := by
  rw [afterWord, List.dropWhile_append_of_pos]
  · simp
  · intro token inside
    exact decide_eq_true (fun same => other (same ▸ inside))

theorem mem_listed {token : Token} {items : List (List Token)} (inside : token ∈ Model.listed items) :
    token = .symbol ',' ∨ ∃ item ∈ items, token ∈ item := mem_intercalate inside

theorem mapM_eq_some {α β γ : Type} {read : β → Option γ} {items : List α} {spell : α → β} {value : α → γ}
    (each : ∀ item ∈ items, read (spell item) = some (value item)) :
    (items.map spell).mapM read = some (items.map value) := by
  induction items with
  | nil => rfl
  | cons item items ih =>
    have tail := ih (fun other member => each other (List.mem_cons_of_mem _ member))
    rw [List.map_cons, List.mapM_cons, each item List.mem_cons_self, tail]
    rfl

end Words

/-- Neither the word of a clause nor a comma. -/
def Operand (token : Token) : Prop := (∀ word, word ≠ "NULL" → token ≠ keyword word) ∧ token ≠ .symbol ','

theorem operand_number (size : Nat) : Operand (.number size) := ⟨by simp [keyword], by simp⟩

theorem operand_text (text : List Char) : Operand (.text text) := ⟨by simp [keyword], by simp⟩

theorem operand_name (name : String) : Operand (nameOf name) := ⟨by simp [keyword, nameOf], by simp [nameOf]⟩

theorem operand_symbol {char : Char} (other : char ≠ ',') : Operand (.symbol char) := ⟨by simp [keyword], by simpa using other⟩

theorem operand_null : Operand (keyword "NULL") := by
  refine ⟨?_, by simp [keyword]⟩
  intro word other same
  exact other (String.toList_inj.mp (Token.word.inj same).symm)

theorem Value.operands {value : Value} : ∀ token ∈ value.tokens, Operand token := by
  intro token inside
  cases value with
  | null => exact List.mem_singleton.mp inside ▸ operand_null
  | int size =>
    rw [Value.tokens] at inside
    split at inside
    next =>
      rcases List.mem_cons.mp inside with minus | number
      · exact minus ▸ operand_symbol (by decide)
      · exact List.mem_singleton.mp number ▸ operand_number _
    next => exact List.mem_singleton.mp inside ▸ operand_number _
  | text chars => exact List.mem_singleton.mp inside ▸ operand_text _

def equation (column : String) (value : Value) : List Token := nameOf column :: .symbol '=' :: value.tokens

theorem readEquation_equation (column : String) (value : Value) :
    readEquation (equation column value) = some (column, value) := by
  simp [equation, readEquation, nameOf, Value.ofTokens_tokens]

theorem equation_operands {column : String} {value : Value} : ∀ token ∈ equation column value, Operand token := by
  intro token inside
  rcases List.mem_cons.mp inside with name | rest
  · exact name ▸ operand_name column
  · rcases List.mem_cons.mp rest with sign | value
    · exact sign ▸ operand_symbol (by decide)
    · exact Value.operands token value

theorem operands_wordless {text : List Token} (operands : ∀ token ∈ text, Operand token) {word : String}
    (clause : word ≠ "NULL") : keyword word ∉ text := fun inside => (operands _ inside).1 word clause rfl

/-- A list of operands hides no clause, and its commas are those between its items. -/
theorem listed_wordless {items : List (List Token)} (operands : ∀ item ∈ items, ∀ token ∈ item, Operand token)
    {word : String} (clause : word ≠ "NULL") : keyword word ∉ Model.listed items := by
  intro inside
  rcases mem_listed inside with comma | ⟨item, member, inside⟩
  · simp [keyword] at comma
  · exact operands_wordless (operands item member) clause inside

theorem listed_splitOn {items : List (List Token)} (operands : ∀ item ∈ items, ∀ token ∈ item, Operand token)
    (some : items ≠ []) : (Model.listed items).splitOn (.symbol ',') = items :=
  List.splitOn_intercalate _ (fun item member inside => (operands item member _ inside).2 rfl) some

namespace Model

theorem readSelect_pattern (model : Model) (bound : model.fields ≠ []) (keyValue : Value) :
    readSelect (keyword "SELECT" :: model.columnNames ++ [keyword "FROM", nameOf model.table] ++ model.whereKey keyValue ++
        [keyword "LIMIT", .number 1]) =
      some { columns := model.fields.map (·.column), table := model.table, condition := (model.key, keyValue) } := by
  have names : ∀ item ∈ model.fields.map fun f => [nameOf f.column], ∀ token ∈ item, Operand token := by
    intro item member token inside
    obtain ⟨field, _, rfl⟩ := List.mem_map.mp member
    exact List.mem_singleton.mp inside ▸ operand_name _
  let rest := keyword "LIMIT" :: [.number 1]
  let condition := equation model.key keyValue ++ rest
  let source := [nameOf model.table] ++ keyword "WHERE" :: condition
  have shape : keyword "SELECT" :: model.columnNames ++ [keyword "FROM", nameOf model.table] ++ model.whereKey keyValue ++
      [keyword "LIMIT", .number 1] = keyword "SELECT" :: (model.columnNames ++ keyword "FROM" :: source) := by
    simp [whereKey, equation, source, condition, rest]
  have columns : upToWord "FROM" (model.columnNames ++ keyword "FROM" :: source) = model.columnNames :=
    upToWord_append (listed_wordless names (by decide))
  have after : afterWord "FROM" (model.columnNames ++ keyword "FROM" :: source) = source :=
    afterWord_append (listed_wordless names (by decide))
  have table : upToWord "WHERE" source = [nameOf model.table] := upToWord_append (by simp [keyword, nameOf])
  have filter : afterWord "WHERE" (model.columnNames ++ keyword "FROM" :: source) = condition := by
    have before : keyword "WHERE" ∉ model.columnNames ++ [keyword "FROM", nameOf model.table] := by
      rw [List.mem_append, not_or]
      exact ⟨listed_wordless names (by decide), by simp [keyword, nameOf]⟩
    have found := @afterWord_append "WHERE" _ condition before
    rwa [List.append_assoc] at found
  have key : upToWord "LIMIT" condition = equation model.key keyValue :=
    upToWord_append (operands_wordless equation_operands (by decide))
  have split : model.columnNames.splitOn (.symbol ',') = model.fields.map fun f => [nameOf f.column] :=
    listed_splitOn names (by simpa using bound)
  have each : (model.fields.map fun f => [nameOf f.column]).mapM readName = some (model.fields.map (·.column)) :=
    mapM_eq_some (fun field _ => by simp [readName, nameOf])
  have named : readName [nameOf model.table] = some model.table := by simp [readName, nameOf]
  rw [shape, readSelect, if_pos rfl, columns, after, table, filter, key, split, each, named, readEquation_equation]
  rfl

theorem readUpdate_pattern (model : Model) (written : model.updated ≠ []) (value : ModelField → Value) (keyValue : Value) :
    readUpdate ([keyword "UPDATE", nameOf model.table, keyword "SET"] ++ model.assignments (model.fields.map value) ++
        model.whereKey keyValue) =
      some
        { table := model.table, sets := model.updated.map fun f => (f.column, value f), condition := (model.key, keyValue) } := by
  have sets : model.assignments (model.fields.map value) =
      listed (model.updated.map fun f => equation f.column (value f)) := by
    rw [assignments, updated_pairs, List.map_map]
    rfl
  have operands : ∀ item ∈ model.updated.map fun f => equation f.column (value f), ∀ token ∈ item, Operand token := by
    intro item member token inside
    obtain ⟨field, _, rfl⟩ := List.mem_map.mp member
    exact equation_operands token inside
  rw [sets]
  let assigned := listed (model.updated.map fun f => equation f.column (value f))
  let body := assigned ++ keyword "WHERE" :: equation model.key keyValue
  have shape : [keyword "UPDATE", nameOf model.table, keyword "SET"] ++ assigned ++ model.whereKey keyValue =
      keyword "UPDATE" :: ([nameOf model.table] ++ keyword "SET" :: body) := by
    simp [whereKey, equation, body]
  have table : upToWord "SET" ([nameOf model.table] ++ keyword "SET" :: body) = [nameOf model.table] :=
    upToWord_append (by simp [keyword, nameOf])
  have after : afterWord "SET" ([nameOf model.table] ++ keyword "SET" :: body) = body :=
    afterWord_append (by simp [keyword, nameOf])
  have list : upToWord "WHERE" body = assigned := upToWord_append (listed_wordless operands (by decide))
  have filter : afterWord "WHERE" ([nameOf model.table] ++ keyword "SET" :: body) = equation model.key keyValue := by
    have before : keyword "WHERE" ∉ nameOf model.table :: keyword "SET" :: assigned := by
      rw [List.mem_cons, List.mem_cons, not_or, not_or]
      exact ⟨by simp [keyword, nameOf], by simp [keyword], listed_wordless operands (by decide)⟩
    exact @afterWord_append "WHERE" (nameOf model.table :: keyword "SET" :: assigned) _ before
  have split : assigned.splitOn (.symbol ',') = model.updated.map fun f => equation f.column (value f) :=
    listed_splitOn operands (by simpa using written)
  have each : (model.updated.map fun f => equation f.column (value f)).mapM readEquation =
      some (model.updated.map fun f => (f.column, value f)) :=
    mapM_eq_some (fun field _ => readEquation_equation field.column (value field))
  have named : readName [nameOf model.table] = some model.table := by simp [readName, nameOf]
  rw [shape, readUpdate, if_pos rfl, table, after, list, filter, split, each, named, readEquation_equation]
  rfl

end Model

end OmpMySQL
