import OmpMySQL.Library.SqlLiterals
import OmpMySQL.Proofs.FormatRendering
import OmpMySQL.Proofs.ModelText

/-! Escaped values between single quotes. A handle that denotes no open connection leaves
its value as it is, and so does a connection that has lost its `MYSQL*`. -/

namespace OmpMySQL
open FormatPiece Library.SqlTokens

namespace FormatPiece
variable {formatValue : Char → Cell → Option (List Char)}

theorem expected_append (before after : List FormatPiece) (values : List Cell) :
    expected formatValue (before ++ after) values =
      expected formatValue before values ++ expected formatValue after (values.drop (before.countP consumes)) := by
  induction before generalizing values with
  | nil => rfl
  | cons piece rest ih =>
    rw [List.cons_append, expected_cons, expected_cons, ih, List.append_assoc, List.countP_cons]
    congr 2
    by_cases takes : piece.consumes
    · simp only [takes, if_true, List.drop_drop, Nat.add_comm]
    · simp only [takes, if_false, Bool.false_eq_true, Nat.add_zero]

variable {before after : List FormatPiece} {values : List Cell} {value : Cell} {text : List Char}

theorem expected_quoted (given : values[before.countP consumes]? = some value) (renders : formatValue 'e' value = some text) :
    expected formatValue (before ++ [.plain '\'', .directive 'e', .plain '\''] ++ after) values =
      expected formatValue before values ++ '\'' :: text ++
        '\'' :: expected formatValue after (values.drop (before.countP consumes + 1)) := by
  have next : (values.drop (before.countP consumes))[0]? = some value := by
    rw [List.getElem?_drop, Nat.add_zero, given]
  have quote : consumes (.plain '\'') = false := rfl
  have takes : consumes (.directive 'e') = true := rfl
  rw [List.append_assoc, expected_append, List.cons_append, List.cons_append, List.cons_append, List.nil_append,
    expected_cons, expected_cons, expected_cons, quote, takes]
  simp only [Bool.false_eq_true, if_false, if_true, render, next, Option.bind_some, renders, Option.getD_some,
    List.drop_drop, List.append_assoc, List.cons_append, List.nil_append]

/-- The loop loses nothing before its end, so what stands between quotes is there. -/
theorem formatLoop_quoted (known : ∀ spec value, (formatValue spec value).isSome = isSpecifier spec) {format : List Char}
    (quoted : parse format = before ++ [.plain '\'', .directive 'e', .plain '\''] ++ after)
    (given : values[before.countP consumes]? = some value) (renders : formatValue 'e' value = some text) :
    ∃ rest, formatLoop formatValue format values = expected formatValue before values ++ '\'' :: text ++ '\'' :: rest := by
  have parts := expected_eq known format values
  rw [quoted, expected_quoted given renders] at parts
  split at parts
  next =>
    rcases List.eq_nil_or_concat (expected formatValue after (values.drop (before.countP consumes + 1))) with
      none | ⟨rest, last, some⟩
    · rw [none] at parts
      have ends : ['\''] = ['%'] := List.append_inj_right' parts rfl
      simp at ends
    · rw [some, List.concat_eq_append, ← List.cons_append, ← List.append_assoc] at parts
      exact ⟨rest, (List.append_inj_left' parts rfl).symm⟩
  next => exact ⟨_, by rw [parts, List.append_nil]⟩

end FormatPiece

/-- The handle denotes a connection with its `MYSQL*`. -/
def IsOpen (registry : Connections) (mysql : Nat → Option (String → String)) (handle : Int) : Prop :=
  ∃ conn escapeString, registry.getConnection handle = some conn ∧ mysql conn = some escapeString

section
variable {registry : Connections} {mysql : Nat → Option (String → String)} {handle : Int}

theorem escapeFor_open (library : ∀ conn escapeString, mysql conn = some escapeString → Escapes escapeString)
    (live : IsOpen registry mysql handle) (text : String) :
    literal '\'' (escapeFor registry mysql handle text).toList = some text.toList := by
  obtain ⟨conn, escapeString, found, pointer⟩ := live
  rw [escapeFor, found]
  simp only [connectionEscape, pointer]
  exact library conn escapeString pointer text

theorem escapeFor_closed (closed : ¬ IsOpen registry mysql handle) (text : String) :
    escapeFor registry mysql handle text = text := by
  rw [escapeFor]
  split
  next => rfl
  next conn found =>
    cases pointer : mysql conn with
    | none => rfl
    | some escapeString => exact absurd ⟨conn, escapeString, found, pointer⟩ closed

theorem escapeFor_denotes_iff
    (library : ∀ conn escapeString, mysql conn = some escapeString → Escapes escapeString) (text : String) :
    Denotes (escapeFor registry mysql handle text).toList text.toList ↔
      IsOpen registry mysql handle ∨ standsForItself text.toList = true := by
  by_cases live : IsOpen registry mysql handle
  · exact ⟨fun _ => Or.inl live, fun _ => denotes_of_literal (escapeFor_open library live text)⟩
  · rw [escapeFor_closed live, denotes_self_iff]
    simp [live]

end

/-- Whatever the handle, a quoted value is one literal that denotes it exactly when the
handle is open or nothing in the value needs escaping. -/
theorem escaping_safe_iff {reader : ScriptReader} {registry : Connections} {mysql : Nat → Option (String → String)}
    (library : ∀ conn escapeString, mysql conn = some escapeString → Escapes escapeString) {call : NativeCall}
    {before after : List FormatPiece} {value : Cell}
    (quoted : call.formatPieces reader = before ++ [.plain '\'', .directive 'e', .plain '\''] ++ after)
    (given : (call.params.drop 4)[before.countP consumes]? = some value) :
    (∃ rest,
      call.formatted reader registry mysql =
        expected (call.formatValue reader (escapeFor registry mysql (call.param 1))) before (call.params.drop 4) ++
          '\'' :: (escapeFor registry mysql (call.param 1) (call.amxStringParam reader value)).toList ++ '\'' :: rest) ∧
      (Denotes (escapeFor registry mysql (call.param 1) (call.amxStringParam reader value)).toList
            (call.amxStringParam reader value).toList ∧
          Denotes (mysqlEscape registry mysql (call.amxStringParam reader value) (call.param 1)).toList
            (call.amxStringParam reader value).toList ↔
        IsOpen registry mysql (call.param 1) ∨ standsForItself (call.amxStringParam reader value).toList = true) := by
  have renders : call.formatValue reader (escapeFor registry mysql (call.param 1)) 'e' value =
      some (escapeFor registry mysql (call.param 1) (call.amxStringParam reader value)).toList := rfl
  refine ⟨formatLoop_quoted (call.formatValue_isSome reader _) quoted given renders, ?_⟩
  rw [mysqlEscape, and_self, escapeFor_denotes_iff library]

/-- A query with one quoted value, `x' OR '1`. -/
def quotedCall (handle : Cell) : NativeCall :=
  formatCall handle ['=', '\'', '%', 'e', '\''] ['x', '\'', ' ', 'O', 'R', ' ', '\'', '1'] [300]

def firstConnection : Connections := (({} : Connections).addConnection (some 3) false).1

theorem escaping_safe_open :
    (∃ rest,
      (quotedCall 1).formatted shortReader firstConnection (fun _ => some backslashes) =
        expected ((quotedCall 1).formatValue shortReader (escapeFor firstConnection (fun _ => some backslashes) 1))
            [.plain '='] [300] ++
          '\'' :: (escapeFor firstConnection (fun _ => some backslashes) 1
            ((quotedCall 1).amxStringParam shortReader 300)).toList ++ '\'' :: rest) ∧
      (Denotes (escapeFor firstConnection (fun _ => some backslashes) 1
              ((quotedCall 1).amxStringParam shortReader 300)).toList
            ((quotedCall 1).amxStringParam shortReader 300).toList ∧
          Denotes (mysqlEscape firstConnection (fun _ => some backslashes)
              ((quotedCall 1).amxStringParam shortReader 300) 1).toList
            ((quotedCall 1).amxStringParam shortReader 300).toList ↔
        IsOpen firstConnection (fun _ => some backslashes) 1 ∨
          standsForItself ((quotedCall 1).amxStringParam shortReader 300).toList = true) :=
  @escaping_safe_iff shortReader firstConnection (fun _ => some backslashes)
    (by
      intro conn escapeString same
      cases same
      exact literal_backslashes)
    (quotedCall 1) [.plain '='] [] 300 (by decide) rfl

/-- A handle that was never given out leaves the value open to be ended from within. -/
theorem unescaped_without_connection : ¬ ∀ (handle : Int) (v : String),
    Denotes (mysqlEscape firstConnection (fun _ => some backslashes) v handle).toList v.toList := by
  intro safe
  exact absurd (safe 2 "x' OR '1") (by decide)

end OmpMySQL
