import Mathlib.Data.List.TakeWhile
import OmpMySQL.Proofs.TlsVersions

/-! What a well-written configuration file sets. The files are given by a grammar of their
own, and each part of it is followed through the loop that reads them. -/

namespace OmpMySQL

/-- Nothing at the ends of a text would be trimmed. -/
def Trimmed (text : List Char) : Prop :=
  (∀ char ∈ text.head?, isBlank char = false) ∧ ∀ char ∈ text.getLast?, isBlank char = false

instance (text : List Char) : Decidable (Trimmed text) :=
  @instDecidableAnd _ _ (Option.decidableForallMem text.head?) (Option.decidableForallMem text.getLast?)

/-- A name that `${` and `}` can stand around. -/
structure EnvName where
  chars : List Char
  named : chars ≠ []
  plain : ∀ char ∈ chars, char ≠ '}' ∧ char ≠ '#' ∧ char ≠ ';' ∧ char ≠ '\n' ∧ char ≠ Char.ofNat 0

structure LiteralText where
  chars : List Char
  plain : ∀ char ∈ chars, char ≠ '#' ∧ char ≠ ';' ∧ char ≠ '\n'
  unexpanded : ¬ ['$', '{'] <:+: chars

namespace EnvName

def text (name : EnvName) : List Char := '$' :: '{' :: name.chars ++ ['}']

/-- The environment's value as it stands. -/
def value (env : Environment) (name : EnvName) : List Char := ((env (String.ofList name.chars)).getD "").toList

end EnvName

def valueText (parts : List (LiteralText × EnvName)) (last : LiteralText) : List Char :=
  (parts.flatMap fun part => part.1.chars ++ part.2.text) ++ last.chars

/-- Literal text with references to variables in between. -/
structure ConfigValue where
  parts : List (LiteralText × EnvName)
  last : LiteralText
  trimmed : Trimmed (valueText parts last)

namespace ConfigValue

def text (value : ConfigValue) : List Char := valueText value.parts value.last

/-- Every reference replaced, and nothing else. -/
def expanded (value : ConfigValue) (env : Environment) : List Char :=
  (value.parts.flatMap fun part => part.1.chars ++ part.2.value env) ++ value.last.chars

end ConfigValue

structure ConfigKey where
  chars : List Char
  plain : ∀ char ∈ chars, char ≠ '=' ∧ char ≠ '#' ∧ char ≠ ';' ∧ char ≠ '\n'
  trimmed : Trimmed chars

structure Pad where
  chars : List Char
  blank : ∀ char ∈ chars, char = ' ' ∨ char = '\t'

structure Remark where
  mark : Char
  body : List Char
  marks : mark = '#' ∨ mark = ';'
  inLine : '\n' ∉ body

def Remark.text (remark : Remark) : List Char := remark.mark :: remark.body

inductive ConfigLine where
  | blank (pad : Pad)
  | comment (pad : Pad) (remark : Remark)
  | setting (before : Pad) (key : ConfigKey) (after lead : Pad) (value : ConfigValue) (trail : Pad)
      (remark : Option Remark)

namespace ConfigLine

def text : ConfigLine → List Char
  | blank pad => pad.chars
  | comment pad remark => pad.chars ++ remark.text
  | setting before key after lead value trail remark =>
    before.chars ++ key.chars ++ after.chars ++ '=' :: (lead.chars ++ value.text ++ trail.chars) ++
      (remark.map Remark.text).getD []

/-- What a line is meant to set. -/
def means (env : Environment) : ConfigLine → Option (String × String)
  | blank _ | comment _ _ => none
  | setting _ key _ _ value _ _ => some (String.ofList key.chars, String.ofList (value.expanded env))

end ConfigLine

/-- Lines that end in LF, or in CR and LF, and one last line. -/
structure ConfigText where
  lines : List (ConfigLine × Bool)
  last : ConfigLine

namespace ConfigText

def carriageReturn (crlf : Bool) : List Char := if crlf then ['\r'] else []

def text (file : ConfigText) : List Char :=
  (file.lines.flatMap fun line => line.1.text ++ carriageReturn line.2 ++ ['\n']) ++ file.last.text

def means (env : Environment) (file : ConfigText) : List (String × String) :=
  (file.lines.map Prod.fst ++ [file.last]).filterMap (ConfigLine.means env)

end ConfigText

section Expansion
variable (env : Environment)

theorem expandFrom_skip (skipped rest : List Char) :
    expandFrom env skipped.length (skipped ++ rest) = expandFrom env 0 rest := by
  induction skipped with
  | nil => rfl
  | cons char skipped ih => rw [List.length_cons, List.cons_append, expandFrom, ih]

/-- Literal text is kept, also where a reference follows. -/
theorem expandFrom_literal {text rest : List Char} (unexpanded : ¬ ['$', '{'] <:+: text) (apart : rest.head? ≠ some '{') :
    expandFrom env 0 (text ++ rest) = text ++ expandFrom env 0 rest := by
  induction text with
  | nil => rfl
  | cons char text ih =>
    have kept : ¬ (char = '$' ∧ (text ++ rest).head? = some '{' ∧ '}' ∈ (text ++ rest).drop 1) := by
      intro ⟨dollar, brace, _⟩
      cases text with
      | nil => exact apart brace
      | cons next text =>
        have second : next = '{' := Option.some.inj brace
        exact unexpanded ⟨[], text, by rw [dollar, second]; rfl⟩
    have inside : ¬ ['$', '{'] <:+: text := fun found => unexpanded (found.trans (List.suffix_cons char text).isInfix)
    rw [List.cons_append, expandFrom]
    simp only [if_neg kept, ih inside, List.cons_append]

theorem expandFrom_reference (name : EnvName) (rest : List Char) :
    expandFrom env 0 (name.text ++ rest) = name.value env ++ expandFrom env 0 rest := by
  have ends : (name.chars ++ '}' :: rest).takeWhile (· ≠ '}') = name.chars := by
    rw [List.takeWhile_append_of_pos (fun char inside => by simpa using (name.plain char inside).1)]
    simp
  have whole : cString (String.ofList name.chars) = String.ofList name.chars := by
    rw [cString, String.toList_ofList, List.takeWhile_eq_self_iff.mpr]
    intro char inside
    simpa using (name.plain char inside).2.2.2.2
  have after : expandFrom env (name.chars.length + 2) ('{' :: (name.chars ++ '}' :: rest)) = expandFrom env 0 rest := by
    have skipped := expandFrom_skip env ('{' :: name.chars ++ ['}']) rest
    simpa using skipped
  have shape : name.text ++ rest = '$' :: '{' :: (name.chars ++ '}' :: rest) := by simp [EnvName.text]
  rw [shape, expandFrom]
  simp only [List.head?_cons, List.drop_succ_cons, List.drop_zero, ends, name.named, if_false, whole, after,
    EnvName.value]
  simp

theorem expandFrom_value (parts : List (LiteralText × EnvName)) (last : LiteralText) :
    expandFrom env 0 (valueText parts last) =
      (parts.flatMap fun part => part.1.chars ++ part.2.value env) ++ last.chars := by
  induction parts with
  | nil =>
    have none : ([] : List Char).head? ≠ some '{' := by simp
    have kept := expandFrom_literal env last.unexpanded none
    simpa [valueText, expandFrom] using kept
  | cons part rest ih =>
    have shape : valueText (part :: rest) last = part.1.chars ++ (part.2.text ++ valueText rest last) := by
      simp [valueText]
    rw [shape, expandFrom_literal env part.1.unexpanded (by simp [EnvName.text]), expandFrom_reference, ih]
    simp

end Expansion

section Lines

theorem pieces_append {separator : Char} {first : List Char} (inside : separator ∉ first) (rest : List Char) :
    pieces separator (first ++ separator :: rest) = first :: pieces separator rest := by
  induction first with
  | nil => simp [pieces]
  | cons char first ih =>
    rw [List.mem_cons, not_or] at inside
    have other : char ≠ separator := fun same => inside.1 same.symm
    rw [List.cons_append, pieces, if_neg other, ih inside.2]

theorem pieces_whole {separator : Char} {text : List Char} (inside : separator ∉ text) : pieces separator text = [text] := by
  induction text with
  | nil => rfl
  | cons char text ih =>
    rw [List.mem_cons, not_or] at inside
    have other : char ≠ separator := fun same => inside.1 same.symm
    rw [pieces, if_neg other, ih inside.2]

theorem dropWhile_blank {blanks text : List Char} (blank : ∀ char ∈ blanks, isBlank char = true)
    (starts : ∀ char, text.head? = some char → isBlank char = false) : (blanks ++ text).dropWhile isBlank = text := by
  rw [List.dropWhile_append_of_pos blank]
  cases text with
  | nil => rfl
  | cons char rest => rw [List.dropWhile_cons_of_neg (by simp [starts char rfl])]

theorem trim_padded {before text after : List Char} (lead : ∀ char ∈ before, isBlank char = true)
    (trail : ∀ char ∈ after, isBlank char = true) (trimmed : Trimmed text) : trim (before ++ text ++ after) = text := by
  have backwards : ∀ char ∈ after.reverse, isBlank char = true := fun char inside => trail char (List.mem_reverse.mp inside)
  have ends : (after.reverse ++ text.reverse).dropWhile isBlank = text.reverse :=
    dropWhile_blank backwards (fun char last => trimmed.2 char (by rwa [List.head?_reverse] at last))
  cases shape : text with
  | nil =>
    have all : (before ++ after).dropWhile isBlank = [] := by
      rw [List.dropWhile_eq_nil_iff]
      intro char inside
      exact (List.mem_append.mp inside).elim (lead char) (trail char)
    rw [trim, List.append_nil, all]
    rfl
  | cons char rest =>
    have starts : ∀ first, (text ++ after).head? = some first → isBlank first = false := by
      intro first head
      rw [shape] at head
      exact trimmed.1 first (by rw [shape]; exact head)
    rw [← shape, trim, List.append_assoc, dropWhile_blank lead starts, List.reverse_append, ends, List.reverse_reverse]

theorem Pad.isBlank (pad : Pad) : ∀ char ∈ pad.chars, isBlank char = true := by
  intro char inside
  rcases pad.blank char inside with rfl | rfl
  · rfl
  · rfl

theorem Pad.clear (pad : Pad) : ∀ char ∈ pad.chars, char ≠ '=' ∧ char ≠ '#' ∧ char ≠ ';' := by
  intro char inside
  rcases pad.blank char inside with rfl | rfl
  · decide
  · decide

theorem Pad.inLine (pad : Pad) : '\n' ∉ pad.chars := by
  intro inside
  rcases pad.blank _ inside with same | same
  · cases same
  · cases same

theorem ConfigKey.clear (key : ConfigKey) : ∀ char ∈ key.chars, char ≠ '=' ∧ char ≠ '#' ∧ char ≠ ';' := by
  intro char inside
  obtain ⟨unequal, plain, unmarked, _⟩ := key.plain char inside
  exact ⟨unequal, plain, unmarked⟩

theorem EnvName.text_plain (name : EnvName) : ∀ char ∈ name.text, char ≠ '#' ∧ char ≠ ';' ∧ char ≠ '\n' := by
  intro char inside
  simp only [EnvName.text, List.cons_append, List.mem_cons, List.mem_append, List.not_mem_nil, or_false] at inside
  rcases inside with rfl | rfl | named | rfl
  · decide
  · decide
  · have plain := name.plain char named
    exact ⟨plain.2.1, plain.2.2.1, plain.2.2.2.1⟩
  · decide

theorem ConfigValue.plain (value : ConfigValue) : ∀ char ∈ value.text, char ≠ '#' ∧ char ≠ ';' ∧ char ≠ '\n' := by
  intro char inside
  rw [ConfigValue.text, valueText, List.mem_append, List.mem_flatMap] at inside
  rcases inside with ⟨part, _, inside⟩ | inside
  · exact (List.mem_append.mp inside).elim (part.1.plain char) (part.2.text_plain char)
  · exact value.last.plain char inside

/-- What the loop keeps of a line. -/
theorem uncommented {text rest : List Char} (plain : ∀ char ∈ text, char ≠ '#' ∧ char ≠ ';')
    (marked : ∀ char, rest.head? = some char → char = '#' ∨ char = ';') :
    (text ++ rest).takeWhile (fun char => char ≠ '#' ∧ char ≠ ';') = text := by
  rw [List.takeWhile_append_of_pos (fun char inside => decide_eq_true (plain char inside))]
  have stop : rest.takeWhile (fun char => char ≠ '#' ∧ char ≠ ';') = [] := by
    cases rest with
    | nil => rfl
    | cons char tail =>
      rw [List.takeWhile_cons_of_neg]
      rcases marked char rfl with rfl | rfl
      · decide
      · decide
  rw [stop, List.append_nil]

variable (env : Environment)

theorem configLine_setting (before : Pad) (key : ConfigKey) (after lead : Pad) (value : ConfigValue) (blanks rest : List Char)
    (trail : ∀ char ∈ blanks, isBlank char = true ∧ char ≠ '#' ∧ char ≠ ';')
    (marked : ∀ char, rest.head? = some char → char = '#' ∨ char = ';') :
    configLine env (before.chars ++ key.chars ++ after.chars ++ '=' :: (lead.chars ++ value.text ++ blanks) ++ rest) =
      some (String.ofList key.chars, String.ofList (value.expanded env)) := by
  have left : ∀ char ∈ before.chars ++ key.chars ++ after.chars, char ≠ '=' ∧ char ≠ '#' ∧ char ≠ ';' := by
    intro char inside
    simp only [List.mem_append, or_assoc] at inside
    rcases inside with pad | name | pad
    · exact before.clear char pad
    · exact key.clear char name
    · exact after.clear char pad
  have right : ∀ char ∈ lead.chars ++ value.text ++ blanks, char ≠ '#' ∧ char ≠ ';' := by
    intro char inside
    simp only [List.mem_append, or_assoc] at inside
    rcases inside with pad | text | pad
    · exact (lead.clear char pad).2
    · exact ⟨(value.plain char text).1, (value.plain char text).2.1⟩
    · exact (trail char pad).2
  have plain : ∀ char ∈ before.chars ++ key.chars ++ after.chars ++ '=' :: (lead.chars ++ value.text ++ blanks),
      char ≠ '#' ∧ char ≠ ';' := by
    intro char inside
    rcases List.mem_append.mp inside with name | other
    · exact (left char name).2
    · rcases List.mem_cons.mp other with rfl | text
      · decide
      · exact right char text
  have kept := uncommented plain marked
  have named : (before.chars ++ key.chars ++ after.chars ++ '=' :: (lead.chars ++ value.text ++ blanks)).takeWhile (· ≠ '=') =
      before.chars ++ key.chars ++ after.chars := by
    rw [List.takeWhile_append_of_pos (fun char inside => decide_eq_true (left char inside).1)]
    simp
  have valued : (before.chars ++ key.chars ++ after.chars ++ '=' :: (lead.chars ++ value.text ++ blanks)).dropWhile (· ≠ '=') =
      '=' :: (lead.chars ++ value.text ++ blanks) := by
    rw [List.dropWhile_append_of_pos (fun char inside => decide_eq_true (left char inside).1)]
    simp
  have keyed := trim_padded before.isBlank after.isBlank key.trimmed
  have text := trim_padded lead.isBlank (fun char inside => (trail char inside).1) value.trimmed
  have expansion : expandEnv env (String.ofList value.text) = String.ofList (value.expanded env) := by
    rw [expandEnv, String.toList_ofList, ConfigValue.text, expandFrom_value]
    rfl
  rw [configLine]
  simp only [kept, named, valued, List.drop_succ_cons, List.drop_zero, keyed]
  rw [if_pos (by simp), ← expansion]
  exact congrArg (fun chars => some (String.ofList key.chars, expandEnv env (String.ofList chars))) text

theorem configLine_unset (text rest : List Char) (plain : ∀ char ∈ text, char ≠ '=' ∧ char ≠ '#' ∧ char ≠ ';')
    (marked : ∀ char, rest.head? = some char → char = '#' ∨ char = ';') : configLine env (text ++ rest) = none := by
  have kept := uncommented (fun char inside => (plain char inside).2) marked
  have unset : '=' ∉ text := fun inside => (plain '=' inside).1 rfl
  rw [configLine]
  simp only [kept, if_neg unset]

/-- Every line sets what it is meant to set. -/
theorem configLine_text (line : ConfigLine) (crlf : Bool) :
    configLine env (line.text ++ ConfigText.carriageReturn crlf) = line.means env := by
  have ending : ∀ char ∈ ConfigText.carriageReturn crlf, char = '\r' := by
    intro char inside
    cases crlf with
    | false => cases inside
    | true => exact List.mem_singleton.mp inside
  have bare : ∀ char, ([] : List Char).head? = some char → char = '#' ∨ char = ';' := by
    intro char none
    cases none
  have marked (remark : Remark) (tail : List Char) :
      ∀ char, (remark.text ++ tail).head? = some char → char = '#' ∨ char = ';' := by
    intro char first
    have same : remark.mark = char := Option.some.inj first
    exact same ▸ remark.marks
  cases line with
  | blank pad =>
    have plain : ∀ char ∈ pad.chars ++ ConfigText.carriageReturn crlf, char ≠ '=' ∧ char ≠ '#' ∧ char ≠ ';' := by
      intro char inside
      rcases List.mem_append.mp inside with pads | returns
      · exact pad.clear char pads
      · rw [ending char returns]
        decide
    have unset := configLine_unset env _ [] plain bare
    rwa [List.append_nil] at unset
  | comment pad remark =>
    have unset := configLine_unset env pad.chars _ pad.clear
      (marked remark (ConfigText.carriageReturn crlf))
    rwa [← List.append_assoc] at unset
  | setting before key after lead value trail remark =>
    cases remark with
    | none =>
      have blanks : ∀ char ∈ trail.chars ++ ConfigText.carriageReturn crlf,
          isBlank char = true ∧ char ≠ '#' ∧ char ≠ ';' := by
        intro char inside
        rcases List.mem_append.mp inside with pads | returns
        · exact ⟨trail.isBlank char pads, (trail.clear char pads).2⟩
        · rw [ending char returns]
          decide
      have sets := configLine_setting env before key after lead value _ [] blanks bare
      simpa [ConfigLine.text, ConfigLine.means] using sets
    | some remark =>
      have sets := configLine_setting env before key after lead value trail.chars _
        (fun char pads => ⟨trail.isBlank char pads, (trail.clear char pads).2⟩)
        (marked remark (ConfigText.carriageReturn crlf))
      simpa [ConfigLine.text, ConfigLine.means] using sets

theorem ConfigLine.text_inLine (line : ConfigLine) : '\n' ∉ line.text := by
  have remarked (remark : Remark) : '\n' ∉ remark.text := by
    rw [Remark.text, List.mem_cons, not_or]
    refine ⟨?_, remark.inLine⟩
    rcases remark.marks with same | same
    · rw [same]
      decide
    · rw [same]
      decide
  cases line with
  | blank pad => exact pad.inLine
  | comment pad remark => simp [ConfigLine.text, Pad.inLine, remarked]
  | setting before key after lead value trail remark =>
    have named : '\n' ∉ key.chars := fun inside => (key.plain _ inside).2.2.2 rfl
    have valued : '\n' ∉ value.text := fun inside => (value.plain _ inside).2.2 rfl
    cases remark with
    | none => simp [ConfigLine.text, Pad.inLine, named, valued]
    | some remark => simp [ConfigLine.text, Pad.inLine, named, valued, remarked]

theorem pieces_text (file : ConfigText) :
    pieces '\n' file.text =
      file.lines.map (fun line => line.1.text ++ ConfigText.carriageReturn line.2) ++ [file.last.text] := by
  obtain ⟨lines, last⟩ := file
  induction lines with
  | nil => exact pieces_whole last.text_inLine
  | cons line rest ih =>
    have returns : '\n' ∉ ConfigText.carriageReturn line.2 := by cases line.2 <;> decide
    have inLine : '\n' ∉ line.1.text ++ ConfigText.carriageReturn line.2 := by
      rw [List.mem_append, not_or]
      exact ⟨line.1.text_inLine, returns⟩
    have shape : ConfigText.text ⟨line :: rest, last⟩ =
        line.1.text ++ ConfigText.carriageReturn line.2 ++ '\n' :: ConfigText.text ⟨rest, last⟩ := by
      simp [ConfigText.text]
    rw [shape, pieces_append inLine, ih, List.map_cons, List.cons_append]

/-- The file sets what its lines are meant to set, in their order. -/
theorem configEntries_text (file : ConfigText) {raw : String} (decoded : cfgDecodeIfNeeded env raw = String.ofList file.text) :
    configEntries env raw = file.means env := by
  have last := configLine_text env file.last false
  rw [ConfigText.carriageReturn, if_neg Bool.false_ne_true, List.append_nil] at last
  rw [configEntries, decoded, String.toList_ofList, pieces_text, ConfigText.means, List.filterMap_append,
    List.filterMap_append, List.filterMap_map, List.filterMap_map]
  have lines : configLine env ∘ (fun line : ConfigLine × Bool => line.1.text ++ ConfigText.carriageReturn line.2) =
      ConfigLine.means env ∘ Prod.fst := by
    funext line
    exact configLine_text env line.1 line.2
  rw [lines, List.filterMap_cons, List.filterMap_cons, last]
  rfl

end Lines

/-- The options that a file gives as text. -/
inductive StringKey where
  | host
  | user
  | password
  | database
  | sslCA
  | sslCert
  | sslKey
  | sslCRL
  | tlsVersion
  | compression

namespace StringKey

def name : StringKey → String
  | host => "host"
  | user => "user"
  | password => "password"
  | database => "database"
  | sslCA => "ssl_ca"
  | sslCert => "ssl_cert"
  | sslKey => "ssl_key"
  | sslCRL => "ssl_crl"
  | tlsVersion => "tls_version"
  | compression => "compression"

def field : StringKey → ConnectionOptions → String
  | host => ConnectionOptions.host
  | user => ConnectionOptions.user
  | password => ConnectionOptions.password
  | database => ConnectionOptions.database
  | sslCA => ConnectionOptions.sslCA
  | sslCert => ConnectionOptions.sslCert
  | sslKey => ConnectionOptions.sslKey
  | sslCRL => ConnectionOptions.sslCRL
  | tlsVersion => ConnectionOptions.tlsVersion
  | compression => ConnectionOptions.compression

/-- The value that an entry has for the key. -/
def given (key : StringKey) (entry : String × String) : Option String := if entry.1 = key.name then some entry.2 else none

theorem field_applyConfig (key : StringKey) (o : ConnectionOptions) (entry : String × String) :
    key.field (applyConfig o entry) = (key.given entry).getD (key.field o) := by
  obtain ⟨name, value⟩ := entry
  by_cases same : name = key.name
  · subst same
    rw [given, if_pos rfl]
    cases key with
    | host | user | password | database | sslCA | sslCert | sslKey | sslCRL | tlsVersion | compression => rfl
  · rw [given, if_neg same, Option.getD_none]
    simp only [applyConfig, apply_ite key.field]
    cases key with
    | host | user | password | database | sslCA | sslCert | sslKey | sslCRL | tlsVersion | compression =>
      simp only [StringKey.name] at same
      simp only [field, if_neg same, ite_self]

end StringKey

/-- A key that no entry has keeps its default. -/
theorem foldl_unset {σ β : Type} (field : σ → β) (name : String) (apply : σ → String × String → σ)
    (law : ∀ o entry, entry.1 ≠ name → field (apply o entry) = field o) (entries : List (String × String))
    (unset : ∀ entry ∈ entries, entry.1 ≠ name) (start : σ) : field (entries.foldl apply start) = field start := by
  induction entries generalizing start with
  | nil => rfl
  | cons entry rest ih =>
    rw [List.foldl_cons, ih (fun other inside => unset other (List.mem_cons_of_mem _ inside)),
      law start entry (unset entry List.mem_cons_self)]

theorem port_applyConfig (o : ConnectionOptions) (entry : String × String) (other : entry.1 ≠ "port") :
    (applyConfig o entry).port = o.port := by
  obtain ⟨name, value⟩ := entry
  simp only [applyConfig, apply_ite ConnectionOptions.port, if_neg other, ite_self]

theorem sslMode_applyConfig (o : ConnectionOptions) (entry : String × String) (other : entry.1 ≠ "ssl_mode") :
    (applyConfig o entry).sslMode = o.sslMode := by
  obtain ⟨name, value⟩ := entry
  simp only [applyConfig, apply_ite ConnectionOptions.sslMode, if_neg other, ite_self]

theorem autoReconnect_applyConfig (o : ConnectionOptions) (entry : String × String) (other : entry.1 ≠ "auto_reconnect") :
    (applyConfig o entry).autoReconnect = o.autoReconnect := by
  obtain ⟨name, value⟩ := entry
  simp only [applyConfig, apply_ite ConnectionOptions.autoReconnect, if_neg other, ite_self]

theorem cfgDebug_applyDebug (d : ConfigDebug) (entry : String × String) (other : entry.1 ≠ "debug") :
    (applyDebug d entry).cfgDebug = d.cfgDebug := by
  obtain ⟨name, value⟩ := entry
  simp only [applyDebug, apply_ite ConfigDebug.cfgDebug, if_neg other, ite_self]

def debugLogGiven (entry : String × String) : Option String := if entry.1 = "debug_log" then some entry.2 else none

theorem cfgDebugFile_applyDebug (d : ConfigDebug) (entry : String × String) :
    (applyDebug d entry).cfgDebugFile = (debugLogGiven entry).getD d.cfgDebugFile := by
  obtain ⟨name, value⟩ := entry
  rw [debugLogGiven]
  by_cases same : name = "debug_log"
  · subst same
    rfl
  · rw [if_neg same, Option.getD_none]
    simp only [applyDebug, apply_ite ConfigDebug.cfgDebugFile, if_neg same, ite_self]

/-- Every text key has the value of its last line, with its references replaced and nothing
else changed; a key without a line has its default. -/
theorem config_values_verbatim (env : Environment) (file : ConfigText) {raw : String}
    (decoded : cfgDecodeIfNeeded env raw = String.ofList file.text) :
    (∀ key : StringKey,
        key.field (readConfig env raw) = ((file.means env).filterMap key.given).getLast?.getD (key.field {})) ∧
      (readDebug env raw).cfgDebugFile = ((file.means env).filterMap debugLogGiven).getLast?.getD "" ∧
      ((∀ entry ∈ file.means env, entry.1 ≠ "port") → (readConfig env raw).port = ({} : ConnectionOptions).port) ∧
      ((∀ entry ∈ file.means env, entry.1 ≠ "ssl_mode") →
        (readConfig env raw).sslMode = ({} : ConnectionOptions).sslMode) ∧
      ((∀ entry ∈ file.means env, entry.1 ≠ "auto_reconnect") →
        (readConfig env raw).autoReconnect = ({} : ConnectionOptions).autoReconnect) ∧
      ((∀ entry ∈ file.means env, entry.1 ≠ "debug") → (readDebug env raw).cfgDebug = false) := by
  have entries := configEntries_text env file decoded
  rw [readConfig, readDebug, entries]
  refine ⟨?_, ?_, ?_, ?_, ?_, ?_⟩
  · intro key
    exact foldl_last key.field key.given applyConfig key.field_applyConfig (file.means env) {}
  · exact foldl_last ConfigDebug.cfgDebugFile debugLogGiven applyDebug cfgDebugFile_applyDebug (file.means env) {}
  · exact fun unset => foldl_unset ConnectionOptions.port "port" applyConfig port_applyConfig _ unset {}
  · exact fun unset => foldl_unset ConnectionOptions.sslMode "ssl_mode" applyConfig sslMode_applyConfig _ unset {}
  · exact fun unset =>
      foldl_unset ConnectionOptions.autoReconnect "auto_reconnect" applyConfig autoReconnect_applyConfig _ unset {}
  · exact fun unset => foldl_unset ConfigDebug.cfgDebug "debug" applyDebug cfgDebug_applyDebug _ unset {}

/-- A line `password = ${DB}`, ended by CR and LF. -/
def secretFile : ConfigText where
  lines :=
    [(.setting ⟨[], by simp⟩ ⟨"password".toList, by simp, by decide⟩ ⟨[' '], by simp⟩ ⟨[' '], by simp⟩
        { parts := [(⟨[], by simp, by simp⟩, ⟨['D', 'B'], by simp, by simp⟩)]
          last := ⟨[], by simp, by simp⟩
          trimmed := by decide }
        ⟨[], by simp⟩ none, true)]
  last := .blank ⟨[], by simp⟩

theorem config_values_secret :
    (∀ key : StringKey,
        key.field (readConfig (fun _ => some "a#b ${C}") "password = ${DB}\r\n") =
          ((secretFile.means fun _ => some "a#b ${C}").filterMap key.given).getLast?.getD (key.field {})) ∧
      (readDebug (fun _ => some "a#b ${C}") "password = ${DB}\r\n").cfgDebugFile =
        ((secretFile.means fun _ => some "a#b ${C}").filterMap debugLogGiven).getLast?.getD "" ∧
      ((∀ entry ∈ secretFile.means fun _ => some "a#b ${C}", entry.1 ≠ "port") →
        (readConfig (fun _ => some "a#b ${C}") "password = ${DB}\r\n").port = ({} : ConnectionOptions).port) ∧
      ((∀ entry ∈ secretFile.means fun _ => some "a#b ${C}", entry.1 ≠ "ssl_mode") →
        (readConfig (fun _ => some "a#b ${C}") "password = ${DB}\r\n").sslMode = ({} : ConnectionOptions).sslMode) ∧
      ((∀ entry ∈ secretFile.means fun _ => some "a#b ${C}", entry.1 ≠ "auto_reconnect") →
        (readConfig (fun _ => some "a#b ${C}") "password = ${DB}\r\n").autoReconnect =
          ({} : ConnectionOptions).autoReconnect) ∧
      ((∀ entry ∈ secretFile.means fun _ => some "a#b ${C}", entry.1 ≠ "debug") →
        (readDebug (fun _ => some "a#b ${C}") "password = ${DB}\r\n").cfgDebug = false) :=
  config_values_verbatim _ secretFile (by decide)

end OmpMySQL
