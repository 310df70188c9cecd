import OmpMySQL.Guards
import OmpMySQL.Library.Lexical

/-! What the stacked-statement check sees of a text, against what the server does.
Both read literals alike and disagree about comments. -/

namespace OmpMySQL
open Library.Lexical

/-- The server's rules: `--` needs a blank after it, and `/*!` is code. -/
def serverRules : Rules where
  dash
    | none => true
    | some char => isspace char || iscntrl char
  bang := true

/-- The check's rules: any `--` opens a comment, and so does `/*!`. -/
def componentRules : Rules where
  dash _ := true
  bang := false

def IsToken : Char × Mark → Prop
  | (char, .code) => isspace char = false
  | (_, .opening) => True
  | (_, .hidden) => False

/-- What the check takes for a second statement: bare text other than blanks and
separators. A literal does not count. -/
def IsBareText : Char × Mark → Prop
  | (char, .code) => isspace char = false ∧ char ≠ ';'
  | _ => False

def Stacked (sql : String) : Prop := Separates ';' IsToken (marks serverRules {} sql.toList)

def ShowsSecondStatement (sql : String) : Prop :=
  Separates ';' IsBareText (marks componentRules {} sql.toList)

/-- Where a text is read: as the server reads it, or inside what only the check takes for a comment. `closing` is
before the last character of one. -/
inductive Passage where
  | plain (reader : Reader)
  | line (skip : Nat)
  | block (skip : Nat)
  | closing

/-- The text with blanks over what only the check takes for a comment: a `--` that opens none for the server, up to
the end of its line, and a `/*!`, up to the next `*/`. Everything else is read as the server reads it. -/
def blankMisread : Passage → List Char → List Char
  | _, [] => []
  | .plain reader, char :: rest =>
    if reader.mode = .bare ∧ reader.skip = 0 ∧ char = '-' ∧ rest.head? = some '-' ∧ serverRules.dash rest.tail.head? = false then
      ' ' :: blankMisread (.line 1) rest
    else if reader.mode = .bare ∧ reader.skip = 0 ∧ char = '/' ∧ rest.head? = some '*' ∧ rest.tail.head? = some '!' then
      ' ' :: blankMisread (.block 1) rest
    else char :: blankMisread (.plain (reader.read serverRules char rest).2) rest
  | .line (skip + 1), _ :: rest => ' ' :: blankMisread (.line skip) rest
  | .line 0, char :: rest => ' ' :: blankMisread (if char = '\n' then .plain {} else .line 0) rest
  | .block (skip + 1), _ :: rest => ' ' :: blankMisread (.block skip) rest
  | .block 0, char :: rest => ' ' :: blankMisread (if char = '*' ∧ rest.head? = some '/' then .closing else .block 0) rest
  | .closing, _ :: rest => ' ' :: blankMisread (.plain {}) rest

/-- The text is stacked for the server, by a token other than a literal, even with blanks over what the check misreads. -/
def StaysStacked (sql : String) : Prop :=
  Separates ';' IsBareText (marks serverRules {} (blankMisread (.plain {}) sql.toList))

def ScanState.mode : ScanState → Mode
  | .normal => .bare
  | .sQuote => .single
  | .dQuote => .double
  | .bQuote => .back
  | .lineComment => .line
  | .blockComment => .block

def ScanState.reader (state : ScanState) (skip : Bool) : Reader := { mode := state.mode, skip := skip.toNat }

theorem headD_eq (rest : List Char) (char : Char) (real : char ≠ Char.ofNat 0) :
    rest.head?.getD (Char.ofNat 0) = char ↔ rest.head? = some char := by
  cases rest with
  | nil => simpa using Ne.symm real
  | cons next rest => simp

/-- One character: the scanner either stops at bare text after a separator, or
moves as the reader does. -/
def Tracks (state : ScanState) (saw skip : Bool) (char : Char) (rest : List Char) : Prop :=
  ∃ mark after ahead, (state.reader skip).read componentRules char rest = (mark, after.reader ahead) ∧
    ((IsBareText (char, mark) ∧ saw = true ∧ scanStatements state saw skip (char :: rest) = true) ∨
      (¬ (IsBareText (char, mark) ∧ saw = true) ∧ scanStatements state saw skip (char :: rest) =
        scanStatements after (saw || decide ((char, mark) = (';', Mark.code))) ahead rest))

variable {state : ScanState} {saw skip : Bool} {char : Char} {rest : List Char}

private theorem Tracks.covered (mark : Mark) (after : ScanState) (ahead : Bool) (covered : mark ≠ .code)
    (read : (state.reader skip).read componentRules char rest = (mark, after.reader ahead))
    (scan : scanStatements state saw skip (char :: rest) = scanStatements after saw ahead rest) :
    Tracks state saw skip char rest := by
  refine ⟨mark, after, ahead, read, Or.inr ⟨?_, by simpa [covered] using scan⟩⟩
  rintro ⟨bare, _⟩
  cases mark with
  | code => exact covered rfl
  | opening | hidden => exact bare

private theorem Tracks.hidden (after : ScanState) (ahead : Bool)
    (read : (state.reader skip).read componentRules char rest = (.hidden, after.reader ahead))
    (scan : scanStatements state saw skip (char :: rest) = scanStatements after saw ahead rest) :
    Tracks state saw skip char rest :=
  .covered .hidden after ahead nofun read scan

private theorem tracks_bare (read : (ScanState.normal.reader false).read componentRules char rest =
      (.code, ScanState.normal.reader false))
    (scan : scanStatements .normal saw false (char :: rest) =
      if char = ';' then scanStatements .normal true false rest
      else if saw && !isspace char then true else scanStatements .normal saw false rest) :
    Tracks .normal saw false char rest := by
  refine ⟨.code, .normal, false, read, ?_⟩
  rw [scan]
  by_cases separator : char = ';'
  · subst separator
    exact Or.inr ⟨by simp [IsBareText], by simp⟩
  by_cases second : saw = true ∧ isspace char = false
  · exact Or.inl ⟨⟨second.2, separator⟩, second.1, by simp [separator, second]⟩
  · refine Or.inr ⟨?_, ?_⟩
    · rintro ⟨⟨solid, _⟩, saw⟩
      exact second ⟨saw, solid⟩
    · cases saw <;> cases solid : isspace char <;> simp_all

private theorem tracks_normal : Tracks .normal saw false char rest := by
  by_cases single : char = '\''
  · subst single
    exact .covered .opening .sQuote false nofun rfl rfl
  by_cases double : char = '"'
  · subst double
    exact .covered .opening .dQuote false nofun rfl rfl
  by_cases back : char = '`'
  · subst back
    exact .covered .opening .bQuote false nofun rfl rfl
  by_cases dash : char = '-' ∧ rest.head? = some '-'
  · apply Tracks.hidden .lineComment true
    · simp [Reader.read, Reader.readBare, ScanState.reader, ScanState.mode, dash, componentRules]
    · simp [scanStatements, dash]
  by_cases hash : char = '#'
  · subst hash
    exact .hidden .lineComment false rfl rfl
  by_cases block : char = '/' ∧ rest.head? = some '*'
  · apply Tracks.hidden .blockComment true
    · simp [Reader.read, Reader.readBare, ScanState.reader, ScanState.mode, block, componentRules]
    · simp [scanStatements, block]
  · apply tracks_bare
    · simp [Reader.read, Reader.readBare, ScanState.reader, ScanState.mode, componentRules, single, double, back,
        dash, hash, block]
    · have dashes : ¬ (char = '-' ∧ rest.head?.getD (Char.ofNat 0) = '-') := by
        rwa [headD_eq rest '-' (by decide)]
      have blocks : ¬ (char = '/' ∧ rest.head?.getD (Char.ofNat 0) = '*') := by
        rwa [headD_eq rest '*' (by decide)]
      simp only [scanStatements, single, double, back, dashes, hash, blocks, if_false, Bool.false_eq_true]

/-- The three kinds of literal differ in their closing character and in whether a
backslash escapes it. -/
private theorem tracks_literal (close : Char) (escapes : Bool)
    (read : (state.reader false).read componentRules char rest =
      (.hidden, (state.reader false).readLiteral close escapes char))
    (scan : scanStatements state saw false (char :: rest) =
      if escapes ∧ char = '\\' then scanStatements state saw true rest
      else if char = close then scanStatements .normal saw false rest
      else scanStatements state saw false rest) : Tracks state saw false char rest := by
  by_cases escaped : escapes = true ∧ char = '\\'
  · apply Tracks.hidden state true
    · rw [read, Reader.readLiteral, if_pos escaped]
      rfl
    · rw [scan, if_pos escaped]
  by_cases closed : char = close
  · apply Tracks.hidden .normal false
    · rw [read, Reader.readLiteral, if_neg escaped, if_pos closed]
      rfl
    · rw [scan, if_neg escaped, if_pos closed]
  · apply Tracks.hidden state false
    · rw [read, Reader.readLiteral, if_neg escaped, if_neg closed]
    · rw [scan, if_neg escaped, if_neg closed]

theorem scan_tracks (state : ScanState) (saw skip : Bool) (char : Char) (rest : List Char) :
    Tracks state saw skip char rest := by
  cases skip with
  | true => exact .hidden state false rfl rfl
  | false =>
    cases state with
    | normal => exact tracks_normal
    | sQuote => exact tracks_literal '\'' true rfl (by simp [scanStatements])
    | dQuote => exact tracks_literal '"' true rfl (by simp [scanStatements])
    | bQuote => exact tracks_literal '`' false rfl (by simp [scanStatements])
    | lineComment =>
      by_cases ended : char = '\n'
      · subst ended
        exact .hidden .normal false rfl rfl
      · apply Tracks.hidden .lineComment false
        · simp [Reader.read, ScanState.reader, ScanState.mode, ended]
        · simp [scanStatements, ended]
    | blockComment =>
      by_cases ended : char = '*' ∧ rest.head? = some '/'
      · apply Tracks.hidden .normal true
        · simp [Reader.read, ScanState.reader, ScanState.mode, ended]
        · simp [scanStatements, ended]
      · have closes : ¬ (char = '*' ∧ rest.head?.getD (Char.ofNat 0) = '/') := by
          rwa [headD_eq rest '/' (by decide)]
        apply Tracks.hidden .blockComment false
        · simp [Reader.read, ScanState.reader, ScanState.mode, ended]
        · simp [scanStatements, closes]

theorem scan_iff (text : List Char) (state : ScanState) (saw skip : Bool) :
    scanStatements state saw skip text = true ↔
      saw = true ∧ (∃ item ∈ marks componentRules (state.reader skip) text, IsBareText item) ∨
        Separates ';' IsBareText (marks componentRules (state.reader skip) text) := by
  induction text generalizing state saw skip with
  | nil => simp [scanStatements, marks, separates_nil]
  | cons char rest ih =>
    obtain ⟨mark, after, ahead, read, ⟨bare, separated, stops⟩ | ⟨passes, scan⟩⟩ :=
      scan_tracks state saw skip char rest
    · rw [stops, marks, read]
      simp [separated, bare]
    · rw [scan, ih, marks, read, separates_cons]
      simp only [List.mem_cons, exists_eq_or_imp, Bool.or_eq_true, decide_eq_true_eq]
      cases saw with
      | false => simp
      | true =>
        have covered : ¬ IsBareText (char, mark) := fun bare => passes ⟨bare, rfl⟩
        simp only [true_or, true_and, covered, false_or]
        constructor
        · rintro (later | later)
          · exact Or.inl later
          · exact Or.inr (Or.inr later)
        · rintro (later | ⟨_, later⟩ | later)
          · exact Or.inl later
          · exact Or.inl later
          · exact Or.inr later

theorem isMultiStatement_iff (sql : String) : isMultiStatement sql = true ↔ ShowsSecondStatement sql := by
  simp [isMultiStatement, scan_iff, ShowsSecondStatement, ScanState.reader, ScanState.mode]

/-- What the stacked-statement guard is for: a stacked text is found out, and a
connection that did not ask for stacked statements turns it away. -/
def CatchesStacked (sql : String) : Prop :=
  Stacked sql → isMultiStatement sql = true ∧
    ∀ (table : GuardTable) (job : QueryJob) (pending now : Int), job.sql = sql → job.statement = none →
      table.allowsMultiStatement job.connectionHandle = false → (table.checkGuards job pending now).2 ≠ .none

theorem checkGuards_rejects (table : GuardTable) (job : QueryJob) (pending now : Int) (plain : job.statement = none)
    (single : table.allowsMultiStatement job.connectionHandle = false) (multi : isMultiStatement job.sql = true) :
    (table.checkGuards job pending now).2 ≠ .none := by
  have denied : ∀ guards, ({ table with guards := guards } : GuardTable).allowsMultiStatement job.connectionHandle = false :=
    fun _ => single
  simp only [GuardTable.checkGuards, plain, denied, multi]
  split <;> simp

/-- How the check stands inside a passage. -/
def Passage.component : Passage → Reader
  | .plain reader => reader
  | .line skip => { mode := .line, skip := skip }
  | .block skip => { mode := .block, skip := skip }
  | .closing => { skip := 1 }

/-- How the server stands there, once the passage is blank. -/
def Passage.server : Passage → Reader
  | .plain reader => reader
  | _ => {}

theorem read_executed (reader : Reader) (plain : reader.executed = false) (char : Char) (rest : List Char) :
    (reader.read componentRules char rest).2.executed = false := by
  unfold Reader.read
  split
  · exact plain
  · simp only [Reader.readBare, componentRules, plain]
    split_ifs <;> simp_all
  all_goals
    simp only [Reader.readLiteral]
    split_ifs <;> simp [plain]

theorem head_blankMisread_cons (passage : Passage) (char : Char) (rest : List Char) :
    (blankMisread passage (char :: rest)).head? = some char ∨ (blankMisread passage (char :: rest)).head? = some ' ' := by
  cases passage with
  | plain reader =>
    rw [blankMisread]
    split_ifs
    · exact Or.inr rfl
    · exact Or.inr rfl
    · exact Or.inl rfl
  | line skip => cases skip <;> exact Or.inr rfl
  | block skip => cases skip <;> exact Or.inr rfl
  | closing => exact Or.inr rfl

theorem head_blankMisread {passage : Passage} {text : List Char} {char : Char} (solid : char ≠ ' ')
    (head : (blankMisread passage text).head? = some char) : text.head? = some char := by
  cases text with
  | nil => exact head
  | cons first rest =>
    rcases head_blankMisread_cons passage first rest with kept | blank
    · rw [← head, kept, List.head?_cons]
    · exact absurd (Option.some.inj (head.symm.trans blank)) solid

/-- The check takes a comment for one here that the server does not. -/
def OpensMisread (reader : Reader) (char : Char) (rest : List Char) : Prop :=
  reader.mode = .bare ∧ reader.skip = 0 ∧
    (char = '-' ∧ rest.head? = some '-' ∧ serverRules.dash rest.tail.head? = false ∨
      char = '/' ∧ rest.head? = some '*' ∧ rest.tail.head? = some '!')

theorem blankMisread_reads {reader : Reader} {char : Char} {rest : List Char} (same : ¬ OpensMisread reader char rest) :
    blankMisread (.plain reader) (char :: rest) =
      char :: blankMisread (.plain (reader.read serverRules char rest).2) rest := by
  rw [blankMisread, if_neg, if_neg]
  · exact fun found => same ⟨found.1, found.2.1, Or.inr found.2.2⟩
  · exact fun found => same ⟨found.1, found.2.1, Or.inl found.2.2⟩

/-- Nothing is blanked inside a literal or a comment. -/
theorem blankMisread_covered {reader : Reader} (covered : ¬ (reader.mode = .bare ∧ reader.skip = 0)) (char : Char)
    (rest : List Char) : blankMisread (.plain reader) (char :: rest) =
      char :: blankMisread (.plain (reader.read serverRules char rest).2) rest :=
  blankMisread_reads fun opens => covered ⟨opens.1, opens.2.1⟩

theorem head_blankMisread_covered {reader : Reader} (covered : ¬ (reader.mode = .bare ∧ reader.skip = 0))
    (text : List Char) : (blankMisread (.plain reader) text).head? = text.head? := by
  cases text with
  | nil => rfl
  | cons char rest => rw [blankMisread_covered covered, List.head?_cons, List.head?_cons]

private theorem readBare_code {rules : Rules} {reader : Reader} (plain : reader.executed = false) {char : Char}
    {rest : List Char} (single : char ≠ '\'') (double : char ≠ '"') (back : char ≠ '`') (hash : char ≠ '#')
    (dash : ¬ (char = '-' ∧ rest.head? = some '-')) (block : ¬ (char = '/' ∧ rest.head? = some '*')) :
    reader.readBare rules char rest = (.code, reader) := by
  have dashes : ¬ (char = '-' ∧ rest.head? = some '-' ∧ rules.dash rest.tail.head? = true) :=
    fun opens => dash ⟨opens.1, opens.2.1⟩
  simp only [Reader.readBare, single, double, back, hash, dashes, block, plain, if_false, Bool.false_eq_true, false_and]

private theorem readBare_dash {rules : Rules} {reader : Reader} {rest : List Char}
    (opens : rules.dash rest.head? = true) : reader.readBare rules '-' ('-' :: rest) =
      (.hidden, { reader with mode := .line, skip := 1 }) := by
  simp [Reader.readBare, opens]

private theorem readBare_block {rules : Rules} {reader : Reader} {rest : List Char} (inert : rest.head? ≠ some '!') :
    reader.readBare rules '/' ('*' :: rest) = (.hidden, { reader with mode := .block, skip := 1 }) := by
  simp [Reader.readBare, inert]

/-- Elsewhere both read alike, and the blanks further on change nothing for the server. -/
private theorem readBare_blankMisread {reader : Reader} (bare : reader.mode = .bare) (unskipped : reader.skip = 0)
    (plain : reader.executed = false) {char : Char} {rest : List Char} (same : ¬ OpensMisread reader char rest) :
    reader.readBare serverRules char (blankMisread (.plain (reader.readBare serverRules char rest).2) rest) =
        reader.readBare serverRules char rest ∧
      reader.readBare componentRules char rest = reader.readBare serverRules char rest := by
  by_cases single : char = '\''
  · subst single
    exact ⟨rfl, rfl⟩
  by_cases double : char = '"'
  · subst double
    exact ⟨rfl, rfl⟩
  by_cases back : char = '`'
  · subst back
    exact ⟨rfl, rfl⟩
  by_cases hash : char = '#'
  · subst hash
    exact ⟨rfl, rfl⟩
  by_cases dash : char = '-' ∧ rest.head? = some '-'
  · obtain ⟨rfl, head⟩ := dash
    obtain ⟨after, rfl⟩ := List.head?_eq_some_iff.mp head
    have opens : serverRules.dash after.head? = true := by
      by_contra closed
      exact same ⟨bare, unskipped, Or.inl ⟨rfl, head, by simpa using closed⟩⟩
    rw [readBare_dash opens, readBare_dash rfl, blankMisread_covered (by simp)]
    refine ⟨readBare_dash ?_, rfl⟩
    rw [head_blankMisread_covered (by simp [Reader.read])]
    exact opens
  by_cases block : char = '/' ∧ rest.head? = some '*'
  · obtain ⟨rfl, head⟩ := block
    obtain ⟨after, rfl⟩ := List.head?_eq_some_iff.mp head
    have inert : after.head? ≠ some '!' := fun bang => same ⟨bare, unskipped, Or.inr ⟨rfl, head, bang⟩⟩
    rw [readBare_block inert, readBare_block inert, blankMisread_covered (by simp)]
    refine ⟨readBare_block ?_, rfl⟩
    rwa [head_blankMisread_covered (by simp [Reader.read])]
  · rw [readBare_code plain single double back hash dash block, readBare_code plain single double back hash dash block]
    refine ⟨readBare_code plain single double back hash ?_ ?_, rfl⟩
    · exact fun found => dash ⟨found.1, head_blankMisread (by decide) found.2⟩
    · exact fun found => block ⟨found.1, head_blankMisread (by decide) found.2⟩

private theorem read_blankMisread {reader : Reader} (plain : reader.executed = false) {char : Char} {rest : List Char}
    (same : ¬ OpensMisread reader char rest) :
    reader.read serverRules char (blankMisread (.plain (reader.read serverRules char rest).2) rest) =
        reader.read serverRules char rest ∧
      reader.read componentRules char rest = reader.read serverRules char rest := by
  obtain ⟨mode, skip, executed⟩ := reader
  cases skip with
  | succ skip => exact ⟨rfl, rfl⟩
  | zero =>
    cases mode with
    | bare => exact readBare_blankMisread rfl rfl plain same
    | single | double | back | line => exact ⟨rfl, rfl⟩
    | block =>
      refine ⟨?_, rfl⟩
      by_cases ends : char = '*' ∧ rest.head? = some '/'
      · have kept : ∀ text, (blankMisread (.plain { mode := .bare, skip := 1, executed := executed }) text).head? =
            text.head? := head_blankMisread_covered (by simp)
        simp only [Reader.read, if_pos ends, kept]
      · have kept : ∀ text, (blankMisread (.plain { mode := .block, skip := 0, executed := executed }) text).head? =
            text.head? := head_blankMisread_covered (by simp)
        simp only [Reader.read, if_neg ends, kept]

/-- What only the check takes for a comment counts for neither: hidden from the one, blank for the other. -/
def SameItem (seen told : Char × Mark) : Prop :=
  (seen = (';', .code) ↔ told = (';', .code)) ∧ (IsBareText seen ↔ IsBareText told)

theorem sameItem_blank (char : Char) : SameItem (char, .hidden) (' ', .code) := by
  simp [SameItem, IsBareText, show isspace ' ' = true from rfl]

/-- As far as the separators and the bare text go, the check reads the text as the server reads the blanked one. -/
def ReadAlike (passage : Passage) (text : List Char) : Prop :=
  List.Forall₂ SameItem (marks componentRules passage.component text)
    (marks serverRules passage.server (blankMisread passage text))

private theorem ReadAlike.blank {passage next : Passage} {char : Char} {rest : List Char} (here : passage.server = {})
    (there : next.server = {}) (seen : passage.component.read componentRules char rest = (.hidden, next.component))
    (told : blankMisread passage (char :: rest) = ' ' :: blankMisread next rest) (later : ReadAlike next rest) :
    ReadAlike passage (char :: rest) := by
  rw [ReadAlike, there] at later
  rw [ReadAlike, marks, seen, told, here]
  exact .cons (sameItem_blank char) later

private theorem ReadAlike.kept {reader : Reader} (plain : reader.executed = false) {char : Char} {rest : List Char}
    (same : ¬ OpensMisread reader char rest) (later : ReadAlike (.plain (reader.read serverRules char rest).2) rest) :
    ReadAlike (.plain reader) (char :: rest) := by
  have told := blankMisread_reads same
  obtain ⟨server, component⟩ := read_blankMisread plain same
  rw [ReadAlike, told, Passage.component, Passage.server, marks, marks, component, server]
  exact .cons ⟨Iff.rfl, Iff.rfl⟩ later

theorem read_alike (text : List Char) (passage : Passage) (plain : passage.server.executed = false) :
    ReadAlike passage text := by
  induction text generalizing passage with
  | nil => cases passage <;> exact .nil
  | cons char rest ih =>
    cases passage with
    | line skip =>
      cases skip with
      | zero =>
        by_cases ended : char = '\n'
        · subst ended
          exact .blank rfl rfl rfl rfl (ih (.plain {}) rfl)
        · exact .blank rfl rfl (by simp [Reader.read, Passage.component, ended]) (by simp [blankMisread, ended])
            (ih (.line 0) rfl)
      | succ skip => exact .blank rfl rfl rfl rfl (ih (.line skip) rfl)
    | block skip =>
      cases skip with
      | zero =>
        by_cases ended : char = '*' ∧ rest.head? = some '/'
        · exact .blank rfl rfl (by simp [Reader.read, Passage.component, ended]) (by simp [blankMisread, ended])
            (ih .closing rfl)
        · exact .blank rfl rfl (by simp [Reader.read, Passage.component, ended]) (by simp [blankMisread, ended])
            (ih (.block 0) rfl)
      | succ skip => exact .blank rfl rfl rfl rfl (ih (.block skip) rfl)
    | closing => exact .blank rfl rfl rfl rfl (ih (.plain {}) rfl)
    | plain reader =>
      by_cases misread : OpensMisread reader char rest
      · obtain ⟨mode, skip, executed⟩ := reader
        obtain ⟨rfl, rfl, opens⟩ := misread
        cases plain
        obtain ⟨rfl, head, blank⟩ | ⟨rfl, head, bang⟩ := opens
        · exact .blank rfl rfl (by simp [Reader.read, Reader.readBare, Passage.component, head, componentRules])
            (by rw [blankMisread, if_pos ⟨rfl, rfl, rfl, head, blank⟩]) (ih (.line 1) rfl)
        · exact .blank rfl rfl (by simp [Reader.read, Reader.readBare, Passage.component, head, componentRules])
            (by simp [blankMisread, head, bang]) (ih (.block 1) rfl)
      · have next : (reader.read serverRules char rest).2.executed = false := by
          have component := (read_blankMisread plain misread).2
          rw [Passage.server] at component
          rw [← component]
          exact read_executed reader plain char rest
        exact .kept plain misread (ih (.plain _) next)

/-- Bare text shows to the check where it shows to the server with the misread comments blanked. -/
theorem shows_iff_staysStacked (sql : String) : ShowsSecondStatement sql ↔ StaysStacked sql :=
  separates_congr (read_alike sql.toList (.plain {}) rfl)

/-- No `--` that the server would not take for a comment, and no `/*!`. -/
def SameComments (text : List Char) : Prop :=
  ∀ before rest, (text = before ++ '-' :: '-' :: rest → serverRules.dash rest.head? = true) ∧
    (text = before ++ '/' :: '*' :: rest → rest.head? ≠ some '!')

private theorem SameComments.tail (same : SameComments (char :: rest)) : SameComments rest := by
  intro before after
  refine ⟨fun found => (same (char :: before) after).1 ?_, fun found => (same (char :: before) after).2 ?_⟩ <;>
    rw [found, List.cons_append]

private theorem SameComments.reads (same : SameComments (char :: rest)) (reader : Reader) :
    ¬ OpensMisread reader char rest := by
  rintro ⟨-, -, ⟨rfl, head, closed⟩ | ⟨rfl, head, bang⟩⟩
  · obtain ⟨after, rfl⟩ := List.head?_eq_some_iff.mp head
    exact Bool.false_ne_true (closed.symm.trans ((same [] after).1 rfl))
  · obtain ⟨after, rfl⟩ := List.head?_eq_some_iff.mp head
    exact (same [] after).2 rfl bang

theorem blankMisread_same (text : List Char) (same : SameComments text) (reader : Reader) :
    blankMisread (.plain reader) text = text := by
  induction text generalizing reader with
  | nil => rfl
  | cons char rest ih =>
    have told := blankMisread_reads (same.reads reader)
    rw [told, ih same.tail]

/-- A stacked text is found out exactly when it stays stacked, by more than literals, with blanks over the comments
that only the check sees. Without such comments the blanks change nothing. -/
theorem catches_stacked_iff (sql : String) :
    (CatchesStacked sql ↔ (Stacked sql → StaysStacked sql)) ∧
      (SameComments sql.toList → (StaysStacked sql ↔ Separates ';' IsBareText (marks serverRules {} sql.toList))) := by
  constructor
  · constructor
    · intro catches stacked
      rw [← shows_iff_staysStacked, ← isMultiStatement_iff]
      exact (catches stacked).1
    · intro stays stacked
      have multi : isMultiStatement sql = true := by
        rw [isMultiStatement_iff, shows_iff_staysStacked]
        exact stays stacked
      refine ⟨multi, ?_⟩
      intro table job pending now same plain single
      subst same
      exact checkGuards_rejects table job pending now plain single multi
  · intro same
    rw [StaysStacked, blankMisread_same sql.toList same]

/-- The server takes `--1` for arithmetic; the check drops the rest of the line. -/
theorem misses_dashes : ¬ ∀ sql, CatchesStacked sql := by
  intro always
  have stacked : Stacked "SELECT 1--1;DROP TABLE t" := by
    refine ⟨"SELECT 1--1".toList.map (·, .code), "DROP TABLE t".toList.map (·, .code), rfl, ('D', .code), ?_, rfl⟩
    exact List.mem_cons_self
  have missed : isMultiStatement "SELECT 1--1;DROP TABLE t" = false := by decide
  have found := (always _ stacked).1
  simp [missed] at found

end OmpMySQL
