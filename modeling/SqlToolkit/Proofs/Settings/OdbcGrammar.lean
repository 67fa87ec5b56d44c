import SqlToolkit.Connect
import SqlToolkit.Proofs.Text.Boundary
import SqlToolkit.Proofs.Text.Pieces
import SqlToolkit.Proofs.Written

/-!
# ODBC connection strings as a driver manager reads them

Attributes `KEY=value` stand between semicolons. A value that begins with a brace goes on to the
closing one, and a closing brace within it is doubled; any other value goes on to the next
semicolon. A string has one reading at most. The string of a connection writes the name of the driver
in braces and every other value as it is, so it is read as the attributes that it was made from just
if the name has no closing brace and every other value is one that needs no braces.
-/

namespace SqlToolkit.OdbcString

open SqlToolkit.Text

/-! ## The grammar -/

/-- Text as it stands in braces. -/
def doubled (text : List Char) : List Char :=
  text.flatMap fun c => if c = '}' then ['}', '}'] else [c]

/-- A value that needs no braces. -/
def IsBare (value : List Char) : Prop := ';' ∉ value ∧ '{' ∉ value.head?

instance (value : List Char) : Decidable (IsBare value) := inferInstanceAs (Decidable (_ ∧ _))

inductive Spells : List Char → List Char → Prop where
  | braced (value : List Char) : Spells ('{' :: (doubled value ++ ['}'])) value
  | bare {value : List Char} (h : IsBare value) : Spells value value

/-- A key ends where the equals sign stands. -/
def IsKey (key : String) : Prop := '=' ∉ key.toList ∧ ';' ∉ key.toList

instance (key : String) : Decidable (IsKey key) := inferInstanceAs (Decidable (_ ∧ _))

/-- Attributes with a semicolon before each. -/
inductive Listed : List Char → List (String × String) → Prop where
  | nil : Listed [] []
  | cons {key value : String} {spelled rest : List Char} {more : List (String × String)}
      (hkey : IsKey key) (hvalue : Spells spelled value.toList) (hmore : Listed rest more) :
      Listed (';' :: (key.toList ++ '=' :: (spelled ++ rest))) ((key, value) :: more)

def Reads (text : String) (attributes : List (String × String)) : Prop :=
  Listed (';' :: text.toList) attributes

/-! ## Where a value ends -/

variable {text other rest more : List Char}

theorem doubled_cons (c : Char) (text : List Char) :
    doubled (c :: text) = (if c = '}' then ['}', '}'] else [c]) ++ doubled text :=
  List.flatMap_cons

theorem doubled_brace (text : List Char) : doubled ('}' :: text) = '}' :: '}' :: doubled text := rfl

theorem doubled_of_ne {c : Char} (h : c ≠ '}') (text : List Char) :
    doubled (c :: text) = c :: doubled text := by
  rw [doubled_cons, if_neg h]
  rfl

theorem doubled_of_not_mem (h : '}' ∉ text) : doubled text = text := by
  induction text with
  | nil => rfl
  | cons c text ih =>
    obtain ⟨hc, htext⟩ := not_or.mp fun hmem => h (List.mem_cons.mpr hmem)
    rw [doubled_of_ne (Ne.symm hc), ih htext]

/-- With closing braces of its own before it, doubled text is too long to be the text. -/
theorem braces_doubled_ne (hmore : OpensWith ';' more) (text : List Char) (braces : Nat) :
    List.replicate (braces + 1) '}' ++ (doubled text ++ '}' :: rest) ≠ text ++ '}' :: more := by
  induction text generalizing braces with
  | nil =>
    intro h
    have hhead : '}' ∈ more.head? := by
      rw [← (List.cons.inj h).2]
      cases braces <;> simp [doubled, List.replicate_succ]
    exact absurd (hmore _ hhead) (by decide)
  | cons c text ih =>
    intro h
    obtain ⟨rfl, htail⟩ := List.cons.inj h
    -- one brace was passed and two were doubled
    refine ih (braces + 1) (Eq.trans ?_ htail)
    simp [List.replicate_succ', doubled_brace]

/-- Doubled text is the text just if it has no closing brace. -/
theorem of_doubled_eq (hmore : OpensWith ';' more)
    (h : doubled text ++ '}' :: rest = text ++ '}' :: more) : '}' ∉ text ∧ rest = more := by
  induction text with
  | nil => exact ⟨List.not_mem_nil, (List.cons.inj h).2⟩
  | cons c text ih =>
    by_cases hc : c = '}'
    · subst hc
      exact absurd (List.cons.inj h).2 (braces_doubled_ne hmore text 0)
    · rw [doubled_of_ne hc] at h
      obtain ⟨htext, hrest⟩ := ih (List.cons.inj h).2
      exact ⟨by simp [Ne.symm hc, htext], hrest⟩

/-- A value that begins with a brace is not the one that the text in its braces stands for. -/
theorem brace_doubled_ne (hmore : OpensWith ';' more) (text : List Char) :
    '{' :: (doubled text ++ '}' :: rest) ≠ text ++ more := by
  induction text with
  | nil =>
    rintro rfl
    exact absurd (hmore '{' rfl) (by decide)
  | cons c text ih =>
    intro h
    obtain ⟨rfl, htail⟩ := List.cons.inj h
    exact ih htail

def readBraced : List Char → Option (List Char × List Char)
  | [] => none
  | [c] => if c = '}' then some ([], []) else none
  | c :: next :: rest =>
    if c ≠ '}' then (readBraced (next :: rest)).map fun read => (c :: read.1, read.2)
    else if next ≠ '}' then some ([], next :: rest)
    else (readBraced rest).map fun read => ('}' :: read.1, read.2)

theorem readBraced_doubled (hrest : OpensWith ';' rest) (text : List Char) :
    readBraced (doubled text ++ '}' :: rest) = some (text, rest) := by
  induction text with
  | nil =>
    cases rest with
    | nil => rfl
    | cons next rest =>
      have hnext : next = ';' := hrest next rfl
      simp [doubled, readBraced, hnext]
  | cons c text ih =>
    by_cases hc : c = '}'
    · simp [hc, doubled_brace, readBraced, ih]
    · obtain ⟨next, tail, htail⟩ : ∃ next tail, doubled text ++ '}' :: rest = next :: tail :=
        List.exists_cons_of_ne_nil (by simp)
      rw [htail] at ih
      simp [hc, doubled_of_ne hc, htail, readBraced, ih]

theorem IsBare.append_ne {value : List Char} (h : IsBare value) (hmore : OpensWith ';' more)
    (tail : List Char) : value ++ more ≠ '{' :: tail := by
  intro heq
  cases value with
  | nil =>
    obtain rfl : more = '{' :: tail := heq
    exact absurd (hmore '{' rfl) (by decide)
  | cons c value =>
    obtain ⟨rfl, -⟩ := List.cons.inj heq
    exact h.2 rfl

theorem IsBare.takeWhile {value : List Char} (h : IsBare value) (hrest : OpensWith ';' rest) :
    (value ++ rest).takeWhile (· != ';') = value := by
  refine (takeWhile_append_of_stopsAt (fun c hc => ?_) fun c hc => ?_).1
  · simpa using fun heq : c = ';' => h.1 (heq ▸ hc)
  · simpa using hrest c hc

/-- The end of a value and the value itself can be told from the text. -/
theorem Spells.inj {spelled respelled value revalue : List Char} (h : Spells spelled value)
    (h' : Spells respelled revalue) (hrest : OpensWith ';' rest) (hmore : OpensWith ';' more)
    (heq : spelled ++ rest = respelled ++ more) : value = revalue ∧ rest = more := by
  cases h with
  | braced =>
    cases h' with
    | braced =>
      simp only [List.cons_append, List.append_assoc, List.nil_append] at heq
      have hread := congrArg readBraced (List.cons.inj heq).2
      rw [readBraced_doubled hrest, readBraced_doubled hmore] at hread
      simpa using hread
    | bare hbare => exact absurd heq.symm (hbare.append_ne hmore _)
  | bare hbare =>
    cases h' with
    | braced => exact absurd heq (hbare.append_ne hrest _)
    | bare hbare' =>
      have hvalue := congrArg (List.takeWhile (· != ';')) heq
      rw [hbare.takeWhile hrest, hbare'.takeWhile hmore] at hvalue
      subst hvalue
      exact ⟨rfl, List.append_cancel_left heq⟩

theorem Listed.opensWith {attributes : List (String × String)} (h : Listed text attributes) :
    OpensWith ';' text := by
  cases h with
  | nil => exact opensWith_nil
  | cons => exact opensWith_cons

/-- The key of an attribute and the text behind it can be told from the text. -/
theorem IsKey.inj {key rekey : String} (h : IsKey key) (h' : IsKey rekey)
    (heq : key.toList ++ '=' :: rest = rekey.toList ++ '=' :: more) : key = rekey ∧ rest = more := by
  have hcut := congrArg (cutAtChar? '=') heq
  rw [cutAtChar?_append h.1, cutAtChar?_append h'.1, Option.some.injEq, Prod.mk.injEq] at hcut
  exact ⟨String.toList_inj.mp hcut.1, hcut.2⟩

/-- A text is read in one way at most. -/
theorem Listed.unique {attributes others : List (String × String)} (h : Listed text attributes)
    (h' : Listed text others) : attributes = others := by
  induction h generalizing others with
  | nil =>
    cases h'
    rfl
  | cons hkey hvalue hmore ih =>
    generalize heq : (';' :: _ : List Char) = text at h'
    cases h' with
    | nil => cases heq
    | cons hkey' hvalue' hmore' =>
      obtain ⟨rfl, hbehind⟩ := hkey.inj hkey' (List.cons.inj heq).2
      obtain ⟨hsame, rfl⟩ := hvalue.inj hvalue' hmore.opensWith hmore'.opensWith hbehind
      rw [String.toList_inj.mp hsame, ih hmore']

/-- What stands in the text of attributes: a key, a way to write the value, and the others. -/
theorem Listed.of_cons {key rekey value : String} {others : List (String × String)}
    (hkey : IsKey key)
    (h : Listed (';' :: (key.toList ++ '=' :: text)) ((rekey, value) :: others)) :
    ∃ spelled rest, text = spelled ++ rest ∧ Spells spelled value.toList ∧ Listed rest others := by
  generalize heq : (';' :: _ : List Char) = whole at h
  cases h with
  | cons hkey' hvalue hmore =>
    obtain ⟨-, hbehind⟩ := hkey.inj hkey' (List.cons.inj heq).2
    exact ⟨_, _, hbehind, hvalue, hmore⟩

/-- A value that is written as it is is read as it is just if it needs no braces. -/
theorem listed_bare_iff {key value : String} {others : List (String × String)} (hkey : IsKey key)
    (hrest : OpensWith ';' rest) :
    Listed (';' :: (key.toList ++ '=' :: (value.toList ++ rest))) ((key, value) :: others) ↔
      IsBare value.toList ∧ Listed rest others := by
  constructor
  · intro h
    obtain ⟨spelled, behind, heq, hvalue, hmore⟩ := h.of_cons hkey
    generalize value.toList = chars at *
    cases hvalue with
    | braced =>
      simp only [List.cons_append, List.append_assoc, List.nil_append] at heq
      exact absurd heq.symm (brace_doubled_ne hrest _)
    | bare hbare => exact ⟨hbare, List.append_cancel_left heq ▸ hmore⟩
  · rintro ⟨hbare, hmore⟩
    exact .cons hkey (.bare hbare) hmore

/-- A value in braces is read as it is just if it has no closing brace. -/
theorem listed_braced_iff {key value : String} {others : List (String × String)} (hkey : IsKey key)
    (hrest : OpensWith ';' rest) :
    Listed (';' :: (key.toList ++ '=' :: ('{' :: (value.toList ++ '}' :: rest))))
        ((key, value) :: others) ↔
      '}' ∉ value.toList ∧ Listed rest others := by
  constructor
  · intro h
    obtain ⟨spelled, behind, heq, hvalue, hmore⟩ := h.of_cons hkey
    generalize value.toList = chars at *
    cases hvalue with
    | braced =>
      simp only [List.cons_append, List.append_assoc, List.nil_append] at heq
      obtain ⟨hnone, rfl⟩ := of_doubled_eq hrest (List.cons.inj heq).2.symm
      exact ⟨hnone, hmore⟩
    | bare hbare => exact absurd heq.symm (hbare.append_ne hmore.opensWith _)
  · rintro ⟨hnone, hmore⟩
    have hdoubled : doubled value.toList = value.toList := doubled_of_not_mem hnone
    have hlisted := Listed.cons hkey (.braced value.toList) hmore
    simpa [hdoubled] using hlisted

/-! ## The string of a connection -/

/-- The attributes that have a value, as they are given. -/
def given (attributes : Value.Entries) : List (String × String) :=
  (attributes.filter fun entry => !entry.2.isUnset).map fun entry =>
    (entry.1.display, entry.2.display)

/-- Attributes with their values as they are, a semicolon before each. -/
def bareText (entries : List (String × String)) : List Char :=
  entries.flatMap fun entry => ';' :: (entry.1.toList ++ '=' :: entry.2.toList)

theorem opensWith_bareText (entries : List (String × String)) :
    OpensWith ';' (bareText entries) := by
  cases entries with
  | nil => exact opensWith_nil
  | cons => simp [bareText, OpensWith]

theorem listed_bareText_iff {entries : List (String × String)}
    (hkeys : ∀ entry ∈ entries, IsKey entry.1) :
    Listed (bareText entries) entries ↔ ∀ entry ∈ entries, IsBare entry.2.toList := by
  induction entries with
  | nil => exact iff_of_true .nil fun _ h => absurd h List.not_mem_nil
  | cons entry entries ih =>
    have hkey := hkeys entry List.mem_cons_self
    have hrest := ih fun other hother => hkeys other (List.mem_cons_of_mem entry hother)
    rw [List.forall_mem_cons, ← hrest, ← listed_bare_iff hkey (opensWith_bareText entries)]
    simp [bareText]

theorem toList_intercalate (first : String) (more : List String) :
    ';' :: (";".intercalate (first :: more)).toList =
      (first :: more).flatMap fun piece => ';' :: piece.toList := by
  rw [String.toList_intercalate]
  induction more generalizing first with
  | nil => simp
  | cons next more ih =>
    rw [List.flatMap_cons, ← ih next, List.map_cons, List.map_cons, List.intercalate_cons_cons]
    simp

/-- The name of a driver in braces, and other attributes. -/
theorem toList_build (driver : String) (attributes : Value.Entries) :
    ';' :: (build ((.text "DRIVER", .text ("\x7b" ++ driver ++ "\x7d")) :: attributes)).toList =
      ';' :: ("DRIVER".toList
        ++ '=' :: ('{' :: (driver.toList ++ '}' :: bareText (given attributes)))) := by
  have hset : (Value.text ("\x7b" ++ driver ++ "\x7d")).isUnset = false := by
    simp [Value.isUnset]
  unfold build bareText given
  rw [List.filter_cons_of_pos (by simp [hset]), List.map_cons, toList_intercalate,
    List.flatMap_cons, List.flatMap_map, List.flatMap_map]
  simp [Value.display]

/-- The string is read as the attributes just if braces are where they are needed. -/
theorem reads_build_iff (driver : String) {attributes : Value.Entries}
    (hkeys : ∀ entry ∈ attributes, IsKey entry.1.display) :
    Reads (build ((.text "DRIVER", .text ("\x7b" ++ driver ++ "\x7d")) :: attributes))
        (("DRIVER", driver) :: given attributes) ↔
      '}' ∉ driver.toList ∧ ∀ entry ∈ given attributes, IsBare entry.2.toList := by
  have hgiven : ∀ entry ∈ given attributes, IsKey entry.1 := by
    intro entry hentry
    obtain ⟨source, hsource, rfl⟩ := List.mem_map.mp hentry
    exact hkeys source (List.mem_filter.mp hsource).1
  rw [Reads, toList_build, listed_braced_iff (by decide) (opensWith_bareText _),
    listed_bareText_iff hgiven]

def driverValue (settings : Settings) (dialect : Dialect) : Value :=
  Settings.orElse settings.odbcDriver (.text (dialect.odbcDriver.getD ""))

def driverText (settings : Settings) (dialect : Dialect) : String :=
  (driverValue settings dialect).display

def others (settings : Settings) : Dialect → Value.Entries
  | .firebird =>
    [(.text "DBNAME", .text (settings.host.display ++ "/" ++ (settings.portFor .firebird).display
        ++ ":" ++ settings.database.display)),
      (.text "UID", settings.user),
      (.text "PWD", settings.password),
      (.text "CHARSET", Settings.orElse settings.charset (.text "UTF8"))]
  | dialect =>
    [(.text "DBQ", .text (settings.host.display ++ ":" ++ (settings.portFor dialect).display
        ++ "/" ++ settings.database.display)),
      (.text "UID", settings.user),
      (.text "PWD", settings.password)]

/-- All that the string is made of can be written. -/
structure Spellable (settings : Settings) (dialect : Dialect) : Prop where
  driver : (driverValue settings dialect).isWritable = true
  host : settings.host.isWritable = true
  port : (settings.portFor dialect).isWritable = true
  database : settings.database.isWritable = true
  others : ∀ entry ∈ others settings dialect, entry.2.isWritable = true

/-- The attributes that a connection is meant to have: those that are not empty. -/
def intended (settings : Settings) (dialect : Dialect) : List (String × String) :=
  ("DRIVER", driverText settings dialect) :: given (others settings dialect)

/-- The values can be written as they are: the name of the driver within braces, the others bare. -/
def NeedsNoEscape (settings : Settings) (dialect : Dialect) : Prop :=
  '}' ∉ (driverText settings dialect).toList ∧
    ∀ entry ∈ given (others settings dialect), IsBare entry.2.toList

def connectionText (settings : Settings) (dialect : Dialect) : String :=
  build ((.text "DRIVER", .text ("\x7b" ++ driverText settings dialect ++ "\x7d"))
    :: others settings dialect)

theorem write_writes {attributes : Value.Entries}
    (hkeys : ∀ entry ∈ attributes, entry.1.isWritable = true) :
    Writes (write attributes) (∀ entry ∈ attributes, entry.2.isWritable = true)
      (build attributes) := by
  refine (Writes.value _ _).congr ?_
  rw [Value.isWritable, Value.entriesWritable_iff]
  constructor
  · intro h entry hentry
    cases hunset : entry.2.isUnset with
    | true => exact Value.isWritable_of_isUnset hunset
    | false => exact (h entry (List.mem_filter.mpr ⟨hentry, by rw [hunset]; rfl⟩)).2
  · intro h entry hentry
    have hgiven := (List.mem_filter.mp hentry).1
    exact ⟨hkeys entry hgiven, h entry hgiven⟩

/-- The driver, the host, the port and the database are written before the attributes are there. -/
theorem attributes_writes (settings : Settings) (dialect : Dialect)
    (attributes : String → String → String → String → Value.Entries) :
    Writes
      (do
        return attributes (← driverName settings dialect) (← settings.host.write Value.display)
          (← (settings.portFor dialect).write Value.display)
          (← settings.database.write Value.display))
      ((driverValue settings dialect).isWritable = true ∧ settings.host.isWritable = true ∧
        (settings.portFor dialect).isWritable = true ∧ settings.database.isWritable = true ∧ True)
      (attributes ("\x7b" ++ driverText settings dialect ++ "\x7d") settings.host.display
        (settings.portFor dialect).display settings.database.display) := by
  refine (Writes.value (driverValue settings dialect) _).bind ?_
  refine (Writes.value settings.host _).bind ?_
  refine (Writes.value (settings.portFor dialect) _).bind ?_
  exact (Writes.value settings.database _).bind (.ok _)

theorem odbcCall_writes {attributes : Value.Entries}
    (hkeys : ∀ entry ∈ attributes, entry.1.isWritable = true) :
    Writes (Connecting.odbcCall attributes)
      ((∀ entry ∈ attributes, entry.2.isWritable = true) ∧ True)
      (.open .odbc [.text (build attributes)]
        [("timeout", Connecting.timeout), ("autocommit", .bool false)]) :=
  (write_writes hkeys).bind (.ok _)

/-- The string is written just if everything in it can be, and then it is the one that is asked
with. -/
theorem openCall_writes (settings : Settings) {dialect : Dialect}
    (hodbc : Driver.ofDialect dialect = .odbc) :
    Writes (Connecting.openCall settings dialect) (Spellable settings dialect)
      (.open .odbc [.text (connectionText settings dialect)]
        [("timeout", Connecting.timeout), ("autocommit", .bool false)]) := by
  have hiff (entry : Value × Value) (hentry : entry.2.isWritable = true)
      (more : Value.Entries) (hmore : others settings dialect = more) :
      (((driverValue settings dialect).isWritable = true ∧ settings.host.isWritable = true ∧
        (settings.portFor dialect).isWritable = true ∧ settings.database.isWritable = true ∧ True) ∧
        (∀ other ∈ entry :: more, other.2.isWritable = true) ∧ True) ↔
      Spellable settings dialect := by
    subst hmore
    rw [List.forall_mem_cons]
    exact ⟨fun ⟨⟨hdriver, hhost, hport, hdatabase, _⟩, ⟨_, hothers⟩, _⟩ =>
        ⟨hdriver, hhost, hport, hdatabase, hothers⟩,
      fun h => ⟨⟨h.driver, h.host, h.port, h.database, trivial⟩, ⟨hentry, h.others⟩, trivial⟩⟩
  cases dialect with
  | oracle =>
    refine Writes.congr ((attributes_writes settings .oracle fun driver host port database =>
      [(.text "DRIVER", .text driver),
       (.text "DBQ", .text (host ++ ":" ++ port ++ "/" ++ database)),
       (.text "UID", settings.user), (.text "PWD", settings.password)]).bind <|
      odbcCall_writes ?_) (hiff _ rfl _ rfl)
    simp
  | firebird =>
    refine Writes.congr ((attributes_writes settings .firebird fun driver host port database =>
      [(.text "DRIVER", .text driver),
       (.text "DBNAME", .text (host ++ "/" ++ port ++ ":" ++ database)),
       (.text "UID", settings.user), (.text "PWD", settings.password),
       (.text "CHARSET", Settings.orElse settings.charset (.text "UTF8"))]).bind <|
      odbcCall_writes ?_) (hiff _ rfl _ rfl)
    simp
  | mysql => cases hodbc
  | postgresql => cases hodbc
  | sqlite => cases hodbc

/-- If the settings can be written, a connection is asked for with a string whose one reading is
what was meant, just if no value needs an escape. If they cannot, none is asked for. -/
theorem openCall_reads_iff (settings : Settings) {dialect : Dialect}
    (hodbc : Driver.ofDialect dialect = .odbc) :
    ∃ text named,
      Writes (Connecting.openCall settings dialect) (Spellable settings dialect)
        (.open .odbc [.text text] named) ∧
      ((∀ read, Reads text read ↔ read = intended settings dialect) ↔
        NeedsNoEscape settings dialect) := by
  have hreads : Reads (connectionText settings dialect) (intended settings dialect) ↔
      NeedsNoEscape settings dialect := by
    refine reads_build_iff _ ?_
    cases dialect <;> simp only [others, List.forall_mem_cons] <;>
      exact ⟨by decide, by decide, by decide, by simp; try decide⟩
  refine ⟨_, _, openCall_writes settings hodbc, Iff.trans ?_ hreads⟩
  constructor
  · intro h
    exact (h _).mpr rfl
  · intro h read
    refine ⟨fun hread => Listed.unique hread h, ?_⟩
    rintro rfl
    exact h

/-- Texts can be written, and so can the port that belongs to the dialect. -/
theorem spellable_oracle (driver host database user password : String) :
    Spellable
      { driver := .text driver, host := .text host, database := .text database, user := .text user,
        password := .text password } .oracle where
  driver := rfl
  host := rfl
  port := (by decide +kernel : Numeral.isWritable 1521 = true)
  database := rfl
  others := by simp [others]

/-- Braces within a password and the equals sign do no harm. -/
theorem openCall_reads_iff_scott :
    ∃ text named, Connecting.openCall
        { driver := .text "oci", host := .text "ora", database := .text "XE",
          user := .text "scott", password := .text "t\x7big=e\x7dr" } .oracle =
          .ok (.open .odbc [.text text] named) ∧
      ∀ read, Reads text read ↔ read =
        [("DRIVER", "Oracle ODBC Driver"), ("DBQ", "ora:1521/XE"), ("UID", "scott"),
          ("PWD", "t\x7big=e\x7dr")] := by
  obtain ⟨text, named, hcall, hread⟩ := openCall_reads_iff
    { driver := .text "oci", host := .text "ora", database := .text "XE", user := .text "scott",
      password := .text "t\x7big=e\x7dr" } (rfl : Driver.ofDialect .oracle = .odbc)
  exact ⟨text, named, hcall.written (spellable_oracle _ _ _ _ _), hread.mpr ⟨by decide, by decide⟩⟩

/-- A semicolon within a password ends it, and what follows is read as one more user. -/
theorem semicolon_adds_user :
    ∃ text named, Connecting.openCall
        { driver := .text "oci", host := .text "ora", database := .text "XE",
          user := .text "scott", password := .text "tiger;UID=sys" } .oracle =
          .ok (.open .odbc [.text text] named) ∧
      Reads text
        [("DRIVER", "Oracle ODBC Driver"), ("DBQ", "ora:1521/XE"), ("UID", "scott"),
          ("PWD", "tiger"), ("UID", "sys")] ∧
      ¬ Reads text
        [("DRIVER", "Oracle ODBC Driver"), ("DBQ", "ora:1521/XE"), ("UID", "scott"),
          ("PWD", "tiger;UID=sys")] := by
  have hread := (@reads_build_iff "Oracle ODBC Driver"
    [(.text "DBQ", .text "ora:1521/XE"), (.text "UID", .text "scott"), (.text "PWD", .text "tiger"),
      (.text "UID", .text "sys")] (by decide)).mpr ⟨by decide, by decide⟩
  refine ⟨_, _, (openCall_writes _ rfl).written (spellable_oracle _ _ _ _ _), hread,
    fun hmeant => ?_⟩
  have hsame := Listed.unique hread hmeant
  revert hsame
  decide

end SqlToolkit.OdbcString
