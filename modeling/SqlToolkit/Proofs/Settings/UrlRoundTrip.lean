import SqlToolkit.Proofs.Number.Numeral
import SqlToolkit.Proofs.Settings.PercentText
import SqlToolkit.Settings.Url

/-!
# Connection URLs are read back

A URL is written part by part, each optional part behind its mark, with encoded texts in between.
No mark is in the text that stands before or behind it where the URL is cut, so reading the URL gives
the settings that it was written from.
-/

namespace SqlToolkit.Settings

open SqlToolkit.Text
open SqlToolkit.PercentText (Encoder)

/-! ## URLs as they are written -/

structure UrlParts where
  driver : String
  /-- The user, and the password if there is one. -/
  login : Option (String × Option String) := none
  host : String
  port : Option Nat := none
  database : Option String := none
  charset : Option String := none
  odbcDriver : Option String := none

/-- An optional part with the mark before it. -/
def marked (mark : Char) (part : Option (List Char)) : List Char :=
  (part.map (mark :: ·)).getD []

namespace UrlParts

/-- The parts can be told from the marks. -/
structure IsProper (parts : UrlParts) : Prop where
  driver : ¬ "://".toList <:+: parts.driver.toList
  server : lower parts.driver ≠ "sqlite"
  host_ne : parts.host ≠ ""
  host : ∀ mark ∈ "/:@?".toList, mark ∉ parts.host.toList
  port : ∀ port ∈ parts.port, port ≤ 65535
  charset : parts.charset ≠ some ""
  odbcDriver : parts.odbcDriver ≠ some ""

/-- The options that are there, by the names that they have in a URL. -/
def options (parts : UrlParts) : List (String × String) :=
  (parts.charset.map ("charset", ·)).toList ++ (parts.odbcDriver.map ("odbc_driver", ·)).toList

def loginText (component : Encoder) : Option (String × Option String) → List Char
  | none => []
  | some (user, password) =>
    component.encode user.toList
      ++ marked ':' (password.map fun password => component.encode password.toList) ++ ['@']

def addressText (parts : UrlParts) : List Char :=
  parts.host.toList ++ marked ':' (parts.port.map fun port => (toString port).toList)

def serverText (component : Encoder) (parts : UrlParts) : List Char :=
  parts.addressText
    ++ marked '/' (parts.database.map fun database => component.encode database.toList)

def locationText (component : Encoder) (parts : UrlParts) : List Char :=
  loginText component parts.login ++ parts.serverText component

def queryText? (form : Encoder) (parts : UrlParts) : Option (List Char) :=
  if parts.options = [] then none else some (form.query parts.options)

/-- The URL, with an encoder for the login and the database and one for the query. -/
def url (component form : Encoder) (parts : UrlParts) : String :=
  String.ofList (parts.driver.toList ++ "://".toList
    ++ (parts.locationText component ++ marked '?' (parts.queryText? form)))

/-- The settings with these parts. What is missing is empty or null. -/
def settings (parts : UrlParts) : Settings where
  driver := .text parts.driver
  host := .text parts.host
  port := (parts.port.map fun port : Nat => Value.int port).getD .null
  database := .text (parts.database.getD "")
  user := .text ((parts.login.map (·.1)).getD "")
  password := .text ((parts.login.bind (·.2)).getD "")
  charset := (parts.charset.map Value.text).getD .null
  odbcDriver := (parts.odbcDriver.map Value.text).getD .null

end UrlParts

/-! ## Cutting at the marks -/

variable {mark : Char} {front : List Char} {component form : Encoder}

theorem before_marked (h : mark ∉ front) (part : Option (List Char)) :
    before mark (front ++ marked mark part) = (front, part) := by
  cases part with
  | none =>
    show before mark (front ++ []) = _
    rw [List.append_nil, before, cutAtChar?_of_not_mem h]
  | some text =>
    show before mark (front ++ mark :: text) = _
    rw [before, cutAtChar?_append h]

theorem hostAndPort_marked (h : ':' ∉ front) {port : Option (List Char)}
    (hport : ∀ text ∈ port, ':' ∉ text) : hostAndPort (front ++ marked ':' port) = (front, port) := by
  cases port with
  | none =>
    show hostAndPort (front ++ []) = _
    rw [List.append_nil, hostAndPort, cutAtLastChar?_of_not_mem h]
  | some text =>
    show hostAndPort (front ++ ':' :: text) = _
    rw [hostAndPort, cutAtLastChar?_append (hport text rfl)]

theorem mem_marked_iff {c : Char} {part : Option (List Char)} :
    c ∈ marked mark part ↔ ∃ text ∈ part, c = mark ∨ c ∈ text := by
  cases part with
  | none => simp [marked]
  | some text => simp [marked]

/-- A URL is cut at the first `://`, which does not begin within a driver without one. -/
theorem cutAt?_scheme {driver : List Char} (h : ¬ "://".toList <:+: driver) (rest : List Char) :
    cutAt? (dropText? "://".toList) (driver ++ ("://".toList ++ rest)) = some (driver, rest) := by
  refine search_behind (fun front hne hsuffix => ?_) (dropText?_eq_some_iff.mpr rfl)
  refine Option.eq_none_iff_forall_ne_some.mpr fun found hfound => ?_
  have hread := dropText?_eq_some_iff.mp hfound
  -- the mark begins with a colon and goes on without one, so it does not overlap itself
  match front with
  | [] => exact hne rfl
  | [_] => simp at hread
  | [_, _] => simp at hread
  | first :: second :: third :: more =>
    simp only [List.cons_append] at hread
    obtain ⟨rfl, rfl, rfl, -⟩ : first = ':' ∧ second = '/' ∧ third = '/' ∧ _ := by simpa using hread
    exact h ((List.prefix_append _ more).isInfix.trans hsuffix.isInfix)

/-! ## The parts -/

theorem not_mem_encode {marks : List Char} (h : component.Escapes marks) (hmark : mark ∈ marks)
    (hhex : PercentText.hexValue? mark = none) (hpercent : mark ≠ '%') (text : List Char) :
    mark ∉ component.encode text :=
  Encoder.not_mem_encode (h mark hmark) hhex hpercent text

theorem colon_not_mem_digits (port : Nat) : ':' ∉ (toString port).toList := by
  intro hmem
  exact absurd (Numeral.isDigit_of_mem_toString hmem) (by decide)

theorem decoded_encode (text : String) :
    decoded (component.encode text.toList) = .text text := by
  rw [decoded, Encoder.decodeChars_encode, String.ofList_toList]

theorem credentials_encode (h : component.Escapes "@:/?".toList) (user : String)
    (password : Option String) :
    credentials (component.encode user.toList
        ++ marked ':' (password.map fun password => component.encode password.toList)) =
      (component.encode user.toList, component.encode (password.getD "").toList) := by
  have hcolon : ':' ∉ component.encode user.toList :=
    not_mem_encode h (by decide) (by decide) (by decide) _
  rw [credentials, before_marked hcolon]
  cases password with
  | none => rfl
  | some password => rfl

/-- A port is read as the number that was written. -/
theorem parsePort_written {port : Option Nat} (h : ∀ number ∈ port, number ≤ 65535) :
    parsePort (((port.map fun number => (toString number).toList).map
        fun spelled => Value.text (String.ofList spelled)).getD .null) =
      .ok ((port.map fun number : Nat => Value.int number).getD .null) := by
  cases port with
  | none => rfl
  | some number =>
    have hsmall : number < Numeral.tooLong :=
      Numeral.lt_tooLong (by decide : 5 ≤ Numeral.maxDigits)
        (Nat.lt_of_le_of_lt (h number rfl) (by decide))
    have hparse : Numeral.parse? (toString number) = some (number : Int) := by
      rw [Numeral.parse?_toString, if_pos hsmall]
    obtain ⟨c, rest, hdigits⟩ : ∃ c rest, (toString number).toList = c :: rest := by
      refine List.exists_cons_of_ne_nil ?_
      rw [Nat.toString_eq_ofList_toDigits, String.toList_ofList]
      exact Nat.toDigits_ne_nil
    have hblank : isBlank c = false :=
      isBlank_of_isDigit (Numeral.isDigit_of_mem_toString (hdigits ▸ List.mem_cons_self))
    have hspelled : isBlankText (toString number) = false := by
      rw [isBlankText, hdigits, List.all_cons, hblank, Bool.false_and]
    simp only [Option.map_some, Option.getD_some, String.ofList_toList, parsePort,
      Value.write_text, Value.display, Value.toInteger, hparse]
    show (if isBlankText (toString number) then .ok .null else .ok (.int (number : Int)) :
      Attempt Value) = _
    rw [hspelled]
    rfl

theorem isName_charset : Encoder.IsName "charset" := ⟨rfl, by decide, by decide⟩

theorem isName_odbcDriver : Encoder.IsName "odbc_driver" := ⟨rfl, by decide, by decide⟩

namespace UrlParts

variable {parts : UrlParts}

theorem of_mem_options (h : parts.IsProper) {name value : String}
    (hmem : (name, value) ∈ parts.options) : Encoder.IsName name ∧ value ≠ "" := by
  simp only [options, List.mem_append, Option.mem_toList, Option.map_eq_some_iff,
    Prod.mk.injEq] at hmem
  rcases hmem with ⟨charset, hcharset, rfl, rfl⟩ | ⟨odbcDriver, hodbc, rfl, rfl⟩
  · exact ⟨isName_charset, fun hempty => h.charset (hempty ▸ hcharset)⟩
  · exact ⟨isName_odbcDriver, fun hempty => h.odbcDriver (hempty ▸ hodbc)⟩

theorem nodup_keys_options (parts : UrlParts) : (Entries.keys parts.options).Nodup := by
  unfold options
  cases parts.charset <;> cases parts.odbcDriver <;> simp [Entries.keys]

/-- The query is read as the options. -/
theorem parameters_queryText? (h : parts.IsProper) (hform : form.Escapes "&+".toList) :
    PercentText.parameters ((parts.queryText? form).getD []) = parts.options := by
  unfold queryText?
  split
  · next hnone =>
    rw [hnone]
    rfl
  · exact Encoder.parameters_query hform (fun option hoption => (of_mem_options h hoption).1)
      (fun option hoption => (of_mem_options h hoption).2) (nodup_keys_options parts)

theorem option_charset (parts : UrlParts) :
    option parts.options "charset" = (parts.charset.map Value.text).getD .null := by
  unfold option options
  cases parts.charset <;> cases parts.odbcDriver <;> simp [Entries.get?]

theorem option_odbcDriver (parts : UrlParts) :
    option parts.options "odbc_driver" = (parts.odbcDriver.map Value.text).getD .null := by
  unfold option options
  cases parts.charset <;> cases parts.odbcDriver <;> simp [Entries.get?]

/-! ## The whole URL -/

theorem not_mem_addressText {c : Char} (hhost : c ∉ parts.host.toList) (hcolon : c ≠ ':')
    (hdigit : c.isDigit = false) : c ∉ parts.addressText := by
  unfold addressText
  rw [List.mem_append, mem_marked_iff]
  rintro (hmem | ⟨text, htext, hmem | hmem⟩)
  · exact hhost hmem
  · exact hcolon hmem
  · obtain ⟨port, -, rfl⟩ := Option.map_eq_some_iff.mp htext
    rw [Numeral.isDigit_of_mem_toString hmem] at hdigit
    cases hdigit

theorem not_mem_serverText (h : parts.IsProper) (hcomponent : component.Escapes "@:/?".toList)
    {c : Char} (hc : c ∈ "@?".toList) : c ∉ parts.serverText component := by
  have hmark : c ∈ "/:@?".toList ∧ c ∈ "@:/?".toList ∧ c ≠ ':' ∧ c ≠ '/' ∧ c ≠ '%' ∧
      c.isDigit = false ∧ PercentText.hexValue? c = none := by
    revert hc
    rw [show "@?".toList = ['@', '?'] from rfl, List.mem_cons, List.mem_singleton]
    rintro (rfl | rfl) <;> decide
  obtain ⟨hhost, hescaped, hcolon, hslash, hpercent, hdigit, hhex⟩ := hmark
  unfold serverText
  rw [List.mem_append, mem_marked_iff]
  rintro (hmem | ⟨text, htext, hmem | hmem⟩)
  · exact not_mem_addressText (h.host c hhost) hcolon hdigit hmem
  · exact hslash hmem
  · obtain ⟨database, -, rfl⟩ := Option.map_eq_some_iff.mp htext
    exact not_mem_encode hcomponent hescaped hhex hpercent _ hmem

theorem question_not_mem_loginText (hcomponent : component.Escapes "@:/?".toList)
    (login : Option (String × Option String)) : '?' ∉ loginText component login := by
  have hencoded (text : List Char) : '?' ∉ component.encode text :=
    not_mem_encode hcomponent (by decide) (by decide) (by decide) text
  match login with
  | none => exact List.not_mem_nil
  | some (user, none) => simp [loginText, marked, hencoded]
  | some (user, some password) => simp [loginText, marked, hencoded]

/-- The server is read from its text. -/
theorem read_serverText (component : Encoder) (h : parts.IsProper) :
    before '/' (parts.serverText component) =
        (parts.addressText, parts.database.map fun database => component.encode database.toList) ∧
      hostAndPort parts.addressText =
        (parts.host.toList, parts.port.map fun port => (toString port).toList) := by
  have hslash : '/' ∉ parts.addressText :=
    not_mem_addressText (h.host '/' (by decide)) (by decide) (by decide)
  refine ⟨before_marked hslash _, hostAndPort_marked (h.host ':' (by decide)) fun text htext => ?_⟩
  obtain ⟨port, -, rfl⟩ := Option.map_eq_some_iff.mp htext
  exact colon_not_mem_digits port

/-- What stands between the scheme and the query gives the settings. -/
theorem ofServer_locationText (h : parts.IsProper) (hcomponent : component.Escapes "@:/?".toList) :
    ofServer parts.driver (parts.locationText component) parts.options = .ok parts.settings := by
  have hat : '@' ∉ parts.serverText component := not_mem_serverText h hcomponent (by decide)
  obtain ⟨hserver, haddress⟩ := read_serverText component h
  have hhost : parts.host.toList.isEmpty = false := by
    simpa [List.isEmpty_eq_false_iff, String.toList_eq_nil_iff] using h.host_ne
  have hdatabase : decoded ((parts.database.map fun database =>
      component.encode database.toList).getD []) = .text (parts.database.getD "") := by
    cases parts.database with
    | none => rfl
    | some database => exact decoded_encode database
  have hoptions := And.intro (option_charset parts) (option_odbcDriver parts)
  unfold ofServer locationText settings
  cases parts.login with
  | none =>
    rw [loginText, List.nil_append, cutAtLastChar?_of_not_mem hat]
    simp only [hserver, haddress, parsePort_written h.port, hhost, hdatabase, hoptions,
      String.ofList_toList]
    rfl
  | some login =>
    obtain ⟨user, password⟩ := login
    rw [loginText, List.append_assoc, List.singleton_append, cutAtLastChar?_append hat]
    simp only [credentials_encode hcomponent, hserver, haddress, parsePort_written h.port, hhost,
      hdatabase, hoptions, decoded_encode, String.ofList_toList]
    rfl

/-- Reading a URL gives the settings that it was written from. -/
theorem ofUrl_url (h : parts.IsProper) (hcomponent : component.Escapes "@:/?".toList)
    (hform : form.Escapes "&+".toList) : ofUrl (parts.url component form) = .ok parts.settings := by
  have hquestion : '?' ∉ parts.locationText component := by
    rw [locationText, List.mem_append, not_or]
    exact ⟨question_not_mem_loginText hcomponent parts.login,
      not_mem_serverText h hcomponent (by decide)⟩
  have htext : (parts.url component form).toList = parts.driver.toList ++ ("://".toList
      ++ (parts.locationText component ++ marked '?' (parts.queryText? form))) := by
    rw [url, String.toList_ofList, List.append_assoc]
  have hsqlite : (lower parts.driver == "sqlite") = false := by
    simpa using h.server
  rw [ofUrl, htext, cutAt?_scheme h.driver]
  simp only [before_marked hquestion, String.ofList_toList, hsqlite, Bool.false_eq_true, if_false,
    parameters_queryText? h hform, ofServer_locationText h hcomponent]

/-- A password of marks, an accent among them, and a database with a slash. -/
theorem ofUrl_url_marks :
    ofUrl "pgsql://ann:p%40%3A%2F%3F%23%25%C3%A9@db:5432/a%2Fb?charset=utf+8" = .ok
      { driver := .text "pgsql", host := .text "db", port := .int 5432, database := .text "a/b",
        user := .text "ann", password := .text "p@:/?#%é", charset := .text "utf 8" } := by
  let parts : UrlParts :=
    { driver := "pgsql", login := some ("ann", some "p@:/?#%é"), host := "db", port := some 5432,
      database := some "a/b", charset := some "utf 8" }
  have hproper : parts.IsProper :=
    { driver := by decide, server := by decide, host_ne := by decide, host := by simp [parts]
      port := by simp [parts], charset := by decide, odbcDriver := by decide }
  have hurl : parts.url .unreserved .unreserved =
      "pgsql://ann:p%40%3A%2F%3F%23%25%C3%A9@db:5432/a%2Fb?charset=utf+8" := by decide
  rw [← hurl]
  exact ofUrl_url hproper (by decide) (by decide)

end UrlParts

end SqlToolkit.Settings
