import SqlToolkit.Proofs.Entries
import SqlToolkit.Proofs.Text.Pieces
import SqlToolkit.Proofs.Text.Utf8
import SqlToolkit.Settings.PercentText

/-!
# Percent-encoded text is decoded

An encoder writes some characters as they are and the others as escapes of their bytes. Whatever it
leaves as it is, as long as this is not the percent sign, decoding gives the text back; and a
character that it escapes is not in what it writes. In a query it writes a plus sign for a space.
-/

namespace SqlToolkit.PercentText

open SqlToolkit.Text

/-- A way to percent-encode: the characters that stay as they are, and the hexadecimal digits. -/
structure Encoder where
  plain : Char → Bool
  digit : Nat → Char
  plain_percent : plain '%' = false
  hexValue?_digit : ∀ value < 16, hexValue? (digit value) = some value

namespace Encoder

/-- Letters, digits and four marks stay as they are, as in most URLs. -/
def unreserved : Encoder where
  plain c := c.isAlphanum || "-._~".toList.contains c
  digit value := "0123456789ABCDEF".toList.getD value '0'
  plain_percent := by decide
  hexValue?_digit := by decide

variable (encoder : Encoder)

def escape (byte : Nat) : List Char := ['%', encoder.digit (byte / 16), encoder.digit (byte % 16)]

def encodeChar (c : Char) : List Char :=
  if encoder.plain c then [c] else (Utf8.bytes c).flatMap encoder.escape

def encode (text : List Char) : List Char := text.flatMap encoder.encodeChar

def encodeForm (text : List Char) : List Char :=
  text.flatMap fun c => if c = ' ' then ['+'] else encoder.encodeChar c

/-- The characters do not stay as they are. -/
def Escapes (chars : List Char) : Prop := ∀ c ∈ chars, encoder.plain c = false

instance (chars : List Char) : Decidable (encoder.Escapes chars) :=
  decidable_of_iff (chars.all fun c => !encoder.plain c) (by simp [Escapes])

variable {encoder}

/-! ## What is written -/

/-- What is written is plain or belongs to an escape. -/
theorem of_mem_encodeChar {c written : Char} (h : written ∈ encoder.encodeChar c) :
    encoder.plain written = true ∨ written = '%' ∨ (hexValue? written).isSome = true := by
  unfold encodeChar at h
  split at h
  · next hplain =>
    rw [List.mem_singleton.mp h]
    exact .inl hplain
  · obtain ⟨byte, hbyte, hmem⟩ := List.mem_flatMap.mp h
    have hlt : byte < 256 := Utf8.lt_of_mem_bytes hbyte
    have hhigh := encoder.hexValue?_digit (byte / 16) (by omega)
    have hlow := encoder.hexValue?_digit (byte % 16) (by omega)
    simp only [escape, List.mem_cons, List.not_mem_nil, or_false] at hmem
    rcases hmem with rfl | rfl | rfl
    · exact .inr (.inl rfl)
    · exact .inr (.inr (by rw [hhigh]; rfl))
    · exact .inr (.inr (by rw [hlow]; rfl))

/-- A character that is escaped is not written. -/
theorem not_mem_encode {c : Char} (hplain : encoder.plain c = false) (hhex : hexValue? c = none)
    (hpercent : c ≠ '%') (text : List Char) : c ∉ encoder.encode text := by
  intro hmem
  obtain ⟨source, -, hc⟩ := List.mem_flatMap.mp hmem
  have hwritten := of_mem_encodeChar hc
  simp_all

theorem not_mem_encodeForm {c : Char} (hplain : encoder.plain c = false) (hhex : hexValue? c = none)
    (hpercent : c ≠ '%') (hplus : c ≠ '+') (text : List Char) : c ∉ encoder.encodeForm text := by
  intro hmem
  obtain ⟨source, -, hc⟩ := List.mem_flatMap.mp hmem
  split at hc
  · exact hplus (List.mem_singleton.mp hc)
  · have hwritten := of_mem_encodeChar hc
    simp_all

theorem encodeChar_ne_nil (c : Char) : encoder.encodeChar c ≠ [] := by
  unfold encodeChar
  split
  · exact List.cons_ne_nil _ _
  · obtain ⟨byte, rest, h⟩ := List.exists_cons_of_ne_nil (Utf8.bytes_ne_nil c)
    rw [h, List.flatMap_cons]
    exact List.cons_ne_nil _ _

theorem encodeForm_ne_nil {text : List Char} (h : text ≠ []) : encoder.encodeForm text ≠ [] := by
  obtain ⟨c, rest, rfl⟩ := List.exists_cons_of_ne_nil h
  unfold encodeForm
  rw [List.flatMap_cons]
  split
  · exact List.cons_ne_nil _ _
  · exact List.append_ne_nil_of_left_ne_nil (encodeChar_ne_nil c) _

/-! ## Decoding -/

/-- An escape is the byte that it was made from. -/
theorem codeUnits_escape {byte : Nat} (h : byte < 256) (rest : List Char) :
    codeUnits 0 (encoder.escape byte ++ rest) = .byte byte :: codeUnits 0 rest := by
  have hhigh := encoder.hexValue?_digit (byte / 16) (by omega)
  have hlow := encoder.hexValue?_digit (byte % 16) (by omega)
  have hbyte : byte / 16 * 16 + byte % 16 = byte := by omega
  simp [escape, codeUnits, escapedByte?, hhigh, hlow, hbyte]

theorem codeUnits_escapes {bytes : List Nat} (h : ∀ byte ∈ bytes, byte < 256) (rest : List Char) :
    codeUnits 0 (bytes.flatMap encoder.escape ++ rest) =
      bytes.map .byte ++ codeUnits 0 rest := by
  induction bytes with
  | nil => rfl
  | cons byte more ih =>
    have hmore := ih fun other ho => h other (List.mem_cons_of_mem byte ho)
    rw [List.flatMap_cons, List.append_assoc, codeUnits_escape (h byte List.mem_cons_self), hmore]
    rfl

theorem codeUnits_plain {c : Char} (h : c ≠ '%') (rest : List Char) :
    codeUnits 0 (c :: rest) = .ofChar c :: codeUnits 0 rest := by
  have hnone : escapedByte? c rest = none := by
    unfold escapedByte?
    split
    · exact absurd rfl h
    · rfl
  rw [codeUnits, hnone]

/-- Units that are bytes are read one after the other. -/
theorem readUnits_bytes (pending : Option Utf8.Pending) (bytes : List Nat) (rest : List CodeUnit) :
    readUnits pending (bytes.map .byte ++ rest) =
      (Utf8.readBytes pending bytes).1 ++ readUnits (Utf8.readBytes pending bytes).2 rest := by
  induction bytes generalizing pending with
  | nil => rfl
  | cons byte more ih =>
    rw [List.map_cons, List.cons_append, readUnits, Utf8.readBytes]
    dsimp only
    rw [ih, List.append_assoc]

theorem readUnits_ofChar (c : Char) (rest : List CodeUnit) :
    readUnits none (.ofChar c :: rest) = c :: readUnits none rest := by
  unfold CodeUnit.ofChar
  split
  · next h =>
    have hone : Utf8.readBytes none [c.toNat] = ([c], none) := by
      rw [← Utf8.bytes_one h, Utf8.readBytes_bytes]
    have hbytes := readUnits_bytes none [c.toNat] rest
    rwa [hone] at hbytes
  · rfl

/-- What is written for a character is read as the character. -/
theorem readUnits_encodeChar (c : Char) (rest : List Char) :
    readUnits none (codeUnits 0 (encoder.encodeChar c ++ rest)) =
      c :: readUnits none (codeUnits 0 rest) := by
  unfold encodeChar
  split
  · next hplain =>
    have hne : c ≠ '%' := by
      rintro rfl
      rw [encoder.plain_percent] at hplain
      cases hplain
    rw [List.cons_append, List.nil_append, codeUnits_plain hne, readUnits_ofChar]
  · rw [codeUnits_escapes fun byte => Utf8.lt_of_mem_bytes, readUnits_bytes, Utf8.readBytes_bytes]
    rfl

/-- Encoded text is decoded. -/
theorem decodeChars_encode (text : List Char) : decodeChars (encoder.encode text) = text := by
  unfold decodeChars encode
  induction text with
  | nil => rfl
  | cons c rest ih => rw [List.flatMap_cons, readUnits_encodeChar, ih]

/-- The encoder that leaves spaces as they are, too. -/
def withSpace (encoder : Encoder) : Encoder :=
  { encoder with
    plain := fun c => c = ' ' || encoder.plain c
    plain_percent := encoder.plain_percent }

/-- Text that is encoded as in a query is encoded once the plus signs are read as spaces. -/
theorem map_encodeForm (hplus : encoder.plain '+' = false) (text : List Char) :
    (encoder.encodeForm text).map (fun c => if c = '+' then ' ' else c) =
      encoder.withSpace.encode text := by
  unfold encodeForm encode
  rw [List.map_flatMap]
  congr 1
  funext c
  by_cases hspace : c = ' '
  · rw [if_pos hspace, hspace]
    rfl
  · have hplain : encoder.withSpace.plain c = encoder.plain c := by simp [withSpace, hspace]
    have hsame : encoder.withSpace.encodeChar c = encoder.encodeChar c := by
      rw [encodeChar, hplain]
      rfl
    have hkept : ∀ written ∈ encoder.encodeChar c,
        (if written = '+' then ' ' else written) = written := by
      intro written hmem
      refine if_neg ?_
      rintro rfl
      have hwritten := of_mem_encodeChar hmem
      rw [hplus] at hwritten
      exact absurd hwritten (by decide)
    rw [if_neg hspace, hsame, List.map_congr_left hkept, List.map_id']

theorem decodeForm_encodeForm (hplus : encoder.plain '+' = false) (text : String) :
    decodeForm (encoder.encodeForm text.toList) = text := by
  rw [decodeForm, map_encodeForm hplus, decodeChars_encode, String.ofList_toList]

/-! ## Queries -/

def query (encoder : Encoder) (options : List (String × String)) : List Char :=
  ['&'].intercalate (options.map fun option =>
    option.1.toList ++ '=' :: encoder.encodeForm option.2.toList)

/-- A name that stands for itself in a query. -/
structure IsName (name : String) : Prop where
  decoded : decodeForm name.toList = name
  equals : '=' ∉ name.toList
  ampersand : '&' ∉ name.toList

theorem parameter?_option {name value : String} (hname : IsName name) (hvalue : value ≠ "")
    (hplus : encoder.plain '+' = false) :
    parameter? (name.toList ++ '=' :: encoder.encodeForm value.toList) = some (name, value) := by
  have hne : encoder.encodeForm value.toList ≠ [] :=
    encodeForm_ne_nil (mt String.toList_eq_nil_iff.mp hvalue)
  simp only [parameter?, cutAtChar?_append hname.equals, List.isEmpty_eq_false_iff.mpr hne,
    hname.decoded, decodeForm_encodeForm hplus, Bool.false_eq_true, if_false]

/-- The parameters of a query are the options that it was made from. -/
theorem parameters_query (hescapes : encoder.Escapes "&+".toList) {options : List (String × String)}
    (hnames : ∀ option ∈ options, IsName option.1) (hvalues : ∀ option ∈ options, option.2 ≠ "")
    (hnodup : (Entries.keys options).Nodup) : parameters (encoder.query options) = options := by
  have hampersand : encoder.plain '&' = false := hescapes '&' (by decide)
  have hplus : encoder.plain '+' = false := hescapes '+' (by decide)
  have hread : (splitAtChar '&' (encoder.query options)).filterMap parameter? = options := by
    by_cases hne : options = []
    · rw [hne]
      rfl
    have hpieces : ∀ piece ∈ options.map fun option =>
        option.1.toList ++ '=' :: encoder.encodeForm option.2.toList, '&' ∉ piece := by
      intro piece hpiece
      obtain ⟨option, hoption, rfl⟩ := List.mem_map.mp hpiece
      have hvalue : '&' ∉ encoder.encodeForm option.2.toList :=
        not_mem_encodeForm hampersand (by decide) (by decide) (by decide) _
      simp [(hnames option hoption).ampersand, hvalue]
    rw [query, splitAtChar_intercalate (by simpa using hne) hpieces, List.filterMap_map]
    refine (List.filterMap_congr fun option hoption => ?_).trans List.filterMap_some
    exact parameter?_option (hnames option hoption) (hvalues option hoption) hplus
  rw [parameters, hread, Entries.ofList_eq_self hnodup]

end Encoder

end SqlToolkit.PercentText
