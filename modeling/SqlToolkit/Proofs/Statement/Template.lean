import SqlToolkit.Proofs.Statement.MarkerPasses

/-!
# Statements with markers

A statement is text and markers in turn. The passes for the names do each marker by itself: it
becomes its literal with the later passes made over it. A literal that such a pass changes weighs
more from then on, so the passes put in just the literals if and only if none of them finds a marker
in a literal.
-/

namespace SqlToolkit.Interpolation

open SqlToolkit.Text

inductive Mark where
  | named (name : List Char)
  /-- The marker `?`, which stands for the next position. -/
  | next

def Mark.source : Mark → List Char
  | .named name => ':' :: name
  | .next => ['?']

abbrev Segments := List (Mark × List Char)

variable {entries done before after : List (String × Value)} {entry : String × Value}
  {name chars lead text : List Char}

/-! ## The pass for a name -/

/-- What the pass for a name puts in the place of its marker. -/
def literalOf (entries : List (String × Value)) (name : List Char) : List Char :=
  (entries.find? fun entry => bareName entry.1 == name).elim [] fun entry =>
    entry.2.literal.toList

/-- The entries whose passes come behind the one for a name. -/
def laterThan (name : List Char) (entries : List (String × Value)) : List (String × Value) :=
  (entries.dropWhile fun entry => bareName entry.1 != name).tail

/-- The first pass for a name, with the passes before it and behind it. -/
theorem exists_pass (h : name ∈ names entries) :
    ∃ before entry after, entries = before ++ entry :: after ∧ bareName entry.1 = name ∧
      name ∉ names before := by
  obtain ⟨front, back, heq, hfront⟩ := List.eq_append_cons_of_mem h
  obtain ⟨before, rest, rfl, rfl, hrest⟩ := List.map_eq_append_iff.mp heq
  obtain ⟨entry, after, rfl, hname, -⟩ := List.map_eq_cons_iff.mp hrest
  exact ⟨before, entry, after, rfl, hname, hfront⟩

theorem bareName_ne_of_not_mem (h : name ∉ names before) :
    ∀ entry ∈ before, bareName entry.1 ≠ name :=
  fun _ hentry heq => h (List.mem_map.mpr ⟨_, hentry, heq⟩)

theorem literalOf_pass (h : bareName entry.1 ∉ names before) :
    literalOf (before ++ entry :: after) (bareName entry.1) = entry.2.literal.toList := by
  have hbefore : before.find? (fun other => bareName other.1 == bareName entry.1) = none :=
    List.find?_eq_none.mpr fun other hother => by simpa using bareName_ne_of_not_mem h other hother
  rw [literalOf, List.find?_append, hbefore, Option.none_or, List.find?_cons, beq_self_eq_true]
  rfl

theorem laterThan_pass (h : bareName entry.1 ∉ names before) :
    laterThan (bareName entry.1) (before ++ entry :: after) = after := by
  have hbefore : ∀ other ∈ before, (bareName other.1 != bareName entry.1) = true :=
    fun other hother => by simpa using bareName_ne_of_not_mem h other hother
  rw [laterThan, List.dropWhile_append_of_pos hbefore, List.dropWhile_cons_of_neg (by simp)]
  rfl

/-- The literal of a name, when the passes behind its own are made over it. -/
theorem fillNamed_marker_of_mem (hentries : AreProper entries) (hfront : done <+: entries)
    (h : name ∈ names done) :
    fillNamed (':' :: name) done = fillNamed (literalOf entries name) (laterThan name done) := by
  obtain ⟨before, entry, after, rfl, rfl, hbefore⟩ := exists_pass h
  obtain ⟨more, rfl⟩ := hfront
  have hname := hentries.name entry (by simp)
  rw [fillNamed_marker before after hname hbefore, laterThan_pass hbefore, List.append_assoc,
    List.cons_append, literalOf_pass hbefore]

theorem isLiteral_literalOf (hentries : AreProper entries) (h : name ∈ names entries) :
    IsLiteral (literalOf entries name) := by
  obtain ⟨before, entry, after, rfl, rfl, hbefore⟩ := exists_pass h
  rw [literalOf_pass hbefore]
  exact hentries.literal entry (by simp)

theorem AreProper.of_front (h : AreProper entries) (hfront : done <+: entries) : AreProper done :=
  h.of_subset hfront.subset

theorem mem_names_of_front (hfront : done <+: entries) (h : name ∈ names done) :
    name ∈ names entries :=
  (hfront.map _).subset h

theorem laterThan_subset (name : List Char) (entries : List (String × Value)) :
    laterThan name entries ⊆ entries :=
  fun _ hentry => List.dropWhile_subset _ (List.mem_of_mem_tail hentry)

theorem fillNamed_append_of_not_mem (hentries : AreProper entries) (h : ':' ∉ lead)
    (chars : List Char) : fillNamed (lead ++ chars) entries = lead ++ fillNamed chars entries := by
  induction entries generalizing chars with
  | nil => rfl
  | cons entry entries ih =>
    have hname := hentries.name entry List.mem_cons_self
    rw [fillNamed_cons, replaceNamed_append_of_enclosed hname (.of_not_mem h),
      replaceNamed_of_not_mem h, ih (hentries.of_subset (List.subset_cons_self _ _)),
      fillNamed_cons]

namespace Segments

def source (segments : Segments) : List Char :=
  segments.flatMap fun segment => segment.1.source ++ segment.2

/-- No text begins a marker, and the name of a marker is a whole word. -/
structure IsProper (segments : Segments) : Prop where
  text : ∀ segment ∈ segments, Markless segment.2
  name : ∀ name text, (Mark.named name, text) ∈ segments →
    IsRun isWord name ∧ startsWithWord text = false

/-- What some passes leave: each marker done by itself. -/
def passed (entries : List (String × Value)) (segments : Segments) : List Char :=
  segments.flatMap fun segment => fillNamed segment.1.source entries ++ segment.2

/-- The pass for one name is not made without the pass for another one before it. -/
def Precedes (entries : List (String × Value)) (first second : List Char) : Prop :=
  ∀ done, done <+: entries → second ∈ names done → first ∈ names done

/-- Where a marker follows directly on another, its literal begins with what is no part of a word,
or the other marker is replaced before it. -/
def Apart (entries : List (String × Value)) (segments : Segments) : Prop :=
  ∀ first second text, [(Mark.named first, []), (.named second, text)] <:+: segments →
    (∃ c ∈ (literalOf entries second).head?, isWord c = false) ∨ Precedes entries first second

variable {segments rest : Segments} {mark : Mark}

theorem passed_cons (entries : List (String × Value)) (mark : Mark) (text : List Char)
    (segments : Segments) :
    passed entries ((mark, text) :: segments) =
      fillNamed mark.source entries ++ (text ++ passed entries segments) := by
  rw [passed, List.flatMap_cons, List.append_assoc]
  rfl

theorem IsProper.of_suffix (h : IsProper segments) (hsuffix : rest <:+ segments) : IsProper rest :=
  ⟨fun segment hsegment => h.text segment (hsuffix.subset hsegment),
    fun name text hsegment => h.name name text (hsuffix.subset hsegment)⟩

theorem Apart.of_suffix (h : Apart entries segments) (hsuffix : rest <:+ segments) :
    Apart entries rest :=
  fun first second text hwithin => h first second text (hwithin.trans hsuffix.isInfix)

/-- Markers with text between them are apart. -/
theorem apart_of_text (h : ∀ segment ∈ segments, segment.2 ≠ []) : Apart entries segments :=
  fun first _ _ hwithin =>
    absurd rfl (h (.named first, []) (hwithin.subset List.mem_cons_self))

/-! ## Passes do the markers one by one -/

/-- Behind a marker that is still there no word goes on. -/
theorem startsWithWord_passed (hentries : AreProper entries)
    (hproper : IsProper ((.named name, text) :: rest))
    (hapart : Apart entries ((.named name, text) :: rest)) (hfront : done <+: entries)
    (h : name ∉ names done) : startsWithWord (text ++ passed done rest) = false := by
  cases text with
  | cons c text => exact (hproper.name name (c :: text) List.mem_cons_self).2
  | nil =>
    match rest, hproper, hapart with
    | [], _, _ => rfl
    | (.next, _) :: rest, _, _ =>
      rw [List.nil_append, passed_cons, Mark.source, fillNamed_of_not_mem (by decide)]
      rfl
    | (.named second, behind) :: rest, hproper, hapart =>
      rw [List.nil_append, passed_cons, Mark.source]
      -- the next marker is a colon until its pass, and the beginning of its literal from then on
      by_cases hsecond : second ∈ names done
      · rcases hapart name second behind ⟨[], rest, rfl⟩ with ⟨c, hc, hword⟩ | hprecedes
        · have hliteral := isLiteral_literalOf hentries (mem_names_of_front hfront hsecond)
          have hhead := head?_fillNamed (fun hcolon => (hliteral.head ':' hcolon).1 rfl)
            (laterThan second done)
          rw [← fillNamed_marker_of_mem hentries hfront hsecond] at hhead
          obtain ⟨tail, htail⟩ := List.head?_eq_some_iff.mp (hhead.trans hc)
          rw [htail]
          exact hword
        · exact absurd (hprecedes done hfront hsecond) h
      · have hname := (hproper.name second behind (by simp)).1
        rw [fillNamed_marker_of_not_mem hname hsecond]
        rfl

/-- One more pass does each marker by itself. -/
theorem replaceNamed_passed (hentries : AreProper entries) (hproper : IsProper segments)
    (hapart : Apart entries segments) (hfront : done ++ [entry] <+: entries) :
    replaceNamed entry.1 entry.2.literal (passed done segments) =
      passed (done ++ [entry]) segments := by
  have hname := hentries.name entry (hfront.subset (by simp))
  have hdone : done <+: entries := (List.prefix_append done [entry]).trans hfront
  induction segments with
  | nil => rfl
  | cons segment rest ih =>
    obtain ⟨mark, text⟩ := segment
    have hsuffix : rest <:+ (mark, text) :: rest := List.suffix_cons _ _
    have hrest := ih (hproper.of_suffix hsuffix) (hapart.of_suffix hsuffix)
    have htext : ':' ∉ text := (hproper.text _ List.mem_cons_self).colon
    -- nothing that the pass reads reaches over the seam behind the marker
    have hseam : replaceNamed entry.1 entry.2.literal
          (fillNamed mark.source done ++ (text ++ passed done rest)) =
        replaceNamed entry.1 entry.2.literal (fillNamed mark.source done) ++
          replaceNamed entry.1 entry.2.literal (text ++ passed done rest) := by
      cases mark with
      | next =>
        rw [Mark.source, fillNamed_of_not_mem (by decide)]
        exact replaceNamed_append_of_enclosed hname (.of_not_mem (by decide)) _
      | named name =>
        by_cases hmem : name ∈ names done
        · refine replaceNamed_append_of_enclosed hname ?_ _
          have hliteral := isLiteral_literalOf hentries (mem_names_of_front hdone hmem)
          rw [Mark.source, fillNamed_marker_of_mem hentries hdone hmem]
          exact isEnclosed_fillNamed
            ((hentries.of_front hdone).of_subset (laterThan_subset name done)) hliteral.colon
        · exact replaceNamed_append hname
            (.inr (startsWithWord_passed hentries hproper hapart hdone hmem))
    rw [passed_cons, passed_cons, hseam, ← fillNamed_concat,
      replaceNamed_append_of_enclosed hname (.of_not_mem htext), replaceNamed_of_not_mem htext,
      hrest]

/-- The passes do each marker by itself. -/
theorem fillNamed_source (hentries : AreProper entries) (hproper : IsProper segments)
    (hapart : Apart entries segments) :
    fillNamed segments.source entries = passed entries segments := by
  suffices h : ∀ count, fillNamed segments.source (entries.take count) =
      passed (entries.take count) segments by
    simpa using h entries.length
  intro count
  induction count with
  | zero => rfl
  | succ count ih =>
    rw [List.take_add_one]
    cases hentry : entries[count]? with
    | none => rw [Option.toList_none, List.append_nil, ih]
    | some entry =>
      have hfront : entries.take count ++ [entry] <+: entries := by
        have htake := List.take_prefix (count + 1) entries
        rwa [List.take_add_one, hentry] at htake
      rw [Option.toList_some, fillNamed_concat, ih,
        replaceNamed_passed hentries hproper hapart hfront]

end Segments

/-! ## Literals that a later pass changes -/

/-- A quote counts for much, and a colon against it. -/
def noise (bound : Nat) (c : Char) : Int := if c = '\'' then bound else if c = ':' then -1 else 0

def Bounds (bound : Nat) (entries : List (String × Value)) : Prop :=
  ∀ entry ∈ entries, entry.2.literal.toList.count ':' ≤ bound

variable {bound : Nat}

theorem weight_noise (bound : Nat) (chars : List Char) :
    weight (noise bound) chars = bound * chars.count '\'' - chars.count ':' := by
  induction chars with
  | nil => simp [weight]
  | cons c more ih =>
    rw [weight_cons, ih, List.count_cons, List.count_cons, noise]
    by_cases hquote : c = '\''
    · subst hquote
      simp [Int.mul_add]
      omega
    · by_cases hcolon : c = ':'
      · subst hcolon
        simp
        omega
      · simp [hquote, hcolon]

theorem weight_noise_nonneg (h : Enclosed ':' chars) (hbound : chars.count ':' ≤ bound) :
    0 ≤ weight (noise bound) chars := by
  rw [weight_noise]
  by_cases hcolon : ':' ∈ chars
  · obtain ⟨front, rest, rfl⟩ := List.append_of_mem hcolon
    have hquote : '\'' ∈ front ++ ':' :: rest := by simp [h rest (List.suffix_append _ _)]
    have hpos : (1 : Int) ≤ (front ++ ':' :: rest).count '\'' := by
      exact_mod_cast List.count_pos_iff.mpr hquote
    have hle : (bound : Int) * 1 ≤ bound * (front ++ ':' :: rest).count '\'' :=
      Int.mul_le_mul_of_nonneg_left hpos (Int.natCast_nonneg _)
    omega
  · rw [List.count_eq_zero.mpr hcolon]
    exact Int.sub_nonneg_of_le (Int.mul_nonneg (Int.natCast_nonneg _) (Int.natCast_nonneg _))

/-- A literal weighs more than its marker. -/
theorem raises_dropMarker? (hname : IsRun isWord name) {literal : List Char}
    (h : 0 ≤ weight (noise bound) literal) : Raises (noise bound) literal (dropMarker? name) := by
  intro read rest hread
  have hmarker : read = ':' :: name := by
    have heq := (dropMarker?_eq_some_iff.mp hread).1
    rw [← List.cons_append] at heq
    exact List.append_cancel_right heq
  have hword : weight (noise bound) name = 0 := weight_eq_zero fun c hc => by
    have hquote : c ≠ '\'' := fun heq => absurd (hname.2 c hc) (heq ▸ by decide)
    have hcolon : c ≠ ':' := fun heq => absurd (hname.2 c hc) (heq ▸ by decide)
    rw [noise, if_neg hquote, if_neg hcolon]
  have hcolon : noise bound ':' = -1 := rfl
  rw [hmarker, weight_cons, hword, hcolon]
  omega

theorem AreProper.raises (h : AreProper entries) (hbound : Bounds bound entries)
    (hentry : entry ∈ entries) :
    Raises (noise bound) entry.2.literal.toList (dropMarker? (bareName entry.1)) :=
  raises_dropMarker? (h.name entry hentry)
    (weight_noise_nonneg (h.literal entry hentry).colon (hbound entry hentry))

theorem weight_le_fillNamed (hentries : AreProper entries) (hbound : Bounds bound entries)
    (chars : List Char) :
    weight (noise bound) chars ≤ weight (noise bound) (fillNamed chars entries) := by
  induction entries generalizing chars with
  | nil => exact Int.le_refl _
  | cons entry entries ih =>
    rw [fillNamed_cons]
    refine Int.le_trans ?_ (ih (hentries.of_subset (List.subset_cons_self _ _))
      (fun other hother => hbound other (List.mem_cons_of_mem _ hother)) _)
    exact weight_substitute_le dropMarker?_consumes (hentries.raises hbound List.mem_cons_self)
      chars

theorem fillNamed_of_nowhere
    (h : ∀ entry ∈ entries, Nowhere (dropMarker? (bareName entry.1)) chars) :
    fillNamed chars entries = chars := by
  induction entries with
  | nil => rfl
  | cons entry entries ih =>
    have hkept : replaceNamed entry.1 entry.2.literal chars = chars :=
      substitute_of_nowhere (h entry List.mem_cons_self)
    rw [fillNamed_cons, hkept, ih fun other hother => h other (List.mem_cons_of_mem _ hother)]

/-- The passes find no marker in a text, or they leave one of more weight. -/
theorem weight_fillNamed (hentries : AreProper entries) (hbound : Bounds bound entries)
    (chars : List Char) :
    (∀ entry ∈ entries, Nowhere (dropMarker? (bareName entry.1)) chars) ∨
      weight (noise bound) chars < weight (noise bound) (fillNamed chars entries) := by
  induction entries with
  | nil => exact .inl fun _ hentry => absurd hentry List.not_mem_nil
  | cons entry entries ih =>
    have hrest := hentries.of_subset (List.subset_cons_self entry entries)
    have hrestBound : Bounds bound entries :=
      fun other hother => hbound other (List.mem_cons_of_mem _ hother)
    have hraises := hentries.raises hbound List.mem_cons_self
    rw [fillNamed_cons]
    rcases weight_substitute dropMarker?_consumes hraises chars with hnowhere | hlt
    · have hkept : replaceNamed entry.1 entry.2.literal chars = chars :=
        substitute_of_nowhere hnowhere
      rw [hkept]
      exact (ih hrest hrestBound).imp_left fun hall => List.forall_mem_cons.mpr ⟨hnowhere, hall⟩
    · exact .inr (Int.lt_of_lt_of_le hlt (weight_le_fillNamed hrest hrestBound _))

/-- No pass behind its own one finds a marker in the literal of a name. -/
def Untouched (entries : List (String × Value)) (name : List Char) : Prop :=
  ∀ later ∈ laterThan name entries,
    Nowhere (dropMarker? (bareName later.1)) (literalOf entries name)

theorem Untouched.fillNamed_marker (h : Untouched entries name) (hentries : AreProper entries)
    (hname : name ∈ names entries) : fillNamed (':' :: name) entries = literalOf entries name := by
  rw [fillNamed_marker_of_mem hentries List.prefix_rfl hname]
  exact fillNamed_of_nowhere h

theorem weight_marker (hentries : AreProper entries) (hbound : Bounds bound entries)
    (h : name ∈ names entries) :
    Untouched entries name ∨ weight (noise bound) (literalOf entries name) <
      weight (noise bound) (fillNamed (':' :: name) entries) := by
  rw [fillNamed_marker_of_mem hentries List.prefix_rfl h]
  exact weight_fillNamed (hentries.of_subset (laterThan_subset name entries))
    (fun entry hentry => hbound entry (laterThan_subset name entries hentry)) _

namespace Segments

/-- Literals in the places of the markers: that of its name for a name, and of each position in turn
for the others. -/
def filled (named : List Char → List Char) (next : Nat → List Char) : Nat → Segments → List Char
  | _, [] => []
  | used, (.named name, text) :: segments => named name ++ (text ++ filled named next used segments)
  | used, (.next, text) :: segments =>
    next (used + 1) ++ (text ++ filled named next (used + 1) segments)

/-- The names alone are put in. -/
def settled (entries : List (String × Value)) : Nat → Segments → List Char :=
  filled (literalOf entries) fun _ => ['?']

theorem settled_named (entries : List (String × Value)) (used : Nat) (name text : List Char)
    (segments : Segments) :
    settled entries used ((.named name, text) :: segments) =
      literalOf entries name ++ (text ++ settled entries used segments) := rfl

theorem settled_next (entries : List (String × Value)) (used : Nat) (text : List Char)
    (segments : Segments) :
    settled entries used ((.next, text) :: segments) =
      ['?'] ++ (text ++ settled entries (used + 1) segments) := rfl

def markerNames : Segments → List (List Char)
  | [] => []
  | (.named name, _) :: segments => name :: markerNames segments
  | (.next, _) :: segments => markerNames segments

variable {segments : Segments}

theorem passed_of_untouched (hentries : AreProper entries)
    (hnamed : ∀ name ∈ segments.markerNames, name ∈ names entries)
    (h : ∀ name ∈ segments.markerNames, Untouched entries name) (used : Nat) :
    passed entries segments = settled entries used segments := by
  induction segments generalizing used with
  | nil => rfl
  | cons segment rest ih =>
    match segment with
    | (.next, text) =>
      rw [passed_cons, settled_next, Mark.source, fillNamed_of_not_mem (by decide), ih hnamed h]
    | (.named name, text) =>
      obtain ⟨hname, hrestNamed⟩ := List.forall_mem_cons.mp hnamed
      obtain ⟨huntouched, hrest⟩ := List.forall_mem_cons.mp h
      rw [passed_cons, settled_named, Mark.source, huntouched.fillNamed_marker hentries hname,
        ih hrestNamed hrest]

/-- The passes find no marker in a literal, or they leave a text of more weight. -/
theorem weight_passed (hentries : AreProper entries) (hbound : Bounds bound entries)
    (hnamed : ∀ name ∈ segments.markerNames, name ∈ names entries) (used : Nat) :
    (∀ name ∈ segments.markerNames, Untouched entries name) ∨
      weight (noise bound) (settled entries used segments) <
        weight (noise bound) (passed entries segments) := by
  induction segments generalizing used with
  | nil => exact .inl fun _ hmem => absurd hmem List.not_mem_nil
  | cons segment rest ih =>
    match segment with
    | (.next, text) =>
      rw [passed_cons, settled_next, Mark.source, fillNamed_of_not_mem (by decide)]
      simp only [weight_append]
      exact (ih hnamed (used + 1)).imp_right fun hlt => by omega
    | (.named name, text) =>
      obtain ⟨hname, hrestNamed⟩ := List.forall_mem_cons.mp hnamed
      rw [passed_cons, settled_named, Mark.source]
      simp only [weight_append]
      rcases weight_marker hentries hbound hname with huntouched | hmarker
      · rw [huntouched.fillNamed_marker hentries hname]
        exact (ih hrestNamed used).imp (fun hall => List.forall_mem_cons.mpr ⟨huntouched, hall⟩)
          fun hlt => by omega
      · right
        rcases ih hrestNamed used with hall | hlt
        · rw [passed_of_untouched hentries hrestNamed hall used]
          omega
        · omega

end Segments

end SqlToolkit.Interpolation
