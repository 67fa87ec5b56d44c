import SqlToolkit.Connection.Scripted
import SqlToolkit.Pages.Pager
import SqlToolkit.Proofs.Entries
import SqlToolkit.Proofs.Facade.Selection

/-!
# Settings that are refused

The parameters of a statement are set one after the other, up to the first name that is none. What
was set before that name stays set, so a refused update leaves the parameters as they were just if
the names before it are given the values that they had. A builder looks at the limit before it sets
anything, and the options of page links look at every name first.
-/

namespace SqlToolkit

namespace Parameters

variable {parameters changed : Parameters} {name : String} {value : Value}

/-! ## One setting -/

/-- Only a name of a parameter can be set. -/
theorem set?_eq_none_iff : parameters.set? name value = none ↔ name ∉ parameterNames := by
  unfold set?
  split
  · exact iff_of_false nofun fun h => h (by decide)
  · exact iff_of_false nofun fun h => h (by decide)
  · exact iff_of_false nofun fun h => h (by decide)
  · exact iff_of_false nofun fun h => h (by decide)
  · next hdistinct hgroup horder hlimit =>
    refine iff_of_true rfl fun h => ?_
    simp only [parameterNames, List.mem_cons, List.not_mem_nil, or_false] at h
    exact h.elim hdistinct fun h => h.elim hgroup fun h => h.elim horder hlimit

theorem exists_set? (h : name ∈ parameterNames) (parameters : Parameters) (value : Value) :
    ∃ changed, parameters.set? name value = some changed := by
  cases hset : parameters.set? name value with
  | none => exact absurd h (set?_eq_none_iff.mp hset)
  | some changed => exact ⟨changed, rfl⟩

/-- Setting a parameter replaces its value and no other. -/
theorem get?_of_set? (h : parameters.set? name value = some changed) (other : String) :
    changed.get? other = if name = other then some value else parameters.get? other := by
  unfold set? at h
  split at h
  all_goals first | contradiction | obtain rfl := Option.some.inj h
  all_goals
    split
    · next heq => subst heq; rfl
    · next hne => unfold get?; split <;> first | rfl | exact absurd rfl hne

/-- Parameters with the same settings are the same. -/
theorem ext_get? {other : Parameters} (h : ∀ name, parameters.get? name = other.get? name) :
    parameters = other := by
  obtain ⟨distinct, grouping, order, limit⟩ := parameters
  obtain ⟨distinct', grouping', order', limit'⟩ := other
  obtain rfl : distinct = distinct' := Option.some.inj (h "select_distinct")
  obtain rfl : grouping = grouping' := Option.some.inj (h "group_by")
  obtain rfl : order = order' := Option.some.inj (h "order_by")
  obtain rfl : limit = limit' := Option.some.inj (h "limit")
  rfl

/-! ## Several settings -/

section Update

variable {entries earlier : Value.Entries} {key : Value} {fault : Fault}

/-- The key can be written, and is the name of a parameter then. -/
def NamesParameter (key : Value) : Prop := key.isWritable = true ∧ key.display ∈ parameterNames

instance (key : Value) : Decidable (NamesParameter key) := inferInstanceAs (Decidable (_ ∧ _))

def AllNamed (entries : Value.Entries) : Prop := ∀ entry ∈ entries, NamesParameter entry.1

def refusal (key : Value) : Fault := if key.isWritable then unknown key.display else .badValue

theorem update_of_set? (hkey : NamesParameter key)
    (h : parameters.set? key.display value = some changed) (rest : Value.Entries) :
    parameters.update ((key, value) :: rest) = changed.update rest := by
  have hset : parameters.setKey key value = .ok changed := by
    rw [setKey, Value.write_of_isWritable hkey.1]
    show parameters.set key.display value = _
    rw [set, h]
  rw [update, hset]

theorem update_of_unknown (h : ¬NamesParameter key) (parameters : Parameters) (value : Value)
    (rest : Value.Entries) :
    parameters.update ((key, value) :: rest) = (.error (refusal key), parameters) := by
  have hset : parameters.setKey key value = .error (refusal key) := by
    unfold setKey refusal
    cases hwritable : key.isWritable with
    | false =>
      rw [Value.write_of_not_isWritable hwritable]
      rfl
    | true =>
      have hname : key.display ∉ parameterNames := fun hname => h ⟨hwritable, hname⟩
      rw [Value.write_of_isWritable hwritable]
      show parameters.set key.display value = _
      rw [set, set?_eq_none_iff.mpr hname]
      rfl
  rw [update, hset]

/-- What follows entries that name parameters is set on top of them. -/
theorem update_append (h : AllNamed earlier) (parameters : Parameters) (rest : Value.Entries) :
    parameters.update (earlier ++ rest) = (parameters.update earlier).2.update rest := by
  induction earlier generalizing parameters with
  | nil => rfl
  | cons entry earlier ih =>
    obtain ⟨hentry, hearlier⟩ := List.forall_mem_cons.mp h
    obtain ⟨changed, hset⟩ := exists_set? hentry.2 parameters entry.2
    rw [List.cons_append, update_of_set? hentry hset, update_of_set? hentry hset, ih hearlier]

/-- Each setting has the last value that it is given, or else the one that it had. -/
theorem get?_update (h : AllNamed entries) (parameters : Parameters) (name : String) :
    (parameters.update entries).2.get? name =
      (Entries.last? name (entries.map fun entry => (entry.1.display, entry.2))).or
        (parameters.get? name) := by
  induction entries generalizing parameters with
  | nil => rfl
  | cons entry rest ih =>
    obtain ⟨key, value⟩ := entry
    obtain ⟨hentry, hrest⟩ := List.forall_mem_cons.mp h
    obtain ⟨changed, hset⟩ := exists_set? hentry.2 parameters value
    have hfirst : Entries.last? name [(key.display, value)] =
        if key.display = name then some value else none := by
      by_cases heq : key.display = name <;> simp [Entries.last?, heq]
    rw [update_of_set? hentry hset, ih hrest, get?_of_set? hset, List.map_cons,
      ← List.singleton_append, Entries.last?_append, hfirst, Option.or_assoc]
    split <;> rfl

/-- Each name is given the value that it has already, as the last one. -/
def Repeats (parameters : Parameters) (entries : Value.Entries) : Prop :=
  ∀ name value, Entries.last? name (entries.map fun entry => (entry.1.display, entry.2)) =
    some value → parameters.get? name = some value

/-- An update changes nothing just if it repeats what is set. -/
theorem update_eq_self_iff (h : AllNamed entries) (parameters : Parameters) :
    (parameters.update entries).2 = parameters ↔ parameters.Repeats entries := by
  constructor
  · intro hsame name value hlast
    have hupdate := get?_update h parameters name
    rw [hsame, hlast] at hupdate
    exact hupdate
  · intro hrepeats
    refine ext_get? fun name => ?_
    rw [get?_update h]
    cases hlast : Entries.last? name (entries.map fun entry => (entry.1.display, entry.2)) with
    | none => rfl
    | some value => exact (hrepeats name value hlast).symm

/-- The first name that is no parameter stands behind the earlier entries, and is the fault. -/
structure StopsBehind (earlier entries : Value.Entries) (fault : Fault) : Prop where
  named : AllNamed earlier
  unknown : ∃ key value later, entries = earlier ++ (key, value) :: later ∧ ¬NamesParameter key ∧
    fault = refusal key

/-- What stands before the name at which an update is refused is set. -/
theorem update_of_stopsBehind (h : StopsBehind earlier entries fault) (parameters : Parameters) :
    parameters.update entries = (.error fault, (parameters.update earlier).2) := by
  obtain ⟨key, value, later, rfl, hkey, rfl⟩ := h.unknown
  rw [update_append h.named, update_of_unknown hkey]

/-- An update is refused just at a name that is no parameter. -/
theorem update_refused_iff (parameters : Parameters) :
    (parameters.update entries).1 = .error fault ↔
      ∃ earlier, StopsBehind earlier entries fault := by
  constructor
  · intro h
    induction entries generalizing parameters with
    | nil => cases h
    | cons entry rest ih =>
      obtain ⟨key, value⟩ := entry
      by_cases hkey : NamesParameter key
      · obtain ⟨changed, hset⟩ := exists_set? hkey.2 parameters value
        rw [update_of_set? hkey hset] at h
        obtain ⟨earlier, hearlier, other, given, later, rfl, hunknown⟩ := ih changed h
        have hnamed : AllNamed ((key, value) :: earlier) :=
          List.forall_mem_cons.mpr ⟨hkey, hearlier⟩
        exact ⟨(key, value) :: earlier, hnamed, other, given, later, rfl, hunknown⟩
      · rw [update_of_unknown hkey] at h
        cases h
        exact ⟨[], nofun, key, value, rest, rfl, hkey, rfl⟩
  · rintro ⟨earlier, hstops⟩
    rw [update_of_stopsBehind hstops]

theorem refused_update_eq_self_iff (h : StopsBehind earlier entries fault)
    (parameters : Parameters) :
    (parameters.update entries).2 = parameters ↔ parameters.Repeats earlier := by
  rw [update_of_stopsBehind h]
  exact update_eq_self_iff h.named parameters

end Update

end Parameters

/-! ## Settings of a builder -/

namespace Builder

variable {σ : Type} {settings : Value} {fault : Fault} {earlier : Value.Entries}

def checkSettings (entries : Value.Entries) : Attempt Unit :=
  checkLimit ((Entries.get? (.text "limit") entries).getD .null)

/-- The settings cannot be read, or the limit among them cannot. -/
def RefusesAtOnce (settings : Value) (fault : Fault) : Prop :=
  settingEntries settings = .error fault ∨
    ∃ entries, settingEntries settings = .ok entries ∧ checkSettings entries = .error fault

/-- Settings that can be read, with their limit, go on behind the earlier ones with a name that is
no parameter. -/
def StopsBehind (earlier : Value.Entries) (settings : Value) (fault : Fault) : Prop :=
  ∃ entries, settingEntries settings = .ok entries ∧ checkSettings entries = .ok () ∧
    Parameters.StopsBehind earlier entries fault

theorem setParameters_of_refusesAtOnce (h : RefusesAtOnce settings fault) (builder : Builder σ) :
    setParameters settings builder = .error fault builder := by
  rcases h with hentries | ⟨entries, hentries, hlimit⟩
  · exact setParameters_of_refused hentries builder
  · exact setParameters_of_unread hentries hlimit builder

theorem setParameters_of_stopsBehind (h : StopsBehind earlier settings fault)
    (builder : Builder σ) :
    setParameters settings builder = .error fault
      { builder with descriptor := { builder.descriptor with
        parameters := (builder.descriptor.parameters.update earlier).2 } } := by
  obtain ⟨entries, hentries, hlimit, hstops⟩ := h
  rw [setParameters_of_checked hentries hlimit, Parameters.update_of_stopsBehind hstops]

/-- Settings are refused before anything is set, or at a name that is no parameter. -/
theorem setParameters_refused_iff (builder : Builder σ) :
    (setParameters settings).outcome builder = .error fault ↔
      RefusesAtOnce settings fault ∨ ∃ earlier, StopsBehind earlier settings fault := by
  constructor
  · intro h
    cases hentries : settingEntries settings with
    | error cause =>
      rw [Action.outcome, setParameters_of_refused hentries] at h
      cases h
      exact .inl (.inl hentries)
    | ok entries =>
      cases hlimit : checkSettings entries with
      | error cause =>
        rw [Action.outcome, setParameters_of_unread hentries hlimit] at h
        cases h
        exact .inl (.inr ⟨entries, hentries, hlimit⟩)
      | ok checked =>
        rw [Action.outcome, setParameters_of_checked hentries hlimit] at h
        cases hupdate : (builder.descriptor.parameters.update entries).1 with
        | ok done =>
          rw [hupdate] at h
          cases h
        | error cause =>
          rw [hupdate] at h
          cases h
          obtain ⟨earlier, hstops⟩ := (Parameters.update_refused_iff _).mp hupdate
          exact .inr ⟨earlier, entries, hentries, hlimit, hstops⟩
  · rintro (h | ⟨earlier, h⟩)
    · rw [Action.outcome, setParameters_of_refusesAtOnce h]
    · rw [Action.outcome, setParameters_of_stopsBehind h]

theorem refused_setParameters_eq_self_iff (h : StopsBehind earlier settings fault)
    (builder : Builder σ) :
    (setParameters settings).after builder = builder ↔
      builder.descriptor.parameters.Repeats earlier := by
  obtain ⟨entries, -, -, hstops⟩ := id h
  rw [Action.after, setParameters_of_stopsBehind h, ← Parameters.update_eq_self_iff hstops.named]
  constructor
  · intro hsame
    exact congrArg (fun same : Builder σ => same.descriptor.parameters) hsame
  · intro hsame
    rw [hsame]

end Builder

/-! ## Options of page links -/

/-- Refused options are left as they were. -/
theorem Pager.setOptions_refused {σ : Type} {settings : Value} {pager : Pager σ} {fault : Fault}
    (h : (setOptions settings).outcome pager = .error fault) :
    (setOptions settings).after pager = pager := by
  unfold setOptions at h ⊢
  rw [Action.outcome_get_bind] at h
  rw [Action.after_get_bind]
  cases hset : pager.options.setAll settings with
  | error cause => rfl
  | ok options =>
    rw [hset] at h
    cases h

/-- **What refused settings change.** The parameters of a builder are refused before anything is
set, if they or their limit cannot be read, and else at the first name that is no parameter. Then
the builder is left as it was just if each name before that one is given the value that it has
already. The same holds of parameters by themselves, whose limit is not looked at. Options of page
links that are refused are always left as they were. -/
theorem refused_settings_change_nothing_iff {σ : Type} (settings : Value) (fault : Fault) :
    (∀ builder : Builder σ,
      ((Builder.setParameters settings).outcome builder = .error fault ↔
        Builder.RefusesAtOnce settings fault ∨
          ∃ earlier, Builder.StopsBehind earlier settings fault) ∧
      (Builder.RefusesAtOnce settings fault →
        (Builder.setParameters settings).after builder = builder) ∧
      ∀ earlier, Builder.StopsBehind earlier settings fault →
        ((Builder.setParameters settings).after builder = builder ↔
          builder.descriptor.parameters.Repeats earlier)) ∧
    (∀ (parameters : Parameters) (entries : Value.Entries), settings = .map entries →
      ((parameters.updateFrom settings).1 = .error fault ↔
        ∃ earlier, Parameters.StopsBehind earlier entries fault) ∧
      ∀ earlier, Parameters.StopsBehind earlier entries fault →
        ((parameters.updateFrom settings).2 = parameters ↔ parameters.Repeats earlier)) ∧
    (∀ pager : Pager σ, (Pager.setOptions settings).outcome pager = .error fault →
      (Pager.setOptions settings).after pager = pager) := by
  refine ⟨fun builder => ⟨Builder.setParameters_refused_iff builder, fun h => ?_, fun _ h => ?_⟩,
    ?_, fun _ => Pager.setOptions_refused⟩
  · rw [Action.after, Builder.setParameters_of_refusesAtOnce h]
  · exact Builder.refused_setParameters_eq_self_iff h builder
  · rintro parameters entries rfl
    exact ⟨Parameters.update_refused_iff parameters,
      fun _ h => Parameters.refused_update_eq_self_iff h parameters⟩

def sortedSelect : Builder Scripted :=
  { client := { connection := {} }
    dialect := .sqlite
    descriptor := { table := .text "t", parameters := { orderBy := .text "id" } } }

/-- An order, and a name that is no parameter. -/
def misspelt : Value := .map [(.text "order_by", .text "id"), (.text "having", .text "x")]

/-- The order is repeated before the unknown name, so nothing is changed. -/
theorem refused_settings_change_nothing_repeated :
    let pager : Pager Scripted := { facade := { builder := sortedSelect } }
    let parameters := sortedSelect.descriptor.parameters
    ((Builder.setParameters misspelt).outcome sortedSelect =
        .error (Parameters.unknown "having") ∧
      (Builder.setParameters misspelt).after sortedSelect = sortedSelect) ∧
    ((parameters.updateFrom misspelt).1 = .error (Parameters.unknown "having") ∧
      (parameters.updateFrom misspelt).2 = parameters) ∧
    ((Pager.setOptions misspelt).outcome pager =
        .error (.parameter (.unknownOptions ["order_by", "having"])) ∧
      (Pager.setOptions misspelt).after pager = pager) := by
  intro pager parameters
  have hnamed : Parameters.AllNamed [(.text "order_by", .text "id")] :=
    List.forall_mem_singleton.mpr (by decide)
  have hstops : Parameters.StopsBehind [(.text "order_by", .text "id")]
      [(.text "order_by", .text "id"), (.text "having", .text "x")]
      (Parameters.unknown "having") :=
    ⟨hnamed, .text "having", .text "x", [], rfl, by decide, rfl⟩
  have hrepeats : parameters.Repeats [(.text "order_by", .text "id")] :=
    (Parameters.update_eq_self_iff hnamed parameters).mp rfl
  have hoptions : (Pager.setOptions misspelt).outcome pager =
      .error (.parameter (.unknownOptions ["order_by", "having"])) := rfl
  obtain ⟨hbuilder, hparameters, -⟩ :=
    @refused_settings_change_nothing_iff Scripted misspelt (Parameters.unknown "having")
  obtain ⟨hrefused, -, hsame⟩ := hbuilder sortedSelect
  obtain ⟨hrefused', hsame'⟩ := hparameters parameters _ rfl
  have hpager := (refused_settings_change_nothing_iff misspelt _).2.2 pager hoptions
  refine ⟨⟨hrefused.mpr (.inr ⟨_, _, rfl, rfl, hstops⟩), ?_⟩,
    ⟨hrefused'.mpr ⟨_, hstops⟩, (hsame' _ hstops).mpr hrepeats⟩, hoptions, hpager⟩
  exact (hsame _ ⟨_, rfl, rfl, hstops⟩).mpr hrepeats

/-- A SELECT without an order is sorted by settings that are refused. -/
theorem refused_settings_sort_select :
    let builder : Builder Scripted :=
      { client := { connection := {} }, dialect := .sqlite, descriptor := { table := .text "t" } }
    (Builder.setParameters misspelt).outcome builder = .error (Parameters.unknown "having") ∧
      builder.sql = .ok "SELECT * FROM t" ∧
      ((Builder.setParameters misspelt).after builder).sql =
        .ok "SELECT * FROM t ORDER BY id" := by
  intro builder
  exact ⟨rfl, rfl, rfl⟩

end SqlToolkit
