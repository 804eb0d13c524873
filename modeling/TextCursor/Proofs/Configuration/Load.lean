import Mathlib
import TextCursor.Configuration.Load
import TextCursor.Proofs.Configuration.Member
import TextCursor.Proofs.Toml.DistinctKeys

/-!
# Which documents are configurations

A document gives a configuration exactly when the value it gives for the settings is a table of
settings with texts (`Configuration.load_classifies`). The keys of a table are distinct, so the
entries may be looked at in any order. Anything else is an error of the configuration if it is a
table, or if its members pass for unknown keys; any other value fails by what is done with it.
-/

namespace TextCursor.Configuration

/-- All keys of the entries name settings, and all values are texts. -/
def AreSettings (entries : List (Text × Datum)) : Prop :=
  ∀ entry ∈ entries, (∃ setting : Setting, entry.1 = setting.key) ∧ ∃ value, entry.2 = .text value

/-- The configuration has the texts that the entries give to settings, and otherwise those of the
base. -/
structure Overlays (c base : Configuration) (entries : List (Text × Datum)) : Prop where
  given : ∀ (setting : Setting) (value : Text), (setting.key, .text value) ∈ entries →
    c.get setting = value
  kept : ∀ setting : Setting, setting.key ∉ entries.map Prod.fst → c.get setting = base.get setting

/-- The value is no table, but its members pass for keys of which some name no setting. -/
inductive ResemblesUnknownKeys : Datum → Prop where
  | text {t : Text} (hmembers : t ≠ []) : ResemblesUnknownKeys (.text t)
  | list {items : List Datum} (htexts : ∀ item ∈ items, ∃ t, item = .text t)
      (hunknown : ∃ item ∈ items, ¬ item.NamesSetting) : ResemblesUnknownKeys (.list items)

variable {c base : Configuration} {entries : List (Text × Datum)} {fault : ConfigurationFault}

/-! ### Tables -/

/-- A setting has the text that it is given. -/
theorem get_set (setting : Setting) (value : Text) : (c.set setting value).get setting = value := by
  cases setting <;> rfl

/-- The other settings are left as they are. -/
theorem get_set_of_ne {setting other : Setting} (h : other ≠ setting) (value : Text) :
    (c.set setting value).get other = c.get other := by
  cases setting <;> cases other <;> first | rfl | exact absurd rfl h

/-- Entries fill a configuration if all their values are texts. -/
theorem exists_fill_eq_ok_iff :
    (∃ filled, fill c entries = .ok filled) ↔
      ∀ entry ∈ entries, ∃ value, entry.2 = .text value := by
  induction entries generalizing c with
  | nil => exact iff_of_true ⟨c, rfl⟩ (fun _ hentry => nomatch hentry)
  | cons entry later ih =>
      obtain ⟨key, value⟩ := entry
      rw [List.forall_mem_cons]
      cases value with
      | text value =>
          rw [fill, and_iff_right ⟨value, rfl⟩]
          split
          · exact ih
          · exact ih
      | _ =>
          refine iff_of_false ?_ ?_
          · rintro ⟨filled, hfilled⟩
            cases hfilled
          · rintro ⟨⟨value, hvalue⟩, -⟩
            cases hvalue

/-- Entries that fill no configuration have a value that is no text. -/
theorem fill_error (h : fill c entries = .error fault) :
    ∃ key kindName, fault = .notText key kindName := by
  induction entries generalizing c with
  | nil => cases h
  | cons entry later ih =>
      obtain ⟨key, value⟩ := entry
      cases value with
      | text value =>
          rw [fill] at h
          split at h
          · exact ih h
          · exact ih h
      | _ =>
          cases h
          exact ⟨_, _, rfl⟩

/-- Filling in entries with distinct keys lays them over the configuration. -/
theorem overlays_of_fill (hkeys : (entries.map Prod.fst).Nodup) (h : fill base entries = .ok c) :
    Overlays c base entries := by
  induction entries generalizing base with
  | nil =>
      cases h
      exact ⟨fun _ _ hentry => (nomatch hentry), fun _ _ => rfl⟩
  | cons entry later ih =>
      obtain ⟨key, value⟩ := entry
      obtain ⟨hfirst, hlater⟩ := List.nodup_cons.1 hkeys
      cases value with
      | text value =>
          rw [fill] at h
          split at h
          · next named hnamed =>
              have hkey := Setting.ofKey?_eq_some_iff.1 hnamed
              have hover := ih hlater h
              refine ⟨?_, ?_⟩
              · intro setting given hentry
                rcases List.mem_cons.1 hentry with heq | hlater
                · -- no later entry has the key, so the text given first stays
                  cases heq
                  cases Setting.key_inj hkey
                  rw [hover.kept _ hfirst, get_set]
                · exact hover.given setting given hlater
              · intro setting hmissing
                obtain ⟨hother, hmissing⟩ := List.ne_and_not_mem_of_not_mem_cons hmissing
                rw [hover.kept setting hmissing, get_set_of_ne]
                rintro rfl
                exact hother hkey.symm
          · next hnone =>
              have hover := ih hlater h
              refine ⟨?_, ?_⟩
              · intro setting given hentry
                rcases List.mem_cons.1 hentry with heq | hlater
                · cases heq
                  exact absurd rfl (Setting.ofKey?_eq_none_iff.1 hnone setting)
                · exact hover.given setting given hlater
              · intro setting hmissing
                exact hover.kept setting fun hlater => hmissing (List.mem_cons_of_mem _ hlater)
      | _ => cases h

/-- Keys pass their check if they all name settings. -/
theorem checkMembers_keys_iff :
    checkMembers (entries.map fun entry => .text entry.1) = .ok () ↔
      ∀ entry ∈ entries, ∃ setting : Setting, entry.1 = setting.key := by
  rw [checkMembers_eq_ok_iff, List.forall_mem_map]
  exact forall₂_congr fun _ _ => Datum.namesSetting_text_iff

/-- A table of which the keys pass their check is filled in. -/
theorem ofDatum_table (entries : List (Text × Datum)) :
    ofDatum (.table entries) =
      (checkMembers (entries.map fun entry => .text entry.1) >>= fun _ => fill {} entries) :=
  rfl

/-- A table gives a configuration when its keys name settings and its entries fill one in. -/
theorem ofDatum_table_eq_ok_iff :
    ofDatum (.table entries) = .ok c ↔
      (∀ entry ∈ entries, ∃ setting : Setting, entry.1 = setting.key) ∧
        fill {} entries = .ok c := by
  rw [ofDatum_table, Except.bind_eq_ok_iff, ← checkMembers_keys_iff]
  constructor
  · rintro ⟨_, hmembers, hfill⟩
    exact ⟨hmembers, hfill⟩
  · rintro ⟨hmembers, hfill⟩
    exact ⟨(), hmembers, hfill⟩

/-- A table gives a configuration if its entries are settings. -/
theorem exists_ofDatum_table_eq_ok_iff :
    (∃ c, ofDatum (.table entries) = .ok c) ↔ AreSettings entries := by
  simp only [ofDatum_table_eq_ok_iff, exists_and_left, exists_fill_eq_ok_iff]
  constructor
  · rintro ⟨hkeys, hvalues⟩ entry hentry
    exact ⟨hkeys entry hentry, hvalues entry hentry⟩
  · intro hsettings
    exact ⟨fun entry hentry => (hsettings entry hentry).1,
      fun entry hentry => (hsettings entry hentry).2⟩

/-- What is wrong with a table is an error of the configuration. -/
theorem isConfigError_of_table (h : ofDatum (.table entries) = .error fault) :
    fault.isConfigError = true := by
  rw [ofDatum_table, Except.bind_eq_error_iff] at h
  rcases h with hmembers | ⟨_, -, hfill⟩
  · rw [checkMembers_error_iff hmembers, List.forall_mem_map]
    exact fun entry _ => ⟨entry.1, rfl⟩
  · obtain ⟨key, kindName, rfl⟩ := fill_error hfill
    rfl

/-! ### Other values -/

variable {value : Datum} {members : List Datum}

/-- A value without members fails by that. -/
theorem ofDatum_of_no_members (hmembers : value.members? = none) :
    ofDatum value = .error (.noMembers value.fullKindName) := by
  unfold ofDatum
  rw [hmembers]

/-- A value with members that is no table fails when they have passed their check, if not before. -/
theorem ofDatum_of_members (htable : ∀ entries, value ≠ .table entries)
    (hmembers : value.members? = some members) :
    ofDatum value = (checkMembers members >>= fun _ => .error (.noEntries value.kindName)) := by
  unfold ofDatum
  rw [hmembers]
  cases value with
  | table entries => exact absurd rfl (htable entries)
  | _ => rfl

/-- What gives a configuration is a table. -/
theorem exists_eq_table_of_ofDatum_eq_ok (h : ofDatum value = .ok c) :
    ∃ entries, value = .table entries := by
  refine Classical.not_forall_not.1 fun htable => ?_
  cases hmembers : value.members? with
  | none =>
      rw [ofDatum_of_no_members hmembers] at h
      cases h
  | some members =>
      rw [ofDatum_of_members htable hmembers] at h
      obtain ⟨_, -, hentries⟩ := Except.bind_eq_ok_iff.1 h
      cases hentries

/-- A value gives a configuration if it is a table of settings. -/
theorem exists_ofDatum_eq_ok_iff :
    (∃ c, ofDatum value = .ok c) ↔ ∃ entries, value = .table entries ∧ AreSettings entries := by
  constructor
  · rintro ⟨c, hok⟩
    obtain ⟨entries, rfl⟩ := exists_eq_table_of_ofDatum_eq_ok hok
    exact ⟨entries, rfl, exists_ofDatum_table_eq_ok_iff.1 ⟨c, hok⟩⟩
  · rintro ⟨entries, rfl, hsettings⟩
    exact exists_ofDatum_table_eq_ok_iff.2 hsettings

/-- What is wrong with a value that has members but is no table is an error of the configuration if
the members are texts and one of them names no setting. -/
theorem isConfigError_iff_of_members (htable : ∀ entries, value ≠ .table entries)
    (hmembers : value.members? = some members) (h : ofDatum value = .error fault) :
    fault.isConfigError = true ↔
      (∀ member ∈ members, ∃ t, member = .text t) ∧ ∃ member ∈ members, ¬ member.NamesSetting := by
  rw [ofDatum_of_members htable hmembers, Except.bind_eq_error_iff] at h
  rcases h with hcheck | ⟨_, hcheck, hentries⟩
  · have hunknown : ¬ ∀ member ∈ members, member.NamesSetting := by
      intro hnames
      rw [checkMembers_eq_ok_iff.2 hnames] at hcheck
      cases hcheck
    simp only [Classical.not_forall, exists_prop] at hunknown
    rw [checkMembers_error_iff hcheck, and_iff_left hunknown]
  · cases hentries
    refine iff_of_false (fun hconfig => nomatch hconfig) ?_
    rintro ⟨-, member, hmember, hunknown⟩
    exact hunknown (checkMembers_eq_ok_iff.1 hcheck member hmember)

/-- A single character names no setting. -/
theorem not_namesSetting_char (character : Char) : ¬ (Datum.text [character]).NamesSetting := by
  rw [Datum.namesSetting_text_iff]
  rintro ⟨setting, hkey⟩
  have hlength : 1 = setting.key.length := congrArg List.length hkey
  cases setting <;> exact absurd hlength (by decide)

/-- What is wrong with a value is an error of the configuration if it is a table or resembles
unknown keys. -/
theorem isConfigError_iff (h : ofDatum value = .error fault) :
    fault.isConfigError = true ↔
      (∃ entries, value = .table entries) ∨ ResemblesUnknownKeys value := by
  cases value with
  | table entries => exact iff_of_true (isConfigError_of_table h) (.inl ⟨entries, rfl⟩)
  | text t =>
      have hother : ∀ entries, Datum.text t ≠ .table entries := fun _ htable => nomatch htable
      rw [isConfigError_iff_of_members hother rfl h]
      constructor
      · rintro ⟨-, member, hmember, -⟩
        refine .inr (.text ?_)
        rintro rfl
        cases hmember
      · rintro (⟨entries, htable⟩ | hresembles)
        · cases htable
        · cases hresembles with
          | text hmembers =>
              obtain ⟨first, later, rfl⟩ := List.exists_cons_of_ne_nil hmembers
              refine ⟨?_, .text [first], List.mem_cons_self, not_namesSetting_char first⟩
              rw [List.forall_mem_map]
              exact fun character _ => ⟨[character], rfl⟩
  | list items =>
      have hother : ∀ entries, Datum.list items ≠ .table entries := fun _ htable => nomatch htable
      rw [isConfigError_iff_of_members hother rfl h]
      constructor
      · rintro ⟨htexts, hunknown⟩
        exact .inr (.list htexts hunknown)
      · rintro (⟨entries, htable⟩ | hresembles)
        · cases htable
        · cases hresembles with
          | list htexts hunknown => exact ⟨htexts, hunknown⟩
  | _ =>
      cases h
      refine iff_of_false (fun hconfig => nomatch hconfig) ?_
      rintro (⟨entries, htable⟩ | hresembles)
      · cases htable
      · cases hresembles

/-! ### Documents -/

/-- Every document that is well formed gives a configuration exactly when the value under the key
for settings, or the whole document if it has no such key, is a table of settings with texts; the
configuration then has these texts, and the customary ones where none is given. Otherwise the fault
is an error of the configuration, unless the key has a value that is no table and does not resemble
unknown keys either. -/
theorem load_classifies (path : Text) {bytes : ByteArray} {content : String} {document : Datum}
    (hcontent : String.fromUTF8? bytes = some content)
    (hdocument : Toml.parse content.toList = .ok document) :
    let selected := (document.field? documentKey).getD document
    let outcome := load path (.file bytes)
    ((∃ c, outcome = .ok c) ↔ ∃ entries, selected = .table entries ∧ AreSettings entries) ∧
      (∀ c entries, outcome = .ok c → selected = .table entries → c.Overlays {} entries) ∧
      ∀ fault, outcome = .error fault →
        (fault.isConfigError = true ↔ ∀ value, document.field? documentKey = some value →
          (∃ entries, value = .table entries) ∨ ResemblesUnknownKeys value) := by
  intro selected outcome
  have houtcome : outcome = ofDatum selected := by
    simp only [outcome, load, hcontent, hdocument, ofDocument, selected]
  obtain ⟨hdistinct, root, hroot⟩ := Toml.parse_hasDistinctKeys hdocument
  rw [houtcome]
  refine ⟨exists_ofDatum_eq_ok_iff, ?_, ?_⟩
  · intro c entries hok htable
    have hselected : selected.HasDistinctKeys := by
      cases hfield : document.field? documentKey with
      | none => simpa only [selected, hfield, Option.getD_none] using hdistinct
      | some value =>
          simpa only [selected, hfield, Option.getD_some] using hdistinct.field? hfield
    rw [htable] at hok hselected
    exact overlays_of_fill hselected.nodup (ofDatum_table_eq_ok_iff.1 hok).2
  · intro fault herror
    rw [isConfigError_iff herror]
    cases hfield : document.field? documentKey with
    | none =>
        -- the whole document is a table
        refine iff_of_true (.inl ⟨root, ?_⟩) (fun _ hvalue => nomatch hvalue)
        simpa only [selected, hfield, Option.getD_none] using hroot
    | some value => simp only [selected, hfield, Option.getD_some, Option.some.injEq, forall_eq']

/-- A table under the key for settings gives a segmenter, among other keys of the document. -/
theorem load_classifies_among_other_keys :
    let content := "title = 1\n[carve]\nsegmenter = \"codepoint\"\n"
    let settings := [(Setting.segmenter.key, Datum.text (Text.lit "codepoint"))]
    let document := Datum.table [(Text.lit "title", .int 1), (documentKey, .table settings)]
    String.fromUTF8? content.toUTF8 = some content ∧ Toml.parse content.toList = .ok document ∧
      ∃ c, load (Text.lit "carve.toml") (.file content.toUTF8) = .ok c ∧
        c.get .segmenter = Text.lit "codepoint" ∧
        c.get .logLevel = Text.lit "WARNING" := by
  intro content settings document
  have hcontent : String.fromUTF8? content.toUTF8 = some content := dif_pos content.isValidUTF8
  have hdocument : Toml.parse content.toList = .ok document := by cbv
  obtain ⟨hok, hover, -⟩ := load_classifies (Text.lit "carve.toml") hcontent hdocument
  have hsettings : AreSettings settings :=
    List.forall_mem_singleton.2 ⟨⟨.segmenter, rfl⟩, Text.lit "codepoint", rfl⟩
  obtain ⟨c, hc⟩ := hok.2 ⟨settings, rfl, hsettings⟩
  have hoverlays := hover c settings hc rfl
  refine ⟨hcontent, hdocument, c, hc, ?_, ?_⟩
  · exact hoverlays.given .segmenter (Text.lit "codepoint") List.mem_cons_self
  · exact hoverlays.kept .logLevel (by decide)

/-- A number under the key for settings is no error of the configuration. -/
theorem load_number_not_configError :
    let content := "carve = 5\n"
    String.fromUTF8? content.toUTF8 = some content ∧
      Toml.parse content.toList = .ok (.table [(documentKey, .int 5)]) ∧
      ∃ fault, load (Text.lit "carve.toml") (.file content.toUTF8) = .error fault ∧
        fault.message = Text.lit "'int' object is not iterable" ∧ fault.isConfigError = false := by
  intro content
  have hcontent : String.fromUTF8? content.toUTF8 = some content := dif_pos content.isValidUTF8
  have hdocument : Toml.parse content.toList = .ok (.table [(documentKey, .int 5)]) := by cbv
  refine ⟨hcontent, hdocument, .noMembers (Datum.int 5).fullKindName, ?_, by decide, rfl⟩
  simp only [load, hcontent, hdocument]
  rfl

end TextCursor.Configuration
