import TextCursor.Configuration.Member

/-!
# What the check of members finds

Members pass their check when all of them name settings. When they do not, that is an error of the
configuration exactly if all members are texts (`Configuration.checkMembers_error_iff`): what is no
text names no setting and has no order among texts, so it is what the check stumbles over.
-/

namespace TextCursor

/-- The fault counts as an error of the configuration. The others are those of the decoder, of the
limit on digits, and of operations on values that are not fit for them. -/
def ConfigurationFault.isConfigError : ConfigurationFault → Bool
  | .unknownSettings _ | .notText .. | .unreadable .. | .malformed _ | .logging _ => true
  | .undecodable | .tooManyDigits _ | .noMembers _ | .noEntries _ | .unusableKey _ | .nameless _
  | .unordered .. => false

namespace Setting

/-- A setting is named by its key. -/
theorem ofKey?_key (setting : Setting) : ofKey? setting.key = some setting := by
  cases setting <;> decide

/-- A key names the setting of which it is the key. -/
theorem ofKey?_eq_some_iff {key : Text} {setting : Setting} :
    ofKey? key = some setting ↔ key = setting.key := by
  constructor
  · intro h
    have hfound := List.find?_some h
    exact (of_decide_eq_true hfound).symm
  · rintro rfl
    exact ofKey?_key setting

/-- A key names no setting if it is the key of none. -/
theorem ofKey?_eq_none_iff {key : Text} :
    ofKey? key = none ↔ ∀ setting : Setting, key ≠ setting.key := by
  rw [Option.eq_none_iff_forall_ne_some]
  exact forall_congr' fun setting => not_congr ofKey?_eq_some_iff

/-- Different settings have different keys. -/
theorem key_inj {setting other : Setting} (h : setting.key = other.key) : setting = other :=
  Option.some.inj ((ofKey?_key setting).symm.trans (ofKey?_eq_some_iff.2 h))

end Setting

namespace Datum

/-- The value is the key of a setting. -/
def NamesSetting (value : Datum) : Prop :=
  ∃ setting : Setting, value = .text setting.key

/-- A text names a setting if it is the key of one. -/
theorem namesSetting_text_iff {t : Text} :
    (Datum.text t).NamesSetting ↔ ∃ setting : Setting, t = setting.key := by
  simp [NamesSetting]

/-- A value names a setting if it is no stranger. -/
theorem namesSetting_iff {value : Datum} : value.NamesSetting ↔ ¬ value.isStranger = true := by
  cases value with
  | text t =>
      rw [isStranger, Option.isNone_iff_eq_none, Setting.ofKey?_eq_none_iff, namesSetting_text_iff,
        Classical.not_forall]
      simp only [ne_eq, Classical.not_not]
  | _ => simp [isStranger, NamesSetting]

/-- The texts are a family. -/
theorem family_eq_text_iff {value : Datum} : value.family = .text ↔ ∃ t, value = .text t := by
  cases value <;> simp [family]

/-- What can never be a key is no text. -/
theorem ne_text_of_isUnusable {value : Datum} (h : value.isUnusable = true) (t : Text) :
    value ≠ .text t := by
  rintro rfl
  cases h

end Datum

namespace Configuration

open Datum

variable {members : List Datum} {fault : ConfigurationFault}

/-- Members that name no setting are an error of the configuration if they are texts. Otherwise they
have no order among one another, or the least of them is no text. -/
theorem strangers_isConfigError_iff {first : Datum} {others : List Datum} :
    (strangers first others).isConfigError = true ↔
      ∀ member ∈ first :: others, ∃ t, member = .text t := by
  simp only [← family_eq_text_iff]
  unfold strangers
  split
  · next member hfound =>
      -- two members of different families are not both texts
      have hdiffers : member.family ≠ first.family := by simpa using List.find?_some hfound
      have hmember := List.mem_of_find?_eq_some hfound
      refine iff_of_false (fun hconfig => nomatch hconfig) ?_
      intro htexts
      exact hdiffers ((htexts member (List.mem_cons_of_mem _ hmember)).trans
        (htexts first List.mem_cons_self).symm)
  · next hnone =>
      split
      · next htext =>
          refine iff_of_true rfl (List.forall_mem_cons.2 ⟨htext, ?_⟩)
          intro member hmember
          have hsame : member.family = first.family := by
            simpa using List.find?_eq_none.1 hnone member hmember
          exact hsame.trans htext
      · next hother =>
          refine iff_of_false (fun hconfig => nomatch hconfig) ?_
          intro htexts
          exact hother (htexts first List.mem_cons_self)

/-- Members pass their check if all of them name settings. -/
theorem checkMembers_eq_ok_iff :
    checkMembers members = .ok () ↔ ∀ member ∈ members, member.NamesSetting := by
  unfold checkMembers
  split
  · next member hfound =>
      refine iff_of_false (fun hok => nomatch hok) ?_
      intro hnames
      obtain ⟨setting, hsetting⟩ := hnames member (List.mem_of_find?_eq_some hfound)
      exact ne_text_of_isUnusable (List.find?_some hfound) _ hsetting
  · split
    · next hnone =>
        refine iff_of_true rfl ?_
        intro member hmember
        exact namesSetting_iff.2 (List.filter_eq_nil_iff.1 hnone member hmember)
    · next first others hstrangers =>
        refine iff_of_false (fun hok => nomatch hok) ?_
        intro hnames
        have hfirst : first ∈ members.filter isStranger := hstrangers ▸ List.mem_cons_self
        obtain ⟨hmember, hstranger⟩ := List.mem_filter.1 hfirst
        exact namesSetting_iff.1 (hnames first hmember) hstranger

/-- When members do not pass their check, this is an error of the configuration if they are
texts. -/
theorem checkMembers_error_iff (h : checkMembers members = .error fault) :
    fault.isConfigError = true ↔ ∀ member ∈ members, ∃ t, member = .text t := by
  unfold checkMembers at h
  split at h
  · next member hfound =>
      cases h
      refine iff_of_false (fun hconfig => nomatch hconfig) ?_
      intro htexts
      obtain ⟨t, ht⟩ := htexts member (List.mem_of_find?_eq_some hfound)
      exact ne_text_of_isUnusable (List.find?_some hfound) t ht
  · split at h
    · cases h
    · next first others hstrangers =>
        cases h
        rw [strangers_isConfigError_iff, ← hstrangers]
        constructor
        · intro htexts member hmember
          -- what is no text is a stranger
          by_cases hstranger : member.isStranger = true
          · exact htexts member (List.mem_filter.2 ⟨hmember, hstranger⟩)
          · obtain ⟨setting, hsetting⟩ := namesSetting_iff.2 hstranger
            exact ⟨setting.key, hsetting⟩
        · intro htexts member hmember
          exact htexts member (List.mem_filter.1 hmember).1

end Configuration

end TextCursor
