import TextCursor.Configuration.Session
import TextCursor.Proofs.Configuration.Member
import TextCursor.Proofs.Outcome
import TextCursor.Proofs.Session.Logging

/-!
# The calls that change settings

Two calls change the settings of the process: a configuration is put into force, or a segmenter is
selected. The first one changes two settings, one after the other, and may fail before either.
`SettingsStep.ends` lists all that a call can come to. What a single call leaves follows from it
(`SettingsStep.lawful`), and so does which call of a run a setting is due to
(`Settings.lawful_and_dueToLast`).
-/

namespace TextCursor

/-! ### Names of segmenters -/

/-- The choice names a segmenter that can be selected by name, or is the segmenter itself. -/
inductive SegmenterChoice.Gives : SegmenterChoice → Segmenter → Prop where
  | named {segmenter : Segmenter} (h : segmenter ∈ Segmenter.selectable) :
      Gives (.named segmenter.name) segmenter
  | given (segmenter : Segmenter) : Gives (.given segmenter) segmenter

/-- A name is looked up among the segmenters that can be selected by name. -/
theorem Segmenter.ofName?_eq_some_iff {wanted : Text} {segmenter : Segmenter} :
    ofName? wanted = some segmenter ↔ segmenter ∈ selectable ∧ segmenter.name = wanted := by
  constructor
  · intro h
    have hfound := List.find?_some h
    exact ⟨List.mem_of_find?_eq_some h, of_decide_eq_true hfound⟩
  · rintro ⟨hselectable, rfl⟩
    rcases List.mem_pair.1 hselectable with rfl | rfl
    · rfl
    · rfl

/-- A choice means the segmenter that it gives. -/
theorem SegmenterChoice.resolve_eq_ok_iff {choice : SegmenterChoice} {segmenter : Segmenter} :
    choice.resolve = .ok segmenter ↔ choice.Gives segmenter := by
  cases choice with
  | named name =>
      rw [resolve]
      constructor
      · intro h
        split at h
        · next found hfound =>
            cases h
            obtain ⟨hselectable, rfl⟩ := Segmenter.ofName?_eq_some_iff.1 hfound
            exact .named hselectable
        · cases h
      · intro h
        cases h with
        | named hselectable => rw [Segmenter.ofName?_eq_some_iff.2 ⟨hselectable, rfl⟩]
  | given chosen =>
      constructor
      · intro h
        cases h
        exact .given _
      · intro h
        cases h
        rfl
  | value datum => exact iff_of_false (fun h => nomatch h) (fun h => nomatch h)

/-! ### Kinds of errors -/

namespace Error

/-- The error is one of the configuration. -/
def isConfigError : Error → Bool
  | .configuration fault => fault.isConfigError
  | _ => false

/-- The error is that a value is of the wrong kind for what is asked of it. -/
def isTypeError : Error → Bool
  | .segmenter (.unfit _) | .steppedSlice => true
  | .configuration (.noMembers _) | .configuration (.unusableKey _) => true
  | .configuration (.nameless _) | .configuration (.unordered ..) => true
  | _ => false

/-- The error is that there is no segmenter of a name. -/
def isSegmenterError : Error → Bool
  | .segmenter (.unknown ..) => true
  | _ => false

end Error

/-! ### Calls -/

/-- A call that may change the settings of the process. -/
inductive SettingsCall where
  | apply (configuration : Configuration)
  | select (choice : SegmenterChoice)

namespace SettingsCall

/-- Carry out a call. Selecting a segmenter answers the one that was in force before, and applying a
configuration answers nothing. -/
def carryOut (s : Settings) : SettingsCall → Outcome Settings Error (Option Segmenter)
  | .apply c => (c.apply s).map fun _ => none
  | .select choice => ((s.selectSegmenter choice).mapError Error.segmenter).map some

/-- The segmenter that a call names or gives. -/
def Gives : SettingsCall → Segmenter → Prop
  | .apply c, segmenter => (SegmenterChoice.named c.segmenter).Gives segmenter
  | .select choice, segmenter => choice.Gives segmenter

/-- The log level that a call names. -/
def NamesLevel : SettingsCall → Int → Prop
  | .apply c, level => Level.ofName? c.logLevel = some level
  | .select _, _ => False

end SettingsCall

namespace ConfigurationSession

/-- The call that a step makes in a session of configuration, if it applies the current
configuration or selects a segmenter. -/
def callOf? (s : ConfigurationSession) : ConfigurationStep → Option SettingsCall
  | .apply => some (.apply s.current)
  | .selectSegmenter choice => some (.select choice)
  | .ofDatum _ | .load .. | .setUpLogging .. | .clusters _ => none

/-- The answer of a call as a step gives it. -/
def shown : Option Segmenter → Datum
  | none => .null
  | some previous => .text previous.name

/-- A step that makes a call comes to what the call comes to. -/
theorem step_eq_carryOut {s : ConfigurationSession} {step : ConfigurationStep}
    {call : SettingsCall} (h : s.callOf? step = some call) :
    s.step step = ((call.carryOut s.settings).map shown).onState s.withSettings := by
  cases step with
  | apply =>
      cases h
      rw [ConfigurationSession.step, SettingsCall.carryOut, Outcome.map_map]
      rfl
  | selectSegmenter choice =>
      cases h
      rw [ConfigurationSession.step, SettingsCall.carryOut, Outcome.map_map]
      rfl
  | ofDatum | load | setUpLogging | clusters => cases h

end ConfigurationSession

/-- A call of a run, and the settings in which it was made. -/
structure SettingsStep where
  before : Settings
  call : SettingsCall

namespace SettingsStep

/-- What the call came to. -/
def outcome (step : SettingsStep) : Outcome Settings Error (Option Segmenter) :=
  step.call.carryOut step.before

/-- The call returned normally. -/
def returned (step : SettingsStep) : Bool :=
  step.outcome.result.isOk

end SettingsStep

namespace Settings

/-- Set-up of logging accepts the level and the format of a configuration: the level is one that has
a name, and the format can be used or is not looked at any more. -/
def accepts (s : Settings) (c : Configuration) : Bool :=
  (Level.ofName? c.logLevel).isSome && (s.installed || LogFormat.isUsable c.logFormat)

/-- The settings once logging is set up for a level. The root level is set by the first set-up
only. -/
def logAt (s : Settings) (level : Int) : Settings :=
  { s with
    level := level
    rootLevel := if s.installed then s.rootLevel else level
    installed := true }

/-- The calls of a run, each with the settings in which it was made. -/
def history (s : Settings) : List SettingsCall → List SettingsStep
  | [] => []
  | first :: later => ⟨s, first⟩ :: history (first.carryOut s).state later

/-- The settings behind a run of calls. -/
def after (s : Settings) (calls : List SettingsCall) : Settings :=
  calls.foldl (fun settings call => (call.carryOut settings).state) s

/-- Views do the same under both settings: sessions under the one and the other that have the same
windows and iterators come to the same results and errors in every run, whatever honest memos they
have. -/
def ViewsAlike (s t : Settings) : Prop :=
  ∀ session other : Session, session.Honest → other.Honest → session.settings = s →
    other.settings = t → other.windows = session.windows →
    other.iterators = session.iterators → ∀ steps,
      (other.run steps).map Outcome.result = (session.run steps).map Outcome.result

end Settings

/-- The call is an application of which the level and the format were accepted. -/
def SettingsStep.accepted (step : SettingsStep) : Bool :=
  match step.call with
  | .apply c => step.before.accepts c
  | .select _ => false

/-- The value is one that the last of the steps that pass the test gives, or is what it was at first
when none of them passes. -/
def DueToLast {α : Type} (steps : List SettingsStep) (test : SettingsStep → Bool)
    (gives : SettingsCall → α → Prop) (first value : α) : Prop :=
  match (steps.filter test).getLast? with
  | none => value = first
  | some step => gives step.call value

/-! ### What a call can come to -/

/-- The name of a level means that level. -/
theorem LevelChoice.resolve_named {name : Text} {level : Int}
    (h : Level.ofName? name = some level) : (named name).resolve = .ok level := by
  rw [resolve, h]

/-- Logging is set up when level and format are accepted. -/
theorem Settings.setUpLogging_of_accepts {s : Settings} {c : Configuration}
    (h : s.accepts c = true) :
    ∃ level, Level.ofName? c.logLevel = some level ∧
      s.setUpLogging (.named c.logLevel) c.logFormat = .done () (s.logAt level) := by
  obtain ⟨hlevel, hformat⟩ := Bool.and_eq_true_iff.1 h
  obtain ⟨level, hlevel⟩ := Option.isSome_iff_exists.1 hlevel
  refine ⟨level, hlevel, ?_⟩
  simp only [setUpLogging, LevelChoice.resolve_named hlevel]
  by_cases hinstalled : s.installed = true
  · rw [if_pos hinstalled, logAt, if_pos hinstalled, ← hinstalled]
  · have husable : LogFormat.isUsable c.logFormat = true := by
      simpa only [hinstalled, Bool.false_or] using hformat
    rw [if_neg hinstalled, if_pos husable, logAt, if_neg hinstalled]

/-- Setting up logging fails without a change when level or format is not accepted. -/
theorem Settings.setUpLogging_of_not_accepts {s : Settings} {c : Configuration}
    (h : s.accepts c = false) :
    ∃ fault, s.setUpLogging (.named c.logLevel) c.logFormat = .failed fault s := by
  cases hlevel : Level.ofName? c.logLevel with
  | none =>
      have hresolve : (LevelChoice.named c.logLevel).resolve = .error c.logLevel := by
        rw [LevelChoice.resolve, hlevel]
      exact ⟨.unknownLevel c.logLevel, by simp only [setUpLogging, hresolve]⟩
  | some level =>
      have hformat : s.installed = false ∧ LogFormat.isUsable c.logFormat = false := by
        simpa [accepts, hlevel] using h
      refine ⟨.invalidFormat c.logFormat, ?_⟩
      simp only [setUpLogging, LevelChoice.resolve_named hlevel, hformat, Bool.false_eq_true,
        if_false]

/-- Selecting a segmenter that the choice gives answers the one that was in force, and changes
nothing else. -/
theorem Settings.selectSegmenter_of_gives (s : Settings) {choice : SegmenterChoice}
    {segmenter : Segmenter} (h : choice.Gives segmenter) :
    (s.selectSegmenter choice).result = .ok s.segmenter ∧
      (s.selectSegmenter choice).state = { s with segmenter := segmenter } := by
  unfold selectSegmenter
  rw [SegmenterChoice.resolve_eq_ok_iff.2 h]
  exact ⟨rfl, rfl⟩

/-- Selecting a segmenter fails without a change when the choice gives none: a name is not known
then, and another value is no segmenter. -/
theorem Settings.selectSegmenter_of_not_gives (s : Settings) {choice : SegmenterChoice}
    (h : ∀ segmenter, ¬ choice.Gives segmenter) :
    ∃ fault, s.selectSegmenter choice = .failed fault s ∧
      ((∃ name available, choice = .named name ∧ fault = .unknown name available) ∨
        ∃ datum, choice = .value datum ∧ fault = .unfit datum) := by
  unfold selectSegmenter
  cases choice with
  | named name =>
      cases hfound : Segmenter.ofName? name with
      | none =>
          refine ⟨.unknown name (Segmenter.selectable.map Segmenter.name), ?_, ?_⟩
          · simp only [SegmenterChoice.resolve, hfound]
          · exact .inl ⟨name, _, rfl, rfl⟩
      | some segmenter =>
          obtain ⟨hselectable, rfl⟩ := Segmenter.ofName?_eq_some_iff.1 hfound
          exact absurd (.named hselectable) (h segmenter)
  | given segmenter => exact absurd (.given segmenter) (h segmenter)
  | value datum => exact ⟨.unfit datum, rfl, .inr ⟨datum, rfl, rfl⟩⟩

namespace Configuration

variable {s : Settings} {c : Configuration}

/-- Applying a configuration of which level or format is not accepted fails without a change. -/
theorem apply_of_not_accepts (h : s.accepts c = false) :
    ∃ fault, c.apply s = .failed (.configuration (.logging fault)) s := by
  obtain ⟨fault, hlogging⟩ := Settings.setUpLogging_of_not_accepts h
  refine ⟨fault, ?_⟩
  rw [apply, hlogging]
  rfl

/-- Applying a configuration of which level and format are accepted selects its segmenter once
logging is set up. -/
theorem apply_of_accepts (h : s.accepts c = true) :
    ∃ level, Level.ofName? c.logLevel = some level ∧
      c.apply s =
        (((s.logAt level).selectSegmenter (.named c.segmenter)).mapError
          Error.segmenter).andThen fun _ t => ⟨.ok (), t, t.note (.applied c)⟩ := by
  obtain ⟨level, hlevel, hlogging⟩ := Settings.setUpLogging_of_accepts h
  refine ⟨level, hlevel, ?_⟩
  rw [apply, hlogging]
  exact Outcome.done_andThen _ _ _

end Configuration

/-- All that a call can come to. -/
inductive SettingsStep.Ends (step : SettingsStep) : Prop where
  /-- Level or format of a configuration is not accepted, and nothing is changed. -/
  | unapplied {c : Configuration} {fault : LoggingFault} (hcall : step.call = .apply c)
      (haccepts : step.before.accepts c = false)
      (hresult : step.outcome.result = .error (.configuration (.logging fault)))
      (hstate : step.outcome.state = step.before)
  /-- Logging is set up, but there is no such segmenter. -/
  | halfApplied {c : Configuration} {level : Int} {available : List Text}
      (hcall : step.call = .apply c) (haccepts : step.before.accepts c = true)
      (hlevel : Level.ofName? c.logLevel = some level)
      (hresult : step.outcome.result = .error (.segmenter (.unknown c.segmenter available)))
      (hstate : step.outcome.state = step.before.logAt level)
  /-- Logging is set up, and the segmenter is selected. -/
  | applied {c : Configuration} {level : Int} {segmenter : Segmenter}
      (hcall : step.call = .apply c) (haccepts : step.before.accepts c = true)
      (hlevel : Level.ofName? c.logLevel = some level) (hgives : step.call.Gives segmenter)
      (hresult : step.outcome.result = .ok none)
      (hstate : step.outcome.state = { step.before.logAt level with segmenter := segmenter })
  /-- There is no segmenter of a name, and nothing is changed. -/
  | unknown {name : Text} {available : List Text} (hcall : step.call = .select (.named name))
      (hresult : step.outcome.result = .error (.segmenter (.unknown name available)))
      (hstate : step.outcome.state = step.before)
  /-- A value is no segmenter, and nothing is changed. -/
  | unfit {datum : Datum} (hcall : step.call = .select (.value datum))
      (hresult : step.outcome.result = .error (.segmenter (.unfit datum)))
      (hstate : step.outcome.state = step.before)
  /-- A segmenter is selected, and the one before it is answered. -/
  | selected {choice : SegmenterChoice} {segmenter : Segmenter}
      (hcall : step.call = .select choice) (hgives : step.call.Gives segmenter)
      (hresult : step.outcome.result = .ok (some step.before.segmenter))
      (hstate : step.outcome.state = { step.before with segmenter := segmenter })

namespace SettingsStep

/-- Applying a configuration comes to one of these ends. -/
theorem ends_apply (s : Settings) (c : Configuration) : Ends ⟨s, .apply c⟩ := by
  cases haccepts : s.accepts c with
  | false =>
      obtain ⟨fault, happly⟩ := Configuration.apply_of_not_accepts haccepts
      have houtcome : outcome ⟨s, .apply c⟩ = .failed (.configuration (.logging fault)) s := by
        simp only [outcome, SettingsCall.carryOut, happly]
        rfl
      exact .unapplied rfl haccepts (congrArg Outcome.result houtcome)
        (congrArg Outcome.state houtcome)
  | true =>
      obtain ⟨level, hlevel, happly⟩ := Configuration.apply_of_accepts haccepts
      by_cases hnamed : ∃ segmenter, (SegmenterChoice.named c.segmenter).Gives segmenter
      · obtain ⟨segmenter, hgives⟩ := hnamed
        obtain ⟨hresult, hstate⟩ := (s.logAt level).selectSegmenter_of_gives hgives
        have hselected : (((s.logAt level).selectSegmenter (.named c.segmenter)).mapError
            Error.segmenter).result = .ok (s.logAt level).segmenter := by
          rw [Outcome.mapError, hresult]
          rfl
        rw [Outcome.andThen_of_ok hselected] at happly
        refine .applied rfl haccepts hlevel hgives ?_ ?_
        · simp only [outcome, SettingsCall.carryOut, happly]
          rfl
        · simp only [outcome, SettingsCall.carryOut, happly]
          exact hstate
      · obtain ⟨fault, hselect, hfault⟩ :=
          (s.logAt level).selectSegmenter_of_not_gives (not_exists.1 hnamed)
        rcases hfault with ⟨name, available, hname, rfl⟩ | ⟨datum, hvalue, -⟩
        · cases hname
          rw [hselect] at happly
          have houtcome : outcome ⟨s, .apply c⟩ =
              .failed (.segmenter (.unknown c.segmenter available)) (s.logAt level) := by
            simp only [outcome, SettingsCall.carryOut, happly]
            rfl
          exact .halfApplied rfl haccepts hlevel (congrArg Outcome.result houtcome)
            (congrArg Outcome.state houtcome)
        · cases hvalue

/-- Selecting a segmenter comes to one of these ends. -/
theorem ends_select (s : Settings) (choice : SegmenterChoice) : Ends ⟨s, .select choice⟩ := by
  by_cases hgiven : ∃ segmenter, choice.Gives segmenter
  · obtain ⟨segmenter, hgives⟩ := hgiven
    obtain ⟨hresult, hstate⟩ := s.selectSegmenter_of_gives hgives
    refine .selected rfl hgives ?_ hstate
    simp only [outcome, SettingsCall.carryOut, Outcome.map, Outcome.mapError, hresult]
    rfl
  · obtain ⟨fault, hselect, hfault⟩ := s.selectSegmenter_of_not_gives (not_exists.1 hgiven)
    have houtcome : outcome ⟨s, .select choice⟩ = .failed (.segmenter fault) s := by
      simp only [outcome, SettingsCall.carryOut, hselect]
      rfl
    rcases hfault with ⟨name, available, rfl, rfl⟩ | ⟨datum, rfl, rfl⟩
    · exact .unknown rfl (congrArg Outcome.result houtcome) (congrArg Outcome.state houtcome)
    · exact .unfit rfl (congrArg Outcome.result houtcome) (congrArg Outcome.state houtcome)

/-- A call comes to one of these ends. -/
theorem ends (step : SettingsStep) : step.Ends := by
  obtain ⟨s, call⟩ := step
  cases call with
  | apply c => exact ends_apply s c
  | select choice => exact ends_select s choice

end SettingsStep

/-! ### What a call leaves -/

namespace SettingsStep

/-- The call that sets a segmenter back, with other calls between. -/
def setBack (step : SettingsStep) (between : List SettingsCall) (previous : Segmenter) :
    SettingsStep :=
  ⟨step.outcome.state.after between, .select (.given previous)⟩

/-- What a call leaves when it fails, and what it leaves and answers when it returns. -/
structure Lawful (step : SettingsStep) : Prop where
  /-- A call fails with an error of the configuration, for a value of the wrong kind, or because
  there is no segmenter of a name. -/
  failures : ∀ error, step.outcome.result = .error error →
    error.isConfigError = true ∨ error.isTypeError = true ∨ error.isSegmenterError = true
  /-- Applying a configuration fails with an error of the configuration exactly if its level or its
  format is not accepted. -/
  configError_iff : ∀ c, step.call = .apply c →
    ((∃ error, step.outcome.result = .error error ∧ error.isConfigError = true) ↔
      step.before.accepts c = false)
  /-- A call that fails with an error of the configuration, or for a value of the wrong kind,
  changes nothing. -/
  refused : ∀ error, step.outcome.result = .error error →
    error.isConfigError = true ∨ error.isTypeError = true → step.outcome.state = step.before
  /-- An application that fails because there is no such segmenter has set up logging and nothing
  else. -/
  halfApplied : ∀ c error, step.call = .apply c → step.outcome.result = .error error →
    error.isSegmenterError = true →
      Level.ofName? c.logLevel = some step.outcome.state.level ∧
        step.outcome.state.segmenter = step.before.segmenter ∧
        step.outcome.state = step.before.logAt step.outcome.state.level
  /-- An application that returns has put both the level and the segmenter into force. -/
  applied : ∀ c, step.call = .apply c → step.returned = true →
    Level.ofName? c.logLevel = some step.outcome.state.level ∧
      step.call.Gives step.outcome.state.segmenter
  /-- Selecting a segmenter that there is not changes nothing. -/
  unselected : ∀ choice error, step.call = .select choice → step.outcome.result = .error error →
    step.outcome.state = step.before
  /-- Selecting a segmenter changes nothing but the segmenter, and answers the one that was in
  force before. -/
  selected : ∀ choice answer, step.call = .select choice → step.outcome.result = .ok answer →
    answer = some step.before.segmenter ∧ choice.Gives step.outcome.state.segmenter ∧
      step.outcome.state = { step.before with segmenter := step.outcome.state.segmenter }
  /-- Setting back the segmenter that was answered succeeds, whatever calls are made between, and
  leaves the level alone. Views do again then what they did before, and without calls between the
  settings are again what they were. -/
  restored : ∀ choice previous, step.call = .select choice →
    step.outcome.result = .ok (some previous) →
      (step.setBack [] previous).outcome.state = step.before ∧ ∀ between,
        (step.setBack between previous).returned = true ∧
          (step.setBack between previous).outcome.state.level =
            (step.outcome.state.after between).level ∧
          step.before.ViewsAlike (step.setBack between previous).outcome.state

variable {step : SettingsStep} {error : Error} {c : Configuration} {choice : SegmenterChoice}

/-- A call fails with an error of the configuration, for a value of the wrong kind, or because
there is no segmenter of a name. -/
theorem kind_of_error (h : step.outcome.result = .error error) :
    error.isConfigError = true ∨ error.isTypeError = true ∨ error.isSegmenterError = true := by
  cases step.ends with
  | unapplied _ _ hresult =>
      cases hresult.symm.trans h
      exact .inl rfl
  | unfit _ hresult =>
      cases hresult.symm.trans h
      exact .inr (.inl rfl)
  | halfApplied _ _ _ hresult | unknown _ hresult =>
      cases hresult.symm.trans h
      exact .inr (.inr rfl)
  | applied _ _ _ _ hresult | selected _ _ hresult => cases hresult.symm.trans h

/-- Applying a configuration fails with an error of the configuration exactly if its level or its
format is not accepted. -/
theorem exists_configError_iff (hcall : step.call = .apply c) :
    (∃ error, step.outcome.result = .error error ∧ error.isConfigError = true) ↔
      step.before.accepts c = false := by
  cases step.ends with
  | unapplied hcall' haccepts hresult =>
      cases hcall.symm.trans hcall'
      exact iff_of_true ⟨_, hresult, rfl⟩ haccepts
  | halfApplied hcall' haccepts _ hresult =>
      cases hcall.symm.trans hcall'
      refine iff_of_false ?_ (Bool.ne_false_iff.2 haccepts)
      rintro ⟨error, herror, hkind⟩
      cases hresult.symm.trans herror
      cases hkind
  | applied hcall' haccepts _ _ hresult =>
      cases hcall.symm.trans hcall'
      refine iff_of_false ?_ (Bool.ne_false_iff.2 haccepts)
      rintro ⟨error, herror, -⟩
      cases hresult.symm.trans herror
  | unknown hcall' | unfit hcall' | selected hcall' => cases hcall.symm.trans hcall'

/-- A call that fails with an error of the configuration, or for a value of the wrong kind, changes
nothing. -/
theorem state_of_refused (h : step.outcome.result = .error error)
    (hkind : error.isConfigError = true ∨ error.isTypeError = true) :
    step.outcome.state = step.before := by
  cases step.ends with
  | unapplied _ _ _ hstate | unknown _ _ hstate | unfit _ _ hstate => exact hstate
  | halfApplied _ _ _ hresult =>
      cases hresult.symm.trans h
      rcases hkind with hkind | hkind <;> cases hkind
  | applied _ _ _ _ hresult | selected _ _ hresult => cases hresult.symm.trans h

/-- An application that fails because there is no such segmenter has set up logging and nothing
else. -/
theorem state_of_halfApplied (hcall : step.call = .apply c)
    (h : step.outcome.result = .error error) (hkind : error.isSegmenterError = true) :
    Level.ofName? c.logLevel = some step.outcome.state.level ∧
      step.outcome.state.segmenter = step.before.segmenter ∧
      step.outcome.state = step.before.logAt step.outcome.state.level := by
  cases step.ends with
  | unapplied _ _ hresult =>
      cases hresult.symm.trans h
      cases hkind
  | halfApplied hcall' _ hlevel _ hstate =>
      cases hcall.symm.trans hcall'
      rw [hstate]
      exact ⟨hlevel, rfl, rfl⟩
  | applied _ _ _ _ hresult => cases hresult.symm.trans h
  | unknown hcall' | unfit hcall' | selected hcall' => cases hcall.symm.trans hcall'

/-- An application that returns has put both the level and the segmenter into force. -/
theorem state_of_applied (hcall : step.call = .apply c) (h : step.returned = true) :
    Level.ofName? c.logLevel = some step.outcome.state.level ∧
      step.call.Gives step.outcome.state.segmenter := by
  cases step.ends with
  | unapplied _ _ hresult | halfApplied _ _ _ hresult =>
      rw [returned, hresult] at h
      cases h
  | applied hcall' _ hlevel hgives _ hstate =>
      cases hcall.symm.trans hcall'
      rw [hstate]
      exact ⟨hlevel, hgives⟩
  | unknown hcall' | unfit hcall' | selected hcall' => cases hcall.symm.trans hcall'

/-- Selecting a segmenter that there is not changes nothing. -/
theorem state_of_unselected (hcall : step.call = .select choice)
    (h : step.outcome.result = .error error) : step.outcome.state = step.before := by
  cases step.ends with
  | unapplied hcall' | halfApplied hcall' | applied hcall' => cases hcall.symm.trans hcall'
  | unknown _ _ hstate | unfit _ _ hstate => exact hstate
  | selected _ _ hresult => cases hresult.symm.trans h

/-- Selecting a segmenter changes nothing but the segmenter, and answers the one that was in force
before. -/
theorem state_of_selected {answer : Option Segmenter} (hcall : step.call = .select choice)
    (h : step.outcome.result = .ok answer) :
    answer = some step.before.segmenter ∧ choice.Gives step.outcome.state.segmenter ∧
      step.outcome.state = { step.before with segmenter := step.outcome.state.segmenter } := by
  cases step.ends with
  | unapplied hcall' | halfApplied hcall' | applied hcall' => cases hcall.symm.trans hcall'
  | unknown _ hresult | unfit _ hresult => cases hresult.symm.trans h
  | selected hcall' hgives hresult hstate =>
      cases hcall.symm.trans hcall'
      cases hresult.symm.trans h
      rw [hcall] at hgives
      rw [hstate]
      exact ⟨rfl, hgives, rfl⟩

/-- What setting a segmenter back leaves. -/
@[simp] theorem state_setBack (step : SettingsStep) (between : List SettingsCall)
    (previous : Segmenter) :
    (step.setBack between previous).outcome.state =
      { step.outcome.state.after between with segmenter := previous } := rfl

end SettingsStep

/-- Views do the same under settings with the same segmenter. -/
theorem Settings.viewsAlike_of_segmenter {s t : Settings} (h : t.segmenter = s.segmenter) :
    s.ViewsAlike t := by
  rintro session other hsession hother rfl rfl hwindows hiterators steps
  exact Session.map_result_run_eq hsession hother hwindows hiterators h steps

/-- Every call keeps to what is said of what it leaves. -/
theorem SettingsStep.lawful (step : SettingsStep) : step.Lawful where
  failures _ h := kind_of_error h
  configError_iff _ hcall := exists_configError_iff hcall
  refused _ h hkind := state_of_refused h hkind
  halfApplied _ _ hcall h hkind := state_of_halfApplied hcall h hkind
  applied _ hcall h := state_of_applied hcall h
  unselected _ _ hcall h := state_of_unselected hcall h
  selected _ _ hcall h := state_of_selected hcall h
  restored choice previous hcall h := by
    obtain ⟨hanswer, -, hstate⟩ := state_of_selected hcall h
    cases hanswer
    constructor
    · rw [state_setBack, Settings.after, List.foldl_nil, hstate]
    · intro between
      exact ⟨rfl, rfl, Settings.viewsAlike_of_segmenter rfl⟩

/-! ### What a run leaves -/

/-- If each call that passes a test gives a setting its value, and each other call leaves it alone,
then the setting is due to the last call of a run that passes. -/
theorem dueToLast_after {α : Type} {field : Settings → α} {test : SettingsStep → Bool}
    {gives : SettingsCall → α → Prop}
    (hgives : ∀ step, test step = true → gives step.call (field step.outcome.state))
    (hkeeps : ∀ step, test step = false → field step.outcome.state = field step.before)
    (s : Settings) (calls : List SettingsCall) :
    DueToLast (s.history calls) test gives (field s) (field (s.after calls)) := by
  induction calls generalizing s with
  | nil => rfl
  | cons first later ih =>
      have hlater := ih (first.carryOut s).state
      rw [DueToLast] at hlater ⊢
      rw [Settings.history, List.filter_cons]
      cases htest : test ⟨s, first⟩ with
      | false =>
          have hkept : field (first.carryOut s).state = field s := hkeeps _ htest
          rw [hkept] at hlater
          rw [if_neg Bool.false_ne_true]
          exact hlater
      | true =>
          rw [if_pos rfl, List.getLast?_cons]
          cases hlast : (((first.carryOut s).state.history later).filter test).getLast? with
          | none =>
              -- no later call passes, so the value that this one gave has stayed
              rw [hlast] at hlater
              have hstayed : field (s.after (first :: later)) = field (first.carryOut s).state :=
                hlater
              show gives first (field (s.after (first :: later)))
              rw [hstayed]
              exact hgives _ htest
          | some step =>
              rw [hlast] at hlater
              exact hlater

namespace SettingsStep

variable {step : SettingsStep}

/-- A call that returned has put the segmenter that it gives into force. -/
theorem gives_of_returned (h : step.returned = true) :
    step.call.Gives step.outcome.state.segmenter := by
  cases step.ends with
  | unapplied _ _ hresult | halfApplied _ _ _ hresult | unknown _ hresult | unfit _ hresult =>
      rw [returned, hresult] at h
      cases h
  | applied _ _ _ hgives _ hstate | selected _ hgives _ hstate =>
      rw [hstate]
      exact hgives

/-- A call that failed leaves the segmenter in force. -/
theorem segmenter_of_not_returned (h : step.returned = false) :
    step.outcome.state.segmenter = step.before.segmenter := by
  cases step.ends with
  | unapplied _ _ _ hstate | unknown _ _ hstate | unfit _ _ hstate => rw [hstate]
  | halfApplied _ _ _ _ hstate =>
      rw [hstate]
      rfl
  | applied _ _ _ _ hresult | selected _ _ hresult =>
      rw [returned, hresult] at h
      cases h

/-- An application of which level and format were accepted has put the level that it names into
force. -/
theorem namesLevel_of_accepted (h : step.accepted = true) :
    step.call.NamesLevel step.outcome.state.level := by
  cases step.ends with
  | unapplied hcall haccepts =>
      rw [accepted, hcall] at h
      cases haccepts.symm.trans h
  | halfApplied hcall _ hlevel _ hstate | applied hcall _ hlevel _ _ hstate =>
      rw [hcall, hstate]
      exact hlevel
  | unknown hcall | unfit hcall | selected hcall =>
      rw [accepted, hcall] at h
      cases h

/-- Any other call leaves the level in force. -/
theorem level_of_not_accepted (h : step.accepted = false) :
    step.outcome.state.level = step.before.level := by
  cases step.ends with
  | unapplied _ _ _ hstate | unknown _ _ hstate | unfit _ _ hstate | selected _ _ _ hstate =>
      rw [hstate]
  | halfApplied hcall haccepts | applied hcall haccepts =>
      rw [accepted, hcall] at h
      cases haccepts.symm.trans h

end SettingsStep

/-- In any run of calls, each call keeps to what `SettingsStep.Lawful` says of it. Behind the run,
the segmenter in force is the one that the last call that returned names or gives, and the level is
the one that the last application names of which level and format were accepted. -/
theorem Settings.lawful_and_dueToLast (s : Settings) (calls : List SettingsCall) :
    (∀ step ∈ s.history calls, step.Lawful) ∧
      DueToLast (s.history calls) SettingsStep.returned SettingsCall.Gives
        s.segmenter (s.after calls).segmenter ∧
      DueToLast (s.history calls) SettingsStep.accepted SettingsCall.NamesLevel
        s.level (s.after calls).level := by
  refine ⟨fun step _ => step.lawful, ?_, ?_⟩
  · exact dueToLast_after (fun _ h => SettingsStep.gives_of_returned h)
      (fun _ h => SettingsStep.segmenter_of_not_returned h) s calls
  · exact dueToLast_after (fun _ h => SettingsStep.namesLevel_of_accepted h)
      (fun _ h => SettingsStep.level_of_not_accepted h) s calls

/-- The level of a half-applied configuration stays, as does the segmenter from before. -/
example :
    let calls : List SettingsCall :=
      [.apply { logFormat := Text.lit "plain" }, .select (.named (Text.lit "codepoint")),
        .apply { logLevel := Text.lit "info", segmenter := Text.lit "words" },
        .select (.value .null)]
    Settings.after {} calls =
      { segmenter := .codePoints, level := 20, rootLevel := 20, installed := true } := by
  decide

end TextCursor
