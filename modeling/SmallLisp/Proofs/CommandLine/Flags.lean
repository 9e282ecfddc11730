/-
**Flags and the environment.**

The environment enters a run through two settings only, each of which a flag can give instead. A flag is
not looked at if its value is the empty text or zero: then the variable decides, as if there were no
flag. A level whose name is taken by a format is refused before the limit is looked at.

* `run_env`: the environment matters through the settings alone;
* `ending_eq_setting_iff`: a run escapes on a setting if and only if the settings cannot be settled;
* `settle_of_given`: the settings that two flags give;
* `flags_override_environment`: for which flags no run depends on the environment.
-/

import SmallLisp.Proofs.CommandLine.Contract

namespace SmallLisp

/-! ### One setting at a time -/

/-- The names of formats, which are refused as log levels. -/
def LogLevel.IsFormat (name : String) : Prop := name = "BASIC_FORMAT" ∨ name = "_STYLES"

instance (name : String) : Decidable (LogLevel.IsFormat name) := inferInstanceAs (Decidable (_ ∨ _))

theorem LogLevel.exists_ofName_eq_error_iff {name : String} :
    (∃ fault, ofName name = .error fault) ↔ IsFormat name := by
  unfold ofName
  constructor
  · rintro ⟨fault, failed⟩
    repeat' split at failed
    all_goals cases failed
    · exact .inl ‹_›
    · exact .inr ‹_›
  · rintro (rfl | rfl)
    · exact ⟨.levelIsFormat, rfl⟩
    · exact ⟨.levelIsFormatTable, rfl⟩

theorem LogLevel.exists_ofName_eq_ok {name : String} (accepted : ¬IsFormat name) :
    ∃ threshold, ofName name = .ok threshold := by
  cases named : ofName name with
  | ok threshold => exact ⟨threshold, rfl⟩
  | error fault => exact absurd (exists_ofName_eq_error_iff.mp ⟨fault, named⟩) accepted

theorem logThreshold_of_given {level : String} (given : level ≠ "") (env : Environment) :
    logThreshold (some level) env = LogLevel.ofName (Text.upper level) := by
  have nonempty : ¬level.isEmpty := by simpa using given
  rw [logThreshold, if_neg nonempty]

theorem requestedLimit_of_given {limit : Int} (given : limit ≠ 0) (env : Environment) :
    requestedLimit (some limit) env = .ok limit := by
  rw [requestedLimit, if_neg given]

/-- **The limit is only ever raised.** -/
theorem raiseLimit_eq_max {limit : Int} (fits : limit ≤ maxLimit) (current : Int) :
    raiseLimit current limit = .ok (max current limit) := by
  unfold raiseLimit
  by_cases small : limit ≤ current
  · rw [if_pos small, max_eq_left small]
  · rw [if_neg small, if_pos fits, max_eq_right (not_le.mp small).le]

/-- The environment in which one variable is set. -/
def Environment.only (key value : String) : Environment := fun name =>
  if name = key then some value else none

/-- The environment in which no variable is set. -/
def Environment.unset : Environment := fun _ => none

namespace CommandLine

/-! ### Runs in different environments -/

section Runs

variable {host : Host} {arguments : List String} {options : Options}
  (asked : readOptions arguments = .ok (some options))
include asked

/-- **The environment matters through the settings alone.** -/
theorem run_env {env : Environment} (same : settle options env = settle options host.env) :
    run { host with env } arguments = run host arguments := by
  have sources : ∀ session, runSources { host with env } options.sources session
      = runSources host options.sources session := by
    refine runSources_congr fun source _ => ?_
    cases source <;> rfl
  rw [run, run, asked]
  simp only [runOptions, runPrograms, same, sources]

/-- **A run escapes on a setting** if and only if the settings cannot be settled: no program ends in
that way. -/
theorem ending_eq_setting_iff {fault : SettingFault} :
    (run host arguments).ending = .escape (.setting fault) ↔ settle options host.env = .error fault := by
  rw [run, asked]
  show (runOptions host options).ending = _ ↔ _
  unfold runOptions
  cases settled : settle options host.env with
  | error other => simp
  | ok settings =>
      have ended : ∀ stop, (endingOf stop).1 ≠ .escape (.setting fault) := by
        intro stop
        unfold endingOf
        repeat' split
        all_goals simp
      simp [runPrograms, ended]

/-- The nesting limit after a run is the one that was settled, or the one before if none was. -/
theorem limit_eq :
    (run host arguments).limit =
      match settle options host.env with
      | .ok (_, limit) => limit
      | .error _ => initialLimit := by
  rw [run, asked]
  show (runOptions host options).limit = _
  unfold runOptions
  cases settle options host.env <;> rfl

/-- A variable that is refused is looked at, if it is not refused everywhere. -/
theorem not_overridden {env env' : Environment} {fault : SettingFault} {settings : LogLevel × Int}
    (refused : settle options env = .error fault) (settled : settle options env' = .ok settings) :
    ¬∀ env, run { host with env } arguments = run host arguments := by
  intro overridden
  have escaped : (run { host with env } arguments).ending = .escape (.setting fault) :=
    (ending_eq_setting_iff asked).mpr refused
  rw [overridden env, ← overridden env', ending_eq_setting_iff asked] at escaped
  exact absurd (settled.symm.trans escaped) nofun

end Runs

/-! ### Settings from two flags -/

section Given

variable {options : Options} {level : String} {limit : Int} (leveled : options.logLevel = some level)
  (limited : options.recursionLimit = some limit)

include leveled in
/-- A level that is refused is refused whatever the limit is. -/
theorem settle_of_format (given : level ≠ "") {fault : SettingFault}
    (refused : LogLevel.ofName (Text.upper level) = .error fault) (env : Environment) :
    settle options env = .error fault := by
  rw [settle, leveled, logThreshold_of_given given, refused]
  rfl

include leveled limited

theorem settle_of_threshold {env : Environment} {threshold : LogLevel}
    (accepted : logThreshold (some level) env = .ok threshold) :
    settle options env = (requestedLimit (some limit) env).bind fun asked =>
      (raiseLimit initialLimit asked).map fun raised => (threshold, raised) := by
  rw [settle, leveled, limited, accepted]
  show (do
    let asked ← requestedLimit (some limit) env
    return (threshold, ← raiseLimit initialLimit asked)) = _
  cases requestedLimit (some limit) env with
  | error fault => rfl
  | ok asked =>
      show (do return (threshold, ← raiseLimit initialLimit asked)) = (raiseLimit initialLimit asked).map _
      cases raiseLimit initialLimit asked <;> rfl

/-- **The settings that two flags give.** -/
theorem settle_of_given (fits : limit ≤ maxLimit) (given : level ≠ "") {threshold : LogLevel}
    (accepted : LogLevel.ofName (Text.upper level) = .ok threshold) (nonzero : limit ≠ 0)
    (env : Environment) : settle options env = .ok (threshold, max initialLimit limit) := by
  rw [settle_of_threshold leveled limited ((logThreshold_of_given given env).trans accepted),
    requestedLimit_of_given nonzero, Except.bind, raiseLimit_eq_max fits]
  rfl

/-- Without variables, only the name of a format is refused. -/
theorem exists_settle_unset (fits : limit ≤ maxLimit)
    (accepted : level = "" ∨ ¬LogLevel.IsFormat (Text.upper level)) :
    ∃ settings, settle options .unset = .ok settings := by
  have threshold : ∃ threshold, logThreshold (some level) .unset = .ok threshold := by
    by_cases given : level = ""
    · exact ⟨.warning, by rw [given]; decide +kernel⟩
    · rw [logThreshold_of_given given]
      exact LogLevel.exists_ofName_eq_ok (accepted.resolve_left given)
  have requested : ∃ asked ≤ maxLimit, requestedLimit (some limit) .unset = .ok asked := by
    by_cases nonzero : limit = 0
    · exact ⟨50000, by decide, by rw [nonzero]; decide +kernel⟩
    · exact ⟨limit, fits, requestedLimit_of_given nonzero _⟩
  obtain ⟨threshold, accepted⟩ := threshold
  obtain ⟨asked, fits, requested⟩ := requested
  refine ⟨(threshold, max initialLimit asked), ?_⟩
  rw [settle_of_threshold leveled limited accepted, requested, Except.bind, raiseLimit_eq_max fits]
  rfl

end Given

/-! ### Flags that are not looked at -/

section NotLookedAt

variable {host : Host} {arguments : List String} {options : Options} {level : String} {limit : Int}
  (asked : readOptions arguments = .ok (some options))
include asked

/-- An empty level: a variable that holds the name of a format is refused. -/
theorem not_overridden_of_empty (leveled : options.logLevel = some "")
    (limited : options.recursionLimit = some limit) (fits : limit ≤ maxLimit) :
    ¬∀ env, run { host with env } arguments = run host arguments := by
  have named : logThreshold (some "") (.only "MINILISP_LOG_LEVEL" "_STYLES")
      = .error .levelIsFormatTable := by decide +kernel
  have refused : settle options (.only "MINILISP_LOG_LEVEL" "_STYLES")
      = .error .levelIsFormatTable := by
    rw [settle, leveled, named]
    rfl
  obtain ⟨settings, settled⟩ := exists_settle_unset leveled limited fits (.inl rfl)
  exact not_overridden asked refused settled

/-- A limit of zero: a variable that holds no number is refused, if the level was not. -/
theorem not_overridden_of_zero (leveled : options.logLevel = some level)
    (limited : options.recursionLimit = some 0) (given : level ≠ "")
    (accepted : ¬LogLevel.IsFormat (Text.upper level)) :
    ¬∀ env, run { host with env } arguments = run host arguments := by
  have unread : requestedLimit (some 0) (.only "MINILISP_RECURSION_LIMIT" "lots")
      = .error (.limitNotInteger "lots") := by decide +kernel
  obtain ⟨threshold, named⟩ := LogLevel.exists_ofName_eq_ok accepted
  have refused : settle options (.only "MINILISP_RECURSION_LIMIT" "lots")
      = .error (.limitNotInteger "lots") := by
    rw [settle_of_threshold leveled limited ((logThreshold_of_given given _).trans named), unread]
    rfl
  obtain ⟨settings, settled⟩ := exists_settle_unset leveled limited (by decide) (.inr accepted)
  exact not_overridden asked refused settled

end NotLookedAt

/-! ### Which flags override the environment -/

/-- **Flags override the environment**, if they are neither the empty text nor zero. For flags that give
the level `level` and a limit `limit` that fits:

* runs in all environments are the same if and only if the level is not empty and the limit is not zero,
  or the level is the name of a format, which is refused before the limit is looked at;
* flags that override the environment and are not refused raise the limit to the one that they give,
  whatever it was before, and no run fails on a setting;
* with the name of a format as the level, the run fails and the limit stays as it was. -/
theorem flags_override_environment (host : Host) (arguments : List String) (options : Options)
    (level : String) (limit : Int) (asked : readOptions arguments = .ok (some options))
    (leveled : options.logLevel = some level) (limited : options.recursionLimit = some limit)
    (fits : limit ≤ maxLimit) :
    ((∀ env, run { host with env } arguments = run host arguments) ↔
      level ≠ "" ∧ (limit ≠ 0 ∨ LogLevel.IsFormat (Text.upper level))) ∧
    (level ≠ "" → limit ≠ 0 → ¬LogLevel.IsFormat (Text.upper level) →
      (run host arguments).limit = max initialLimit limit ∧
      (∀ fault, (run host arguments).ending ≠ .escape (.setting fault)) ∧
      ∀ current, (requestedLimit (some limit) host.env).bind (raiseLimit current)
        = .ok (max current limit)) ∧
    (level ≠ "" → LogLevel.IsFormat (Text.upper level) →
      (run host arguments).limit = initialLimit ∧
      ∃ fault, (run host arguments).ending = .escape (.setting fault)) := by
  refine ⟨⟨fun overridden => ?_, ?_⟩, fun given nonzero accepted => ?_, fun given format => ?_⟩
  · have given : level ≠ "" := by
      rintro rfl
      exact not_overridden_of_empty asked leveled limited fits overridden
    refine ⟨given, ?_⟩
    by_contra! neither
    obtain ⟨rfl, accepted⟩ := neither
    exact not_overridden_of_zero asked leveled limited given accepted overridden
  · rintro ⟨given, override⟩ env
    refine run_env asked ?_
    by_cases format : LogLevel.IsFormat (Text.upper level)
    · obtain ⟨fault, refused⟩ := LogLevel.exists_ofName_eq_error_iff.mpr format
      rw [settle_of_format leveled given refused, settle_of_format leveled given refused]
    · have nonzero : limit ≠ 0 := override.resolve_right format
      obtain ⟨threshold, accepted⟩ := LogLevel.exists_ofName_eq_ok format
      rw [settle_of_given leveled limited fits given accepted nonzero,
        settle_of_given leveled limited fits given accepted nonzero]
  · obtain ⟨threshold, accepted⟩ := LogLevel.exists_ofName_eq_ok accepted
    have settled := settle_of_given leveled limited fits given accepted nonzero host.env
    refine ⟨by rw [limit_eq asked, settled], fun fault escaped => ?_, fun current => ?_⟩
    · rw [ending_eq_setting_iff asked, settled] at escaped
      cases escaped
    · rw [requestedLimit_of_given nonzero]
      exact raiseLimit_eq_max fits current
  · obtain ⟨fault, refused⟩ := LogLevel.exists_ofName_eq_error_iff.mpr format
    have settled := settle_of_format leveled given refused host.env
    exact ⟨by rw [limit_eq asked, settled], fault, (ending_eq_setting_iff asked).mpr settled⟩

/-- A host without a program, whose variable for the limit holds no number. -/
def lotsHost : Host := ⟨.only "MINILISP_RECURSION_LIMIT" "lots", [], fun _ => .error .missing⟩

/-- A variable that holds no number does no harm if the flags give something else. -/
theorem flags_override_environment_lots :
    readOptions ["--recursion-limit", "5000", "--log-level", "error"]
      = .ok (some ⟨[], some "error", some 5000⟩) ∧
    (∀ env, run { lotsHost with env } ["--recursion-limit", "5000", "--log-level", "error"]
      = run lotsHost ["--recursion-limit", "5000", "--log-level", "error"]) ∧
    (run lotsHost ["--recursion-limit", "5000", "--log-level", "error"]).limit = 5000 := by
  have asked : readOptions ["--recursion-limit", "5000", "--log-level", "error"]
      = .ok (some ⟨[], some "error", some 5000⟩) := by decide +kernel
  have accepted : ¬LogLevel.IsFormat (Text.upper "error") := by decide +kernel
  obtain ⟨overridden, effect, -⟩ :=
    flags_override_environment lotsHost _ _ _ _ asked rfl rfl (by decide)
  exact ⟨asked, overridden.mpr ⟨by decide, .inl (by decide)⟩, (effect (by decide) (by decide) accepted).1⟩

/-- **A limit of zero counts as none**: the run fails on the variable, or takes over the default. -/
theorem zero_consults_environment :
    readOptions ["--recursion-limit", "0", "--log-level", "error"]
      = .ok (some ⟨[], some "error", some 0⟩) ∧
    run lotsHost ["--recursion-limit", "0", "--log-level", "error"]
      = ⟨.escape (.setting (.limitNotInteger "lots")), 1000, "", ""⟩ ∧
    run { lotsHost with env := .unset } ["--recursion-limit", "0", "--log-level", "error"]
      = ⟨.exit 0, 50000, "", ""⟩ := by
  refine ⟨?_, ?_, ?_⟩ <;> decide +kernel

end CommandLine

end SmallLisp
