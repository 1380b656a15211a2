import Footprint.Log.Configuration

namespace Footprint.Log

structure Call where
  settings : Except Settings.Fault Settings
  level : Option String

def Call.level? (c : Call) : Option Level :=
  match c.settings, c.level with
  | .error _, _ => none
  | .ok settings, none => some (if settings.debug then .debug else .warning)
  | .ok _, some name => Level.ofName? name

def Call.run (c : Call) (logger : Logger) : Except Logger.Fault Unit × Logger :=
  Logger.call c.settings c.level logger

namespace Logger

variable {settings : Settings} {level : Option String}

def after (logger : Logger) (calls : List Call) : Logger :=
  calls.foldl (fun logger c => (c.run logger).2) logger

theorem levelNamed_known {name : String} {level : Level} (known : Level.ofName? name = some level) :
    levelNamed name = pure level := by
  simp only [levelNamed, known]

theorem levelNamed_unknown {name : String} (unknown : Level.ofName? name = none) :
    levelNamed name = throw (.unknownLevel name) := by
  simp only [levelNamed, unknown]

theorem call_known {wanted : Level} (known : Level.ofName? (wantedName settings level) = some wanted)
    (logger : Logger) : call (.ok settings) level logger =
      (.ok (), ⟨wanted, if logger.handlers.isEmpty then [wanted] else logger.handlers⟩) := by
  simp only [call, configuring, setLevel, addHandler, levelNamed_known known]
  obtain ⟨level, handlers⟩ := logger
  cases handlers <;> rfl

theorem call_unknown (unknown : Level.ofName? (wantedName settings level) = none) (logger : Logger) :
    call (.ok settings) level logger = (.error (.unknownLevel (wantedName settings level)), logger) := by
  simp only [call, configuring, setLevel, levelNamed_unknown unknown]
  rfl

theorem ofName?_wantedName (settings : Settings) (level : Option String) :
    Level.ofName? (wantedName settings level) = Call.level? ⟨.ok settings, level⟩ := by
  cases level with
  | some name => rfl
  | none => cases debug : settings.debug <;> simp only [wantedName, Call.level?, debug] <;> decide

end Logger

namespace Call

variable {c : Call}

theorem run_succeeds {level : Level} (set : c.level? = some level) (logger : Logger) :
    c.run logger = (.ok (), ⟨level, if logger.handlers.isEmpty then [level] else logger.handlers⟩) := by
  obtain ⟨settings | settings, name⟩ := c
  · cases set
  · rw [← Logger.ofName?_wantedName] at set
    exact Logger.call_known set logger

theorem run_fails (failing : c.level? = none) (logger : Logger) : ∃ fault, c.run logger = (.error fault, logger) := by
  obtain ⟨settings | settings, name⟩ := c
  · exact ⟨.settings settings, rfl⟩
  · rw [← Logger.ofName?_wantedName] at failing
    exact ⟨_, Logger.call_unknown failing logger⟩

end Call

namespace Logger

theorem after_eq (logger : Logger) (calls : List Call) : logger.after calls =
    ⟨(calls.filterMap Call.level?).getLast?.getD logger.level,
      if logger.handlers.isEmpty then (calls.filterMap Call.level?).head?.toList else logger.handlers⟩ := by
  induction calls generalizing logger with
  | nil =>
    obtain ⟨level, handlers⟩ := logger
    cases handlers <;> rfl
  | cons c rest ih =>
    change ((c.run logger).2).after rest = _
    cases set : c.level? with
    | none =>
      obtain ⟨fault, run⟩ := c.run_fails set logger
      rw [run, ih, List.filterMap_cons_none set]
    | some level =>
      rw [c.run_succeeds set, ih, List.filterMap_cons_some set, List.getLast?_cons]
      cases logger.handlers <;> simp

theorem emits_iff {logger : Logger} {first : Level} (handlers : logger.handlers = [first]) (above level : Level) :
    logger.emits above level = true ↔ 0 < level ∧ first ≤ level ∧ logger.effectiveLevel above ≤ level := by
  simp only [emits, handlers, List.any_cons, List.any_nil, Bool.or_false, Bool.and_eq_true, decide_eq_true_eq]
  constructor
  · rintro ⟨⟨positive, own⟩, handled⟩
    exact ⟨positive, handled, own⟩
  · rintro ⟨positive, handled, own⟩
    exact ⟨⟨positive, own⟩, handled⟩

theorem emits_iff_passes {logger : Logger} {first above : Level} (handlers : logger.handlers = [first])
    (proper : 0 < logger.effectiveLevel above) :
    (∀ level, logger.emits above level = true ↔ logger.effectiveLevel above ≤ level) ↔
      first ≤ logger.effectiveLevel above := by
  constructor
  · intro follows
    have written := (follows (logger.effectiveLevel above)).mpr (Int.le_refl _)
    exact ((emits_iff handlers above _).mp written).2.1
  · intro lower level
    rw [emits_iff handlers]
    constructor
    · rintro ⟨-, -, passed⟩
      exact passed
    · intro passed
      exact ⟨Int.lt_of_lt_of_le proper passed, Int.le_trans lower passed, passed⟩

/-- A logger without handlers, after calls of which some succeed. Its one handler keeps the level of the first of them,
    so that the last one is followed exactly if it does not ask for more than the first. A call that fails does nothing. -/
theorem emits_after_calls {logger : Logger} (bare : logger.handlers = []) {calls : List Call} {first last : Level}
    (earliest : (calls.filterMap Call.level?).head? = some first)
    (latest : (calls.filterMap Call.level?).getLast? = some last) :
    let own (above : Level) := if last = 0 then above else last
    logger.after calls = ⟨last, [first]⟩ ∧
      (∀ above level, (logger.after calls).emits above level = true ↔ 0 < level ∧ first ≤ level ∧ own above ≤ level) ∧
      (∀ above, 0 < own above →
        ((∀ level, (logger.after calls).emits above level = true ↔ own above ≤ level) ↔ first ≤ own above)) ∧
      (∀ (c : Call) (logger : Logger), ((c.run logger).1 = .ok () ↔ c.level?.isSome = true) ∧
        (c.level? = none → (c.run logger).2 = logger)) ∧
      ∀ settings name, Level.ofName? name = none → ∀ logger,
        call (.ok settings) (some name) logger = (.error (.unknownLevel name), logger) := by
  intro own
  have whole : logger.after calls = ⟨last, [first]⟩ := by
    rw [after_eq, bare, earliest, latest]
    rfl
  rw [whole]
  refine ⟨rfl, emits_iff rfl, fun above proper => emits_iff_passes rfl proper, fun c logger => ?_, ?_⟩
  · cases set : c.level? with
    | none =>
      obtain ⟨fault, run⟩ := c.run_fails set logger
      simp [run]
    | some level => simp [c.run_succeeds set logger]
  · intro settings name unknown logger
    exact @call_unknown settings (some name) unknown logger

/-- The second call to succeed asks for everything, and no warning is written. -/
theorem emits_after_calls_of_lower :
    let settings : Settings := ⟨Settings.defaultAppName, false, ⟨"/", ["data"]⟩, "default"⟩
    let calls : List Call := [⟨.ok settings, some "LOUD"⟩, ⟨.ok settings, some "ERROR"⟩, ⟨.ok settings, some "DEBUG"⟩]
    fresh.after calls = ⟨Level.debug, [40]⟩ ∧ (fresh.after calls).emits Level.warning Level.warning = false ∧
      ¬ (∀ level, (fresh.after calls).emits Level.warning level = true ↔ Level.debug ≤ level) := by
  intro settings calls
  obtain ⟨whole, emitted, follows, -⟩ :=
    @emits_after_calls fresh rfl calls 40 Level.debug (by decide) (by decide)
  refine ⟨whole, ?_, fun same => absurd ((follows Level.warning (by decide)).mp same) (by decide)⟩
  rw [Bool.eq_false_iff]
  exact fun written => absurd ((emitted Level.warning Level.warning).mp written) (by decide)

end Logger
end Footprint.Log
