/-
  The settings of a session.

  Settings are asked for as plain numbers and texts.  `check` looks at them in a fixed order and
  either names the first that cannot be used or yields the accepted settings, in which the scheme
  and the log level are known ones and the scale is positive.  A rate that is no number compares
  with nothing and is accepted.
-/
import Chip8.Log.Level
import Chip8.Number.Text
import Chip8.Picture.Scheme

namespace Chip8

/-- Settings as they are asked for. -/
structure Settings where
  /-- Cycles for each second. -/
  instructionRate : Float := 500
  /-- Pictures for each second. -/
  renderRate : Float := 60
  /-- The side of the window cell that shows one pixel. -/
  scale : Int := 8
  /-- The name of the colour scheme. -/
  scheme : String := "classic"
  /-- The seed of the random source. -/
  seed : Int := 0
  /-- The name of the least log level that is shown. -/
  logLevel : String := "INFO"

/-- The first setting that cannot be used. -/
inductive SettingsError
  | instructionRate (rate : Float)
  | renderRate (rate : Float)
  | scale (scale : Int)
  | scheme (e : Scheme.Unknown)
  | logLevel (e : Log.UnknownLevel)

/-- Says which setting cannot be used. -/
def SettingsError.message : SettingsError → String
  | .instructionRate r => "instruction_rate must be positive, got " ++ NumberText.shortest r
  | .renderRate r => "render_rate must be positive, got " ++ NumberText.shortest r
  | .scale n => s!"scale must be at least 1, got {n}"
  | .scheme e => e.message
  | .logLevel e => e.message

/-- Settings that a session can run with. -/
structure Accepted where
  instructionRate : Float
  renderRate : Float
  scale : Int
  scheme : Scheme
  seed : Int
  threshold : Log.Level
  scale_pos : 1 ≤ scale

namespace Accepted

/-- The time from one cycle to the next. -/
def instructionPeriod (c : Accepted) : Float := 1 / c.instructionRate

/-- The time from one picture to the next. -/
def renderPeriod (c : Accepted) : Float := 1 / c.renderRate

end Accepted

namespace Settings

/-- Accepts settings or names the first that cannot be used. -/
def check (s : Settings) : Except SettingsError Accepted :=
  if s.instructionRate ≤ 0 then .error (.instructionRate s.instructionRate)
  else if s.renderRate ≤ 0 then .error (.renderRate s.renderRate)
  else if pos : 1 ≤ s.scale then
    match Scheme.ofName s.scheme with
    | .error e => .error (.scheme e)
    | .ok scheme =>
      match Log.Level.parse s.logLevel with
      | .error e => .error (.logLevel e)
      | .ok threshold =>
        .ok { instructionRate := s.instructionRate, renderRate := s.renderRate, scale := s.scale,
              scheme, seed := s.seed, threshold, scale_pos := pos }
  else .error (.scale s.scale)

variable {s : Settings}

/-- Settings that are accepted. -/
theorem check_eq_ok {scheme : Scheme} {threshold : Log.Level} (instructions : ¬ s.instructionRate ≤ 0)
    (renders : ¬ s.renderRate ≤ 0) (pos : 1 ≤ s.scale) (named : Scheme.ofName s.scheme = .ok scheme)
    (level : Log.Level.parse s.logLevel = .ok threshold) :
    s.check = .ok ⟨s.instructionRate, s.renderRate, s.scale, scheme, s.seed, threshold, pos⟩ := by
  rw [check, if_neg instructions, if_neg renders, dif_pos pos]
  simp only [named, level]

/-- The rates of accepted settings are not zero and not negative, if they can be compared at all. -/
theorem rates_of_check {c : Accepted} (accepted : s.check = .ok c) :
    ¬ c.instructionRate ≤ 0 ∧ ¬ c.renderRate ≤ 0 := by
  rw [check] at accepted
  by_cases instructions : s.instructionRate ≤ 0
  · rw [if_pos instructions] at accepted
    cases accepted
  by_cases renders : s.renderRate ≤ 0
  · rw [if_neg instructions, if_pos renders] at accepted
    cases accepted
  rw [if_neg instructions, if_neg renders] at accepted
  split at accepted
  · split at accepted
    · cases accepted
    · split at accepted
      · cases accepted
      · cases accepted
        exact ⟨instructions, renders⟩
  · cases accepted

end Settings

end Chip8
