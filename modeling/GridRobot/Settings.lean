import GridRobot.CommandLine
import GridRobot.Geometry
import GridRobot.Log.Line

/-!
# Settings

The settings say what board to draw or read, how fast to run a script and what to log. They start
from defaults, a configuration file may change them, and flags on the command line come last.
`Settings.problems` lists the values with which nothing can be run, and a file or a command line
that leads to such settings is refused.
-/

namespace GridRobot

/-- The settings of a run. -/
structure Settings where
  boardSize : Int64
  obstacles : Int64
  /-- The seed of random boards; zero stands for one taken from the clock. -/
  seed : UInt64
  robot : Position
  target : Position
  solvable : Bool
  /-- The board file; if there is one, the settings above do not count. -/
  layout : Text
  tick : Duration
  logLevel : Text
  logFormat : Text
  deriving DecidableEq, Repr, Inhabited

/-- A value with which nothing can be run. -/
inductive SettingsProblem where
  | boardSize (n : Int64)
  | obstacles (n : Int64)
  | tick (d : Duration)
  | logFormat (t : Text)
  | logLevel (t : Text)
  deriving DecidableEq, Repr, Inhabited

/-- The message for a problem. -/
def SettingsProblem.message : SettingsProblem → Text
  | boardSize n => Text.ofString "board.size must be positive, got " ++ Text.ofInt64 n
  | obstacles n => Text.ofString "board.obstacles must not be negative, got " ++ Text.ofInt64 n
  | tick d => Text.ofString "scheduler.tick must be positive, got " ++ d.text
  | logFormat t => Text.ofString "log.format must be 'text' or 'json', got " ++ t.quoted
  | logLevel t =>
    Text.ofString "log.level must be 'debug', 'info', 'warn', or 'error', got " ++ t.quoted

namespace Settings

/-- A board of thirty rows with twenty obstacles, crossed from corner to corner at one line per
second. -/
def default : Settings :=
  { boardSize := 30
    obstacles := 20
    seed := 0
    robot := ⟨0, 0⟩
    target := ⟨29, 29⟩
    solvable := false
    layout := []
    tick := .second
    logLevel := Text.ofString "info"
    logFormat := Text.ofString "text" }

/-- The names of log formats. -/
def logFormats : List Text :=
  ["text", "json"].map Text.ofString

/-- The names of log levels. -/
def logLevels : List Text :=
  ["debug", "info", "warn", "error"].map Text.ofString

/-- A problem, if a value has it. -/
def problemIf (bad : Bool) (p : SettingsProblem) : List SettingsProblem :=
  if bad then [p] else []

/-- The values with which nothing can be run. -/
def problems (s : Settings) : List SettingsProblem :=
  problemIf (s.layout.isEmpty && s.boardSize ≤ 0) (.boardSize s.boardSize) ++
    problemIf (s.layout.isEmpty && s.obstacles < 0) (.obstacles s.obstacles) ++
    problemIf (s.tick.nanoseconds ≤ 0) (.tick s.tick) ++
    problemIf (!logFormats.contains s.logFormat) (.logFormat s.logFormat) ++
    problemIf (!logLevels.contains s.logLevel) (.logLevel s.logLevel)

theorem problemIf_eq_nil_iff {bad : Bool} {p : SettingsProblem} :
    problemIf bad p = [] ↔ bad = false := by
  cases bad <;> simp [problemIf]

/-- Settings have no problem exactly if something can be run with each of their values. -/
theorem problems_eq_nil_iff {s : Settings} : s.problems = [] ↔
    (s.layout = [] → 0 < s.boardSize ∧ 0 ≤ s.obstacles) ∧ 0 < s.tick.nanoseconds ∧
      s.logFormat ∈ logFormats ∧ s.logLevel ∈ logLevels := by
  simp only [problems, List.append_eq_nil_iff, problemIf_eq_nil_iff, Bool.and_eq_false_iff,
    List.isEmpty_eq_false_iff, decide_eq_false_iff_not, Int64.not_le, Int64.not_lt,
    Bool.not_eq_false', List.contains_iff_mem, ← Decidable.imp_iff_not_or]
  constructor
  · rintro ⟨⟨⟨⟨hsize, hobstacles⟩, htick⟩, hformat⟩, hlevel⟩
    exact ⟨fun h => ⟨hsize h, hobstacles h⟩, htick, hformat, hlevel⟩
  · rintro ⟨hboard, htick, hformat, hlevel⟩
    exact ⟨⟨⟨⟨fun h => (hboard h).1, fun h => (hboard h).2⟩, htick⟩, hformat⟩, hlevel⟩

/-- The message for a list of problems, one to a line. -/
def problemsMessage (ps : List SettingsProblem) : Text :=
  Text.join [10] (ps.map SettingsProblem.message)

/-- A text, or another one where it is empty. -/
def orElse (t other : Text) : Text :=
  if t.isEmpty then other else t

/-- The settings with those that flags give. -/
def override (s : Settings) (fs : CommandLine.Flags) : Settings :=
  { s with
    layout := orElse fs.board s.layout
    logLevel := orElse fs.logLevel s.logLevel
    logFormat := orElse fs.logFormat s.logFormat
    tick := if 0 < fs.tick.nanoseconds then fs.tick else s.tick }

/-! ## Settings as text -/

/-- A truth value in words. -/
def truth (b : Bool) : Text :=
  Text.ofString (if b then "true" else "false")

/-- Two coordinates in brackets. -/
def bracketed (separator : Text) (p : Position) : Text :=
  Text.ofString "[" ++ Text.ofInt64 p.x ++ separator ++ Text.ofInt64 p.y ++ Text.ofString "]"

/-- The names of the settings with their values, where texts, positions and durations are written
by the functions given. -/
def fields (text : Text → Text) (position : Position → Text) (duration : Duration → Text)
    (s : Settings) : List (Text × Text) := [
  (Text.ofString "BoardSize", Text.ofInt64 s.boardSize),
  (Text.ofString "Obstacles", Text.ofInt64 s.obstacles),
  (Text.ofString "Seed", Text.ofNat s.seed.toNat),
  (Text.ofString "Robot", position s.robot),
  (Text.ofString "Target", position s.target),
  (Text.ofString "Solvable", truth s.solvable),
  (Text.ofString "Layout", text s.layout),
  (Text.ofString "Tick", duration s.tick),
  (Text.ofString "LogLevel", text s.logLevel),
  (Text.ofString "LogFormat", text s.logFormat)]

/-- Text between braces. -/
def braced (t : Text) : Text :=
  [123] ++ t ++ [125]

/-- The settings on one line. -/
def plain (s : Settings) : Text :=
  braced (Text.join [32] ((s.fields id (bracketed [32]) Duration.text).map
    fun (name, value) => name ++ [58] ++ value))

/-- The settings as a JSON object. -/
def json (s : Settings) : Text :=
  braced (Text.join [44]
    ((s.fields Log.json (bracketed [44]) fun d => Text.ofInt64 d.nanoseconds).map
      fun (name, value) => Log.json name ++ [58] ++ value))

end Settings

end GridRobot
