import GridRobot.Config.Schema
import GridRobot.Settings

/-!
# Settings from a configuration file

What a file says replaces the defaults; what it does not say stays as it was. `Settings.ofFile`
gives the settings, and `FileError.message` says why a file gives none.
-/

namespace GridRobot

/-- Why a configuration file gives no settings. -/
inductive FileError where
  /-- There is no such file, or it is not written by the rules of the language. -/
  | unreadable
  /-- It says something that it may not say. -/
  | faulty (ds : List Config.Diagnostic)
  /-- A position does not have two coordinates. -/
  | notPair (name : Text) (count : Nat)
  | badTick (e : DurationError)
  /-- Nothing can be run with what it says. -/
  | unusable (ps : List SettingsProblem)

/-- The message for a file of some name. -/
def FileError.message (file : Text) : FileError → Text
  | unreadable => Text.ofString "failed to parse config " ++ file
  | faulty ds =>
    Text.ofString "failed to decode config " ++ file ++ Text.ofString ": " ++
      Config.Diagnostic.summarize file ds
  | notPair name count =>
    Text.ofString "board." ++ name ++ Text.ofString " must be [x, y], got " ++ Text.ofNat count ++
      Text.ofString " values"
  | badTick e => Text.ofString "scheduler.tick: " ++ e.message
  | unusable ps => Settings.problemsMessage ps

namespace Settings

open Config (Datum)

/-- A truth value among data. -/
def bool? (data : Config.Schema.Data) (name : String) : Option Bool :=
  match data.lookup (Text.ofString name) with
  | some (.bool b) => some b
  | _ => none

/-- A number among data. -/
def int? (data : Config.Schema.Data) (name : String) : Option Int64 :=
  match data.lookup (Text.ofString name) with
  | some (.int n) => some n
  | _ => none

/-- A text among data. -/
def text? (data : Config.Schema.Data) (name : String) : Option Text :=
  match data.lookup (Text.ofString name) with
  | some (.text t) => some t
  | _ => none

/-- A position among data, which must have two coordinates, or another one if there is none. -/
def position (data : Config.Schema.Data) (name : String) (other : Position) :
    Except FileError Position :=
  match data.lookup (Text.ofString name) with
  | some (.ints [x, y]) => .ok ⟨x, y⟩
  | some (.ints ns) => .error (.notPair (Text.ofString name) ns.length)
  | _ => .ok other

/-- A duration among data, or another one if there is none. -/
def duration (data : Config.Schema.Data) (name : String) (other : Duration) :
    Except FileError Duration :=
  match text? data name with
  | some t => (Duration.read t).mapError .badTick
  | none => .ok other

/-- The settings that a file's contents make of others. -/
def ofContents (s : Settings) (c : Config.Schema.Contents) : Except FileError Settings := do
  let robot ← position c.board "robot" s.robot
  let target ← position c.board "target" s.target
  let tick ← duration c.scheduler "tick" s.tick
  return {
    boardSize := (int? c.board "size").getD s.boardSize
    obstacles := (int? c.board "obstacles").getD s.obstacles
    seed := ((int? c.board "seed").map Int64.toUInt64).getD s.seed
    solvable := (bool? c.board "solvable").getD s.solvable
    layout := (text? c.board "layout").getD s.layout
    logLevel := (text? c.log "level").getD s.logLevel
    logFormat := (text? c.log "format").getD s.logFormat
    robot, target, tick }

/-- The settings, if something can be run with them. -/
def check (s : Settings) : Except FileError Settings :=
  match s.problems with
  | [] => .ok s
  | ps => .error (.unusable ps)

theorem check_eq_ok_iff {s t : Settings} : s.check = .ok t ↔ s.problems = [] ∧ t = s := by
  unfold check
  rcases s.problems with _ | ⟨p, ps⟩ <;> simp [eq_comm]

/-- The settings that the text of a configuration file gives. -/
def ofFile (t : Text) : Except FileError Settings := do
  match Config.Body.read? t with
  | none => .error .unreadable
  | some body =>
    let contents ← (Config.Schema.decode body).mapError .faulty
    let s ← ofContents default contents
    s.check

end Settings

end GridRobot
