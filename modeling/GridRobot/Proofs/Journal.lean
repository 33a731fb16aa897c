import GridRobot.Proofs.Reading
import GridRobot.Proofs.Runs

/-!
# The transcript as a journal

Everything that a line says is a report of one of a few kinds (`Report`). Two of them tell of a
change: that a variable was set, and that the robot has moved. They can be read back from their
texts (`readAssignment?`, `readArrival?`), and no report of another kind has such a text, whatever
bytes it repeats (`Report.text_eq_assignment_iff`, `Report.text_eq_arrival_iff`).

Where wins leave the session alone, each step of a line changes it just as its reports tell
(`Session.Tells`). So the variables and the place of the robot can be worked out from the transcript
(`transcript_tells_state`).
-/

open Relation (ReflTransGen)

namespace GridRobot

/-! ## Reports -/

/-- What a line can report to the console. -/
inductive Report where
  | assignment (name : Text) (value : Int64)
  | arrival (place : Position)
  | met (condition expected action : Text)
  | unmet (condition expected : Text)
  | help (line : Text) (hline : line ∈ Game.helpText)
  | listed (line : Text) (obstacles : List Position) (hline : line ∈ Game.listing obstacles)
  | won
  | started
  | failure (e : CommandError)

namespace Report

/-- What the console shows for a report. -/
def text : Report → Text
  | assignment name value =>
    Text.ofString "Variável " ++ name ++ Text.ofString " definida com valor " ++ Text.ofInt64 value
  | arrival place => Text.ofString "Movendo o robô para posição " ++ place.text
  | met condition expected action => Game.metMessage condition expected action
  | unmet condition expected => Game.unmetMessage condition expected
  | help line _ => line
  | listed line _ _ => line
  | won => Session.winMessage
  | started => Game.startMessage
  | failure e => e.message

def isError : Report → Bool
  | failure _ => true
  | _ => false

/-- The entry of a report in the transcript of a session. -/
def entry (number : Nat) (r : Report) : Log.Entry Nat :=
  ⟨r.text, r.isError, number⟩

/-- The variable that was set, with its value, if a report tells of that. -/
def assignment? : Report → Option (Text × Int64)
  | assignment name value => some (name, value)
  | _ => none

/-- Where the robot has moved, if a report tells of that. -/
def arrival? : Report → Option Position
  | arrival place => some place
  | _ => none

theorem assignment?_eq_some_iff {r : Report} {name : Text} {value : Int64} :
    r.assignment? = some (name, value) ↔ r = assignment name value := by
  cases r <;> simp [assignment?]

theorem arrival?_eq_some_iff {r : Report} {place : Position} :
    r.arrival? = some place ↔ r = arrival place := by
  cases r <;> simp [arrival?]

end Report

/-! ## Reading reports -/

/-- The variable that a message says was set, with its value. -/
def readAssignment? (message : Text) : Option (Text × Int64) := do
  let (front, numeral) ← message.cutLast? 32
  let name ← front.between? (Text.ofString "Variável ") (Text.ofString " definida com valor")
  let value ← numeral.toInt64?
  return (name, value)

/-- The position that a message says the robot has moved to. -/
def readArrival? (message : Text) : Option Position := do
  let shown ← message.between? (Text.ofString "Movendo o robô para posição ") []
  Position.read? shown

variable {message name : Text} {value : Int64} {place : Position}

theorem Report.text_assignment (name : Text) (value : Int64) :
    (assignment name value).text =
      (Text.ofString "Variável " ++ name ++ Text.ofString " definida com valor") ++
        32 :: Text.ofInt64 value := by
  have hspace : Text.ofString " definida com valor " =
    Text.ofString " definida com valor" ++ [32] := by decide
  simp [text, hspace]

theorem readAssignment?_eq_some_iff :
    readAssignment? message = some (name, value) ↔
      message = (Report.assignment name value).text := by
  simp only [readAssignment?, Option.bind_eq_bind, Option.bind_eq_some_iff, Prod.exists,
    Text.cutLast?_eq_some_iff, Text.between?_eq_some_iff, Text.toInt64?_eq_some_iff,
    Report.text_assignment]
  constructor
  · rintro ⟨front, numeral, ⟨rfl, -⟩, shown, rfl, n, rfl, hread⟩
    cases hread
    rfl
  · rintro rfl
    exact ⟨_, _, ⟨rfl, Text.space_notMem_ofInt64 value⟩, _, rfl, value, rfl, rfl⟩

theorem readArrival?_eq_some_iff :
    readArrival? message = some place ↔ message = (Report.arrival place).text := by
  simp only [readArrival?, Option.bind_eq_bind, Option.bind_eq_some_iff,
    Text.between?_eq_some_iff, Position.read?_eq_some_iff, List.append_nil]
  constructor
  · rintro ⟨shown, rfl, rfl⟩
    rfl
  · rintro rfl
    exact ⟨_, rfl, rfl⟩

/-! ## No report is mistaken for another -/

/-- Texts differ if neither of their openings can go on as the other. -/
theorem Text.ne_of_openings {a b t u : Text} (ha : a <+: t) (hb : b <+: u) (hab : ¬ a <+: b)
    (hba : ¬ b <+: a) : t ≠ u := by
  rintro rfl
  rcases List.prefix_or_prefix_of_prefix ha hb with h | h
  · exact hab h
  · exact hba h

namespace Report

variable {r : Report}

/-- How messages begin that tell of no change. -/
def otherOpenings : List Text :=
  [Text.ofString "Condição ", Text.ofString "Condições ", Text.ofString "Obstáculo ",
    Text.ofString "Posições ", Text.ofString "Nenhum ", Text.ofString "Uso ",
    Text.ofString "Comando ", Text.ofString "Direção ", Text.ofString "Movimento ",
    Text.ofString "Colidiu ", Session.winMessage, Game.startMessage] ++ Game.helpText

/-- A text begins as messages do that tell of no change. -/
def OpensOtherwise (t : Text) : Prop :=
  ∃ opening ∈ otherOpenings, opening <+: t

instance : DecidablePred OpensOtherwise := fun t =>
  inferInstanceAs (Decidable (∃ opening ∈ otherOpenings, opening <+: t))

theorem OpensOtherwise.append {t : Text} (h : OpensOtherwise t) (u : Text) :
    OpensOtherwise (t ++ u) := by
  obtain ⟨opening, hmem, hprefix⟩ := h
  exact ⟨opening, hmem, hprefix.trans (List.prefix_append t u)⟩

theorem opensOtherwise_of_mem_obstacleLines {first : Nat} {obstacles : List Position} {line : Text}
    (hline : line ∈ Game.obstacleLines first obstacles) : OpensOtherwise line := by
  induction obstacles generalizing first with
  | nil => simp [Game.obstacleLines] at hline
  | cons p obstacles ih =>
    rw [Game.obstacleLines, List.mem_cons] at hline
    rcases hline with rfl | hline
    · have hopening : OpensOtherwise (Text.ofString "Obstáculo ") := by decide
      exact ((hopening.append _).append _).append _
    · exact ih hline

theorem opensOtherwise_of_mem_listing {obstacles : List Position} {line : Text}
    (hline : line ∈ Game.listing obstacles) : OpensOtherwise line := by
  unfold Game.listing at hline
  split_ifs at hline
  · rw [List.mem_singleton] at hline
    rw [hline]
    decide
  · rcases List.mem_cons.1 hline with rfl | hline
    · decide
    · exact opensOtherwise_of_mem_obstacleLines hline

/-- A failure is told in words of its own, but for a variable that was never set. -/
theorem message_opensOtherwise (e : CommandError) :
    OpensOtherwise e.message ∨ ∃ name, e = .undefinedVariable name := by
  cases e with
  | undefinedVariable name => exact .inr ⟨name, rfl⟩
  | usage keyword =>
    have hopening : OpensOtherwise (Text.ofString "Uso incorreto do comando ") := by decide
    exact .inl (hopening.append _)
  | unknownCondition condition =>
    have hopening : OpensOtherwise (Text.ofString "Condição desconhecida: ") := by decide
    exact .inl (hopening.append _)
  | unknownList what =>
    have hopening : OpensOtherwise (Text.ofString "Comando MOSTRAR ") := by decide
    exact .inl ((hopening.append _).append _)
  | unknownStart what =>
    have hopening : OpensOtherwise (Text.ofString "Comando INICIAR ") := by decide
    exact .inl ((hopening.append _).append _)
  | unknownCommand | unknownDirection | outOfBounds | collision | nestedTooDeep =>
    exact .inl (by decide)

theorem text_opensOtherwise (r : Report) :
    OpensOtherwise r.text ∨ (∃ name, r = failure (.undefinedVariable name)) ∨
      (∃ name value, r = assignment name value) ∨ ∃ place, r = arrival place := by
  have hcondition : OpensOtherwise (Text.ofString "Condição ") := by decide
  cases r with
  | assignment name value => exact .inr (.inr (.inl ⟨name, value, rfl⟩))
  | arrival place => exact .inr (.inr (.inr ⟨place, rfl⟩))
  | met => exact .inl (((hcondition.append _).append _).append _)
  | unmet => exact .inl ((hcondition.append _).append _)
  | help line hline => exact .inl ⟨line, List.mem_append_right _ hline, List.prefix_rfl⟩
  | listed line obstacles hline => exact .inl (opensOtherwise_of_mem_listing hline)
  | won | started => exact .inl (by decide)
  | failure e =>
    rcases message_opensOtherwise e with hopening | ⟨name, rfl⟩
    · exact .inl hopening
    · exact .inr (.inl ⟨name, rfl⟩)

/-- A message that tells of no change is not one that begins in a way of its own. -/
theorem OpensOtherwise.ne {opening t u : Text} (ht : OpensOtherwise t) (hu : opening <+: u)
    (hapart : ∀ other ∈ otherOpenings, ¬ other <+: opening ∧ ¬ opening <+: other) : t ≠ u := by
  obtain ⟨other, hmem, hother⟩ := ht
  exact Text.ne_of_openings hother hu (hapart other hmem).1 (hapart other hmem).2

theorem assignment_opening (name : Text) (value : Int64) :
    Text.ofString "Variável " <+: (assignment name value).text := by
  rw [text, List.append_assoc, List.append_assoc]
  exact List.prefix_append _ _

theorem arrival_opening (place : Position) :
    Text.ofString "Movendo o robô para posição " <+: (arrival place).text :=
  List.prefix_append _ _

theorem arrival_ne_assignment (place : Position) (name : Text) (value : Int64) :
    (arrival place).text ≠ (assignment name value).text :=
  Text.ne_of_openings (arrival_opening place) (assignment_opening name value) (by decide)
    (by decide)

theorem undefinedVariable_opening (unset : Text) :
    Text.ofString "Variável " <+: (failure (.undefinedVariable unset)).text := by
  rw [text, CommandError.message, List.append_assoc]
  exact List.prefix_append _ _

/-- The message for a variable that was never set begins like an assignment, whatever its name is.
But its last word is no number. -/
theorem undefinedVariable_ne_assignment (unset name : Text) (value : Int64) :
    (failure (.undefinedVariable unset)).text ≠ (assignment name value).text := by
  intro h
  have htext : (failure (.undefinedVariable unset)).text =
      (Text.ofString "Variável " ++ unset.quoted ++ Text.ofString " não") ++
        32 :: Text.ofString "definida." := by
    have hspace : Text.ofString " não definida." =
      Text.ofString " não" ++ 32 :: Text.ofString "definida." := by decide
    simp [text, CommandError.message, hspace]
  -- the same text would end with both words
  have hcut := Text.cutLast?_append_cons (b := 32)
    (Text.ofString "Variável " ++ unset.quoted ++ Text.ofString " não")
    (show 32 ∉ Text.ofString "definida." by decide)
  rw [← htext, h, text_assignment, Text.cutLast?_append_cons _ (Text.space_notMem_ofInt64 value)]
    at hcut
  have hlast : Text.ofInt64 value = Text.ofString "definida." := by
    simpa using congrArg (Option.map Prod.snd) hcut
  have hnone : (Text.ofString "definida.").toInt64? = none := by decide
  rw [Text.toInt64?_eq_some_iff.2 hlast.symm] at hnone
  cases hnone

/-- Only an assignment is read as one. -/
theorem text_eq_assignment_iff :
    r.text = (assignment name value).text ↔ r = assignment name value := by
  refine ⟨fun h => ?_, fun h => by rw [h]⟩
  rcases r.text_opensOtherwise with hother | ⟨unset, rfl⟩ | ⟨name', value', rfl⟩ | ⟨place, rfl⟩
  · exact absurd h (hother.ne (assignment_opening name value) (by decide))
  · exact absurd h (undefinedVariable_ne_assignment unset name value)
  · have hread := readAssignment?_eq_some_iff.2 h
    rw [readAssignment?_eq_some_iff.2 rfl] at hread
    cases hread
    rfl
  · exact absurd h (arrival_ne_assignment place name value)

/-- Only an arrival is read as one. -/
theorem text_eq_arrival_iff : r.text = (arrival place).text ↔ r = arrival place := by
  refine ⟨fun h => ?_, fun h => by rw [h]⟩
  rcases r.text_opensOtherwise with hother | ⟨unset, rfl⟩ | ⟨name, value, rfl⟩ | ⟨place', rfl⟩
  · exact absurd h (hother.ne (arrival_opening place) (by decide))
  · exact absurd h (Text.ne_of_openings (undefinedVariable_opening unset) (arrival_opening place)
      (by decide) (by decide))
  · exact absurd h.symm (arrival_ne_assignment place name value)
  · have hread := readArrival?_eq_some_iff.2 h
    rw [readArrival?_eq_some_iff.2 rfl] at hread
    cases hread
    rfl

end Report

/-! ## Reading the transcript -/

namespace Log.Entry

/-- The assignment that an entry tells of; an error tells of none. -/
def assignment? (entry : Log.Entry Nat) : Option (Text × Int64) :=
  if entry.isError then none else readAssignment? entry.message

/-- The arrival that an entry tells of; an error tells of none. -/
def arrival? (entry : Log.Entry Nat) : Option Position :=
  if entry.isError then none else readArrival? entry.message

theorem assignment?_entry (number : Nat) (r : Report) :
    (r.entry number).assignment? = r.assignment? := by
  unfold assignment?
  split_ifs with herror
  · cases r with
    | failure e => rfl
    | _ => cases herror
  · ext ⟨name, value⟩
    rw [Report.assignment?_eq_some_iff, ← Report.text_eq_assignment_iff]
    exact readAssignment?_eq_some_iff

theorem arrival?_entry (number : Nat) (r : Report) :
    (r.entry number).arrival? = r.arrival? := by
  unfold arrival?
  split_ifs with herror
  · cases r with
    | failure e => rfl
    | _ => cases herror
  · ext place
    rw [Report.arrival?_eq_some_iff, ← Report.text_eq_arrival_iff]
    exact readArrival?_eq_some_iff

end Log.Entry

namespace Env

/-- The variables after a number of assignments. -/
def setAll (env : Env) (assignments : List (Text × Int64)) : Env :=
  assignments.foldl (fun env assignment => env.set assignment.1 assignment.2) env

end Env

namespace Session

variable {s t u : Session} {said more : List Report}

/-- From one state to another a session has said this and no more, and it has changed as that
tells. -/
structure Tells (said : List Report) (s t : Session) : Prop where
  transcript_eq : t.transcript = s.transcript ++ said.map (Report.entry s.number)
  env_eq : t.env = s.env.setAll (said.filterMap Report.assignment?)
  robot_eq : t.board.robot = (said.filterMap Report.arrival?).getLast?.getD s.board.robot
  number_eq : t.number = s.number
  onWin_eq : t.onWin = s.onWin

theorem Tells.refl (s : Session) : Tells [] s s where
  transcript_eq := (List.append_nil _).symm
  env_eq := rfl
  robot_eq := rfl
  number_eq := rfl
  onWin_eq := rfl

theorem Tells.trans (hst : Tells said s t) (htu : Tells more t u) : Tells (said ++ more) s u where
  transcript_eq := by
    rw [htu.transcript_eq, hst.transcript_eq, hst.number_eq, List.map_append, List.append_assoc]
  env_eq := by
    rw [htu.env_eq, hst.env_eq, List.filterMap_append, Env.setAll, Env.setAll, Env.setAll,
      List.foldl_append]
  robot_eq := by
    rw [htu.robot_eq, hst.robot_eq, List.filterMap_append, List.getLast?_append, Option.getD_or]
  number_eq := htu.number_eq.trans hst.number_eq
  onWin_eq := htu.onWin_eq.trans hst.onWin_eq

/-- Where wins leave the session alone, it has changed as what it said tells. -/
def Told (s t : Session) : Prop :=
  s.onWin = .inert → ∃ said, Tells said s t

theorem Told.refl (s : Session) : Told s s :=
  fun _ => ⟨[], .refl s⟩

theorem Told.trans (hst : Told s t) (htu : Told t u) : Told s u := by
  intro hinert
  obtain ⟨said, hsaid⟩ := hst hinert
  obtain ⟨more, hmore⟩ := htu (hsaid.onWin_eq.trans hinert)
  exact ⟨said ++ more, hsaid.trans hmore⟩

/-- A report that tells of no change comes with none. -/
theorem told_log (s : Session) {r : Report} (hassignment : r.assignment? = none)
    (harrival : r.arrival? = none) : Told s (s.log r.text r.isError) := fun _ =>
  ⟨[r], {
    transcript_eq := s.transcript_log r.text r.isError
    env_eq := by simp [hassignment, Env.setAll, log, note]
    robot_eq := by simp [harrival, log, note]
    number_eq := rfl
    onWin_eq := rfl }⟩

theorem told_assign (s : Session) (name : Text) (value : Int64) :
    Told s ({ s with env := s.env.set name value }.say (Report.assignment name value).text) :=
  fun _ => ⟨[.assignment name value], {
    transcript_eq := transcript_log _ _ false
    env_eq := rfl
    robot_eq := rfl
    number_eq := rfl
    onWin_eq := rfl }⟩

theorem told_arrive (s : Session) (b : Board) : Told s (s.arrive b) := fun _ =>
  ⟨[.arrival b.robot], {
    transcript_eq := transcript_log _ _ false
    env_eq := rfl
    robot_eq := rfl
    number_eq := rfl
    onWin_eq := rfl }⟩

theorem told_checkWin (s : Session) : Told s s.checkWin.2 := by
  intro hinert
  rw [checkWin_of_inert hinert]
  split_ifs
  · exact ⟨[.won], {
      transcript_eq := s.transcript_win
      env_eq := rfl
      robot_eq := rfl
      number_eq := rfl
      onWin_eq := rfl }⟩
  · exact ⟨[], .refl s⟩

end Session

namespace Game

open Session (Told)

variable {g h : Game}

theorem told_foldl_say (g : Game) (messages : List Text)
    (hmessages : ∀ message ∈ messages, ∃ r : Report, r.text = message ∧ r.isError = false ∧
      r.assignment? = none ∧ r.arrival? = none) :
    Told g.session (messages.foldl say g).session := by
  induction messages generalizing g with
  | nil => exact .refl _
  | cons message messages ih =>
    rw [List.forall_mem_cons] at hmessages
    obtain ⟨⟨r, rfl, hordinary, hassignment, harrival⟩, hrest⟩ := hmessages
    have hfirst := g.session.told_log hassignment harrival
    rw [hordinary] at hfirst
    exact hfirst.trans (ih (g.say r.text) hrest)

theorem told_start (g : Game) : Told g.session g.start.session := by
  unfold start
  split
  · exact .refl _
  · split_ifs
    · exact fun _ => ⟨[], {
        transcript_eq := by simp
        env_eq := rfl
        robot_eq := rfl
        number_eq := rfl
        onWin_eq := rfl }⟩
    · exact g.session.told_log (r := .started) rfl rfl

theorem told_evalCondition (g : Game) (condition expected : Text) :
    Told g.session (g.evalCondition condition expected).2.session := by
  rcases g.evalCondition_cases condition expected with hsame | hcheck
  · rw [hsame]
    exact .refl _
  · rw [hcheck]
    exact g.session.told_checkWin

theorem Pass.told (hpass : Pass g h) : Told g.session h.session := by
  cases hpass with
  | @holds k condition expected action heval =>
    have hcondition := g.told_evalCondition condition expected
    rw [heval] at hcondition
    exact hcondition.trans (k.session.told_log (r := .met condition expected action) rfl rfl)

theorem told_of_passes (hpass : ReflTransGen Pass g h) : Told g.session h.session := by
  induction hpass with
  | refl => exact .refl _
  | tail _ hlast ih => exact ih.trans hlast.told

theorem Ending.told {outcome : Outcome} (hend : Ending g outcome) :
    Told g.session outcome.2.session := by
  cases hend with
  | fail => exact .refl _
  | @unmet k condition expected heval =>
    have hcondition := g.told_evalCondition condition expected
    rw [heval] at hcondition
    exact hcondition.trans (k.session.told_log (r := .unmet condition expected) rfl rfl)
  | assign name value => exact g.session.told_assign name value
  | @move d n b hmove => exact (g.session.told_arrive b).trans (Session.told_checkWin _)
  | help =>
    exact g.told_foldl_say helpText fun line hline => ⟨.help line hline, rfl, rfl, rfl, rfl⟩
  | list =>
    exact g.told_foldl_say _ fun line hline => ⟨.listed line _ hline, rfl, rfl, rfl, rfl⟩
  | start => exact g.told_start

theorem told_interpret (g : Game) (line : Text) :
    Told g.session (g.interpret line).2.session := by
  obtain ⟨h, hpass, ⟨k, hend, hok⟩ | ⟨e, hfail⟩⟩ := g.interpret_cases line
  · rw [hok]
    exact (told_of_passes hpass).trans hend.told
  · rw [hfail]
    exact (told_of_passes hpass).trans (h.session.told_log (r := .failure e) rfl rfl)

theorem told_after (g : Game) (lines : List Text) :
    Told g.session (g.after (lines.map .interpret)).session := by
  induction lines generalizing g with
  | nil => exact .refl _
  | cons line lines ih => exact (g.told_interpret line).trans (ih (g.interpret line).2)

end Game

/-- The transcript of a session tells its state. Its variables are those set by the assignments that
the ordinary entries tell of, one after the other. The robot is where the last of the arrivals has
left it, or where it began. What the entries tell of can be read off their texts, and every entry is
a report of which no other kind can be taken for one of these two. -/
theorem transcript_tells_state {setup : Setup} {s : Session}
    (h : Session.start setup .inert = .ok s) (scheduler : Option Scheduler) (lines : List Text) :
    let t := ((Game.mk s scheduler []).after (lines.map .interpret)).session
    t.env = Env.empty.setAll (t.transcript.filterMap Log.Entry.assignment?) ∧
      t.board.robot = (t.transcript.filterMap Log.Entry.arrival?).getLast?.getD s.board.robot ∧
      (∃ said : List Report, t.transcript = said.map (Report.entry s.number)) ∧
      (∀ message name value, readAssignment? message = some (name, value) ↔
        message = Text.ofString "Variável " ++ name ++ Text.ofString " definida com valor " ++
          Text.ofInt64 value) ∧
      (∀ message place, readArrival? message = some place ↔
        message = Text.ofString "Movendo o robô para posição " ++ place.text) ∧
      ∀ r : Report,
        (∀ name value, readAssignment? r.text = some (name, value) ↔ r = .assignment name value) ∧
        ∀ place, readArrival? r.text = some place ↔ r = .arrival place := by
  intro t
  have hfresh := Session.fresh_of_start h
  obtain ⟨said, hsaid⟩ := (Game.mk s scheduler []).told_after lines hfresh.onWin_eq
  have htranscript : t.transcript = said.map (Report.entry s.number) := by
    rw [hsaid.transcript_eq, Session.transcript, hfresh.journal_eq]
    rfl
  -- the texts of the entries give back what was meant by them
  have hassignments : t.transcript.filterMap Log.Entry.assignment? =
      said.filterMap Report.assignment? := by
    rw [htranscript, List.filterMap_map]
    exact congrArg (said.filterMap ·) (funext (Log.Entry.assignment?_entry s.number))
  have harrivals : t.transcript.filterMap Log.Entry.arrival? =
      said.filterMap Report.arrival? := by
    rw [htranscript, List.filterMap_map]
    exact congrArg (said.filterMap ·) (funext (Log.Entry.arrival?_entry s.number))
  refine ⟨?_, ?_, ⟨said, htranscript⟩, fun _ _ _ => readAssignment?_eq_some_iff,
    fun _ _ => readArrival?_eq_some_iff, fun r => ⟨fun name value => ?_, fun place => ?_⟩⟩
  · rw [hassignments, ← hfresh.env_eq]
    exact hsaid.env_eq
  · rw [harrivals]
    exact hsaid.robot_eq
  · rw [readAssignment?_eq_some_iff, Report.text_eq_assignment_iff]
  · rw [readArrival?_eq_some_iff, Report.text_eq_arrival_iff]

/-- A variable that is set once more when its condition holds at last, and moves that fail before
one that succeeds. -/
theorem transcript_tells_last_value :
    ∃ s, Session.start (.fixed ⟨2, ⟨0, 0⟩, ⟨0, 1⟩, [⟨1, 1⟩]⟩) .inert = .ok s ∧
      let t := ((Game.ofSession s).after ([Text.ofString "VAR valor 5",
        Text.ofString "MOVER BAIXO valor", Text.ofString "MOVER CIMA outra",
        Text.ofString "SE ROBO META VAR valor -7", Text.ofString "MOVER DIREITA 1",
        Text.ofString "SE ROBO META VAR valor -7"].map .interpret)).session
      t.env = ⟨[(Text.ofString "valor", -7)]⟩ ∧ t.board.robot = ⟨0, 1⟩ ∧
        t.env = Env.empty.setAll (t.transcript.filterMap Log.Entry.assignment?) ∧
        t.board.robot = (t.transcript.filterMap Log.Entry.arrival?).getLast?.getD ⟨0, 0⟩ := by
  have h : Session.start (.fixed ⟨2, ⟨0, 0⟩, ⟨0, 1⟩, [⟨1, 1⟩]⟩) .inert = .ok _ := rfl
  obtain ⟨henv, hrobot, -⟩ := transcript_tells_state h none _
  exact ⟨_, h, by decide +kernel, by decide +kernel, henv, hrobot⟩

end GridRobot
