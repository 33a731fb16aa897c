import GridRobot.Proofs.Parallel
import GridRobot.Proofs.Wins

/-!
# Games in step

Everything that is asked of a game gives something back (`Game.reply`) and leaves the game in a
state that can be looked at (`Game.view`). Two games may differ in what nothing that is asked of
them looks at: the numbers of their sessions, what was logged before, how often the setup was asked.
`Session.Twins` lists what a relation between such sessions has to keep, and `Session.Kin` does so
where the boards need not be the same. Games whose sessions are kin and whose schedulers are the
same give the same replies and stay so, whatever is asked of both, as long as resets come out alike
(`Abreast.serve`).
-/

namespace GridRobot

/-! ## Replies and views -/

/-- What a request gives back. -/
inductive Reply where
  | done
  | line (outcome : Except CommandError Unit)
  | reset (outcome : Except SetupError Unit)
  | condition (outcome : Except CommandError Bool)
  /-- Whether the robot stands on the target. -/
  | target (reached : Bool)
  /-- Whether the run goes on. -/
  | tick (goesOn : Bool)
  /-- How many lines failed. -/
  | direct (failed : Nat)
  | run (ending : RunEnd)

/-- The message of the failure that a reply tells of, if it does. -/
def Reply.failure? : Reply → Option Text
  | line (.error e) => some e.message
  | reset (.error e) => some (Session.buildMessage e)
  | condition (.error e) => some e.message
  | run (.interrupted why) => some why.message
  | _ => none

/-- What can be seen of a request: what it gives back, what the game is like then, and what it has
added to the transcript. -/
@[ext] structure View where
  reply : Reply
  board : Board
  env : Env
  won : Bool
  number : Nat
  scheduler : Option Scheduler
  entries : List (Log.Entry Nat)

namespace Game

/-- What a request gives back. -/
def reply (g : Game) : Request → Reply
  | .operate (.interpret line) => .line (g.interpret line).1
  | .operate .resetSession => .reset g.session.reset.1
  | .operate .checkWin => .target g.session.checkWin.1
  | .operate (.evalCondition condition expected) =>
    .condition (g.evalCondition condition expected).1
  | .operate (.setVariable _ _) => .done
  | .operate (.runDirect lines) => .direct (g.runDirect lines).1
  | .operate .start => .done
  | .operate .stop => .done
  | .operate .step => .tick g.step.1.goesOn
  | .operate .resetRun => .reset g.resetRun.1
  | .log _ _ => .done
  | .run events => .run (g.run (fun _ => ()) events).1

/-- What can be seen of a request. -/
def view (g : Game) (request : Request) : View :=
  let h := g.serve request
  { reply := g.reply request
    board := h.session.board
    env := h.session.env
    won := h.session.won
    number := h.session.number
    scheduler := h.scheduler
    entries := h.session.transcript.drop g.session.transcript.length }

/-- What can be seen of one request after the other. -/
def views (g : Game) : List Request → List View
  | [] => []
  | request :: requests => g.view request :: (g.serve request).views requests

theorem views_append (g : Game) (requests later : List Request) :
    g.views (requests ++ later) = g.views requests ++ (g.serveAll requests).views later := by
  induction requests generalizing g with
  | nil => rfl
  | cons request requests ih =>
    rw [List.cons_append, views, views, ih, List.cons_append]
    rfl

@[simp] theorem length_views (g : Game) (requests : List Request) :
    (g.views requests).length = requests.length := by
  induction requests generalizing g with
  | nil => rfl
  | cons request requests ih => rw [views, List.length_cons, ih, List.length_cons]

/-! ## Games abreast -/

end Game

/-- A relation between sessions that turns other than resets can neither see through nor break. -/
structure Session.Twins (Q : Session → Session → Prop) : Prop where
  board_eq : ∀ {s t}, Q s t → t.board = s.board
  env_eq : ∀ {s t}, Q s t → t.env = s.env
  won_eq : ∀ {s t}, Q s t → t.won = s.won
  log : ∀ {s t}, Q s t → ∀ message isError, Q (s.log message isError) (t.log message isError)
  debug : ∀ {s t}, Q s t → ∀ message attrs,
    Q (s.note (.debug message attrs)) (t.note (.debug message attrs))
  assign : ∀ {s t}, Q s t → ∀ env, Q { s with env } { t with env }
  place : ∀ {s t}, Q s t → ∀ board, Q { s with board } { t with board }
  checkWin : ∀ {s t}, Q s t → Q s.checkWin.2 t.checkWin.2

/-- A relation between sessions with boards related by `B` that turns other than resets can neither
see through nor break. -/
structure Session.Kin (B : Board → Board → Prop) (Q : Session → Session → Prop) : Prop where
  alike : Board.Alike B
  board : ∀ {s t}, Q s t → B s.board t.board
  env_eq : ∀ {s t}, Q s t → t.env = s.env
  won_eq : ∀ {s t}, Q s t → t.won = s.won
  log : ∀ {s t}, Q s t → ∀ message isError, Q (s.log message isError) (t.log message isError)
  debug : ∀ {s t}, Q s t → ∀ message attrs,
    Q (s.note (.debug message attrs)) (t.note (.debug message attrs))
  assign : ∀ {s t}, Q s t → ∀ env, Q { s with env } { t with env }
  place : ∀ {s t}, Q s t → ∀ {b c}, B b c → Q { s with board := b } { t with board := c }
  checkWin : ∀ {s t}, Q s t → Q s.checkWin.2 t.checkWin.2
  list : ∀ {s t}, Q s t → Q ((Game.listing s.board.obstacles).foldl Session.say s)
    ((Game.listing t.board.obstacles).foldl Session.say t)

/-- Twins are kin whose boards are the same. -/
theorem Session.Twins.kin {Q : Session → Session → Prop} (hQ : Twins Q) : Kin Eq Q where
  alike := Board.alike_eq
  board h := (hQ.board_eq h).symm
  env_eq := hQ.env_eq
  won_eq := hQ.won_eq
  log := hQ.log
  debug := hQ.debug
  assign := hQ.assign
  place {s t} h {b c} hbc := by
    subst hbc
    exact hQ.place h b
  checkWin := hQ.checkWin
  list {s t} h := by
    rw [hQ.board_eq h]
    induction Game.listing s.board.obstacles generalizing s t with
    | nil => exact h
    | cons message messages ih => exact ih (hQ.log h message false)

/-- Resets of the two sessions come out alike and leave them related. -/
def Session.ResetAlike (Q : Session → Session → Prop) (s t : Session) : Prop :=
  s.reset.1 = t.reset.1 ∧ Q s.reset.2 t.reset.2

/-- Whether a request asks for a reset. -/
def Request.Resets (request : Request) : Prop :=
  request = .operate .resetSession ∨ request = .operate .resetRun

namespace Game

open Session (Kin ResetAlike)

/-- Games whose sessions are related and whose schedulers are the same. -/
structure Abreast (Q : Session → Session → Prop) (g h : Game) : Prop where
  session : Q g.session h.session
  scheduler_eq : h.scheduler = g.scheduler

variable {B : Board → Board → Prop} {Q : Session → Session → Prop} {g h : Game}

theorem Abreast.start (hQ : Kin B Q) (hgh : Abreast Q g h) : Abreast Q g.start h.start := by
  unfold Game.start
  rw [hgh.scheduler_eq]
  cases hs : g.scheduler with
  | none => exact hgh
  | some s =>
    dsimp only
    split_ifs
    · exact ⟨hQ.debug hgh.session _ _, rfl⟩
    · exact ⟨hQ.log hgh.session _ false, rfl⟩

theorem alongside_abreast (hQ : Kin B Q) : Alongside B (Abreast Q) where
  alike := hQ.alike
  board hgh := hQ.board hgh.session
  env_eq hgh := hQ.env_eq hgh.session
  log hgh message isError := { hgh with session := hQ.log hgh.session message isError }
  assign hgh env := { hgh with session := hQ.assign hgh.session env }
  place {_ _} hgh {_ _} hbc := { hgh with session := hQ.place hgh.session hbc }
  checkWin hgh := { hgh with session := hQ.checkWin hgh.session }
  start hgh := hgh.start hQ
  list {g h} hgh := by
    rw [foldl_say_eq, foldl_say_eq]
    exact { hgh with session := hQ.list hgh.session }

theorem Abreast.hand (hQ : Kin B Q) (hgh : Abreast Q g h) (line : Text) :
    Agree (Abreast Q) (g.hand line) (h.hand line) :=
  (alongside_abreast hQ).hand (fun hgames _ => ⟨hgames.session, hgames.scheduler_eq⟩) hgh line

theorem Abreast.runDirect (hQ : Kin B Q) (hgh : Abreast Q g h) (lines : List Text) :
    Agree (Abreast Q) (g.runDirect lines) (h.runDirect lines) := by
  induction lines generalizing g h with
  | nil => exact ⟨rfl, hgh⟩
  | cons line rest ih =>
    unfold Game.runDirect
    dsimp only
    rw [hQ.won_eq hgh.session]
    split_ifs
    · exact ⟨rfl, hgh⟩
    · exact ih hgh
    · obtain ⟨x, g', h', hg, hh, hgames⟩ := (hgh.hand hQ line.trim).exists_eq
      rw [hg, hh]
      rcases x with e | _
      · exact ⟨congrArg (· + 1) (ih hgames).1, (ih hgames).2⟩
      · exact ih hgames

theorem Abreast.stop (hgh : Abreast Q g h) : Abreast Q g.stop h.stop := by
  refine ⟨hgh.session, ?_⟩
  unfold Game.stop
  rw [hgh.scheduler_eq]

theorem Abreast.stop_of_won (hQ : Kin B Q) (hgh : Abreast Q g h) :
    Abreast Q (if g.session.won then g.stop else g) (if h.session.won then h.stop else h) := by
  rw [hQ.won_eq hgh.session]
  split_ifs
  · exact hgh.stop
  · exact hgh

theorem Abreast.takeLine (hQ : Kin B Q) (hgh : Abreast Q g h) (s : Scheduler) (line : Text) :
    Abreast Q (g.takeLine s line) (h.takeLine s line) := by
  have hnext : Abreast Q { g with scheduler := some { s with cursor := s.cursor + 1 } }
      { h with scheduler := some { s with cursor := s.cursor + 1 } } := ⟨hgh.session, rfl⟩
  obtain ⟨x, g', h', hg, hh, hgames⟩ := (hnext.hand hQ line.trim).exists_eq
  unfold Game.takeLine
  dsimp only
  rw [hg, hh]
  rcases x with e | _
  · have hfailed : Abreast Q { g' with session := g'.session.note (failedLine (s.cursor + 1) e) }
        { h' with session := h'.session.note (failedLine (s.cursor + 1) e) } :=
      { hgames with session := hQ.debug hgames.session _ _ }
    exact hfailed.stop_of_won hQ
  · exact hgames.stop_of_won hQ

theorem Abreast.running_eq (hgh : Abreast Q g h) : h.running = g.running := by
  rw [running, running, hgh.scheduler_eq]

theorem Abreast.step (hQ : Kin B Q) (hgh : Abreast Q g h) : Agree (Abreast Q) g.step h.step := by
  unfold Game.step
  rw [hgh.scheduler_eq]
  cases hs : g.scheduler with
  | none => exact ⟨rfl, hgh⟩
  | some s =>
    dsimp only
    split_ifs
    · exact ⟨rfl, hgh⟩
    · cases s.script[s.cursor]? with
      | none => exact ⟨rfl, hQ.log hgh.session _ false, rfl⟩
      | some line =>
        have htaken := hgh.takeLine hQ s line
        exact ⟨congrArg Tick.line htaken.running_eq.symm, htaken⟩

theorem Abreast.service (hQ : Kin B Q) (hgh : Abreast Q g h) {α : Type} (look : Game → α)
    (events : List RunEvent) :
    (g.service look events).1 = (h.service look events).1 ∧
      Abreast Q (g.service look events).2.2 (h.service look events).2.2 := by
  induction events generalizing g h with
  | nil => exact ⟨rfl, hgh⟩
  | cons event events ih =>
    cases event with
    | clock =>
      refine ih (g := g.advanceClock) (h := h.advanceClock) ⟨hgh.session, ?_⟩
      unfold advanceClock
      rw [hgh.scheduler_eq]
    | interrupt why => exact ⟨rfl, hgh.stop⟩
    | step =>
      obtain ⟨tick, g', h', hg, hh, hgames⟩ := (hgh.step hQ).exists_eq
      unfold Game.service
      rw [hg, hh]
      rcases tick with _ | _ | _ | _
      · exact ⟨rfl, hgames⟩
      · exact ⟨rfl, hgames⟩
      · exact ⟨rfl, hgames⟩
      · exact ih hgames

theorem Abreast.checkWin_eq (hQ : Kin B Q) (hgh : Abreast Q g h) :
    g.session.checkWin.1 = h.session.checkWin.1 := by
  unfold Session.checkWin
  rw [hQ.alike.atTarget_eq (hQ.board hgh.session), hQ.won_eq hgh.session]
  split_ifs <;> rfl

theorem Abreast.resetRun (hgh : Abreast Q g h) (hreset : ResetAlike Q g.session h.session) :
    Agree (Abreast Q) g.resetRun h.resetRun := by
  refine ⟨hreset.1, hreset.2, ?_⟩
  unfold Game.resetRun
  rw [hgh.scheduler_eq]

theorem Abreast.perform (hQ : Kin B Q) (hgh : Abreast Q g h) (op : Operation)
    (hreset : op.Resets → ResetAlike Q g.session h.session) :
    g.reply (.operate op) = h.reply (.operate op) ∧ Abreast Q (g.perform op) (h.perform op) := by
  have hR := alongside_abreast hQ
  cases op with
  | interpret line => exact (hR.interpret hgh line).imp_left (congrArg Reply.line)
  | resetSession =>
    obtain ⟨houtcome, hsession⟩ := hreset (.inl rfl)
    exact ⟨congrArg Reply.reset houtcome, hsession, hgh.scheduler_eq⟩
  | checkWin => exact ⟨congrArg Reply.target (hgh.checkWin_eq hQ), hR.checkWin hgh⟩
  | evalCondition condition expected =>
    exact (hR.evalCondition hgh condition expected).imp_left (congrArg Reply.condition)
  | setVariable name value =>
    have hassign := hR.assign hgh (g.session.env.set name value)
    refine ⟨rfl, ?_⟩
    unfold Game.perform
    rwa [hQ.env_eq hgh.session]
  | runDirect lines => exact (hgh.runDirect hQ lines).imp_left (congrArg Reply.direct)
  | start => exact ⟨rfl, hgh.start hQ⟩
  | stop => exact ⟨rfl, hgh.stop⟩
  | step =>
    obtain ⟨htick, hgames⟩ := hgh.step hQ
    exact ⟨congrArg (fun t : Tick => Reply.tick t.goesOn) htick, hgames⟩
  | resetRun =>
    exact (hgh.resetRun (hreset (.inr rfl))).imp_left (congrArg Reply.reset)

/-- Whatever is asked of games abreast, they give the same reply and stay abreast; for a reset this
takes that both come out alike. -/
theorem Abreast.serve (hQ : Kin B Q) (hgh : Abreast Q g h) (request : Request)
    (hreset : request.Resets → ResetAlike Q g.session h.session) :
    g.reply request = h.reply request ∧ Abreast Q (g.serve request) (h.serve request) := by
  cases request with
  | operate op =>
    exact hgh.perform hQ op fun hop =>
      hreset (hop.imp (congrArg Request.operate) (congrArg Request.operate))
  | log message isError => exact ⟨rfl, (alongside_abreast hQ).log hgh message isError⟩
  | run events =>
    exact ((hgh.start hQ).service hQ (fun _ => ()) events).imp_left (congrArg Reply.run)

end Game

end GridRobot
