import GridRobot.Proofs.Lines

/-!
# What can happen to a session

Whatever is done to a game, its session changes by turns: a note is logged, a variable is set, the
robot moves, a win is counted, or the session is reset (`Session.Turn`). This file takes every
operation on a game apart into turns, from lines (`Game.turns_interpret`) over scripts and ticks to
whole runs of operations (`Game.turns_after`). Later files say what one turn does, and nothing more,
to know what holds after every run.

A turn of a given kind may be ruled out: commands reset a session only by winning, so that the
turns of a line hold no reset where the win policy is inert.
-/

open Relation (ReflTransGen)

namespace GridRobot

namespace Session

variable {r r' : Prop} {s t : Session}

/-- The session once a win is counted and announced, before the win policy acts on it. -/
def win (s : Session) : Session :=
  let s := { s with won := true }.say winMessage
  { s with wins := s.wins ++ [s.board.robot] }

/-- The session begun on a new board by a reset. -/
def anew (s : Session) (b : Board) : Session :=
  { s with
    board := b
    consulted := s.consulted + 1
    number := s.number + 1
    won := false
    env := .empty }.say resetMessage

@[simp] theorem transcript_log (s : Session) (message : Text) (isError : Bool) :
    (s.log message isError).transcript = s.transcript ++ [⟨message, isError, s.number⟩] := by
  simp [transcript, log, note, Note.entry?]

@[simp] theorem transcript_debug (s : Session) (message : Text) (attrs : List Log.Attr) :
    (s.note (.debug message attrs)).transcript = s.transcript := by
  simp [transcript, note, Note.entry?]

@[simp] theorem transcript_win (s : Session) :
    s.win.transcript = s.transcript ++ [⟨winMessage, false, s.number⟩] :=
  transcript_log { s with won := true } winMessage false

/-- One elementary change of a session; it is a reset only where `resets` allows it. -/
inductive Turn (resets : Prop) : Session → Session → Prop where
  | log (s : Session) (message : Text) (isError : Bool) : Turn resets s (s.log message isError)
  | debug (s : Session) (message : Text) (attrs : List Log.Attr) :
      Turn resets s (s.note (.debug message attrs))
  | assign (s : Session) (name : Text) (value : Int64) :
      Turn resets s { s with env := s.env.set name value }
  | move (s : Session) {d : Direction} {n : Int64} {b : Board} (h : s.board.move d n = .ok b) :
      Turn resets s { s with board := b }
  | win (s : Session) (ht : s.board.atTarget = true) (hw : s.won = false) : Turn resets s s.win
  | reset (s : Session) (h : resets) : Turn resets s s.reset.2

/-- Any number of turns. -/
abbrev Turns (resets : Prop) : Session → Session → Prop :=
  ReflTransGen (Turn resets)

theorem Turn.mono (h : Turn r s t) (hr : r → r') : Turn r' s t := by
  cases h with
  | log message isError => exact .log s message isError
  | debug message attrs => exact .debug s message attrs
  | assign name value => exact .assign s name value
  | move h => exact .move s h
  | win ht hw => exact .win s ht hw
  | reset h => exact .reset s (hr h)

theorem Turns.mono (h : Turns r s t) (hr : r → r') : Turns r' s t :=
  ReflTransGen.mono (fun _ _ ht => ht.mono hr) s t h

/-- A property that every turn keeps is kept by any number of them. -/
theorem Turns.keep {P : Session → Prop} (hP : ∀ s t, Turn r s t → P s → P t) (h : Turns r s t)
    (hs : P s) : P t := by
  induction h with
  | refl => exact hs
  | tail _ ht ih => exact hP _ _ ht ih

theorem reset_of_ok {b : Board} (h : boardAt s.setup s.consulted = .ok b) :
    s.reset = (.ok (), s.anew b) := by
  simp [reset, rebuild, h, anew]

theorem reset_of_error {e : SetupError} (h : boardAt s.setup s.consulted = .error e) :
    s.reset = (.error e, { s with consulted := s.consulted + 1 }) := by
  simp [reset, rebuild, h]

/-- What a reset does: it begins anew on the next board of the setup, if there is one, and
otherwise leaves everything as it was. -/
theorem reset_cases (s : Session) :
    (∃ b, boardAt s.setup s.consulted = .ok b ∧ s.reset = (.ok (), s.anew b)) ∨
      ∃ e, boardAt s.setup s.consulted = .error e ∧
        s.reset = (.error e, { s with consulted := s.consulted + 1 }) := by
  rcases h : boardAt s.setup s.consulted with e | b
  · exact .inr ⟨e, rfl, reset_of_error h⟩
  · exact .inl ⟨b, rfl, reset_of_ok h⟩

theorem heed_of_inert (hpolicy : s.onWin = .inert) : s.heed = s := by
  unfold heed
  rw [hpolicy]

theorem heed_of_ok (hpolicy : s.onWin ≠ .inert) {b : Board}
    (h : boardAt s.setup s.consulted = .ok b) : s.heed = s.anew b := by
  unfold heed
  rw [reset_of_ok h]
  split
  · next hinert => exact absurd hinert hpolicy
  · rfl
  · rfl

/-- Where a reset fails, a policy leaves nothing but notes of the failure, which are the same in all
sessions of one number. -/
theorem exists_notes_heed_of_error {policy : WinPolicy} (hpolicy : policy ≠ .inert) (n : Nat)
    (e : SetupError) :
    ∃ notes, ∀ s : Session, s.onWin = policy → s.number = n →
      boardAt s.setup s.consulted = .error e →
      s.heed = { s with consulted := s.consulted + 1, journal := s.journal ++ notes } := by
  cases policy with
  | inert => exact absurd rfl hpolicy
  | quietReset =>
    refine ⟨[], fun s hs _ h => ?_⟩
    simp [heed, hs, reset_of_error h]
  | reset =>
    refine ⟨[.console n (Text.ofString "reset: " ++ buildMessage e) true], fun s hs hn h => ?_⟩
    simp [heed, hs, reset_of_error h, log, note, hn]

theorem Turn.setup_eq (h : Turn r s t) : t.setup = s.setup ∧ t.onWin = s.onWin := by
  cases h with
  | reset =>
    obtain ⟨b, -, hr⟩ | ⟨e, -, hr⟩ := reset_cases s <;> rw [hr] <;> exact ⟨rfl, rfl⟩
  | _ => exact ⟨rfl, rfl⟩

theorem Turns.setup_eq (h : Turns r s t) : t.setup = s.setup ∧ t.onWin = s.onWin := by
  refine Turns.keep (P := fun u => u.setup = s.setup ∧ u.onWin = s.onWin) (fun u v ht hu => ?_) h
    ⟨rfl, rfl⟩
  obtain ⟨h₁, h₂⟩ := ht.setup_eq
  exact ⟨h₁.trans hu.1, h₂.trans hu.2⟩

theorem turns_say (s : Session) (message : Text) : Turns r s (s.say message) :=
  .single (.log s message false)

theorem checkWin_eq (s : Session) :
    s.checkWin.2 = if s.board.atTarget = true ∧ s.won = false then s.win.heed else s := by
  unfold checkWin
  split_ifs with ht hw h h <;> simp_all
  rfl

/-- What a win check does: nothing, or it counts a win and then acts on it as the policy says. -/
theorem checkWin_cases (s : Session) :
    ((s.board.atTarget = false ∨ s.won = true) ∧ s.checkWin.2 = s) ∨
      ((s.board.atTarget = true ∧ s.won = false) ∧
        ((s.onWin = .inert ∧ s.checkWin.2 = s.win) ∨
          (s.onWin ≠ .inert ∧ s.checkWin.2 = s.win.reset.2) ∨
          ∃ e, s.onWin ≠ .inert ∧ s.win.reset.1 = .error e ∧ s.checkWin.2 =
            s.win.reset.2.log (Text.ofString "reset: " ++ buildMessage e) true)) := by
  rw [checkWin_eq]
  split_ifs with h
  · have hpolicy : s.win.onWin = s.onWin := rfl
    refine .inr ⟨h, ?_⟩
    rw [heed, hpolicy]
    cases s.onWin with
    | inert => exact .inl ⟨rfl, rfl⟩
    | quietReset => exact .inr (.inl ⟨by decide, rfl⟩)
    | reset =>
      rcases s.win.reset with ⟨e | ⟨⟩, u⟩
      · exact .inr (.inr ⟨e, by decide, rfl, rfl⟩)
      · exact .inr (.inl ⟨by decide, rfl⟩)
  · refine .inl ⟨?_, rfl⟩
    simpa using Decidable.not_and_iff_not_or_not.1 h

theorem checkWin_of_inert (h : s.onWin = .inert) :
    s.checkWin.2 = if s.board.atTarget = true ∧ s.won = false then s.win else s := by
  rw [checkWin_eq, heed_of_inert (s := s.win) h]

/-- A win resets the session only where the policy says so. -/
theorem turns_checkWin (s : Session) : Turns (s.onWin ≠ .inert) s s.checkWin.2 := by
  obtain ⟨-, h⟩ | ⟨⟨ht, hw⟩, ⟨-, h⟩ | ⟨hp, h⟩ | ⟨e, hp, -, h⟩⟩ := s.checkWin_cases <;> rw [h]
  · exact .single (.win s ht hw)
  · exact .head (.win s ht hw) (.single (.reset _ hp))
  · exact .head (.win s ht hw) (.head (.reset _ hp) (.single (.log _ _ true)))

end Session

namespace Game

open Session (Turns)

variable {r : Prop}

/-! ## Lines -/

theorem turns_start (g : Game) : Turns r g.session g.start.session := by
  unfold start
  split
  · exact .refl
  · split_ifs
    · exact .single (.debug _ _ _)
    · exact Session.turns_say _ _

/-- Whatever a command does to the session it does by turns, and resets are among them only where
the policy for wins asks for them. -/
theorem onward_turns :
    Onward fun g h => Turns (g.session.onWin ≠ .inert) g.session h.session where
  refl _ := .refl
  -- the policy is still that of the first game
  trans hgh hhk := hgh.trans (hhk.mono fun hp => hgh.setup_eq.2 ▸ hp)
  log g _ isError _ := .single (.log g.session _ isError)
  assign g name value := .single (.assign g.session name value)
  move {g} _ _ _ hmove := .single (.move g.session hmove)
  checkWin g := g.session.turns_checkWin
  start g := g.turns_start

theorem turns_interpret (g : Game) (line : Text) :
    Turns (g.session.onWin ≠ .inert) g.session (g.interpret line).2.session :=
  onward_turns.interpret g line

/-! ## Scripts and ticks -/

theorem turns_runDirect (g : Game) (lines : List Text) :
    Turns (g.session.onWin ≠ .inert) g.session (g.runDirect lines).2.session :=
  onward_turns.runDirect (fun _ _ => .refl) g lines

theorem turns_step (g : Game) :
    Turns (g.session.onWin ≠ .inert) g.session g.step.2.session :=
  Onward.step (Q := fun s t => Turns (s.onWin ≠ .inert) s t) onward_turns
    (fun s m attrs => .single (.debug s m attrs)) (fun s => s.turns_say _) g

end Game

/-! ## Runs of operations -/

/-- What can be done to a game from outside. -/
inductive Operation where
  /-- Runs a line. -/
  | interpret (line : Text)
  /-- Resets the session, and leaves the scheduler alone. -/
  | resetSession
  | checkWin
  | evalCondition (condition expected : Text)
  | setVariable (name : Text) (value : Int64)
  | runDirect (lines : List Text)
  | start
  | stop
  | step
  /-- Ends the run and resets the session. -/
  | resetRun
  deriving DecidableEq, Repr, Inhabited

/-- Whether an operation asks for a reset. -/
def Operation.Resets (op : Operation) : Prop :=
  op = .resetSession ∨ op = .resetRun

namespace Game

open Session (Turns)

/-- The game after an operation. -/
def perform (g : Game) : Operation → Game
  | .interpret line => (g.interpret line).2
  | .resetSession => { g with session := g.session.reset.2 }
  | .checkWin => { g with session := g.session.checkWin.2 }
  | .evalCondition condition expected => (g.evalCondition condition expected).2
  | .setVariable name value =>
    { g with session := { g.session with env := g.session.env.set name value } }
  | .runDirect lines => (g.runDirect lines).2
  | .start => g.start
  | .stop => g.stop
  | .step => g.step.2
  | .resetRun => g.resetRun.2

/-- The game after a number of operations. -/
def after (g : Game) (ops : List Operation) : Game :=
  ops.foldl perform g

theorem turns_perform (g : Game) (op : Operation) :
    Turns (g.session.onWin ≠ .inert ∨ op.Resets) g.session (g.perform op).session := by
  cases op with
  | interpret line => exact (g.turns_interpret line).mono .inl
  | resetSession => exact .single (.reset _ (.inr (.inl rfl)))
  | checkWin => exact g.session.turns_checkWin.mono .inl
  | evalCondition condition expected =>
    exact (onward_turns.evalCondition g condition expected).mono .inl
  | setVariable name value => exact .single (.assign _ name value)
  | runDirect lines => exact (g.turns_runDirect lines).mono .inl
  | start => exact g.turns_start
  | stop => exact .refl
  | step => exact g.turns_step.mono .inl
  | resetRun => exact .single (.reset _ (.inr (.inr rfl)))

/-- A run of operations resets a session only where an operation or the win policy asks for it. -/
theorem turns_after (g : Game) (ops : List Operation) :
    Turns (g.session.onWin ≠ .inert ∨ ∃ op ∈ ops, op.Resets) g.session (g.after ops).session := by
  induction ops generalizing g with
  | nil => exact .refl
  | cons op ops ih =>
    have hop := g.turns_perform op
    have hops := ih (g.perform op)
    rw [hop.setup_eq.2] at hops
    refine (hop.mono ?_).trans (hops.mono ?_)
    · exact Or.imp_right fun h => ⟨op, List.mem_cons_self, h⟩
    · rintro (h | ⟨o, ho, h⟩)
      · exact .inl h
      · exact .inr ⟨o, List.mem_cons_of_mem _ ho, h⟩

end Game

end GridRobot
