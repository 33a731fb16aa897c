import GridRobot.Proofs.Callbacks
import GridRobot.Proofs.RunSteps

/-!
# Runs and the session clock

A run services three kinds of events in whatever order they come: ticks of the session clock, ticks
that take a line, and an interruption. `Game.Services` says what it is to service a list of events
from the first to the last, and a run does this with its events up to its end
(`Game.exists_services`).

Nothing that a tick does depends on the clock, and nothing but the clock depends on its ticks
(`Game.Steady.stepBy_setClock`). So the session ends up as it does when only the ticks that take
lines are performed (`Game.Services.ticks_eq`), and the clock shows how often it has ticked
(`Game.Services.elapsed_eq`). This holds of every interpreter that leaves a run in progress alone
(`Game.Steady`), as those do that call any function of sessions after a win
(`Game.steady_handWith`). It does not hold of callbacks that use the scheduler: they can read the
clock, set it back, or begin the run again.
-/

namespace GridRobot

namespace Game

variable {α : Type} {g h : Game} {s : Scheduler} {t : Duration}
  {hand : Game → Text → Outcome} {look : Game → α}

/-! ## Interpreters that leave a run alone -/

/-- The game with the session clock at a given time. -/
def setClock (g : Game) (t : Duration) : Game :=
  { g with scheduler := g.scheduler.map ({ · with elapsed := t }) }

theorem scheduler_setClock (hs : g.scheduler = some s) :
    (g.setClock t).scheduler = some { s with elapsed := t } := by
  rw [setClock, hs, Option.map_some]

theorem running_setClock (g : Game) (t : Duration) : (g.setClock t).running = g.running := by
  rcases g with ⟨session, _ | s, ran⟩ <;> rfl

theorem advanceClock_eq (hs : g.scheduler = some s) :
    g.advanceClock = g.setClock ⟨s.elapsed.nanoseconds + s.clock.nanoseconds⟩ := by
  rw [advanceClock, setClock, hs, Option.map_some, Option.map_some]

/-- An interpreter that records its lines, leaves a run in progress alone, and does not look at the
session clock. -/
structure Steady (hand : Game → Text → Outcome) : Prop where
  ran : ∀ g line, ∃ failure, (hand g line).2.ran = g.ran ++ [(line, failure)]
  scheduler_eq : ∀ {g s}, g.scheduler = some s → s.running = true → ∀ line,
    (hand g line).2.scheduler = some s
  setClock : ∀ {g s}, g.scheduler = some s → s.running = true → ∀ t line,
    hand (g.setClock t) line = ((hand g line).1, (hand g line).2.setClock t)

/-- What a function of sessions does to a game. -/
def onSession (act : Session → Session) (g : Game) : Game :=
  { g with session := act g.session }

/-- The second game is the first with its clock at some time, and a run is in progress. -/
structure Clocked (s : Scheduler) (t : Duration) (g h : Game) : Prop where
  scheduler_eq : g.scheduler = some s
  eq : h = g.setClock t

theorem parallel_clocked (hrun : s.running = true) (t : Duration) : Parallel (Clocked s t) where
  board_eq hgh := by rw [hgh.eq]; rfl
  env_eq hgh := by rw [hgh.eq]; rfl
  log hgh message isError := ⟨hgh.scheduler_eq, by rw [hgh.eq]; rfl⟩
  assign hgh env := ⟨hgh.scheduler_eq, by rw [hgh.eq]; rfl⟩
  place hgh board := ⟨hgh.scheduler_eq, by rw [hgh.eq]; rfl⟩
  checkWin hgh := ⟨hgh.scheduler_eq, by rw [hgh.eq]; rfl⟩
  start {g h} hgh := by
    have hs := hgh.scheduler_eq
    have hrunning : g.running = true := by simp [running, hs, hrun]
    rw [hgh.eq, start_of_running hrunning,
      start_of_running ((running_setClock g t).trans hrunning)]
    exact ⟨hs, rfl⟩

theorem ordinary_ran (act : Session → Session) :
    (interpreter (onSession act)).Ordinary fun g h => h.ran = g.ran where
  refl _ := rfl
  trans hgh hhk := hhk.trans hgh
  evaluate g condition expected := by
    rcases calling_cases (onSession act) g (g.evalCondition condition expected) with hsame | hcalled
    · exact (congrArg (·.2.ran) hsame).trans (onward_ran.evalCondition g condition expected)
    · exact (congrArg (·.2.ran) hcalled).trans (onward_ran.evalCondition g condition expected)
  execute g words := by
    have hran := onward_ran.ending (g.ending_execute words)
    rcases calling_cases (onSession act) g (g.execute words) with hsame | hcalled
    · exact (congrArg (·.2.ran) hsame).trans hran
    · exact (congrArg (·.2.ran) hcalled).trans hran
  say _ _ := rfl

theorem ran_handWith (act : Session → Session) (g : Game) (line : Text) :
    ∃ failure, (g.handWith (onSession act) line).2.ran = g.ran ++ [(line, failure)] := by
  have hran := (ordinary_ran act).runLine (maxNesting + 1) line g
  unfold handWith Interpreter.interpret
  generalize (interpreter (onSession act)).runLine (maxNesting + 1) line g = outcome at hran
  rcases outcome with ⟨e | ⟨⟩, h⟩
  · exact ⟨some e, congrArg (· ++ [(line, some e)]) hran⟩
  · exact ⟨none, congrArg (· ++ [(line, none)]) hran⟩

theorem clocked_handWith (act : Session → Session) (hs : g.scheduler = some s)
    (hrun : s.running = true) (t : Duration) (line : Text) :
    Agree (Clocked s t) (g.handWith (onSession act) line)
      ((g.setClock t).handWith (onSession act) line) := by
  have hwins {g h : Game} (hgh : Clocked s t g h) :
      h.session.wins.length = g.session.wins.length := by
    rw [hgh.eq]
    rfl
  have hact {g h : Game} (hgh : Clocked s t g h) :
      Clocked s t (onSession act g) (onSession act h) :=
    ⟨hgh.scheduler_eq, by rw [hgh.eq]; rfl⟩
  exact (parallel_clocked hrun t).handWith hwins hact
    (fun hgh _ => ⟨hgh.scheduler_eq, by rw [hgh.eq]; rfl⟩) ⟨hs, rfl⟩ line

/-- Whatever function of sessions is called after a win, lines leave a run in progress alone. -/
theorem steady_handWith (act : Session → Session) : Steady (handWith (onSession act)) where
  ran := ran_handWith act
  scheduler_eq hs hrun line := (clocked_handWith act hs hrun .zero line).2.scheduler_eq
  setClock hs hrun t line := by
    obtain ⟨houtcome, hgames⟩ := clocked_handWith act hs hrun t line
    exact Prod.ext houtcome.symm hgames.eq

/-! ## Ticks -/

theorem scheduler_detailed (number : Nat) (outcome : Outcome) :
    (detailed number outcome).scheduler = outcome.2.scheduler := by
  rcases outcome with ⟨e | ⟨⟩, h⟩ <;> rfl

theorem ran_detailed (number : Nat) (outcome : Outcome) :
    (detailed number outcome).ran = outcome.2.ran := by
  rcases outcome with ⟨e | ⟨⟩, h⟩ <;> rfl

/-- What a tick does to a game with a scheduler, where lines leave a run in progress alone. -/
inductive Ticked (s : Scheduler) (g : Game) : Tick × Game → Prop where
  | idle (hrun : s.running = false) : Ticked s g (.idle, g)
  | done (hrun : s.running = true) :
      Ticked s g (.done, { g with scheduler := some { s with running := false } }.say doneMessage)
  | line (hrun : s.running = true) (hlt : s.cursor < s.script.length) (session : Session)
      (entry : Text × Option CommandError) :
      Ticked s g (.line !session.won,
        ⟨session, some { s with cursor := s.cursor + 1, running := !session.won },
          g.ran ++ [entry]⟩)

theorem Steady.takeLineBy_eq (hhand : Steady hand) (hrun : s.running = true) (g : Game)
    (line : Text) : ∃ session entry, g.takeLineBy hand s line =
      ⟨session, some { s with cursor := s.cursor + 1, running := !session.won },
        g.ran ++ [entry]⟩ := by
  have hs := hhand.scheduler_eq
    (g := { g with scheduler := some { s with cursor := s.cursor + 1 } }) rfl hrun line.trim
  obtain ⟨failure, hran⟩ := hhand.ran
    { g with scheduler := some { s with cursor := s.cursor + 1 } } line.trim
  unfold takeLineBy stopIfWon
  dsimp only at hran ⊢
  generalize hand { g with scheduler := some { s with cursor := s.cursor + 1 } } line.trim =
    outcome at hs hran
  refine ⟨(detailed (s.cursor + 1) outcome).session, (line.trim, failure), ?_⟩
  rw [stop_of_won_spec ((scheduler_detailed _ outcome).trans hs) hrun, ran_detailed, hran]

theorem Steady.ticked (hhand : Steady hand) (hs : g.scheduler = some s) :
    Ticked s g (g.stepBy hand) := by
  unfold stepBy
  rw [hs]
  dsimp only
  rcases hrun : s.running with _ | _
  · exact .idle hrun
  · rw [if_neg (by decide)]
    split
    · exact .done hrun
    · next line hline =>
      obtain ⟨hlt, -⟩ := List.getElem?_eq_some_iff.1 hline
      obtain ⟨session, entry, htake⟩ := hhand.takeLineBy_eq hrun g line
      rw [htake]
      exact .line hrun hlt session entry

/-- A tick that finds nothing to do, or the script used up, leaves no run in progress. -/
theorem Steady.stepBy_ends (hhand : Steady hand) (hs : g.scheduler = some s)
    (hstep : (g.stepBy hand).1 = .idle ∨ (g.stepBy hand).1 = .done) :
    (g.stepBy hand).2.running = false ∧ (g.stepBy hand).2.ran = g.ran := by
  have hticked := hhand.ticked hs
  generalize g.stepBy hand = tick at hticked hstep ⊢
  cases hticked with
  | idle hrun => exact ⟨(running_eq hs).trans hrun, rfl⟩
  | done => exact ⟨rfl, rfl⟩
  | line => simp at hstep

/-- A tick that takes a line moves the cursor past it and records it. -/
theorem Steady.stepBy_line (hhand : Steady hand) (hs : g.scheduler = some s) {goesOn : Bool}
    (hstep : (g.stepBy hand).1 = .line goesOn) :
    s.cursor < s.script.length ∧
      (g.stepBy hand).2.scheduler = some { s with cursor := s.cursor + 1, running := goesOn } ∧
      ∃ entry, (g.stepBy hand).2.ran = g.ran ++ [entry] := by
  have hticked := hhand.ticked hs
  generalize g.stepBy hand = tick at hticked hstep ⊢
  cases hticked with
  | idle => cases hstep
  | done => cases hstep
  | line hrun hlt session entry =>
    obtain rfl := Tick.line.inj hstep
    exact ⟨hlt, rfl, entry, rfl⟩

theorem detailed_setClock (number : Nat) (outcome : Outcome) (t : Duration) :
    detailed number (outcome.1, outcome.2.setClock t) = (detailed number outcome).setClock t := by
  rcases outcome with ⟨e | ⟨⟩, h⟩ <;> rfl

theorem stopIfWon_setClock (g : Game) (t : Duration) :
    (g.setClock t).stopIfWon = g.stopIfWon.setClock t := by
  have hstop : (g.setClock t).stop = g.stop.setClock t := by
    rcases g with ⟨session, _ | s, ran⟩ <;> rfl
  rw [stopIfWon, stopIfWon, hstop]
  exact (apply_ite (Game.setClock · t) _ _ _).symm

theorem Steady.takeLineBy_setClock (hhand : Steady hand) (hrun : s.running = true) (g : Game)
    (t : Duration) (line : Text) :
    (g.setClock t).takeLineBy hand { s with elapsed := t } line =
      (g.takeLineBy hand s line).setClock t := by
  have hclock := hhand.setClock
    (g := { g with scheduler := some { s with cursor := s.cursor + 1 } }) rfl hrun t line.trim
  calc (g.setClock t).takeLineBy hand { s with elapsed := t } line
      = (detailed (s.cursor + 1) (hand (Game.setClock
          { g with scheduler := some { s with cursor := s.cursor + 1 } } t) line.trim)).stopIfWon :=
        rfl
    _ = (g.takeLineBy hand s line).setClock t := by
      rw [hclock, detailed_setClock, stopIfWon_setClock]
      rfl

/-- A tick does the same wherever the session clock stands. -/
theorem Steady.stepBy_setClock (hhand : Steady hand) (g : Game) (t : Duration) :
    (g.setClock t).stepBy hand = ((g.stepBy hand).1, (g.stepBy hand).2.setClock t) := by
  rcases g with ⟨session, _ | s, ran⟩
  · rfl
  · by_cases hrun : s.running = true
    · have htake := hhand.takeLineBy_setClock hrun ⟨session, some s, ran⟩ t
      unfold stepBy Game.setClock
      rw [Option.map_some]
      dsimp only
      rw [if_neg (by simp [hrun]), if_neg (by simp [hrun])]
      rcases s.script[s.cursor]? with _ | line
      · rfl
      · have hrunning := (congrArg running (htake line)).trans (running_setClock _ t)
        exact Prod.ext (congrArg Tick.line hrunning) (htake line)
    · simp [stepBy, Game.setClock, hrun]

theorem Steady.exists_scheduler (hhand : Steady hand) (hs : g.scheduler = some s) :
    ∃ s', (g.stepBy hand).2.scheduler = some s' ∧ s'.elapsed = s.elapsed ∧ s'.clock = s.clock := by
  have hticked := hhand.ticked hs
  generalize g.stepBy hand = tick at hticked ⊢
  cases hticked with
  | idle => exact ⟨s, hs, rfl, rfl⟩
  | done => exact ⟨_, rfl, rfl, rfl⟩
  | line => exact ⟨_, rfl, rfl, rfl⟩

/-- The game after a number of ticks, whether they find a run in progress or not. -/
def ticks (hand : Game → Text → Outcome) : Nat → Game → Game
  | 0, g => g
  | n + 1, g => ticks hand n (g.stepBy hand).2

theorem Steady.ticks_setClock (hhand : Steady hand) (n : Nat) (g : Game) (t : Duration) :
    (g.setClock t).ticks hand n = (g.ticks hand n).setClock t := by
  induction n generalizing g with
  | zero => rfl
  | succ n ih => rw [ticks, ticks, hhand.stepBy_setClock, ih]

/-! ## Servicing events -/

/-- What it is to service events from the first to the last: how this ends, what `look` has read
after the lines, and the game then. -/
inductive Services (hand : Game → Text → Outcome) (look : Game → α) :
    Game → List RunEvent → RunEnd → List α → Game → Prop where
  /-- There are no events yet. -/
  | waits (g : Game) : Services hand look g [] .pending [] g
  | clock {g h : Game} {events : List RunEvent} {ending : RunEnd} {seen : List α}
      (hrest : Services hand look g.advanceClock events ending seen h) :
      Services hand look g (.clock :: events) ending seen h
  | interrupt (g : Game) (why : Interruption) :
      Services hand look g [.interrupt why] (.interrupted why) [] g.stop
  /-- A tick finds nothing to do, or the script used up. -/
  | ends {g : Game} (hstep : (g.stepBy hand).1 = .idle ∨ (g.stepBy hand).1 = .done) :
      Services hand look g [.step] .finished [] (g.stepBy hand).2
  /-- A tick takes a line, and the run does not go on. -/
  | last {g : Game} (hstep : (g.stepBy hand).1 = .line false) :
      Services hand look g [.step] .finished [look (g.stepBy hand).2.resume] (g.stepBy hand).2
  /-- A tick takes a line, and the run goes on. -/
  | next {g h : Game} {events : List RunEvent} {ending : RunEnd} {seen : List α}
      (hstep : (g.stepBy hand).1 = .line true)
      (hrest : Services hand look (g.stepBy hand).2 events ending seen h) :
      Services hand look g (.step :: events) ending (look (g.stepBy hand).2.resume :: seen) h

/-- A run services its events up to its end. -/
theorem exists_services (hand : Game → Text → Outcome) (look : Game → α) (g : Game)
    (events : List RunEvent) :
    let r := g.serviceBy hand look events
    ∃ serviced rest, events = serviced ++ rest ∧ Services hand look g serviced r.1 r.2.1 r.2.2 ∧
      (r.1 = .pending → rest = []) := by
  induction events generalizing g with
  | nil => exact ⟨[], [], rfl, .waits g, fun _ => rfl⟩
  | cons event events ih =>
    cases event with
    | clock =>
      obtain ⟨serviced, rest, hevents, hservices, hrest⟩ := ih g.advanceClock
      exact ⟨.clock :: serviced, rest, congrArg (.clock :: ·) hevents, .clock hservices, hrest⟩
    | interrupt why =>
      exact ⟨[.interrupt why], events, rfl, .interrupt g why, fun hpending => by cases hpending⟩
    | step =>
      dsimp only
      rw [serviceBy]
      rcases hstep : g.stepBy hand with ⟨_ | _ | _ | _, h⟩
      · have hends : Services hand look g [.step] .finished [] _ := .ends (by rw [hstep]; simp)
        rw [hstep] at hends
        exact ⟨[.step], events, rfl, hends, by simp⟩
      · have hends : Services hand look g [.step] .finished [] _ := .ends (by rw [hstep]; simp)
        rw [hstep] at hends
        exact ⟨[.step], events, rfl, hends, by simp⟩
      · have hlast : Services hand look g [.step] .finished _ _ := .last (by rw [hstep])
        rw [hstep] at hlast
        exact ⟨[.step], events, rfl, hlast, by simp⟩
      · obtain ⟨serviced, rest, hevents, hservices, hrest⟩ := ih h
        have hnext : Services hand look g (.step :: serviced) _ _ _ :=
          .next (by rw [hstep]) (by rw [hstep]; exact hservices)
        rw [hstep] at hnext
        exact ⟨.step :: serviced, rest, congrArg (.step :: ·) hevents, hnext, hrest⟩

variable {events : List RunEvent} {ending : RunEnd} {seen : List α}

/-- Only the clock of a scheduler changes as it ticks, and nothing else of the game does. -/
theorem Services.ticks_eq (hrun : Services hand look g events ending seen h) (hhand : Steady hand)
    (hs : g.scheduler = some s) :
    h.session = (g.ticks hand (events.count .step)).session ∧
      h.ran = (g.ticks hand (events.count .step)).ran := by
  induction hrun generalizing s with
  | waits g => exact ⟨rfl, rfl⟩
  | interrupt g why => exact ⟨rfl, rfl⟩
  | ends hstep => exact ⟨rfl, rfl⟩
  | last hstep => exact ⟨rfl, rfl⟩
  | clock _ ih =>
    rw [List.count_cons_of_ne (by decide)]
    rw [advanceClock_eq hs] at ih
    have hclock := ih (scheduler_setClock hs)
    rwa [hhand.ticks_setClock] at hclock
  | next hstep _ ih =>
    obtain ⟨s', hs', -⟩ := hhand.exists_scheduler hs
    rw [List.count_cons_self]
    exact ih hs'

theorem elapsed_of_scheduler (hs : g.scheduler = some s) : g.elapsed = s.elapsed := by
  rw [elapsed, hs, Option.map_some, Option.getD_some]

/-- The session clock shows how often it has ticked. -/
theorem Services.elapsed_eq (hrun : Services hand look g events ending seen h)
    (hhand : Steady hand) (hs : g.scheduler = some s) :
    h.elapsed = ⟨s.elapsed.nanoseconds + s.clock.nanoseconds * .ofNat (events.count .clock)⟩ := by
  -- where no tick of the clock is left, the clock stands still
  have hstill {t : Duration} (helapsed : t = s.elapsed) :
      t = ⟨s.elapsed.nanoseconds + s.clock.nanoseconds * .ofNat 0⟩ := by
    simp [helapsed]
  induction hrun generalizing s with
  | waits g => exact hstill (elapsed_of_scheduler hs)
  | interrupt g why =>
    have hstop : g.stop.scheduler = some { s with running := false } := by rw [stop, hs]; rfl
    exact hstill ((elapsed_of_scheduler hstop).trans rfl)
  | ends hstep =>
    obtain ⟨s', hs', helapsed, -⟩ := hhand.exists_scheduler hs
    exact hstill ((elapsed_of_scheduler hs').trans helapsed)
  | last hstep =>
    obtain ⟨s', hs', helapsed, -⟩ := hhand.exists_scheduler hs
    exact hstill ((elapsed_of_scheduler hs').trans helapsed)
  | @clock g h events ending seen _ ih =>
    rw [advanceClock_eq hs] at ih
    have hrest := ih (scheduler_setClock hs) fun helapsed => by simp [helapsed]
    rw [hrest, List.count_cons_self]
    congr 1
    dsimp only
    rw [Int64.ofNat_add, Int64.mul_add, Int64.add_comm _ (s.clock.nanoseconds * Int64.ofNat 1),
      Int64.add_assoc]
    simp
  | next hstep _ ih =>
    obtain ⟨s', hs', helapsed, hclock⟩ := hhand.exists_scheduler hs
    have hrest := ih hs' fun helapsed => by simp [helapsed]
    rw [List.count_cons_of_ne (by decide), hrest, helapsed, hclock]

/-- There is one tick for each line that is left, and one that finds the script used up. -/
theorem Services.count_step_le (hrun : Services hand look g events ending seen h)
    (hhand : Steady hand) (hs : g.scheduler = some s) :
    events.count .step ≤ s.script.length - s.cursor + 1 ∧
      (ending = .pending → events.count .step ≤ s.script.length - s.cursor) := by
  induction hrun generalizing s with
  | waits g => simp
  | interrupt g why => simp
  | ends hstep => simp
  | last hstep => simp
  | clock _ ih =>
    rw [List.count_cons_of_ne (by decide)]
    rw [advanceClock_eq hs] at ih
    have hrest := ih (scheduler_setClock hs)
    exact hrest
  | next hstep _ ih =>
    obtain ⟨hlt, hs', -⟩ := hhand.stepBy_line hs hstep
    obtain ⟨hcount, hpending⟩ := ih hs'
    dsimp only at hcount hpending
    rw [List.count_cons_self]
    exact ⟨by omega, fun hending => by have := hpending hending; omega⟩

/-- A run that has ended is not in progress. -/
theorem Services.running_eq (hrun : Services hand look g events ending seen h)
    (hhand : Steady hand) (hs : g.scheduler = some s) (hended : ending ≠ .pending) :
    h.running = false := by
  induction hrun generalizing s with
  | waits g => exact absurd rfl hended
  | interrupt g why => exact g.running_stop
  | ends hstep => exact (hhand.stepBy_ends hs hstep).1
  | last hstep => exact Game.running_eq (hhand.stepBy_line hs hstep).2.1
  | clock _ ih =>
    rw [advanceClock_eq hs] at ih
    exact ih (scheduler_setClock hs) hended
  | next hstep _ ih => exact ih (hhand.stepBy_line hs hstep).2.1 hended

/-- `look` reads the game once for each line that was given to the interpreter. -/
theorem Services.exists_ran (hrun : Services hand look g events ending seen h)
    (hhand : Steady hand) (hs : g.scheduler = some s) :
    ∃ lines, h.ran = g.ran ++ lines ∧ lines.length = seen.length := by
  induction hrun generalizing s with
  | waits g => exact ⟨[], (List.append_nil _).symm, rfl⟩
  | interrupt g why => exact ⟨[], (List.append_nil _).symm, rfl⟩
  | ends hstep => exact ⟨[], (hhand.stepBy_ends hs hstep).2.trans (List.append_nil _).symm, rfl⟩
  | last hstep =>
    obtain ⟨-, -, entry, hran⟩ := hhand.stepBy_line hs hstep
    exact ⟨[entry], hran, rfl⟩
  | clock _ ih =>
    rw [advanceClock_eq hs] at ih
    exact ih (scheduler_setClock hs)
  | next hstep _ ih =>
    obtain ⟨-, hs', entry, hran⟩ := hhand.stepBy_line hs hstep
    obtain ⟨lines, hlines, hlength⟩ := ih hs'
    refine ⟨entry :: lines, ?_, congrArg (· + 1) hlength⟩
    rw [hlines, hran, List.append_assoc, List.singleton_append]

/-! ## How a run ends -/

theorem Services.serviceBy_eq (hrun : Services hand look g events ending seen h) :
    g.serviceBy hand look events = (ending, seen, h) := by
  induction hrun with
  | waits g => rfl
  | interrupt g why => rfl
  | clock _ ih => exact ih
  | @ends g hstep =>
    rw [serviceBy]
    rcases hg : g.stepBy hand with ⟨_ | _ | _ | _, h⟩ <;> simp [hg] at hstep ⊢
  | @last g hstep =>
    rw [serviceBy]
    rcases hg : g.stepBy hand with ⟨_ | _ | _ | _, h⟩ <;> simp [hg] at hstep ⊢
  | @next g h events ending seen hstep _ ih =>
    rw [serviceBy]
    rcases hg : g.stepBy hand with ⟨_ | _ | _ | _, k⟩ <;> simp [hg] at hstep ih ⊢
    simp [ih]

/-- What is left of the events is serviced where the first ones have led. -/
theorem Services.serviceBy_append (hrun : Services hand look g events .pending seen h)
    (rest : List RunEvent) :
    (g.serviceBy hand look (events ++ rest)).1 = (h.serviceBy hand look rest).1 := by
  generalize hpending : RunEnd.pending = ending at hrun
  induction hrun with
  | waits g => rfl
  | interrupt g why => cases hpending
  | ends hstep => cases hpending
  | last hstep => cases hpending
  | clock _ ih => exact ih hpending
  | @next g h events ending seen hstep _ ih =>
    rw [List.cons_append, serviceBy, ← ih hpending]
    rcases hg : g.stepBy hand with ⟨_ | _ | _ | _, k⟩ <;> simp [hg] at hstep ⊢

/-- A run is finished by a tick after which it does not go on. -/
theorem Services.finished_iff (hrun : Services hand look g events ending seen h) :
    ending = .finished ↔ ∃ before seen' k, Services hand look g before .pending seen' k ∧
      events = before ++ [.step] ∧ (k.stepBy hand).1.goesOn = false := by
  constructor
  · intro hending
    induction hrun with
    | waits g => cases hending
    | interrupt g why => cases hending
    | @ends g hstep =>
      refine ⟨[], [], g, .waits g, rfl, ?_⟩
      rcases hstep with hstep | hstep <;> rw [hstep] <;> rfl
    | @last g hstep => exact ⟨[], [], g, .waits g, rfl, by rw [hstep]; rfl⟩
    | clock _ ih =>
      obtain ⟨before, seen', k, hbefore, rfl, hk⟩ := ih hending
      exact ⟨.clock :: before, seen', k, .clock hbefore, rfl, hk⟩
    | next hstep _ ih =>
      obtain ⟨before, seen', k, hbefore, rfl, hk⟩ := ih hending
      exact ⟨.step :: before, _, k, .next hstep hbefore, rfl, hk⟩
  · rintro ⟨before, seen', k, hbefore, rfl, hk⟩
    have hending := congrArg Prod.fst hrun.serviceBy_eq
    rw [hbefore.serviceBy_append, serviceBy] at hending
    rcases hstep : k.stepBy hand with ⟨_ | _ | _ | _, h⟩ <;> rw [hstep] at hending hk
    · exact hending.symm
    · exact hending.symm
    · exact hending.symm
    · cases hk

/-- A run is interrupted by an interruption. -/
theorem Services.interrupted_iff (hrun : Services hand look g events ending seen h)
    (why : Interruption) :
    ending = .interrupted why ↔ events.getLast? = some (.interrupt why) := by
  have hcons {e : RunEvent} (he : e ≠ .interrupt why) (es : List RunEvent) :
      (e :: es).getLast? = some (.interrupt why) ↔ es.getLast? = some (.interrupt why) := by
    rcases es with _ | ⟨e', es⟩
    · simp [he]
    · rw [List.getLast?_cons_cons]
  induction hrun with
  | waits g => simp
  | interrupt g why' => simp
  | ends hstep => simp
  | last hstep => simp
  | clock _ ih => exact ih.trans (hcons (by simp) _).symm
  | next hstep _ ih => exact ih.trans (hcons (by simp) _).symm

theorem scheduler_start (hs : g.scheduler = some s) :
    g.start.scheduler = some (if s.running then s else s.begun) := by
  unfold start
  rw [hs]
  dsimp only
  split_ifs <;> rfl

theorem ran_start (g : Game) : g.start.ran = g.ran := onward_ran.start g

end Game

/-- The session clock has no influence on a run. A run services its events up to its end, in
whatever order they come. The session and the record of lines depend only on the number of ticks
among them; the clock has advanced with every one of its own. A run needs one tick more than the
script has lines, at most. It is finished by a tick after which it does not go on, interrupted by an
interruption, and not in progress afterwards; `look` has read the game once for each line. All of
this holds whatever is called after a win, as long as it acts on the session only, and when there is
no callback. -/
theorem run_insensitive_to_clock {α : Type} (act : Session → Session) (look : Game → α)
    (session : Session) (s : Scheduler) (ran : List (Text × Option CommandError)) :
    let hand := Game.handWith (Game.onSession act)
    let g : Game := ⟨session, some s, ran⟩
    (∀ events, let r := g.runBy hand look events
      ∃ serviced rest, events = serviced ++ rest ∧
        Game.Services hand look g.start serviced r.1 r.2.1 r.2.2 ∧ (r.1 = .pending → rest = [])) ∧
      (∀ events events' ending ending' seen seen' h h',
        Game.Services hand look g.start events ending seen h →
        Game.Services hand look g.start events' ending' seen' h' →
        events.count .step = events'.count .step → h.session = h'.session ∧ h.ran = h'.ran) ∧
      (∀ events ending seen h, Game.Services hand look g.start events ending seen h →
        h.elapsed = ⟨(if s.running then s.elapsed.nanoseconds else 0) +
          s.clock.nanoseconds * Int64.ofNat (events.count .clock)⟩ ∧
        events.count .step ≤ s.script.length + 1 ∧
        (ending = .pending → events.count .step ≤ s.script.length) ∧
        (ending = .finished ↔ ∃ before seen' k,
          Game.Services hand look g.start before .pending seen' k ∧ events = before ++ [.step] ∧
            (k.stepBy hand).1.goesOn = false) ∧
        (∀ why, ending = .interrupted why ↔ events.getLast? = some (.interrupt why)) ∧
        (ending ≠ .pending → h.running = false) ∧
        ∃ lines, h.ran = ran ++ lines ∧ lines.length = seen.length) ∧
      ∀ events, g.runBy (Game.handWith (Game.onSession id)) look events = g.run look events := by
  intro hand g
  have hhand : Game.Steady hand := Game.steady_handWith act
  have hstart : g.start.scheduler = some (if s.running then s else s.begun) :=
    Game.scheduler_start rfl
  refine ⟨g.start.exists_services hand look, ?_, ?_, ?_⟩
  · intro events events' ending ending' seen seen' h h' hrun hrun' hcount
    obtain ⟨hsession, hran⟩ := hrun.ticks_eq hhand hstart
    obtain ⟨hsession', hran'⟩ := hrun'.ticks_eq hhand hstart
    rw [hsession, hran, hcount, hsession', hran']
    exact ⟨rfl, rfl⟩
  · intro events ending seen h hrun
    obtain ⟨hcount, hpending⟩ := hrun.count_step_le hhand hstart
    have hscript : (if s.running then s else s.begun).script.length = s.script.length := by
      split_ifs <;> rfl
    rw [hscript] at hcount hpending
    obtain ⟨lines, hran, hlength⟩ := hrun.exists_ran hhand hstart
    refine ⟨?_, by omega, fun hending => ?_, hrun.finished_iff, hrun.interrupted_iff,
      hrun.running_eq hhand hstart, lines, hran.trans (congrArg (· ++ lines) g.ran_start), hlength⟩
    · rw [hrun.elapsed_eq hhand hstart]
      split_ifs <;> rfl
    · exact (hpending hending).trans (Nat.sub_le _ _)
  · intro events
    have hid : Game.onSession id = id := rfl
    rw [hid, Game.handWith_id, Game.runBy_hand]

/-! ## Callbacks that use the scheduler -/

namespace Game

/-- Says how many nanoseconds the session clock shows. -/
def tellTime (g : Game) : Game :=
  g.say (Text.ofInt64 g.elapsed.nanoseconds)

/-- Resets a run and starts it again. -/
def restart (g : Game) : Game :=
  g.resetRun.2.start

end Game

/-- A callback that uses the scheduler can make the clock matter. It can tell the time, so that the
transcript depends on where the clock has ticked. It can reset the run, which sets the clock back,
or begin it again, so that a script of one line is not through after three steps. -/
theorem run_sensitive_to_scheduler_callbacks :
    ∃ session, Session.start (.fixed ⟨2, ⟨0, 0⟩, ⟨0, 1⟩, []⟩) .inert = .ok session ∧
      let g := (Game.ofSession session).attach
        (.new [Text.ofString "MOVER DIREITA 1"] .second .second)
      let run := fun act events => g.runBy (Game.handWith act) (fun _ => ()) events
      (run Game.tellTime [.clock, .step]).2.2.session.transcript ≠
        (run Game.tellTime [.step]).2.2.session.transcript ∧
      (run (fun g => g.resetRun.2) [.clock, .step]).2.2.elapsed = .zero ∧
      (run Game.restart [.step, .step, .step]).1 = .pending := by
  have hsession : Session.start (.fixed ⟨2, ⟨0, 0⟩, ⟨0, 1⟩, []⟩) .inert = .ok _ := rfl
  refine ⟨_, hsession, ?_⟩
  decide +kernel

end GridRobot
