import GridRobot.Program
import GridRobot.Proofs.Clock
import GridRobot.Proofs.Reading
import GridRobot.Proofs.Runs
import GridRobot.Proofs.Wins

/-!
# What the program prints

While a script runs, the program prints a line for each win, and pictures of the board where they
are asked for. At the end it prints where the robot stands. Wins are told apart from everything else
by the letter that their lines begin with, which nothing else holds: `Program.Announces wins t` says
that the text `t` has the lines of these wins, and that letter nowhere else.

A paced run prints its wins frame by frame, those from one frame to the next (`Program.between`).
Since the number of wins only grows (`Game.Services.isChain_wins`), this prints each of them once
(`Program.announces_paced`). A run always comes to its end (`Game.finished_run`), so that in either
mode what is printed is told by the session that is left (`Program.exists_played`).
-/

namespace GridRobot

/-! ## Wins of a session -/

namespace Session

variable {r : Prop} {s t : Session} {b : Board}

theorem wins_of_start {setup : Setup} {onWin : WinPolicy} (h : start setup onWin = .ok s) :
    s.wins = [] := by
  unfold start at h
  rcases hb : boardAt setup 0 with e | b
  · rw [hb] at h; cases h
  · rw [hb] at h; cases h
    rfl

/-- The session still has its ground, and it was won at most once, with the robot on the target. -/
structure WonOnce (b : Board) (s : Session) : Prop where
  ground : b.SameGround s.board
  wins : (s.won = false ∧ s.wins = []) ∨ (s.won = true ∧ s.wins = [b.target])

theorem Turn.wonOnce (h : Turn r s t) (hr : ¬ r) (hs : WonOnce b s) : WonOnce b t := by
  cases h with
  | log message isError => exact ⟨hs.ground, hs.wins⟩
  | debug message attrs => exact ⟨hs.ground, hs.wins⟩
  | assign name value => exact ⟨hs.ground, hs.wins⟩
  | move h => exact ⟨hs.ground.trans (Board.sameGround_of_move h), hs.wins⟩
  | win ht hw =>
    refine ⟨hs.ground, .inr ⟨rfl, ?_⟩⟩
    rcases hs.wins with ⟨-, hwins⟩ | ⟨hwon, -⟩
    · have hrobot : s.board.robot = b.target := (eq_of_beq ht).trans hs.ground.target_eq
      calc s.win.wins = s.wins ++ [s.board.robot] := rfl
        _ = [b.target] := by rw [hwins, hrobot, List.nil_append]
    · rw [hwon] at hw
      cases hw
  | reset h => exact absurd h hr

theorem Turns.wonOnce (h : Turns r s t) (hr : ¬ r) (hs : WonOnce b s) : WonOnce b t :=
  Turns.keep (P := WonOnce b) (fun _ _ hturn => hturn.wonOnce hr) h hs

theorem Turns.length_wins_le (h : Turns r s t) : s.wins.length ≤ t.wins.length := by
  refine Turns.keep (P := fun u => s.wins.length ≤ u.wins.length) (fun u v hturn hu => ?_) h le_rfl
  by_cases hwins : v.wins = u.wins
  · rwa [hwins]
  · rw [(hturn.oneShot.announced hwins).2.2.1, List.length_append]
    omega

end Session

/-! ## Paced runs -/

namespace RunEvent

theorem count_step_upTo (ticks : Nat → Nat) (steps : Nat) :
    (upTo ticks steps).count .step = steps := by
  unfold upTo
  rw [List.count_flatMap]
  have hone : (List.count RunEvent.step ∘ fun k =>
      List.replicate (ticks k) RunEvent.clock ++ [.step]) = fun _ => 1 := by
    funext k
    simp [List.count_replicate]
  rw [hone]
  simp

theorem interrupt_notMem_upTo (ticks : Nat → Nat) (steps : Nat) (why : Interruption) :
    .interrupt why ∉ upTo ticks steps := by
  simp [upTo]

end RunEvent

namespace Game

variable {α : Type} {g h : Game} {s : Scheduler} {events : List RunEvent} {ending : RunEnd}

theorem turns_run (look : Game → α) (g : Game) (events : List RunEvent) :
    Session.Turns (g.session.onWin ≠ .inert) g.session (g.run look events).2.2.session := by
  have hstart : Session.Turns (g.session.onWin ≠ .inert) g.session g.start.session := g.turns_start
  exact hstart.trans ((g.start.turns_service look events).mono fun hp => hstart.setup_eq.2 ▸ hp)

theorem wins_start (g : Game) : g.start.session.wins = g.session.wins := by
  unfold start
  split
  · rfl
  · split_ifs <;> rfl

theorem steady_hand : Steady hand := by
  have hsteady := steady_handWith id
  have hid : onSession id = id := rfl
  rwa [hid, handWith_id] at hsteady

/-- With one step more than there are lines a run comes to its end, wherever the clock ticks. -/
theorem finished_run (look : Game → α) (hs : g.scheduler = some s) (ticks : Nat → Nat) :
    (g.run look (RunEvent.upTo ticks (s.script.length + 1))).1 = .finished := by
  obtain ⟨serviced, rest, hevents, hrun, hrest⟩ :=
    g.start.exists_services hand look (RunEvent.upTo ticks (s.script.length + 1))
  rw [serviceBy_hand] at hrun hrest
  unfold run
  rcases hending : (g.start.service look (RunEvent.upTo ticks (s.script.length + 1))).1 with
    _ | why | _
  · rfl
  · have hlast := (hrun.interrupted_iff why).1 hending
    have hmem : RunEvent.interrupt why ∈ RunEvent.upTo ticks (s.script.length + 1) := by
      rw [hevents]
      exact List.mem_append_left _ (List.mem_of_getLast? hlast)
    exact absurd hmem (RunEvent.interrupt_notMem_upTo _ _ why)
  · have hcount := (hrun.count_step_le steady_hand (scheduler_start hs)).2 hending
    rw [hrest hending, List.append_nil] at hevents
    rw [← hevents, RunEvent.count_step_upTo] at hcount
    have hscript : (if s.running then s else s.begun).script.length = s.script.length := by
      split_ifs <;> rfl
    omega

open Program (frame)

/-- From frame to frame the number of wins only grows. -/
theorem Services.isChain_wins {frames : List Program.Frame}
    (hrun : Services hand frame g events ending frames h) :
    (g.session.wins.length :: frames.map Program.Frame.wins).IsChain (· ≤ ·) ∧
      (frames.map Program.Frame.wins).getLastD g.session.wins.length ≤ h.session.wins.length := by
  have hgrows (g : Game) : g.session.wins.length ≤ (g.stepBy hand).2.session.wins.length := by
    rw [stepBy_hand]
    exact g.turns_step.length_wins_le
  induction hrun with
  | waits g => exact ⟨.singleton _, le_rfl⟩
  | interrupt g why => exact ⟨.singleton _, le_rfl⟩
  | @ends g hstep => exact ⟨.singleton _, hgrows g⟩
  | @last g hstep => exact ⟨List.isChain_pair.2 (hgrows g), le_rfl⟩
  | clock _ ih => exact ih
  | @next g h events ending seen hstep _ ih =>
    rw [List.map_cons, List.getLastD_cons]
    exact ⟨List.isChain_cons_cons.2 ⟨hgrows g, ih.1⟩, ih.2⟩

/-- What holds of everything that `look` can read holds of everything that it has read. -/
theorem Services.forall_seen {hand : Game → Text → Outcome} {look : Game → α} {seen : List α}
    (hrun : Services hand look g events ending seen h) {P : α → Prop} (hP : ∀ g, P (look g)) :
    ∀ x ∈ seen, P x := by
  induction hrun with
  | clock _ ih => exact ih
  | last => exact List.forall_mem_singleton.2 (hP _)
  | next _ _ ih => exact List.forall_mem_cons.2 ⟨hP _, ih⟩
  | _ => exact List.forall_mem_nil _

end Game

/-! ## The letter of wins -/

theorem Position.notMem_text (p : Position) : 67 ∉ p.text := by
  have hnumber (n : Int64) : 67 ∉ Text.ofInt64 n :=
    Text.notMem_ofInt (by decide) (by decide) n.toInt
  unfold text
  simp only [List.mem_append, not_or]
  exact ⟨⟨⟨⟨by decide, hnumber p.x⟩, by decide⟩, hnumber p.y⟩, by decide⟩

theorem Board.notMem_picture (b : Board) (elapsed : Duration) : 67 ∉ b.picture elapsed := by
  have hmark (p : Position) : 67 ≠ b.mark p := by
    unfold mark
    split_ifs <;> decide
  have hrow (x : Nat) : 67 ∉ b.pictureRow x := by
    simp [pictureRow, hmark]
  unfold picture
  simp only [List.mem_append, List.mem_flatMap, not_or, not_exists, not_and]
  exact ⟨⟨⟨⟨by decide, by decide⟩, Text.notMem_ofInt (by decide) (by decide) _⟩,
    by decide⟩, fun x _ => hrow x⟩

namespace Program

variable {t u : Text} {ps qs : List Position}

theorem notMem_lastLine (p : Position) : 67 ∉ lastLine p := by
  unfold lastLine
  simp only [List.mem_append, not_or]
  exact ⟨⟨by decide, p.notMem_text⟩, by decide⟩

/-- A text with the lines of these wins, in which no other line has the letter that they begin
with. -/
inductive Announces : List Position → Text → Prop where
  | quiet {t : Text} (ht : 67 ∉ t) : Announces [] t
  | win {t rest : Text} {p : Position} {ps : List Position} (ht : 67 ∉ t)
      (hrest : Announces ps rest) : Announces (p :: ps) (t ++ winLine p ++ rest)

theorem Announces.append (h : Announces ps t) (h' : Announces qs u) :
    Announces (ps ++ qs) (t ++ u) := by
  induction h with
  | @quiet t ht =>
    cases h' with
    | quiet hu => exact .quiet (by simp [ht, hu])
    | win hu hrest =>
      rw [← List.append_assoc, ← List.append_assoc]
      exact .win (by simp [ht, hu]) hrest
  | win ht _ ih =>
    rw [List.append_assoc, List.cons_append]
    exact .win ht ih

theorem announces_flatMap (ps : List Position) : Announces ps (ps.flatMap winLine) := by
  induction ps with
  | nil => exact .quiet List.not_mem_nil
  | cons p ps ih => exact .win List.not_mem_nil ih

/-- What the line of a win begins with. -/
def winPhrase : Text :=
  Text.ofString "Chegou ao destino em"

theorem winPhrase_eq : winPhrase = 67 :: Text.ofString "hegou ao destino em" := by
  decide

theorem winLine_eq (p : Position) :
    winLine p = 67 :: (Text.ofString "hegou ao destino em " ++ p.text ++ Text.ofString "\n") := by
  have hopening :
      Text.ofString "Chegou ao destino em " = 67 :: Text.ofString "hegou ao destino em " := by
    decide
  rw [winLine, hopening]
  rfl

theorem Announces.not_isInfix (h : Announces [] t) : ¬ winPhrase <:+: t := by
  cases h with
  | quiet ht =>
    rw [winPhrase_eq]
    exact fun hphrase => ht (hphrase.subset List.mem_cons_self)

/-- The phrase of the only win stands nowhere but in its line. -/
theorem Announces.exists_only {p : Position} (h : Announces [p] t) :
    ∃ before after, t = before ++ winLine p ++ after ∧
      ∀ before' after', t = before' ++ winPhrase ++ after' → before' = before := by
  cases h with
  | @win before after _ _ hbefore hafter =>
    refine ⟨before, after, rfl, fun before' after' hagain => ?_⟩
    obtain ⟨hquiet⟩ := hafter
    rw [winLine_eq, winPhrase_eq, List.append_assoc before, List.append_assoc before',
      List.cons_append, List.cons_append] at hagain
    -- the letter stands in this text only once, so that both cuts are at the same place
    refine ((List.append_cons_inj_of_notMem hbefore ?_).1 hagain).1.symm
    simp only [List.mem_append, not_or]
    exact ⟨⟨⟨by decide, p.notMem_text⟩, by decide⟩, hquiet⟩

/-! ## Printing -/

/-- Everything that actions print. -/
def printed (actions : List Action) : Text :=
  actions.flatMap fun
    | .print t => t
    | _ => []

theorem output_eq (r : Report) : r.output = printed r.actions := rfl

theorem printed_append (as bs : List Action) : printed (as ++ bs) = printed as ++ printed bs :=
  List.flatMap_append

section

variable (w : World) (logger : Log.Logger) (s : Session)

theorem printed_logAll (rs : List Log.Record) : printed (logAll logger rs) = [] := by
  unfold printed logAll
  rw [List.flatMap_eq_nil_iff]
  intro a ha
  obtain ⟨record, -, hline⟩ := List.mem_filterMap.1 ha
  obtain ⟨line, -, rfl⟩ := Option.map_eq_some_iff.1 hline
  rfl

theorem wins_frame (g : Game) : (frame g).wins = g.session.wins.length := rfl

theorem printed_between (a b : Frame) :
    printed (between w logger s a b) = ((s.wins.take b.wins).drop a.wins).flatMap winLine := by
  unfold between
  rw [printed_append, printed_logAll, List.nil_append, printed, List.flatMap_map]

theorem announces_between (a b : Frame) :
    Announces ((s.wins.take b.wins).drop a.wins) (printed (between w logger s a b)) := by
  rw [printed_between]
  exact announces_flatMap _

/-- The wins up to some number, and those from there to another. -/
theorem drop_take_append {l : List Position} {a b c : Nat} (hab : a ≤ b) (hbc : b ≤ c) :
    (l.take b).drop a ++ (l.take c).drop b = (l.take c).drop a := by
  obtain ⟨m, rfl⟩ := Nat.exists_eq_add_of_le hab
  obtain ⟨n, rfl⟩ := Nat.exists_eq_add_of_le hbc
  rw [List.drop_take, List.drop_take, List.drop_take, Nat.add_sub_cancel_left,
    Nat.add_sub_cancel_left, Nat.add_assoc, Nat.add_sub_cancel_left, List.take_add, List.drop_drop]

theorem le_getLastD_of_isChain {n : Nat} {l : List Nat} (h : (n :: l).IsChain (· ≤ ·)) :
    n ≤ l.getLastD n := by
  induction l generalizing n with
  | nil => exact le_rfl
  | cons m l ih =>
    obtain ⟨hle, hchain⟩ := List.isChain_cons_cons.1 h
    rw [List.getLastD_cons]
    exact hle.trans (ih hchain)

/-- The frames of a paced run print the wins from the first to the last of them. -/
theorem announces_paced (render : Bool) (tick : Duration) (first : Frame) (frames : List Frame)
    (hchain : (first.wins :: frames.map Frame.wins).IsChain (· ≤ ·))
    (hpicture : ∀ f ∈ frames, 67 ∉ f.picture) :
    Announces ((s.wins.take ((frames.map Frame.wins).getLastD first.wins)).drop first.wins)
      (printed (paced w logger render tick s first frames)) := by
  induction frames generalizing first with
  | nil =>
    rw [List.map_nil, List.getLastD_nil, List.drop_take_self]
    exact .quiet List.not_mem_nil
  | cons f frames ih =>
    obtain ⟨hle, hchain⟩ := List.isChain_cons_cons.1 hchain
    obtain ⟨hf, hpicture⟩ := List.forall_mem_cons.1 hpicture
    have hdrawn : 67 ∉ printed (if render then [.print f.picture] else []) := by
      cases render
      · exact List.not_mem_nil
      · simpa [printed] using hf
    have hall := ((announces_between w logger s first f).append (.quiet hdrawn)).append
      (ih f hchain hpicture)
    rw [List.append_nil, drop_take_append hle (le_getLastD_of_isChain hchain)] at hall
    rw [paced, printed_append, printed_append, List.map_cons, List.getLastD_cons]
    exact hall

/-- Together with those after the last frame, these are all wins from the first frame on. -/
theorem announces_frames (render : Bool) (tick : Duration) (first final : Frame)
    {frames : List Frame} (hchain : (first.wins :: frames.map Frame.wins).IsChain (· ≤ ·))
    (hpicture : ∀ f ∈ frames, 67 ∉ f.picture)
    (hfinal : (frames.map Frame.wins).getLastD first.wins ≤ final.wins) :
    Announces ((s.wins.take final.wins).drop first.wins)
      (printed (paced w logger render tick s first frames) ++
        printed (between w logger s (frames.getLastD first) final)) := by
  have hlast : (frames.map Frame.wins).getLastD first.wins = (frames.getLastD first).wins := by
    rw [List.getLastD_eq_getLast?, List.getLastD_eq_getLast?, List.getLast?_map,
      Option.getD_map]
  have hall := (announces_paced w logger s render tick first frames hchain hpicture).append
    (announces_between w logger s (frames.getLastD first) final)
  rwa [← hlast, drop_take_append (le_getLastD_of_isChain hchain) hfinal] at hall

end

/-! ## Running a script -/

/-- What a script that is run on a session leaves behind: the report tells of no failure, it prints
the wins since the beginning and at the end the place of the robot. -/
structure Played (s : Session) (r : Report) (t : Session) : Prop where
  turns : Session.Turns (s.onWin ≠ .inert) s t
  failure_eq : r.failure = none
  announces : Announces (t.wins.drop s.wins.length) r.output
  ends : lastLine t.board.robot <:+ r.output

/-- A report that ends with the place of the robot, after actions that print the wins. -/
theorem Played.of_printed {s t : Session} {actions : List Action}
    (hturns : Session.Turns (s.onWin ≠ .inert) s t)
    (hprinted : Announces (t.wins.drop s.wins.length) (printed actions)) :
    Played s ⟨actions ++ [.print (lastLine t.board.robot)], none⟩ t := by
  have hlast : printed [.print (lastLine t.board.robot)] = lastLine t.board.robot :=
    List.append_nil _
  refine ⟨hturns, rfl, ?_, ?_⟩
  · rw [output_eq, printed_append, hlast]
    have hall := hprinted.append (.quiet (notMem_lastLine t.board.robot))
    rwa [List.append_nil] at hall
  · rw [output_eq, printed_append, hlast]
    exact List.suffix_append _ _

theorem played_direct (w : World) (logger : Log.Logger) (g : Game) (lines : List Text) :
    Played g.session (direct w logger g lines) (g.runDirect lines).2.session := by
  refine .of_printed (g.turns_runDirect lines) ?_
  rw [printed_append, printed_logAll, List.append_nil]
  have hall := announces_between w logger (g.runDirect lines).2.session (frame g)
    (frame (g.runDirect lines).2)
  rwa [wins_frame, wins_frame, List.take_length] at hall

theorem played_schedule {w : World} (hw : w.interruption = none) (logger : Log.Logger)
    (render : Bool) (g : Game) (s : Scheduler) :
    Played g.session (schedule w logger render g s)
      ((g.attach s).run frame (events w s)).2.2.session := by
  have hevents : events w s = RunEvent.upTo (w.clockTicks s) (s.script.length + 1) := by
    rw [events, hw]
  have hfinished := Game.finished_run (g := g.attach s) frame rfl (w.clockTicks s)
  rw [← hevents] at hfinished
  have hturns := (g.attach s).turns_run frame (events w s)
  have hstarted : (frame g).wins ≤ (frame (g.attach s).start).wins :=
    (congrArg List.length (g.attach s).wins_start).ge
  obtain ⟨serviced, rest, -, hservices, -⟩ :=
    (g.attach s).start.exists_services Game.hand frame (events w s)
  rw [Game.serviceBy_hand] at hservices
  unfold schedule Game.run at *
  generalize (g.attach s).start.service frame (events w s) = outcome at *
  obtain ⟨ending, frames, h⟩ := outcome
  obtain rfl : ending = .finished := hfinished
  dsimp only at hservices
  obtain ⟨hchain, hlast⟩ := hservices.isChain_wins
  have hpicture := hservices.forall_seen (P := fun f => 67 ∉ f.picture) fun g =>
    g.session.board.notMem_picture g.elapsed
  have hpause (b : Bool) : printed (if b then [] else [.pause s.tick]) = [] := by cases b <;> rfl
  -- the wins up to the start, from frame to frame and after the last frame are all of them
  have hall := (announces_between w logger h.session (frame g) (frame (g.attach s).start)).append
    (announces_frames w logger h.session render s.tick (frame (g.attach s).start) (frame h) hchain
      hpicture hlast)
  have hgrown : (frame (g.attach s).start).wins ≤ (frame h).wins :=
    (le_getLastD_of_isChain hchain).trans hlast
  rw [drop_take_append hstarted hgrown, wins_frame h, List.take_length] at hall
  refine .of_printed hturns ?_
  rw [printed_append, printed_append, printed_append, hpause, List.append_nil, List.append_assoc]
  exact hall

/-- Actions that print nothing may come first. -/
theorem Played.preceded {s s' t : Session} {r : Report} {actions : List Action}
    (h : Played s' r t) (hturns : Session.Turns (s.onWin ≠ .inert) s s') (hwins : s'.wins = s.wins)
    (hquiet : printed actions = []) : Played s { r with actions := actions ++ r.actions } t := by
  have houtput : Report.output { r with actions := actions ++ r.actions } = r.output := by
    rw [output_eq, output_eq, printed_append, hquiet, List.nil_append]
  refine ⟨hturns.trans (h.turns.mono fun hp => hturns.setup_eq.2 ▸ hp), h.failure_eq, ?_, ?_⟩
  · rw [houtput, ← hwins]
    exact h.announces
  · rw [houtput]
    exact h.ends

/-- A script is run to its end, whatever its commands do. -/
theorem exists_played {w : World} (hw : w.interruption = none) (logger : Log.Logger)
    (o : CommandLine.Options) (tick : Duration) (s : Session) (lines : List Text) :
    ∃ t, Played s (play w logger o tick s lines) t := by
  have hquiet : printed (between w logger (s.say loadedMessage) (frame (.ofSession s))
      (frame (.ofSession (s.say loadedMessage)))) = [] :=
    (printed_between w logger _ _ _).trans (congrArg (List.flatMap winLine) List.drop_take_self)
  unfold play
  split_ifs
  · exact ⟨_, (played_direct w logger _ lines).preceded (s.turns_say loadedMessage) rfl hquiet⟩
  · exact ⟨_, (played_schedule hw logger o.render _ _).preceded (s.turns_say loadedMessage) rfl
      hquiet⟩

end Program

end GridRobot
