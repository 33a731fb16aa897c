import GridRobot.Proofs.RunSteps

/-!
# The discipline of a run

What operations do to a run one by one (`Game.RunStep`) adds up to what holds along all of them:
the scheduler keeps its script and the cursor stays within it (`Game.exists_scheduler_after`), ends
of the script are no more than starts (`Game.doneCount_after_le`), and in a run in progress ticks
have taken the lines before the cursor, each once and in order (`Game.takenSince_of_running`). If
nothing but ticks happens, the run is over after one tick more than the script has lines
(`Game.exists_answer_false`). `run_discipline` puts this together.

A tick looks at the session only after its line, when the policy for wins has acted already.
Therefore a tick that wins does not always end the run: `winning_tick_ends_run_iff` says when it
does.
-/

namespace GridRobot

namespace Game

variable {g h : Game} {s : Scheduler} {op : Operation}

/-! ## Whole runs -/

@[simp] theorem after_nil (g : Game) : g.after [] = g := rfl

@[simp] theorem after_cons (g : Game) (op : Operation) (ops : List Operation) :
    g.after (op :: ops) = (g.perform op).after ops := rfl

@[simp] theorem after_append (g : Game) (ops later : List Operation) :
    g.after (ops ++ later) = (g.after ops).after later :=
  List.foldl_append

theorem lt_length_of_drop {line : Text} {rest : List Text}
    (hline : s.script.drop s.cursor = line :: rest) : s.cursor < s.script.length := by
  by_contra hle
  rw [List.drop_of_length_le (Nat.not_lt.1 hle)] at hline
  cases hline

/-- The scheduler keeps its script, and its cursor does not leave it. -/
theorem RunStep.exists_scheduler (hstep : RunStep s op g h) :
    ∃ s', h.scheduler = some s' ∧ s'.script = s.script ∧
      (s.cursor ≤ s.script.length → s'.cursor ≤ s'.script.length) := by
  cases hstep with
  | calm hs => exact ⟨_, hs, rfl, id⟩
  | begins _ _ hs => exact ⟨_, hs, rfl, fun _ => Nat.zero_le _⟩
  | halts s' _ hs hscript _ hle =>
    exact ⟨s', hs, hscript, fun hcursor => hscript ▸ hle.trans hcursor⟩
  | line _ _ hline hs => exact ⟨_, hs, rfl, fun _ => lt_length_of_drop hline⟩
  | done _ _ _ hs => exact ⟨_, hs, rfl, id⟩

/-- What every operation does to a game with a scheduler, any number of them do. -/
theorem after_of_perform {R : Game → Game → Prop} (hrefl : ∀ g, R g g)
    (htrans : ∀ {g h k}, R g h → R h k → R g k)
    (hperform : ∀ {g s}, g.scheduler = some s → ∀ op, R g (g.perform op))
    (hs : g.scheduler = some s) (ops : List Operation) : R g (g.after ops) := by
  induction ops generalizing g s with
  | nil => exact hrefl g
  | cons op ops ih =>
    obtain ⟨s', hs', -⟩ := (runStep_perform hs op).exists_scheduler
    exact htrans (hperform hs op) (ih hs')

theorem exists_scheduler_after (hs : g.scheduler = some s) (hcursor : s.cursor ≤ s.script.length)
    (ops : List Operation) :
    ∃ s', (g.after ops).scheduler = some s' ∧ s'.script = s.script ∧
      s'.cursor ≤ s'.script.length := by
  induction ops generalizing g s with
  | nil => exact ⟨s, hs, rfl, hcursor⟩
  | cons op ops ih =>
    obtain ⟨s₁, hs₁, hscript₁, hcursor₁⟩ := (runStep_perform hs op).exists_scheduler
    obtain ⟨s₂, hs₂, hscript₂, hcursor₂⟩ := ih hs₁ (hcursor₁ hcursor)
    exact ⟨s₂, hs₂, hscript₂.trans hscript₁, hcursor₂⟩

/-! ## Starts and ends -/

/-- Whether an operation starts the scheduler, which it finds stopped. -/
def starts (g : Game) (op : Operation) : Bool :=
  !g.running && (g.perform op).running

/-- A start that finds the scheduler stopped is said, and nothing else is said to be one. -/
theorem startCount_perform (hs : g.scheduler = some s) (op : Operation) :
    (g.perform op).startCount = g.startCount + (g.starts op).toNat := by
  rw [starts, running_eq hs]
  cases runStep_perform hs op with
  | calm hs' hstart =>
    rw [hstart, running_eq hs', Bool.not_and_self]
    rfl
  | begins _ hrun hs' hstart =>
    rw [hstart, running_eq hs', hrun]
    rfl
  | halts s' _ hs' _ hrun _ hstart =>
    rw [hstart, running_eq hs', hrun, Bool.and_false]
    rfl
  | line _ hrun _ _ _ hstart =>
    rw [hstart, hrun]
    rfl
  | done _ hrun _ _ _ hstart =>
    rw [hstart, hrun]
    rfl

/-- The script is said to be used up by a tick that finds the run in progress and the cursor at the
end, and by nothing else. -/
theorem doneCount_perform (hs : g.scheduler = some s) (hcursor : s.cursor ≤ s.script.length)
    (op : Operation) :
    (g.perform op).doneCount = g.doneCount +
      if op = .step ∧ s.running = true ∧ s.cursor = s.script.length then 1 else 0 := by
  cases runStep_perform hs op with
  | calm _ _ hdone hstep =>
    have hnot : ¬ (op = .step ∧ s.running = true ∧ s.cursor = s.script.length) := by
      rintro ⟨hop, hrun, -⟩
      rw [(hstep hop).1] at hrun
      cases hrun
    rw [hdone, if_neg hnot, Nat.add_zero]
  | begins hop _ _ _ hdone => rw [hdone, if_neg fun h => hop h.1, Nat.add_zero]
  | halts _ hop _ _ _ _ _ hdone => rw [hdone, if_neg fun h => hop h.1, Nat.add_zero]
  | line _ _ hline _ _ _ hdone =>
    rw [hdone, if_neg fun h => (lt_length_of_drop hline).ne h.2.2, Nat.add_zero]
  | done hop hrun hend _ _ _ hdone =>
    rw [hdone, if_pos ⟨hop, hrun, hcursor.antisymm (List.drop_eq_nil_iff.1 hend)⟩]

/-- Ends of the script, with the one to come in a run in progress, are no more than starts. -/
theorem doneCount_perform_le (hs : g.scheduler = some s) (op : Operation) :
    (g.perform op).doneCount + (g.perform op).running.toNat + g.startCount ≤
      g.doneCount + g.running.toNat + (g.perform op).startCount := by
  rw [running_eq hs]
  cases runStep_perform hs op with
  | calm hs' hstart hdone => rw [running_eq hs', hstart, hdone]
  | begins _ hrun hs' hstart hdone =>
    rw [running_eq hs', hstart, hdone, hrun, Scheduler.begun, Bool.toNat_true, Bool.toNat_false]
    omega
  | halts s' _ hs' _ hrun _ hstart hdone =>
    rw [running_eq hs', hstart, hdone, hrun, Bool.toNat_false]
    omega
  | line _ hrun _ hs' _ hstart hdone =>
    have hle := Bool.toNat_le (g.perform op).running
    rw [hstart, hdone, hrun, Bool.toNat_true]
    omega
  | done _ hrun _ hs' _ hstart hdone =>
    rw [running_eq hs', hstart, hdone, hrun, Bool.toNat_true, Bool.toNat_false]

theorem doneCount_after_le (hs : g.scheduler = some s) (ops : List Operation) :
    (g.after ops).doneCount + (g.after ops).running.toNat + g.startCount ≤
      g.doneCount + g.running.toNat + (g.after ops).startCount := by
  refine after_of_perform (R := fun g h => h.doneCount + h.running.toNat + g.startCount ≤
    g.doneCount + g.running.toNat + h.startCount) (fun _ => le_rfl) ?_ doneCount_perform_le hs ops
  intro g h k hgh hhk
  omega

theorem startCount_le_after (hs : g.scheduler = some s) (ops : List Operation) :
    g.startCount ≤ (g.after ops).startCount := by
  refine after_of_perform (R := fun g h => g.startCount ≤ h.startCount) (fun _ => le_rfl) le_trans
    (fun hs op => ?_) hs ops
  rw [startCount_perform hs op]
  exact Nat.le_add_right _ _

/-! ## The lines that ticks take -/

/-- The lines that ticks give to the interpreter along a run of operations. -/
def tickLines (g : Game) : List Operation → List Text
  | [] => []
  | op :: ops =>
    (if op = .step then ((g.perform op).ran.drop g.ran.length).map Prod.fst else []) ++
      (g.perform op).tickLines ops

theorem tickLines_append (g : Game) (ops later : List Operation) :
    g.tickLines (ops ++ later) = g.tickLines ops ++ (g.after ops).tickLines later := by
  induction ops generalizing g with
  | nil => rfl
  | cons op ops ih =>
    rw [List.cons_append, tickLines, tickLines, ih, List.append_assoc]
    rfl

theorem tickLines_of_ne (hop : op ≠ .step) : g.tickLines [op] = [] := by
  rw [tickLines, if_neg hop]
  rfl

theorem tickLines_of_ran_eq (hran : (g.perform op).ran = g.ran) : g.tickLines [op] = [] := by
  simp [tickLines, hran]

theorem tickLines_of_ran {line : Text} {failure : Option CommandError}
    (hran : (g.perform .step).ran = g.ran ++ [(line, failure)]) : g.tickLines [.step] = [line] := by
  simp [tickLines, hran]

/-- As long as a scheduler that is stopped is not started, ticks take no lines. -/
theorem tickLines_of_stopped (hs : g.scheduler = some s) (hrun : s.running = false)
    (ops : List Operation) (hstart : (g.after ops).startCount = g.startCount) :
    g.tickLines ops = [] := by
  induction ops generalizing g s with
  | nil => rfl
  | cons op ops ih =>
    rw [after_cons] at hstart
    rw [← List.singleton_append, tickLines_append, after_cons, after_nil]
    cases runStep_perform hs op with
    | calm hs' hstart' _ hstep =>
      rw [ih hs' hrun (hstart.trans hstart'.symm), List.append_nil]
      by_cases hop : op = .step
      · exact tickLines_of_ran_eq (hstep hop).2
      · exact tickLines_of_ne hop
    | begins _ _ hs' hstart' =>
      have hle := startCount_le_after hs' ops
      omega
    | halts s' hop hs' _ hrun' _ hstart' =>
      rw [ih hs' hrun' (hstart.trans hstart'.symm), List.append_nil]
      exact tickLines_of_ne hop
    | line _ hrun' =>
      rw [hrun] at hrun'
      cases hrun'
    | done _ hrun' =>
      rw [hrun] at hrun'
      cases hrun'

/-- After some operations, these are the lines that ticks have taken since the last start that found
the scheduler stopped. -/
def TakenSince (g : Game) (ops : List Operation) (lines : List Text) : Prop :=
  ∃ before op since, ops = before ++ op :: since ∧ (g.after before).starts op = true ∧
    (g.after (before ++ [op])).startCount = (g.after ops).startCount ∧
    (g.after (before ++ [op])).tickLines since = lines

theorem takenSince_of_starts {ops : List Operation} (hstarts : (g.after ops).starts op = true) :
    g.TakenSince (ops ++ [op]) [] :=
  ⟨ops, op, [], rfl, hstarts, rfl, rfl⟩

theorem TakenSince.append {ops : List Operation} {lines : List Text} (h : g.TakenSince ops lines)
    (hstart : ((g.after ops).perform op).startCount = (g.after ops).startCount) :
    g.TakenSince (ops ++ [op]) (lines ++ (g.after ops).tickLines [op]) := by
  obtain ⟨before, op₀, since, rfl, hstarts, hlast, rfl⟩ := h
  refine ⟨before, op₀, since ++ [op], by simp, hstarts, ?_, ?_⟩
  · rw [hlast, ← hstart, after_append _ _ [op]]
    rfl
  · rw [tickLines_append]
    simp

/-- Wherever a run is in progress, ticks have taken the lines before the cursor, each once and in
order, since the last start that found the scheduler stopped. -/
theorem takenSince_of_running (hs : g.scheduler = some s) (hrun : s.running = false)
    (hcursor : s.cursor ≤ s.script.length) (ops : List Operation) {s' : Scheduler}
    (hs' : (g.after ops).scheduler = some s') (hrun' : s'.running = true) :
    g.TakenSince ops ((s'.script.take s'.cursor).map Text.trim) := by
  induction ops using List.reverseRecOn generalizing s' with
  | nil =>
    rw [after_nil, hs] at hs'
    cases hs'
    rw [hrun] at hrun'
    cases hrun'
  | append_singleton ops op ih =>
    obtain ⟨s₁, hs₁, -⟩ := exists_scheduler_after hs hcursor ops
    replace hs' : ((g.after ops).perform op).scheduler = some s' := by simpa using hs'
    cases runStep_perform hs₁ op with
    | calm hs₂ hstart _ hstep =>
      obtain rfl : s' = s₁ := Option.some.inj (hs'.symm.trans hs₂)
      have hnone : (g.after ops).tickLines [op] = [] := by
        refine tickLines_of_ne fun hop => ?_
        rw [(hstep hop).1] at hrun'
        cases hrun'
      have htaken := (ih hs₁ hrun').append hstart
      rwa [hnone, List.append_nil] at htaken
    | begins _ hstopped hs₂ =>
      obtain rfl : s' = s₁.begun := Option.some.inj (hs'.symm.trans hs₂)
      refine takenSince_of_starts ?_
      rw [starts, running_eq hs₁, running_eq hs₂, hstopped]
      rfl
    | halts s₂ _ hs₂ _ hstopped =>
      obtain rfl : s' = s₂ := Option.some.inj (hs'.symm.trans hs₂)
      rw [hstopped] at hrun'
      cases hrun'
    | @line line rest _ hop hrunning hline hs₂ hran hstart =>
      obtain rfl := Option.some.inj (hs'.symm.trans hs₂)
      subst hop
      have htaken := (ih hs₁ hrunning).append hstart
      have hnext : s₁.script[s₁.cursor]? = some line := by
        rw [← List.head?_drop, hline]
        rfl
      rw [tickLines_of_ran hran] at htaken
      simpa [List.take_add_one, hnext] using htaken
    | done _ _ _ hs₂ =>
      obtain rfl := Option.some.inj (hs'.symm.trans hs₂)
      cases hrun'

/-! ## Ticks alone -/

/-- What the next tick answers after a number of ticks. -/
def answer (g : Game) (ticks : Nat) : Bool :=
  (g.after (List.replicate ticks .step)).step.1.goesOn

/-- A tick that takes a line goes on exactly if the session is not won then. -/
theorem step_of_lt (hs : g.scheduler = some s) (hrun : s.running = true)
    (hlt : s.cursor < s.script.length) :
    g.answer 0 = !g.step.2.session.won ∧
      g.step.2.scheduler =
        some { s with cursor := s.cursor + 1, running := !g.step.2.session.won } := by
  have hspec := (g.takeLine_spec hrun s.script[s.cursor]).1
  rw [answer, List.replicate_zero, after_nil,
    step_of_line hs hrun (List.drop_eq_getElem_cons hlt)]
  exact ⟨running_eq hspec, hspec⟩

theorem answer_of_end (hs : g.scheduler = some s) (hrun : s.running = true)
    (hend : s.cursor = s.script.length) : g.answer 0 = false := by
  rw [answer, List.replicate_zero, after_nil,
    step_of_done hs hrun (List.drop_eq_nil_iff.2 hend.ge)]
  rfl

/-- Among the ticks for the rest of the script and one more, there is one after which the run does
not go on. -/
theorem exists_answer_false (hs : g.scheduler = some s) (hrun : s.running = true) {rest : Nat}
    (hrest : s.cursor + rest = s.script.length) : ∃ k ≤ rest, g.answer k = false := by
  induction rest generalizing g s with
  | zero => exact ⟨0, le_rfl, answer_of_end hs hrun hrest⟩
  | succ rest ih =>
    obtain ⟨hanswer, hs'⟩ := step_of_lt hs hrun (by omega)
    cases hwon : g.step.2.session.won
    · rw [hwon] at hs'
      obtain ⟨k, hk, hfalse⟩ := ih hs' rfl (by rw [← hrest]; simp only; omega)
      exact ⟨k + 1, by omega, hfalse⟩
    · rw [hwon] at hanswer
      exact ⟨0, Nat.zero_le _, hanswer⟩

/-- If the session is never won after a line, the run goes on for the rest of the script and ends
with one more tick. -/
theorem answer_of_not_won (hs : g.scheduler = some s) (hrun : s.running = true) {rest : Nat}
    (hrest : s.cursor + rest = s.script.length)
    (hwon : ∀ k < rest, (g.after (List.replicate (k + 1) .step)).session.won = false) :
    (∀ k < rest, g.answer k = true) ∧ g.answer rest = false := by
  induction rest generalizing g s with
  | zero => exact ⟨fun k hk => absurd hk (Nat.not_lt_zero k), answer_of_end hs hrun hrest⟩
  | succ rest ih =>
    obtain ⟨hanswer, hs'⟩ := step_of_lt hs hrun (by omega)
    have hfirst : g.step.2.session.won = false := hwon 0 (Nat.succ_pos rest)
    rw [hfirst] at hanswer hs'
    obtain ⟨htrue, hfalse⟩ := ih hs' rfl (by rw [← hrest]; simp only; omega) fun k hk =>
      hwon (k + 1) (Nat.succ_lt_succ hk)
    refine ⟨fun k hk => ?_, hfalse⟩
    cases k with
    | zero => exact hanswer
    | succ k => exact htrue k (Nat.lt_of_succ_lt_succ hk)

theorem scheduler_of_starts (hs : g.scheduler = some s) (hstarts : g.starts op = true) :
    (g.perform op).scheduler = some s.begun := by
  obtain ⟨hstopped, hrunning⟩ : s.running = false ∧ (g.perform op).running = true := by
    simpa [starts, running_eq hs] using hstarts
  cases runStep_perform hs op with
  | calm hs' =>
    rw [running_eq hs', hstopped] at hrunning
    cases hrunning
  | begins _ _ hs' => exact hs'
  | halts s' _ hs' _ hrun =>
    rw [running_eq hs', hrun] at hrunning
    cases hrunning
  | line _ hrun =>
    rw [hstopped] at hrun
    cases hrun
  | done _ hrun =>
    rw [hstopped] at hrun
    cases hrun

end Game

/-- What holds of a scheduler after any operations on its game. The cursor stays within the script,
and if a run is in progress, the lines that ticks took since it was started are those before the
cursor. A start is said exactly if it finds the scheduler stopped. The end of the script is said
exactly by a tick that finds the run in progress and the cursor at the end, and so at most once for
each start. If only ticks follow a start, one of the first `script.length + 1` ends the run, and it
is the last of them if the session is not won after any line. -/
theorem run_discipline (session : Session) (script : List Text) (tick clock : Duration)
    (ops : List Operation) :
    let g₀ := (Game.ofSession session).attach (.new script tick clock)
    let g := g₀.after ops
    ∃ s, g.scheduler = some s ∧ s.script = script ∧ s.cursor ≤ script.length ∧
      (s.running = true → g₀.TakenSince ops ((script.take s.cursor).map Text.trim)) ∧
      (∀ op, (g.perform op).startCount = g.startCount + (g.starts op).toNat) ∧
      (∀ op, (g.perform op).doneCount = g.doneCount +
        if op = .step ∧ s.running = true ∧ s.cursor = script.length then 1 else 0) ∧
      ∀ op, g.starts op = true →
        (∀ later, ((g.perform op).after later).startCount = (g.perform op).startCount →
          ((g.perform op).after later).doneCount ≤ (g.perform op).doneCount + 1) ∧
        (∃ k ≤ script.length, (g.perform op).answer k = false) ∧
        ((∀ k < script.length,
            ((g.perform op).after (List.replicate (k + 1) .step)).session.won = false) →
          (∀ k < script.length, (g.perform op).answer k = true) ∧
            (g.perform op).answer script.length = false) := by
  intro g₀ g
  have hs₀ : g₀.scheduler = some (.new script tick clock) := rfl
  obtain ⟨s, hs, hscript, hcursor⟩ := Game.exists_scheduler_after hs₀ (Nat.zero_le _) ops
  replace hscript : s.script = script := hscript
  subst hscript
  refine ⟨s, hs, rfl, hcursor, ?_, ?_, ?_, fun op hstarts => ?_⟩
  · exact Game.takenSince_of_running hs₀ rfl (Nat.zero_le _) ops hs
  · exact Game.startCount_perform hs
  · exact Game.doneCount_perform hs hcursor
  · have hbegun : (g.perform op).scheduler = some s.begun := Game.scheduler_of_starts hs hstarts
    have hrest : s.begun.cursor + s.script.length = s.begun.script.length := Nat.zero_add _
    refine ⟨fun later hlater => ?_, ?_, ?_⟩
    · have hle := Game.doneCount_after_le hbegun later
      rw [Game.running_eq hbegun, hlater, Scheduler.begun, Bool.toNat_true] at hle
      omega
    · exact Game.exists_answer_false hbegun rfl hrest
    · exact Game.answer_of_not_won hbegun rfl hrest

/-- A run that is broken off and started again by a line, with a line in its script that asks for
one more start. -/
theorem taken_since_start_by_line :
    let script := [Text.ofString " AJUDA ", Text.ofString "INICIAR TIMER", Text.ofString "PULAR"]
    let ops := [.start, .step, .stop, .interpret (Text.ofString "SE OBSTACULO BAIXO INICIAR TIMER"),
      .step, .step]
    ∃ session, Session.start (.fixed ⟨2, ⟨0, 0⟩, ⟨1, 1⟩, [⟨1, 0⟩]⟩) .inert = .ok session ∧
      ((Game.ofSession session).attach (.new script .second .second)).TakenSince ops
        [Text.ofString "AJUDA", Text.ofString "INICIAR TIMER"] := by
  intro script ops
  have hsession : Session.start (.fixed ⟨2, ⟨0, 0⟩, ⟨1, 1⟩, [⟨1, 0⟩]⟩) .inert = .ok _ := rfl
  refine ⟨_, hsession, ?_⟩
  generalize hg : Game.attach _ _ = g
  obtain ⟨s, hs, -, -, htaken, -⟩ := run_discipline _ script .second .second ops
  rw [hg] at hs htaken
  have hstate : (g.after ops).scheduler.map (fun s => (s.running, s.cursor)) = some (true, 2) := by
    rw [← hg]
    decide +kernel
  rw [hs, Option.map_some, Option.some.injEq, Prod.mk.injEq] at hstate
  have hlines : (script.take 2).map Text.trim =
      [Text.ofString "AJUDA", Text.ofString "INICIAR TIMER"] := by decide +kernel
  rw [← hlines, ← hstate.2]
  exact htaken hstate.1

/-! ## Ticks that win -/

namespace Session

variable {s t : Session}

/-- Seen from an earlier session, no win has been counted, or the session is won exactly if the
policy for wins left it alone or its last attempt at a reset failed. -/
def Settled (s t : Session) : Prop :=
  t.wins = s.wins ∨
    (t.won = true ↔ t.onWin = .inert ∨ ∃ e, boardAt t.setup (t.consulted - 1) = .error e)

/-- The session stays won after a win unless the policy resets it and the reset succeeds. -/
theorem won_heed_iff (hwon : t.won = true) :
    t.heed.won = true ↔
      t.heed.onWin = .inert ∨ ∃ e, boardAt t.heed.setup (t.heed.consulted - 1) = .error e := by
  by_cases hpolicy : t.onWin = .inert
  · rw [heed_of_inert hpolicy]
    exact iff_of_true hwon (.inl hpolicy)
  · rcases hboard : boardAt t.setup t.consulted with e | b
    · obtain ⟨notes, hnotes⟩ := exists_notes_heed_of_error hpolicy t.number e
      rw [hnotes t rfl rfl hboard]
      exact iff_of_true hwon (.inr ⟨e, hboard⟩)
    · rw [heed_of_ok hpolicy hboard]
      simp [anew, say, log, note, hpolicy, hboard]

theorem Settled.checkWin (h : s.Settled t) : s.Settled t.checkWin.2 := by
  rw [checkWin_eq]
  split_ifs
  · exact .inr (won_heed_iff rfl)
  · exact h

end Session

namespace Game

variable {g : Game}

theorem onward_settled (s : Session) :
    Onward fun g h => s.Settled g.session → s.Settled h.session where
  refl _ := id
  trans hgh hhk := hhk ∘ hgh
  log _ _ _ _ := id
  assign _ _ _ := id
  move _ := id
  checkWin _ := Session.Settled.checkWin
  start g := by
    unfold start
    split
    · exact id
    · split_ifs <;> exact id

/-- During a tick that wins, the session ends up won exactly if the policy for wins left it alone or
its last attempt at a reset failed. -/
theorem won_step_iff (hwin : g.step.2.session.wins ≠ g.session.wins) :
    g.step.2.session.won = true ↔ g.session.onWin = .inert ∨
      ∃ e, Session.boardAt g.session.setup (g.step.2.session.consulted - 1) = .error e := by
  have hsettled : g.session.Settled g.step.2.session :=
    Onward.step (Q := fun t u => g.session.Settled t → g.session.Settled u)
      (onward_settled g.session) (fun _ _ _ => id) (fun _ => id) g (.inl rfl)
  obtain ⟨hsetup, hpolicy⟩ := g.turns_step.setup_eq
  rw [← hsetup, ← hpolicy]
  exact hsettled.resolve_left hwin

/-- A tick that counts a win takes a line of a run in progress. -/
theorem exists_line_of_win (hwin : g.step.2.session.wins ≠ g.session.wins) :
    ∃ s, g.scheduler = some s ∧ s.running = true ∧ s.cursor < s.script.length := by
  rcases hs : g.scheduler with _ | s
  · have hidle : g.step = (.idle, g) := by simp [step, hs]
    exact absurd (by rw [hidle]) hwin
  · rcases hrun : s.running with _ | _
    · exact absurd (by rw [step_of_stopped hs hrun]) hwin
    · refine ⟨s, rfl, hrun, ?_⟩
      by_contra hge
      have hend : s.script.drop s.cursor = [] := List.drop_eq_nil_iff.2 (Nat.not_lt.1 hge)
      exact absurd (by rw [step_of_done hs hrun hend]; rfl) hwin

end Game

/-- A tick that counts a win ends the run, until a start finds the scheduler stopped again, exactly
if the policy for wins left the session alone or its last attempt at a reset failed. -/
theorem winning_tick_ends_run_iff {g : Game} (hwin : g.step.2.session.wins ≠ g.session.wins) :
    (g.step.1.goesOn = false ∧ g.step.2.running = false ∧
      ∀ later, (g.step.2.after later).startCount = g.step.2.startCount →
        g.step.2.tickLines later = []) ↔
    (g.session.onWin = .inert ∨
      ∃ e, Session.boardAt g.session.setup (g.step.2.session.consulted - 1) = .error e) := by
  obtain ⟨s, hs, hrun, hlt⟩ := Game.exists_line_of_win hwin
  obtain ⟨hanswer, hs'⟩ := Game.step_of_lt hs hrun hlt
  rw [← Game.won_step_iff hwin]
  constructor
  · rintro ⟨hends, -⟩
    have hnot : (!g.step.2.session.won) = false := hanswer.symm.trans hends
    simpa using hnot
  · intro hwon
    rw [hwon] at hanswer hs'
    refine ⟨hanswer, Game.running_eq hs', fun later hlater => ?_⟩
    exact Game.tickLines_of_stopped hs' rfl later hlater

/-- The first line of a script wins, and the board is laid anew: the run goes on. -/
theorem winning_tick_goes_on_after_reset :
    ∃ s, Session.start (.fixed ⟨2, ⟨0, 0⟩, ⟨0, 1⟩, []⟩) .reset = .ok s ∧
      let g := ((Game.ofSession s).attach (.new [Text.ofString "MOVER DIREITA 1",
        Text.ofString "MOVER BAIXO 1"] .second .second)).start
      g.step.2.session.wins ≠ g.session.wins ∧
        ¬ (g.step.1.goesOn = false ∧ g.step.2.running = false ∧
          ∀ later, (g.step.2.after later).startCount = g.step.2.startCount →
            g.step.2.tickLines later = []) := by
  have hs : Session.start (.fixed ⟨2, ⟨0, 0⟩, ⟨0, 1⟩, []⟩) .reset = .ok _ := rfl
  refine ⟨_, hs, ?_⟩
  intro g
  have hwin : g.step.2.session.wins ≠ g.session.wins := by decide +kernel
  refine ⟨hwin, fun hends => ?_⟩
  rcases (winning_tick_ends_run_iff hwin).1 hends with hpolicy | ⟨e, he⟩
  · cases hpolicy
  · cases he

end GridRobot
