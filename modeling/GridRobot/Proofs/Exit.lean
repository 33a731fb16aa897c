import GridRobot.Proofs.Output

/-!
# How the program ends

Before a script is run a number of things can go wrong, and they are looked for in order: the
arguments, the settings, the board file, the board, the script. `Program.Fails` lists what can be
wrong once there are settings, each with what must have gone well before it, and
`Program.Fails.start_eq` and `Program.fails_or_loads` say that this is how the program fails. After
that nothing fails any more: whatever a script does, it is run to its end (`Program.exists_played`),
and the program says where the robot stands then.
-/

namespace GridRobot

namespace Program

variable {w : World} {logger : Log.Logger} {o : CommandLine.Options} {s : Settings} {e : Failure}
  {b : Setup} {board : Board} {lines : List Text} {arguments : List Text}

/-! ## Failures -/

/-- What can go wrong with the options and settings given, and how the program fails then. -/
inductive Fails (w : World) (o : CommandLine.Options) (s : Settings) : Failure → Prop where
  | boardUnopened {e : OpenError} (hnamed : s.layout ≠ []) (hopen : w.files s.layout = .error e) :
      Fails w o s (.cannotOpen s.layout e)
  | boardDirectory (hnamed : s.layout ≠ []) (hopen : w.files s.layout = .ok .directory) :
      Fails w o s (.boardDirectory s.layout)
  | boardUnread {t : Text} {e : BoardFile.Fault} (hnamed : s.layout ≠ [])
      (hopen : w.files s.layout = .ok (.file t)) (hread : BoardFile.read t = .error e) :
      Fails w o s (.boardFile s.layout e)
  | unbuilt {b : Setup} {e : SetupError} (hsetup : setup w s = .ok b)
      (hboard : Session.boardAt b 0 = .error e) : Fails w o s (.session e)
  | scriptUnopened {b : Setup} {board : Board} {e : OpenError} (hsetup : setup w s = .ok b)
      (hboard : Session.boardAt b 0 = .ok board) (hopen : w.files o.script = .error e) :
      Fails w o s (.cannotOpen o.script e)
  | scriptDirectory {b : Setup} {board : Board} (hsetup : setup w s = .ok b)
      (hboard : Session.boardAt b 0 = .ok board) (hopen : w.files o.script = .ok .directory) :
      Fails w o s (.scriptDirectory o.script)
  | scriptTooLong {b : Setup} {board : Board} {t : Text} (hsetup : setup w s = .ok b)
      (hboard : Session.boardAt b 0 = .ok board) (hopen : w.files o.script = .ok (.file t))
      (hload : Script.load? t = none) : Fails w o s .scriptTooLong

theorem Fails.code_eq (h : Fails w o s e) : e.code = 1 := by
  cases h <;> rfl

theorem fails_of_setup (h : setup w s = .error e) : Fails w o s e := by
  unfold setup at h
  split_ifs at h with hempty
  have hnamed : s.layout ≠ [] := fun hnil => hempty (by rw [hnil]; rfl)
  unfold layout at h
  split at h
  · next hopen => cases h; exact .boardUnopened hnamed hopen
  · next hopen => cases h; exact .boardDirectory hnamed hopen
  · next t hopen =>
    rcases hread : BoardFile.read t with e' | l
    · rw [hread] at h
      cases h
      exact .boardUnread hnamed hopen hread
    · rw [hread] at h
      cases h

theorem fails_of_script (hsetup : setup w s = .ok b) (hboard : Session.boardAt b 0 = .ok board)
    (h : script w.files o.script = .error e) : Fails w o s e := by
  unfold script at h
  split at h
  · next hopen => cases h; exact .scriptUnopened hsetup hboard hopen
  · next hopen => cases h; exact .scriptDirectory hsetup hboard hopen
  · next t hopen =>
    split at h
    · cases h
    · next hload => cases h; exact .scriptTooLong hsetup hboard hopen hload

/-- Something goes wrong, or there is all that it takes to run a script. -/
theorem fails_or_loads (w : World) (o : CommandLine.Options) (s : Settings) :
    (∃ e, Fails w o s e) ∨ ∃ b board lines, setup w s = .ok b ∧ Session.boardAt b 0 = .ok board ∧
      script w.files o.script = .ok lines := by
  rcases hsetup : setup w s with e | b
  · exact .inl ⟨e, fails_of_setup hsetup⟩
  · rcases hboard : Session.boardAt b 0 with e | board
    · exact .inl ⟨_, .unbuilt hsetup hboard⟩
    · rcases hscript : script w.files o.script with e | lines
      · exact .inl ⟨e, fails_of_script hsetup hboard hscript⟩
      · exact .inr ⟨b, board, lines, rfl, hboard, rfl⟩

theorem setup_of_named (hnamed : s.layout ≠ []) :
    setup w s = (layout w.files s.layout).map .fixed := by
  rw [setup, if_neg]
  simpa using hnamed

theorem exists_session (hboard : Session.boardAt b 0 = .ok board) :
    ∃ session, Session.start b .inert = .ok session := by
  rcases hsession : Session.start b .inert with e | session
  · rw [Session.start, hboard] at hsession
    cases hsession
  · exact ⟨session, rfl⟩

/-- With a session, all that is left is to load the script and run it. -/
theorem start_eq_map {session : Session} (hsetup : setup w s = .ok b)
    (hsession : Session.start b .inert = .ok session) (logger : Log.Logger) :
    start w logger o s = (script w.files o.script).map (play w logger o s.tick session) := by
  have hbuilt : start w logger o s = ((Session.start b .inert).mapError .session).bind
      fun session => (script w.files o.script).map (play w logger o s.tick session) := by
    unfold start
    rw [hsetup]
    rfl
  rw [hbuilt, hsession]
  rfl

theorem Fails.start_eq (h : Fails w o s e) (logger : Log.Logger) :
    start w logger o s = .error e := by
  cases h with
  | boardUnopened hnamed hopen =>
    unfold start
    rw [setup_of_named hnamed, layout, hopen]
    rfl
  | boardDirectory hnamed hopen =>
    unfold start
    rw [setup_of_named hnamed, layout, hopen]
    rfl
  | boardUnread hnamed hopen hread =>
    unfold start
    rw [setup_of_named hnamed, layout, hopen]
    dsimp only
    rw [hread]
    rfl
  | @unbuilt b e hsetup hboard =>
    have hsession : Session.start b .inert = .error e := by rw [Session.start, hboard]; rfl
    unfold start
    rw [hsetup]
    change ((Session.start b .inert).mapError Failure.session >>= _) = _
    rw [hsession]
    rfl
  | scriptUnopened hsetup hboard hopen =>
    obtain ⟨session, hsession⟩ := exists_session hboard
    rw [start_eq_map hsetup hsession, script, hopen]
    rfl
  | scriptDirectory hsetup hboard hopen =>
    obtain ⟨session, hsession⟩ := exists_session hboard
    rw [start_eq_map hsetup hsession, script, hopen]
    rfl
  | scriptTooLong hsetup hboard hopen hload =>
    obtain ⟨session, hsession⟩ := exists_session hboard
    rw [start_eq_map hsetup hsession, script, hopen]
    dsimp only
    rw [hload]
    rfl

/-! ## The whole program -/

theorem code_of_settings {files : Files} (h : settings files o = .error e) : e.code = 2 := by
  unfold settings at h
  rcases hfile : fileSettings files o.config with e' | s
  · rw [hfile] at h
    cases h
    unfold fileSettings at hfile
    split_ifs at hfile
    split at hfile
    · next t _ =>
      rcases hs : Settings.ofFile t with e' | s
      · rw [hs] at hfile
        cases hfile
        rfl
      · rw [hs] at hfile
        cases hfile
    · cases hfile
      rfl
  · rw [hfile] at h
    change ((s.override o.toFlags).check).mapError (Failure.settings o.config) = _ at h
    rcases hcheck : (s.override o.toFlags).check with e' | s'
    · rw [hcheck] at h
      cases h
      rfl
    · rw [hcheck] at h
      cases h

theorem run_of_refused {e : CommandLine.UsageError} (h : CommandLine.read arguments = .refused e) :
    (run w arguments).failure = some (.usage e) := by
  unfold run
  rw [h]

theorem run_of_help (h : CommandLine.read arguments = .help) :
    (run w arguments).failure = none := by
  unfold run
  rw [h]

theorem run_of_run (h : CommandLine.read arguments = .run o) :
    run w arguments = runOptions w o := by
  unfold run
  rw [h]

theorem failure_of_run (h : CommandLine.read arguments = .run o) :
    (run w arguments).failure = (runOptions w o).failure :=
  congrArg Report.failure (run_of_run h)

theorem runOptions_of_error (h : settings w.files o = .error e) :
    (runOptions w o).failure = some e := by
  unfold runOptions
  rw [h]

theorem runOptions_of_fails (hs : settings w.files o = .ok s) (h : Fails w o s e) :
    (runOptions w o).failure = some e := by
  unfold runOptions
  rw [hs]
  dsimp only
  rw [h.start_eq]

/-- Where nothing goes wrong, the script is run. -/
theorem exists_played_runOptions (hw : w.interruption = none) (hs : settings w.files o = .ok s)
    (hsetup : setup w s = .ok b) (hboard : Session.boardAt b 0 = .ok board)
    (hscript : script w.files o.script = .ok lines) :
    ∃ session t, Session.start b .inert = .ok session ∧ Played session (runOptions w o) t := by
  obtain ⟨session, hsession⟩ := exists_session hboard
  obtain ⟨t, hplayed⟩ := exists_played hw (.new s.logLevel s.logFormat) o s.tick session lines
  refine ⟨session, t, hsession, ?_⟩
  unfold runOptions
  rw [hs]
  dsimp only
  rw [start_eq_map hsetup hsession, hscript]
  exact hplayed.preceded .refl rfl (printed_logAll _ _)

/-- With a script that can be loaded, it depends only on the board whether the program fails. -/
theorem runOptions_of_script (hw : w.interruption = none) (hs : settings w.files o = .ok s)
    (hscript : script w.files o.script = .ok lines) :
    (runOptions w o).failure =
      match setup w s with
      | .error e => some e
      | .ok b =>
        match Session.boardAt b 0 with
        | .error e => some (.session e)
        | .ok _ => none := by
  rcases hsetup : setup w s with e | b
  · exact runOptions_of_fails hs (fails_of_setup hsetup)
  · dsimp only
    rcases hboard : Session.boardAt b 0 with e | board
    · exact runOptions_of_fails hs (.unbuilt hsetup hboard)
    · obtain ⟨session, t, -, hplayed⟩ := exists_played_runOptions hw hs hsetup hboard hscript
      exact hplayed.failure_eq

/-- How the program ends, and why. -/
inductive Ends (w : World) (arguments : List Text) : Option Failure → Prop where
  | help (hread : CommandLine.read arguments = .help) : Ends w arguments none
  | refused {e : CommandLine.UsageError} (hread : CommandLine.read arguments = .refused e) :
      Ends w arguments (some (.usage e))
  | unset {o : CommandLine.Options} {e : Failure} (hread : CommandLine.read arguments = .run o)
      (hs : settings w.files o = .error e) : Ends w arguments (some e)
  | fails {o : CommandLine.Options} {s : Settings} {e : Failure}
      (hread : CommandLine.read arguments = .run o) (hs : settings w.files o = .ok s)
      (h : Fails w o s e) : Ends w arguments (some e)
  | played {o : CommandLine.Options} {s : Settings} {b : Setup} {board : Board} {lines : List Text}
      (hread : CommandLine.read arguments = .run o) (hs : settings w.files o = .ok s)
      (hsetup : setup w s = .ok b) (hboard : Session.boardAt b 0 = .ok board)
      (hscript : script w.files o.script = .ok lines) : Ends w arguments none

theorem ends_run (hw : w.interruption = none) (arguments : List Text) :
    Ends w arguments (run w arguments).failure := by
  rcases hread : CommandLine.read arguments with o | _ | e
  · rw [run_of_run hread]
    rcases hs : settings w.files o with e | s
    · rw [runOptions_of_error hs]
      exact .unset hread hs
    · rcases fails_or_loads w o s with ⟨e, hfails⟩ | ⟨b, board, lines, hsetup, hboard, hscript⟩
      · rw [runOptions_of_fails hs hfails]
        exact .fails hread hs hfails
      · obtain ⟨session, t, -, hplayed⟩ := exists_played_runOptions hw hs hsetup hboard hscript
        rw [hplayed.failure_eq]
        exact .played hread hs hsetup hboard hscript
  · rw [run_of_help hread]
    exact .help hread
  · rw [run_of_refused hread]
    exact .refused hread

/-- What is printed where a script was run to its end. -/
theorem Played.printed_of_start {r : Report} {session t : Session}
    (hstart : Session.start b .inert = .ok session) (hboard : Session.boardAt b 0 = .ok board)
    (h : Played session r t) :
    (∃ p, lastLine p <:+ r.output ∧ board.inBounds p = true ∧ board.isObstacle p = false) ∧
      (¬ winPhrase <:+: r.output ∨ ∃ before after,
        r.output = before ++ winLine board.target ++ after ∧
          ∀ before' after', r.output = before' ++ winPhrase ++ after' → before' = before) := by
  have hfresh := Session.fresh_of_start hstart
  have hinert : ¬ session.onWin ≠ .inert := not_not_intro hfresh.onWin_eq
  obtain rfl : board = session.board := Except.ok.inj (hboard.symm.trans hfresh.boardAt_eq)
  have hwins : session.wins = [] := Session.wins_of_start hstart
  have hwon : Session.WonOnce session.board t :=
    h.turns.wonOnce hinert ⟨.refl _, .inl ⟨hfresh.won_eq, hwins⟩⟩
  have hannounces := h.announces
  rw [hwins, List.length_nil, List.drop_zero] at hannounces
  constructor
  · have hvalid : t.board.Valid := h.turns.valid hfresh.valid
    refine ⟨t.board.robot, h.ends, ?_, ?_⟩
    · rw [Board.inBounds, ← hwon.ground.size_eq]
      exact hvalid.robot_inBounds
    · have hfree := Board.isObstacle_of_isFree hvalid.isFree_robot
      rwa [Board.isObstacle, Board.inBounds, hwon.ground.size_eq, hwon.ground.cells_eq] at hfree
  · rcases hwon.wins with ⟨-, hnone⟩ | ⟨-, hone⟩
    · rw [hnone] at hannounces
      exact .inl hannounces.not_isInfix
    · rw [hone] at hannounces
      exact .inr hannounces.exists_only

/-- How the program ends when nobody interrupts it, wherever the session clock ticks. It ends with
code 2 exactly if the arguments are refused or there are no settings, and with another failure
exactly if something is wrong with the board file, the board or the script, in this order. In every
other case it does not fail, and it is all the same what commands the script has. Where a script was
run, the last line tells of a place on the board without an obstacle, and a win is told of at most
once, as one at the target. -/
theorem exit_behaviour (hw : w.interruption = none) (arguments : List Text) :
    let r := run w arguments
    (∀ e, r.failure = some e ∧ e.code = 2 ↔
        (∃ u, CommandLine.read arguments = .refused u ∧ e = .usage u) ∨
          ∃ o, CommandLine.read arguments = .run o ∧ settings w.files o = .error e) ∧
      (∀ e, r.failure = some e ∧ e.code ≠ 2 ↔ ∃ o s, CommandLine.read arguments = .run o ∧
        settings w.files o = .ok s ∧ Fails w o s e) ∧
      (r.failure = none ↔ CommandLine.read arguments = .help ∨
        ∃ o s b board lines, CommandLine.read arguments = .run o ∧ settings w.files o = .ok s ∧
          setup w s = .ok b ∧ Session.boardAt b 0 = .ok board ∧
          script w.files o.script = .ok lines) ∧
      (∀ w' o s lines lines', w'.interruption = none → CommandLine.read arguments = .run o →
        settings w.files o = .ok s → settings w'.files o = .ok s → setup w' s = setup w s →
        script w.files o.script = .ok lines → script w'.files o.script = .ok lines' →
        (run w' arguments).failure = r.failure) ∧
      ∀ o s b board, CommandLine.read arguments = .run o → settings w.files o = .ok s →
        setup w s = .ok b → Session.boardAt b 0 = .ok board → r.failure = none →
        (∃ p, lastLine p <:+ r.output ∧ board.inBounds p = true ∧ board.isObstacle p = false) ∧
        (¬ winPhrase <:+: r.output ∨ ∃ before after,
          r.output = before ++ winLine board.target ++ after ∧
            ∀ before' after', r.output = before' ++ winPhrase ++ after' → before' = before) := by
  intro r
  have hends : Ends w arguments r.failure := ends_run hw arguments
  refine ⟨fun e => ⟨?_, ?_⟩, fun e => ⟨?_, ?_⟩, ⟨?_, ?_⟩, ?_, ?_⟩
  · rintro ⟨hfailure, hcode⟩
    rw [hfailure] at hends
    cases hends with
    | refused hread => exact .inl ⟨_, hread, rfl⟩
    | unset hread hs => exact .inr ⟨_, hread, hs⟩
    | fails hread hs h => rw [h.code_eq] at hcode; cases hcode
  · rintro (⟨u, hread, rfl⟩ | ⟨o, hread, hs⟩)
    · exact ⟨run_of_refused hread, rfl⟩
    · exact ⟨(failure_of_run hread).trans (runOptions_of_error hs), code_of_settings hs⟩
  · rintro ⟨hfailure, hcode⟩
    rw [hfailure] at hends
    cases hends with
    | refused hread => exact absurd rfl hcode
    | unset hread hs => exact absurd (code_of_settings hs) hcode
    | fails hread hs h => exact ⟨_, _, hread, hs, h⟩
  · rintro ⟨o, s, hread, hs, h⟩
    exact ⟨(failure_of_run hread).trans (runOptions_of_fails hs h), by rw [h.code_eq]; decide⟩
  · intro hfailure
    rw [hfailure] at hends
    cases hends with
    | help hread => exact .inl hread
    | played hread hs hsetup hboard hscript =>
      exact .inr ⟨_, _, _, _, _, hread, hs, hsetup, hboard, hscript⟩
  · rintro (hread | ⟨o, s, b, board, lines, hread, hs, hsetup, hboard, hscript⟩)
    · exact run_of_help hread
    · obtain ⟨session, t, -, hplayed⟩ := exists_played_runOptions hw hs hsetup hboard hscript
      exact (failure_of_run hread).trans hplayed.failure_eq
  · intro w' o s lines lines' hw' hread hs hs' hsetup hscript hscript'
    calc (run w' arguments).failure = (runOptions w' o).failure := failure_of_run hread
      _ = (runOptions w o).failure := by
        rw [runOptions_of_script hw' hs' hscript', runOptions_of_script hw hs hscript, hsetup]
      _ = r.failure := (failure_of_run hread).symm
  · intro o s b board hread hs hsetup hboard hfailure
    have hrun : r = runOptions w o := run_of_run hread
    rw [hrun] at hfailure ⊢
    rcases fails_or_loads w o s with ⟨e, hfails⟩ | ⟨-, -, lines, -, -, hscript⟩
    · rw [runOptions_of_fails hs hfails] at hfailure
      cases hfailure
    · obtain ⟨session, t, hstart, hplayed⟩ :=
        exists_played_runOptions hw hs hsetup hboard hscript
      exact hplayed.printed_of_start hstart hboard

/-- A script with a command that fails, drawn line by line while the clock ticks once before each
line. -/
theorem exit_behaviour_of_failing_command :
    let files := Files.ofList [
      (Text.ofString "board", .ok (.file (Text.ofString "SIZE 3\nTARGET 0 2\n"))),
      (Text.ofString "script",
        .ok (.file (Text.ofString "MOVER DIREITA 1\nVOAR\nMOVER DIREITA 1\n")))]
    let r := run ⟨files, 0, fun _ => [], none, fun _ _ => 1⟩
      (["-board", "board", "-render", "script"].map Text.ofString)
    r.failure = none ∧ ∃ board : Board, ∃ p,
      lastLine p <:+ r.output ∧ board.inBounds p = true ∧ board.isObstacle p = false := by
  intro files r
  have hread : CommandLine.read
      (["-board", "board", "-render", "script"].map Text.ofString) ≠ .help := by
    decide +kernel
  have hfailure : r.failure = none := by
    dsimp only [r, files]
    exact Option.isNone_iff_eq_none.1 (by decide +kernel)
  obtain ⟨-, -, hended, -, hprinted⟩ :=
    exit_behaviour (w := ⟨files, 0, fun _ => [], none, fun _ _ => 1⟩) rfl
      (["-board", "board", "-render", "script"].map Text.ofString)
  obtain hhelp | ⟨o, s, b, board, lines, hrun, hs, hsetup, hboard, -⟩ := hended.1 hfailure
  · exact absurd hhelp hread
  · exact ⟨hfailure, board, (hprinted o s b board hrun hs hsetup hboard hfailure).1⟩

end Program

end GridRobot
