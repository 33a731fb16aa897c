import GridRobot.Proofs.Callbacks
import GridRobot.Proofs.Turns

/-!
# One report to a failure

A line may pass many conditions, each with its message, before it fails. Its failure is reported
then, as the last thing that the line says, and nothing else that it says is an error
(`Game.Reported`). So a script that is run at once adds as many errors to the transcript as lines
have failed (`Game.reports_runDirectBy`). Wins may be followed by any callback that says nothing
itself (`Game.Silent`).
-/

namespace GridRobot

namespace Session

variable {s t u : Session} {m n : Nat}

/-- From one state to another a session has added this many errors to its transcript, besides
ordinary messages. -/
def Reports (errors : Nat) (s t : Session) : Prop :=
  ∃ said, t.transcript = s.transcript ++ said ∧ said.countP (·.isError) = errors

theorem reports_of_eq (h : t.transcript = s.transcript) : Reports 0 s t :=
  ⟨[], by rw [h, List.append_nil], rfl⟩

theorem Reports.trans (hst : Reports m s t) (htu : Reports n t u) : Reports (m + n) s u := by
  obtain ⟨said, hsaid, rfl⟩ := hst
  obtain ⟨more, hmore, rfl⟩ := htu
  refine ⟨said ++ more, ?_, List.countP_append⟩
  rw [hmore, hsaid, List.append_assoc]

theorem reports_log (s : Session) (message : Text) (isError : Bool) :
    Reports isError.toNat s (s.log message isError) := by
  refine ⟨_, s.transcript_log message isError, ?_⟩
  cases isError <;> rfl

theorem reports_checkWin (hinert : s.onWin = .inert) : Reports 0 s s.checkWin.2 := by
  rw [checkWin_of_inert hinert]
  split_ifs
  · exact ⟨_, s.transcript_win, rfl⟩
  · exact reports_of_eq rfl

theorem Reports.forall_ordinary (h : Reports 0 s t) :
    ∃ said, t.transcript = s.transcript ++ said ∧ ∀ entry ∈ said, entry.isError = false := by
  obtain ⟨said, hsaid, hnone⟩ := h
  refine ⟨said, hsaid, fun entry hentry => ?_⟩
  simpa using List.countP_eq_zero.1 hnone entry hentry

end Session

namespace Game

open Session (Reports)

variable {α : Type} {act : Game → Game} {g h k : Game}

/-- Where wins leave the session alone, they still do so, and only ordinary messages were said. -/
def Untroubled (g h : Game) : Prop :=
  g.session.onWin = .inert → h.session.onWin = .inert ∧ Reports 0 g.session h.session

theorem Untroubled.trans (hgh : Untroubled g h) (hhk : Untroubled h k) : Untroubled g k := by
  intro hinert
  obtain ⟨hinert', hsaid⟩ := hgh hinert
  obtain ⟨hinert'', hmore⟩ := hhk hinert'
  exact ⟨hinert'', hsaid.trans hmore⟩

theorem untroubled_say (g : Game) (message : Text) : Untroubled g (g.say message) :=
  fun hinert => ⟨hinert, g.session.reports_log message false⟩

theorem untroubled_start (g : Game) : Untroubled g g.start := by
  intro hinert
  unfold start
  split
  · exact ⟨hinert, Session.reports_of_eq rfl⟩
  · split_ifs
    · exact ⟨hinert, Session.reports_of_eq (g.session.transcript_debug _ _)⟩
    · exact ⟨hinert, g.session.reports_log startMessage false⟩

theorem orderly_untroubled : Orderly Untroubled where
  refl _ hinert := ⟨hinert, Session.reports_of_eq rfl⟩
  trans := Untroubled.trans
  say g message _ := g.untroubled_say message
  assign _ _ _ hinert := ⟨hinert, Session.reports_of_eq rfl⟩
  move _ hinert := ⟨hinert, Session.reports_of_eq rfl⟩
  checkWin g hinert := ⟨g.session.turns_checkWin.setup_eq.2.trans hinert,
    Session.reports_checkWin hinert⟩
  start := untroubled_start

/-! ## Lines -/

/-- A callback that says nothing and leaves in place what is done about wins. -/
structure Silent (act : Game → Game) : Prop where
  transcript_eq : ∀ g, (act g).session.transcript = g.session.transcript
  onWin_eq : ∀ g, (act g).session.onWin = g.session.onWin

theorem Silent.calling (hact : Silent act) {outcome : α × Game} (h : Untroubled g outcome.2) :
    Untroubled g (calling act g outcome).2 := by
  rcases calling_cases act g outcome with hsame | hcalled
  · rw [hsame]
    exact h
  · rw [hcalled]
    refine h.trans fun hinert => ⟨(hact.onWin_eq _).trans hinert, ?_⟩
    exact Session.reports_of_eq (hact.transcript_eq _)

theorem Silent.ordinary (hact : Silent act) : (interpreter act).Ordinary Untroubled where
  refl := orderly_untroubled.refl
  trans := Untroubled.trans
  evaluate g condition expected :=
    hact.calling (orderly_untroubled.evalCondition g condition expected)
  execute g words := hact.calling (orderly_untroubled.ending (g.ending_execute words))
  say := untroubled_say

/-- If an outcome is a failure, it was reported as an error after ordinary messages, and otherwise
there was no error. -/
def Reported (g : Game) : Outcome → Prop
  | (.ok (), h) => Reports 0 g.session h.session
  | (.error e, h) => ∃ s, Reports 0 g.session s ∧
    h.session.transcript = s.transcript ++ [⟨e.message, true, h.session.number⟩]

theorem Silent.interpret (hact : Silent act) (hinert : g.session.onWin = .inert) (line : Text) :
    ((interpreter act).interpret line g).2.session.onWin = .inert ∧
      Reported g ((interpreter act).interpret line g) := by
  obtain ⟨hinert', hsaid⟩ := hact.ordinary.runLine (maxNesting + 1) line g hinert
  unfold Interpreter.interpret
  generalize (interpreter act).runLine (maxNesting + 1) line g = outcome at hinert' hsaid
  rcases outcome with ⟨e | ⟨⟩, h⟩
  · exact ⟨hinert', h.session, hsaid, h.session.transcript_log e.message true⟩
  · exact ⟨hinert', hsaid⟩

/-! ## Scripts -/

/-- How many failures an outcome is. -/
def failures : Outcome → Nat
  | (.ok (), _) => 0
  | (.error _, _) => 1

theorem Reported.reports {outcome : Outcome} (h : Reported g outcome) :
    Reports (failures outcome) g.session outcome.2.session := by
  rcases outcome with ⟨e | ⟨⟩, k⟩
  · obtain ⟨s, hsaid, hlast⟩ := h
    have herror : Reports 1 s k.session := ⟨_, hlast, rfl⟩
    exact hsaid.trans herror
  · exact h

theorem Silent.handWith (hact : Silent act) (hinert : g.session.onWin = .inert) (line : Text) :
    (g.handWith act line).2.session.onWin = .inert ∧
      Reports (failures (g.handWith act line)) g.session (g.handWith act line).2.session := by
  obtain ⟨hinert', hreported⟩ := hact.interpret hinert line
  have hsaid := hreported.reports
  unfold Game.handWith
  generalize (interpreter act).interpret line g = outcome at hinert' hsaid
  rcases outcome with ⟨e | ⟨⟩, h⟩ <;> exact ⟨hinert', hsaid⟩

/-- A script that is run at once adds an error to the transcript for each line that fails. -/
theorem reports_runDirectBy (hact : Silent act) (hinert : g.session.onWin = .inert)
    (lines : List Text) :
    Reports (g.runDirectBy (Game.handWith act) lines).1 g.session
      (g.runDirectBy (Game.handWith act) lines).2.session := by
  induction lines generalizing g with
  | nil => exact Session.reports_of_eq rfl
  | cons line rest ih =>
    rw [runDirectBy]
    split_ifs
    · exact Session.reports_of_eq rfl
    · exact ih hinert
    · obtain ⟨hinert', hsaid⟩ := hact.handWith hinert line.trim
      generalize g.handWith act line.trim = outcome at hinert' hsaid
      rcases outcome with ⟨e | ⟨⟩, h⟩
      · have hall := hsaid.trans (ih hinert')
        rwa [Nat.add_comm] at hall
      · simpa only [failures, Nat.zero_add] using hsaid.trans (ih hinert')

end Game

/-- A failure is reported exactly once, whatever callback follows wins, as long as it says nothing.
A line that fails adds its failure to the transcript as an error, at the end and after ordinary
messages only, and a line that succeeds adds no error. A script that is run at once adds as many
errors as lines have failed. What was in the transcript before stays in front of all this. Without
a callback these are the lines and scripts of a game. -/
theorem failure_reported_once {act : Game → Game} (hact : Game.Silent act) {g : Game}
    (hinert : g.session.onWin = .inert) :
    (∀ line e h, (Game.interpreter act).interpret line g = (.error e, h) →
      ∃ said, h.session.transcript =
          g.session.transcript ++ said ++ [⟨e.message, true, h.session.number⟩] ∧
        ∀ entry ∈ said, entry.isError = false) ∧
    (∀ line h, (Game.interpreter act).interpret line g = (.ok (), h) →
      ∃ said, h.session.transcript = g.session.transcript ++ said ∧
        ∀ entry ∈ said, entry.isError = false) ∧
    (∀ lines failed h, g.runDirectBy (Game.handWith act) lines = (failed, h) →
      ∃ said, h.session.transcript = g.session.transcript ++ said ∧
        said.countP (·.isError) = failed) ∧
    (∀ line, g.interpret line = (Game.interpreter id).interpret line g) ∧
    ∀ lines, g.runDirect lines = g.runDirectBy (Game.handWith id) lines := by
  refine ⟨fun line e h hfail => ?_, fun line h hok => ?_, fun lines failed h hrun => ?_,
    g.interpret_eq, fun lines => ?_⟩
  · have hreported := (hact.interpret hinert line).2
    rw [hfail] at hreported
    obtain ⟨s, hsaid, hlast⟩ := hreported
    obtain ⟨said, hs, hordinary⟩ := hsaid.forall_ordinary
    exact ⟨said, by rw [hlast, hs], hordinary⟩
  · have hreported := (hact.interpret hinert line).2
    rw [hok] at hreported
    exact hreported.forall_ordinary
  · have hreports := Game.reports_runDirectBy hact hinert lines
    rw [hrun] at hreports
    exact hreports
  · rw [Game.handWith_id, Game.runDirectBy_hand]

/-- The callback sets the variable that the command after it asks for, and the move leads off the
board. -/
theorem nested_failure_reported_once :
    let act : Game → Game := fun g =>
      { g with session := { g.session with env := g.session.env.set (Text.ofString "n") 2 } }
    let line := Text.ofString "SE OBSTACULO BAIXO SE ROBO META MOVER DIREITA n"
    ∃ s, Session.start (.fixed ⟨2, ⟨0, 0⟩, ⟨0, 0⟩, [⟨1, 0⟩]⟩) .inert = .ok s ∧
      ∃ h, (Game.interpreter act).interpret line (.ofSession s) = (.error .outOfBounds, h) ∧
        ∃ said, h.session.transcript =
            said ++ [⟨Text.ofString "Movimento fora do tabuleiro!", true, 1⟩] ∧
          said.length = 3 ∧ ∀ entry ∈ said, entry.isError = false := by
  intro act line
  have hs : Session.start (.fixed ⟨2, ⟨0, 0⟩, ⟨0, 0⟩, [⟨1, 0⟩]⟩) .inert = .ok _ := rfl
  refine ⟨_, hs, ?_⟩
  generalize hg : Game.ofSession _ = g
  have hout : (match ((Game.interpreter act).interpret line g).1 with
        | .error e => e = .outOfBounds
        | .ok _ => false) = true ∧
      ((Game.interpreter act).interpret line g).2.session.number = 1 ∧
      ((Game.interpreter act).interpret line g).2.session.transcript.length = 4 := by
    rw [← hg]
    decide +kernel
  rcases hrun : (Game.interpreter act).interpret line g with ⟨e | ⟨⟩, h⟩
  · rw [hrun] at hout
    obtain ⟨he, hnumber, hlength⟩ := hout
    obtain rfl : e = .outOfBounds := of_decide_eq_true he
    have hact : Game.Silent act := ⟨fun _ => rfl, fun _ => rfl⟩
    obtain ⟨said, hsaid, hordinary⟩ :=
      (failure_reported_once hact (by rw [← hg]; rfl)).1 line _ h hrun
    have hnone : g.session.transcript = [] := by rw [← hg]; rfl
    rw [hnumber, hnone] at hsaid
    refine ⟨h, rfl, said, hsaid, ?_, hordinary⟩
    simpa [hsaid] using hlength
  · rw [hrun] at hout
    cases hout.1

end GridRobot
