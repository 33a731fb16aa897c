import GridRobot.Proofs.Callbacks
import GridRobot.Proofs.Effects
import GridRobot.Proofs.Reading
import Mathlib.Data.List.Forall2

/-!
# Variables and their values

A command reads its operand as a literal or as the name of a variable, and each command does so in a
way of its own: setting a variable takes a name that was never set for zero, moving does not. Where
a name has a value, its decimal text can stand in its place (`Env.evaluate_of_get?`,
`Game.steps_of_get?`), since numbers are read as they are written.

On a line the command comes after any number of conditions (`Clause`). While they are passed the
name keeps its value, as long as wins leave the session alone, and all that tells the two lines
apart is the action that is quoted for each condition that holds (`Note.Requotes`). The simulation
is `Session.Requoted`, carried over the words of the line by `Game.requoted_runWords`.
-/

namespace GridRobot

/-! ## Operands -/

namespace Text

theorem isDigit_of_isBlank {b : UInt8} (hb : isBlank b = true) : isDigit b = false ∧ b ≠ 45 := by
  simp [isBlank, isDigit, UInt8.le_iff_toNat_le, ← UInt8.toNat_inj] at hb ⊢
  omega

theorem isWord_ofInt64 (n : Int64) : IsWord (ofInt64 n) := by
  constructor
  · unfold ofInt64 ofInt
    split
    · exact ofNat_ne_nil _
    · simp
  · intro b hb
    by_contra hblank
    obtain ⟨hdigit, hsign⟩ := isDigit_of_isBlank (by simpa using hblank)
    exact notMem_ofInt hdigit hsign n.toInt hb

end Text

namespace Env

variable {env : Env} {v : Text} {n : Int64}

theorem evaluate_ofInt64 (env : Env) (n : Int64) : env.evaluate (Text.ofInt64 n) = n := by
  simp [evaluate, Text.readDecimal?_ofInt64]

theorem evaluate_of_get? (hname : Text.readDecimal? v = none) (hget : env.get? v = some n) :
    env.evaluate v = n := by
  simp [evaluate, hname, hget]

theorem evaluate_of_unset (hname : Text.readDecimal? v = none) (hget : env.get? v = none) :
    env.evaluate v = 0 := by
  simp [evaluate, hname, hget]

end Env

/-- A word has a value as the operand of a command: that of the variable of this name, or zero where
a variable is to be set to one that has none. -/
inductive Operand (env : Env) (command v : Text) (n : Int64) : Prop where
  | set (hcommand : command.upper = Keyword.var.word ∨ command.upper = Keyword.move.word)
      (hget : env.get? v = some n)
  | unset (hcommand : command.upper = Keyword.var.word) (hget : env.get? v = none) (hzero : n = 0)

theorem Keyword.ofWord_word (k : Keyword) : ofWord k.word = k := by
  cases k <;> decide

namespace Game

variable {g : Game} {command v : Text} {n : Int64}

theorem steps_ofInt64 (g : Game) (n : Int64) : g.steps (Text.ofInt64 n) = .ok n := by
  simp [steps, Text.readDecimal?_ofInt64]

theorem steps_of_get? (hname : Text.readDecimal? v = none) (hget : g.session.env.get? v = some n) :
    g.steps v = .ok n := by
  simp [steps, hname, hget]

theorem execute_var (hcommand : command.upper = Keyword.var.word) (g : Game) (args : List Text) :
    g.execute (command :: args) = g.execVar args := by
  simp [execute, Command.ofWords, hcommand, Keyword.ofWord_word]

theorem execute_move (hcommand : command.upper = Keyword.move.word) (g : Game) (args : List Text) :
    g.execute (command :: args) = g.execMove args := by
  simp [execute, Command.ofWords, hcommand, Keyword.ofWord_word]

theorem execMove_of_steps (hsteps : g.steps v = .ok n) (direction : Text) (rest : List Text) :
    g.execMove (direction :: v :: rest) = g.moveRobot direction n := by
  simp [execMove, hsteps]

end Game

/-! ## Journals that quote other actions -/

/-- The same note, but for the action that is quoted after a condition that holds: where the first
has one word, the second has another. -/
inductive Note.Requotes (v w : Text) : Note → Note → Prop where
  | same (n : Note) : Requotes v w n n
  | action (session : Nat) (condition expected : Text) (before after : List Text) :
      Requotes v w
        (.console session (Game.metMessage condition expected
          (Text.join [32] (before ++ v :: after))) false)
        (.console session (Game.metMessage condition expected
          (Text.join [32] (before ++ w :: after))) false)

namespace Session

variable {v w : Text} {told : List Note} {s t : Session}

/-- The same session with another journal, which quotes other actions since a given journal. -/
def Requoted (v w : Text) (told : List Note) (s t : Session) : Prop :=
  ∃ notes notes', s.journal = told ++ notes ∧ t = { s with journal := told ++ notes' } ∧
    List.Forall₂ (Note.Requotes v w) notes notes'

theorem Requoted.refl (v w : Text) (s : Session) : Requoted v w s.journal s s :=
  ⟨[], [], by simp, by simp, .nil⟩

theorem Requoted.note (h : Requoted v w told s t) {m m' : Note} (hm : Note.Requotes v w m m') :
    Requoted v w told (s.note m) (t.note m') := by
  obtain ⟨notes, notes', hs, rfl, hnotes⟩ := h
  refine ⟨notes ++ [m], notes' ++ [m'], ?_, ?_, List.rel_append hnotes (.cons hm .nil)⟩
  · simp [Session.note, hs]
  · simp [Session.note]

theorem Requoted.number_eq (h : Requoted v w told s t) : t.number = s.number := by
  obtain ⟨notes, notes', -, rfl, -⟩ := h
  rfl

theorem Requoted.log (h : Requoted v w told s t) (message : Text) (isError : Bool) :
    Requoted v w told (s.log message isError) (t.log message isError) := by
  unfold Session.log
  rw [h.number_eq]
  exact h.note (.same _)

theorem Requoted.quote (h : Requoted v w told s t) (condition expected : Text)
    (before after : List Text) :
    Requoted v w told
      (s.log (Game.metMessage condition expected (Text.join [32] (before ++ v :: after))) false)
      (t.log (Game.metMessage condition expected (Text.join [32] (before ++ w :: after)))
        false) := by
  unfold Session.log
  rw [h.number_eq]
  exact h.note (.action s.number condition expected before after)

theorem Requoted.assign (h : Requoted v w told s t) (env : Env) :
    Requoted v w told { s with env } { t with env } := by
  obtain ⟨notes, notes', hs, rfl, hnotes⟩ := h
  exact ⟨notes, notes', hs, rfl, hnotes⟩

theorem Requoted.place (h : Requoted v w told s t) (board : Board) :
    Requoted v w told { s with board } { t with board } := by
  obtain ⟨notes, notes', hs, rfl, hnotes⟩ := h
  exact ⟨notes, notes', hs, rfl, hnotes⟩

theorem Requoted.win (h : Requoted v w told s t) : Requoted v w told s.win t.win := by
  have hwon : Requoted v w told { s with won := true } { t with won := true } := by
    obtain ⟨notes, notes', hs, rfl, hnotes⟩ := h
    exact ⟨notes, notes', hs, rfl, hnotes⟩
  obtain ⟨notes, notes', hs, ht, hnotes⟩ := hwon.log winMessage false
  refine ⟨notes, notes', hs, ?_, hnotes⟩
  unfold Session.win say
  rw [ht]

theorem Requoted.checkWin (h : Requoted v w told s t) (hpolicy : s.onWin = .inert) :
    Requoted v w told s.checkWin.2 t.checkWin.2 := by
  have hstate : t.onWin = s.onWin ∧ t.board = s.board ∧ t.won = s.won := by
    obtain ⟨notes, notes', -, rfl, -⟩ := h
    exact ⟨rfl, rfl, rfl⟩
  rw [checkWin_of_inert hpolicy, checkWin_of_inert (hstate.1.trans hpolicy), hstate.2.1,
    hstate.2.2]
  split_ifs
  · exact h.win
  · exact h

end Session

namespace Game

open Session (Requoted)

variable {act : Game → Game} {told : List Note} {v w : Text} {g h : Game}

/-- Games whose sessions are the same but for the actions that their journals quote. -/
abbrev Requoting (v w : Text) (told : List Note) (g h : Game) : Prop :=
  Requoted v w told g.session h.session

theorem requoted_frame (hgh : Requoting v w told g h) : h.session.board = g.session.board ∧
    h.session.env = g.session.env ∧ h.session.wins = g.session.wins := by
  obtain ⟨notes, notes', -, hs, -⟩ := hgh
  rw [hs]
  exact ⟨rfl, rfl, rfl⟩

/-! ## Conditions -/

theorem requoted_evalCondition (hgh : Requoting v w told g h) (hpolicy : g.session.onWin = .inert)
    (condition expected : Text) : Agree (Requoting v w told) (g.evalCondition condition expected)
      (h.evalCondition condition expected) := by
  unfold evalCondition
  rw [(requoted_frame hgh).1]
  dsimp only
  split_ifs
  · split <;> exact ⟨rfl, hgh⟩
  · exact ⟨rfl, hgh.checkWin hpolicy⟩
  · exact ⟨rfl, hgh⟩
  · exact ⟨rfl, hgh⟩

/-- A callback that leaves the session alone is called in both games or in none. -/
theorem requoted_calling (hact : ∀ g, (act g).session = g.session)
    (hgh : Requoting v w told g h) {α : Type} {x y : α × Game}
    (hxy : Agree (Requoting v w told) x y) :
    Agree (Requoting v w told) (calling act g x) (calling act h y) := by
  refine Parallel.calling (fun hgames => ?_) (fun {g h} hgames => ?_) hgh hxy
  · rw [(requoted_frame hgames).2.2]
  · unfold Requoting
    rw [hact g, hact h]
    exact hgames

/-- Conditions leave the variables alone, and the policy for wins too. -/
theorem evaluate_frame (hact : ∀ g, (act g).session = g.session)
    (hpolicy : g.session.onWin = .inert) (condition expected : Text) :
    let h := ((interpreter act).evaluate g condition expected).2
    h.session.env = g.session.env ∧ h.session.onWin = .inert := by
  have hwin := (winOnly_evalCondition hpolicy condition expected).session
  have hsession : ((interpreter act).evaluate g condition expected).2.session =
      (g.evalCondition condition expected).2.session := by
    rcases calling_cases act g (g.evalCondition condition expected) with hsame | hcalled
    · exact congrArg (fun outcome => outcome.2.session) hsame
    · exact (congrArg (fun outcome => outcome.2.session) hcalled).trans (hact _)
  dsimp only
  rw [hsession]
  refine ⟨?_, hwin.onWin_eq.trans hpolicy⟩
  rw [hwin.frame]

/-! ## Commands -/

theorem requoted_execVar (hgh : Requoting v w told g h) (name : Text) (rest : List Text)
    (hvalue : g.session.env.evaluate v = g.session.env.evaluate w) :
    Agree (Requoting v w told) (g.execVar (name :: v :: rest)) (h.execVar (name :: w :: rest)) := by
  unfold execVar
  rw [(requoted_frame hgh).2.1]
  dsimp only
  rw [hvalue]
  exact ⟨rfl, (hgh.assign _).log _ false⟩

theorem requoted_moveRobot (hgh : Requoting v w told g h) (hpolicy : g.session.onWin = .inert)
    (direction : Text) (n : Int64) :
    Agree (Requoting v w told) (g.moveRobot direction n) (h.moveRobot direction n) := by
  unfold moveRobot
  rw [(requoted_frame hgh).1]
  split
  · exact ⟨rfl, hgh⟩
  · split
    · exact ⟨rfl, hgh⟩
    · next board _ => exact ⟨rfl, ((hgh.place board).log _ false).checkWin hpolicy⟩

theorem requoted_execute {command first : Text} {n : Int64}
    (hgh : Requoting v (Text.ofInt64 n) told g h) (hpolicy : g.session.onWin = .inert)
    (hname : Text.readDecimal? v = none)
    (hvalue : Operand g.session.env command v n) (rest : List Text) :
    Agree (Requoting v (Text.ofInt64 n) told) (g.execute (command :: first :: v :: rest))
      (h.execute (command :: first :: Text.ofInt64 n :: rest)) := by
  have hliteral := g.session.env.evaluate_ofInt64 n
  cases hvalue with
  | set hcommand hget =>
    rcases hcommand with hvar | hmove
    · rw [execute_var hvar, execute_var hvar]
      exact requoted_execVar hgh first rest
        ((Env.evaluate_of_get? hname hget).trans hliteral.symm)
    · rw [execute_move hmove, execute_move hmove, execMove_of_steps (steps_of_get? hname hget),
        execMove_of_steps (h.steps_ofInt64 n)]
      exact requoted_moveRobot hgh hpolicy first n
  | unset hvar hget hzero =>
    subst hzero
    rw [execute_var hvar, execute_var hvar]
    exact requoted_execVar hgh first rest
      ((Env.evaluate_of_unset hname hget).trans hliteral.symm)

end Game

/-! ## Lines -/

/-- A condition in front of an action: the keyword, in any letter case, with the condition and what
is expected of it. -/
structure Clause where
  keyword : Text
  condition : Text
  expected : Text
  keyword_eq : keyword.upper = Keyword.cond.word

/-- The words of a clause. -/
def Clause.words (c : Clause) : List Text :=
  [c.keyword, c.condition, c.expected]

namespace Interpreter

variable {σ : Type} (m : Interpreter σ)

/-- How words go on after a clause at their start. -/
theorem runWords_clause (held : Nat) (c : Clause) {action : List Text} (haction : action ≠ [])
    {s t : σ} {x : Except CommandError Bool}
    (heval : m.evaluate s c.condition.upper c.expected.upper = (x, t)) :
    m.runWords held (c.words ++ action) s =
      if maxNesting < held then (.error .nestedTooDeep, s)
      else
        match x with
        | .error e => (.error e, t)
        | .ok false =>
          (.ok (), m.log t (Game.unmetMessage c.condition.upper c.expected.upper) false)
        | .ok true => m.runWords (held + 1) action
          (m.log t (Game.metMessage c.condition.upper c.expected.upper (Text.join [32] action))
            false) := by
  obtain ⟨word, rest, rfl⟩ := List.exists_cons_of_ne_nil haction
  have hwords : c.words ++ word :: rest =
    c.keyword :: c.condition :: c.expected :: word :: rest := rfl
  rw [runWords.eq_def, hwords]
  split_ifs
  · rfl
  · refine (if_pos c.keyword_eq).trans ?_
    dsimp only
    rw [heval]
    rcases x with e | _ | _ <;> rfl

/-- A command that is no condition is executed. -/
theorem runWords_command {held : Nat} (hheld : ¬ maxNesting < held) {command : Text}
    (hcommand : command.upper ≠ Keyword.cond.word) (args : List Text) (s : σ) :
    m.runWords held (command :: args) s = m.execute s (command :: args) := by
  rw [runWords.eq_def, if_neg hheld]
  exact if_neg hcommand

end Interpreter

theorem Operand.command_ne {env : Env} {command v : Text} {n : Int64}
    (h : Operand env command v n) : command.upper ≠ Keyword.cond.word := by
  have hwords : Keyword.var.word ≠ Keyword.cond.word ∧ Keyword.move.word ≠ Keyword.cond.word := by
    decide
  cases h with
  | set hcommand =>
    rcases hcommand with hvar | hmove
    · rw [hvar]
      exact hwords.1
    · rw [hmove]
      exact hwords.2
  | unset hvar =>
    rw [hvar]
    exact hwords.1

namespace Game

variable {act : Game → Game} {told : List Note} {g h : Game} {command first v : Text} {n : Int64}

/-- A clause before two actions, in two spellings of it: where the condition does the same in two
games and the actions do, so do the words as a whole. -/
theorem Agree.clause {R : Game → Game → Prop} (c c' : Clause)
    (hcondition : c'.condition.upper = c.condition.upper)
    (hexpected : c'.expected.upper = c.expected.upper) {action action' : List Text}
    (hne : action ≠ []) (hne' : action' ≠ []) {held : Nat} (hgh : R g h)
    (hlog : ∀ {g h}, R g h → ∀ message isError,
      R { g with session := g.session.log message isError }
        { h with session := h.session.log message isError })
    (heval : Agree R ((interpreter act).evaluate g c.condition.upper c.expected.upper)
      ((interpreter act).evaluate h c.condition.upper c.expected.upper))
    (haction : ∀ {g' h'},
      (interpreter act).evaluate g c.condition.upper c.expected.upper = (.ok true, g') → R g' h' →
      let met := metMessage c.condition.upper c.expected.upper
      Agree R
        ((interpreter act).runWords (held + 1) action
          { g' with session := g'.session.log (met (Text.join [32] action)) false })
        ((interpreter act).runWords (held + 1) action'
          { h' with session := h'.session.log (met (Text.join [32] action')) false })) :
    Agree R ((interpreter act).runWords held (c.words ++ action) g)
      ((interpreter act).runWords held (c'.words ++ action') h) := by
  obtain ⟨x, g', h', hg, hh, hgames⟩ := heval.exists_eq
  have hh' := hh
  rw [← hcondition, ← hexpected] at hh'
  rw [Interpreter.runWords_clause _ held c hne hg, Interpreter.runWords_clause _ held c' hne' hh',
    hcondition, hexpected]
  split_ifs
  · exact ⟨rfl, hgh⟩
  · rcases x with e | _ | _
    · exact ⟨rfl, hgames⟩
    · exact ⟨rfl, hlog hgames _ false⟩
    · exact haction hg hgames

/-- The words of a line do the same with a name as with its value. Every clause that holds quotes
the words after it, in which the one stands for the other. -/
theorem requoted_runWords (hact : ∀ g, (act g).session = g.session)
    (hname : Text.readDecimal? v = none) (rest : List Text) (clauses : List Clause) (held : Nat)
    (hgh : Requoting v (Text.ofInt64 n) told g h) (hpolicy : g.session.onWin = .inert)
    (hvalue : Operand g.session.env command v n) :
    Agree (Requoting v (Text.ofInt64 n) told)
      ((interpreter act).runWords held
        (clauses.flatMap Clause.words ++ command :: first :: v :: rest) g)
      ((interpreter act).runWords held
        (clauses.flatMap Clause.words ++ command :: first :: Text.ofInt64 n :: rest) h) := by
  induction clauses generalizing held g h with
  | nil =>
    by_cases hheld : maxNesting < held
    · rw [Interpreter.runWords_of_lt _ hheld, Interpreter.runWords_of_lt _ hheld]
      exact ⟨rfl, hgh⟩
    · rw [List.flatMap_nil, List.nil_append, List.nil_append,
        Interpreter.runWords_command _ hheld hvalue.command_ne,
        Interpreter.runWords_command _ hheld hvalue.command_ne]
      exact requoted_calling hact hgh (requoted_execute hgh hpolicy hname hvalue rest)
  | cons c clauses ih =>
    have heval : Agree (Requoting v (Text.ofInt64 n) told)
        ((interpreter act).evaluate g c.condition.upper c.expected.upper)
        ((interpreter act).evaluate h c.condition.upper c.expected.upper) :=
      requoted_calling hact hgh (requoted_evalCondition hgh hpolicy _ _)
    obtain ⟨henv, hpolicy'⟩ := evaluate_frame hact hpolicy c.condition.upper c.expected.upper
    have hwords (u : Text) : clauses.flatMap Clause.words ++ command :: first :: u :: rest =
        (clauses.flatMap Clause.words ++ [command, first]) ++ u :: rest := by
      simp
    rw [List.flatMap_cons, List.append_assoc, List.append_assoc]
    refine Agree.clause c c rfl rfl (by simp) (by simp) hgh
      (fun hgames message isError => hgames.log message isError) heval fun hg hgames => ?_
    rw [hg] at henv hpolicy'
    refine ih (held + 1) ?_ hpolicy' ?_
    · have hquote := hgames.quote c.condition.upper c.expected.upper
        (clauses.flatMap Clause.words ++ [command, first]) rest
      rwa [← hwords v, ← hwords (Text.ofInt64 n)] at hquote
    · exact henv.symm ▸ hvalue

theorem requoted_report {x y : Outcome} (hxy : Agree (Requoting v w told) x y) :
    Agree (Requoting v w told) ((interpreter act).report x) ((interpreter act).report y) := by
  exact hxy.report fun hgh message isError => hgh.log message isError

/-! ## A variable that was just set -/

theorem interpret_command {line : Text} {args : List Text} (hwords : line.words = command :: args)
    (hcommand : command.upper ≠ Keyword.cond.word) :
    (interpreter act).interpret line g =
      (interpreter act).report (calling act g (g.execute (command :: args))) := by
  rw [Interpreter.interpret_eq_interpretWords, hwords, Interpreter.interpretWords,
    Interpreter.runWords_command _ (by decide) hcommand]
  rfl

/-- Setting a variable counts no win, and so nothing is called. -/
theorem env_interpret_var {line name word : Text} {rest : List Text}
    (hwords : line.words = command :: name :: word :: rest)
    (hcommand : command.upper = Keyword.var.word) :
    ((interpreter act).interpret line g).2.session.env =
      g.session.env.set name (g.session.env.evaluate word) := by
  rw [interpret_command hwords (hcommand ▸ by decide), execute_var hcommand, calling, if_pos]
  · rfl
  · rfl

end Game

/-- The words around the second argument of a command that comes after clauses. -/
structure Usage where
  clauses : List Clause
  command : Text
  first : Text
  rest : List Text

/-- The words of a usage with its second argument. -/
def Usage.words (u : Usage) (v : Text) : List Text :=
  u.clauses.flatMap Clause.words ++ u.command :: u.first :: v :: u.rest

/-- A line goes on having the words of a usage when its second argument is replaced by a number. -/
theorem Usage.exists_words_eq {u : Usage} {v line : Text} (hline : line.words = u.words v)
    (n : Int64) : ∃ line' : Text, line'.words = u.words (Text.ofInt64 n) := by
  refine ⟨Text.join [32] (u.words (Text.ofInt64 n)), Text.words_join fun w hw => ?_⟩
  have hwords := Text.isWord_of_mem_words line
  rw [hline] at hwords
  unfold Usage.words at hwords hw
  simp only [List.mem_append, List.mem_cons] at hwords hw
  rcases hw with hw | rfl | rfl | rfl | hw
  · exact hwords w (.inl hw)
  · exact hwords _ (.inr (.inl rfl))
  · exact hwords _ (.inr (.inr (.inl rfl)))
  · exact Text.isWord_ofInt64 n
  · exact hwords w (.inr (.inr (.inr (.inr hw))))

/-- Where nothing that is done about a win touches the session, the name of a variable can be
replaced by the decimal text of its value: as the value that a variable is set to or the number of
steps of a move, after any number of conditions. The outcome is the same, be it a failure or not,
and so is the session but for the actions that its journal quotes, in which the value stands where
the name stood. Where a variable is set to one that has no value, zero can stand for it. So after a
variable is set to the value of a word, a move by the variable is a move by that value. -/
theorem variable_stands_for_value {act : Game → Game} (hact : ∀ g, (act g).session = g.session)
    {g : Game} (hpolicy : g.session.onWin = .inert) :
    (∀ (u : Usage) (v : Text) (n : Int64) (line : Text), Text.readDecimal? v = none →
      Operand g.session.env u.command v n → line.words = u.words v →
      (∃ line' : Text, line'.words = u.words (Text.ofInt64 n)) ∧
      ∀ line' : Text, line'.words = u.words (Text.ofInt64 n) →
        Game.Agree (Game.Requoting v (Text.ofInt64 n) g.session.journal)
          ((Game.interpreter act).interpret line g) ((Game.interpreter act).interpret line' g)) ∧
    ∀ (setting moving moving' var move name word direction : Text) (rest rest' : List Text),
      var.upper = Keyword.var.word → move.upper = Keyword.move.word →
      Text.readDecimal? name = none →
      setting.words = var :: name :: word :: rest →
      moving.words = move :: direction :: name :: rest' →
      moving'.words = move :: direction :: Text.ofInt64 (g.session.env.evaluate word) :: rest' →
      let h := ((Game.interpreter act).interpret setting g).2
      (Game.interpreter act).interpret moving h = (Game.interpreter act).interpret moving' h := by
  constructor
  · intro u v n line hname hvalue hline
    refine ⟨Usage.exists_words_eq hline n, fun line' hline' => ?_⟩
    rw [Interpreter.interpret_eq_interpretWords, Interpreter.interpret_eq_interpretWords, hline,
      hline']
    exact Game.requoted_report (Game.requoted_runWords hact hname u.rest u.clauses 0
      (Session.Requoted.refl v _ g.session) hpolicy hvalue)
  · intro setting moving moving' var move name word direction rest rest' hvar hmove hname hsetting
      hmoving hmoving' h
    have henv : h.session.env = _ := Game.env_interpret_var hsetting hvar
    have hget : h.session.env.get? name = some (g.session.env.evaluate word) := by
      rw [henv, Env.get?_set, if_pos rfl]
    have hcommand : move.upper ≠ Keyword.cond.word := hmove ▸ by decide
    rw [Game.interpret_command hmoving hcommand, Game.interpret_command hmoving' hcommand,
      Game.execute_move hmove, Game.execute_move hmove,
      Game.execMove_of_steps (Game.steps_of_get? hname hget),
      Game.execMove_of_steps (h.steps_ofInt64 _)]

/-- A win is counted by the second of two conditions in front of a move, and the lines that were run
are forgotten then. -/
theorem nested_move_by_variable :
    let forget : Game → Game := fun g => { g with ran := [] }
    let m := Game.interpreter forget
    let line := Text.ofString "SE OBSTACULO BAIXO se robo meta mover DIREITA a"
    let line' := Text.ofString "SE OBSTACULO BAIXO se robo meta mover DIREITA 2"
    ∃ s, Session.start (.fixed ⟨3, ⟨0, 0⟩, ⟨0, 0⟩, [⟨1, 0⟩]⟩) .inert = .ok s ∧
      let g := (m.interpret (Text.ofString "VAR a 2") (Game.ofSession s)).2
      Game.Agree (Game.Requoting (Text.ofString "a") (Text.ofInt64 2) g.session.journal)
        (m.interpret line g) (m.interpret line' g) ∧
      (m.interpret line g).2.session.board.robot = ⟨0, 2⟩ ∧
      (m.interpret line g).2.session.won = true ∧
      m.interpret (Text.ofString "MOVER direita a") g =
        m.interpret (Text.ofString "MOVER direita 2") g := by
  intro forget m line line'
  have h : Session.start (.fixed ⟨3, ⟨0, 0⟩, ⟨0, 0⟩, [⟨1, 0⟩]⟩) .inert = .ok _ := rfl
  refine ⟨_, h, ?_⟩
  intro g
  let u : Usage :=
    { clauses := [
        ⟨Text.ofString "SE", Text.ofString "OBSTACULO", Text.ofString "BAIXO", by decide +kernel⟩,
        ⟨Text.ofString "se", Text.ofString "robo", Text.ofString "meta", by decide +kernel⟩]
      command := Text.ofString "mover"
      first := Text.ofString "DIREITA"
      rest := [] }
  have hforget (g : Game) : (forget g).session = g.session := rfl
  have hname : Text.readDecimal? (Text.ofString "a") = none := by decide +kernel
  have hget : g.session.env.get? (Text.ofString "a") = some 2 := by decide +kernel
  have hvalue : Operand g.session.env u.command (Text.ofString "a") 2 :=
    .set (.inr (by decide +kernel)) hget
  have hlines := (variable_stands_for_value hforget (g := g) (by decide +kernel)).1
    u (Text.ofString "a") 2 line hname hvalue (by decide +kernel)
  have hmoves : m.interpret (Text.ofString "MOVER direita a") g = _ :=
    (variable_stands_for_value hforget (by decide +kernel)).2
    (Text.ofString "VAR a 2") (Text.ofString "MOVER direita a") (Text.ofString "MOVER direita 2")
    (Text.ofString "VAR") (Text.ofString "MOVER") (Text.ofString "a") (Text.ofString "2")
    (Text.ofString "direita") [] [] (by decide +kernel) (by decide +kernel) hname
    (by decide +kernel) (by decide +kernel) (by decide +kernel)
  exact ⟨hlines.2 line' (by decide +kernel), by decide +kernel, by decide +kernel, hmoves⟩

end GridRobot
