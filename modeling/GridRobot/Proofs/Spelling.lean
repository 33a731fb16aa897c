import GridRobot.Proofs.Operands
import GridRobot.Proofs.Turns

/-!
# Spelling

Some words of a line are read in any letter case, and the line itself decides which: the keyword of
each command, a condition with what is expected of it, a direction, and what is to be listed or
started (`structural`). Lines that differ in the letter case of such words only
(`SameButCase`) are one line in two spellings. A command takes nothing from these words but their
upper case (`Game.execute_eq_of_sameButCase`), so that the two lines do the same, and all that tells
them apart is the action that is quoted for each condition that holds (`Note.Respelt`).

The journal is written while a line runs and never read. A change of games that goes by this
(`Game.Writes`) keeps two games the same but for what their journals quote (`Respelt.of_writes`).
This holds of everything that commands do, and of what is done about a win too, as long as it is
given the session without its log (`Game.unread`).
-/

namespace GridRobot

/-! ## Words -/

/-- Whether the word at a position of a line is read in any letter case. It is where it is a
keyword, a condition or what is expected of it, a direction, or what is to be listed or started, in
the line or in the action of a condition. -/
def structural : List Text → Nat → Bool
  | [], _ => false
  | _ :: _, 0 => true
  | first :: _, 1 => first.upper ∈
      [Keyword.cond.word, Keyword.move.word, Keyword.list.word, Keyword.start.word]
  | first :: _, 2 => first.upper = Keyword.cond.word
  | first :: _ :: _ :: action, i + 3 => first.upper = Keyword.cond.word && structural action i
  | _, _ => false

/-- The words of a line in two spellings: as many, with the same upper case where letter case does
not count, and the same elsewhere. -/
def SameButCase (u v : List Text) : Prop :=
  v.length = u.length ∧ ∀ i < u.length,
    if structural u i then v[i]?.map Text.upper = u[i]?.map Text.upper else v[i]? = u[i]?

instance (u v : List Text) : Decidable (SameButCase u v) :=
  inferInstanceAs (Decidable (_ ∧ _))

namespace SameButCase

variable {first condition expected : Text} {args action u v : List Text} {i : Nat}

theorem map_upper_eq (h : SameButCase u v) (i : Nat) :
    v[i]?.map Text.upper = u[i]?.map Text.upper := by
  by_cases hi : i < u.length
  · have hword := h.2 i hi
    split_ifs at hword
    · exact hword
    · rw [hword]
  · have hlength := h.1
    rw [List.getElem?_eq_none (by omega), List.getElem?_eq_none (by omega)]

theorem getElem?_eq (h : SameButCase u v) (hi : structural u i = false) : v[i]? = u[i]? := by
  by_cases hlt : i < u.length
  · have hword := h.2 i hlt
    rwa [hi, if_neg Bool.false_ne_true] at hword
  · have hlength := h.1
    rw [List.getElem?_eq_none (by omega), List.getElem?_eq_none (by omega)]

/-- A word that is read in any letter case may be spelt in another way, and stays where it is. -/
theorem exists_cons (h : SameButCase (first :: args) v) :
    ∃ first' args', v = first' :: args' ∧ first'.upper = first.upper := by
  rcases v with _ | ⟨first', args'⟩
  · cases h.1
  · exact ⟨first', args', rfl, by simpa using h.map_upper_eq 0⟩

/-- After a condition, its action is spelt in two ways. -/
theorem exists_clause (hcond : first.upper = Keyword.cond.word)
    (h : SameButCase (first :: condition :: expected :: action) v) :
    ∃ first' condition' expected' action', v = first' :: condition' :: expected' :: action' ∧
      first'.upper = first.upper ∧ condition'.upper = condition.upper ∧
      expected'.upper = expected.upper ∧ SameButCase action action' := by
  rcases v with _ | ⟨first', _ | ⟨condition', _ | ⟨expected', action'⟩⟩⟩
  · simp [SameButCase] at h
  · simp [SameButCase] at h
  · simp [SameButCase] at h
  · refine ⟨first', condition', expected', action', rfl, by simpa using h.map_upper_eq 0,
      by simpa using h.map_upper_eq 1, by simpa using h.map_upper_eq 2, ?_, fun i hi => ?_⟩
    · simpa using h.1
    · have hword := h.2 (i + 3) (by simpa using hi)
      simpa [structural, hcond] using hword

theorem structural_of_ne (hcond : first.upper ≠ Keyword.cond.word) (args : List Text) (i : Nat) :
    structural (first :: args) (i + 2) = false := by
  cases i with
  | zero => simp [structural, hcond]
  | succ i => rcases args with _ | ⟨_, _ | ⟨_, _⟩⟩ <;> simp [structural, hcond]

/-- A command that is no condition has the same arguments in both spellings, but for the first where
letter case does not count there. -/
theorem args_cases (hcond : first.upper ≠ Keyword.cond.word) {first' : Text} {args' : List Text}
    (h : SameButCase (first :: args) (first' :: args')) :
    args' = args ∨
      (first.upper ∈ [Keyword.move.word, Keyword.list.word, Keyword.start.word] ∧
        ∃ what what' rest, args = what :: rest ∧ args' = what' :: rest ∧
          what'.upper = what.upper) := by
  have hrest (i : Nat) : args'[i + 1]? = args[i + 1]? := by
    simpa using h.getElem?_eq (structural_of_ne hcond args i)
  by_cases hfirst : first.upper ∈ [Keyword.move.word, Keyword.list.word, Keyword.start.word]
  · rcases args with _ | ⟨what, rest⟩ <;> rcases args' with _ | ⟨what', rest'⟩
    · exact .inl rfl
    · simp [SameButCase] at h
    · simp [SameButCase] at h
    · have hsame : rest' = rest := List.ext_getElem? fun i => by simpa using hrest i
      exact .inr ⟨hfirst, what, what', rest, rfl, by rw [hsame], by simpa using h.map_upper_eq 1⟩
  · refine .inl (List.ext_getElem? fun i => ?_)
    cases i with
    | zero =>
      have hplain : structural (first :: args) 1 = false := by
        simpa [structural, hcond] using hfirst
      simpa using h.getElem?_eq hplain
    | succ i => exact hrest i

end SameButCase

/-! ## Commands in two spellings -/

theorem Direction.read?_eq_of_upper_eq {word word' : Text} (h : word'.upper = word.upper) :
    read? word' = read? word := by
  unfold read?
  rw [h]

namespace Game

variable {first first' what what' : Text} {args args' : List Text}

theorem execMove_eq_of_upper_eq (h : what'.upper = what.upper) (g : Game) (rest : List Text) :
    g.execMove (what' :: rest) = g.execMove (what :: rest) := by
  rcases rest with _ | ⟨word, rest⟩
  · rfl
  · have hmove (n : Int64) : g.moveRobot what' n = g.moveRobot what n := by
      unfold moveRobot
      rw [Direction.read?_eq_of_upper_eq h]
    unfold execMove
    dsimp only
    rcases g.steps word with e | n
    · rfl
    · exact hmove n

theorem execList_eq_of_upper_eq (h : what'.upper = what.upper) (g : Game) (rest : List Text) :
    g.execList (what' :: rest) = g.execList (what :: rest) := by
  rw [execList_cons, execList_cons, h]

theorem execStart_eq_of_upper_eq (h : what'.upper = what.upper) (g : Game) (rest : List Text) :
    g.execStart (what' :: rest) = g.execStart (what :: rest) := by
  unfold execStart
  dsimp only
  rw [h]

/-- A command is one and the same in two spellings: its keyword, and the first argument of those
that take a direction or something to list or to start, are raised before they are looked at. -/
theorem execute_eq_of_sameButCase (hcond : first.upper ≠ Keyword.cond.word)
    (hfirst : first'.upper = first.upper) (h : SameButCase (first :: args) (first' :: args'))
    (g : Game) : g.execute (first' :: args') = g.execute (first :: args) := by
  have hcommand : Command.ofWords (first' :: args') =
      ⟨.ofWord first.upper, first.upper, args'⟩ := by
    rw [Command.ofWords, hfirst]
  rcases h.args_cases hcond with rfl | ⟨hkeyword, what, what', rest, rfl, rfl, hwhat⟩
  · unfold execute
    rw [hcommand]
    rfl
  · unfold execute
    rw [hcommand]
    simp only [List.mem_cons, List.not_mem_nil, or_false] at hkeyword
    rcases hkeyword with hkeyword | hkeyword | hkeyword
    · simp only [Command.ofWords, hkeyword, Keyword.ofWord_word]
      exact g.execMove_eq_of_upper_eq hwhat rest
    · simp only [Command.ofWords, hkeyword, Keyword.ofWord_word]
      exact g.execList_eq_of_upper_eq hwhat rest
    · simp only [Command.ofWords, hkeyword, Keyword.ofWord_word]
      exact g.execStart_eq_of_upper_eq hwhat rest

end Game

/-! ## Games but for their journals -/

namespace Game

variable {f f' : Game → Game}

/-- The game with another journal. -/
def journaled (g : Game) (journal : List Note) : Game :=
  { g with session := { g.session with journal } }

/-- A change of games that does not look at the journal and only adds to it: what is added, and the
game otherwise, are the same whatever the journal was. -/
def Writes (f : Game → Game) : Prop :=
  ∀ g : Game, ∃ (h : Game) (added : List Note), ∀ journal,
    f (g.journaled journal) = h.journaled (journal ++ added)

/-- What `effect` does to a game whose log it can write to and not read. Every change that does not
look at the journal is of this form (`Writes.unread_eq`). -/
def unread (effect : Game → Game) (g : Game) : Game :=
  let h := effect (g.journaled [])
  h.journaled (g.session.journal ++ h.session.journal)

theorem writes_unread (effect : Game → Game) : Writes (unread effect) := fun g =>
  ⟨effect (g.journaled []), (effect (g.journaled [])).session.journal, fun _ => rfl⟩

theorem Writes.unread_eq (hf : Writes f) : unread f = f := by
  funext g
  obtain ⟨h, added, heq⟩ := hf g
  unfold unread
  rw [heq]
  exact (heq g.session.journal).symm

theorem writes_id : Writes id := fun g =>
  ⟨g, [], fun _ => by simp⟩

theorem writes_log (message : Text) (isError : Bool) :
    Writes fun g => { g with session := g.session.log message isError } := fun g =>
  ⟨g, [.console g.session.number message isError], fun _ => rfl⟩

theorem writes_assign (env : Env) :
    Writes fun g => { g with session := { g.session with env } } := fun g =>
  ⟨{ g with session := { g.session with env } }, [], fun _ => by simp [journaled]⟩

theorem writes_place (board : Board) :
    Writes fun g => { g with session := { g.session with board } } := fun g =>
  ⟨{ g with session := { g.session with board } }, [], fun _ => by simp [journaled]⟩

theorem Writes.comp (hf' : Writes f') (hf : Writes f) : Writes fun g => f' (f g) := by
  intro g
  obtain ⟨h, added, heq⟩ := hf g
  obtain ⟨k, added', heq'⟩ := hf' h
  refine ⟨k, added ++ added', fun journal => ?_⟩
  dsimp only
  rw [heq, heq', List.append_assoc]

theorem writes_win : Writes fun g => { g with session := g.session.win } := fun g =>
  ⟨{ g with session := g.session.win }, [.console g.session.number Session.winMessage false],
    fun _ => rfl⟩

theorem writes_heed : Writes fun g => { g with session := g.session.heed } := by
  intro g
  by_cases hpolicy : g.session.onWin = .inert
  · refine ⟨g, [], fun journal => ?_⟩
    have hheed := Session.heed_of_inert (s := (g.journaled journal).session) hpolicy
    rw [List.append_nil]
    dsimp only
    rw [hheed]
  · rcases hboard : Session.boardAt g.session.setup g.session.consulted with e | b
    · obtain ⟨notes, hnotes⟩ := Session.exists_notes_heed_of_error hpolicy g.session.number e
      refine ⟨{ g with session := { g.session with consulted := g.session.consulted + 1 } }, notes,
        fun journal => ?_⟩
      have hheed := hnotes (g.journaled journal).session rfl rfl hboard
      dsimp only
      rw [hheed]
      rfl
    · refine ⟨{ g with session := g.session.anew b },
        [.console (g.session.number + 1) Session.resetMessage false], fun journal => ?_⟩
      have hheed := Session.heed_of_ok (s := (g.journaled journal).session) hpolicy hboard
      dsimp only
      rw [hheed]
      rfl

theorem writes_checkWin : Writes fun g => { g with session := g.session.checkWin.2 } := by
  intro g
  by_cases hwin : g.session.board.atTarget = true ∧ g.session.won = false
  · obtain ⟨h, added, heq⟩ := writes_heed.comp writes_win g
    refine ⟨h, added, fun journal => ?_⟩
    have hcheck : (g.journaled journal).session.checkWin.2 =
      (g.journaled journal).session.win.heed := (Session.checkWin_eq _).trans (if_pos hwin)
    dsimp only
    rw [hcheck]
    exact heq journal
  · refine ⟨g, [], fun journal => ?_⟩
    have hcheck : (g.journaled journal).session.checkWin.2 = (g.journaled journal).session :=
      (Session.checkWin_eq _).trans (if_neg hwin)
    dsimp only
    rw [hcheck, List.append_nil]

theorem writes_start : Writes start := by
  intro g
  rcases hscheduler : g.scheduler with _ | s
  · refine ⟨g, [], fun journal => ?_⟩
    simp [start, journaled, hscheduler]
  · by_cases hrunning : s.running = true
    · refine ⟨g, [.debug (Text.ofString "scheduler already running") []], fun journal => ?_⟩
      simp [start, journaled, hscheduler, hrunning, Session.note]
    · refine ⟨{ g with scheduler := some { s with running := true, cursor := 0, elapsed := .zero } },
        [.console g.session.number startMessage false], fun journal => ?_⟩
      unfold start journaled
      dsimp only
      rw [hscheduler]
      dsimp only
      rw [if_neg hrunning]
      rfl

end Game

/-! ## Journals that quote the action in two spellings -/

/-- The same note, but for the action that is quoted after a condition that holds: the second has it
in another spelling. -/
inductive Note.Respelt : Note → Note → Prop where
  | same (n : Note) : Respelt n n
  | action (session : Nat) (condition expected : Text) {words words' : List Text}
      (h : SameButCase words words') :
      Respelt
        (.console session (Game.metMessage condition expected (Text.join [32] words)) false)
        (.console session (Game.metMessage condition expected (Text.join [32] words')) false)

namespace Game

variable {effect f : Game → Game} {told : List Note} {g h : Game}

/-- One and the same game with two journals, which have quoted actions in two spellings since a
given journal. -/
def Respelt (told : List Note) (g h : Game) : Prop :=
  ∃ (k : Game) (notes notes' : List Note), g = k.journaled (told ++ notes) ∧
    h = k.journaled (told ++ notes') ∧ List.Forall₂ Note.Respelt notes notes'

theorem Respelt.refl (g : Game) : Respelt g.session.journal g g :=
  ⟨g, [], [], by simp [journaled], by simp [journaled], .nil⟩

theorem forall₂_respelt_self (notes : List Note) : List.Forall₂ Note.Respelt notes notes :=
  List.forall₂_same.2 fun n _ => .same n

/-- A change of games that does not look at the journal adds the same to both. -/
theorem Respelt.of_writes (hf : Writes f) (hgh : Respelt told g h) : Respelt told (f g) (f h) := by
  obtain ⟨k, notes, notes', rfl, rfl, hnotes⟩ := hgh
  obtain ⟨k', added, heq⟩ := hf k
  refine ⟨k', notes ++ added, notes' ++ added, ?_, ?_,
    List.rel_append hnotes (forall₂_respelt_self added)⟩
  · rw [heq, List.append_assoc]
  · rw [heq, List.append_assoc]

theorem Respelt.quote (hgh : Respelt told g h) (condition expected : Text)
    {words words' : List Text} (hwords : SameButCase words words') :
    Respelt told
      { g with session :=
        g.session.log (metMessage condition expected (Text.join [32] words)) false }
      { h with session :=
        h.session.log (metMessage condition expected (Text.join [32] words')) false } := by
  obtain ⟨k, notes, notes', rfl, rfl, hnotes⟩ := hgh
  have hnote := Note.Respelt.action k.session.number condition expected hwords
  refine ⟨k, notes ++ [_], notes' ++ [_], ?_, ?_, List.rel_append hnotes (.cons hnote .nil)⟩
  · rw [← List.append_assoc]
    rfl
  · rw [← List.append_assoc]
    rfl

/-- Commands do not look at the journal. -/
theorem parallel_respelt (told : List Note) : Parallel (Respelt told) where
  board_eq := by
    rintro g h ⟨k, notes, notes', rfl, rfl, -⟩
    rfl
  env_eq := by
    rintro g h ⟨k, notes, notes', rfl, rfl, -⟩
    rfl
  log hgh message isError := hgh.of_writes (writes_log message isError)
  assign hgh env := hgh.of_writes (writes_assign env)
  place hgh board := hgh.of_writes (writes_place board)
  checkWin hgh := hgh.of_writes writes_checkWin
  start hgh := hgh.of_writes writes_start

theorem Respelt.calling {α : Type} (hgh : Respelt told g h) {x y : α × Game}
    (hxy : Agree (Respelt told) x y) :
    Agree (Respelt told) (calling (unread effect) g x) (calling (unread effect) h y) := by
  refine Parallel.calling ?_ (fun hgames => hgames.of_writes (writes_unread effect)) hgh hxy
  rintro g h ⟨k, notes, notes', rfl, rfl, -⟩
  rfl

end Game

/-! ## Lines in two spellings -/

namespace Interpreter

variable {σ : Type} (m : Interpreter σ) {held : Nat}

theorem runWords_nil (hheld : ¬ maxNesting < held) (s : σ) :
    m.runWords held [] s = m.execute s [] := by
  rw [runWords.eq_def, if_neg hheld]

/-- A condition without an action is a failure of usage. -/
theorem runWords_incomplete (hheld : ¬ maxNesting < held) {first : Text}
    (hfirst : first.upper = Keyword.cond.word) {args : List Text} (hargs : args.length < 3)
    (s : σ) : m.runWords held (first :: args) s = (.error (.usage .cond), s) := by
  rw [runWords.eq_def, if_neg hheld]
  refine (if_pos hfirst).trans ?_
  rcases args with _ | ⟨condition, _ | ⟨expected, _ | ⟨word, rest⟩⟩⟩
  · rfl
  · rfl
  · rfl
  · simp only [List.length_cons] at hargs
    omega

end Interpreter

namespace Game

variable {effect : Game → Game} {told : List Note} {g h : Game}

/-- The words of a line do the same in both spellings. The induction is on how many words there are:
after a condition that holds come the words of its action, which are spelt in two ways too. -/
theorem respelt_runWords {u v : List Text} (huv : SameButCase u v) (held : Nat)
    (hgh : Respelt told g h) :
    Agree (Respelt told) ((interpreter (unread effect)).runWords held u g)
      ((interpreter (unread effect)).runWords held v h) := by
  induction hlength : u.length using Nat.strongRecOn generalizing u v held g h with
  | ind n ih =>
    by_cases hheld : maxNesting < held
    · rw [Interpreter.runWords_of_lt _ hheld, Interpreter.runWords_of_lt _ hheld]
      exact ⟨rfl, hgh⟩
    have hexecute (words : List Text) : Agree (Respelt told)
        ((interpreter (unread effect)).execute g words)
        ((interpreter (unread effect)).execute h words) :=
      hgh.calling ((parallel_respelt told).execute hgh words)
    rcases u with _ | ⟨first, args⟩
    · obtain rfl : v = [] := List.length_eq_zero_iff.1 huv.1
      rw [Interpreter.runWords_nil _ hheld, Interpreter.runWords_nil _ hheld]
      exact hexecute []
    by_cases hcond : first.upper = Keyword.cond.word
    · by_cases hargs : args.length < 3
      · obtain ⟨first', args', rfl, hfirst⟩ := huv.exists_cons
        have hargs' : args'.length < 3 := by
          have hsame := huv.1
          simp only [List.length_cons] at hsame
          omega
        rw [Interpreter.runWords_incomplete _ hheld hcond hargs,
          Interpreter.runWords_incomplete _ hheld (hfirst.trans hcond) hargs']
        exact ⟨rfl, hgh⟩
      · rcases args with _ | ⟨condition, _ | ⟨expected, _ | ⟨word, rest⟩⟩⟩
        · simp at hargs
        · simp at hargs
        · simp at hargs
        · obtain ⟨first', condition', expected', action', rfl, hfirst, hcondition, hexpected,
            haction⟩ := huv.exists_clause hcond
          have hshorter : (word :: rest).length < n := by
            simp only [List.length_cons] at hlength ⊢
            omega
          have hne : action' ≠ [] := List.ne_nil_of_length_pos (by simp [haction.1])
          have heval : Agree (Respelt told)
              ((interpreter (unread effect)).evaluate g condition.upper expected.upper)
              ((interpreter (unread effect)).evaluate h condition.upper expected.upper) :=
            hgh.calling ((parallel_respelt told).alongside.evalCondition hgh _ _)
          exact Agree.clause ⟨first, condition, expected, hcond⟩
            ⟨first', condition', expected', hfirst.trans hcond⟩ hcondition hexpected
            (List.cons_ne_nil word rest) hne hgh (parallel_respelt told).log heval
            fun _ hgames => ih _ hshorter haction (held + 1) (hgames.quote _ _ haction) rfl
    · obtain ⟨first', args', rfl, hfirst⟩ := huv.exists_cons
      have hsame : (interpreter (unread effect)).execute h (first' :: args') =
          (interpreter (unread effect)).execute h (first :: args) :=
        congrArg (Game.calling (unread effect) h) (execute_eq_of_sameButCase hcond hfirst huv h)
      rw [Interpreter.runWords_command _ hheld hcond,
        Interpreter.runWords_command _ hheld (hfirst ▸ hcond), hsame]
      exact hexecute (first :: args)

theorem respelt_interpret (effect : Game → Game) (g : Game) {line line' : Text}
    (h : SameButCase line.words line'.words) :
    Agree (Respelt g.session.journal) ((interpreter (unread effect)).interpret line g)
      ((interpreter (unread effect)).interpret line' g) := by
  rw [Interpreter.interpret_eq_interpretWords, Interpreter.interpret_eq_interpretWords]
  exact (respelt_runWords h 0 (.refl g)).report (parallel_respelt g.session.journal).log

end Game

end GridRobot
