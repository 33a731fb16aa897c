import GridRobot.Board.Picture
import GridRobot.Proofs.Layouts
import GridRobot.Proofs.Lockstep
import GridRobot.Proofs.Runs

/-!
# Rearranged obstacles

Layouts that list the same obstacles in another order, or some of them more than once, make boards
that differ in the list of their obstacles only (`Board.ofLayout_relisted`). Moving, sensing,
drawing and the search for the target read the cells and never that list, so two games on such
boards go on alike whatever is asked of them. Only the command that lists the obstacles shows the
difference, and what it says is the same numbered list in another order (`Retold`).

The simulation is `Session.Retells`, carried through each request by `Session.kin_retells` and
`Session.Retells.resetAlike`; `order_of_obstacles_is_immaterial` follows request by request.
-/

namespace GridRobot

/-! ## Boards -/

namespace Board

variable {ps qs : List Position} {b c : Board}

theorem walk_relisted (b : Board) (qs : List Position) (d : Direction) (n : Nat) (p : Position) :
    { b with obstacles := qs }.walk d n p = b.walk d n p := by
  induction n generalizing p with
  | zero => rfl
  | succ n ih =>
    rw [walk, walk, ih]
    rfl

theorem move_relisted (b : Board) (qs : List Position) (d : Direction) (n : Int64) :
    { b with obstacles := qs }.move d n =
      (b.move d n).map fun b' => { b' with obstacles := qs } := by
  unfold move
  rw [walk_relisted]
  rcases b.walk d n.toNatClampNeg b.robot with e | p <;> rfl

theorem alike_relisted (ps qs : List Position) : Alike (Relisted ps qs) where
  sense_eq := by
    rintro b _ ⟨-, rfl⟩
    rfl
  atTarget_eq := by
    rintro b _ ⟨-, rfl⟩
    rfl
  move := by
    rintro b _ ⟨hps, rfl⟩ d n
    rw [move_relisted b qs]
    rcases hmove : b.move d n with e | b'
    · exact .inl ⟨e, rfl, rfl⟩
    · have hground := (sameGround_of_move hmove).obstacles_eq
      exact .inr ⟨b', { b' with obstacles := qs }, rfl, rfl, rfl, hground.trans hps, rfl⟩

theorem Relisted.looks_eq (h : Relisted ps qs b c) : c.robot = b.robot ∧
    c.reachable = b.reachable ∧ ∀ elapsed, c.picture elapsed = b.picture elapsed := by
  obtain ⟨-, rfl⟩ := h
  exact ⟨rfl, rfl, fun _ => rfl⟩

end Board

/-! ## Transcripts -/

/-- A passage of a transcript: an entry, or the obstacles of a board, one entry for each. -/
inductive Passage where
  | entry (e : Log.Entry Nat)
  | obstacles (session : Nat)

/-- The entry for the obstacle at an index; obstacles are numbered from one. -/
def obstacleEntry (session : Nat) (i : Nat) (p : Position) : Log.Entry Nat :=
  ⟨Text.ofString "Obstáculo " ++ Text.ofNat (i + 1) ++ Text.ofString ": " ++ p.text, false, session⟩

/-- The entries of a passage where a board has the obstacles `ps`. -/
def Passage.entries (ps : List Position) : Passage → List (Log.Entry Nat)
  | entry e => [e]
  | obstacles session => ps.mapIdx (obstacleEntry session)

/-- Transcripts that are the same but for passages that list obstacles: where the first lists `ps`,
the second lists `qs`. -/
def Retold (ps qs : List Position) (es fs : List (Log.Entry Nat)) : Prop :=
  ∃ passages : List Passage, es = passages.flatMap (Passage.entries ps) ∧
    fs = passages.flatMap (Passage.entries qs)

section Retold

variable {ps qs : List Position} {es es' fs fs' : List (Log.Entry Nat)}

theorem Retold.nil : Retold ps qs [] [] :=
  ⟨[], rfl, rfl⟩

theorem Retold.singleton (e : Log.Entry Nat) : Retold ps qs [e] [e] :=
  ⟨[.entry e], rfl, rfl⟩

theorem Retold.append (h : Retold ps qs es fs) (h' : Retold ps qs es' fs') :
    Retold ps qs (es ++ es') (fs ++ fs') := by
  obtain ⟨passages, rfl, rfl⟩ := h
  obtain ⟨passages', rfl, rfl⟩ := h'
  exact ⟨passages ++ passages', by rw [List.flatMap_append], by rw [List.flatMap_append]⟩

end Retold

theorem Game.map_obstacleLines (session first : Nat) (ps : List Position) :
    (obstacleLines (first + 1) ps).map (fun message => Log.Entry.mk message false session) =
      ps.mapIdx fun i => obstacleEntry session (first + i) := by
  induction ps generalizing first with
  | nil => rfl
  | cons p ps ih =>
    rw [obstacleLines, List.map_cons, ih, List.mapIdx_cons]
    simp only [obstacleEntry, Nat.add_zero, Nat.add_right_comm first, Nat.add_assoc]

/-- What is said when obstacles are listed is retold by what is said of a rearranged list. -/
theorem Game.retold_listing {ps qs : List Position} (hperm : ps.Perm qs) (session : Nat) :
    Retold ps qs ((listing ps).map fun message => ⟨message, false, session⟩)
      ((listing qs).map fun message => ⟨message, false, session⟩) := by
  unfold listing
  rw [hperm.isEmpty_eq]
  split_ifs
  · exact .singleton _
  · have hlines (rs : List Position) : (obstacleLines 1 rs).map (fun message =>
        Log.Entry.mk message false session) = rs.mapIdx (obstacleEntry session) := by
      simpa only [Nat.zero_add] using map_obstacleLines session 0 rs
    rw [List.map_cons, List.map_cons, hlines, hlines]
    exact (Retold.singleton _).append ⟨[.obstacles session], (List.flatMap_singleton _ _).symm,
      (List.flatMap_singleton _ _).symm⟩

/-! ## Sessions -/

namespace Session

open Board (Relisted)

variable {b c : Board} {before before' : List (Log.Entry Nat)} {s t : Session}

theorem foldl_say_journal (s : Session) (messages : List Text) :
    messages.foldl say s =
      { s with journal := s.journal ++ messages.map (Note.console s.number · false) } := by
  induction messages generalizing s with
  | nil => simp
  | cons message messages ih => simp [ih, say, log, note]

theorem transcript_foldl_say (s : Session) (messages : List Text) :
    (messages.foldl say s).transcript =
      s.transcript ++ messages.map fun message => ⟨message, false, s.number⟩ := by
  simp [foldl_say_journal, transcript, List.filterMap_map, Function.comp_def, Note.entry?]

/-- Sessions of setups that give nothing but the boards `b` and `c`, of which the second retells
what the first has said since the given transcripts. -/
structure Retells (b c : Board) (before before' : List (Log.Entry Nat)) (s t : Session) :
    Prop where
  onWin_eq : t.onWin = s.onWin
  left_boards : ∀ n, boardAt s.setup n = .ok b
  right_boards : ∀ n, boardAt t.setup n = .ok c
  board : Relisted b.obstacles c.obstacles s.board t.board
  env_eq : t.env = s.env
  won_eq : t.won = s.won
  number_eq : t.number = s.number
  transcript : ∃ es fs, s.transcript = before ++ es ∧ t.transcript = before' ++ fs ∧
    Retold b.obstacles c.obstacles es fs

namespace Retells

theorem tell (h : Retells b c before before' s t) {es fs : List (Log.Entry Nat)}
    (hretold : Retold b.obstacles c.obstacles es fs) {s' t' : Session}
    (hs : s'.transcript = s.transcript ++ es) (ht : t'.transcript = t.transcript ++ fs) :
    ∃ es fs, s'.transcript = before ++ es ∧ t'.transcript = before' ++ fs ∧
      Retold b.obstacles c.obstacles es fs := by
  obtain ⟨es₀, fs₀, hes, hfs, hbefore⟩ := h.transcript
  refine ⟨es₀ ++ es, fs₀ ++ fs, ?_, ?_, hbefore.append hretold⟩
  · rw [hs, hes, List.append_assoc]
  · rw [ht, hfs, List.append_assoc]

theorem log (h : Retells b c before before' s t) (message : Text) (isError : Bool) :
    Retells b c before before' (s.log message isError) (t.log message isError) := by
  refine { h with transcript := h.tell (.singleton ⟨message, isError, s.number⟩) ?_ ?_ }
  · exact transcript_log s message isError
  · rw [transcript_log, h.number_eq]

theorem win (h : Retells b c before before' s t) : Retells b c before before' s.win t.win := by
  have hwon : Retells b c before before' { s with won := true } { t with won := true } :=
    { h with won_eq := rfl }
  exact { hwon.log winMessage false with }

theorem anew (h : Retells b c before before' s t)
    (hbc : Relisted b.obstacles c.obstacles b c) :
    Retells b c before before' (s.anew b) (t.anew c) := by
  have hnew : Retells b c before before'
      { s with
        board := b, consulted := s.consulted + 1, number := s.number + 1, won := false
        env := .empty }
      { t with
        board := c, consulted := t.consulted + 1, number := t.number + 1, won := false
        env := .empty } :=
    { h with
      board := hbc, env_eq := rfl, won_eq := rfl
      number_eq := congrArg (· + 1) h.number_eq }
  exact hnew.log resetMessage false

theorem resetAlike (h : Retells b c before before' s t)
    (hbc : Relisted b.obstacles c.obstacles b c) :
    ResetAlike (Retells b c before before') s t := by
  unfold ResetAlike
  rw [reset_of_ok (h.left_boards _), reset_of_ok (h.right_boards _)]
  exact ⟨rfl, h.anew hbc⟩

theorem heed (h : Retells b c before before' s t)
    (hbc : Relisted b.obstacles c.obstacles b c) :
    Retells b c before before' s.heed t.heed := by
  have hpolicy : t.onWin = s.onWin := h.onWin_eq
  by_cases hinert : s.onWin = .inert
  · rwa [heed_of_inert hinert, heed_of_inert (hpolicy.trans hinert)]
  · rw [heed_of_ok hinert (h.left_boards _),
      heed_of_ok (hpolicy.trans_ne hinert) (h.right_boards _)]
    exact h.anew hbc

theorem checkWin (h : Retells b c before before' s t)
    (hbc : Relisted b.obstacles c.obstacles b c) :
    Retells b c before before' s.checkWin.2 t.checkWin.2 := by
  rw [checkWin_eq, checkWin_eq, (Board.alike_relisted _ _).atTarget_eq h.board, h.won_eq]
  split_ifs
  · exact h.win.heed hbc
  · exact h

end Retells

/-- Nothing that is asked of the two sessions breaks the simulation, the list of obstacles
included. -/
theorem kin_retells (hbc : Relisted b.obstacles c.obstacles b c)
    (hperm : b.obstacles.Perm c.obstacles) (before before' : List (Log.Entry Nat)) :
    Kin (Relisted b.obstacles c.obstacles) (Retells b c before before') where
  alike := Board.alike_relisted _ _
  board h := h.board
  env_eq h := h.env_eq
  won_eq h := h.won_eq
  log h := h.log
  debug {s t} h message attrs := by
    refine { h with transcript := ?_ }
    rw [transcript_debug, transcript_debug]
    exact h.transcript
  assign h env := { h with env_eq := rfl }
  place {_ _} h {_ _} hboards := { h with board := hboards }
  checkWin h := h.checkWin hbc
  list {s t} h := by
    have hleft : s.board.obstacles = b.obstacles := h.board.1
    have hright : t.board.obstacles = c.obstacles := by rw [h.board.2]
    rw [hleft, hright, foldl_say_journal, foldl_say_journal]
    refine { h with transcript := h.tell (Game.retold_listing hperm s.number) ?_ ?_ }
    · rw [← foldl_say_journal, transcript_foldl_say]
    · rw [← foldl_say_journal, transcript_foldl_say, h.number_eq]

/-- The simulation may be taken up at any moment. -/
theorem Retells.rebase (h : Retells b c before before' s t) :
    Retells b c s.transcript t.transcript s t :=
  { h with transcript := ⟨[], [], (List.append_nil _).symm, (List.append_nil _).symm, .nil⟩ }

end Session

/-! ## Views -/

/-- What is seen of a request on boards that differ in the lists of their obstacles: the same, but
for the order in which obstacles are listed. -/
structure View.Rearranges (ps qs : List Position) (v w : View) : Prop where
  reply_eq : w.reply = v.reply
  robot_eq : w.board.robot = v.board.robot
  reachable_eq : w.board.reachable = v.board.reachable
  picture_eq : ∀ elapsed, w.board.picture elapsed = v.board.picture elapsed
  env_eq : w.env = v.env
  won_eq : w.won = v.won
  number_eq : w.number = v.number
  scheduler_eq : w.scheduler = v.scheduler
  entries : Retold ps qs v.entries w.entries

namespace Game

open Session (Retells)

variable {b c : Board} {before before' : List (Log.Entry Nat)} {g h : Game}

theorem Abreast.view_of_retells (hbc : Board.Relisted b.obstacles c.obstacles b c)
    (hperm : b.obstacles.Perm c.obstacles) (hgh : Abreast (Retells b c before before') g h)
    (request : Request) :
    View.Rearranges b.obstacles c.obstacles (g.view request) (h.view request) ∧
      Abreast (Retells b c g.session.transcript h.session.transcript) (g.serve request)
        (h.serve request) := by
  have hnow : Abreast (Retells b c g.session.transcript h.session.transcript) g h :=
    { hgh with session := hgh.session.rebase }
  obtain ⟨hreply, hnext⟩ := hnow.serve (Session.kin_retells hbc hperm _ _) request
    fun _ => hnow.session.resetAlike hbc
  refine ⟨?_, hnext⟩
  obtain ⟨hrobot, hreachable, hpicture⟩ := hnext.session.board.looks_eq
  obtain ⟨es, fs, hes, hfs, hretold⟩ := hnext.session.transcript
  exact {
    reply_eq := hreply.symm
    robot_eq := hrobot
    reachable_eq := hreachable
    picture_eq := hpicture
    env_eq := hnext.session.env_eq
    won_eq := hnext.session.won_eq
    number_eq := hnext.session.number_eq
    scheduler_eq := hnext.scheduler_eq
    entries := by
      unfold view
      dsimp only
      rwa [hes, hfs, List.drop_left, List.drop_left] }

theorem Abreast.views_of_retells (hbc : Board.Relisted b.obstacles c.obstacles b c)
    (hperm : b.obstacles.Perm c.obstacles) (hgh : Abreast (Retells b c before before') g h)
    (requests : List Request) :
    List.Forall₂ (View.Rearranges b.obstacles c.obstacles) (g.views requests)
      (h.views requests) := by
  induction requests generalizing g h before before' with
  | nil => exact .nil
  | cons request requests ih =>
    obtain ⟨hview, hnext⟩ := hgh.view_of_retells hbc hperm request
    exact .cons hview (ih hnext)

end Game

namespace Session

variable {l l' : Layout} {onWin : WinPolicy} {s t : Session}

theorem boardAt_fixed_eq_ok_iff {b : Board} {n : Nat} :
    boardAt (.fixed l) n = .ok b ↔ Board.ofLayout l = .ok b := by
  simp only [boardAt, Setup.fixed]
  rcases Board.ofLayout l with e | c <;> simp [Except.mapError]

theorem exists_start_fixed_iff (l : Layout) (onWin : WinPolicy) :
    (∃ s, start (.fixed l) onWin = .ok s) ↔ ∃ b, Board.ofLayout l = .ok b := by
  simp only [exists_start_iff, boardAt_fixed_eq_ok_iff]

theorem retells_fresh (hs : Fresh (.fixed l) onWin s) (ht : Fresh (.fixed l') onWin t)
    (hboards : Board.Relisted s.board.obstacles t.board.obstacles s.board t.board) :
    Retells s.board t.board [] [] s t where
  onWin_eq := ht.onWin_eq.trans hs.onWin_eq.symm
  left_boards _ := by
    rw [hs.setup_eq]
    exact hs.boardAt_eq
  right_boards _ := by
    rw [ht.setup_eq]
    exact ht.boardAt_eq
  board := hboards
  env_eq := ht.env_eq.trans hs.env_eq.symm
  won_eq := ht.won_eq.trans hs.won_eq.symm
  number_eq := ht.number_eq.trans hs.number_eq.symm
  transcript := ⟨[], [], by simp [transcript, hs.journal_eq], by simp [transcript, ht.journal_eq],
    .nil⟩

end Session

/-- In which order the obstacles of a layout are listed, and how often each, makes no difference to
anything that is asked of a game. Of two layouts that list the same obstacles and are the same
otherwise, either neither makes a session, or both do, with boards that list each obstacle once.
Then every request gives the same reply and leaves the same robot, variables, win, scheduler and
picture, with the target in reach or not in both. What it adds to the transcript is the same too,
but for the numbered lists of obstacles, which are in the order of each board. -/
theorem order_of_obstacles_is_immaterial {l m : Layout} (hsize : m.size = l.size)
    (hrobot : m.robot = l.robot) (htarget : m.target = l.target)
    (hobstacles : ∀ p, p ∈ m.obstacles ↔ p ∈ l.obstacles) (onWin : WinPolicy)
    (scheduler : Option Scheduler) :
    ((¬ ∃ s, Session.start (.fixed l) onWin = .ok s) ∧
      ¬ ∃ t, Session.start (.fixed m) onWin = .ok t) ∨
    ∃ s t, Session.start (.fixed l) onWin = .ok s ∧ Session.start (.fixed m) onWin = .ok t ∧
      (s.board.obstacles.Nodup ∧ ∀ p, p ∈ s.board.obstacles ↔ p ∈ l.obstacles) ∧
      s.board.obstacles.Perm t.board.obstacles ∧
      Board.Relisted s.board.obstacles t.board.obstacles s.board t.board ∧
      ∀ requests, List.Forall₂ (View.Rearranges s.board.obstacles t.board.obstacles)
        ((Game.mk s scheduler []).views requests) ((Game.mk t scheduler []).views requests) := by
  by_cases hbuilt : ∃ b, Board.ofLayout l = .ok b
  · right
    obtain ⟨s, hs⟩ := (Session.exists_start_fixed_iff l onWin).2 hbuilt
    have hfresh := Session.fresh_of_start hs
    have hb := Session.boardAt_fixed_eq_ok_iff.1 hfresh.boardAt_eq
    obtain ⟨c, hc, hrelisted, hperm⟩ :=
      Board.ofLayout_relisted hsize hrobot htarget hobstacles hb
    obtain ⟨t, ht⟩ := (Session.exists_start_fixed_iff m onWin).2 ⟨c, hc⟩
    have hfresh' := Session.fresh_of_start ht
    -- the second session starts on the board that the second layout makes
    obtain rfl : c = t.board :=
      Except.ok.inj (hc.symm.trans (Session.boardAt_fixed_eq_ok_iff.1 hfresh'.boardAt_eq))
    have habreast : Game.Abreast (Session.Retells s.board t.board [] []) ⟨s, scheduler, []⟩
        ⟨t, scheduler, []⟩ := ⟨Session.retells_fresh hfresh hfresh' hrelisted, rfl⟩
    refine ⟨s, t, hs, ht, ⟨hfresh.valid.obstacles_nodup, (Board.ofLayout_spec hb).2⟩, hperm,
      hrelisted, fun requests => habreast.views_of_retells hrelisted hperm requests⟩
  · left
    have hbuilt' : ¬ ∃ c, Board.ofLayout m = .ok c := by
      rintro ⟨c, hc⟩
      obtain ⟨b, hb, -⟩ := Board.ofLayout_relisted hsize.symm hrobot.symm htarget.symm
        (fun p => (hobstacles p).symm) hc
      exact hbuilt ⟨b, hb⟩
    exact ⟨mt (Session.exists_start_fixed_iff l onWin).1 hbuilt,
      mt (Session.exists_start_fixed_iff m onWin).1 hbuilt'⟩

/-- Two obstacles, listed the other way round and one of them twice, are shown before and after a
reset. -/
theorem two_obstacles_rearranged :
    let requests := [Request.operate (.interpret (Text.ofString "SE OBSTACULO CIMA AJUDA")),
      .operate (.interpret (Text.ofString "MOSTRAR OBSTACULOS")), .operate .resetSession,
      .operate (.interpret (Text.ofString "MOSTRAR OBSTACULOS"))]
    ∃ s t, Session.start (.fixed ⟨3, ⟨0, 0⟩, ⟨2, 2⟩, [⟨1, 1⟩, ⟨0, 2⟩]⟩) .reset = .ok s ∧
      Session.start (.fixed ⟨3, ⟨0, 0⟩, ⟨2, 2⟩, [⟨0, 2⟩, ⟨1, 1⟩, ⟨0, 2⟩]⟩) .reset = .ok t ∧
      List.Forall₂ (View.Rearranges [⟨1, 1⟩, ⟨0, 2⟩] [⟨0, 2⟩, ⟨1, 1⟩])
        ((Game.mk s none []).views requests) ((Game.mk t none []).views requests) := by
  intro requests
  have hs : Session.start (.fixed ⟨3, ⟨0, 0⟩, ⟨2, 2⟩, [⟨1, 1⟩, ⟨0, 2⟩]⟩) .reset = .ok _ := rfl
  have ht : Session.start (.fixed ⟨3, ⟨0, 0⟩, ⟨2, 2⟩, [⟨0, 2⟩, ⟨1, 1⟩, ⟨0, 2⟩]⟩) .reset =
      .ok _ := rfl
  obtain ⟨hnone, -⟩ | ⟨s, t, hs', ht', -, -, -, hviews⟩ := order_of_obstacles_is_immaterial
    (l := ⟨3, ⟨0, 0⟩, ⟨2, 2⟩, [⟨1, 1⟩, ⟨0, 2⟩]⟩)
    (m := ⟨3, ⟨0, 0⟩, ⟨2, 2⟩, [⟨0, 2⟩, ⟨1, 1⟩, ⟨0, 2⟩]⟩) rfl rfl rfl
    (fun p => by simp [or_comm]) .reset none
  · exact absurd ⟨_, hs⟩ hnone
  · obtain rfl := Except.ok.inj (hs.symm.trans hs')
    obtain rfl := Except.ok.inj (ht.symm.trans ht')
    exact ⟨_, _, hs, ht, hviews requests⟩

end GridRobot
