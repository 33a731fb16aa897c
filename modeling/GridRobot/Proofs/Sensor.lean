import GridRobot.Proofs.Letters
import GridRobot.Proofs.Operands

/-!
# The sensor and the moves

The sensor looks at the four cells next to the robot along the axes, and a move of one step looks at
one cell. Off the board there is nothing for the sensor, while a move fails there. Where both see an
obstacle they agree: the sensor holds an axis direction exactly if a move of one step in it would
collide (`Board.has_sense_iff_collision`).

In a line the direction is a word. A condition raises it three times before it is compared and a
move raises it once, which is the same (`Direction.read?_upper`).
-/

namespace GridRobot

/-! ## Sets of directions -/

namespace Direction

theorem index_lt (d : Direction) : d.index < 8 := by
  cases d <;> decide

theorem index_injective : Function.Injective index := by
  intro d e h
  cases d <;> cases e <;> first | rfl | cases h

end Direction

namespace DirectionSet

theorem has_empty (d : Direction) : empty.has d = false := by
  cases d <;> rfl

theorem has_insert (s : DirectionSet) (d e : Direction) :
    (s.insert d).has e = true ↔ s.has e = true ∨ e = d := by
  have hbound : s.bits.toNat ||| 1 <<< d.index < 256 := by
    refine Nat.or_lt_two_pow (n := 8) s.bits.toNat_lt ?_
    rw [Nat.one_shiftLeft]
    exact Nat.pow_lt_pow_right (by decide) d.index_lt
  have hbits : (s.insert d).bits.toNat = s.bits.toNat ||| 1 <<< d.index := by
    rw [insert, setBit, if_pos d.index_lt]
    exact UInt8.toNat_ofNat_of_lt' hbound
  have hadded : (1 <<< d.index).testBit e.index = decide (e = d) := by
    simp only [testBit_one_shiftLeft, Direction.index_injective.eq_iff, eq_comm]
  rw [has, hasBit, hbits, Nat.testBit_or, hadded]
  simp [has, hasBit, e.index_lt]

end DirectionSet

/-! ## One step -/

namespace Board

variable {b : Board} {d : Direction}

theorem has_foldl_insert (see : Direction → Bool) (ds : List Direction) (s : DirectionSet) :
    (ds.foldl (fun s d => if see d then s.insert d else s) s).has d = true ↔
      s.has d = true ∨ (d ∈ ds ∧ see d = true) := by
  induction ds generalizing s with
  | nil => simp
  | cons e ds ih =>
    rw [List.foldl_cons, ih]
    split_ifs with hsee
    · rw [DirectionSet.has_insert]
      grind
    · grind

/-- What the sensor sees: obstacles next to the robot, in the directions it looks in. -/
theorem has_sense_iff : b.sense.has d = true ↔
    d ∈ Direction.axes ∧ b.isObstacle (b.robot.add d.delta) = true := by
  unfold sense
  rw [has_foldl_insert fun d => b.isObstacle (b.robot.add d.delta)]
  simp [DirectionSet.has_empty]

/-- A step onto an obstacle is what collides; off the board there is none. -/
theorem move_one_eq_collision_iff : b.move d 1 = .error .collision ↔
    b.isObstacle (b.robot.add d.delta) = true := by
  have hsteps : (1 : Int64).toNatClampNeg = 1 := rfl
  rw [move, hsteps, walk]
  split_ifs with hin hobs
  · simp [Except.map, isObstacle_iff, by simpa using hin]
  · simp [Except.map, hobs]
  · simp [Except.map, walk, hobs]

theorem has_sense_iff_collision : b.sense.has d = true ↔
    d ∈ Direction.axes ∧ b.move d 1 = .error .collision := by
  rw [has_sense_iff, move_one_eq_collision_iff]

theorem not_has_sense_of_ne (h : b.move d 1 ≠ .error .collision) : b.sense.has d = false :=
  Bool.eq_false_iff.2 fun hsense => h (has_sense_iff_collision.1 hsense).2

end Board

/-! ## Lines -/

namespace Interpreter

variable {σ : Type} (m : Interpreter σ)

theorem report_fst (outcome : Except CommandError Unit × σ) : (m.report outcome).1 = outcome.1 := by
  rcases outcome with ⟨e | _, s⟩ <;> rfl

/-- Words that a line holds can be run as a line of their own. -/
theorem runWords_eq_runLine_join {held levels : Nat} (hlevels : held + levels = maxNesting + 1)
    {words : List Text} (hwords : ∀ w ∈ words, Text.IsWord w) (s : σ) :
    m.runWords held words s = m.runLine levels (Text.join [32] words) s := by
  rw [runLine_eq_runWords m hlevels, Text.words_join hwords]

end Interpreter

namespace Game

variable {act : Game → Game} {g : Game} {direction : Text}

theorem calling_fst {α : Type} (act : Game → Game) (g : Game) (outcome : α × Game) :
    (calling act g outcome).1 = outcome.1 := by
  rcases calling_cases act g outcome with h | h <;> rw [h]

theorem moveRobot_collides_iff {n : Int64} : (g.moveRobot direction n).1 = .error .collision ↔
    ∃ d, Direction.read? direction = some d ∧ g.session.board.move d n = .error .collision := by
  unfold moveRobot
  rcases Direction.read? direction with _ | d
  · simp
  · rcases hmove : g.session.board.move d n with e | b
    · cases e <;> simp [failure, hmove]
    · simp [hmove]

/-- A line that moves the robot by one step fails by a collision exactly if the step does. -/
theorem interpret_move_collides_iff {line move one : Text}
    (hwords : line.words = [move, direction, one]) (hmove : move.upper = Keyword.move.word)
    (hone : Text.readDecimal? one = some 1) :
    ((interpreter act).interpret line g).1 = .error .collision ↔
      ∃ d, Direction.read? direction = some d ∧ g.session.board.move d 1 = .error .collision := by
  have hsteps : g.steps one = .ok 1 := by simp [steps, hone]
  rw [interpret_command hwords (hmove ▸ by decide), Interpreter.report_fst, calling_fst,
    execute_move hmove, execMove_of_steps hsteps, moveRobot_collides_iff]

/-- The condition on obstacles asks the sensor, which tells nothing of a word that is no
direction. -/
theorem evaluate_obstacle {condition : Text} (h : condition.upper = Text.ofString "OBSTACULO")
    (expected : Text) : (interpreter act).evaluate g condition.upper expected.upper =
      (.ok ((Direction.read? expected).any g.session.board.sense.has), g) := by
  have heval : g.evalCondition condition.upper expected.upper =
      (.ok ((Direction.read? expected).any g.session.board.sense.has), g) := by
    unfold evalCondition
    rw [Text.upper_upper, Text.upper_upper, if_pos h, Direction.read?_upper]
    rcases Direction.read? expected with _ | d <;> rfl
  unfold interpreter
  dsimp only
  rw [heval]
  exact if_pos rfl

end Game

/-- In whatever state a game is, the sensor holds a direction exactly if it lies along an axis and a
move of one step in it would collide; where the step would leave the board or succeed, it does not.
So a line that asks for an obstacle runs its action, as a line of its own with one condition less to
go, exactly if the word it asks with names an axis direction in which a line that moves by one step
would collide. Else it says that the condition does not hold, and this is all that it does. -/
theorem sensor_agrees_with_moves (g : Game) :
    (∀ d, (g.session.board.sense.has d = true ↔
        d ∈ Direction.axes ∧ g.session.board.move d 1 = .error .collision) ∧
      (g.session.board.move d 1 = .error .outOfBounds ∨ (∃ b, g.session.board.move d 1 = .ok b) →
        g.session.board.sense.has d = false)) ∧
    ∀ (act : Game → Game) (line keyword condition w : Text) (action : List Text)
      (moving move one : Text),
      line.words = keyword :: condition :: w :: action → action ≠ [] →
      keyword.upper = Keyword.cond.word → condition.upper = Text.ofString "OBSTACULO" →
      moving.words = [move, w, one] → move.upper = Keyword.move.word →
      Text.readDecimal? one = some 1 →
      let m := Game.interpreter act
      let collides := (∃ d ∈ Direction.axes, Direction.read? w = some d) ∧
        (m.interpret moving g).1 = .error .collision
      (collides → m.interpret line g = m.report (m.runLine maxNesting (Text.join [32] action)
        (g.say (Game.metMessage condition.upper w.upper (Text.join [32] action))))) ∧
      (¬ collides → m.interpret line g =
        (.ok (), g.say (Game.unmetMessage condition.upper w.upper))) := by
  constructor
  · refine fun d => ⟨Board.has_sense_iff_collision, fun hmove => Board.not_has_sense_of_ne ?_⟩
    rcases hmove with hout | ⟨b, hok⟩
    · simp [hout]
    · simp [hok]
  · intro act line keyword condition w action moving move one hline haction hkeyword hcondition
      hmoving hmove hone m collides
    have hsensed : collides ↔ (Direction.read? w).any g.session.board.sense.has = true := by
      simp only [collides, m, Game.interpret_move_collides_iff hmoving hmove hone,
        Option.any_eq_true, Board.has_sense_iff_collision]
      constructor
      · rintro ⟨⟨d, haxis, hd⟩, e, he, hcollision⟩
        obtain rfl := Option.some.inj (hd.symm.trans he)
        exact ⟨d, hd, haxis, hcollision⟩
      · rintro ⟨d, hd, haxis, hcollision⟩
        exact ⟨⟨d, haxis, hd⟩, d, hd, hcollision⟩
    have hwords : ∀ v ∈ action, Text.IsWord v := fun v hv =>
      Text.isWord_of_mem_words line v (by simp [hline, hv])
    have hrun := m.runWords_clause 0 ⟨keyword, condition, w, hkeyword⟩ haction
      (Game.evaluate_obstacle (g := g) hcondition w)
    rw [if_neg (by decide)] at hrun
    have hinterpret : m.interpret line g =
        m.report (m.runWords 0 (Clause.words ⟨keyword, condition, w, hkeyword⟩ ++ action) g) := by
      rw [m.interpret_eq_interpretWords, hline]
      rfl
    rw [hinterpret, hrun, hsensed]
    refine ⟨fun hholds => ?_, fun hfails => ?_⟩
    · rw [hholds]
      dsimp only
      rw [m.runWords_eq_runLine_join (Nat.add_comm 1 maxNesting) hwords]
      rfl
    · rw [Bool.not_eq_true] at hfails
      rw [hfails]
      rfl

/-- Below the robot there is an obstacle, and above it the board ends. The sensor sees the first
only, also where the direction is spelt with a letter outside ASCII. -/
theorem obstacle_below_and_edge_above :
    let m := Game.interpreter id
    let line := Text.ofString "se obstaculo baıxo mover DIREITA 1"
    let line' := Text.ofString "SE OBSTACULO CIMA MOVER DIREITA 1"
    ∃ s, Session.start (.fixed ⟨3, ⟨0, 0⟩, ⟨2, 2⟩, [⟨1, 0⟩]⟩) .reset = .ok s ∧
      let g := Game.ofSession s
      g.session.board.sense.has .down = true ∧ g.session.board.sense.has .up = false ∧
      (m.interpret (Text.ofString "MOVER baıxo 1") g).1 = .error .collision ∧
      (m.interpret line g).2.session.board.robot = ⟨0, 1⟩ ∧
      m.interpret line' g = (.ok (), g.say
        (Game.unmetMessage (Text.ofString "OBSTACULO") (Text.ofString "CIMA"))) := by
  intro m line line'
  have h : Session.start (.fixed ⟨3, ⟨0, 0⟩, ⟨2, 2⟩, [⟨1, 0⟩]⟩) .reset = .ok _ := rfl
  refine ⟨_, h, ?_⟩
  intro g
  obtain ⟨hsense, hlines⟩ := sensor_agrees_with_moves g
  have hcollides : (m.interpret (Text.ofString "MOVER baıxo 1") g).1 = .error .collision := by
    decide +kernel
  have hbelow := (hlines id line (Text.ofString "se") (Text.ofString "obstaculo")
    (Text.ofString "baıxo") [Text.ofString "mover", Text.ofString "DIREITA", Text.ofString "1"]
    (Text.ofString "MOVER baıxo 1") (Text.ofString "MOVER") (Text.ofString "1")
    (by decide +kernel) (by simp) (by decide +kernel) (by decide +kernel) (by decide +kernel)
    (by decide +kernel) (by decide +kernel)).1
    ⟨⟨.down, by decide, by decide +kernel⟩, hcollides⟩
  have habove := (hlines id line' (Text.ofString "SE") (Text.ofString "OBSTACULO")
    (Text.ofString "CIMA") [Text.ofString "MOVER", Text.ofString "DIREITA", Text.ofString "1"]
    (Text.ofString "MOVER CIMA 1") (Text.ofString "MOVER") (Text.ofString "1")
    (by decide +kernel) (by simp) (by decide +kernel) (by decide +kernel) (by decide +kernel)
    (by decide +kernel) (by decide +kernel)).2
    (fun hcollides => absurd hcollides.2 (by decide +kernel))
  refine ⟨(hsense .down).1.2 ⟨by decide, rfl⟩, by decide +kernel, hcollides, ?_, ?_⟩
  · rw [hbelow]
    decide +kernel
  · have hupper : (Text.ofString "OBSTACULO").upper = Text.ofString "OBSTACULO" ∧
        (Text.ofString "CIMA").upper = Text.ofString "CIMA" := by decide +kernel
    rw [habove, hupper.1, hupper.2]

end GridRobot
