import GridRobot.Board.Reach
import GridRobot.Proofs.Board

/-!
# The search finds the target

The search from the robot answers whether there is a way to the target by single steps onto free
cells (`Valid.reachable_iff`). A round of the search takes the unseen neighbours of one position
(`mem_explore`, `unseen_explore`), and what it takes away can only cut a trail at a position that
now waits in the queue (`Trail.cut`); this carries `search_eq_true_iff` through the rounds.

Steps between free cells can be taken back, so that the answer is the same from every position the
robot can get to (`Valid.reachable_eq_of_path`), and no move changes it
(`Valid.reachable_moved`).
-/

namespace GridRobot

variable {ok ok' : Position → Prop} {p q t : Position}

theorem Trail.mono (h : Trail ok p q) (hok : ∀ r, ok r → ok' r) : Trail ok' p q :=
  Relation.ReflTransGen.mono (fun _ r hs => ⟨hs.1, hok r hs.2⟩) p q h

/-- If some positions are gone, then a trail is still there, or the last part of it is from one of
those that are gone. -/
theorem Trail.cut (h : Trail ok p t) (left gone : Position → Prop)
    (hcut : ∀ r, ok r → left r ∨ gone r) : Trail left p t ∨ ∃ r, gone r ∧ Trail left r t := by
  induction h using Relation.ReflTransGen.head_induction_on with
  | refl => exact .inl .refl
  | @head p r hs _ ih =>
    rcases ih with hr | hr
    · rcases hcut r hs.2 with hr' | hr'
      · exact .inl (.head ⟨hs.1, hr'⟩ hr)
      · exact .inr ⟨r, hr', hr⟩
    · exact .inr hr

namespace Board

/-! ## One round of the search -/

theorem get?_notice (s : List Position × Grid Bool) (p q : Position) :
    (notice s p).2.get? q = some true ↔ s.2.get? q = some true ∧ q ≠ p := by
  unfold notice
  split_ifs with hp
  · rw [Grid.get?_set]
    split_ifs with hq
    · simp [hp, hq]
    · simp [hq]
  · refine ⟨fun hq => ⟨hq, ?_⟩, And.left⟩
    rintro rfl
    exact hp hq

theorem mem_notice (s : List Position × Grid Bool) (p q : Position) :
    q ∈ (notice s p).1 ↔ q ∈ s.1 ∨ (q = p ∧ s.2.get? q = some true) := by
  unfold notice
  split_ifs with hp
  · rw [List.mem_append, List.mem_singleton]
    refine or_congr_right ⟨fun hq => ⟨hq, hq ▸ hp⟩, And.left⟩
  · refine ⟨.inl, ?_⟩
    rintro (hq | ⟨rfl, hq⟩)
    · exact hq
    · exact absurd hq hp

theorem get?_foldl_notice (ps : List Position) (s : List Position × Grid Bool) (q : Position) :
    (ps.foldl notice s).2.get? q = some true ↔ s.2.get? q = some true ∧ q ∉ ps := by
  induction ps generalizing s with
  | nil => simp
  | cons p ps ih => rw [List.foldl_cons, ih, get?_notice, List.mem_cons, not_or, and_assoc]

theorem mem_foldl_notice (ps : List Position) (s : List Position × Grid Bool) (q : Position) :
    q ∈ (ps.foldl notice s).1 ↔ q ∈ s.1 ∨ (q ∈ ps ∧ s.2.get? q = some true) := by
  induction ps generalizing s with
  | nil => simp
  | cons p ps ih =>
    rw [List.foldl_cons, ih, mem_notice, get?_notice, List.mem_cons]
    by_cases hq : q = p <;> simp [hq]

theorem mem_neighbours : (q ∈ Direction.all.map fun d => p.add d.delta) ↔
    ∃ d : Direction, q = p.add d.delta := by
  simp [Direction.mem_all, eq_comm]

theorem mem_explore {unseen : Grid Bool} : q ∈ (explore p unseen).1 ↔
    StepOnto (fun r => unseen.get? r = some true) p q := by
  rw [explore, mem_foldl_notice, mem_neighbours]
  simp [StepOnto]

theorem unseen_explore {unseen : Grid Bool} : (explore p unseen).2.get? q = some true ↔
    unseen.get? q = some true ∧ ¬ ∃ d : Direction, q = p.add d.delta := by
  rw [explore, get?_foldl_notice, mem_neighbours]

/-! ## The whole search -/

/-- The trails that a round leaves to be searched are as good as those before it. -/
theorem exists_trail_explore_iff {queue : List Position} {unseen : Grid Bool} (hp : p ≠ t) :
    (∃ r ∈ queue ++ (explore p unseen).1,
        Trail (fun q => (explore p unseen).2.get? q = some true) r t) ↔
      ∃ r ∈ p :: queue, Trail (fun q => unseen.get? q = some true) r t := by
  constructor
  · rintro ⟨r, hr, htrail⟩
    have htrail' := htrail.mono fun q hq => (unseen_explore.1 hq).1
    rcases List.mem_append.1 hr with hr | hr
    · exact ⟨r, List.mem_cons_of_mem p hr, htrail'⟩
    · exact ⟨p, List.mem_cons_self, .head (mem_explore.1 hr) htrail'⟩
  · rintro ⟨r, hr, htrail⟩
    have hcut := htrail.cut (fun q => (explore p unseen).2.get? q = some true)
      (fun q => q ∈ (explore p unseen).1) fun q hq => by
        rw [unseen_explore, mem_explore]
        by_cases hd : ∃ d : Direction, q = p.add d.delta
        · exact .inr ⟨hd, hq⟩
        · exact .inl ⟨hq, hd⟩
    rcases hcut with hleft | ⟨q, hq, hleft⟩
    · rcases List.mem_cons.1 hr with rfl | hr
      · -- no neighbour of the position is left unseen, so no trail starts there any more
        rcases hleft.cases_head with rfl | ⟨q, hs, -⟩
        · exact absurd rfl hp
        · exact absurd hs.1 (unseen_explore.1 hs.2).2
      · exact ⟨r, List.mem_append_left _ hr, hleft⟩
    · exact ⟨q, List.mem_append_right _ hq, hleft⟩

theorem search_eq_true_iff (queue : List Position) (unseen : Grid Bool) :
    search t queue unseen = true ↔
      ∃ p ∈ queue, Trail (fun q => unseen.get? q = some true) p t := by
  fun_induction search t queue unseen with
  | case1 => simp
  | case2 unseen queue =>
    simp only [true_iff]
    exact ⟨t, List.mem_cons_self, .refl⟩
  | case3 unseen p queue hp ih => rw [ih, exists_trail_explore_iff hp]

variable {b c : Board} {d : Direction}

theorem Valid.get?_unseenCells (hb : b.Valid) :
    b.unseenCells.get? q = some true ↔ b.isFree q = true ∧ q ≠ b.robot := by
  rw [unseenCells, Grid.get?_set]
  split_ifs with hq
  · simp [hq]
  · simp [Grid.get?_map, hb.isFree_iff, hq]

/-- The search tells whether there is a way from the robot to the target. -/
theorem Valid.reachable_iff (hb : b.Valid) : b.reachable = true ↔ b.Path b.robot b.target := by
  rw [reachable, search_eq_true_iff]
  simp only [List.mem_singleton, exists_eq_left, hb.get?_unseenCells]
  refine ⟨fun h => h.mono fun _ => And.left, fun h => ?_⟩
  -- a way that comes back to the robot may as well start there
  have hcut := h.cut (fun q => b.isFree q = true ∧ q ≠ b.robot) (· = b.robot) fun q hq => by
    by_cases hr : q = b.robot
    · exact .inr hr
    · exact .inl ⟨hq, hr⟩
  rcases hcut with h' | ⟨_, rfl, h'⟩ <;> exact h'

/-! ## Moving does not change the answer -/

theorem Path.symm (h : b.Path p q) (hp : b.isFree p = true) : b.Path q p := by
  induction h with
  | refl => exact .refl
  | @tail q r hpq hs ih =>
    obtain ⟨⟨d, rfl⟩, -⟩ := hs
    exact .head ⟨⟨d.opposite, (Direction.add_delta_opposite q d).symm⟩, Path.isFree hpq hp⟩ ih

theorem SameGround.path_iff (h : b.SameGround c) : c.Path p q ↔ b.Path p q := by
  simp [Path, isFree, inBounds, h.size_eq, h.cells_eq]

/-- The answer of the search is the same wherever the robot can get to. -/
theorem Valid.reachable_eq_of_path (hb : b.Valid) (hc : c.Valid) (h : b.SameGround c)
    (hpath : b.Path b.robot c.robot) : c.reachable = b.reachable := by
  rw [Bool.eq_iff_iff, hb.reachable_iff, hc.reachable_iff, h.path_iff, h.target_eq]
  exact ⟨hpath.trans, (Path.symm hpath hb.isFree_robot).trans⟩

theorem Valid.reachable_of_move (hb : b.Valid) {n : Int64} (h : b.move d n = .ok c) :
    c.reachable = b.reachable :=
  hb.reachable_eq_of_path (hb.of_move h) (sameGround_of_move h) (path_of_move hb h)

theorem Valid.reachable_moved (hb : b.Valid) (d : Direction) (n : Int64) :
    (b.moved d n).reachable = b.reachable := by
  unfold moved
  split
  · next h => exact hb.reachable_of_move h
  · rfl

end Board

end GridRobot
