import GridRobot.Proofs.Moves
import GridRobot.Proofs.Reach
import Mathlib.Data.List.Chain
import Mathlib.Data.List.Nodup

/-!
# How the search goes

The search takes positions from a queue until it meets the target or the queue is empty.
`Board.Searches` follows it round by round and keeps the positions that it takes. A cell is marked
when it joins the queue, so that nothing in the queue is unseen and no position joins it twice
(`Board.Waiting`). Hence no position is taken twice (`Searches.nodup`), and there are at most as
many rounds as there are cells (`Board.exists_searches`, `Valid.count_unseenCells`).

The search answers whether there is a way to the target (`Board.Way`): a list of positions, each one
exact step ahead of the one before. Ways are the paths of free cells written out
(`Board.exists_way_of_path`, `Way.path`).
-/

namespace GridRobot

namespace Board

variable {b : Board} {p q t : Position} {queue taken taken' : List Position} {unseen : Grid Bool}
  {found found' : Bool}

/-! ## Rounds -/

/-- A run of the search for a target: from a queue and the cells not yet seen, the positions that
are taken from the queue one after the other, and the answer. -/
inductive Searches (t : Position) : List Position → Grid Bool → List Position → Bool → Prop where
  | exhausted (unseen : Grid Bool) : Searches t [] unseen [] false
  | found (queue : List Position) (unseen : Grid Bool) : Searches t (t :: queue) unseen [t] true
  | round {p : Position} {queue taken : List Position} {unseen : Grid Bool} {found : Bool}
      (hp : p ≠ t)
      (hrest : Searches t (queue ++ (explore p unseen).1) (explore p unseen).2 taken found) :
      Searches t (p :: queue) unseen (p :: taken) found

/-- The search ends with its answer. Each round takes one of the cells that are waiting or unseen,
and there are no more of them afterwards than the rest of these. -/
theorem exists_searches (t : Position) (queue : List Position) (unseen : Grid Bool) :
    ∃ taken, Searches t queue unseen taken (search t queue unseen) ∧
      taken.length ≤ queue.length + unseen.count id := by
  fun_induction search t queue unseen with
  | case1 unseen => exact ⟨[], .exhausted unseen, by simp⟩
  | case2 queue unseen =>
    refine ⟨[t], .found queue unseen, ?_⟩
    rw [List.length_singleton, List.length_cons]
    omega
  | case3 p queue unseen hp ih =>
    obtain ⟨taken, hrest, hlength⟩ := ih
    have hcount := length_add_count_explore p unseen
    rw [List.length_append] at hlength
    refine ⟨p :: taken, .round hp hrest, ?_⟩
    rw [List.length_cons, List.length_cons]
    omega

theorem Searches.unique (h : Searches t queue unseen taken found)
    (h' : Searches t queue unseen taken' found') : taken' = taken ∧ found' = found := by
  induction h generalizing taken' found' with
  | exhausted =>
    cases h'
    exact ⟨rfl, rfl⟩
  | found =>
    cases h' with
    | found => exact ⟨rfl, rfl⟩
    | round hp => exact absurd rfl hp
  | round hp _ ih =>
    cases h' with
    | found => exact absurd rfl hp
    | round _ hrest' =>
      obtain ⟨rfl, rfl⟩ := ih hrest'
      exact ⟨rfl, rfl⟩

/-! ## No position twice -/

/-- The positions in the queue are all different, and none of them is still unseen. -/
structure Waiting (queue : List Position) (unseen : Grid Bool) : Prop where
  nodup : queue.Nodup
  seen : ∀ p ∈ queue, unseen.get? p ≠ some true

theorem Waiting.notice {s : List Position × Grid Bool} (h : Waiting s.1 s.2) (p : Position) :
    Waiting (notice s p).1 (notice s p).2 := by
  constructor
  · unfold Board.notice
    split_ifs with hp
    · have hnew : p ∉ s.1 := fun hmem => h.seen p hmem hp
      rw [← List.concat_eq_append]
      exact h.nodup.concat hnew
    · exact h.nodup
  · intro q hq hunseen
    rw [get?_notice] at hunseen
    rcases (mem_notice s p q).1 hq with hmem | ⟨hqp, -⟩
    · exact h.seen q hmem hunseen.1
    · exact hunseen.2 hqp

theorem Waiting.foldl_notice {s : List Position × Grid Bool} (h : Waiting s.1 s.2)
    (ps : List Position) : Waiting (ps.foldl Board.notice s).1 (ps.foldl Board.notice s).2 := by
  induction ps generalizing s with
  | nil => exact h
  | cons p ps ih => exact ih (h.notice p)

/-- A round keeps the queue in order: what joins it was unseen before, and is marked now. -/
theorem Waiting.explore (h : Waiting (p :: queue) unseen) :
    Waiting (queue ++ (explore p unseen).1) (explore p unseen).2 := by
  have hnew : Waiting (Board.explore p unseen).1 (Board.explore p unseen).2 :=
    Waiting.foldl_notice (s := ([], unseen)) ⟨List.nodup_nil, by simp⟩ _
  have hseen (q : Position) (hq : q ∈ queue) : unseen.get? q ≠ some true :=
    h.seen q (List.mem_cons_of_mem p hq)
  constructor
  · refine List.nodup_append.2 ⟨h.nodup.of_cons, hnew.nodup, ?_⟩
    rintro q hq r hr rfl
    exact hseen q hq (mem_explore.1 hr).2
  · intro q hq hunseen
    rcases List.mem_append.1 hq with hq | hq
    · exact hseen q hq (unseen_explore.1 hunseen).1
    · exact hnew.seen q hq hunseen

/-- No position is taken from the queue twice: what is taken was waiting or unseen. -/
theorem Searches.nodup (h : Searches t queue unseen taken found) (hqueue : Waiting queue unseen) :
    taken.Nodup ∧ ∀ q ∈ taken, q ∈ queue ∨ unseen.get? q = some true := by
  induction h with
  | exhausted => simp
  | found => simp
  | @round p queue taken unseen found hp _ ih =>
    obtain ⟨hnodup, hfrom⟩ := ih hqueue.explore
    have hsource (q : Position) (hq : q ∈ taken) : q ∈ queue ∨ unseen.get? q = some true := by
      rcases hfrom q hq with hq | hq
      · exact (List.mem_append.1 hq).imp_right fun hq => (mem_explore.1 hq).2
      · exact .inr (unseen_explore.1 hq).1
    refine ⟨List.nodup_cons.2 ⟨fun hmem => ?_, hnodup⟩, fun q hq => ?_⟩
    · rcases hsource p hmem with hwaiting | hunseen
      · exact (List.nodup_cons.1 hqueue.nodup).1 hwaiting
      · exact hqueue.seen p List.mem_cons_self hunseen
    · rcases List.mem_cons.1 hq with rfl | hq
      · exact .inl List.mem_cons_self
      · exact (hsource q hq).imp_left (List.mem_cons_of_mem p)

/-! ## The search from the robot -/

theorem Valid.waiting_robot (hb : b.Valid) : Waiting [b.robot] b.unseenCells := by
  refine ⟨List.nodup_singleton _, fun p hp => ?_⟩
  rw [List.mem_singleton] at hp
  rw [hp, ne_eq, hb.get?_unseenCells]
  simp

/-- At first all cells but that of the robot may be unseen. -/
theorem Valid.count_unseenCells (hb : b.Valid) :
    (1 + b.unseenCells.count id : Int) ≤ b.size.toInt * b.size.toInt := by
  have hrobot : (b.cells.map (· == .empty)).get? b.robot = some true := by
    rw [Grid.get?_map, hb.robot_empty]
    rfl
  have hset := Grid.count_set (q := id) (b := false) hrobot rfl rfl
  have hle : (b.cells.map (· == .empty)).count id ≤ b.cells.side * b.cells.side := by
    have hsize : (b.cells.map (· == .empty)).cells.size = b.cells.side * b.cells.side :=
      (b.cells.map (· == .empty)).size_cells
    rw [← hsize]
    exact Array.countP_le_size
  rw [← hb.side_eq]
  unfold unseenCells
  have hcount : 1 + ((b.cells.map (· == .empty)).set b.robot false).count id ≤
      b.cells.side * b.cells.side := by omega
  exact_mod_cast hcount

/-! ## Ways -/

/-- A list of positions from one place to another. Each is one exact step ahead of the one before,
and all but the first are free. -/
structure Way (b : Board) (p t : Position) (way : List Position) : Prop where
  head_eq : way.head? = some p
  last_eq : way.getLast? = some t
  steps : way.IsChain fun q r => ∃ d : Direction, q.Ahead d 1 r
  free : ∀ q ∈ way.tail, b.isFree q = true

theorem ahead_one_iff (hp : b.inBounds p = true) {d : Direction} :
    p.Ahead d 1 q ↔ q = p.add d.delta := by
  have hahead := Position.ahead_add_delta hp d
  constructor
  · intro hq
    exact Position.coords_injective
      ((Position.ahead_iff.1 hq).trans (Position.ahead_iff.1 hahead).symm)
  · rintro rfl
    exact hahead

theorem exists_way_of_path (h : b.Path p t) (hp : b.inBounds p = true) : ∃ way, b.Way p t way := by
  induction h using Relation.ReflTransGen.head_induction_on with
  | refl => exact ⟨[t], rfl, rfl, .singleton t, by simp⟩
  | @head p q hs _ ih =>
    obtain ⟨⟨d, hd⟩, hfree⟩ := hs
    obtain ⟨way, hway⟩ := ih (isFree_iff.1 hfree).1
    obtain ⟨rest, rfl⟩ : ∃ rest, way = q :: rest := List.head?_eq_some_iff.1 hway.head_eq
    refine ⟨p :: q :: rest, rfl, ?_, ?_, ?_⟩
    · rw [List.getLast?_cons_cons]
      exact hway.last_eq
    · exact List.isChain_cons_cons.2 ⟨⟨d, (ahead_one_iff hp).2 hd⟩, hway.steps⟩
    · exact List.forall_mem_cons.2 ⟨hfree, hway.free⟩

theorem Way.path {way : List Position} (h : b.Way p t way) (hp : b.inBounds p = true) :
    b.Path p t := by
  obtain ⟨rest, rfl⟩ : ∃ rest, way = p :: rest := List.head?_eq_some_iff.1 h.head_eq
  induction rest generalizing p with
  | nil =>
    obtain rfl : p = t := by simpa using h.last_eq
    exact .refl
  | cons q rest ih =>
    obtain ⟨⟨d, hd⟩, hsteps⟩ := List.isChain_cons_cons.1 h.steps
    obtain ⟨hfree, hrest⟩ := List.forall_mem_cons.1 h.free
    have hlast : (q :: rest).getLast? = some t := by
      rw [← h.last_eq, List.getLast?_cons_cons]
    have hpath := ih (isFree_iff.1 hfree).1 ⟨rfl, hlast, hsteps, hrest⟩
    exact .head ⟨⟨d, (ahead_one_iff hp).1 hd⟩, hfree⟩ hpath

end Board

/-- On every board in order, of whatever size, the search from the robot ends. It takes no position
from its queue twice, and so no more positions than there are cells. It answers that the target can
be reached exactly if there is a list of positions from the robot to the target, each one step ahead
of the one before in one of the eight directions, in which all but the first are free. -/
theorem search_ends_and_finds_ways {b : Board} (hb : b.Valid) :
    (∃ taken, (∀ taken' found, Board.Searches b.target [b.robot] b.unseenCells taken' found ↔
        taken' = taken ∧ found = b.reachable) ∧
      taken.Nodup ∧ (taken.length : Int) ≤ b.size.toInt * b.size.toInt) ∧
    (b.reachable = true ↔ ∃ way, b.Way b.robot b.target way) := by
  constructor
  · obtain ⟨taken, hsearch, hlength⟩ :=
      Board.exists_searches b.target [b.robot] b.unseenCells
    have hcount := hb.count_unseenCells
    refine ⟨taken, fun taken' found => ⟨hsearch.unique, ?_⟩, (hsearch.nodup hb.waiting_robot).1, ?_⟩
    · rintro ⟨rfl, rfl⟩
      exact hsearch
    · rw [List.length_singleton] at hlength
      omega
  · rw [hb.reachable_iff]
    constructor
    · intro hpath
      exact Board.exists_way_of_path hpath hb.robot_inBounds
    · rintro ⟨way, hway⟩
      exact hway.path hb.robot_inBounds

/-- A target that can be reached by two diagonal steps only. -/
theorem search_between_corners :
    ∃ b, Board.ofLayout ⟨3, ⟨0, 0⟩, ⟨2, 2⟩, [⟨0, 1⟩, ⟨1, 0⟩, ⟨1, 2⟩, ⟨2, 1⟩]⟩ = .ok b ∧
      b.reachable = true ∧
      ∃ taken, Board.Searches b.target [b.robot] b.unseenCells taken b.reachable ∧
        taken.Nodup ∧ taken.length ≤ 9 := by
  have h : Board.ofLayout ⟨3, ⟨0, 0⟩, ⟨2, 2⟩, [⟨0, 1⟩, ⟨1, 0⟩, ⟨1, 2⟩, ⟨2, 1⟩]⟩ = .ok _ := rfl
  refine ⟨_, h, ?_⟩
  obtain ⟨⟨taken, hsearch, hnodup, hlength⟩, hreach⟩ :=
    search_ends_and_finds_ways (Board.valid_of_ofLayout h)
  refine ⟨hreach.2 ⟨[⟨0, 0⟩, ⟨1, 1⟩, ⟨2, 2⟩], rfl, rfl, ?_, by decide⟩, taken,
    (hsearch taken _).2 ⟨rfl, rfl⟩, hnodup, Int.ofNat_le.1 hlength⟩
  have hfirst : Position.Ahead .downRight 1 ⟨0, 0⟩ ⟨1, 1⟩ := ⟨by decide, by decide⟩
  have hsecond : Position.Ahead .downRight 1 ⟨1, 1⟩ ⟨2, 2⟩ := ⟨by decide, by decide⟩
  exact List.isChain_cons_cons.2 ⟨⟨_, hfirst⟩,
    List.isChain_cons_cons.2 ⟨⟨_, hsecond⟩, .singleton _⟩⟩

end GridRobot
