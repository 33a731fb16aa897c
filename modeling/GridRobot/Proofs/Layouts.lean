import GridRobot.Proofs.Board

/-!
# Layouts and their boards

A layout makes a board exactly if nothing in it is out of place (`Layout.Sound`,
`Board.exists_ofLayout_iff`). The loop that places the obstacles stops at the first one that is, but
whether it gets to its end does not depend on their order (`exists_foldlM_addObstacle_iff`). After a
number of obstacles the list of the board holds the first mention of each of them
(`Valid.obstacles_addObstacle`), so that at the end it is the list of the layout without its repeats
(`ofLayout_eq_ok`).

The cells of a board are determined by which positions hold an obstacle (`Valid.cells_eq`). Hence
layouts that list the same obstacles, in whatever order and however often, make boards that differ
in the order of their lists only (`ofLayout_relisted`).
-/

namespace GridRobot

/-- Nothing in a layout is out of place. -/
structure Layout.Sound (l : Layout) : Prop where
  size_pos : 0 < l.size
  robot_within : l.robot.within l.size = true
  target_within : l.target.within l.size = true
  obstacle_clear : ∀ p ∈ l.obstacles, p.within l.size = true ∧ p ≠ l.robot ∧ p ≠ l.target

/-! ## Cells by position -/

namespace Grid

variable {α : Type} {g h : Grid α} {n : Int64}

/-- Every slot of a grid belongs to a position, if its side is a 64-bit number. -/
theorem exists_slot? (hside : (g.side : Int) = n.toInt) {i : Nat} (hi : i < g.cells.size) :
    ∃ p, g.slot? p = some i := by
  have hpos : 0 < g.side := by
    rcases Nat.eq_zero_or_pos g.side with hzero | hpos
    · rw [g.size_cells, hzero] at hi
      omega
    · exact hpos
  have hbound := n.toInt_lt
  have hrow : i / g.side < g.side := by
    rw [g.size_cells] at hi
    exact Nat.div_lt_of_lt_mul hi
  have hcolumn : i % g.side < g.side := Nat.mod_lt i hpos
  have hint (k : Nat) (hk : k < g.side) : (Int64.ofNat k).toInt = k :=
    Int64.toInt_ofNat_of_lt (by omega)
  refine ⟨⟨Int64.ofNat (i / g.side), Int64.ofNat (i % g.side)⟩, slot?_eq_some_iff.2 ⟨?_, ?_⟩⟩
  · simp only [Has, hint _ hrow, hint _ hcolumn]
    exact ⟨Int.natCast_nonneg _, Int.ofNat_lt.2 hrow, Int.natCast_nonneg _, Int.ofNat_lt.2 hcolumn⟩
  · simp only [hint _ hrow, hint _ hcolumn, Int.toNat_natCast]
    exact Nat.div_add_mod' i g.side

/-- Grids with the same value at each position are the same. -/
theorem ext_get? (hside : (g.side : Int) = n.toInt) (heq : h.side = g.side)
    (hget : ∀ p, h.get? p = g.get? p) : h = g := by
  have hcells : h.cells = g.cells := by
    refine Array.ext (by rw [h.size_cells, g.size_cells, heq]) fun i hi hi' => ?_
    obtain ⟨p, hp⟩ := exists_slot? hside hi'
    have hp' : h.slot? p = some i := by
      unfold slot? at hp ⊢
      rwa [heq]
    have hvalue := hget p
    rw [get?_of_slot? hp, get?_of_slot? hp', Array.getElem?_eq_getElem hi,
      Array.getElem?_eq_getElem hi'] at hvalue
    exact Option.some.inj hvalue
  cases g
  cases h
  simp_all

end Grid

namespace Board

variable {b c : Board} {p : Position} {ps seen : List Position} {l : Layout}

/-- The cells of a board in order are determined by its size and its obstacles. -/
theorem Valid.cells_eq (hb : b.Valid) (hc : c.Valid) (hsize : c.size = b.size)
    (hobstacles : ∀ p, p ∈ c.obstacles ↔ p ∈ b.obstacles) : c.cells = b.cells := by
  have hside : c.cells.side = b.cells.side := by
    have hsides := hc.side_eq.trans (hsize ▸ hb.side_eq.symm)
    omega
  refine Grid.ext_get? hb.side_eq hside fun p => ?_
  have hhas : c.cells.Has p ↔ b.cells.Has p := by
    unfold Grid.Has
    rw [hside]
  by_cases hp : p ∈ b.obstacles
  · rw [(hb.obstacle_iff p).2 hp, (hc.obstacle_iff p).2 ((hobstacles p).2 hp)]
  · have hempty {a : Board} (ha : a.Valid) (hpa : p ∉ a.obstacles) :
        a.cells.get? p = some .empty ∨ (¬ a.cells.Has p ∧ a.cells.get? p = none) := by
      rcases hget : a.cells.get? p with _ | _ | _
      · refine .inr ⟨fun hhas => ?_, rfl⟩
        obtain ⟨cell, hcell⟩ := Grid.exists_get?_of_has hhas
        rw [hget] at hcell
        cases hcell
      · exact .inl rfl
      · exact absurd ((ha.obstacle_iff p).1 hget) hpa
    rcases hempty hb hp with hpb | ⟨hout, hpb⟩ <;>
      rcases hempty hc (mt (hobstacles p).1 hp) with hpc | ⟨hout', hpc⟩
    · rw [hpb, hpc]
    · exact absurd (hhas.2 (Grid.has_of_get? hpb)) hout'
    · exact absurd (hhas.1 (Grid.has_of_get? hpc)) hout
    · rw [hpb, hpc]

/-! ## The loop that places obstacles -/

theorem exists_addObstacle_iff : (∃ c, b.addObstacle p = .ok c) ↔
    b.inBounds p = true ∧ p ≠ b.robot ∧ p ≠ b.target := by
  constructor
  · rintro ⟨c, h⟩
    exact (addObstacle_eq_ok h).1
  · rintro ⟨hin, hrobot, htarget⟩
    by_cases hobs : b.isObstacle p = true <;> simp [addObstacle, hin, hrobot, htarget, hobs]

theorem addObstacle_frame (h : b.addObstacle p = .ok c) :
    c.size = b.size ∧ c.robot = b.robot ∧ c.target = b.target := by
  obtain ⟨-, ⟨-, rfl⟩ | ⟨-, rfl⟩⟩ := addObstacle_eq_ok h <;> exact ⟨rfl, rfl, rfl⟩

/-- Where the list holds the first mentions so far, placing one more obstacle keeps it so. -/
theorem Valid.obstacles_addObstacle (hb : b.Valid) (hseen : b.obstacles = seen.eraseDups)
    (h : b.addObstacle p = .ok c) : c.obstacles = (seen ++ [p]).eraseDups := by
  have hmem : b.isObstacle p = true ↔ p ∈ seen := by
    rw [hb.isObstacle_iff_mem, hseen, List.mem_eraseDups]
  rw [List.eraseDups_append]
  obtain ⟨-, ⟨hobs, rfl⟩ | ⟨hobs, rfl⟩⟩ := addObstacle_eq_ok h
  · simp [List.removeAll, hmem.1 hobs, hseen]
  · have hnew : p ∉ seen := fun hp => by simp [hmem.2 hp] at hobs
    simp [List.removeAll, hnew, hseen, List.eraseDups_cons]

/-- Whether all obstacles can be placed does not depend on which is placed first. -/
theorem exists_foldlM_addObstacle_iff : (∃ c, ps.foldlM addObstacle b = .ok c) ↔
    ∀ p ∈ ps, b.inBounds p = true ∧ p ≠ b.robot ∧ p ≠ b.target := by
  induction ps generalizing b with
  | nil => exact ⟨fun _ => by simp, fun _ => ⟨b, rfl⟩⟩
  | cons p ps ih =>
    rw [List.forall_mem_cons, ← exists_addObstacle_iff (b := b) (p := p), List.foldlM_cons]
    rcases hp : b.addObstacle p with e | b'
    · constructor
      · rintro ⟨c, hc⟩
        cases hc
      · rintro ⟨⟨c, hc⟩, -⟩
        cases hc
    · obtain ⟨hsize, hrobot, htarget⟩ := addObstacle_frame hp
      have hrest := ih (b := b')
      simp only [inBounds, hsize, hrobot, htarget] at hrest
      exact ⟨fun hc => ⟨⟨b', rfl⟩, hrest.1 hc⟩, fun hc => hrest.2 hc.2⟩

theorem Valid.foldlM_addObstacle (hb : b.Valid) (hseen : b.obstacles = seen.eraseDups)
    (h : ps.foldlM addObstacle b = .ok c) :
    (c.size = b.size ∧ c.robot = b.robot ∧ c.target = b.target) ∧
      c.obstacles = (seen ++ ps).eraseDups := by
  induction ps generalizing b seen with
  | nil =>
    cases h
    rw [List.append_nil]
    exact ⟨⟨rfl, rfl, rfl⟩, hseen⟩
  | cons p ps ih =>
    rw [List.foldlM_cons] at h
    rcases hp : b.addObstacle p with e | b'
    · rw [hp] at h
      cases h
    · rw [hp] at h
      obtain ⟨⟨hsize, hrobot, htarget⟩, hobstacles⟩ :=
        ih (hb.of_addObstacle hp) (hb.obstacles_addObstacle hseen hp) h
      obtain ⟨hsize', hrobot', htarget'⟩ := addObstacle_frame hp
      refine ⟨⟨hsize.trans hsize', hrobot.trans hrobot', htarget.trans htarget'⟩, ?_⟩
      rwa [List.append_assoc, List.singleton_append] at hobstacles

/-! ## Boards of layouts -/

theorem ofLayout_eq (hsize : 0 < l.size) (hrobot : l.robot.within l.size = true)
    (htarget : l.target.within l.size = true) :
    ofLayout l = l.obstacles.foldlM addObstacle (bare l) := by
  simp [ofLayout, Int64.not_le.2 hsize, hrobot, htarget]

/-- A layout makes a board exactly if nothing in it is out of place. -/
theorem exists_ofLayout_iff : (∃ b, ofLayout l = .ok b) ↔ l.Sound := by
  constructor
  · rintro ⟨b, h⟩
    unfold ofLayout at h
    split_ifs at h with hs hr ht
    have hclear := exists_foldlM_addObstacle_iff.1 ⟨b, h⟩
    exact ⟨Int64.not_le.1 hs, by simpa using hr, by simpa using ht, hclear⟩
  · intro hl
    rw [ofLayout_eq hl.size_pos hl.robot_within hl.target_within]
    exact exists_foldlM_addObstacle_iff.2 hl.obstacle_clear

/-- A board lists the first mention of each obstacle, in the order of the layout. -/
theorem ofLayout_eq_ok (h : ofLayout l = .ok b) :
    (b.size = l.size ∧ b.robot = l.robot ∧ b.target = l.target) ∧
      b.obstacles = l.obstacles.eraseDups := by
  have hl := exists_ofLayout_iff.1 ⟨b, h⟩
  have hbare := bare_valid hl.size_pos hl.robot_within hl.target_within
  have hnone : (bare l).obstacles = ([] : List Position).eraseDups := rfl
  rw [ofLayout_eq hl.size_pos hl.robot_within hl.target_within] at h
  exact hbare.foldlM_addObstacle hnone h

theorem ofLayout_spec (h : ofLayout l = .ok b) :
    (b.size = l.size ∧ b.robot = l.robot ∧ b.target = l.target) ∧
      ∀ p, p ∈ b.obstacles ↔ p ∈ l.obstacles := by
  obtain ⟨hframe, hobstacles⟩ := ofLayout_eq_ok h
  refine ⟨hframe, fun p => ?_⟩
  rw [hobstacles, List.mem_eraseDups]

/-- Boards that are the same but for the lists of their obstacles, which are the given ones. -/
def Relisted (ps qs : List Position) (b c : Board) : Prop :=
  b.obstacles = ps ∧ c = { b with obstacles := qs }

/-- Layouts that list the same obstacles make boards that differ in their lists only. -/
theorem ofLayout_relisted {l' : Layout} (hsize : l'.size = l.size) (hrobot : l'.robot = l.robot)
    (htarget : l'.target = l.target) (hobstacles : ∀ p, p ∈ l'.obstacles ↔ p ∈ l.obstacles)
    (h : ofLayout l = .ok b) :
    ∃ c, ofLayout l' = .ok c ∧ Relisted b.obstacles c.obstacles b c ∧
      b.obstacles.Perm c.obstacles := by
  have hl := exists_ofLayout_iff.1 ⟨b, h⟩
  have hl' : l'.Sound := by
    refine ⟨?_, ?_, ?_, fun p hp => ?_⟩
    · rw [hsize]
      exact hl.size_pos
    · rw [hsize, hrobot]
      exact hl.robot_within
    · rw [hsize, htarget]
      exact hl.target_within
    · rw [hsize, hrobot, htarget]
      exact hl.obstacle_clear p ((hobstacles p).1 hp)
  obtain ⟨c, h'⟩ := exists_ofLayout_iff.2 hl'
  have hb := valid_of_ofLayout h
  have hc := valid_of_ofLayout h'
  obtain ⟨⟨hbsize, hbrobot, hbtarget⟩, hbmem⟩ := ofLayout_spec h
  obtain ⟨⟨hcsize, hcrobot, hctarget⟩, hcmem⟩ := ofLayout_spec h'
  have hmem (p : Position) : p ∈ c.obstacles ↔ p ∈ b.obstacles := by
    rw [hcmem, hbmem, hobstacles]
  have hcells := hb.cells_eq hc (by rw [hcsize, hbsize, hsize]) hmem
  refine ⟨c, h', ⟨rfl, ?_⟩, ?_⟩
  · rw [← hcells, hbsize, ← hsize, ← hcsize, hbrobot, ← hrobot, ← hcrobot, hbtarget, ← htarget,
      ← hctarget]
  · exact (List.perm_ext_iff_of_nodup hb.obstacles_nodup hc.obstacles_nodup).2 fun p => (hmem p).symm

end Board

end GridRobot
