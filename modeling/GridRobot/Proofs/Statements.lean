import GridRobot.BoardFile.Layout
import GridRobot.Proofs.Lexemes
import Mathlib.Data.List.Forall2

/-!
# What a board file says

The pieces of a board file are those of its statements: a keyword and the numerals that it needs
(`Entry`). An entry means a statement if each of its numerals has a value (`Entry.Means`), and the
statements of a file describe a layout if the size and the target are given once and the robot's
place at most once (`Describes`). A file that is read is made of entries (`exists_laid_of_read`),
and one that is made of entries is read as the layout that these describe (`Laid.read_eq_ok_iff`).
If one of them means nothing, a numeral without a value is blamed (`Laid.blames_of_read`).
-/

namespace GridRobot

namespace BoardFile

variable {t : Text} {w : Word} {ts : List Token} {ps : List Piece} {c : Content}
  {numerals : List Text} {ending : Place} {f : Fault}

/-! ## Entries -/

/-- The keyword of a statement. -/
def Content.word : Content → Word
  | size _ => .size
  | robot _ => .robot
  | target _ => .target
  | obstacle _ => .obstacle

/-- The numbers of a statement. -/
def Content.numbers : Content → List Int64
  | size n => [n]
  | robot p => [p.x, p.y]
  | target p => [p.x, p.y]
  | obstacle p => [p.x, p.y]

/-- A statement as it is written: a keyword in some spelling, and as many numerals as it needs. -/
structure Entry where
  word : Word
  keyword : Text
  numerals : List Text
  length_numerals : numerals.length = word.arity

/-- The pieces of an entry. -/
def Entry.pieces (e : Entry) : List Piece :=
  (.keyword e.word, e.keyword) :: e.numerals.map (.number, ·)

/-- Whether an entry means a statement if its numerals are read with `number?`. -/
def Entry.Means (number? : Text → Option Int64) (e : Entry) (c : Content) : Prop :=
  e.word = c.word ∧ e.numerals.map number? = c.numbers.map some

/-- The value of a numeral in a board file. -/
def boardNumber? (t : Text) : Option Int64 :=
  (Text.readNumeral t).toOption

/-- Whether a fault is that one of some numerals has no value. -/
def Fault.Blames (f : Fault) (numerals : List Text) : Prop :=
  ∃ place u why, u ∈ numerals ∧ Text.readNumeral u = .error why ∧ f = .badNumber place u why

theorem boardNumber?_of_ok {n : Int64} (h : Text.readNumeral t = .ok n) :
    boardNumber? t = some n := by
  rw [boardNumber?, h]
  rfl

theorem boardNumber?_of_error {why : NumeralError} (h : Text.readNumeral t = .error why) :
    boardNumber? t = none := by
  rw [boardNumber?, h]
  rfl

/-- Whether a computation gives something with a property, unless it blames one of some numerals. -/
def GivesOrBlames {α : Type} (x : Except Fault α) (P : α → Prop) (numerals : List Text) : Prop :=
  (∃ a, x = .ok a ∧ P a) ∨ ∃ f, x = .error f ∧ f.Blames numerals

namespace GivesOrBlames

variable {α β : Type} {x : Except Fault α} {P : α → Prop} {Q : β → Prop} {us : List Text}

theorem bind {g : α → Except Fault β} (hx : GivesOrBlames x P us)
    (hg : ∀ a, P a → GivesOrBlames (g a) Q us) : GivesOrBlames (x >>= g) Q us := by
  rcases hx with ⟨a, rfl, ha⟩ | ⟨f, rfl, hf⟩
  · exact hg a ha
  · exact .inr ⟨f, rfl, hf⟩

theorem map {g : α → β} (hx : GivesOrBlames x P us) (hg : ∀ a, P a → Q (g a)) :
    GivesOrBlames (g <$> x) Q us := by
  rcases hx with ⟨a, rfl, ha⟩ | ⟨f, rfl, hf⟩
  · exact .inl ⟨g a, rfl, hg a ha⟩
  · exact .inr ⟨f, rfl, hf⟩

theorem mono {R : α → Prop} {vs : List Text} (hx : GivesOrBlames x P us)
    (hR : ∀ a, P a → R a) (hsub : us ⊆ vs) : GivesOrBlames x R vs := by
  rcases hx with ⟨a, hx, ha⟩ | ⟨f, hf, place, u, why, hu, hread, rfl⟩
  · exact .inl ⟨a, hx, hR a ha⟩
  · exact .inr ⟨_, hf, place, u, why, hsub hu, hread, rfl⟩

end GivesOrBlames

/-! ## Statements of tokens -/

theorem needNumber_eq_ok {expected : Expected} {o : Option Token} {x : Token} :
    needNumber ending expected o = .ok x ↔ o = some x ∧ x.kind = .number := by
  rcases o with _ | ⟨_ | _, text, place, gap⟩
  · simp [needNumber]
  · simp only [needNumber, reduceCtorEq, Option.some.injEq, false_iff, not_and]
    rintro rfl
    exact TokenKind.noConfusion
  · simp only [needNumber, Except.ok.injEq, Option.some.injEq]
    constructor
    · rintro rfl
      exact ⟨rfl, rfl⟩
    · exact And.left

theorem Token.value_of_ok {x : Token} {n : Int64} (h : Text.readNumeral x.text = .ok n) :
    x.value = .ok n := by
  rw [Token.value, h]
  rfl

theorem Token.value_of_error {x : Token} {why : NumeralError}
    (h : Text.readNumeral x.text = .error why) :
    x.value = .error (.badNumber x.gap x.text why) := by
  rw [Token.value, h]
  rfl

/-- Tokens that are a numeral and more begin with a number. -/
theorem exists_number {u : Text} (h : ts.map Token.piece = (u :: numerals).map (.number, ·) ++ ps) :
    ∃ x ts', ts = x :: ts' ∧ x.kind = .number ∧ x.text = u ∧
      ts'.map Token.piece = numerals.map (.number, ·) ++ ps := by
  obtain ⟨x, ts', rfl, hx, hts'⟩ := List.map_eq_cons_iff.1 h
  rw [Token.piece, Prod.mk.injEq] at hx
  exact ⟨x, ts', rfl, hx.1, hx.2, hts'⟩

theorem coordinate_of_numbers {x y : Token} (hx : x.kind = .number) (hy : y.kind = .number) :
    coordinate ending (x :: y :: ts) = do return ⟨← x.value, ← y.value⟩ := by
  have hneedx (expected : Expected) : needNumber ending expected (some x) = .ok x :=
    needNumber_eq_ok.2 ⟨rfl, hx⟩
  have hneedy (expected : Expected) : needNumber ending expected (some y) = .ok y :=
    needNumber_eq_ok.2 ⟨rfl, hy⟩
  unfold coordinate
  rw [List.head?_cons, List.tail_cons, List.head?_cons, hneedx, hneedy]
  rfl

theorem Token.value_spec {x : Token} {us : List Text} (hx : x.text ∈ us) :
    GivesOrBlames x.value (fun n => boardNumber? x.text = some n) us := by
  rcases hread : Text.readNumeral x.text with why | n
  · exact .inr ⟨_, value_of_error hread, x.gap, x.text, why, hx, hread, rfl⟩
  · exact .inl ⟨n, value_of_ok hread, boardNumber?_of_ok hread⟩

/-- What comes of two numerals where a coordinate is read. -/
theorem coordinate_spec (ending : Place) (hlength : numerals.length = 2)
    (h : ts.map Token.piece = numerals.map (.number, ·) ++ ps) :
    GivesOrBlames (coordinate ending ts)
      (fun p => numerals.map boardNumber? = [some p.x, some p.y]) numerals := by
  obtain ⟨u, v, rfl⟩ := List.length_eq_two.1 hlength
  obtain ⟨x, ts, rfl, hx, rfl, hts⟩ := exists_number h
  obtain ⟨y, ts, rfl, hy, rfl, -⟩ := exists_number hts
  rw [coordinate_of_numbers hx hy]
  refine (Token.value_spec (by simp)).bind fun n hn => ?_
  refine (Token.value_spec (by simp)).bind fun m hm => ?_
  exact .inl ⟨⟨n, m⟩, rfl, by simp [hn, hm]⟩

/-- What comes of a keyword with its numerals: what they mean, or a numeral is blamed. -/
theorem content_spec (ending : Place) (hlength : numerals.length = w.arity)
    (h : ts.map Token.piece = numerals.map (.number, ·) ++ ps) :
    GivesOrBlames (content ending ts w)
      (fun c => w = c.word ∧ numerals.map boardNumber? = c.numbers.map some) numerals := by
  cases w with
  | size =>
    obtain ⟨u, rfl⟩ := List.length_eq_one_iff.1 hlength
    obtain ⟨x, ts, rfl, hx, rfl, -⟩ := exists_number h
    have hneed : needNumber ending .number (some x) = .ok x := needNumber_eq_ok.2 ⟨rfl, hx⟩
    have hcontent : content ending (x :: ts) .size = .size <$> x.value := by
      rw [content, List.head?_cons, hneed]
      rfl
    rw [hcontent]
    exact (Token.value_spec (by simp)).map fun n hn => ⟨rfl, by simp [Content.numbers, hn]⟩
  | robot => exact (coordinate_spec ending hlength h).map fun _ hp => ⟨rfl, hp⟩
  | target => exact (coordinate_spec ending hlength h).map fun _ hp => ⟨rfl, hp⟩
  | obstacle => exact (coordinate_spec ending hlength h).map fun _ hp => ⟨rfl, hp⟩

theorem exists_numbers_of_coordinate {p : Position} (h : coordinate ending ts = .ok p) :
    ∃ x y ts', ts = x :: y :: ts' ∧ x.kind = .number ∧ y.kind = .number := by
  unfold coordinate at h
  rcases hx : needNumber ending .coordinate ts.head? with e | x
  · rw [hx] at h
    cases h
  · rcases hy : needNumber ending .number ts.tail.head? with e | y
    · rw [hx, hy] at h
      cases h
    · rw [needNumber_eq_ok] at hx hy
      obtain ⟨ts, rfl⟩ := List.head?_eq_some_iff.1 hx.1
      obtain ⟨ts, rfl⟩ := List.head?_eq_some_iff.1 hy.1
      exact ⟨x, y, ts, rfl, hx.2, hy.2⟩

/-- Where a keyword makes a statement, as many numerals follow it as it needs. -/
theorem exists_numerals_of_content (h : content ending ts w = .ok c) :
    ∃ numerals : List Text, numerals.length = w.arity ∧
      (ts.take w.arity).map Token.piece = numerals.map (.number, ·) := by
  have hplace {make : Position → Content} (h : make <$> coordinate ending ts = .ok c) :
      ∃ numerals : List Text, numerals.length = 2 ∧
        (ts.take 2).map Token.piece = numerals.map (.number, ·) := by
    rcases hp : coordinate ending ts with e | p
    · rw [hp] at h
      cases h
    · obtain ⟨x, y, ts, rfl, hx, hy⟩ := exists_numbers_of_coordinate hp
      exact ⟨[x.text, y.text], rfl, by simp [Token.piece, hx, hy]⟩
  cases w with
  | size =>
    unfold content at h
    rcases hx : needNumber ending .number ts.head? with e | x
    · rw [hx] at h
      cases h
    · rw [needNumber_eq_ok] at hx
      obtain ⟨ts, rfl⟩ := List.head?_eq_some_iff.1 hx.1
      exact ⟨[x.text], rfl, by simp [Word.arity, Token.piece, hx.2]⟩
  | robot => exact hplace h
  | target => exact hplace h
  | obstacle => exact hplace h

/-- Tokens that make statements are those of entries. -/
theorem exists_entries_of_statementsOnto {read ss : List Statement}
    (h : statementsOnto ending read ts = .ok ss) :
    ∃ es : List Entry, ts.map Token.piece = es.flatMap Entry.pieces := by
  fun_induction statementsOnto ending read ts with
  | case1 read => exact ⟨[], rfl⟩
  | case2 => cases h
  | case3 => cases h
  | case4 read t ts w hkind c hcontent ih =>
    obtain ⟨es, hes⟩ := ih h
    obtain ⟨numerals, hlength, htaken⟩ := exists_numerals_of_content hcontent
    refine ⟨⟨w, t.text, numerals, hlength⟩ :: es, ?_⟩
    rw [List.map_cons, ← List.take_append_drop w.arity ts, List.map_append, htaken, hes,
      Token.piece, hkind]
    rfl

/-- What comes of the tokens of entries: the statements that these mean, or a numeral is blamed. -/
theorem statementsOnto_spec (ending : Place) (read : List Statement) {es : List Entry}
    (h : ts.map Token.piece = es.flatMap Entry.pieces) :
    GivesOrBlames (statementsOnto ending read ts)
      (fun ss => ∃ cs, es.Forall₂ (Entry.Means boardNumber?) cs ∧
        ss.map Statement.content = read.reverse.map Statement.content ++ cs)
      (es.flatMap Entry.numerals) := by
  induction es generalizing ts read with
  | nil =>
    rw [List.flatMap_nil, List.map_eq_nil_iff] at h
    rw [h, statementsOnto]
    exact .inl ⟨_, rfl, [], .nil, by simp⟩
  | cons e es ih =>
    obtain ⟨t, ts, rfl, ht, hts⟩ := List.map_eq_cons_iff.1 h
    rw [Token.piece, Prod.mk.injEq] at ht
    have hstep : statementsOnto ending read (t :: ts) =
        content ending ts e.word >>= fun c =>
          statementsOnto ending (⟨t.place, c⟩ :: read) (ts.drop e.word.arity) := by
      rw [statementsOnto, ht.1]
      dsimp only
      cases content ending ts e.word <;> rfl
    have hrest : (ts.drop e.word.arity).map Token.piece = es.flatMap Entry.pieces := by
      rw [List.map_drop, hts, ← e.length_numerals]
      exact List.drop_left' (List.length_map _)
    rw [hstep, List.flatMap_cons]
    refine ((content_spec ending e.length_numerals hts).mono (fun _ => id)
      (List.subset_append_left _ _)).bind fun c hc => ?_
    refine (ih (⟨t.place, c⟩ :: read) hrest).mono ?_ (List.subset_append_right _ _)
    rintro ss ⟨cs, hmeans, hcs⟩
    exact ⟨c :: cs, .cons hc hmeans, by simp [hcs]⟩

/-! ## Layouts of statements -/

/-- The size that a statement gives. -/
def Content.size? : Content → Option Int64
  | size n => some n
  | _ => none

/-- The robot's place that a statement gives. -/
def Content.robot? : Content → Option Position
  | robot p => some p
  | _ => none

/-- The target that a statement gives. -/
def Content.target? : Content → Option Position
  | target p => some p
  | _ => none

/-- The obstacle that a statement gives. -/
def Content.obstacle? : Content → Option Position
  | obstacle p => some p
  | _ => none

/-- Whether statements describe a layout: the size and the target are given once, the robot's place
is given once or is the origin, and the obstacles are those given, in their order. -/
structure Describes (cs : List Content) (l : Layout) : Prop where
  size : cs.filterMap Content.size? = [l.size]
  target : cs.filterMap Content.target? = [l.target]
  robot : ∃ r : Option Position, cs.filterMap Content.robot? = r.toList ∧ l.robot = r.getD .origin
  obstacles : l.obstacles = cs.filterMap Content.obstacle?

/-- Whether a draft has turned into another with what statements say, the obstacles apart. A draft
has no room for a second value of a kind. -/
structure Draft.Extends (d : Draft) (cs : List Content) (d' : Draft) : Prop where
  size : d'.size.toList = d.size.toList ++ cs.filterMap Content.size?
  robot : d'.robot.toList = d.robot.toList ++ cs.filterMap Content.robot?
  target : d'.target.toList = d.target.toList ++ cs.filterMap Content.target?

variable {cs : List Content} {ss : List Statement} {d d' : Draft} {s : Statement} {l : Layout}

theorem once_eq_ok {α : Type} {place : Place} {old v : Option α} {new : α} :
    once place w old new = .ok v ↔ v.toList = old.toList ++ [new] := by
  rcases old with _ | a
  · rcases v with _ | b
    · simp [once]
    · simp [once, eq_comm]
  · cases v <;> simp [once]

theorem toList_inj {α : Type} {o o' : Option α} : o.toList = o'.toList ↔ o = o' := by
  cases o <;> cases o' <;> simp

/-- A part of the one value that there may be is a value or none. -/
theorem exists_toList {α : Type} {o : Option α} {xs ys : List α} (h : o.toList = xs ++ ys) :
    ∃ o' : Option α, o'.toList = xs := by
  rcases xs with _ | ⟨x, _ | ⟨y, xs⟩⟩
  · exact ⟨none, rfl⟩
  · exact ⟨some x, rfl⟩
  · cases o <;> simp at h

namespace Draft

theorem extends_iff : d.Extends cs d' ↔
    d'.size.toList = d.size.toList ++ cs.filterMap Content.size? ∧
      d'.robot.toList = d.robot.toList ++ cs.filterMap Content.robot? ∧
      d'.target.toList = d.target.toList ++ cs.filterMap Content.target? :=
  ⟨fun ⟨hsize, hrobot, htarget⟩ => ⟨hsize, hrobot, htarget⟩,
    fun ⟨hsize, hrobot, htarget⟩ => ⟨hsize, hrobot, htarget⟩⟩

theorem extends_nil : d.Extends [] d' ↔ d = d' := by
  obtain ⟨size, robot, target⟩ := d
  obtain ⟨size', robot', target'⟩ := d'
  simp [extends_iff, toList_inj, eq_comm]

theorem extends_append {cs' : List Content} :
    d.Extends (cs ++ cs') d' ↔ ∃ d₁, d.Extends cs d₁ ∧ d₁.Extends cs' d' := by
  constructor
  · rintro ⟨hsize, hrobot, htarget⟩
    rw [List.filterMap_append, ← List.append_assoc] at hsize hrobot htarget
    obtain ⟨size, hsize₁⟩ := exists_toList hsize
    obtain ⟨robot, hrobot₁⟩ := exists_toList hrobot
    obtain ⟨target, htarget₁⟩ := exists_toList htarget
    rw [← hsize₁] at hsize
    rw [← hrobot₁] at hrobot
    rw [← htarget₁] at htarget
    exact ⟨⟨size, robot, target⟩, ⟨hsize₁, hrobot₁, htarget₁⟩, ⟨hsize, hrobot, htarget⟩⟩
  · rintro ⟨d₁, ⟨hsize₁, hrobot₁, htarget₁⟩, ⟨hsize, hrobot, htarget⟩⟩
    constructor
    · rw [hsize, hsize₁, List.filterMap_append, List.append_assoc]
    · rw [hrobot, hrobot₁, List.filterMap_append, List.append_assoc]
    · rw [htarget, htarget₁, List.filterMap_append, List.append_assoc]

theorem add_eq_ok : d.add s = .ok d' ↔ d.Extends [s.content] d' := by
  have hmap {α : Type} {x : Except Fault α} {f : α → Draft} :
      x.map f = .ok d' ↔ ∃ v, x = .ok v ∧ d' = f v := by
    cases x <;> simp [Except.map, eq_comm]
  obtain ⟨place, c⟩ := s
  obtain ⟨size, robot, target⟩ := d
  obtain ⟨size', robot', target'⟩ := d'
  rw [extends_iff]
  cases c with
  | size n =>
    simp only [add, hmap, once_eq_ok]
    simp [Content.size?, Content.robot?, Content.target?, List.filterMap_cons, toList_inj]
  | robot p =>
    simp only [add, hmap, once_eq_ok]
    simp [Content.size?, Content.robot?, Content.target?, List.filterMap_cons, toList_inj,
      and_left_comm]
  | target p =>
    simp only [add, hmap, once_eq_ok]
    simp [Content.size?, Content.robot?, Content.target?, List.filterMap_cons, toList_inj,
      and_comm, and_assoc]
  | obstacle p =>
    simp [add, Content.size?, Content.robot?, Content.target?, List.filterMap_cons, toList_inj,
      @eq_comm _ size, @eq_comm _ robot, @eq_comm _ target]

theorem foldlM_add_eq_ok :
    ss.foldlM add d = .ok d' ↔ d.Extends (ss.map Statement.content) d' := by
  induction ss generalizing d with
  | nil =>
    rw [List.map_nil, extends_nil]
    exact Except.ok.injEq d d' ▸ Iff.rfl
  | cons s ss ih =>
    rw [List.foldlM_cons, List.map_cons, ← List.singleton_append, extends_append]
    simp only [← ih, ← add_eq_ok]
    cases d.add s <;> simp [bind, Except.bind]

end Draft

theorem filterMap_obstacle? :
    ss.filterMap Statement.obstacle? = (ss.map Statement.content).filterMap Content.obstacle? := by
  rw [List.filterMap_map]
  rfl

/-- Statements give a layout if they describe it, and only then. -/
theorem layout_eq_ok_iff : layout ss = .ok l ↔ Describes (ss.map Statement.content) l := by
  constructor
  · intro h
    unfold layout at h
    rcases hd : ss.foldlM Draft.add ⟨none, none, none⟩ with e | ⟨size, robot, target⟩
    · rw [hd] at h
      cases h
    · rw [hd] at h
      obtain ⟨hsize, hrobot, htarget⟩ := Draft.foldlM_add_eq_ok.1 hd
      rcases size with _ | size
      · cases h
      · rcases target with _ | target
        · cases h
        · cases h
          exact ⟨hsize.symm, htarget.symm, ⟨robot, hrobot.symm, rfl⟩, filterMap_obstacle?⟩
  · rintro ⟨hsize, htarget, ⟨robot, hrobot, horigin⟩, hobstacles⟩
    have hd : ss.foldlM Draft.add ⟨none, none, none⟩ = .ok ⟨some l.size, robot, some l.target⟩ :=
      Draft.foldlM_add_eq_ok.2 ⟨hsize.symm, hrobot.symm, htarget.symm⟩
    unfold layout
    rw [hd, filterMap_obstacle?, ← hobstacles]
    change Except.ok (Layout.mk l.size (robot.getD .origin) l.target l.obstacles) = .ok l
    rw [← horigin]

/-- What statements give of one kind is as much as there are statements of that kind. -/
theorem length_filterMap {α : Type} {give? : Content → Option α}
    (hgive : ∀ c : Content, (give? c).isSome = (c.word == w)) (cs : List Content) :
    (cs.filterMap give?).length = (cs.map Content.word).count w := by
  rw [List.length_filterMap_eq_countP, List.count, List.countP_map]
  exact List.countP_congr fun c _ => by rw [hgive c]; rfl

theorem Content.isSome_size? (c : Content) : c.size?.isSome = (c.word == .size) := by
  cases c <;> rfl

theorem Content.isSome_robot? (c : Content) : c.robot?.isSome = (c.word == .robot) := by
  cases c <;> rfl

theorem Content.isSome_target? (c : Content) : c.target?.isSome = (c.word == .target) := by
  cases c <;> rfl

/-- Statements are told apart by what they give of each kind, in the order of their keywords. -/
theorem eq_of_filterMap {cs' : List Content} (hwords : cs.map Content.word = cs'.map Content.word)
    (hsize : cs.filterMap Content.size? = cs'.filterMap Content.size?)
    (hrobot : cs.filterMap Content.robot? = cs'.filterMap Content.robot?)
    (htarget : cs.filterMap Content.target? = cs'.filterMap Content.target?)
    (hobstacle : cs.filterMap Content.obstacle? = cs'.filterMap Content.obstacle?) : cs = cs' := by
  induction cs generalizing cs' with
  | nil => exact (List.map_eq_nil_iff.1 hwords.symm).symm
  | cons c cs ih =>
    obtain ⟨c', cs', rfl, hword, hrest⟩ := List.map_eq_cons_iff.1 hwords.symm
    simp only [List.filterMap_cons] at hsize hrobot htarget hobstacle
    cases c <;> cases c' <;> cases hword <;>
      simp only [Content.size?, Content.robot?, Content.target?, Content.obstacle?,
        List.cons.injEq] at hsize hrobot htarget hobstacle
    · rw [hsize.1, ih hrest.symm hsize.2 hrobot htarget hobstacle]
    · rw [hrobot.1, ih hrest.symm hsize hrobot.2 htarget hobstacle]
    · rw [htarget.1, ih hrest.symm hsize hrobot htarget.2 hobstacle]
    · rw [hobstacle.1, ih hrest.symm hsize hrobot htarget hobstacle.2]

/-- Statements with the same keywords describe the same layout only if they are the same. -/
theorem Describes.unique {cs' : List Content} (h : Describes cs l) (h' : Describes cs' l)
    (hwords : cs.map Content.word = cs'.map Content.word) : cs = cs' := by
  obtain ⟨r, hr, horigin⟩ := h.robot
  obtain ⟨r', hr', horigin'⟩ := h'.robot
  have hlength : r.toList.length = r'.toList.length := by
    rw [← hr, ← hr', length_filterMap Content.isSome_robot?, length_filterMap Content.isSome_robot?,
      hwords]
  have hrobot : r = r' := by
    rw [horigin] at horigin'
    cases r <;> cases r' <;> simp_all
  refine eq_of_filterMap hwords (h.size.trans h'.size.symm) ?_ (h.target.trans h'.target.symm)
    (h.obstacles.symm.trans h'.obstacles)
  rw [hr, hr', hrobot]

/-! ## Reading -/

variable {number? : Text → Option Int64} {e : Entry} {es : List Entry} {cs' : List Content}

theorem Content.eq_of_numbers {c' : Content} (hword : c.word = c'.word)
    (hnumbers : c.numbers = c'.numbers) : c = c' := by
  rcases c with n | ⟨x, y⟩ | ⟨x, y⟩ | ⟨x, y⟩ <;>
    rcases c' with n' | ⟨x', y'⟩ | ⟨x', y'⟩ | ⟨x', y'⟩ <;>
    cases hword <;> simpa [numbers] using hnumbers

theorem Entry.Means.unique {c' : Content} (h : e.Means number? c) (h' : e.Means number? c') :
    c = c' :=
  Content.eq_of_numbers (h.1.symm.trans h'.1)
    (List.map_injective_iff.2 (fun _ _ => Option.some.inj) (h.2.symm.trans h'.2))

theorem means_unique (h : es.Forall₂ (Entry.Means number?) cs)
    (h' : es.Forall₂ (Entry.Means number?) cs') : cs = cs' := by
  have hunique : Relator.RightUnique (Entry.Means number?) := fun _ _ _ => Entry.Means.unique
  exact List.right_unique_forall₂' hunique h h'

/-- The numerals of entries that mean something have values. -/
theorem exists_number_of_means (h : es.Forall₂ (Entry.Means number?) cs) {u : Text}
    (hu : u ∈ es.flatMap Entry.numerals) : ∃ n, number? u = some n := by
  induction h with
  | nil => cases hu
  | @cons e c es cs hmeans _ ih =>
    rw [List.flatMap_cons, List.mem_append] at hu
    rcases hu with hu | hu
    · have hmem : number? u ∈ c.numbers.map some := hmeans.2 ▸ List.mem_map_of_mem hu
      obtain ⟨n, -, hn⟩ := List.mem_map.1 hmem
      exact ⟨n, hn.symm⟩
    · exact ih hu

theorem words_of_means (h : es.Forall₂ (Entry.Means number?) cs) :
    cs.map Content.word = es.map Entry.word := by
  induction h with
  | nil => rfl
  | cons hmeans _ ih => rw [List.map_cons, List.map_cons, ih, hmeans.1]

/-- Two ways to read numerals make the same statements of entries if they read the numerals of these
alike, and only then. -/
theorem means_iff_of_means {number?' : Text → Option Int64}
    (h : es.Forall₂ (Entry.Means number?) cs) :
    es.Forall₂ (Entry.Means number?') cs ↔
      ∀ u ∈ es.flatMap Entry.numerals, number?' u = number? u := by
  induction h with
  | nil => simp
  | @cons e c es cs hmeans _ ih =>
    rw [List.forall₂_cons, ih, List.flatMap_cons, List.forall_mem_append, Entry.Means,
      and_iff_right hmeans.1, ← hmeans.2, List.map_inj_left]

theorem means_congr {number?' : Text → Option Int64}
    (h : ∀ u ∈ es.flatMap Entry.numerals, number? u = number?' u) :
    es.Forall₂ (Entry.Means number?) cs ↔ es.Forall₂ (Entry.Means number?') cs :=
  ⟨fun hmeans => (means_iff_of_means hmeans).2 fun u hu => (h u hu).symm,
    fun hmeans => (means_iff_of_means hmeans).2 h⟩

theorem Fault.Blames.not_means (h : f.Blames (es.flatMap Entry.numerals)) :
    ¬ es.Forall₂ (Entry.Means boardNumber?) cs := by
  intro hmeans
  obtain ⟨place, u, why, hu, hread, -⟩ := h
  obtain ⟨n, hn⟩ := exists_number_of_means hmeans hu
  rw [boardNumber?_of_error hread] at hn
  cases hn

/-- What comes of a text that is laid out as entries: their statements, or a numeral is blamed. -/
theorem Laid.statements_spec (h : Laid (es.flatMap Entry.pieces) t) :
    GivesOrBlames (statements t)
      (fun ss => es.Forall₂ (Entry.Means boardNumber?) (ss.map Statement.content))
      (es.flatMap Entry.numerals) := by
  obtain ⟨out, hscan, hpieces⟩ := exists_scan_iff.2 h
  rw [statements, hscan]
  refine (statementsOnto_spec out.ending [] hpieces).mono ?_ (List.Subset.refl _)
  rintro ss ⟨cs, hmeans, hcs⟩
  have hcs : ss.map Statement.content = cs := hcs
  rwa [hcs]

/-- A text that is laid out as entries is read as the layout that these describe. -/
theorem Laid.read_eq_ok_iff (h : Laid (es.flatMap Entry.pieces) t) :
    read t = .ok l ↔ ∃ cs, es.Forall₂ (Entry.Means boardNumber?) cs ∧ Describes cs l := by
  unfold read
  rcases h.statements_spec with ⟨ss, hss, hmeans⟩ | ⟨f, hf, hblames⟩
  · rw [hss]
    change layout ss = .ok l ↔ _
    rw [layout_eq_ok_iff]
    constructor
    · intro hdescribes
      exact ⟨_, hmeans, hdescribes⟩
    · rintro ⟨cs, hcs, hdescribes⟩
      rwa [means_unique hmeans hcs]
  · rw [hf]
    constructor
    · rintro ⟨⟩
    · rintro ⟨cs, hcs, -⟩
      exact absurd hcs hblames.not_means

/-- If an entry means nothing, a numeral is blamed. -/
theorem Laid.blames_of_read (h : Laid (es.flatMap Entry.pieces) t)
    (hnone : ∀ cs, ¬ es.Forall₂ (Entry.Means boardNumber?) cs) :
    ∃ f, read t = .error f ∧ f.Blames (es.flatMap Entry.numerals) := by
  rcases h.statements_spec with ⟨ss, -, hmeans⟩ | ⟨f, hf, hblames⟩
  · exact absurd hmeans (hnone _)
  · refine ⟨f, ?_, hblames⟩
    rw [read, hf]
    rfl

/-- A text that is read is laid out as entries. -/
theorem exists_laid_of_read (h : read t = .ok l) :
    ∃ es : List Entry, Laid (es.flatMap Entry.pieces) t := by
  unfold read statements at h
  rcases hscan : scan t with ⟨place, rest⟩ | out
  · rw [hscan] at h
    cases h
  · rw [hscan] at h
    rcases hss : statementsOnto out.ending [] out.tokens with f | ss
    · change (statementsOnto out.ending [] out.tokens >>= layout) = .ok l at h
      rw [hss] at h
      cases h
    · obtain ⟨es, hes⟩ := exists_entries_of_statementsOnto hss
      exact ⟨es, exists_scan_iff.1 ⟨out, hscan, hes⟩⟩

/-! ## Blame -/

/-- Whether a numeral that is blamed has no value, for the reason that is given. -/
def BlamesRightly {α : Type} (x : Except Fault α) : Prop :=
  ∀ place u why, x = .error (.badNumber place u why) → Text.readNumeral u = .error why

namespace BlamesRightly

variable {α β : Type}

theorem ok (a : α) : BlamesRightly (.ok a) := by
  intro place u why h
  cases h

theorem bind {x : Except Fault α} {g : α → Except Fault β} (hx : BlamesRightly x)
    (hg : ∀ a, BlamesRightly (g a)) : BlamesRightly (x >>= g) := by
  intro place u why h
  rcases x with f | a
  · cases h
    exact hx place u why rfl
  · exact hg a place u why h

theorem map {x : Except Fault α} {g : α → β} (hx : BlamesRightly x) :
    BlamesRightly (g <$> x) := by
  intro place u why h
  rcases x with f | a
  · cases h
    exact hx place u why rfl
  · cases h

theorem value (x : Token) : BlamesRightly x.value := by
  intro place u why h
  rcases hx : Text.readNumeral x.text with why' | n
  · rw [Token.value_of_error hx] at h
    cases h
    exact hx
  · rw [Token.value_of_ok hx] at h
    cases h

theorem needNumber (ending : Place) (expected : Expected) (o : Option Token) :
    BlamesRightly (needNumber ending expected o) := by
  intro place u why h
  rcases o with _ | ⟨_ | _, text, p, gap⟩ <;> cases h

theorem coordinate (ending : Place) (ts : List Token) : BlamesRightly (coordinate ending ts) :=
  bind (needNumber ending _ _) fun x => bind (needNumber ending _ _) fun y =>
    bind (value x) fun _ => bind (value y) fun _ => ok _

theorem content (ending : Place) (ts : List Token) (w : Word) :
    BlamesRightly (content ending ts w) := by
  cases w with
  | size => exact bind (needNumber ending _ _) fun x => bind (value x) fun _ => ok _
  | robot => exact map (coordinate ending ts)
  | target => exact map (coordinate ending ts)
  | obstacle => exact map (coordinate ending ts)

theorem statementsOnto (ending : Place) (read : List Statement) (ts : List Token) :
    BlamesRightly (statementsOnto ending read ts) := by
  fun_induction BoardFile.statementsOnto ending read ts with
  | case1 => exact ok _
  | case2 =>
    intro place u why h
    cases h
  | case3 read t ts w hkind f hcontent =>
    intro place u why h
    cases h
    exact content ending ts w place u why hcontent
  | case4 read t ts w hkind c hcontent ih => exact ih

theorem add (d : Draft) (s : Statement) : BlamesRightly (d.add s) := by
  intro place u why h
  unfold Draft.add once at h
  split at h
  · split_ifs at h <;> cases h
  · split_ifs at h <;> cases h
  · split_ifs at h <;> cases h
  · cases h

theorem foldlM_add (ss : List Statement) (d : Draft) : BlamesRightly (ss.foldlM Draft.add d) := by
  induction ss generalizing d with
  | nil => exact ok d
  | cons s ss ih =>
    rw [List.foldlM_cons]
    exact bind (add d s) ih

theorem layout (ss : List Statement) : BlamesRightly (layout ss) := by
  refine bind (foldlM_add ss _) fun d => ?_
  intro place u why h
  split at h <;> cases h

theorem read (t : Text) : BlamesRightly (read t) := by
  refine bind ?_ layout
  unfold statements
  split
  · intro place u why h
    cases h
  · exact statementsOnto _ _ _

end BlamesRightly

end BoardFile

end GridRobot
