import GridRobot.Config.Schema
import Mathlib.Data.List.Basic
import Mathlib.Tactic.SplitIfs

/-!
# What a configuration file says

`Schema.Gives` says, without regard to how a file is decoded, that it gives an attribute of a block a
value: the block stands in the file without labels, the attribute stands in the block, and what its
expression comes to is a value of the attribute's type. Null is no value. Decoding finds exactly that
(`Schema.lookup_decode_iff`), for bodies that define no attribute twice, as all that are read do
(`Body.tidy_of_read?`). A value that was converted to the type of an attribute is of the form
that belongs to the type (`Schema.Gives.suits`), so that none is lost for being of another.
-/

namespace GridRobot

namespace Config

/-- What comes first in a computation that succeeds has succeeded too. -/
theorem exists_of_bind_eq_ok {ε α β : Type} {x : Except ε α} {f : α → Except ε β} {b : β}
    (h : x.bind f = .ok b) : ∃ a, x = .ok a ∧ f a = .ok b := by
  rcases x with e | a
  · cases h
  · exact ⟨a, rfl, h⟩

theorem mapError_eq_ok_iff {ε ε' α : Type} {x : Except ε α} {f : ε → ε'} {a : α} :
    x.mapError f = .ok a ↔ x = .ok a := by
  rcases x with e | b <;> simp [Except.mapError]

/-! ## Values of the types of attributes -/

/-- A type that attributes have. -/
def ValueType.OfAttribute (t : ValueType) : Prop :=
  t = .text ∨ t = .number ∨ t = .bool ∨ t = .list .number

/-- Values of the first type, which is another one, are converted to the second, which attributes
have. -/
def ValueType.ConvertsTo (s t : ValueType) : Prop :=
  match s, t with
  | dynamic, _ => True
  | number, text => True
  | bool, text => True
  | text, number => True
  | text, bool => True
  | tuple _, list _ => True
  | list _, list _ => True
  | _, _ => False

theorem ValueType.same_or_convertsTo {s t : ValueType} (ht : t.OfAttribute)
    (h : s.convertible t = true) : s.same t = true ∨ s.ConvertsTo t := by
  rcases ht with rfl | rfl | rfl | rfl <;> cases s <;>
    simp [convertible, enough, convertibleTo, same, ConvertsTo] at h ⊢

/-- A value that is null, not known, or of the form that belongs to a type of attributes. -/
def Value.Formed (v : Value) (t : ValueType) : Prop :=
  match v, t with
  | .null _, _ => True
  | .unknown _ _, _ => True
  | .text _, .text => True
  | .number _, .number => True
  | .bool _, .bool => True
  | .list _ _, .list _ => True
  | _, _ => False

/-- A datum of the form that belongs to a type of attributes. -/
def Datum.Suits (d : Datum) (t : ValueType) : Prop :=
  match d, t with
  | .text _, .text => True
  | .int _, .number => True
  | .bool _, .bool => True
  | .ints _, .list _ => True
  | _, _ => False

namespace Datum.Suits

variable {d : Datum}

theorem exists_text (h : d.Suits .text) : ∃ t, d = .text t := by
  cases d with
  | text t => exact ⟨t, rfl⟩
  | _ => exact h.elim

theorem exists_int (h : d.Suits .number) : ∃ n, d = .int n := by
  cases d with
  | int n => exact ⟨n, rfl⟩
  | _ => exact h.elim

theorem exists_bool (h : d.Suits .bool) : ∃ b, d = .bool b := by
  cases d with
  | bool b => exact ⟨b, rfl⟩
  | _ => exact h.elim

theorem exists_ints (h : d.Suits (.list .number)) : ∃ ns, d = .ints ns := by
  cases d with
  | ints ns => exact ⟨ns, rfl⟩
  | _ => exact h.elim

end Datum.Suits

namespace Value

variable {v w : Value} {t : ValueType}

theorem formed_of_same (ht : t.OfAttribute) (h : v.type.same t = true) : v.Formed t := by
  rcases ht with rfl | rfl | rfl | rfl <;> cases v <;>
    simp [Value.type, ValueType.same, Formed] at h ⊢

theorem formed_limited (ht : t.OfAttribute) (l : Limits) : (limited t l).Formed t := by
  rcases ht with rfl | rfl | rfl | rfl
  · trivial
  · unfold limited
    dsimp only
    rcases (l.range.filter fun _ => l.present).bind NumberRange.only? with _ | n <;> trivial
  · trivial
  · unfold limited
    dsimp only
    rcases l.length?.filter fun _ => l.present with _ | n <;> trivial

theorem exists_list_of_castList {cast : Value → ValueType → Except Text Value} {vs : List Value}
    (h : castList cast t vs = .ok w) : ∃ e us, w = list e us := by
  unfold castList at h
  split_ifs at h
  · cases h
    exact ⟨_, _, rfl⟩
  · obtain ⟨us, -, h⟩ := exists_of_bind_eq_ok h
    obtain ⟨us', -, h⟩ := exists_of_bind_eq_ok h
    rcases he : elementType? us' with _ | e
    · simp [listOf?, he, uniform] at h
    · simp only [listOf?, he, Option.map_some, uniform, Except.ok.injEq] at h
      exact ⟨_, _, h.symm⟩

theorem filledFrom_eq (ht : t.OfAttribute) (s : ValueType) : t.filledFrom s = t := by
  have hnumber (s : ValueType) : ValueType.number.filledFrom s = .number := by
    cases s <;> rfl
  rcases ht with rfl | rfl | rfl | rfl
  · cases s <;> rfl
  · exact hnumber s
  · cases s <;> rfl
  · cases s <;> simp only [ValueType.filledFrom, hnumber]

theorem formed_castUnknown (ht : t.OfAttribute) (s : ValueType) (l : Limits) :
    (castUnknown s l t).Formed t := by
  unfold castUnknown
  rw [filledFrom_eq ht]
  dsimp only
  split <;> exact formed_limited ht _

theorem exists_number_of_readNumber {s : Text} (h : readNumber s = .ok w) : ∃ n, w = number n := by
  unfold readNumber at h
  split at h
  · cases h
    exact ⟨_, rfl⟩
  · cases h

theorem exists_bool_of_readBool {s : Text} (h : readBool s = .ok w) : ∃ b, w = bool b := by
  unfold readBool at h
  dsimp only at h
  split_ifs at h
  · cases h
    exact ⟨true, rfl⟩
  · cases h
    exact ⟨false, rfl⟩

theorem formed_castTo (ht : t.OfAttribute) {n : Nat} (hconv : v.type.convertible t = true)
    (h : castTo (n + 1) v t = .ok w) : w.Formed t := by
  unfold castTo at h
  split_ifs at h with hsame
  · cases h
    exact formed_of_same ht hsame
  have hto := (ValueType.same_or_convertsTo ht hconv).resolve_left hsame
  cases v with
  | unknown s l =>
    have hcast : castUnknown s l t = w := by
      rcases ht with rfl | rfl | rfl | rfl <;> exact Except.ok.inj h
    rw [← hcast]
    exact formed_castUnknown ht s l
  | null s =>
    have hcast : null (t.filledFrom s) = w := by
      rcases ht with rfl | rfl | rfl | rfl <;> exact Except.ok.inj h
    rw [← hcast]
    trivial
  | bool b =>
    rcases ht with rfl | rfl | rfl | rfl
    · cases h
      trivial
    all_goals exact hto.elim
  | number a =>
    rcases ht with rfl | rfl | rfl | rfl
    · cases h
      trivial
    all_goals exact hto.elim
  | text s =>
    rcases ht with rfl | rfl | rfl | rfl
    · exact hto.elim
    · obtain ⟨a, rfl⟩ := exists_number_of_readNumber h
      trivial
    · obtain ⟨b, rfl⟩ := exists_bool_of_readBool h
      trivial
    · exact hto.elim
  | tuple vs =>
    rcases ht with rfl | rfl | rfl | rfl
    · exact hto.elim
    · exact hto.elim
    · exact hto.elim
    · obtain ⟨e, us, rfl⟩ := exists_list_of_castList h
      trivial
  | list e vs =>
    rcases ht with rfl | rfl | rfl | rfl
    · exact hto.elim
    · exact hto.elim
    · exact hto.elim
    · obtain ⟨e, us, rfl⟩ := exists_list_of_castList h
      trivial
  | object names vs => rcases ht with rfl | rfl | rfl | rfl <;> exact hto.elim
  | map e keys vs => rcases ht with rfl | rfl | rfl | rfl <;> exact hto.elim

/-- What a value is converted to has the form that belongs to the type. -/
theorem formed_convert (ht : t.OfAttribute) (h : v.convert t = .ok w) : w.Formed t := by
  unfold convert at h
  split_ifs at h with hsame hconv
  · cases h
    exact formed_of_same ht hsame
  · exact formed_castTo ht hconv h

end Value

/-! ## Bodies without repetition -/

/-- An item that is an attribute, or a block that defines no attribute twice. -/
def Item.Tidy : Item → Prop
  | .attribute _ => True
  | .block _ _ _ body => (Body.names body).Nodup

namespace Body

variable {b : Body}

theorem eq_of_distinct? {c : Body} (h : b.distinct? = some c) : c = b ∧ b.names.Nodup := by
  unfold distinct? at h
  split_ifs at h with hnodup
  exact ⟨(Option.some.inj h).symm, hnodup⟩

theorem nodup_names_of_blockBody? {n : Nat} {ts rest : List Token}
    (h : blockBody? n ts = some (b, rest)) : b.names.Nodup := by
  cases n with
  | zero => cases h
  | succ n =>
    unfold blockBody? at h
    split at h
    · simp only [Option.bind_eq_bind, Option.bind_eq_some_iff] at h
      obtain ⟨_, _, _, _, _, _, h⟩ := h
      cases h
      exact List.pairwise_singleton _ _
    · simp only [Option.bind_eq_bind, Option.bind_eq_some_iff] at h
      obtain ⟨⟨body, ts⟩, -, c, hdistinct, h⟩ := h
      cases h
      obtain ⟨rfl, hnodup⟩ := eq_of_distinct? hdistinct
      exact hnodup

theorem tidy_of_item? {n : Nat} {name : Text} {s : Span} {ts rest : List Token} {i : Item}
    (h : item? n name s ts = some (i, rest)) : i.Tidy := by
  cases n with
  | zero => cases h
  | succ n =>
    unfold item? at h
    split at h
    · simp only [Option.bind_eq_bind, Option.bind_eq_some_iff] at h
      obtain ⟨_, _, _, _, h⟩ := h
      cases h
      trivial
    · simp only [Option.bind_eq_bind, Option.bind_eq_some_iff] at h
      obtain ⟨_, _, ⟨body, ts⟩, hbody, _, _, h⟩ := h
      cases h
      exact nodup_names_of_blockBody? hbody

theorem tidy_of_items? {n : Nat} {inside : Bool} {ts rest : List Token}
    (h : items? n inside ts = some (b, rest)) : ∀ i ∈ b, i.Tidy := by
  induction n generalizing ts b rest with
  | zero => cases h
  | succ n ih =>
    unfold items? at h
    split at h
    · split_ifs at h
      cases h
      simp
    · exact ih h
    · split_ifs at h
      cases h
      simp
    · simp only [Option.bind_eq_bind, Option.bind_eq_some_iff] at h
      obtain ⟨⟨i, ts⟩, hitem, ⟨is, ts'⟩, hitems, h⟩ := h
      cases h
      exact List.forall_mem_cons.2 ⟨tidy_of_item? hitem, ih hitems⟩
    · cases h

/-- No block of a body that was read defines an attribute twice. -/
theorem tidy_of_read? {t : Text} (h : read? t = some b) : ∀ i ∈ b, i.Tidy := by
  unfold read? at h
  simp only [Option.bind_eq_bind, Option.bind_eq_some_iff] at h
  obtain ⟨ts, -, ⟨c, rest⟩, hitems, hdistinct⟩ := h
  obtain ⟨rfl, -⟩ := eq_of_distinct? hdistinct
  exact tidy_of_items? hitems

end Body

/-! ## What is found -/

namespace Schema

variable {b : Body} {t : BlockType} {name : Text} {d : Datum}

theorem suits_of_datum {v : Value} {t : ValueType} (hv : v.Formed t)
    (h : datum v = .ok (some d)) : d.Suits t := by
  cases v with
  | unknown => cases h
  | null => cases h
  | bool b =>
    cases h
    cases t <;> exact hv
  | text s =>
    cases h
    cases t <;> exact hv
  | number n =>
    have hd : ∃ i, d = .int i := by
      rcases hint : int (.number n) with e | i <;> simp [datum, hint, Except.map] at h
      exact ⟨i, h.symm⟩
    obtain ⟨i, rfl⟩ := hd
    cases t <;> exact hv
  | list e vs =>
    have hd : ∃ ns, d = .ints ns := by
      rcases hints : vs.mapM int with e | ns <;> simp [datum, hints, Except.map] at h
      exact ⟨ns, h.symm⟩
    obtain ⟨ns, rfl⟩ := hd
    cases t <;> exact hv
  | _ => cases t <;> exact hv.elim

theorem mem_blocks {span : Span} {body : Body} :
    (span, body) ∈ blocks t b ↔ Item.block t.name span [] body ∈ b := by
  unfold blocks
  rw [List.mem_filterMap]
  constructor
  · rintro ⟨i, hi, h⟩
    split at h
    · split_ifs at h with hname
      cases h
      rwa [← hname]
    · cases h
  · intro h
    exact ⟨_, h, if_pos rfl⟩

theorem mem_names {a : Attribute} (ha : Item.attribute a ∈ b) : a.name ∈ b.names :=
  List.mem_filterMap.2 ⟨_, ha, rfl⟩

theorem attribute?_eq_some_iff (hb : b.names.Nodup) {a : Attribute} :
    attribute? b name = some a ↔ Item.attribute a ∈ b ∧ a.name = name := by
  induction b with
  | nil => simp [attribute?]
  | cons i b ih =>
    rcases i with c | ⟨type, span, labels, body⟩
    · obtain ⟨hnew, hrest⟩ : c.name ∉ Body.names b ∧ (Body.names b).Nodup := List.nodup_cons.1 hb
      have hcons : attribute? (.attribute c :: b) name =
          if c.name = name then some c else attribute? b name := by
        simp only [attribute?, List.findSome?_cons]
        split_ifs <;> rfl
      rw [hcons, List.mem_cons, Item.attribute.injEq]
      split_ifs with hc
      · rw [Option.some.injEq]
        constructor
        · rintro rfl
          exact ⟨.inl rfl, hc⟩
        · rintro ⟨rfl | ha, hname⟩
          · rfl
          · -- no later attribute has the name of the first
            exact absurd (hc.trans hname.symm ▸ mem_names ha) hnew
      · rw [ih hrest]
        constructor
        · exact fun ⟨ha, hname⟩ => ⟨.inr ha, hname⟩
        · rintro ⟨rfl | ha, hname⟩
          · exact absurd hname hc
          · exact ⟨ha, hname⟩
    · simpa [attribute?] using ih hb

/-- The look-up in what is made of some entries of a list without repeated keys. -/
theorem lookup_filterMap {α β : Type} {l : List (Text × α)} (hkeys : (l.map Prod.fst).Nodup)
    (f : Text → α → Option β) :
    (l.filterMap fun e => (f e.1 e.2).map (e.1, ·)).lookup name =
      (l.lookup name).bind (f name) := by
  induction l with
  | nil => rfl
  | cons e l ih =>
    obtain ⟨key, x⟩ := e
    obtain ⟨hnew, hrest⟩ := List.nodup_cons.1 hkeys
    have hlater := ih hrest
    by_cases hkey : name = key
    · subst hkey
      have hnone : l.lookup name = none := by
        rw [List.lookup_eq_none_iff]
        intro e he
        have hne : name ≠ e.1 := fun h => hnew (List.mem_map.2 ⟨e, he, h.symm⟩)
        simpa using hne
      rw [hnone] at hlater
      rcases hf : f name x with _ | y <;> simp [hf, hlater]
    · have hne : (name == key) = false := beq_false_of_ne hkey
      rcases hf : f key x with _ | y <;> simp [hf, hlater, List.lookup_cons, hne]

theorem decodeValue_eq_some_iff {ty : ValueType} {e : Expr} : (decodeValue ty e).1 = some d ↔
    ((e.eval .none).1.convert ty).bind datum = .ok (some d) := by
  unfold decodeValue
  dsimp only
  split
  · next h => simp [h]
  · next h => simp [h]

/-- A body gives the attribute of a name a value of the type that the block `t` has for it. -/
def Defines (t : BlockType) (b : Body) (name : Text) (d : Datum) : Prop :=
  ∃ a ty, Item.attribute a ∈ b ∧ a.name = name ∧ t.attributes.lookup name = some ty ∧
    ((a.value.eval .none).1.convert ty).bind datum = .ok (some d)

/-- A file gives the attribute of a name a value, in a block of type `t`. -/
def Gives (b : Body) (t : BlockType) (name : Text) (d : Datum) : Prop :=
  ∃ span body, Item.block t.name span [] body ∈ b ∧ Defines t body name d

theorem nodup_attributes (t : BlockType) : (t.attributes.map Prod.fst).Nodup := by
  cases t <;> decide

theorem lookup_decodeBlock_iff (hb : b.names.Nodup) :
    (decodeBlock t b).1.lookup name = some d ↔ Defines t b name d := by
  have hdata : (decodeBlock t b).1 = t.attributes.filterMap fun e =>
      ((attribute? b e.1).bind fun a => (decodeValue e.2 a.value).1).map (e.1, ·) := by
    unfold decodeBlock
    dsimp only
    rw [List.filterMap_filterMap]
    refine List.filterMap_congr fun e _ => ?_
    rcases attribute? b e.1 with _ | a <;> rfl
  rw [hdata, lookup_filterMap (nodup_attributes t)
    fun name ty => (attribute? b name).bind fun a => (decodeValue ty a.value).1]
  simp only [Option.bind_eq_some_iff, attribute?_eq_some_iff hb, decodeValue_eq_some_iff, Defines]
  constructor
  · rintro ⟨ty, hty, a, ⟨ha, hname⟩, hd⟩
    exact ⟨a, ty, ha, hname, hty, hd⟩
  · rintro ⟨a, ty, ha, hname, hty, hd⟩
    exact ⟨ty, hty, a, ⟨ha, hname⟩, hd⟩

theorem lookup_decodeType_iff (htidy : ∀ i ∈ b, i.Tidy) (hnone : (decodeType t b).2 = []) :
    (decodeType t b).1.lookup name = some d ↔ Gives b t name d := by
  unfold Gives
  simp only [← mem_blocks]
  unfold decodeType at hnone ⊢
  rcases hblocks : blocks t b with _ | ⟨⟨span, body⟩, _ | ⟨second, rest⟩⟩
  · simp
  · have hbody : body.names.Nodup := htidy _ (mem_blocks.1 (hblocks ▸ List.mem_singleton_self _))
    simp [lookup_decodeBlock_iff hbody]
  · rw [hblocks] at hnone
    cases hnone

/-- What a file says about the blocks of a type. -/
def Contents.of (c : Contents) : BlockType → Data
  | .board => c.board
  | .scheduler => c.scheduler
  | .log => c.log

/-- Decoding finds what a file gives, and nothing else. -/
theorem lookup_decode_iff {c : Contents} (htidy : ∀ i ∈ b, i.Tidy) (h : decode b = .ok c)
    (t : BlockType) : (c.of t).lookup name = some d ↔ Gives b t name d := by
  unfold decode at h
  dsimp only at h
  split at h
  · next hnone =>
    simp only [List.append_eq_nil_iff] at hnone
    obtain ⟨⟨⟨-, hboard⟩, hscheduler⟩, hlog⟩ := hnone
    cases h
    cases t with
    | board => exact lookup_decodeType_iff htidy hboard
    | scheduler => exact lookup_decodeType_iff htidy hscheduler
    | log => exact lookup_decodeType_iff htidy hlog
  · cases h

theorem ofAttribute_of_lookup {ty : ValueType} (h : t.attributes.lookup name = some ty) :
    ty.OfAttribute := by
  have hall : ∀ e ∈ t.attributes, e.2.OfAttribute := by
    cases t <;> simp [BlockType.attributes, ValueType.OfAttribute]
  obtain ⟨before, after, hsplit, -⟩ := List.lookup_eq_some_iff.1 h
  exact hall (name, ty) (by simp [hsplit])

/-- What a file gives an attribute is of the form that belongs to its type. -/
theorem Gives.suits (h : Gives b t name d) {ty : ValueType}
    (hty : t.attributes.lookup name = some ty) : d.Suits ty := by
  obtain ⟨span, body, -, a, ty', -, -, hty', hd⟩ := h
  obtain rfl : ty' = ty := Option.some.inj (hty'.symm.trans hty)
  obtain ⟨w, hconvert, hdatum⟩ := exists_of_bind_eq_ok hd
  exact suits_of_datum (Value.formed_convert (ofAttribute_of_lookup hty) hconvert) hdatum

end Schema

end Config

end GridRobot
