import GridRobot.Random.Source

/-!
# Random numbers

A permuted congruential generator with 128 bits of state gives 64 random bits at a time: the
state is advanced first, then its two halves are mixed. `Generator.below` draws a number below a
bound without bias, by drawing again while the low half of the product falls into the part that
would favour small numbers. However often it draws, the number stays below the bound
(`Generator.below_lt`), so that a generator is a source of random numbers.
-/

namespace GridRobot

/-- A source of random bits. -/
structure Generator where
  state : BitVec 128
  deriving DecidableEq, Repr, Inhabited

namespace Generator

/-- The generator that starts from two seeds. -/
def ofSeeds (high low : UInt64) : Generator :=
  ⟨high.toBitVec ++ low.toBitVec⟩

/-- The multiplier of the state. -/
def multiplier : BitVec 128 := 0x2360ed051fc65da44385df649fccf645#128

/-- The increment of the state. -/
def increment : BitVec 128 := 0x5851f42d4c957f2d14057b7ef767814f#128

/-- The multiplier that mixes the high half. -/
def mixer : UInt64 := 0xda942042e4dd58b5

/-- The next state. -/
def advance (g : Generator) : Generator :=
  ⟨g.state * multiplier + increment⟩

/-- The 64 bits that a state gives. -/
def output (g : Generator) : UInt64 :=
  let high : UInt64 := ⟨g.state.extractLsb' 64 64⟩
  let low : UInt64 := ⟨g.state.extractLsb' 0 64⟩
  let high := (high ^^^ (high >>> 32)) * mixer
  (high ^^^ (high >>> 48)) * (low ||| 1)

/-- Draws 64 bits. -/
def next (g : Generator) : UInt64 × Generator :=
  (g.advance.output, g.advance)

/-- Draws until the low half of the product with `n` reaches `threshold`, and gives the high
half. After as many vain draws as there are words the last one stands. -/
def drawAbove (n threshold : Nat) : Nat → Generator → Nat × Generator
  | 0, g => ((g.next.1.toNat * n) / UInt64.size, g.next.2)
  | tries + 1, g =>
    let product := g.next.1.toNat * n
    if product % UInt64.size < threshold then drawAbove n threshold tries g.next.2
    else (product / UInt64.size, g.next.2)

/-- Draws a number below `n`, which is positive and fits in a word. -/
def below (g : Generator) (n : Nat) : Nat × Generator :=
  if n &&& (n - 1) = 0 then (g.next.1.toNat % n, g.next.2)
  else drawAbove n ((UInt64.size - n) % n) UInt64.size g

variable {n : Nat}

theorem drawAbove_lt (hn : 0 < n) (threshold tries : Nat) (g : Generator) :
    (drawAbove n threshold tries g).1 < n := by
  have hword (g : Generator) : g.next.1.toNat * n / UInt64.size < n := by
    apply Nat.div_lt_of_lt_mul
    exact Nat.mul_lt_mul_of_pos_right g.next.1.toNat_lt_size hn
  induction tries generalizing g with
  | zero => exact hword g
  | succ tries ih =>
    rw [drawAbove]
    split
    · exact ih g.next.2
    · exact hword g

theorem below_lt (hn : 0 < n) (g : Generator) : (g.below n).1 < n := by
  unfold below
  split
  · exact Nat.mod_lt _ hn
  · exact drawAbove_lt hn _ _ g

instance : RandomSource Generator where
  below := below
  below_lt := below_lt

end Generator

end GridRobot
