/-!
# Sources of random numbers

All that a draw relies on: a source gives numbers below a bound, one after the other, and each of
them is below the bound.
-/

namespace GridRobot

/-- What random numbers are drawn from; the elements are the states of the source. -/
class RandomSource (σ : Type) where
  /-- Draws a number below a positive bound, and goes on to the next state. -/
  below : σ → Nat → Nat × σ
  below_lt : ∀ {n : Nat}, 0 < n → ∀ g : σ, (below g n).1 < n

end GridRobot
