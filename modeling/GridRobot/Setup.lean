import GridRobot.Random.Plan

/-!
# Where boards come from

A session asks for a layout when it starts and again at every reset. `Setup` holds the answers:
the answer to the first consultation, to the second, and so on, each a layout or the reason why
there is none. A fixed setup always gives the same layout, a random one draws the next, and a
list of answers gives its last one again and again.
-/

namespace GridRobot

/-- Why a consultation gave no layout. -/
inductive SetupError where
  | board (e : BoardError)
  /-- Some other failure, in its own words. -/
  | failed (reason : Text)
  deriving DecidableEq, Repr, Inhabited

namespace SetupError

/-- The message of a failed consultation. -/
def message : SetupError → Text
  | board e => e.message
  | failed reason => reason

end SetupError

/-- The answers to the consultations of a setup, in order. -/
def Setup := Nat → Except SetupError Layout

namespace Setup

/-- The setup that always gives the same layout. -/
def fixed (l : Layout) : Setup :=
  fun _ => .ok l

/-- The setup that draws a layout of a plan at each consultation. -/
def random {σ : Type} [RandomSource σ] (plan : RandomPlan) (g : σ) : Setup :=
  fun n => (plan.draw (plan.after g n)).1.mapError .board

/-- The setup that gives the answers of a list, and the last one from then on. -/
def ofAnswers (answers : List (Except SetupError Layout)) : Setup :=
  fun n => (answers[n]?).getD ((answers.getLast?).getD (.error (.failed [])))

end Setup

end GridRobot
