import GridRobot.Config.Conversion
import GridRobot.Config.Place

/-!
# Outcomes

The evaluation of an expression gives a value and diagnostics about the faults on the way to it.
It goes on after a fault, with a value that is unknown as far as the fault makes it so.
-/

namespace GridRobot

namespace Config

/-- A value with the diagnostics about faults on the way to it. -/
abbrev Outcome := Value × List Diagnostic

namespace Outcome

/-- A diagnostic of its own as a list. -/
def note (span : Span) (summary : String) (detail : Text) : List Diagnostic :=
  [.new span (Text.ofString summary) detail]

/-- A diagnostic, and a value of which nothing is known. -/
def fault (span : Span) (summary : String) (detail : Text) : Outcome :=
  (.anything, note span summary detail)

/-- The same outcome after other diagnostics. -/
def after (ds : List Diagnostic) (o : Outcome) : Outcome :=
  (o.1, ds ++ o.2)

end Outcome

end Config

end GridRobot
