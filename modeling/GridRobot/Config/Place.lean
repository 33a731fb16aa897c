import GridRobot.Text.Basic
import GridRobot.Text.Cluster

/-!
# Places in a configuration file

A place is a line and a column, both counted from one; columns count clusters of characters. A
span is what lies between two places. A diagnostic says what is wrong with a span.
-/

namespace GridRobot

namespace Config

/-- A place in a file. -/
structure Place where
  line : Nat
  column : Nat
  deriving DecidableEq, Repr, Inhabited

namespace Place

/-- Where a file begins. -/
def start : Place :=
  ⟨1, 1⟩

/-- The place after one cluster. -/
def afterCluster (p : Place) (cluster : Text) : Place :=
  if cluster = Text.ofString "\n" || cluster = Text.ofString "\r\n" then ⟨p.line + 1, 1⟩
  else { p with column := p.column + 1 }

/-- The place after a text. -/
def after (p : Place) (t : Text) : Place :=
  (Text.clusters t).foldl afterCluster p

end Place

/-- A part of a file. -/
structure Span where
  start : Place
  stop : Place
  deriving DecidableEq, Repr, Inhabited

namespace Span

/-- The span from the start of one to the end of another. -/
def upTo (a b : Span) : Span :=
  ⟨a.start, b.stop⟩

/-- A span with the name of its file. The line of its end is given if it is another one. -/
def text (file : Text) (s : Span) : Text :=
  let column := Text.ofNat s.stop.column
  file ++ Text.ofString ":" ++ Text.ofNat s.start.line ++ Text.ofString "," ++
    Text.ofNat s.start.column ++ Text.ofString "-" ++
    if s.start.line = s.stop.line then column
    else Text.ofNat s.stop.line ++ Text.ofString "," ++ column

end Span

/-- What is wrong with a span. The detail may mention places, so it depends on the name of the
file. -/
structure Diagnostic where
  span : Span
  summary : Text
  detail : Text → Text

namespace Diagnostic

/-- A diagnostic whose detail is the same for every file. -/
def new (span : Span) (summary : Text) (detail : Text) : Diagnostic :=
  ⟨span, summary, fun _ => detail⟩

/-- The message of a diagnostic. -/
def message (file : Text) (d : Diagnostic) : Text :=
  d.span.text file ++ Text.ofString ": " ++ d.summary ++ Text.ofString "; " ++ d.detail file

/-- The message for several diagnostics: the first, and how many there are besides. -/
def summarize (file : Text) : List Diagnostic → Text
  | [] => Text.ofString "no diagnostics"
  | [d] => d.message file
  | d :: ds =>
    d.message file ++ Text.ofString ", and " ++ Text.ofNat ds.length ++
      Text.ofString " other diagnostic(s)"

end Diagnostic

end Config

end GridRobot
