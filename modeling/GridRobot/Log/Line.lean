import GridRobot.Log.Record

/-!
# Log lines

A record is written as one line, either as text, `level=INFO msg=…`, or as a JSON object. In text
the names of the groups are put before the keys with dots; in JSON each group is an object in its
own right, and a group without members is left out.
-/

namespace GridRobot

namespace Log

/-- The form of the lines. -/
inductive Format where
  | text
  | json
  deriving DecidableEq, Repr, Inhabited

/-- The format that a word names; other words stand for text. -/
def Format.read (word : Text) : Format :=
  if word = Text.ofString "json" then .json else .text

/-! ## Text -/

/-- Whether a rune cannot stand in a text line without quotes. -/
def forcesQuotes : Rune → Bool
  | .stray _ => true
  | .char c =>
    if c.toNat < 128 then c.toNat ≤ 32 || c.toNat = 34 || c.toNat = 61
    else c = Rune.replacement || !Text.isPrintable c

/-- Whether a text has to be quoted in a text line; the empty one has to be seen. -/
def needsQuotes (t : Text) : Bool :=
  t.isEmpty || t.runes.any forcesQuotes

/-- A name or value of a text line, quoted where it has to be. -/
def plain (t : Text) : Text :=
  if needsQuotes t then t.quoted else t

/-- The value of an attribute in a text line. -/
def Value.plain : Value → Text
  | .text t => Log.plain t
  | .number n => Text.ofInt n
  | .document form _ => Log.plain form

/-- A key below some groups. The whole of it is quoted if the groups or the key have to be, so
an empty key is seen inside a group too. -/
def qualified (groups key : Text) : Text :=
  if groups.isEmpty then plain key
  else if needsQuotes groups || needsQuotes key then Text.quoted (groups ++ key)
  else groups ++ key

/-- A key with its value. -/
def pair (groups key value : Text) : Text :=
  qualified groups key ++ 61 :: value

/-- The pairs of a text line, with the groups passed so far put before the keys. -/
def pairs (groups : Text) : List Scope → List Text
  | [] => []
  | .attr a :: rest => pair groups a.key a.value.plain :: pairs groups rest
  | .group name :: rest => pairs (groups ++ name ++ [46]) rest

/-- A record as a line of text. -/
def textLine (context : List Scope) (r : Record) : Text :=
  Text.join [32] (pair [] (Text.ofString "level") (levelText r.level) ::
    pair [] (Text.ofString "msg") (plain r.message) :: pairs [] (context ++ r.attrs.map .attr))

/-! ## JSON -/

/-- A rune inside a JSON string. A stray byte becomes the replacement character. -/
def jsonRune : Rune → Text
  | .stray _ => Text.ofChar Rune.replacement
  | .char c =>
    match c.toNat with
    | 34 => [92, 34]
    | 92 => [92, 92]
    | 8 => [92, 98]
    | 12 => [92, 102]
    | 10 => [92, 110]
    | 13 => [92, 114]
    | 9 => [92, 116]
    | n =>
      if n < 32 || n = 0x2028 || n = 0x2029 then Text.ofString "\\u" ++ Text.hex 4 n
      else Text.ofChar c

/-- A JSON string. -/
def json (t : Text) : Text :=
  34 :: t.runes.flatMap jsonRune ++ [34]

/-- The value of an attribute in JSON. -/
def Value.json : Value → Text
  | .text t => Log.json t
  | .number n => Text.ofInt n
  | .document _ form => form

/-- A member of a JSON object. -/
def member (key value : Text) : Text :=
  json key ++ 58 :: value

/-- A JSON object with given members. -/
def jsonObject (members : List Text) : Text :=
  123 :: Text.join [44] members ++ [125]

/-- The members that a sequence of attributes and groups makes up. -/
def members : List Scope → List Text
  | [] => []
  | .attr a :: rest => member a.key a.value.json :: members rest
  | .group name :: rest =>
    let inner := members rest
    if inner.isEmpty then [] else [member name (jsonObject inner)]

/-- A record as a JSON object. -/
def jsonLine (context : List Scope) (r : Record) : Text :=
  jsonObject (member (Text.ofString "level") (json (levelText r.level)) ::
    member (Text.ofString "msg") (json r.message) :: members (context ++ r.attrs.map .attr))

/-- A record as a line in a given format. -/
def Format.line : Format → List Scope → Record → Text
  | .text => textLine
  | .json => jsonLine

end Log

end GridRobot
