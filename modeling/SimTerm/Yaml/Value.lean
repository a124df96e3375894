import SimTerm.Json
import SimTerm.Moment
/-!
# YAML Values

What the nodes of a document stand for. Besides the values of the core schema there are bytes,
dates and times, sets and lists of pairs. A collection carries the number of its node, since it
may be a part of itself: inside itself it is shown by dots. Such a collection is opened up to a
bounded depth, below which only its number and its shape are left.

As with JSON values a whole number with too many digits has no text, and neither has a value
with collections inside collections beyond a bound.

## Main definitions

* `Yaml.Value`: The values.
* `Yaml.Value.lookup?`: What a mapping holds under a name.
* `Yaml.Place`: Where something that is being shown stands.
* `Yaml.Value.literalIn`: A value as it is shown inside a collection.
* `Yaml.Value.display`: A value as it is shown by itself.
* `Yaml.Value.sameKey`: Whether two keys are one.
-/

namespace SimTerm

namespace Yaml

/-- The shapes of collections. -/
inductive Shape where
  /-- Values in a row. -/
  | list
  /-- Keys with their values. -/
  | mapping
  /-- Keys alone. -/
  | set
deriving Repr, DecidableEq

/-- A date with a time of day. -/
structure Time where
  /-- The date and the time of day. -/
  moment : Moment
  /-- The microseconds of the second. -/
  micros : Nat
  /-- The distance from universal time in minutes, if it is known. -/
  offset : Option Int
deriving Repr, DecidableEq

/-- What the nodes of a document stand for. -/
inductive Value where
  /-- The absent value. -/
  | null
  /-- A truth value. -/
  | bool (b : Bool)
  /-- A whole number. -/
  | int (n : Int)
  /-- A number with a fraction, or the constant that is no number. -/
  | float (x : Double)
  /-- What a conversion at a node comes to if it is no number. -/
  | noNumber (node : Nat)
  /-- A text. -/
  | text (s : String)
  /-- Bytes. -/
  | binary (bytes : List Nat)
  /-- A date. -/
  | date (year month day : Nat)
  /-- A date with a time of day. -/
  | time (t : Time)
  /-- Values in a row. -/
  | sequence (node : Nat) (items : List Value)
  /-- Keys with values in a row, where a key may come twice. -/
  | pairs (node : Nat) (entries : List (Value × Value))
  /-- Keys with their values. -/
  | mapping (node : Nat) (entries : List (Value × Value))
  /-- Keys alone. -/
  | set (members : List Value)
  /-- A collection inside itself that is not opened up any further. -/
  | closed (node : Nat) (shape : Shape)
deriving Repr

instance : Inhabited Value := ⟨.null⟩

namespace Time

/-- The distance from universal time with its sign, as hours and minutes. -/
def offsetText (minutes : Int) : String :=
  let n := minutes.natAbs
  (if minutes < 0 then "-" else "+") ++ Moment.twoDigits (n / 60) ++ ":" ++
    Moment.twoDigits (n % 60)

/-- The date, the time of day, and the distance from universal time if it is known. -/
def text (t : Time) : String :=
  t.moment.calendarText ++ " " ++ t.moment.timeText ++
    (if t.micros == 0 then "" else "." ++ Text.paddedText 6 t.micros) ++
    (match t.offset with
      | none => ""
      | some minutes => offsetText minutes)

/-- The distance from universal time as days and seconds. -/
def offsetLiteral (minutes : Int) : String :=
  let days := if minutes < 0 then "days=-1, " else ""
  let seconds := (minutes * 60).emod 86400
  if minutes == 0 then "datetime.timezone.utc"
  else "datetime.timezone(datetime.timedelta(" ++ days ++ "seconds=" ++ toString seconds ++ "))"

/-- The numbers that make up a time, without zeros for second and microsecond at the end. -/
def parts (t : Time) : List Nat :=
  let m := t.moment
  [m.year, m.month, m.day, m.hour, m.minute] ++
    (if t.micros != 0 then [m.second, t.micros] else if m.second != 0 then [m.second] else [])

/-- A time as it is shown inside a collection. -/
def literal (t : Time) : String :=
  "datetime.datetime(" ++ String.intercalate ", " (t.parts.map toString) ++
    (match t.offset with
      | none => ""
      | some minutes => ", tzinfo=" ++ offsetLiteral minutes) ++ ")"

/-- The microseconds from a fixed start, in universal time if the distance is known. -/
def instant (t : Time) : Int :=
  (Instant.ofMoment t.moment).micros + t.micros - t.offset.getD 0 * 60000000

end Time

/-- One byte of a text of bytes. -/
def byteText (quote : Char) (byte : Nat) : List Char :=
  let c := Char.ofNat byte
  if c == quote || c == '\\' then ['\\', c]
  else if c == '\t' then ['\\', 't']
  else if c == '\n' then ['\\', 'n']
  else if c == '\r' then ['\\', 'r']
  else if 0x20 ≤ byte ∧ byte < 0x7F then [c]
  else '\\' :: 'x' :: Text.hexText 2 byte

/-- Bytes between quotes. -/
def bytesText (bytes : List Nat) : String :=
  let quote := Text.quoteOf (bytes.map Char.ofNat)
  String.ofList ('b' :: quote :: bytes.flatMap (byteText quote) ++ [quote])

/-- Where something that is being shown stands. -/
inductive Place where
  /-- The collection of a node. -/
  | whole (node : Nat)
  /-- A pair in the collection of a node. -/
  | pair (node index : Nat)
deriving Repr, DecidableEq

namespace Value

/-- The shape of a value that is a collection. -/
def shape? : Value → Option Shape
  | .sequence .. => some .list
  | .pairs .. => some .list
  | .mapping .. => some .mapping
  | .set _ => some .set
  | .closed _ shape => some shape
  | _ => none

/-- Whether a value is a list or a mapping. -/
def isListOrMapping (v : Value) : Bool :=
  v.shape? == some .list || v.shape? == some .mapping

/-- What entries hold under a name; of two equal names the first counts. -/
def lookup? (entries : List (Value × Value)) (name : String) : Option Value :=
  (entries.find? (fun e => match e.1 with | .text s => s == name | _ => false)).map Prod.snd

/-- What stands for a collection inside itself. -/
def dots : Shape → String
  | .list => "[...]"
  | .mapping => "\x7b...\x7d"
  | .set => "set(...)"

/-- Literals in a row, between brackets. -/
def bracketed (ls : List String) : String := "[" ++ String.intercalate ", " ls ++ "]"

/-- Literals in a row, between braces. -/
def braced (ls : List String) : String := "\x7b" ++ String.intercalate ", " ls ++ "\x7d"

mutual

/-- A value as it is shown inside what is around it, where there is room for some levels. What
is around it already is not shown again. -/
def literalIn : List Place → Value → Nat → Except Unwritable String
  | _, _, 0 => .error .tooDeep
  | _, .null, _ + 1 => .ok "None"
  | _, .bool b, _ + 1 => .ok (if b then "True" else "False")
  | _, .int n, _ + 1 =>
    match Text.writeInteger? n with
    | some digits => .ok digits
    | none => .error .tooManyDigits
  | _, .float x, _ + 1 => .ok x.text
  | _, .noNumber _, _ + 1 => .ok Double.nan.text
  | _, .text s, _ + 1 => .ok (quoted s)
  | _, .binary bytes, _ + 1 => .ok (bytesText bytes)
  | _, .date year month day, _ + 1 =>
    .ok ("datetime.date(" ++ String.intercalate ", " ([year, month, day].map toString) ++ ")")
  | _, .time t, _ + 1 => .ok t.literal
  | around, .sequence node items, room + 1 =>
    if around.contains (.whole node) then .ok (dots .list)
    else (literalsIn (.whole node :: around) items room).map bracketed
  | around, .pairs node entries, room + 1 =>
    if around.contains (.whole node) then .ok (dots .list)
    else (pairLiteralsIn (.whole node :: around) node 0 entries room).map bracketed
  | around, .mapping node entries, room + 1 =>
    if around.contains (.whole node) then .ok (dots .mapping)
    else (entryLiteralsIn (.whole node :: around) entries room).map braced
  | around, .set members, room + 1 =>
    (literalsIn around members room).map (fun ls => if ls.isEmpty then "set()" else braced ls)
  | _, .closed _ shape, _ + 1 => .ok (dots shape)

/-- The literals of some values. -/
def literalsIn : List Place → List Value → Nat → Except Unwritable (List String)
  | _, [], _ => .ok []
  | around, v :: vs, room =>
    (literalIn around v room).bind (fun l => (literalsIn around vs room).map (l :: ·))

/-- The literals of the pairs of a node from an index on. A pair is a level of its own. -/
def pairLiteralsIn :
    List Place → Nat → Nat → List (Value × Value) → Nat → Except Unwritable (List String)
  | _, _, _, [], _ => .ok []
  | _, _, _, _ :: _, 0 => .error .tooDeep
  | around, node, index, (k, v) :: rest, room + 1 =>
    let inside := Place.pair node index :: around
    let text :=
      if around.contains (.pair node index) then .ok "(...)"
      else
        (literalIn inside k room).bind (fun a =>
          (literalIn inside v room).map (fun b => "(" ++ a ++ ", " ++ b ++ ")"))
    text.bind (fun l => (pairLiteralsIn around node (index + 1) rest (room + 1)).map (l :: ·))

/-- The literals of some entries of a mapping. -/
def entryLiteralsIn :
    List Place → List (Value × Value) → Nat → Except Unwritable (List String)
  | _, [], _ => .ok []
  | around, (k, v) :: rest, room =>
    (literalIn around k room).bind (fun a => (literalIn around v room).bind (fun b =>
      (entryLiteralsIn around rest room).map ((a ++ ": " ++ b) :: ·)))

end

/-- The pairs of a node as each of them is shown by itself. -/
def pairTexts (node : Nat) (entries : List (Value × Value)) : Except Unwritable (List String) :=
  pairLiteralsIn [] node 0 entries Json.maxLevels

/-- A value as it is shown by itself: a text as it is, any other value as its literal, dates and
times in their usual form. -/
def display : Value → Except Unwritable String
  | .text s => .ok s
  | .date year month day => .ok (Moment.calendarText ⟨year, month, day, 0, 0, 0⟩)
  | .time t => .ok t.text
  | v => literalIn [] v Json.maxLevels

/-- The number that a value counts as among keys. -/
def keyNumber? : Value → Option Int
  | .bool b => some (if b then 1 else 0)
  | .int n => some n
  | .float x => x.toInt?
  | _ => none

/-- Whether two keys are one. Numbers are one if they are equal, and times if they name the
same instant. The constant that is no number is one with itself, and so is what a conversion at
a node comes to. -/
def sameKey (a b : Value) : Bool :=
  match keyNumber? a, keyNumber? b with
  | some m, some n => m == n
  | none, none =>
    match a, b with
    | .null, .null => true
    | .float x, .float y => x == y
    | .noNumber m, .noNumber n => m == n
    | .text s, .text t => s == t
    | .binary x, .binary y => x == y
    | .date y m d, .date y' m' d' => y == y' && m == m' && d == d'
    | .time s, .time t => s.offset.isSome == t.offset.isSome && s.instant == t.instant
    | _, _ => false
  | _, _ => false

end Value

end Yaml

end SimTerm
