import SailSim.Time.Instant

/-!
# Reading RFC 3339 times

`readRfc3339` reads `YYYY-MM-DDTHH:MM:SS[.fraction](Z|±hh:mm)` field by field against the
layout `2006-01-02T15:04:05Z07:00`, whose fields stand for year, month, day, hour, minute,
second and zone. Each field is read from the front of what is left:

* the year is four characters starting with a digit; month, day, minute and second are
  two digits; the hour is one or two digits;
* a fraction of a second (a point or comma and digits) may follow the seconds; digits past
  the ninth are dropped;
* the zone is `Z` or a sign, two digits, a colon and two digits.

A field that does not read is reported with what was left at its start and the layout
element it stands for; a field out of range (month past 12, hour past 23, minute or second
past 59, a zone offset past 24 hours or 60 minutes) names the field; text after the zone is
extra text; and last the day must exist in its month.

The strict reading, for times inside JSON documents, also refuses what the layout admits but
RFC 3339 does not: a one-digit hour, a comma before the fraction, and a zone offset of 24
hours or 60 minutes.
-/

namespace SailSim.Time

/-- The layout the fields are reported against. -/
def layout : String := "2006-01-02T15:04:05Z07:00"

/-- Why a text is not an RFC 3339 time. -/
inductive ReadError where
  /-- What was left when the layout element `elem` did not read. -/
  | cannotParse (value rest elem : String)
  /-- A field out of range, with its name. -/
  | outOfRange (value what : String)
  /-- Text after the zone. -/
  | extraText (value rest : String)
  /-- The day is not in its month. -/
  | dayOutOfRange (value : String)
  /-- A zone offset of 24 hours or more (strict reading). -/
  | zoneHour (value : String)
  /-- A zone offset with 60 minutes or more (strict reading). -/
  | zoneMinute (value : String)
  deriving Repr, BEq

/-- Hexadecimal digits in lower case. -/
def lowerHex (n : Nat) : Char := "0123456789abcdef".toList.getD n '0'

/-- A value quoted for a time error: control characters and every byte of a non-ASCII
character as `\xNN`, a quote or backslash after a backslash. -/
def quote (s : String) : String :=
  let escByte (b : UInt8) : String := "\\x" ++ String.ofList [lowerHex (b.toNat / 16), lowerHex (b.toNat % 16)]
  let body := s.toList.map fun c =>
    if c.toNat ≥ 0x80 || c.toNat < 0x20 then String.join ((String.singleton c).toUTF8.toList.map escByte)
    else if c == '"' || c == '\\' then "\\" ++ String.singleton c
    else String.singleton c
  "\"" ++ String.join body ++ "\""

/-- The message of a reading error. -/
def ReadError.message : ReadError → String
  | .cannotParse v rest elem =>
    "parsing time " ++ quote v ++ " as " ++ quote layout ++ ": cannot parse " ++ quote rest ++
      " as " ++ quote elem
  | .outOfRange v what => "parsing time " ++ quote v ++ ": " ++ what ++ " out of range"
  | .extraText v rest => "parsing time " ++ quote v ++ ": extra text: " ++ quote rest
  | .dayOutOfRange v => "parsing time " ++ quote v ++ ": day out of range"
  | .zoneHour v => "parsing time " ++ quote v ++ ": timezone hour out of range"
  | .zoneMinute v => "parsing time " ++ quote v ++ ": timezone minute out of range"

/-- The value of a decimal digit. -/
def digitValue (c : Char) : Nat := c.toNat - '0'.toNat

/-- Whether the character at `i` is a decimal digit. -/
def digitAt (cs : List Char) (i : Nat) : Bool := (cs.getD i ' ').isDigit

/-- A number of one or two digits from the front, exactly two when `fixed`. -/
def number (cs : List Char) (fixed : Bool) : Option (Nat × List Char) :=
  if !digitAt cs 0 then none
  else if !digitAt cs 1 then
    if fixed then none else some (digitValue (cs.getD 0 '0'), cs.drop 1)
  else some (digitValue (cs.getD 0 '0') * 10 + digitValue (cs.getD 1 '0'), cs.drop 2)

/-- A reading in progress: the text left, and a failure. -/
abbrev Reader := StateT (List Char) (Except ReadError)

/-- The fields of a time as read. -/
structure Fields where
  year : Int := 0
  month : Nat := 0
  day : Nat := 0
  hour : Nat := 0
  minute : Nat := 0
  second : Nat := 0
  nanos : Nat := 0
  offset : Int := 0

/-- Reads a literal character of the layout. -/
def literal (v : String) (c : Char) : Reader Unit := do
  let cs ← get
  match cs with
  | d :: rest => if d == c then set rest else throw (.cannotParse v (String.ofList cs) (String.singleton c))
  | [] => throw (.cannotParse v "" (String.singleton c))

/-- Reads a one- or two-digit field standing for the layout element `elem`. -/
def field (v : String) (elem : String) (fixed : Bool) : Reader Nat := do
  let cs ← get
  match number cs fixed with
  | some (n, rest) => do set rest; pure n
  | none => throw (.cannotParse v (String.ofList cs) elem)

/-- The nanoseconds of the fraction digits `ds`, keeping at most nine. -/
def nanosOf (ds : List Char) : Nat :=
  let ds := ds.take 9
  ds.foldl (fun n c => n * 10 + digitValue c) 0 * Nat.pow 10 (9 - ds.length)

/-- Reads the year: four characters, the first a digit, all digits. -/
def readYear (v : String) : Reader Int := do
  let cs ← get
  let yearDigits := cs.take 4
  if cs.length < 4 || !digitAt cs 0 || !yearDigits.all Char.isDigit then
    throw (.cannotParse v (String.ofList cs) "2006")
  set (cs.drop 4)
  pure (yearDigits.foldl (fun n c => n * 10 + digitValue c) 0)

/-- Reads the fraction of a second, if one follows: a point or comma and digits. -/
def readFraction : Reader Nat := do
  let cs ← get
  match cs with
  | p :: d :: rest =>
    if (p == '.' || p == ',') && d.isDigit then
      let more := rest.takeWhile Char.isDigit
      do set (rest.drop more.length); pure (nanosOf (d :: more))
    else pure 0
  | _ => pure 0

/-- Reads the zone: `Z`, or a sign, two digits of hours, a colon and two digits of minutes,
as seconds east of UTC. -/
def readZone (v : String) : Reader Int := do
  let cs ← get
  match cs with
  | 'Z' :: rest => do set rest; pure (0 : Int)
  | s :: h1 :: h2 :: c :: m1 :: m2 :: rest =>
    if c != ':' then throw (.cannotParse v (String.ofList cs) "Z07:00") else
    match number [h1, h2] true, number [m1, m2] true with
    | some (hr, _), some (mm, _) =>
      let off : Int := (hr * 60 + mm) * 60
      if mm > 60 then throw (.outOfRange v "time zone offset minute")
      else if hr > 24 then throw (.outOfRange v "time zone offset hour")
      else if s == '+' then do set rest; pure off
      else if s == '-' then do set rest; pure (-off)
      else throw (.cannotParse v (String.ofList cs) "Z07:00")
    | _, _ => throw (.cannotParse v (String.ofList cs) "Z07:00")
  | _ => throw (.cannotParse v (String.ofList cs) "Z07:00")

/-- Reads the fields of an RFC 3339 time. -/
def readFields (v : String) : Reader Fields := do
  let year ← readYear v
  literal v '-'
  let month ← field v "01" true
  if month == 0 || month > 12 then throw (.outOfRange v "month")
  literal v '-'
  let day ← field v "02" true
  literal v 'T'
  let hour ← field v "15" false
  if hour ≥ 24 then throw (.outOfRange v "hour")
  literal v ':'
  let minute ← field v "04" true
  if minute ≥ 60 then throw (.outOfRange v "minute")
  literal v ':'
  let second ← field v "05" true
  if second ≥ 60 then throw (.outOfRange v "second")
  let nanos ← readFraction
  let offset ← readZone v
  let cs ← get
  if !cs.isEmpty then throw (.extraText v (String.ofList cs))
  if day == 0 || day > Civil.daysIn month year then throw (.dayOutOfRange v)
  pure ⟨year, month, day, hour, minute, second, nanos, offset⟩

/-- The instant an RFC 3339 text denotes. -/
def readRfc3339 (v : String) : Except ReadError Instant := do
  let (f, _) ← (readFields v).run v.toList
  pure (Civil.toInstant ⟨f.year, f.month, f.day, f.hour, f.minute, f.second, f.nanos⟩ f.offset)

/-- The strict reading: also refuses a one-digit hour, a comma before the fraction and a
zone offset of 24 hours or 60 minutes. -/
def readRfc3339Strict (v : String) : Except ReadError Instant := do
  let t ← readRfc3339 v
  let cs := v.toList
  let n := cs.length
  let num2 (i : Nat) : Nat := digitValue (cs.getD i '0') * 10 + digitValue (cs.getD (i + 1) '0')
  if cs.getD 12 ' ' == ':' then throw (.cannotParse v (String.singleton (cs.getD 11 ' ')) "15")
  if cs.getD 19 ' ' == ',' then throw (.cannotParse v "," ".")
  if cs.getD (n - 1) ' ' != 'Z' then
    if num2 (n - 5) ≥ 24 then throw (.zoneHour v)
    if num2 (n - 2) ≥ 60 then throw (.zoneMinute v)
  pure t

end SailSim.Time
