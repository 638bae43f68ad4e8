import ControlBreak.Calendar
import ControlBreak.Number.Numeral
import ControlBreak.Text.Identifier
import ControlBreak.Value.Operators
import ControlBreak.Value.Text

/-!
# Reading values

Values from their written forms. A text that is no such form is a fault, which
says what is wrong with it: what the printers of this library write is read back,
and so are the other forms that the host knows. Rows and slotted objects need
names that the host accepts.
-/

namespace ControlBreak

namespace Reading

/-- An integer. -/
def int (s : String) : Host Int :=
  orFault (.badValue ("invalid literal for int() with base 10: " ++ quoted s)) (intParse? s)

/-- A floating-point number; a not-a-number gets the mark. -/
def float (mark : Mark) (s : String) : Host Binary64 :=
  orFault (.badValue ("could not convert string to float: " ++ quoted s)) (Binary64.parse? mark s)

/-- A decimal; a not-a-number gets the mark. -/
def decimal (mark : Mark) (s : String) : Host Decimal :=
  orFault .invalidDecimal (Decimal.parse? mark s)

/-- A rational. -/
def rational (s : String) : Host Rat := do
  let (n, d) ← orFault (.badValue ("Invalid literal for Fraction: " ++ quoted s)) (ratParts? s)
  if d = 0 then .error .zeroDivisor else return mkRat n d

/-! ### Bytes -/

/-- The bytes that pairs of hexadecimal digits spell, blanks between them apart; or
    the position of the first character that does not belong there. -/
def bytesFrom (position : Nat) : List Char → Except Nat (List UInt8)
  | [] => .ok []
  | [a] => if isPlainBlank a then .ok [] else
    .error (position + if (hexValue? a).isSome then 1 else 0)
  | a :: b :: rest =>
    if isPlainBlank a then bytesFrom (position + 1) (b :: rest)
    else
      match hexValue? a, hexValue? b with
      | some x, some y => (bytesFrom (position + 2) rest).map (UInt8.ofNat (16 * x + y) :: ·)
      | some _, none => .error (position + 1)
      | none, _ => .error position

/-- Bytes in hexadecimal digits. -/
def bytes (s : String) : Host (List UInt8) :=
  let found : Except Nat (List UInt8) := match s.toList.findIdx? fun c => 127 < c.toNat with
    | some position => .error position
    | none => bytesFrom 0 s.toList
  found.mapError fun position =>
    .badValue ("non-hexadecimal number found in fromhex() arg at position " ++ natText position)

/-! ### Dates and times -/

/-- The fault of a text that is no date and no time. -/
def notIso (s : String) : Fault :=
  .badValue ("Invalid isoformat string: " ++ quoted s)

/-- A number of just so many digits at the start of a text, and the rest. -/
def digits? (width : Nat) (text : List Char) : Option (Nat × List Char) :=
  if text.length < width then none
  else (Numeral.nat? (text.take width)).map fun n => (n, text.drop width)

/-- The rest of a text after a character. -/
def after? (c : Char) : List Char → Option (List Char)
  | d :: rest => if c = d then some rest else none
  | [] => none

/-- The date at the start of a text: a year, and a month and a day of it, or a week
    and a day of it, with or without dashes. If the text is not `width` long, the day
    of the week is left out, and Monday is meant. -/
def dateParts? (width : Nat) (text : List Char) : Option Date := do
  let (year, rest) ← digits? 4 text
  let dashes := rest.head? == some '-'
  let skip (rest : List Char) : Option (List Char) := if dashes then after? '-' rest else some rest
  let rest ← skip rest
  match after? 'W' rest with
  | some rest => do
    let (week, rest) ← digits? 2 rest
    if width ≤ (if dashes then 8 else 7) then Date.ofWeek? year week 1
    else Date.ofWeek? year week (← digits? 1 (← skip rest)).1
  | none => do
    let (month, rest) ← digits? 2 rest
    let (day, _) ← digits? 2 (← skip rest)
    return ⟨year, month, day⟩

/-- The length of the date at the start of a text that goes on with a time, judged by
    dashes and by the letter of a week. Without dashes the digits after a week are
    pairs, but for the day of the week; after a dash two digits are hours. -/
def dateWidth (text : List Char) : Nat :=
  if text[4]? == some '-' then
    if text[5]? == some 'W' && (text[8]? != some '-' || text[10]?.any Char.isDigit) then 8 else 10
  else if text[4]? == some 'W' then
    let digits := ((text.drop 7).takeWhile Char.isDigit).length
    if digits < 2 then 7 + digits else if digits % 2 = 1 then 7 else 8
  else 8

/-- The parts of a second as microseconds, from their digits; those smaller are cut. -/
def microseconds? (digits : List Char) : Option Nat := do
  let _ ← Numeral.nat? digits
  return Numeral.natOf ((digits ++ List.replicate 6 '0').take 6)

/-- What follows a mark of fractions. -/
def afterPoint? (text : List Char) : Option (List Char) :=
  (after? '.' text).or (after? ',' text)

/-- A time of whole units, or with the parts of a second that stand in a text after
    what `skip?` passes over; one character alone is too short for them. -/
def ended? (skip? : List Char → Option (List Char)) (t : TimeOfDay) (text : List Char) :
    Option TimeOfDay :=
  if text.isEmpty then some t
  else if text.length < 2 then none
  else do return { t with microsecond := ← microseconds? (← skip? text) }

/-- Hours, then minutes and seconds if they are given, with or without colons, and
    parts of a second; these may follow the seconds as the seconds follow the
    minutes. -/
def timeParts? (text : List Char) : Option TimeOfDay := do
  let (hour, rest) ← digits? 2 ((after? 'T' text).getD text)
  let colons := rest.head? == some ':'
  let skip (rest : List Char) : Option (List Char) := if colons then after? ':' rest else some rest
  (ended? afterPoint? ⟨hour, 0, 0, 0⟩ rest).or do
    let (minute, rest) ← digits? 2 (← skip rest)
    (ended? afterPoint? ⟨hour, minute, 0, 0⟩ rest).or do
      let (second, rest) ← digits? 2 (← skip rest)
      ended? (fun text => (afterPoint? text).or (skip text)) ⟨hour, minute, second, 0⟩ rest

/-- A date that the calendar has. -/
def checkedDate (d : Date) : Host Date :=
  if d.year = 0 ∨ 9999 < d.year then
    .error (.badValue ("year " ++ natText d.year ++ " is out of range"))
  else if d.month = 0 ∨ 12 < d.month then .error (.badValue "month must be in 1..12")
  else if d.isValid then .ok d
  else .error (.badValue "day is out of range for month")

/-- A time that the day has. -/
def checkedTime (t : TimeOfDay) : Host TimeOfDay :=
  if 23 < t.hour then .error (.badValue "hour must be in 0..23")
  else if 59 < t.minute then .error (.badValue "minute must be in 0..59")
  else if 59 < t.second then .error (.badValue "second must be in 0..59")
  else .ok t

/-- A date, in 7, 8 or 10 bytes; what follows the date within them is passed over. -/
def date (s : String) : Host Date := do
  let width := s.utf8ByteSize
  let d := if width ∈ [7, 8, 10] then dateParts? width s.toList else none
  checkedDate (← orFault (notIso s) d)

def time (s : String) : Host TimeOfDay := do
  checkedTime (← orFault (notIso s) (timeParts? s.toList))

/-- A date, and after one character a time if there is one. -/
def moment (s : String) : Host Moment := do
  let text := s.toList
  let width := dateWidth text
  let d ← orFault (notIso s) (dateParts? width (text.take width))
  let t ← match text.drop width with
    | [] => pure TimeOfDay.first
    | _ :: rest =>
      if rest.head? == some 'T' then .error (notIso s) else orFault (notIso s) (timeParts? rest)
  return ⟨← checkedDate d, ← checkedTime t⟩

/-- A duration of days, seconds and microseconds. -/
def duration (days seconds microseconds : Int) : Host Duration :=
  checkedDuration (.ofParts days seconds microseconds)

/-! ### Rows and slots -/

/-- The words that the host keeps for itself. -/
def keywords : List String := [
  "False", "None", "True", "and", "as", "assert", "async", "await", "break", "class", "continue",
  "def", "del", "elif", "else", "except", "finally", "for", "from", "global", "if", "import", "in",
  "is", "lambda", "nonlocal", "not", "or", "pass", "raise", "return", "try", "while", "with",
  "yield"]

/-- What is wrong with a name for a place of a row, as a word. -/
def nameProblem? (name : String) : Option String :=
  if !isIdentifier name then
    some ("Type names and field names must be valid identifiers: " ++ quoted name)
  else if keywords.contains name then
    some ("Type names and field names cannot be a keyword: " ++ quoted name)
  else none

/-- What is wrong with a name for a place of a row, after the names before it. -/
def placeProblem? (before : List String) : List String → Option String
  | [] => none
  | name :: rest =>
    if name.startsWith "_" then
      some ("Field names cannot start with an underscore: " ++ quoted name)
    else if before.contains name then some ("Encountered duplicate field name: " ++ quoted name)
    else placeProblem? (name :: before) rest

/-- A row with the given places. -/
def row (fields : List (String × Value)) : Host Value :=
  let names := fields.map (·.1)
  match (names.findSome? nameProblem?).or (placeProblem? [] names) with
  | some problem => .error (.badValue problem)
  | none => .ok (.row fields)

/-- Whether a slot of a given name is private: nobody outside finds it by this name. -/
def isPrivate (name : String) : Bool :=
  name.startsWith "__" && !name.endsWith "__"

/-- An object with slots; private ones cannot be set. -/
def slots (mark : Mark) (bare : Bool) (declared : List (String × Option Value)) : Host Value :=
  if declared.any fun s => !isIdentifier s.1 then .error .unsuitable
  else if declared.any fun s => isPrivate s.1 && s.2.isSome then .error .missingAttribute
  else .ok (.slots mark bare declared)

end Reading

end ControlBreak
