import Covenant.Fault
import Covenant.Text.Pattern
import Covenant.Value.Text

namespace Covenant.Yaml

structure Date where
  year : Nat
  month : Nat
  day : Nat
deriving Repr, DecidableEq

structure TimeOfDay where
  hour : Nat
  minute : Nat
  second : Nat
  microsecond : Nat := 0
  offset : Option Int := none
deriving Repr, DecidableEq

structure Timestamp where
  date : Date
  time : Option TimeOfDay := none
deriving Repr, DecidableEq

/-! ## The calendar -/

def isLeap (year : Nat) : Bool :=
  year % 4 == 0 && (year % 100 != 0 || year % 400 == 0)

def daysInMonth (year month : Nat) : Nat :=
  if month == 2 then (if isLeap year then 29 else 28)
  else if [4, 6, 9, 11].contains month then 30
  else 31

def Date.check (d : Date) : Except Fault Unit :=
  if d.year == 0 then .error ⟨.value, "year 0 is out of range", []⟩
  else if d.month < 1 || d.month > 12 then .error ⟨.value, "month must be in 1..12", []⟩
  else if d.day < 1 || d.day > daysInMonth d.year d.month then .error ⟨.value, "day is out of range for month", []⟩
  else .ok ()

def minutesInDay : Nat := 1440

def spanText (minutes : Int) : String :=
  let days := minutes.fdiv minutesInDay
  let seconds := 60 * minutes.fmod minutesInDay
  let parts :=
    (if days == 0 then [] else ["days=" ++ Value.intText days]) ++
      (if seconds == 0 then [] else ["seconds=" ++ Value.intText seconds])
  "datetime.timedelta(" ++ (if parts.isEmpty then "0" else Text.joined ", " parts) ++ ")"

def checkOffset (minutes : Int) : Except Fault Unit :=
  if minutes.natAbs < minutesInDay then .ok ()
  else .error ⟨.value, "offset must be a timedelta strictly between -timedelta(hours=24) and timedelta(hours=24), not "
    ++ spanText minutes ++ ".", []⟩

def TimeOfDay.check (t : TimeOfDay) : Except Fault Unit :=
  if t.hour > 23 then .error ⟨.value, "hour must be in 0..23", []⟩
  else if t.minute > 59 then .error ⟨.value, "minute must be in 0..59", []⟩
  else if t.second > 59 then .error ⟨.value, "second must be in 0..59", []⟩
  else .ok ()

def Timestamp.check (t : Timestamp) : Except Fault Unit := do
  if let some minutes := t.time.bind (·.offset) then checkOffset minutes
  t.date.check
  if let some time := t.time then time.check

/-! ## Reading -/

def digitsValue (cs : List Char) : Nat :=
  cs.foldl (fun n c => 10 * n + (c.toNat - 48)) 0

def takeNumber? (least most : Nat) (cs : List Char) : Option (Nat × List Char) :=
  let ds := (cs.take most).takeWhile Char.isDigit
  if ds.length < least then none else some (digitsValue ds, cs.drop ds.length)

def takeMark? (mark : Char) : List Char → Option (List Char)
  | c :: cs => if c == mark then some cs else none
  | [] => none

def microseconds (ds : List Char) : Nat :=
  let shown := ds.take 6
  digitsValue shown * Nat.pow 10 (6 - shown.length)

def takeFraction (cs : List Char) : Nat × List Char :=
  match cs with
  | '.' :: rest => (microseconds (rest.takeWhile Char.isDigit), rest.dropWhile Char.isDigit)
  | cs => (0, cs)

def readOffset? (cs : List Char) : Option Int := do
  let (hours, cs) ← takeNumber? 1 2 cs
  match cs with
  | [] => return 60 * hours
  | cs =>
    let (minutes, rest) ← takeNumber? 2 2 (← takeMark? ':' cs)
    if rest.isEmpty then return 60 * hours + minutes else none

def readZone? (cs : List Char) : Option (Option Int) :=
  if cs.isEmpty then some none
  else match cs.dropWhile fun c => c == ' ' || c == '\t' with
    | ['Z'] => some (some 0)
    | '+' :: rest => (readOffset? rest).map some
    | '-' :: rest => (readOffset? rest).map fun n => some (-n)
    | _ => none

def takeSeparator? (cs : List Char) : Option (List Char) :=
  match cs with
  | 'T' :: rest => some rest
  | 't' :: rest => some rest
  | cs =>
    let rest := cs.dropWhile fun c => c == ' ' || c == '\t'
    if rest.length < cs.length then some rest else none

def readTime? (cs : List Char) : Option TimeOfDay := do
  let (hour, cs) ← takeNumber? 1 2 (← takeSeparator? cs)
  let (minute, cs) ← takeNumber? 2 2 (← takeMark? ':' cs)
  let (second, cs) ← takeNumber? 2 2 (← takeMark? ':' cs)
  let (microsecond, cs) := takeFraction cs
  return ⟨hour, minute, second, microsecond, ← readZone? cs⟩

def Timestamp.read? (text : String) : Option Timestamp := do
  let (year, cs) ← takeNumber? 4 4 (Text.withoutLineBreak text).toList
  let (month, cs) ← takeNumber? 1 2 (← takeMark? '-' cs)
  let (day, cs) ← takeNumber? 1 2 (← takeMark? '-' cs)
  if cs.isEmpty then return ⟨⟨year, month, day⟩, none⟩
  else return ⟨⟨year, month, day⟩, some (← readTime? cs)⟩

/-! ## Texts -/

def padded (width n : Nat) : String :=
  let ds := Nat.toDigits 10 n
  String.ofList (List.replicate (width - ds.length) '0' ++ ds)

def Date.text (d : Date) : String :=
  padded 4 d.year ++ "-" ++ padded 2 d.month ++ "-" ++ padded 2 d.day

def offsetText (minutes : Int) : String :=
  (if minutes < 0 then "-" else "+") ++ padded 2 (minutes.natAbs / 60) ++ ":" ++ padded 2 (minutes.natAbs % 60)

def TimeOfDay.text (t : TimeOfDay) : String :=
  padded 2 t.hour ++ ":" ++ padded 2 t.minute ++ ":" ++ padded 2 t.second ++
    (if t.microsecond == 0 then "" else "." ++ padded 6 t.microsecond) ++
    (match t.offset with | some minutes => offsetText minutes | none => "")

def Timestamp.text (t : Timestamp) : String :=
  t.date.text ++ match t.time with
    | some time => " " ++ time.text
    | none => ""

def TimeOfDay.numbers (t : TimeOfDay) : List Nat :=
  if t.microsecond != 0 then [t.hour, t.minute, t.second, t.microsecond]
  else if t.second != 0 then [t.hour, t.minute, t.second]
  else [t.hour, t.minute]

def zoneText (minutes : Int) : String :=
  if minutes == 0 then "datetime.timezone.utc" else "datetime.timezone(" ++ spanText minutes ++ ")"

def Timestamp.inner (t : Timestamp) : String :=
  let day := [t.date.year, t.date.month, t.date.day]
  match t.time with
  | none => "datetime.date(" ++ Text.joined ", " (day.map Nat.repr) ++ ")"
  | some time =>
    let zone := match time.offset with
      | some minutes => ["tzinfo=" ++ zoneText minutes]
      | none => []
    "datetime.datetime(" ++ Text.joined ", " ((day ++ time.numbers).map Nat.repr ++ zone) ++ ")"

def Timestamp.value (t : Timestamp) : Value := .foreign .date t.text t.inner

end Covenant.Yaml
