import NextRelease.Shell.Octets
import NextRelease.Shell.ZoneTable
import NextRelease.Text.Basic

/-!
Days and the hours in them. Days are counted from the first of January 1970 on, and a day is named
by its year, its month and its number in that month, as the Gregorian calendar has it for all time.
-/

namespace NextRelease.Shell

namespace Calendar

structure Day where
  year : Int
  month : Int
  day : Int
  deriving DecidableEq

def Day.number (d : Day) : Int :=
  let year := if d.month ≤ 2 then d.year - 1 else d.year
  let era := year / 400
  let inEra := year - era * 400
  let inYear := (153 * ((d.month + 9) % 12) + 2) / 5 + d.day - 1
  era * 146097 + inEra * 365 + inEra / 4 - inEra / 100 + inYear - 719468

def Day.ofNumber (n : Int) : Day :=
  let shifted := n + 719468
  let era := shifted / 146097
  let inEra := shifted - era * 146097
  let year := (inEra - inEra / 1460 + inEra / 36524 - inEra / 146096) / 365
  let inYear := inEra - (365 * year + year / 4 - year / 100)
  let part := (5 * inYear + 2) / 153
  let month := if part < 10 then part + 3 else part - 9
  ⟨year + era * 400 + (if month ≤ 2 then 1 else 0), month, inYear - (153 * part + 2) / 5 + 1⟩

def Day.exists (d : Day) : Bool :=
  1 ≤ d.month && d.month ≤ 12 && Day.ofNumber d.number == d

def weekday (n : Int) : Int := (n + 4) % 7

def normalized (year month day : Int) : Day :=
  let first : Day := ⟨year + (month - 1) / 12, (month - 1) % 12 + 1, 1⟩
  Day.ofNumber (first.number + day - 1)

def Day.inYear (d : Day) : Int := d.number - (Day.mk d.year 1 1).number

def Day.isoWeek (d : Day) : Int × Int :=
  let thursday := d.number - (weekday d.number + 6) % 7 + 3
  let year := (Day.ofNumber thursday).year
  (year, (thursday - (Day.mk year 1 1).number) / 7 + 1)

def weekdays : List String :=
  ["Sunday", "Monday", "Tuesday", "Wednesday", "Thursday", "Friday", "Saturday"]

def months : List String :=
  ["January", "February", "March", "April", "May", "June", "July", "August", "September",
    "October", "November", "December"]

def nameAt (names : List String) (i : Int) : Octets := (names[i.toNat]?.getD "").toList

end Calendar

structure Moment where
  seconds : Int
  nanoseconds : Nat := 0
  offset : Int := 0
  zone : Octets := "UTC".toList

namespace Moment

open Calendar

def shown (m : Moment) : Int := m.seconds + m.offset

def day (m : Moment) : Day := Day.ofNumber (m.shown / 86400)

def hour (m : Moment) : Int := m.shown % 86400 / 3600

def minute (m : Moment) : Int := m.shown % 3600 / 60

def second (m : Moment) : Int := m.shown % 60

def weekday (m : Moment) : Int := Calendar.weekday (m.shown / 86400)

/-! ## Formats -/

structure Spelling where
  flags : Octets := []
  width : Option Nat := none
  colons : Nat := 0

def Spelling.number (s : Spelling) (usual : Char) (digits : Nat) (n : Int) : Octets :=
  let filler := match s.flags.getLast? with
    | some '-' => none
    | some '_' => some ' '
    | some '0' | some '+' => some '0'
    | _ => some usual
  let text := natText n.natAbs
  let sign := if n < 0 then ['-'] else []
  let width := (s.width.getD digits) - sign.length
  match filler with
  | none => sign ++ text
  | some ' ' => List.replicate (width - text.length) ' ' ++ sign ++ text
  | some c => sign ++ List.replicate (width - text.length) c ++ text

def Spelling.text (s : Spelling) (text : Octets) : Octets :=
  let text := if s.flags.contains '^' then text.map Char.toUpper else text
  let filler := if s.flags.getLast? == some '0' then '0' else ' '
  let width := if s.flags.contains '-' then 0 else s.width.getD 0
  List.replicate (width - text.length) filler ++ text

def Spelling.name (s : Spelling) (text : Octets) : Octets :=
  s.text (if s.flags.contains '#' then text.map Char.toUpper else text)

def Spelling.offset (s : Spelling) (offset : Int) : Octets :=
  let sign := if offset < 0 then '-' else '+'
  let n := offset.natAbs
  let two (n : Nat) : Octets := (if n < 10 then ['0'] else []) ++ natText n
  let hours := two (n / 3600)
  let minutes := two (n / 60 % 60)
  let seconds := two (n % 60)
  sign :: match s.colons with
    | 0 => hours ++ minutes
    | 1 => hours ++ ':' :: minutes
    | 2 => hours ++ ':' :: minutes ++ ':' :: seconds
    | _ =>
      if n % 60 != 0 then hours ++ ':' :: minutes ++ ':' :: seconds
      else if n % 3600 != 0 then hours ++ ':' :: minutes
      else hours

def Spelling.fraction (s : Spelling) (nanoseconds : Nat) : Octets :=
  let digits := natText nanoseconds
  let all := List.replicate (9 - digits.length) '0' ++ digits
  let width := s.width.getD 9
  all.take width ++ List.replicate (width - 9) '0'

def part? (m : Moment) (s : Spelling) (c : Char) : Option Octets :=
  let d := m.day
  let noon := if m.hour % 12 = 0 then 12 else m.hour % 12
  let half := (if m.hour < 12 then "AM" else "PM").toList
  let sundays := (d.inYear + 7 - m.weekday) / 7
  let mondays := (d.inYear + 7 - (m.weekday + 6) % 7) / 7
  match c with
  | '%' => some ['%']
  | 'n' => some ['\n']
  | 't' => some ['\t']
  | 'a' => some (s.name ((nameAt weekdays m.weekday).take 3))
  | 'A' => some (s.name (nameAt weekdays m.weekday))
  | 'b' | 'h' => some (s.name ((nameAt months (d.month - 1)).take 3))
  | 'B' => some (s.name (nameAt months (d.month - 1)))
  | 'C' => some (s.number '0' 2 (d.year / 100))
  | 'd' => some (s.number '0' 2 d.day)
  | 'e' => some (s.number ' ' 2 d.day)
  | 'g' => some (s.number '0' 2 (d.isoWeek.1 % 100))
  | 'G' => some (s.number '0' 4 d.isoWeek.1)
  | 'H' => some (s.number '0' 2 m.hour)
  | 'I' => some (s.number '0' 2 noon)
  | 'j' => some (s.number '0' 3 (d.inYear + 1))
  | 'k' => some (s.number ' ' 2 m.hour)
  | 'l' => some (s.number ' ' 2 noon)
  | 'm' => some (s.number '0' 2 d.month)
  | 'M' => some (s.number '0' 2 m.minute)
  | 'N' => some (s.fraction m.nanoseconds)
  | 'p' => some (s.text (if s.flags.contains '#' then half.map Char.toLower else half))
  | 'P' => some (s.text (half.map Char.toLower))
  | 'q' => some (s.number '0' 1 ((d.month - 1) / 3 + 1))
  | 's' => some (s.number '0' 1 m.seconds)
  | 'S' => some (s.number '0' 2 m.second)
  | 'u' => some (s.number '0' 1 ((m.weekday + 6) % 7 + 1))
  | 'U' => some (s.number '0' 2 sundays)
  | 'V' => some (s.number '0' 2 d.isoWeek.2)
  | 'w' => some (s.number '0' 1 m.weekday)
  | 'W' => some (s.number '0' 2 mondays)
  | 'y' => some (s.number '0' 2 (d.year % 100))
  | 'Y' => some (s.number '0' 4 d.year)
  | 'z' => some (s.text (s.offset m.offset))
  | 'Z' => some (s.text (if s.flags.contains '#' then m.zone.map Char.toLower else m.zone))
  | _ => none

def format? (c : Char) : Option String :=
  match c with
  | 'c' => some "%a %b %e %H:%M:%S %Y"
  | 'D' | 'x' => some "%m/%d/%y"
  | 'F' => some "%Y-%m-%d"
  | 'r' => some "%I:%M:%S %p"
  | 'R' => some "%H:%M"
  | 'T' | 'X' => some "%H:%M:%S"
  | _ => none

/-- Writes a moment as a format says. -/
def write (m : Moment) : (fuel : Nat) → Octets → Octets
  | 0, cs => cs
  | _, [] => []
  | fuel + 1, '%' :: cs =>
    let flags := cs.takeWhile "_-0+^#".toList.contains
    let rest := cs.drop flags.length
    let digits := rest.takeWhile Char.isDigit
    let rest := rest.drop digits.length
    let colons := rest.takeWhile (· == ':')
    let rest := (rest.drop colons.length).dropWhile fun c => c == 'E' || c == 'O'
    let s : Spelling :=
      { flags, width := if digits.isEmpty then none else some (readNat digits)
        colons := colons.length }
    match rest with
    | [] => '%' :: cs
    | c :: more =>
      match format? c, m.part? s c with
      | some text, _ => s.name (m.write fuel text.toList) ++ m.write fuel more
      | none, some text => text ++ m.write fuel more
      | none, none => '%' :: cs.take (cs.length - more.length) ++ m.write fuel more
  | fuel + 1, c :: cs => c :: m.write fuel cs

def text (m : Moment) (format : Octets) : Octets := m.write (format.length + 32) format

end Moment

end NextRelease.Shell

/-! ## Time zones

Time zones: how far the clocks of a place are ahead, and the two days of a year on which they are
changed. A rule is written as a name with the hours to the west, a name for the summer, and the
changes, as in `CET-1CEST,M3.5.0,M10.5.0/3`.
-/

namespace NextRelease.Shell

namespace Zone

inductive Change where
  | inMonth (month week weekday : Nat) (seconds : Int)
  | inYear (skipsLeap : Bool) (day : Nat) (seconds : Int)

structure Rule where
  name : Octets := "UTC".toList
  offset : Int := 0
  summer : Option (Octets × Int × Change × Change) := none

def takeName (text : Octets) : Octets × Octets :=
  match text with
  | '<' :: cs =>
    let name := cs.takeWhile (· != '>')
    (name, cs.drop (name.length + 1))
  | cs =>
    let name := cs.takeWhile Char.isAlpha
    (name, cs.drop name.length)

/-- Hours, minutes and seconds with a sign. -/
def takeTime (text : Octets) : Int × Octets :=
  let (sign, cs) := match text with
    | '-' :: cs => ((-1 : Int), cs)
    | '+' :: cs => (1, cs)
    | cs => (1, cs)
  let number (cs : Octets) : Int × Octets :=
    let digits := cs.takeWhile Char.isDigit
    (Int.ofNat (readNat digits), cs.drop digits.length)
  let further (cs : Octets) : Int × Octets :=
    match cs with
    | ':' :: cs => number cs
    | cs => (0, cs)
  let (hours, cs) := number cs
  let (minutes, cs) := further cs
  let (seconds, cs) := further cs
  (sign * (hours * 3600 + minutes * 60 + seconds), cs)

def change? (text : Octets) : Option Change :=
  let (day, time) := Text.cut '/' text
  let seconds := (time.map fun time => (takeTime time).1).getD 7200
  match day with
  | 'M' :: cs =>
    match Text.splitOn '.' cs with
    | [month, week, weekday] =>
      if [month, week, weekday].all isNumber then
        some (.inMonth (readNat month) (readNat week) (readNat weekday) seconds)
      else none
    | _ => none
  | 'J' :: cs => if isNumber cs then some (.inYear true (readNat cs) seconds) else none
  | cs => if isNumber cs then some (.inYear false (readNat cs) seconds) else none

def rule? (text : Octets) : Option Rule :=
  let (name, rest) := takeName text
  let startsNumber (cs : Octets) : Bool :=
    cs.head?.any fun c => c.isDigit || c == '+' || c == '-'
  if name.length < 3 || !startsNumber rest then none
  else
    let (west, rest) := takeTime rest
    let (summerName, rest) := takeName rest
    if summerName.isEmpty then if rest.isEmpty then some { name, offset := -west } else none
    else
      let (ahead, rest) := if startsNumber rest then
          let (west, rest) := takeTime rest
          (-west, rest)
        else (3600 - west, rest)
      match Text.splitOn ',' rest with
      | [[]] =>
        some { name, offset := -west
               summer := some (summerName, ahead, .inMonth 3 2 0 7200, .inMonth 11 1 0 7200) }
      | [[], start, stop] =>
        match change? start, change? stop with
        | some start, some stop =>
          some { name, offset := -west, summer := some (summerName, ahead, start, stop) }
        | _, _ => none
      | _ => none

def Change.moment (change : Change) (year : Int) : Int :=
  match change with
  | .inMonth month week weekday seconds =>
    let first := (Calendar.Day.mk year month 1).number
    let offset := (Int.ofNat weekday - Calendar.weekday first) % 7
    let day := first + offset + 7 * (Int.ofNat week - 1)
    let next := (Calendar.normalized year (month + 1) 1).number
    (if next ≤ day then day - 7 else day) * 86400 + seconds
  | .inYear skipsLeap day seconds =>
    let first := (Calendar.Day.mk year 1 1).number
    let isLeap := (Calendar.Day.mk year 2 29).exists
    let shift : Int := if skipsLeap then (if isLeap && 60 ≤ day then 0 else -1) else 0
    (first + Int.ofNat day + shift) * 86400 + seconds

/-- The changes that were in force in a year where they are those of other years now. -/
def Rule.inYear (rule : Rule) (year : Int) : Rule :=
  match rule.summer with
  | some (name, ahead, .inMonth 3 2 0 7200, .inMonth 11 1 0 7200) =>
    let since (start : Change) : Rule :=
      { rule with summer := some (name, ahead, start, .inMonth 10 5 0 7200) }
    if 2007 ≤ year then rule
    else if 1987 ≤ year then since (.inMonth 4 1 0 7200)
    else if year = 1974 then since (.inMonth 1 1 0 7200)
    else if year = 1975 then since (.inMonth 2 4 0 7200)
    else since (.inMonth 4 5 0 7200)
  | some (name, ahead, .inMonth 3 5 0 start, .inMonth 10 5 0 stop) =>
    if 1996 ≤ year then rule
    else if name = "BST".toList then
      if year ≤ 1971 then { name, offset := ahead }
      else { rule with summer := some (name, ahead, .inMonth 3 5 0 start, .inMonth 10 4 0 stop) }
    else if 1981 ≤ year then
      { rule with summer := some (name, ahead, .inMonth 3 5 0 start, .inMonth 9 5 0 stop) }
    else { rule with summer := none }
  | _ => rule

def Rule.at (rule : Rule) (seconds : Int) : Int × Octets :=
  let year := (Calendar.Day.ofNumber ((seconds + rule.offset) / 86400)).year
  let rule := rule.inYear year
  match rule.summer with
  | none => (rule.offset, rule.name)
  | some (name, ahead, start, stop) =>
    let start := start.moment year - rule.offset
    let stop := stop.moment year - ahead
    let isSummer := if start < stop then start ≤ seconds && seconds < stop
      else !(stop ≤ seconds && seconds < start)
    if isSummer then (ahead, name) else (rule.offset, rule.name)

def Rule.offsetOfShown (rule : Rule) (shown : Int) : Int :=
  let winter := (rule.at (shown - rule.offset)).1
  if winter = rule.offset then winter
  else
    let summer := (rule.at (shown - winter)).1
    if summer = winter then winter else rule.offset

def ruleFor (text : Octets) : Rule :=
  let text := if text.head? == some ':' then text.drop 1 else text
  let known := ((ruleOf? text).bind rule?)
  match known, rule? text with
  | some rule, _ => rule
  | none, some rule => rule
  | none, none =>
    let name := (takeName text).1
    { name := if text.isEmpty then "UTC".toList else if name.length < 3 then [] else name }

end Zone

def Moment.inZone (m : Moment) (rule : Zone.Rule) : Moment :=
  let (offset, zone) := rule.at m.seconds
  { m with offset, zone }

end NextRelease.Shell
