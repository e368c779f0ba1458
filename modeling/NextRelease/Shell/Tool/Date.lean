import NextRelease.Shell.Sum
import NextRelease.Shell.Tool.Basic
import NextRelease.Shell.Calendar

/-!
Points in time: how they are said in words and figures, and how `date` writes them.
-/

namespace NextRelease.Shell.Tool

def momentOf (nanoseconds : Int) : Moment :=
  { seconds := nanoseconds / 1000000000, nanoseconds := (nanoseconds % 1000000000).toNat }

def zoneOf (m : Machine) : Zone.Rule := Zone.ruleFor ((m.value? "TZ".toList).getD [])

def presentMoment (m : Machine) : Moment := (momentOf m.files.now).inZone (zoneOf m)

def presentSeconds (m : Machine) : Int := m.files.now / 1000000000

namespace TimeText

inductive Token where
  | number (sign : Option Char) (digits : Octets) (fraction : Option Octets)
  | word (letters : Octets)
  | mark (c : Char)
  deriving DecidableEq

def isLetter (c : Char) : Bool := c.isAlpha || c == '.'

def behindParentheses : (depth : Nat) → Octets → Octets
  | _, [] => []
  | depth, c :: cs =>
    if c = '(' then behindParentheses (depth + 1) cs
    else if c = ')' then if depth ≤ 1 then cs else behindParentheses (depth - 1) cs
    else behindParentheses depth cs

def tokens : (fuel : Nat) → Octets → List Token
  | 0, _ => []
  | _, [] => []
  | fuel + 1, c :: cs =>
    let number (sign : Option Char) (cs : Octets) : List Token :=
      let digits := cs.takeWhile Char.isDigit
      let rest := cs.drop digits.length
      match rest with
      | '.' :: more =>
        let fraction := more.takeWhile Char.isDigit
        if fraction.isEmpty then .number sign digits none :: tokens fuel rest
        else .number sign digits (some fraction) :: tokens fuel (more.drop fraction.length)
      | ',' :: d :: more =>
        let fraction := (d :: more).takeWhile Char.isDigit
        if fraction.isEmpty then .number sign digits none :: tokens fuel rest
        else .number sign digits (some fraction) :: tokens fuel ((d :: more).drop fraction.length)
      | _ => .number sign digits none :: tokens fuel rest
    if Sum.isSpace c then tokens fuel cs
    else if c.isDigit then number none (c :: cs)
    else if c = '-' || c = '+' then
      let more := cs.dropWhile isGap
      if more.head?.any Char.isDigit then number (some c) more else tokens fuel more
    else if c.isAlpha then
      let letters := (c :: cs).takeWhile isLetter
      .word ((letters.filter (· != '.')).map Char.toLower) ::
        tokens fuel ((c :: cs).drop letters.length)
    else if c = '(' then tokens fuel (behindParentheses 1 cs)
    else .mark c :: tokens fuel cs

structure Shift where
  years : Int := 0
  months : Int := 0
  days : Int := 0
  seconds : Int := 0

structure Saying where
  date : Option (Option Int × Int × Int) := none
  time : Option Int := none
  nanoseconds : Nat := 0
  zone : Option Int := none
  weekday : Option (Int × Int) := none
  shift : Option Shift := none

def unit? (word : Octets) : Option Shift :=
  let word := if word.getLast? == some 's' then word.dropLast else word
  match String.ofList word with
  | "year" => some { years := 1 }
  | "month" => some { months := 1 }
  | "fortnight" => some { days := 14 }
  | "week" => some { days := 7 }
  | "day" => some { days := 1 }
  | "hour" => some { seconds := 3600 }
  | "minute" | "min" => some { seconds := 60 }
  | "second" | "sec" => some { seconds := 1 }
  | _ => none

def Shift.times (n : Int) (s : Shift) : Shift :=
  ⟨n * s.years, n * s.months, n * s.days, n * s.seconds⟩

def Shift.plus (s t : Shift) : Shift :=
  ⟨s.years + t.years, s.months + t.months, s.days + t.days, s.seconds + t.seconds⟩

def nameIndex? (names : List String) (word : Octets) : Option Nat :=
  names.findIdx? fun name =>
    let name := name.toList.map Char.toLower
    word == name || word == name.take 3

def month? (word : Octets) : Option Int :=
  if word = "sept".toList then some 9
  else (nameIndex? Calendar.months word).map fun i => Int.ofNat i + 1

def weekday? (word : Octets) : Option Int :=
  match String.ofList word with
  | "tues" => some 2
  | "wednes" => some 3
  | "thur" | "thurs" => some 4
  | _ => (nameIndex? Calendar.weekdays word).map Int.ofNat

def zones : List (String × Int) :=
  [("gmt", 0), ("ut", 0), ("utc", 0), ("z", 0), ("wet", 0), ("cet", 1), ("met", 1), ("eet", 2),
    ("bst", 1), ("west", 1), ("cest", 2), ("mest", 2), ("eest", 3), ("msk", 3), ("jst", 9),
    ("sgt", 8), ("est", -5), ("edt", -4), ("cst", -6), ("cdt", -5), ("mst", -7), ("mdt", -6),
    ("pst", -8), ("pdt", -7), ("nzst", 12), ("nzdt", 13)]

def letterZone? : Octets → Option Int
  | [c] =>
    let n := Int.ofNat c.toNat - 96
    if 'a' ≤ c && c ≤ 'i' then some n
    else if 'k' ≤ c && c ≤ 'm' then some (n - 1)
    else if 'n' ≤ c && c ≤ 'y' then some (13 - n)
    else none
  | _ => none

def zone? (word : Octets) : Option Int := (zones.lookup (String.ofList word)).or (letterZone? word)

def ordinal? (word : Octets) : Option Int :=
  let names := ["first", "", "third", "fourth", "fifth", "sixth", "seventh", "eighth", "ninth",
    "tenth", "eleventh", "twelfth"]
  match String.ofList word with
  | "last" => some (-1)
  | "this" => some 0
  | "next" => some 1
  | text => (names.findIdx? (· == text)).map fun i => Int.ofNat i + 1

def signed (sign : Option Char) (digits : Octets) : Int :=
  if sign == some '-' then -Int.ofNat (readNat digits) else Int.ofNat (readNat digits)

def yearOf (digits : Octets) : Int :=
  let n := Int.ofNat (readNat digits)
  if digits.length = 2 then if n < 69 then n + 2000 else n + 1900 else n

def nanosecondsOf (fraction : Option Octets) : Nat :=
  match fraction with
  | none => 0
  | some digits => readNat (digits.take 9) * Nat.pow 10 (9 - min 9 digits.length)

def offsetOf (sign : Option Char) (hours : Octets) (minutes : Option Octets) : Int :=
  let n := Int.ofNat (readNat hours)
  let seconds := match minutes with
    | some minutes => n * 3600 + Int.ofNat (readNat minutes) * 60
    | none => if hours.length ≤ 2 then n * 3600 else n / 100 * 3600 + n % 100 * 60
  if sign == some '-' then -seconds else seconds

namespace Saying

def withDate (s : Saying) (year : Option Int) (month day : Int) : Option Saying :=
  if s.date.isSome then none else some { s with date := some (year, month, day) }

def withTime (s : Saying) (hour minute second : Int) (nanoseconds : Nat) : Option Saying :=
  if s.time.isSome || 24 ≤ hour || 60 ≤ minute || 60 ≤ second then none
  else some { s with time := some (hour * 3600 + minute * 60 + second), nanoseconds }

def withZone (s : Saying) (offset : Int) : Option Saying :=
  if s.zone.isSome || 86400 < offset.natAbs then none else some { s with zone := some offset }

def withShift (s : Saying) (shift : Shift) : Saying :=
  { s with shift := some ((s.shift.getD {}).plus shift) }

def hourIn? (word : Octets) (hour : Nat) : Option Int :=
  if hour = 0 || 12 < hour then none
  else if word = "am".toList then some (Int.ofNat (hour % 12))
  else if word = "pm".toList then some (Int.ofNat (hour % 12 + 12))
  else none

/-- The half of the day or the zone behind a time. -/
def readTime (s : Saying) (hour minute second : Octets) (fraction : Option Octets)
    (rest : List Token) : Option (Saying × List Token) :=
  let nanoseconds := nanosecondsOf fraction
  let m := Int.ofNat (readNat minute)
  let sec := Int.ofNat (readNat second)
  let plain := s.withTime (Int.ofNat (readNat hour)) m sec nanoseconds
  match rest with
  | .word half :: more =>
    match hourIn? half (readNat hour) with
    | some h => (s.withTime h m sec nanoseconds).map (·, more)
    | none => plain.map (·, rest)
  | .number (some sign) digits none :: .mark ':' :: .number none minutes none :: more =>
    (plain.bind fun s => s.withZone (offsetOf (some sign) digits (some minutes))).map (·, more)
  | .number (some sign) digits none :: more =>
    (plain.bind fun s => s.withZone (offsetOf (some sign) digits none)).map (·, more)
  | rest => plain.map (·, rest)

def readShift (s : Saying) (shift : Shift) (rest : List Token) : Saying × List Token :=
  match rest with
  | .word ['a', 'g', 'o'] :: more => (s.withShift (shift.times (-1)), more)
  | rest => (s.withShift shift, rest)

def readNumber (s : Saying) (digits : Octets) : Option Saying :=
  let n := Int.ofNat (readNat digits)
  match s.date with
  | some (none, month, day) =>
    if s.shift.isNone && (s.time.isSome || 2 < digits.length) then
      some { s with date := some (some (yearOf digits), month, day) }
    else if 4 < digits.length then none
    else if digits.length ≤ 2 then s.withTime n 0 0 0
    else s.withTime (n / 100) (n % 100) 0 0
  | _ =>
    if 4 < digits.length then
      s.withDate (some (yearOf (digits.take (digits.length - 4)))) (n / 100 % 100) (n % 100)
    else if digits.length ≤ 2 then s.withTime n 0 0 0
    else s.withTime (n / 100) (n % 100) 0 0

def readWord (s : Saying) (word : Octets) (rest : List Token) : Option (Saying × List Token) :=
  match month? word, weekday? word, unit? word, ordinal? word with
  | some month, _, _, _ =>
    match rest with
    | .number none day none :: .mark ',' :: .number none year none :: more =>
      (s.withDate (some (yearOf year)) month (Int.ofNat (readNat day))).map (·, more)
    | .number (some '-') day none :: .number (some '-') year none :: more =>
      (s.withDate (some (yearOf year)) month (Int.ofNat (readNat day))).map (·, more)
    | .number none day none :: more =>
      (s.withDate none month (Int.ofNat (readNat day))).map (·, more)
    | _ => none
  | none, some day, _, _ =>
    let rest := match rest with
      | .mark ',' :: more => more
      | rest => rest
    if s.weekday.isSome then none else some ({ s with weekday := some (day, 0) }, rest)
  | none, none, some shift, _ => some (s.readShift shift rest)
  | none, none, none, some n =>
    match rest with
    | .word next :: more =>
      match weekday? next, unit? next with
      | some day, _ =>
        if s.weekday.isSome then none else some ({ s with weekday := some (day, n) }, more)
      | none, some shift => some (s.readShift (shift.times n) more)
      | none, none => none
    | _ => none
  | none, none, none, none =>
    match String.ofList word with
    | "today" | "now" => some (s.withShift {}, rest)
    | "yesterday" => some (s.withShift { days := -1 }, rest)
    | "tomorrow" => some (s.withShift { days := 1 }, rest)
    | _ =>
      match zone? word, rest with
      | some hours, .number (some sign) digits none :: more =>
        let isUnit := match more with
          | .word w :: _ => (unit? w).isSome
          | _ => false
        if isUnit then (s.withZone (hours * 3600)).map (·, rest)
        else (s.withZone (hours * 3600 + offsetOf (some sign) digits none)).map (·, more)
      | some hours, rest => (s.withZone (hours * 3600)).map (·, rest)
      | none, _ => none

def read : (fuel : Nat) → Saying → List Token → Option Saying
  | 0, _, _ => none
  | _, s, [] => some s
  | fuel + 1, s, .mark c :: rest => if c = ',' then read fuel s rest else none
  | fuel + 1, s, .word word :: rest => do
    let (s, rest) ← s.readWord word rest
    read fuel s rest
  | fuel + 1, s, .number sign digits fraction :: rest => do
    let n := signed sign digits
    let (s, rest) ← match sign, fraction, rest with
      | none, none, .number (some '-') month none :: .number (some '-') day none :: more =>
        let more := match more with
          | .word ['t'] :: time => time
          | more => more
        (s.withDate (some (yearOf digits)) (Int.ofNat (readNat month))
          (Int.ofNat (readNat day))).map (·, more)
      | none, none, .mark '/' :: .number none b none :: .mark '/' :: .number none c none :: more =>
        if 4 ≤ digits.length then
          (s.withDate (some n) (Int.ofNat (readNat b)) (Int.ofNat (readNat c))).map (·, more)
        else
          (s.withDate (some (yearOf c)) n (Int.ofNat (readNat b))).map (·, more)
      | none, none, .mark '/' :: .number none b none :: more =>
        (s.withDate none n (Int.ofNat (readNat b))).map (·, more)
      | none, none, .mark ':' :: .number none minute none :: .mark ':' ::
          .number none second fraction :: more =>
        s.readTime digits minute second fraction more
      | none, none, .mark ':' :: .number none minute none :: more =>
        s.readTime digits minute [] none more
      | _, none, .word word :: more =>
        match month? word, unit? word, hourIn? word (readNat digits), weekday? word, sign with
        | some month, _, _, _, none =>
          match more with
          | .number _ year none :: more =>
            (s.withDate (some (yearOf year)) month n).map (·, more)
          | more => (s.withDate none month n).map (·, more)
        | _, some shift, _, _, _ => some (s.readShift (shift.times n) more)
        | _, _, some hour, _, none => (s.withTime hour 0 0 0).map (·, more)
        | _, _, _, some day, none =>
          if s.weekday.isSome then none else some ({ s with weekday := some (day, n) }, more)
        | _, _, _, _, none => (s.readNumber digits).map (·, .word word :: more)
        | _, _, _, _, some _ => none
      | none, none, rest => (s.readNumber digits).map (·, rest)
      | _, _, _ => none
    read fuel s rest

/-- The point in time that has been said, as seen from another one in a zone. -/
def moment? (s : Saying) (rule : Zone.Rule) (now : Moment) : Option Moment := do
  let today := now.day
  let day ← match s.date with
    | none => some today
    | some (year, month, day) =>
      let day : Calendar.Day := ⟨year.getD today.year, month, day⟩
      if day.exists then some day else none
  let keepsTime := s.shift.isSome && s.date.isNone && s.weekday.isNone
  let (seconds, nanoseconds) := match s.time with
    | some seconds => (seconds, s.nanoseconds)
    | none => if keepsTime then (now.shown % 86400, now.nanoseconds) else (0, 0)
  let day := match s.weekday, s.date with
    | some (weekday, n), none =>
      let found := Calendar.weekday day.number
      let weeks := if 0 < n && found != weekday then n - 1 else n
      Calendar.Day.ofNumber (day.number + (weekday - found) % 7 + 7 * weeks)
    | _, _ => day
  let shift := s.shift.getD {}
  let day := if s.shift.isSome then
      Calendar.normalized (day.year + shift.years) (day.month + shift.months) (day.day + shift.days)
    else day
  let shown := day.number * 86400 + seconds
  let offset := s.zone.getD (rule.offsetOfShown shown)
  return ({ now with seconds := shown - offset + shift.seconds, nanoseconds }).inZone rule

end Saying

/-- The point in time that a text says, as seen from another one in a zone. -/
def moment? (rule : Zone.Rule) (now : Moment) (text : Octets) : Option Moment :=
  match text.dropWhile Sum.isSpace with
  | '@' :: digits =>
    let (sign, digits) := match digits with
      | '-' :: digits => (some '-', digits)
      | '+' :: digits => (some '+', digits)
      | digits => (none, digits)
    let whole := digits.takeWhile Char.isDigit
    let n := signed sign whole
    if whole.isEmpty then none
    else
      match digits.drop whole.length with
      | [] => some (({ now with seconds := n, nanoseconds := 0 }).inZone rule)
      | c :: fraction =>
        if (c = '.' || c = ',') && isNumber fraction then
          let part := nanosecondsOf (some fraction)
          if sign == some '-' && part != 0 then
            some (({ now with seconds := n - 1, nanoseconds := 1000000000 - part }).inZone rule)
          else some (({ now with seconds := n, nanoseconds := part }).inZone rule)
        else none
  | text =>
    let all := tokens (text.length + 1) text
    ((({} : Saying).read (all.length + 1) all)).bind fun s => s.moment? rule now

end TimeText

/-! ## The tool -/

def dateWord (word : Octets) : Octets :=
  match word with
  | '-' :: 'I' :: value =>
    "--iso-8601=".toList ++ if value.isEmpty then "date".toList else value
  | '-' :: 'u' :: 'I' :: value =>
    "--iso-8601=".toList ++ if value.isEmpty then "date".toList else value
  | word => if word = "--iso-8601".toList then "--iso-8601=date".toList else word

def isoFormat? (precision : Octets) : Option String :=
  let formats : List (String × String) :=
    [("hours", "%Y-%m-%dT%H%:z"), ("minutes", "%Y-%m-%dT%H:%M%:z"), ("date", "%Y-%m-%d"),
      ("seconds", "%Y-%m-%dT%H:%M:%S%:z"), ("ns", "%Y-%m-%dT%H:%M:%S,%N%:z")]
  if precision.isEmpty then none
  else (formats.find? fun format => precision.isPrefixOf format.1.toList).map (·.2)

def date : Tool := fun name arguments =>
  let isGiven (word : Octets) : Bool := word.take 3 == "-uI".toList
  withOptions false
    [⟨'d', "date", true⟩, ⟨'u', "utc", false⟩, ⟨'u', "universal", false⟩, ⟨'R', "rfc-email", false⟩,
      ⟨'I', "iso-8601", true⟩, ⟨'3', "rfc-3339", true⟩, ⟨'r', "reference", true⟩,
      ⟨'f', "file", true⟩, ⟨'s', "set", true⟩, ⟨'D', "debug", false⟩] 1
    (fun name options operands => do
      let m ← get
      let rule : Zone.Rule := if options.has 'u' || arguments.any isGiven then {} else zoneOf m
      let now := (momentOf m.files.now).inZone rule
      let refuse (text : Octets) : Act Unit :=
        fail 1 name ("invalid date ".toList ++ inQuotes text)
      let iso := (options.value? 'I').map isoFormat?
      let formats := operands.filter fun word => word.head? == some '+'
      match iso, operands with
      | some none, _ => do
        fail 1 name ("invalid argument ".toList ++ inQuotes ((options.value? 'I').getD []) ++
          " for ".toList ++ inQuotes "--iso-8601".toList)
        printError ("Valid arguments are:\n".toList ++
          ["hours", "minutes", "date", "seconds", "ns"].flatMap fun word =>
            "  - ".toList ++ inQuotes word.toList ++ ['\n'])
        printError (helpHint name)
      | _, _ :: extra :: _ => misuse 1 name ("extra operand ".toList ++ inQuotes extra)
      | _, operands =>
        if formats.isEmpty && !operands.isEmpty then
          if options.has 'd' || options.has 'r' || options.has 'f' then
            fail 1 name ("the argument ".toList ++ inQuotes (operands.head?.getD []) ++
              (" lacks a leading '+';\nwhen using an option to specify date(s), any non-option\n" ++
                "argument must be a format string beginning with '+'").toList)
            printError (helpHint name)
          else refuse (operands.head?.getD [])
        else
          let named := (iso.join.map String.toList).toList ++
            (if options.has 'R' then ["%a, %d %b %Y %H:%M:%S %z".toList] else []) ++
            ((options.value? '3').map fun precision =>
              (match String.ofList precision with
              | "date" => "%Y-%m-%d"
              | "ns" => "%Y-%m-%d %H:%M:%S.%N%:z"
              | _ => "%Y-%m-%d %H:%M:%S%:z").toList).toList ++
            formats.map (List.drop 1)
          match named with
          | _ :: _ :: _ => fail 1 name "multiple output formats specified".toList
          | named =>
            let format := named.head?.getD "%a %b %e %H:%M:%S %Z %Y".toList
            let tell (text : Octets) : Act Unit :=
              match TimeText.moment? rule now text with
              | some moment => print (moment.text format ++ ['\n'])
              | none => refuse text
            match options.value? 'd', options.value? 'f' with
            | some text, _ => tell text
            | none, some path => do
              match ← content path with
              | .ok text => ((lines text).map withoutBreak).forM tell
              | .error fault => fail 1 name (quotedIfPeculiar path ++ ": ".toList ++ fault.text)
            | none, none =>
              match options.value? 'r' with
              | some path =>
                match m.status? path, m.files.locate (m.route path) with
                | .ok _, .ok place =>
                  let changed := (momentOf (m.files.timesAt place).changed).inZone rule
                  print (changed.text format ++ ['\n'])
                | .error fault, _ | _, .error fault => fail 1 name (about path fault)
              | none => print (now.text format ++ ['\n']))
    name (arguments.map dateWord)

end NextRelease.Shell.Tool
