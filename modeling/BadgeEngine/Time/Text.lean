/-
Written instants. One form is written: date, `T`, time with six decimals, `Z`. Many are read: calendar and
week dates with or without hyphens, any one character before the time, times with or without colons and
cut at any place, a decimal fraction of any length, and an offset or `Z`.

The reader looks at bytes. A piece ends at a byte that begins the offset or at the end of the text, and
what stands last before such an offset is not looked at when it follows a complete field.
-/
import BadgeEngine.Text.Quoted
import BadgeEngine.Time.Moment

namespace BadgeEngine.Time

/-! ## Writing -/

/-- a number with at least a given number of digits -/
def padded (width n : Nat) : String :=
  let ds := toString n
  String.ofList (List.replicate (width - ds.length) '0') ++ ds

/-- a date as `2022-07-04` -/
def Date.text (d : Date) : String :=
  padded 4 d.year ++ "-" ++ padded 2 d.month ++ "-" ++ padded 2 d.day

/-- a moment as `2022-07-04T09:15:30.000005` -/
def Moment.text (t : Moment) : String :=
  t.date.text ++ "T" ++ padded 2 t.hour ++ ":" ++ padded 2 t.minute ++ ":" ++ padded 2 t.second ++ "."
    ++ padded 6 t.micro

/-- an instant as `2022-07-04T09:15:30.000005Z` -/
def instantText (t : Instant) : String :=
  t.text ++ "Z"

/-- an offset as `+05:30`, with seconds and microseconds where it has them -/
def offsetText (o : Int) : String :=
  let n := o.natAbs
  let seconds := n / 1000000 % 60
  let micros := n % 1000000
  (if o < 0 then "-" else "+") ++ padded 2 (n / 3600000000) ++ ":" ++ padded 2 (n / 60000000 % 60)
    ++ (if seconds ≠ 0 ∨ micros ≠ 0 then ":" ++ padded 2 seconds else "")
    ++ (if micros ≠ 0 then "." ++ padded 6 micros else "")

/-- a reading with its offset; none is written for a clock that tells none, `Z` for UTC -/
def Reading.text (r : Reading) : String :=
  match r.offset with
  | none => r.wall.text
  | some o => r.wall.text ++ (if o = 0 then "Z" else offsetText o)

/-! ## Reading -/

/-- why a text is no instant -/
inductive TimeError where
  | malformed
  | yearRange (year : Nat)
  | monthRange
  | dayRange
  | hourRange
  | minuteRange
  | secondRange
  /-- an offset of a day or more, in microseconds -/
  | offsetRange (micros : Int)
  /-- the instant lies outside the years 1 to 9999 -/
  | outOfRange
  deriving DecidableEq, Repr

/-- a duration as a count of days, seconds and microseconds that are not zero -/
def durationShown (micros : Int) : String :=
  let days := micros.fdiv dayMicros
  let rest := (micros.fmod dayMicros).toNat
  let parts := (if days ≠ 0 then ["days=" ++ toString days] else [])
    ++ (if rest / 1000000 ≠ 0 then ["seconds=" ++ toString (rest / 1000000)] else [])
    ++ (if rest % 1000000 ≠ 0 then ["microseconds=" ++ toString (rest % 1000000)] else [])
  "datetime.timedelta(" ++ (if parts.isEmpty then "0" else ", ".intercalate parts) ++ ")"

/-- what a message says about a text that is no instant -/
def TimeError.message (text : String) : TimeError → String
  | malformed => "Invalid isoformat string: " ++ Text.quoted text
  | yearRange y => "year " ++ toString y ++ " is out of range"
  | monthRange => "month must be in 1..12"
  | dayRange => "day is out of range for month"
  | hourRange => "hour must be in 0..23"
  | minuteRange => "minute must be in 0..59"
  | secondRange => "second must be in 0..59"
  | offsetRange o =>
    "offset must be a timedelta strictly between -timedelta(hours=24) and timedelta(hours=24), not "
      ++ durationShown o ++ "."
  | outOfRange => "date value out of range"

def byteDigit? (b : Nat) : Option Nat :=
  if 48 ≤ b ∧ b ≤ 57 then some (b - 48) else none

/-- reads exactly `n` digits -/
def takeNumber : Nat → Nat → List Nat → Option (Nat × List Nat)
  | 0, acc, bs => some (acc, bs)
  | _ + 1, _, [] => none
  | n + 1, acc, b :: bs =>
    match byteDigit? b with
    | some d => takeNumber n (acc * 10 + d) bs
    | none => none

/-- a date as it is written: not yet known to exist -/
inductive WrittenDate where
  | calendar (year month day : Nat)
  | week (year week day : Nat)

def dateLength (bs : List Nat) : Nat :=
  let at? (i : Nat) := bs[i]?
  let digitAt (i : Nat) := ((at? i).bind byteDigit?).isSome
  if bs.length = 7 then 7
  else if at? 4 = some 45 then
    if at? 5 = some 87 then
      if at? 8 = some 45 then if bs.length > 10 && digitAt 10 then 8 else 10
      else 8
    else 10
  else if at? 4 = some 87 then
    let stop := 7 + ((bs.drop 7).takeWhile fun b => (byteDigit? b).isSome).length
    if stop < 9 then stop else if stop % 2 = 0 then 7 else 8
  else 8

/-- reads a date to the end of its piece -/
def readDate (bs : List Nat) : Option WrittenDate := do
  let (y, bs) ← takeNumber 4 0 bs
  let hyphens := bs.head? == some 45
  let bs := if hyphens then bs.drop 1 else bs
  let hyphen (bs : List Nat) : Option (List Nat) :=
    if hyphens then if bs.head? = some 45 then some (bs.drop 1) else none else some bs
  if bs.head? = some 87 then
    let (w, bs) ← takeNumber 2 0 (bs.drop 1)
    if bs.isEmpty then return .week y w 1
    let bs ← hyphen bs
    let (d, _) ← takeNumber 1 0 bs
    return .week y w d
  else
    let (m, bs) ← takeNumber 2 0 bs
    let bs ← hyphen bs
    let (d, bs) ← takeNumber 2 0 bs
    if bs.isEmpty then return .calendar y m d else none

/-- a time of day or an offset as it is written -/
structure Clock where
  hour : Nat := 0
  minute : Nat := 0
  second : Nat := 0
  micro : Nat := 0
  /-- whether something stood behind it that was not looked at -/
  more : Bool := false

/-- reads a decimal fraction of a second; digits after the sixth are cut -/
def readFraction (c : Clock) (bs : List Nat) : Option Clock := do
  let n := min 6 bs.length
  let (v, rest) ← takeNumber n 0 bs
  let rest := rest.dropWhile fun b => (byteDigit? b).isSome
  return { c with micro := v * Nat.pow 10 (6 - n), more := !rest.isEmpty }

/-- puts the next field into place -/
def Clock.withField (c : Clock) (index value : Nat) : Clock :=
  match index with
  | 0 => { c with hour := value }
  | 1 => { c with minute := value }
  | _ => { c with second := value }

/-- reads hours, minutes and seconds from the field `index` on, `left` of them at most. `ended` tells
whether the text ends where the piece does. -/
def readFields (ended colons : Bool) : Nat → Clock → List Nat → Option Clock
  | 0, c, bs => readFraction c bs
  | left + 1, c, bs => do
    let (v, rest) ← takeNumber 2 0 bs
    let c := c.withField (2 - left) v
    match rest with
    | [] => return { c with more := !ended }
    | sep :: rest' =>
      let colons := if left = 2 then sep = 58 else colons
      if rest'.isEmpty then return { c with more := sep ≠ 0 }
      else if colons && sep = 58 then readFields ended colons left c rest'
      else if sep = 46 ∨ sep = 44 then readFraction c rest'
      else if !colons then readFields ended colons left c rest
      else none

def beginsOffset (b : Nat) : Bool :=
  b = 43 ∨ b = 45 ∨ b = 90

def readTime (bs : List Nat) : Option (Clock × Option (Int × Int)) := do
  -- the first byte is looked at even when there is none
  let body := bs.takeWhile fun b => !beginsOffset b
  let tail := bs.drop body.length
  let c ← readFields tail.isEmpty true 3 {} body
  match tail with
  | [] => if c.more then none else return (c, none)
  | 90 :: rest => if rest.isEmpty then return (c, some (0, 0)) else none
  | sign :: rest =>
    let o ← readFields true true 3 {} rest
    if o.more then none
    else
      let s : Int := o.hour * 3600 + o.minute * 60 + o.second
      return (c, some (if sign = 45 then (-s, -(o.micro : Int)) else (s, (o.micro : Int))))

/-- the date a written date names, if its week exists; weeks of the year 0 have no month -/
def WrittenDate.toDate? : WrittenDate → Option Date
  | .calendar y m d => some ⟨y, m, d⟩
  | .week y w d =>
    if w = 0 ∨ 53 < w ∨ (w = 53 ∧ !hasLongWeeks y) ∨ d = 0 ∨ 7 < d then none
    else if y = 0 then some ⟨1, 0, 1⟩
    else some (dateOfDay (firstMonday y + ((w - 1) * 7 + (d - 1) : Nat)).toNat)

def momentOf (d : Date) (c : Clock) : Except TimeError Moment :=
  if d.year < 1 ∨ 9999 < d.year then .error (.yearRange d.year)
  else if d.month < 1 ∨ 12 < d.month then .error .monthRange
  else if d.day < 1 ∨ daysInMonth d.year d.month < d.day then .error .dayRange
  else if 23 < c.hour then .error .hourRange
  else if 59 < c.minute then .error .minuteRange
  else if 59 < c.second then .error .secondRange
  else
    match Moment.ofMicros? (d.toDay * dayMicros + c.hour * 3600000000 + c.minute * 60000000
        + c.second * 1000000 + c.micro : Nat) with
    | some t => .ok t
    | none => .error .outOfRange

/-- the offset of a reading: none counts below a second alone, and none reaches a day -/
def checkOffset : Option (Int × Int) → Except TimeError (Option Int)
  | none => .ok none
  | some (s, us) =>
    if s = 0 then .ok (some 0)
    else
      let o := s * 1000000 + us
      if o.natAbs < dayMicros then .ok (some o) else .error (.offsetRange o)

def textBytes (text : String) : List Nat :=
  text.toUTF8.data.toList.map UInt8.toNat

def readReading (text : String) : Except TimeError Reading := do
  let bs := textBytes text
  if text.length < 7 then throw .malformed
  let n := dateLength bs
  let date ← match (readDate (bs.take n)).bind WrittenDate.toDate? with
    | some d => pure d
    | none => throw .malformed
  let (clock, offset) ←
    if bs.length ≤ n then pure ({}, none)
    else
      let width := match bs[n]? with
        | some b => if b < 128 then 1 else if b / 16 = 14 then 3 else if b / 16 = 15 then 4 else 2
        | none => 1
      match readTime (bs.drop (n + width)) with
      | some r => pure r
      | none => throw .malformed
  let offset ← checkOffset offset
  return { wall := ← momentOf date clock, offset }

def readInstant (text : String) : Except TimeError Instant := do
  let r ← readReading text
  match r.toInstant? with
  | some t => return t
  | none => throw .outOfRange

end BadgeEngine.Time
