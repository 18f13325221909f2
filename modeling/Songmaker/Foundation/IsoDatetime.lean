import Mathlib.Data.Nat.Digits.Defs

/-!
`datetime` with a fixed offset: the instant it names, and its text by `isoformat`
and `fromisoformat`.
-/

namespace Songmaker.Foundation

/-- The fields of a datetime and of its offset, which may be no date. -/
structure DatetimeFields where
  year : Nat
  month : Nat
  day : Nat
  hour : Nat
  minute : Nat
  second : Nat
  microsecond : Nat
  /-- In microseconds, and `none` for a naive datetime. -/
  utcoffset : Option Int
deriving DecidableEq

namespace DatetimeFields

def isLeap (year : Nat) : Bool :=
  year % 4 = 0 && (year % 100 ≠ 0 || year % 400 = 0)

def daysInMonth (year month : Nat) : Nat :=
  if month = 2 then (if isLeap year then 29 else 28)
  else if month ∈ [4, 6, 9, 11] then 30
  else 31

def microsecondsPerDay : Nat := 86400000000

/-- The fields name a day of the calendar and a time of day. -/
def Valid (fields : DatetimeFields) : Prop :=
  (1 ≤ fields.year ∧ fields.year ≤ 9999) ∧ (1 ≤ fields.month ∧ fields.month ≤ 12) ∧
    (1 ≤ fields.day ∧ fields.day ≤ daysInMonth fields.year fields.month) ∧ fields.hour < 24 ∧
      fields.minute < 60 ∧ fields.second < 60 ∧ fields.microsecond < 1000000 ∧
        fields.utcoffset.all fun offset => offset.natAbs < microsecondsPerDay

instance (fields : DatetimeFields) : Decidable fields.Valid := by
  unfold Valid
  infer_instance

def daysBeforeYear (year : Nat) : Nat :=
  (year - 1) * 365 + (year - 1) / 4 - (year - 1) / 100 + (year - 1) / 400

/-- The number of the day, counted from the first of January of the year 1. -/
def toordinal (fields : DatetimeFields) : Nat :=
  daysBeforeYear fields.year +
    ((List.range' 1 (fields.month - 1)).map (daysInMonth fields.year)).sum + fields.day

/-- In microseconds. A naive datetime counts as UTC. -/
def instant (fields : DatetimeFields) : Int :=
  ((((fields.toordinal * 24 + fields.hour) * 60 + fields.minute) * 60 + fields.second) * 1000000 +
    fields.microsecond : Nat) - fields.utcoffset.getD 0

end DatetimeFields

/-- A datetime that exists. -/
structure Datetime extends DatetimeFields where
  valid : toDatetimeFields.Valid

namespace Datetime

/-- The last digits of a number, as many as asked for. -/
def formatDigits : Nat → Nat → List Char
  | 0, _ => []
  | width + 1, n => Nat.digitChar (n / 10 ^ width) :: formatDigits width (n % 10 ^ width)

def formatFraction (microsecond : Nat) : List Char :=
  if microsecond = 0 then [] else '.' :: formatDigits 6 microsecond

/-- The seconds of an offset, left out where they are zero. -/
def formatSeconds (rest : Nat) : List Char :=
  if rest = 0 then []
  else ':' :: (formatDigits 2 (rest / 1000000) ++ formatFraction (rest % 1000000))

def formatOffset (offset : Int) : List Char :=
  (if offset < 0 then '-' else '+') :: (formatDigits 2 (offset.natAbs / 3600000000) ++
    ':' :: (formatDigits 2 (offset.natAbs % 3600000000 / 60000000) ++
      formatSeconds (offset.natAbs % 60000000)))

def formatDate (fields : DatetimeFields) : List Char :=
  formatDigits 4 fields.year ++ '-' :: (formatDigits 2 fields.month ++ '-' ::
    formatDigits 2 fields.day)

def formatTime (fields : DatetimeFields) : List Char :=
  formatDigits 2 fields.hour ++ ':' :: (formatDigits 2 fields.minute ++ ':' ::
    (formatDigits 2 fields.second ++ formatFraction fields.microsecond))

/-- The offset, which a naive datetime has not. -/
def formatUtcoffset : Option Int → List Char
  | none => []
  | some offset => formatOffset offset

/-- `datetime.isoformat`. -/
def isoformat (value : Datetime) : List Char :=
  formatDate value.toDatetimeFields ++ 'T' ::
    (formatTime value.toDatetimeFields ++ formatUtcoffset value.utcoffset)

/-- As many digits as asked for, in front of the text. -/
def readDigits (sofar : Nat) : Nat → List Char → Option (Nat × List Char)
  | 0, text => some (sofar, text)
  | width + 1, c :: text =>
      if c.isDigit then readDigits (sofar * 10 + (c.toNat - 48)) width text else none
  | _ + 1, [] => none

def readSeparator (separator : Char) : List Char → Option (List Char)
  | c :: text => if c = separator then some text else none
  | [] => none

/-- A fraction of a second in microseconds, zero where there is none. -/
def readFraction : List Char → Option (Nat × List Char)
  | '.' :: text => readDigits 0 6 text
  | text => some (0, text)

def readSeconds : List Char → Option (Nat × List Char)
  | ':' :: text => do
      let (seconds, text) ← readDigits 0 2 text
      let (microseconds, text) ← readFraction text
      return (seconds * 1000000 + microseconds, text)
  | text => some (0, text)

/-- The offset at the end of the text, which may be missing. -/
def readOffset : List Char → Option (Option Int)
  | [] => some none
  | sign :: text => do
      let (hours, text) ← readDigits 0 2 text
      let text ← readSeparator ':' text
      let (minutes, text) ← readDigits 0 2 text
      let (microseconds, text) ← readSeconds text
      let offset := hours * 3600000000 + minutes * 60000000 + microseconds
      if text ≠ [] then none
      else if sign = '+' then return some (offset : Int)
      else if sign = '-' then return some (-(offset : Int))
      else none

def readDate (text : List Char) : Option ((Nat × Nat × Nat) × List Char) := do
  let (year, text) ← readDigits 0 4 text
  let text ← readSeparator '-' text
  let (month, text) ← readDigits 0 2 text
  let text ← readSeparator '-' text
  let (day, text) ← readDigits 0 2 text
  return ((year, month, day), text)

def readTime (text : List Char) : Option ((Nat × Nat × Nat × Nat) × List Char) := do
  let (hour, text) ← readDigits 0 2 text
  let text ← readSeparator ':' text
  let (minute, text) ← readDigits 0 2 text
  let text ← readSeparator ':' text
  let (second, text) ← readDigits 0 2 text
  let (microsecond, text) ← readFraction text
  return ((hour, minute, second, microsecond), text)

/-- `fromisoformat` on the texts that `isoformat` writes. -/
def fromisoformat (text : List Char) : Option Datetime := do
  let ((year, month, day), text) ← readDate text
  let text ← readSeparator 'T' text
  let ((hour, minute, second, microsecond), text) ← readTime text
  let utcoffset ← readOffset text
  let fields : DatetimeFields :=
    ⟨year, month, day, hour, minute, second, microsecond, utcoffset⟩
  if h : fields.Valid then return ⟨fields, h⟩ else none

theorem digitChar_spec : ∀ d < 10,
    (Nat.digitChar d).isDigit = true ∧ (Nat.digitChar d).toNat - 48 = d := by
  decide

theorem readDigits_formatDigits (width : Nat) (sofar : Nat) {n : Nat} (hn : n < 10 ^ width)
    (rest : List Char) :
    readDigits sofar width (formatDigits width n ++ rest) =
      some (sofar * 10 ^ width + n, rest) := by
  induction width generalizing sofar n with
  | zero =>
      have hzero : n = 0 := by simpa using hn
      simp [readDigits, formatDigits, hzero]
  | succ width ih =>
      have hlead : n / 10 ^ width < 10 := by
        rw [Nat.div_lt_iff_lt_mul (Nat.pow_pos (by decide))]
        rwa [pow_succ, Nat.mul_comm] at hn
      obtain ⟨hdigit, hvalue⟩ := digitChar_spec _ hlead
      rw [formatDigits, List.cons_append, readDigits, if_pos hdigit, hvalue,
        ih _ (Nat.mod_lt _ (Nat.pow_pos (by decide)))]
      have hsum : (sofar * 10 + n / 10 ^ width) * 10 ^ width + n % 10 ^ width =
          sofar * 10 ^ (width + 1) + n := by
        calc
          (sofar * 10 + n / 10 ^ width) * 10 ^ width + n % 10 ^ width =
              sofar * 10 ^ (width + 1) + (10 ^ width * (n / 10 ^ width) + n % 10 ^ width) := by
            ring
          _ = sofar * 10 ^ (width + 1) + n := by rw [Nat.div_add_mod]
      rw [hsum]

theorem readFraction_format {microsecond : Nat} (hbound : microsecond < 1000000)
    {rest : List Char} (hrest : ∀ tail, rest ≠ '.' :: tail) :
    readFraction (formatFraction microsecond ++ rest) = some (microsecond, rest) := by
  unfold formatFraction
  by_cases hzero : microsecond = 0
  · rw [if_pos hzero, List.nil_append, readFraction, hzero]
    exact hrest
  · rw [if_neg hzero, List.cons_append, readFraction, readDigits_formatDigits 6 0 hbound]
    simp

theorem readSeconds_format {rest : Nat} (hbound : rest < 60000000) :
    readSeconds (formatSeconds rest) = some (rest, []) := by
  unfold formatSeconds
  by_cases hzero : rest = 0
  · rw [if_pos hzero, hzero]
    rfl
  · have hend : ∀ tail, ([] : List Char) ≠ '.' :: tail := fun _ => nofun
    have hfraction := readFraction_format (Nat.mod_lt rest (by decide : 1000000 > 0)) hend
    rw [List.append_nil] at hfraction
    have hseconds : rest / 1000000 < 10 ^ 2 := by omega
    rw [if_neg hzero, readSeconds, readDigits_formatDigits 2 0 hseconds]
    simp only [Option.bind_eq_bind, Option.bind_some, hfraction, Option.pure_def,
      Option.some.injEq, Prod.mk.injEq, and_true]
    omega

theorem readOffset_formatOffset {offset : Int}
    (hbound : offset.natAbs < DatetimeFields.microsecondsPerDay) :
    readOffset (formatOffset offset) = some (some offset) := by
  unfold DatetimeFields.microsecondsPerDay at hbound
  have hhours : offset.natAbs / 3600000000 < 10 ^ 2 := by omega
  have hminutes : offset.natAbs % 3600000000 / 60000000 < 10 ^ 2 := by omega
  have hseconds := readSeconds_format (Nat.mod_lt offset.natAbs (by decide : 60000000 > 0))
  have hsum : (0 * 10 ^ 2 + offset.natAbs / 3600000000) * 3600000000 +
      (0 * 10 ^ 2 + offset.natAbs % 3600000000 / 60000000) * 60000000 +
        offset.natAbs % 60000000 = offset.natAbs := by
    omega
  rw [formatOffset, readOffset, readDigits_formatDigits 2 0 hhours]
  simp only [Option.bind_eq_bind, Option.bind_some, readSeparator, if_true,
    readDigits_formatDigits 2 0 hminutes, hseconds]
  rw [hsum, if_neg (by simp)]
  by_cases hneg : offset < 0
  · have hvalue : -(offset.natAbs : Int) = offset := by omega
    rw [if_pos hneg, if_neg (by decide), if_pos rfl, hvalue]
    rfl
  · have hvalue : (offset.natAbs : Int) = offset := by omega
    rw [if_neg hneg, if_pos rfl, hvalue]
    rfl

theorem readDate_formatDate {fields : DatetimeFields} (hvalid : fields.Valid) (rest : List Char) :
    readDate (formatDate fields ++ rest) =
      some ((fields.year, fields.month, fields.day), rest) := by
  obtain ⟨⟨-, hyear⟩, ⟨-, hmonth⟩, ⟨-, hday⟩, -⟩ := hvalid
  have hdays : DatetimeFields.daysInMonth fields.year fields.month ≤ 31 := by
    unfold DatetimeFields.daysInMonth
    split_ifs <;> decide
  have hyear' := readDigits_formatDigits 4 0 (show fields.year < 10 ^ 4 by omega)
  have hmonth' := readDigits_formatDigits 2 0 (show fields.month < 10 ^ 2 by omega)
  have hday' := readDigits_formatDigits 2 0 (show fields.day < 10 ^ 2 by omega)
  simp only [formatDate, readDate, List.append_assoc, List.cons_append, hyear', hmonth', hday',
    Option.bind_eq_bind, Option.bind_some, readSeparator, if_true, Nat.zero_mul, Nat.zero_add,
    Option.pure_def]

theorem readTime_formatTime {fields : DatetimeFields} (hvalid : fields.Valid) {rest : List Char}
    (hrest : ∀ tail, rest ≠ '.' :: tail) :
    readTime (formatTime fields ++ rest) =
      some ((fields.hour, fields.minute, fields.second, fields.microsecond), rest) := by
  obtain ⟨-, -, -, hhour, hminute, hsecond, hmicrosecond, -⟩ := hvalid
  have hhour' := readDigits_formatDigits 2 0 (show fields.hour < 10 ^ 2 by omega)
  have hminute' := readDigits_formatDigits 2 0 (show fields.minute < 10 ^ 2 by omega)
  have hsecond' := readDigits_formatDigits 2 0 (show fields.second < 10 ^ 2 by omega)
  simp only [formatTime, readTime, List.append_assoc, List.cons_append, hhour', hminute',
    hsecond', Option.bind_eq_bind, Option.bind_some, readSeparator, if_true,
    readFraction_format hmicrosecond hrest, Nat.zero_mul, Nat.zero_add, Option.pure_def]

theorem readOffset_formatUtcoffset {fields : DatetimeFields} (hvalid : fields.Valid) :
    readOffset (formatUtcoffset fields.utcoffset) = some fields.utcoffset := by
  obtain ⟨-, -, -, -, -, -, -, hoffset⟩ := hvalid
  cases hutc : fields.utcoffset with
  | none => rfl
  | some offset =>
      rw [hutc] at hoffset
      exact readOffset_formatOffset (by simpa using hoffset)

theorem formatUtcoffset_ne_dot (utcoffset : Option Int) (tail : List Char) :
    formatUtcoffset utcoffset ≠ '.' :: tail := by
  cases utcoffset with
  | none => simp [formatUtcoffset]
  | some offset =>
      simp only [formatUtcoffset, formatOffset]
      split_ifs <;> simp

theorem fromisoformat_isoformat (value : Datetime) :
    fromisoformat value.isoformat = some value := by
  obtain ⟨fields, hvalid⟩ := value
  unfold isoformat fromisoformat
  rw [readDate_formatDate hvalid]
  simp only [Option.bind_eq_bind, Option.bind_some, readSeparator, if_true]
  rw [readTime_formatTime hvalid (formatUtcoffset_ne_dot _)]
  simp only [Option.bind_some, readOffset_formatUtcoffset hvalid]
  exact dif_pos hvalid

end Datetime

end Songmaker.Foundation
