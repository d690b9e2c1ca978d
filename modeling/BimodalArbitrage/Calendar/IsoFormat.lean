import BimodalArbitrage.Calendar.Gregorian
import Mathlib.Tactic.Ring

/-!
# Instants as texts

An instant is a number of microseconds since the first day of the calendar, in UTC. Its
text is that of `datetime.isoformat`, with the microseconds only where there are any, and
`fromisoformat` reads the texts that `isoformat` prints, at any offset.
-/

namespace Calendar

def perDay : ℕ := 86400000000

/-- The last `width` digits of a number. -/
def pad : ℕ → ℕ → List Char
  | 0, _ => []
  | width + 1, n => Nat.digitChar (n / 10 ^ width % 10) :: pad width n

def fractionText (microsecond : ℕ) : List Char :=
  if microsecond = 0 then [] else '.' :: pad 6 microsecond

def clockText (t : ℕ) : List Char :=
  pad 2 (t / 3600000000) ++ ':' :: (pad 2 (t / 60000000 % 60) ++ ':' ::
    (pad 2 (t / 1000000 % 60) ++ fractionText (t % 1000000)))

def dateText (d : Date) : List Char :=
  pad 4 d.year ++ '-' :: (pad 2 d.month ++ '-' :: pad 2 d.day)

def isoformat (instant : ℕ) : List Char :=
  dateText (ofOrdinal (instant / perDay + 1)) ++ 'T' ::
    (clockText (instant % perDay) ++ ['+', '0', '0', ':', '0', '0'])

/-! ### Reading -/

def digits : ℕ → ℕ → List Char → Option (ℕ × List Char)
  | 0, n, cs => some (n, cs)
  | width + 1, n, c :: cs =>
    if c.isDigit then digits width (10 * n + (c.toNat - 48)) cs else none
  | _ + 1, _, [] => none

def expect (c : Char) : List Char → Option (List Char)
  | d :: cs => if d = c then some cs else none
  | [] => none

def readDate (cs : List Char) : Option (Date × List Char) := do
  let (year, cs) ← digits 4 0 cs
  let cs ← expect '-' cs
  let (month, cs) ← digits 2 0 cs
  let cs ← expect '-' cs
  let (day, cs) ← digits 2 0 cs
  if (Date.mk year month day).Valid then pure (⟨year, month, day⟩, cs) else none

def readFraction : List Char → Option (ℕ × List Char)
  | '.' :: cs => digits 6 0 cs
  | cs => some (0, cs)

def readClock (cs : List Char) : Option (ℕ × List Char) := do
  let (hour, cs) ← digits 2 0 cs
  let cs ← expect ':' cs
  let (minute, cs) ← digits 2 0 cs
  let cs ← expect ':' cs
  let (second, cs) ← digits 2 0 cs
  let (microsecond, cs) ← readFraction cs
  if hour < 24 ∧ minute < 60 ∧ second < 60 then
    pure (((hour * 60 + minute) * 60 + second) * 1000000 + microsecond, cs)
  else none

/-- Microseconds to the east of UTC. -/
def readOffset : List Char → Option ℤ
  | sign :: cs => do
    let (hour, cs) ← digits 2 0 cs
    let cs ← expect ':' cs
    let (minute, cs) ← digits 2 0 cs
    let offset : ℤ := (hour * 60 + minute) * 60000000
    if cs = [] ∧ hour < 24 ∧ minute < 60 then
      if sign = '+' then pure offset else if sign = '-' then pure (-offset) else none
    else none
  | [] => none

def fromisoformat (cs : List Char) : Option ℤ := do
  let (date, cs) ← readDate cs
  let cs ← expect 'T' cs
  let (t, cs) ← readClock cs
  let offset ← readOffset cs
  pure (((date.toOrdinal - 1) * perDay + t : ℕ) - offset)

/-! ### Round trips -/

theorem digits_pad (width : ℕ) {n : ℕ} (acc : ℕ) (cs : List Char) :
    digits width acc (pad width n ++ cs) = some (acc * 10 ^ width + n % 10 ^ width, cs) := by
  induction width generalizing acc with
  | zero => simp [digits, pad, Nat.mod_one]
  | succ width ih =>
    have hdigit : n / 10 ^ width % 10 < 10 := Nat.mod_lt _ (by decide)
    have hsplit : n % 10 ^ (width + 1) = 10 ^ width * (n / 10 ^ width % 10) + n % 10 ^ width := by
      rw [pow_succ, Nat.mod_mul, add_comm]
    have hchar : (Nat.digitChar (n / 10 ^ width % 10)).isDigit = true := by
      rw [Nat.isDigit_digitChar]
      exact decide_eq_true hdigit
    rw [pad, List.cons_append, digits, if_pos hchar,
      Nat.toNat_digitChar_sub_48_of_lt_ten hdigit, ih, hsplit]
    exact congrArg (fun m => some (m, cs)) (by ring)

theorem digits_pad_of_lt {width n : ℕ} (hn : n < 10 ^ width) (cs : List Char) :
    digits width 0 (pad width n ++ cs) = some (n, cs) := by
  rw [digits_pad, Nat.mod_eq_of_lt hn, Nat.zero_mul, Nat.zero_add]

theorem expect_cons (c : Char) (cs : List Char) : expect c (c :: cs) = some cs := if_pos rfl

theorem daysInMonth_le (leap : Bool) (month : ℕ) : daysInMonth leap month ≤ 32 := by
  have hall : ∀ n ∈ monthLengths, n ≤ 31 := by decide
  have hlength : monthLengths.getD (month - 1) 0 ≤ 31 := by
    rw [List.getD_eq_getElem?_getD]
    cases hget : monthLengths[month - 1]? with
    | none => exact Nat.zero_le _
    | some n => exact hall n (List.mem_of_getElem? hget)
  rw [daysInMonth]
  split <;> omega

theorem readDate_dateText {d : Date} (h : d.Valid) (cs : List Char) :
    readDate (dateText d ++ cs) = some (d, cs) := by
  have hdays := daysInMonth_le (isLeap d.year) d.month
  have hyear : d.year < 10 ^ 4 := Nat.lt_succ_of_le h.year.2
  have hmonth : d.month < 10 ^ 2 := lt_of_le_of_lt h.month.2 (by decide)
  have hday : d.day < 10 ^ 2 := lt_of_le_of_lt (h.day.2.trans hdays) (by decide)
  simp only [readDate, dateText, List.append_assoc, List.cons_append, digits_pad_of_lt hyear,
    digits_pad_of_lt hmonth, digits_pad_of_lt hday, expect_cons, Option.bind_eq_bind,
    Option.bind_some, h, if_true, Option.pure_def]

theorem readFraction_fractionText {microsecond : ℕ} (h : microsecond < 10 ^ 6) {cs : List Char}
    (hcs : cs.head? ≠ some '.') :
    readFraction (fractionText microsecond ++ cs) = some (microsecond, cs) := by
  unfold fractionText
  split
  next hzero =>
    rw [hzero, List.nil_append]
    unfold readFraction
    split
    next => exact absurd rfl hcs
    next => rfl
  next => exact digits_pad_of_lt h cs

theorem readClock_clockText {t : ℕ} (ht : t < perDay) {cs : List Char}
    (hcs : cs.head? ≠ some '.') : readClock (clockText t ++ cs) = some (t, cs) := by
  rw [perDay] at ht
  have hhour : t / 3600000000 < 10 ^ 2 := by omega
  have hminute : t / 60000000 % 60 < 10 ^ 2 := by omega
  have hsecond : t / 1000000 % 60 < 10 ^ 2 := by omega
  have hmicrosecond : t % 1000000 < 10 ^ 6 := by omega
  have hbounds : t / 3600000000 < 24 ∧ t / 60000000 % 60 < 60 ∧ t / 1000000 % 60 < 60 := by omega
  have hsum : ((t / 3600000000 * 60 + t / 60000000 % 60) * 60 + t / 1000000 % 60) * 1000000 +
      t % 1000000 = t := by omega
  simp only [readClock, clockText, List.append_assoc, List.cons_append, digits_pad_of_lt hhour,
    digits_pad_of_lt hminute, digits_pad_of_lt hsecond, readFraction_fractionText hmicrosecond hcs,
    expect_cons, Option.bind_eq_bind, Option.bind_some, hbounds, and_self, if_true, hsum,
    Option.pure_def]

/-- An instant of a year with four digits is read back from its text. -/
theorem fromisoformat_isoformat {instant : ℕ} (h : instant < maxOrdinal * perDay) :
    fromisoformat (isoformat instant) = some (instant : ℤ) := by
  have hday : instant / perDay + 1 ≤ maxOrdinal := Nat.div_lt_of_lt_mul (by rwa [mul_comm] at h)
  obtain ⟨hvalid, hordinal⟩ := ofOrdinal_spec (Nat.le_add_left 1 _) hday
  have hclock : instant % perDay < perDay := Nat.mod_lt _ (by decide)
  have hoffset : readOffset ['+', '0', '0', ':', '0', '0'] = some 0 := by decide
  have hread : readClock (clockText (instant % perDay) ++ ['+', '0', '0', ':', '0', '0']) =
      some (instant % perDay, ['+', '0', '0', ':', '0', '0']) :=
    readClock_clockText hclock (by decide)
  simp only [fromisoformat, isoformat, readDate_dateText hvalid, expect_cons, hread, hoffset,
    Option.bind_eq_bind, Option.bind_some, hordinal, Nat.add_sub_cancel, sub_zero,
    Option.pure_def, Nat.div_add_mod']

end Calendar
