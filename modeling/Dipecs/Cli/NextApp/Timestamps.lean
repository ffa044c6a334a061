import Dipecs.Library.Calendar
import Dipecs.Library.Decimal
import Dipecs.Library.MachineInt

/-! Date-times of the records: the parser, and the calendar that it follows but for the length
of the months. -/

namespace Dipecs.Cli.NextApp

open Dipecs.Library Decimal Calendar

/-- Days since the first of January 1970 by a formula that counts from March. -/
def civilDays (year : Int) (month day : Nat) : Int :=
  let y := if month ≤ 2 then year - 1 else year
  let m : Int := if month ≤ 2 then month + 12 else month
  let era := (if y ≥ 0 then y else y - 399).tdiv 400
  let yoe := y - era * 400
  let doy := (153 * (m - 3) + 2).tdiv 5 + day - 1
  let doe := yoe * 365 + yoe.tdiv 4 - yoe.tdiv 100 + doy
  era * 146097 + doe - 719468

/-- The sums stay within 64 bits; the product wraps where it does not fit. -/
def parseIsoDatetimeMs (s : String) : Option Int := do
  let chars := s.toList
  let (datePart, timePart) ← (splitOnce 'T' chars).or (splitOnce ' ' chars)
  let dateFields := datePart.splitOn '-'
  let year ← dateFields[0]?.bind (readSigned 32)
  let month ← dateFields[1]?.bind (readUnsigned 32)
  let day ← dateFields[2]?.bind (readUnsigned 32)
  if month = 0 ∨ month > 12 ∨ day = 0 ∨ day > 31 then none else
  let timeCore := (timePart.splitOn '.').headD timePart
  let timeFields := timeCore.splitOn ':'
  let hour ← timeFields[0]?.bind (readUnsigned 32)
  let minute ← timeFields[1]?.bind (readUnsigned 32)
  let second ← readUnsigned 32 (timeFields[2]?.getD ['0'])
  if hour > 23 ∨ minute > 59 ∨ second > 59 then none else
  let secs := civilDays year month day * 86400 + hour * 3600 + minute * 60 + second
  some (i64 (secs * 1000))

structure DateTimeText where
  year : Digits
  month : Digits
  day : Digits
  /-- The time follows after a space, not after a `T`. -/
  spaced : Bool
  hour : Digits
  minute : Digits
  second : Digits
  fraction : Option { cs : List Char // ∀ c ∈ cs, c.isDigit = true }

namespace DateTimeText
variable (t : DateTimeText)

def dateChars : List Char := ['-'].intercalate [t.year.chars, t.month.chars, t.day.chars]

def clockChars : List Char := [':'].intercalate [t.hour.chars, t.minute.chars, t.second.chars]

def fractionChars : List Char := t.fraction.elim [] fun cs => '.' :: cs.val

def text : String :=
  String.ofList
    (t.dateChars ++ (if t.spaced then ' ' else 'T') :: (t.clockChars ++ t.fractionChars))

def dateTime : DateTime where
  year := t.year.value
  month := t.month.value
  day := t.day.value
  hour := t.hour.value
  minute := t.minute.value
  second := t.second.value

structure Accepted : Prop where
  year_lt : t.dateTime.year < 2 ^ 31
  month_pos : 1 ≤ t.dateTime.month
  month_le : t.dateTime.month ≤ 12
  day_pos : 1 ≤ t.dateTime.day
  day_le : t.dateTime.day ≤ 31
  time : t.dateTime.RealTime

theorem notMem_dateChars {c : Char} (hc : c.isDigit = false) (hdash : c ≠ '-') :
    c ∉ t.dateChars := by
  simp [dateChars, List.intercalate, t.year.notMem hc, t.month.notMem hc, t.day.notMem hc, hdash]

theorem notMem_clockChars {c : Char} (hc : c.isDigit = false) (hcolon : c ≠ ':') :
    c ∉ t.clockChars := by
  simp [clockChars, List.intercalate, t.hour.notMem hc, t.minute.notMem hc, t.second.notMem hc,
    hcolon]

theorem notMem_fractionChars {c : Char} (hc : c.isDigit = false) (hdot : c ≠ '.') :
    c ∉ t.fractionChars := by
  unfold fractionChars
  cases t.fraction with
  | none => simp
  | some cs =>
    intro hmem
    rcases List.mem_cons.mp hmem with h | h
    · exact hdot h
    · rw [cs.property c h] at hc
      cases hc

theorem splitOn_dateChars :
    t.dateChars.splitOn '-' = [t.year.chars, t.month.chars, t.day.chars] := by
  refine List.splitOn_intercalate '-' (fun l hl => ?_) (List.cons_ne_nil _ _)
  simp only [List.mem_cons, List.not_mem_nil, or_false] at hl
  rcases hl with rfl | rfl | rfl
  · exact t.year.notMem (by decide)
  · exact t.month.notMem (by decide)
  · exact t.day.notMem (by decide)

theorem splitOn_clockChars :
    t.clockChars.splitOn ':' = [t.hour.chars, t.minute.chars, t.second.chars] := by
  refine List.splitOn_intercalate ':' (fun l hl => ?_) (List.cons_ne_nil _ _)
  simp only [List.mem_cons, List.not_mem_nil, or_false] at hl
  rcases hl with rfl | rfl | rfl
  · exact t.hour.notMem (by decide)
  · exact t.minute.notMem (by decide)
  · exact t.second.notMem (by decide)

theorem timeCore_eq :
    ((t.clockChars ++ t.fractionChars).splitOn '.').headD (t.clockChars ++ t.fractionChars) =
      t.clockChars := by
  have hdot := t.notMem_clockChars (c := '.') (by decide) (by decide)
  unfold fractionChars
  cases t.fraction with
  | none =>
    rw [Option.elim_none, List.append_nil, List.splitOn_eq_singleton hdot]
    rfl
  | some cs =>
    rw [Option.elim_some, List.splitOn_append_cons_self_of_not_mem hdot]
    rfl

theorem splitOnce_text :
    (splitOnce 'T' t.text.toList).or (splitOnce ' ' t.text.toList) =
      some (t.dateChars, t.clockChars ++ t.fractionChars) := by
  have hdate : ∀ c, c.isDigit = false → c ≠ '-' → c ∉ t.dateChars :=
    fun _ => t.notMem_dateChars
  rw [text, String.toList_ofList]
  cases t.spaced with
  | false =>
    rw [if_neg Bool.false_ne_true, splitOnce_append (hdate 'T' (by decide) (by decide))]
    rfl
  | true =>
    have hnoT : 'T' ∉ t.dateChars ++ ' ' :: (t.clockChars ++ t.fractionChars) := by
      simp [hdate 'T' (by decide) (by decide),
        t.notMem_clockChars (c := 'T') (by decide) (by decide),
        t.notMem_fractionChars (c := 'T') (by decide) (by decide)]
    rw [if_pos rfl, splitOnce_eq_none hnoT, splitOnce_append (hdate ' ' (by decide) (by decide))]
    rfl

theorem parse_text : (t.Accepted → parseIsoDatetimeMs t.text = some (i64
      ((civilDays t.dateTime.year t.dateTime.month t.dateTime.day * 86400 +
        t.dateTime.hour * 3600 + t.dateTime.minute * 60 + t.dateTime.second) * 1000))) ∧
    (¬t.Accepted → parseIsoDatetimeMs t.text = none) := by
  have hparts := t.splitOnce_text
  have hcore := t.timeCore_eq
  unfold parseIsoDatetimeMs
  simp only [hparts, hcore, Option.bind_eq_bind, Option.bind_some, splitOn_dateChars,
    splitOn_clockChars, List.getElem?_cons_zero, List.getElem?_cons_succ,
    Digits.readSigned_chars, Digits.readUnsigned_chars, Option.getD_some]
  refine ⟨fun h => ?_, fun h => ?_⟩
  · have hfits : ∀ n ≤ 59, n < 2 ^ 32 := fun n hn => by omega
    have hyear : t.year.value < 2 ^ (32 - 1) := h.year_lt
    have hmonth : t.month.value ≤ 12 := h.month_le
    have hday : t.day.value ≤ 31 := h.day_le
    have hhour : t.hour.value ≤ 23 := h.time.hour_le
    have hminute : t.minute.value ≤ 59 := h.time.minute_le
    have hsecond : t.second.value ≤ 59 := h.time.second_le
    have hdate : ¬(t.month.value = 0 ∨ t.month.value > 12 ∨ t.day.value = 0 ∨
        t.day.value > 31) := by
      have hmonthPos : 1 ≤ t.month.value := h.month_pos
      have hdayPos : 1 ≤ t.day.value := h.day_pos
      omega
    have htime : ¬(t.hour.value > 23 ∨ t.minute.value > 59 ∨ t.second.value > 59) := by omega
    simp only [if_pos hyear, if_pos (hfits _ (hmonth.trans (by decide))),
      if_pos (hfits _ (hday.trans (by decide))), if_pos (hfits _ (hhour.trans (by decide))),
      if_pos (hfits _ hminute), if_pos (hfits _ hsecond), Option.bind_some, if_neg hdate,
      if_neg htime]
    rfl
  · rw [Option.eq_none_iff_forall_ne_some]
    intro ms hms
    simp only [Option.bind_eq_some_iff, Option.ite_none_right_eq_some,
      Option.ite_none_left_eq_some] at hms
    obtain ⟨year, ⟨hyear, hyear'⟩, month, ⟨-, hmonth⟩, day, ⟨-, hday⟩, hdate, hour, ⟨-, hhour⟩,
      minute, ⟨-, hminute⟩, second, ⟨-, hsecond⟩, htime, -⟩ := hms
    cases hmonth
    cases hday
    cases hhour
    cases hminute
    cases hsecond
    have hbounds : 1 ≤ t.month.value ∧ t.month.value ≤ 12 ∧ 1 ≤ t.day.value ∧
        t.day.value ≤ 31 := by omega
    have hclock : t.hour.value ≤ 23 ∧ t.minute.value ≤ 59 ∧ t.second.value ≤ 59 := by omega
    exact h ⟨hyear, hbounds.1, hbounds.2.1, hbounds.2.2.1, hbounds.2.2.2, hclock.1, hclock.2.1,
      hclock.2.2⟩

end DateTimeText

/-- Years counted from March, with the leap day last: the eras of four hundred years have
146097 days each. -/
theorem marchYears_eq {y : Int} (hy : -1 ≤ y) :
    let era := (if y ≥ 0 then y else y - 399).tdiv 400
    let yoe := y - era * 400
    era * 146097 + (yoe * 365 + yoe.tdiv 4 - yoe.tdiv 100) =
      365 * y + y / 4 - y / 100 + y / 400 := by
  have hera : (if y ≥ 0 then y else y - 399).tdiv 400 = y / 400 := by
    split
    · exact Int.tdiv_eq_ediv_of_nonneg ‹_›
    · obtain rfl : y = -1 := by omega
      rfl
  simp only [hera]
  rw [Int.tdiv_eq_ediv_of_nonneg (by omega), Int.tdiv_eq_ediv_of_nonneg (by omega)]
  omega

theorem civilDays_eq {t : DateTime} (hpos : 1 ≤ t.month) (hle : t.month ≤ 12) (hday : 1 ≤ t.day) :
    civilDays t.year t.month t.day = (t.dayNumber : Int) - 719528 := by
  unfold civilDays DateTime.dayNumber
  by_cases hm : t.month ≤ 2
  · have hera := marchYears_eq (y := (t.year : Int) - 1) (by omega)
    have hyears := daysBeforeYear_add t.year
    simp only [if_pos hm] at hera ⊢
    rw [Int.tdiv_eq_ediv_of_nonneg (a := 153 * ((t.month : Int) + 12 - 3) + 2) (by omega)]
    have hmonths : daysAfterMonths t.year (t.month - 1) = 31 * (t.month - 1) := by
      obtain h | h : t.month = 1 ∨ t.month = 2 := by omega
      · rw [h]
        rfl
      · rw [h]
        rfl
    rw [hmonths]
    omega
  · have hera := marchYears_eq (y := (t.year : Int)) (by omega)
    -- from March on the leap day is behind, as it is for the year that follows
    have hyears := daysBeforeYear_add (t.year + 1)
    rw [daysBeforeYear, daysInYear_eq] at hyears
    simp only [if_neg hm] at hera ⊢
    rw [Int.tdiv_eq_ediv_of_nonneg (a := 153 * ((t.month : Int) - 3) + 2) (by omega)]
    obtain ⟨n, hn⟩ := Nat.exists_eq_add_of_le' (show 3 ≤ t.month by omega)
    have hmonths := daysAfterMonths_march t.year (n := n) (by omega)
    have hmonth : t.month - 1 = n + 2 := by omega
    rw [hmonth, hmonths]
    omega

def epoch : DateTime := ⟨1970, 1, 1, 0, 0, 0⟩

theorem newYear_seconds (year : Nat) :
    (DateTime.mk year 1 1 0 0 0).seconds = daysBeforeYear year * 86400 := by
  simp [DateTime.seconds, DateTime.dayNumber, DateTime.secondOfDay, daysAfterMonths]

theorem epoch_seconds : epoch.seconds = 719528 * 86400 := by
  have hyears := daysBeforeYear_add 1970
  rw [epoch, newYear_seconds]
  generalize daysBeforeYear 1970 = n at hyears
  omega

namespace DateTimeText
variable (t : DateTimeText)

structure Real : Prop where
  day : t.dateTime.RealDay
  time : t.dateTime.RealTime

def millis : Int := ((t.dateTime.seconds : Int) - epoch.seconds) * 1000

def Fits : Prop := t.Real → t.millis < 2 ^ 63

/-- The parser returns the milliseconds of a real date-time, and nothing otherwise. -/
structure ReadRight : Prop where
  real : t.Real → parseIsoDatetimeMs t.text = some t.millis
  unreal : ¬t.Real → parseIsoDatetimeMs t.text = none

/-- The day lies past the end of its month, within 31. -/
structure Overruns : Prop extends t.Accepted where
  day_gt : daysInMonth t.dateTime.year t.dateTime.month < t.dateTime.day

variable {t}

theorem daysInMonth_le (year month : Nat) : daysInMonth year month ≤ 31 := by
  unfold daysInMonth
  split
  · split <;> decide
  · decide
  · decide
  · decide
  · decide
  · exact le_refl _

theorem Real.accepted (h : t.Real) (hfits : t.Fits) : t.Accepted := by
  refine ⟨?_, h.day.month_pos, h.day.month_le, h.day.day_pos,
    h.day.day_le.trans (daysInMonth_le _ _), h.time⟩
  have hlt := hfits h
  have hyears := le_daysBeforeYear t.dateTime.year
  rw [millis, epoch_seconds] at hlt
  unfold DateTime.seconds DateTime.dayNumber at hlt
  omega

theorem Real.parse (h : t.Real) (hfits : t.Fits) :
    parseIsoDatetimeMs t.text = some t.millis := by
  rw [t.parse_text.1 (h.accepted hfits),
    civilDays_eq h.day.month_pos h.day.month_le h.day.day_pos]
  have hlt := hfits h
  have hmillis : t.millis = (((t.dateTime.dayNumber : Int) - 719528) * 86400 +
      t.dateTime.hour * 3600 + t.dateTime.minute * 60 + t.dateTime.second) * 1000 := by
    rw [millis, epoch_seconds]
    unfold DateTime.seconds DateTime.secondOfDay
    omega
  rw [← hmillis, i64_of_range (by omega) hlt]

theorem readRight_iff (hfits : t.Fits) : t.ReadRight ↔ ¬t.Overruns := by
  constructor
  · intro h hover
    have hunreal : ¬t.Real := fun hreal => (hreal.day.day_le.trans_lt hover.day_gt).false
    have hnone := h.unreal hunreal
    rw [t.parse_text.1 hover.toAccepted] at hnone
    cases hnone
  · intro h
    refine ⟨fun hreal => hreal.parse hfits, fun hunreal => t.parse_text.2 fun hacc => ?_⟩
    by_cases hday : t.dateTime.day ≤ daysInMonth t.dateTime.year t.dateTime.month
    · exact hunreal ⟨⟨hacc.month_pos, hacc.month_le, hacc.day_pos, hday⟩, hacc.time⟩
    · exact h ⟨hacc, not_le.mp hday⟩

end DateTimeText

/-- A date-time whose milliseconds fit 64 bits is read right just when its day does not lie
between the end of its month and 31, and real date-times are read in their order. -/
theorem parseIsoDatetimeMs_readRight_iff (t : DateTimeText) (hfits : t.Fits) :
    (t.ReadRight ↔ ¬t.Overruns) ∧
      ∀ t' : DateTimeText, t'.Fits → t.Real → t'.Real →
        ∃ ms ms', parseIsoDatetimeMs t.text = some ms ∧ parseIsoDatetimeMs t'.text = some ms' ∧
          (ms < ms' ↔ t.dateTime.key < t'.dateTime.key) := by
  refine ⟨DateTimeText.readRight_iff hfits, fun t' hfits' hreal hreal' => ?_⟩
  refine ⟨t.millis, t'.millis, hreal.parse hfits, hreal'.parse hfits', ?_⟩
  rw [← DateTime.seconds_lt_iff hreal.day hreal'.day hreal.time hreal'.time]
  unfold DateTimeText.millis
  omega

namespace DateTimeSample

def morning (month day : Digits) : DateTimeText where
  year := ⟨['2', '0', '1', '8'], by decide, rfl⟩
  month := month
  day := day
  spaced := true
  hour := ⟨['0', '6'], by decide, rfl⟩
  minute := ⟨['0', '1'], by decide, rfl⟩
  second := ⟨['0', '5'], by decide, rfl⟩
  fraction := none

def january : DateTimeText :=
  morning ⟨['0', '1'], by decide, rfl⟩ ⟨['1', '6'], by decide, rfl⟩

def february : DateTimeText :=
  morning ⟨['0', '2'], by decide, rfl⟩ ⟨['3', '0'], by decide, rfl⟩

end DateTimeSample

open DateTimeSample in
theorem parseIsoDatetimeMs_readRight_january :
    january.text = "2018-01-16 06:01:05" ∧ (january.ReadRight ↔ ¬january.Overruns) :=
  ⟨by decide +kernel, (parseIsoDatetimeMs_readRight_iff january fun _ => by decide +kernel).1⟩

open DateTimeSample in
/-- The thirtieth of February is read as the second of March. -/
theorem parseIsoDatetimeMs_february :
    february.text = "2018-02-30 06:01:05" ∧
      parseIsoDatetimeMs february.text = parseIsoDatetimeMs "2018-03-02 06:01:05" ∧
      ¬february.ReadRight := by
  refine ⟨by decide +kernel, by decide +kernel, fun h => ?_⟩
  have hunreal : ¬february.Real := fun hreal => absurd hreal.day.day_le (by decide +kernel)
  exact absurd (h.unreal hunreal) (by decide +kernel)

end Dipecs.Cli.NextApp
