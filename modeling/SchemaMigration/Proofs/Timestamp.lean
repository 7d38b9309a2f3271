import SchemaMigration.Proofs.Text.SignedNumeral
import SchemaMigration.Timestamp

/-!
# The order of timestamps

Moments are in the order of the minutes that have gone by since the year 0 (`Timestamp.minutes`),
and within a minute in that of their seconds (`Before`).  The text of a moment of the years from 0
to 9999 is the one number of fourteen digits that its parts make side by side (`toList_text`), and a
later moment has a larger number (`stamp_lt_of_before`).
-/

namespace SchemaMigration.Timestamp

/-! ### The calendar -/

/-- The number of days from the start of the year 0 to the start of a year. -/
def daysBefore (year : Int) : Int :=
  365 * year + (year + 3) / 4 - (year + 99) / 100 + (year + 399) / 400

/-- The number of days in the first months of a year. -/
def daysOfMonths (year : Int) : (months : Nat) → Nat
  | 0 => 0
  | months + 1 => daysOfMonths year months + daysIn year (months + 1)

/-- A year has the days of its twelve months. -/
theorem daysBefore_succ (year : Int) :
    daysBefore (year + 1) = daysBefore year + daysOfMonths year 12 := by
  have hmonths : daysOfMonths year 12 = if isLeapYear year then 366 else 365 := by
    simp only [daysOfMonths, daysIn]
    cases isLeapYear year <;> rfl
  have hleap : isLeapYear year = true ↔ year % 4 = 0 ∧ (year % 100 ≠ 0 ∨ year % 400 = 0) := by
    simp [isLeapYear]
  rw [hmonths]
  unfold daysBefore
  split
  · next h =>
    have := hleap.mp h
    omega
  · next h =>
    have := mt hleap.mpr h
    omega

theorem daysBefore_le {year year' : Int} (h : year ≤ year') :
    daysBefore year ≤ daysBefore year' := by
  unfold daysBefore
  omega

theorem daysOfMonths_le (year : Int) {months months' : Nat} (h : months ≤ months') :
    daysOfMonths year months ≤ daysOfMonths year months' := by
  induction h with
  | refl => exact Nat.le_refl _
  | step _ ih => exact Nat.le_trans ih (Nat.le_add_right _ _)

/-! ### Moments -/

/-- The parts are those of a moment; a second may be a leap second. -/
structure IsMoment (t : Timestamp) : Prop where
  month : 1 ≤ t.month ∧ t.month ≤ 12
  day : 1 ≤ t.day ∧ t.day ≤ daysIn t.year t.month
  hour : t.hour < 24
  minute : t.minute < 60
  second : t.second ≤ 60

/-- The number of days from the start of the year 0 to a moment. -/
def dayNumber (t : Timestamp) : Int :=
  daysBefore t.year + daysOfMonths t.year (t.month - 1) + (t.day - 1)

/-- The number of minutes from the start of the year 0 to a moment. -/
def minutes (t : Timestamp) : Int := (t.dayNumber * 24 + t.hour) * 60 + t.minute

/-- Whether a moment is earlier than another one by a second or more. -/
def Before (t u : Timestamp) : Prop :=
  t.minutes < u.minutes ∨ t.minutes = u.minutes ∧ t.second < u.second

instance (t u : Timestamp) : Decidable (t.Before u) :=
  inferInstanceAs (Decidable (_ ∨ _ ∧ _))

theorem isMoment_of_isValid {t : Timestamp} (h : t.isValid = true) : t.IsMoment := by
  simp only [isValid, Bool.and_eq_true, decide_eq_true_eq] at h
  obtain ⟨⟨⟨⟨⟨-, hmonth⟩, hday⟩, hhour⟩, hminute⟩, hsecond⟩ := h
  exact ⟨hmonth, hday, hhour, hminute, Nat.le_of_lt hsecond⟩

section
variable {t u : Timestamp}

/-- A moment lies in its month. -/
theorem IsMoment.day_le (h : t.IsMoment) :
    daysOfMonths t.year (t.month - 1) + t.day ≤ daysOfMonths t.year t.month := by
  have hmonths : daysOfMonths t.year (t.month - 1 + 1) =
      daysOfMonths t.year (t.month - 1) + daysIn t.year (t.month - 1 + 1) := rfl
  rw [Nat.sub_add_cancel h.month.1] at hmonths
  rw [hmonths]
  exact Nat.add_le_add_left h.day.2 _

/-- A later year has later days. -/
theorem dayNumber_lt_of_year (ht : t.IsMoment) (hu : u.IsMoment) (h : t.year < u.year) :
    t.dayNumber < u.dayNumber := by
  have hyears : daysBefore (t.year + 1) ≤ daysBefore u.year := daysBefore_le h
  have hyear := daysBefore_succ t.year
  have hmonth := daysOfMonths_le t.year ht.month.2
  have hday := ht.day_le
  have hdays := hu.day.1
  unfold dayNumber
  omega

/-- A later month of a year has later days. -/
theorem dayNumber_lt_of_month (ht : t.IsMoment) (hu : u.IsMoment) (hyear : t.year = u.year)
    (h : t.month < u.month) : t.dayNumber < u.dayNumber := by
  have hmonths : daysOfMonths t.year t.month ≤ daysOfMonths t.year (u.month - 1) :=
    daysOfMonths_le t.year (by omega)
  have hday := ht.day_le
  have hdays := hu.day.1
  unfold dayNumber
  rw [← hyear]
  omega

end

/-! ### The text of a moment -/

/-- The day of a moment as one number of eight digits. -/
def dateStamp (t : Timestamp) : Nat := (t.year.toNat * 100 + t.month) * 100 + t.day

/-- A moment as one number of fourteen digits. -/
def stamp (t : Timestamp) : Nat := ((t.dateStamp * 100 + t.hour) * 100 + t.minute) * 100 + t.second

/-- The moments that fourteen digits can tell. -/
structure IsStampable (t : Timestamp) : Prop extends IsMoment t where
  year : 0 ≤ t.year ∧ t.year ≤ 9999

section
variable {t u : Timestamp}

theorem IsMoment.day_le_31 (h : t.IsMoment) : t.day ≤ 31 := by
  refine Nat.le_trans h.day.2 ?_
  unfold daysIn
  split
  · split <;> decide
  · split <;> decide

/-- An earlier number of the day is an earlier day. -/
theorem dayNumber_lt_of_dateStamp (ht : t.IsStampable) (hu : u.IsStampable)
    (h : t.dateStamp < u.dateStamp) : t.dayNumber < u.dayNumber := by
  have hmonths := And.intro ht.month hu.month
  have hdays := And.intro ht.day_le_31 hu.day_le_31
  have hyears := And.intro ht.year hu.year
  obtain hyear | ⟨hyear, hmonth⟩ | ⟨hyear, hmonth, hday⟩ :
      t.year < u.year ∨ t.year = u.year ∧ t.month < u.month ∨
        t.year = u.year ∧ t.month = u.month ∧ t.day < u.day := by
    unfold dateStamp at h
    omega
  · exact dayNumber_lt_of_year ht.toIsMoment hu.toIsMoment hyear
  · exact dayNumber_lt_of_month ht.toIsMoment hu.toIsMoment hyear hmonth
  · unfold dayNumber
    rw [hyear, hmonth]
    omega

theorem dayNumber_eq_of_dateStamp (ht : t.IsStampable) (hu : u.IsStampable)
    (h : t.dateStamp = u.dateStamp) : t.dayNumber = u.dayNumber := by
  obtain ⟨hyear, hmonth, hday⟩ : t.year = u.year ∧ t.month = u.month ∧ t.day = u.day := by
    have hmonths := And.intro ht.month hu.month
    have hdays := And.intro ht.day_le_31 hu.day_le_31
    have hyears := And.intro ht.year hu.year
    unfold dateStamp at h
    omega
  rw [dayNumber, dayNumber, hyear, hmonth, hday]

/-- **Timestamps**: a later moment has a larger number. -/
theorem stamp_lt_of_before (ht : t.IsStampable) (hu : u.IsStampable) (h : t.Before u) :
    t.stamp < u.stamp := by
  have htime := And.intro ht.hour hu.hour
  have hminutes := And.intro ht.minute hu.minute
  have hseconds := And.intro ht.second hu.second
  unfold Before minutes at h
  unfold stamp
  obtain hdate | hdate | hdate := Nat.lt_trichotomy t.dateStamp u.dateStamp
  · omega
  · have hday := dayNumber_eq_of_dateStamp ht hu hdate
    omega
  · -- a later day is no earlier moment
    have hday := dayNumber_lt_of_dateStamp hu ht hdate
    omega

theorem stamp_lt (h : t.IsStampable) : t.stamp < 10 ^ 14 := by
  have hmonth := h.month
  have hday := h.day_le_31
  have htime := And.intro h.hour (And.intro h.minute h.second)
  have hyear := h.year
  unfold stamp dateStamp
  omega

theorem toList_yearText {year : Int} (h : 0 ≤ year ∧ year ≤ 9999) :
    (yearText year).toList = Numeral.lastDigits 4 year.toNat := by
  rw [yearText, if_neg (by omega), if_neg (by omega), String.empty_append,
    Numeral.toList_padded (by omega)]
  congr 1
  omega

/-- The text of a moment is its number. -/
theorem toList_text (h : t.IsStampable) : t.text.toList = Numeral.lastDigits 14 t.stamp := by
  have hmonth := h.month
  have hday := h.day_le_31
  have htime := And.intro h.hour (And.intro h.minute h.second)
  simp only [text, String.toList_append, toList_yearText h.year]
  repeat rw [Numeral.toList_padded (by omega), Numeral.lastDigits_append _ _ (by omega)]
  rfl

/-- Besides digits, only the sign of a year stands in the text of a moment. -/
theorem isDigit_of_mem_text {t : Timestamp} {c : Char} (h : c ∈ t.text.toList) :
    Numeral.isDigit c = true ∨ c = '-' ∨ c = '+' := by
  have hsign : c ∈ (if t.year < 0 then "-" else if 9999 < t.year then "+" else "").toList →
      c = '-' ∨ c = '+' := by
    intro hc
    split at hc
    · exact .inl (List.mem_singleton.mp hc)
    · split at hc
      · exact .inr (List.mem_singleton.mp hc)
      · cases hc
  simp only [text, yearText, String.toList_append, List.mem_append] at h
  obtain (((((h | h) | h) | h) | h) | h) | h := h
  · exact .inr (hsign h)
  all_goals exact .inl (Numeral.isDigit_of_mem_padded h)

theorem length_text (h : t.IsStampable) : t.text.length = 14 := by
  rw [← String.length_toList, toList_text h, Numeral.length_lastDigits]

end

end SchemaMigration.Timestamp
