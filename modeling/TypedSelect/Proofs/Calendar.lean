import TypedSelect.Time.Instant

/-! Days and dates stand for each other: a day's date is valid and has the day's number. A day of
the cycle is placed by the centuries, the groups of four years and the single years before its
own; in these the formula for its year comes apart. The years of dates grow with their numbers, so
that the dates of instants lie between the first and the last year. -/
namespace TypedSelect.Time

namespace Date

/-- A day of the cycle after so many centuries, groups of four years and years, with so many days
of its own year before it. The year with a day more is the last of its group, and the last group
of a century has one only in the fourth century. -/
structure Place (day century group year rest : Nat) : Prop where
  day_eq : day = 36524 * century + 1461 * group + 365 * year + rest
  century_le : century ≤ 3
  group_le : group ≤ 24
  year_le : year ≤ 3
  rest_le : rest ≤ 365
  longest : rest = 365 → year = 3 ∧ (group < 24 ∨ century = 3)

theorem exists_place (day : Nat) (inCycle : day < 146097) :
    ∃ century group year rest, Place day century group year rest := by
  have centuries : ∃ century inside, day = 36524 * century + inside ∧ century ≤ 3 ∧
      inside ≤ 36524 ∧ (inside = 36524 → century = 3) := by
    by_cases last : day = 146096
    · exact ⟨3, 36524, by omega, by omega, by omega, by omega⟩
    · exact ⟨day / 36524, day % 36524, by omega, by omega, by omega, by omega⟩
  obtain ⟨century, inside, rfl, century_le, inside_le, lastCentury⟩ := centuries
  have years : ∃ year rest, inside % 1461 = 365 * year + rest ∧ year ≤ 3 ∧ rest ≤ 365 ∧
      (rest = 365 → year = 3) := by
    by_cases last : inside % 1461 = 1460
    · exact ⟨3, 365, by omega, by omega, by omega, by omega⟩
    · exact ⟨inside % 1461 / 365, inside % 1461 % 365, by omega, by omega, by omega, by omega⟩
  obtain ⟨year, rest, split, year_le, rest_le, lastYear⟩ := years
  exact ⟨century, inside / 1461, year, rest, by omega, century_le, by omega, year_le, rest_le,
    by omega⟩

/-- The index of a year in the cycle. -/
def yearIndex (century group year : Nat) : Nat :=
  100 * century + 4 * group + year

namespace Place

variable {day century group year rest : Nat}

theorem yearIndex_eq (place : Place day century group year rest) :
    (day - day / 1460 + day / 36524 - day / 146096) / 365 = yearIndex century group year := by
  obtain ⟨day_eq, century_le, group_le, year_le, rest_le, longest⟩ := place
  unfold yearIndex
  have split : day =
      1460 * (25 * century + group) + (24 * century + group + 365 * year + rest) := by
    omega
  have groups : day / 1460 =
      25 * century + group + (24 * century + group + 365 * year + rest) / 1460 := by
    rw [split, Nat.mul_add_div (by decide)]
  by_cases last : day = 146096
  · subst last
    omega
  · have centuries : day / 36524 = century := by omega
    have cycles : day / 146096 = 0 := by omega
    rw [groups, centuries, cycles]
    clear groups centuries cycles split
    omega

theorem yearIndex_lt (place : Place day century group year rest) :
    yearIndex century group year < 400 := by
  obtain ⟨-, century_le, group_le, year_le, -, -⟩ := place
  unfold yearIndex
  omega

theorem day_of_rest (place : Place day century group year rest) (index : Nat)
    (index_eq : index = yearIndex century group year) :
    365 * index + index / 4 - index / 100 + rest = day := by
  obtain ⟨day_eq, century_le, group_le, year_le, rest_le, longest⟩ := place
  unfold yearIndex at index_eq
  have groups : index / 4 = 25 * century + group := by omega
  have centuries : index / 100 = century := by omega
  omega

theorem leap (place : Place day century group year rest) (cycle : Int) (longYear : rest = 365) :
    isLeapYear (cycle * 400 + yearIndex century group year + 1) = true := by
  obtain ⟨day_eq, century_le, group_le, year_le, rest_le, longest⟩ := place
  obtain ⟨rfl, lastOr⟩ := longest longYear
  unfold isLeapYear yearIndex
  rw [decide_eq_true_eq]
  omega

end Place

/-- The month, counted from March, of a day of the year, and the days before and in it. -/
theorem month_bounds (rest month : Nat) (rest_le : rest ≤ 365)
    (month_eq : month = (5 * rest + 2) / 153) :
    month ≤ 11 ∧ (153 * month + 2) / 5 ≤ rest ∧ rest < (153 * (month + 1) + 2) / 5 := by
  omega

/-- The date of a month counted from March and a day in it; a month after the tenth belongs to
the next year. -/
def ofMarch (year : Int) (month day : Nat) : Date where
  year := if month < 10 then year else year + 1
  month := if month < 10 then month + 3 else month - 9
  day := day

theorem ofDayNumber_eq (number : Int) :
    ∃ cycle : Int, ∃ day century group year rest month : Nat,
      Place day century group year rest ∧ number + epochDay = cycle * daysInCycle + day ∧
      month = (5 * rest + 2) / 153 ∧
      ofDayNumber number = ofMarch (cycle * 400 + yearIndex century group year) month
        (rest - (153 * month + 2) / 5 + 1) := by
  obtain ⟨cycle, day, split, cycle_eq, day_eq⟩ : ∃ cycle : Int, ∃ day : Nat,
      number + epochDay = cycle * daysInCycle + day ∧
      cycle = (number + epochDay) / daysInCycle ∧
      day = ((number + epochDay) % daysInCycle).toNat := by
    refine ⟨_, _, ?_, rfl, rfl⟩
    unfold daysInCycle
    omega
  have inCycle : day < 146097 := by
    rw [day_eq, daysInCycle]
    omega
  obtain ⟨century, group, year, rest, place⟩ := exists_place day inCycle
  refine ⟨cycle, day, century, group, year, rest, _, place, split, rfl, ?_⟩
  unfold ofDayNumber ofMarch
  dsimp only
  rw [← day_eq, ← cycle_eq, place.yearIndex_eq]
  generalize index_eq : yearIndex century group year = index
  have rest_eq : day - (365 * index + index / 4 - index / 100) = rest := by
    have started := place.day_of_rest index index_eq.symm
    omega
  rw [rest_eq]
  have month_le := (month_bounds rest _ place.rest_le rfl).1
  generalize (5 * rest + 2) / 153 = month at month_le
  have later : (if month < 10 then month + 3 else month - 9) ≤ 2 ↔ ¬ month < 10 := by
    split <;> omega
  simp only [later, ite_not]

/-- The days from 0000-03-01 to the first of March of a year. -/
def daysToMarch (year : Int) : Int :=
  365 * year + year / 4 - year / 100 + year / 400

theorem daysToMarch_eq (year : Int) :
    daysToMarch year = year / 400 * daysInCycle +
      (year % 400 * 365 + year % 400 / 4 - year % 400 / 100) := by
  unfold daysToMarch daysInCycle
  have groups : year / 4 = 100 * (year / 400) + year % 400 / 4 := by omega
  have centuries : year / 100 = 4 * (year / 400) + year % 400 / 100 := by omega
  omega

theorem daysToMarch_cycle (cycle : Int) (index : Nat) (index_lt : index < 400) :
    daysToMarch (cycle * 400 + index) =
      cycle * daysInCycle + (365 * index + index / 4 - index / 100 : Nat) := by
  unfold daysToMarch daysInCycle
  omega

theorem toDayNumber_eq (d : Date) :
    d.toDayNumber = daysToMarch (if d.month ≤ 2 then d.year - 1 else d.year) +
      ((153 * ((d.month + 9) % 12) + 2) / 5 + d.day - 1) - epochDay := by
  rw [daysToMarch_eq]
  unfold toDayNumber
  dsimp only
  omega

theorem toDayNumber_ofMarch (year : Int) (month day : Nat) (month_le : month ≤ 11) :
    (ofMarch year month day).toDayNumber =
      daysToMarch year + ((153 * month + 2) / 5 + day - 1) - epochDay := by
  rw [toDayNumber_eq]
  by_cases early : month < 10
  · have later : ¬ month + 3 ≤ 2 := by omega
    simp only [ofMarch, if_pos early, if_neg later]
    omega
  · have later : month - 9 ≤ 2 := by omega
    simp only [ofMarch, if_neg early, if_pos later, Int.add_sub_cancel]
    omega

theorem toDayNumber_ofDayNumber (number : Int) : (ofDayNumber number).toDayNumber = number := by
  obtain ⟨cycle, day, century, group, year, rest, month, place, split, month_eq, written⟩ :=
    ofDayNumber_eq number
  obtain ⟨month_le, begun, -⟩ := month_bounds rest month place.rest_le month_eq
  have started := place.day_of_rest _ rfl
  rw [written, toDayNumber_ofMarch _ _ _ month_le, daysToMarch_cycle cycle _ place.yearIndex_lt]
  omega

theorem isValid_iff (d : Date) : d.isValid = true ↔
    1 ≤ d.month ∧ d.month ≤ 12 ∧ 1 ≤ d.day ∧ d.day ≤ daysInMonth d.year d.month := by
  unfold isValid
  exact decide_eq_true_iff

theorem day_le_of_isValid (d : Date) (valid : d.isValid = true) : d.day ≤ 31 := by
  have day_le := ((isValid_iff d).mp valid).2.2.2
  unfold daysInMonth at day_le
  grind

theorem isValid_ofMarch (year : Int) (rest month : Nat) (rest_le : rest ≤ 365)
    (month_eq : month = (5 * rest + 2) / 153)
    (leap : rest = 365 → isLeapYear (year + 1) = true) :
    (ofMarch year month (rest - (153 * month + 2) / 5 + 1)).isValid = true := by
  obtain ⟨month_le, begun, ends⟩ := month_bounds rest month rest_le month_eq
  rw [isValid_iff]
  unfold ofMarch
  dsimp only
  refine ⟨by split <;> omega, by split <;> omega, Nat.le_add_left 1 _, ?_⟩
  -- Only February, the last month, takes its length from the year.
  by_cases february : month = 11
  · subst february
    change _ ≤ (if isLeapYear (year + 1) then 29 else 28)
    by_cases longYear : rest = 365
    · rw [if_pos (leap longYear)]
      omega
    · split <;> omega
  · have length : daysInMonth (if month < 10 then year else year + 1)
        (if month < 10 then month + 3 else month - 9) =
        if month = 1 ∨ month = 3 ∨ month = 6 ∨ month = 8 then 30 else 31 := by
      unfold daysInMonth
      grind
    rw [length]
    split <;> omega

theorem isValid_ofDayNumber (number : Int) : (ofDayNumber number).isValid = true := by
  obtain ⟨cycle, day, century, group, year, rest, month, place, -, month_eq, written⟩ :=
    ofDayNumber_eq number
  rw [written]
  exact isValid_ofMarch _ rest month place.rest_le month_eq (place.leap cycle)

/-- The number of the first day of a year. -/
def newYear (year : Int) : Int :=
  daysToMarch (year - 1) + 306 - epochDay

theorem newYear_mono (year later : Int) (before : year ≤ later) :
    newYear year ≤ newYear later := by
  unfold newYear daysToMarch
  omega

/-- A valid date lies between the first days of its year and of the next. -/
theorem newYear_bounds (d : Date) (valid : d.isValid = true) :
    newYear d.year ≤ d.toDayNumber ∧ d.toDayNumber < newYear (d.year + 1) := by
  obtain ⟨month_pos, month_le, day_pos, -⟩ := (isValid_iff d).mp valid
  have inMonth := d.day_le_of_isValid valid
  have length : daysToMarch (d.year - 1) + 365 ≤ daysToMarch d.year := by
    unfold daysToMarch
    omega
  rw [toDayNumber_eq d]
  unfold newYear
  rw [Int.add_sub_cancel]
  by_cases early : d.month ≤ 2
  · rw [if_pos early]
    omega
  · rw [if_neg early]
    omega

theorem year_between (d : Date) (first last : Int) (valid : d.isValid = true)
    (after : newYear first ≤ d.toDayNumber) (before : d.toDayNumber < newYear (last + 1)) :
    first ≤ d.year ∧ d.year ≤ last := by
  obtain ⟨starts, ends⟩ := newYear_bounds d valid
  refine ⟨Int.not_lt.mp fun earlier => ?_, Int.not_lt.mp fun later => ?_⟩
  · have order := newYear_mono (d.year + 1) first earlier
    omega
  · have order := newYear_mono (last + 1) d.year later
    omega

end Date

theorem firstSecond_eq : firstSecond = Date.newYear firstYear * secondsPerDay := by
  decide

theorem lastSecond_eq : lastSecond + 1 = Date.newYear (lastYear + 1) * secondsPerDay := by
  decide

namespace Instant

theorem isValid_date (t : Instant) : t.date.isValid = true :=
  Date.isValid_ofDayNumber _

theorem toDayNumber_date (t : Instant) : t.date.toDayNumber = t.second / secondsPerDay :=
  Date.toDayNumber_ofDayNumber _

theorem year_date (t : Instant) : firstYear ≤ t.date.year ∧ t.date.year ≤ lastYear := by
  have begins := t.firstSecond_le
  have ends := t.le_lastSecond
  have lastDay := lastSecond_eq
  rw [firstSecond_eq] at begins
  unfold secondsPerDay at begins lastDay
  refine Date.year_between t.date firstYear lastYear t.isValid_date ?_ ?_
  · rw [toDayNumber_date, secondsPerDay]
    omega
  · rw [toDayNumber_date, secondsPerDay]
    omega

theorem secondOfDay_lt (t : Instant) : t.secondOfDay < 86400 := by
  unfold secondOfDay secondsPerDay
  omega

theorem ofSecond?_date (t : Instant) :
    ofSecond? (t.date.toDayNumber * secondsPerDay + t.secondOfDay) t.nano = some t := by
  have second : t.date.toDayNumber * secondsPerDay + t.secondOfDay = t.second := by
    rw [toDayNumber_date]
    unfold secondOfDay secondsPerDay
    omega
  rw [second]
  unfold ofSecond?
  rw [dif_pos ⟨t.firstSecond_le, t.le_lastSecond, t.nano_lt, t.leap_at_end⟩]

end Instant

end TypedSelect.Time
