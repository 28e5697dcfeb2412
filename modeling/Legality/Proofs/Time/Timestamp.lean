import Legality.Proofs.Text.Basic
import Legality.Proofs.Time.Instant
import Legality.Time.Timestamp
import Mathlib.Data.List.TakeWhile

/-!
Timestamps survive being read: each part is read from the text that it was written as, up to the first character of
the next part, and together they make the instant that was written.
-/
namespace Legality.Timestamp

open Text

theorem toList_padded (width n : Nat) : (padded width n).toList =
    List.replicate (width - (Nat.toDigits 10 n).length) '0' ++ Nat.toDigits 10 n := by
  rw [padded, String.toList_append, String.toList_ofList, ← String.length_toList, toList_toString]

theorem readDigits?_padded (width n : Nat) : readDigits? (padded width n).toList = some n := by
  rw [toList_padded, readDigits?_toDigits]

theorem isDigit_of_mem_padded {width n : Nat} {c : Char} (member : c ∈ (padded width n).toList) : c.isDigit = true := by
  rw [toList_padded] at member
  rcases List.mem_append.mp member with zero | digit
  · obtain rfl := List.eq_of_mem_replicate zero
    rfl
  · exact Nat.isDigit_of_mem_toDigits (by decide) (by decide) digit

theorem length_padded {width n : Nat} (wide : 0 < width) (short : n < 10 ^ width) :
    (padded width n).toList.length = width := by
  have fits : (Nat.toDigits 10 n).length ≤ width := (Nat.length_toDigits_le_iff (by decide) wide).mpr short
  rw [toList_padded, List.length_append, List.length_replicate, Nat.sub_add_cancel fits]

theorem padded_eq_cons (width n : Nat) :
    ∃ first rest, (padded width n).toList = first :: rest ∧ first.isDigit = true := by
  cases digits : (padded width n).toList with
  | nil =>
    have read := readDigits?_padded width n
    rw [digits, readDigits?] at read
    exact absurd read.symm (Option.some_ne_none n)
  | cons first rest =>
    have member : first ∈ (padded width n).toList := by
      rw [digits]
      exact List.mem_cons_self
    exact ⟨first, rest, rfl, isDigit_of_mem_padded member⟩

theorem number?_of_takeWhile {width n : Nat} {digits rest : List Char} (read : readDigits? digits = some n)
    (taken : ((digits ++ rest).take width).takeWhile Char.isDigit = digits) :
    number? width (digits ++ rest) = some (n, rest) := by
  simp only [number?, taken, read, Option.map_some, List.drop_left]

theorem number?_padded {width n : Nat} (rest : List Char) (wide : 0 < width) (short : n < 10 ^ width) :
    number? width ((padded width n).toList ++ rest) = some (n, rest) := by
  refine number?_of_takeWhile (readDigits?_padded width n) ?_
  rw [List.take_left' (length_padded wide short)]
  exact List.takeWhile_eq_self_iff.mpr fun c => isDigit_of_mem_padded

theorem number?_padded_cons {bound width n : Nat} (fits : (padded width n).toList.length ≤ bound) {stop : Char}
    (solid : stop.isDigit = false) (rest : List Char) :
    number? bound ((padded width n).toList ++ stop :: rest) = some (n, stop :: rest) := by
  refine number?_of_takeWhile (readDigits?_padded width n) ?_
  -- The bound may leave room for more, but what comes next is no digit.
  have stops (room : Nat) : ((stop :: rest).take room).takeWhile Char.isDigit = [] := by
    cases room with
    | zero => rfl
    | succ room =>
      rw [List.take_succ_cons, List.takeWhile_cons_of_neg]
      rw [solid]
      decide
  rw [List.take_append, List.take_of_length_le fits, List.takeWhile_append_of_pos fun c => isDigit_of_mem_padded, stops,
    List.append_nil]

theorem skipBlanks_padded (width n : Nat) (rest : List Char) :
    skipBlanks ((padded width n).toList ++ rest) = (padded width n).toList ++ rest := by
  obtain ⟨first, more, digits, digit⟩ := padded_eq_cons width n
  rw [digits, List.cons_append, skipBlanks, List.dropWhile_cons_of_neg]
  rw [not_isBlank_of_isDigit digit]
  decide

theorem field?_padded {n : Nat} (rest : List Char) (short : n < 100) :
    field? ((padded 2 n).toList ++ rest) = some (n, rest) := by
  rw [field?, skipBlanks_padded, number?_padded rest (by decide) short]

theorem year?_minus (rest : List Char) :
    year? ('-' :: rest) = (number? rest.length rest).map fun read => (-(read.1 : Int), read.2) := rfl

theorem year?_plus (rest : List Char) :
    year? ('+' :: rest) = (number? rest.length rest).map fun read => ((read.1 : Int), read.2) := rfl

theorem year?_yearText (year : Int) (rest : List Char) :
    year? ((yearText year).toList ++ '-' :: rest) = some (year, '-' :: rest) := by
  rw [yearText]
  split
  next common =>
    have short : year.toNat < 10 ^ 4 := by omega
    obtain ⟨first, more, digits, digit⟩ := padded_eq_cons 4 year.toNat
    rw [year?, skipBlanks_padded]
    split
    next minus =>
      rw [digits] at minus
      obtain rfl := (List.cons.inj minus).1
      exact absurd digit (by decide)
    next plus =>
      rw [digits] at plus
      obtain rfl := (List.cons.inj plus).1
      exact absurd digit (by decide)
    next =>
      rw [number?_padded _ (by decide) short, Option.map_some]
      exact congrArg (fun year => some (year, '-' :: rest)) (Int.toNat_of_nonneg common.1)
  next long =>
    split
    next negative =>
      have unsigned : -(year.natAbs : Int) = year := by omega
      have signed : ("-" ++ padded 4 year.natAbs).toList = '-' :: (padded 4 year.natAbs).toList := by simp
      rw [signed, List.cons_append, year?_minus, number?_padded_cons (by simp) rfl, Option.map_some, unsigned]
    next positive =>
      have unsigned : (year.natAbs : Int) = year := by omega
      have signed : ("+" ++ padded 4 year.natAbs).toList = '+' :: (padded 4 year.natAbs).toList := by simp
      rw [signed, List.cons_append, year?_plus, number?_padded_cons (by simp) rfl, Option.map_some, unsigned]

theorem fraction?_point (rest : List Char) :
    fraction? ('.' :: rest) = (number? 9 rest).map fun read =>
      (read.1 * 10 ^ (9 - (rest.length - read.2.length)), read.2.dropWhile Char.isDigit) := by
  rw [fraction?]
  cases number? 9 rest <;> rfl

theorem fraction?_padded {width n : Nat} (wide : 0 < width) (narrow : width ≤ 9) (short : n < 10 ^ width)
    (rest : List Char) :
    fraction? (("." ++ padded width n).toList ++ 'Z' :: rest) = some (n * 10 ^ (9 - width), 'Z' :: rest) := by
  have length := length_padded wide short
  have pointed : ("." ++ padded width n).toList = '.' :: (padded width n).toList := by simp
  have digits : ((padded width n).toList ++ 'Z' :: rest).length - ('Z' :: rest).length = width := by
    rw [List.length_append, Nat.add_sub_cancel, length]
  have ended : ('Z' :: rest).dropWhile Char.isDigit = 'Z' :: rest := rfl
  rw [pointed, List.cons_append, fraction?_point, number?_padded_cons (length.trans_le narrow) rfl, Option.map_some,
    digits, ended]

theorem fraction?_fractionText {nanos : Nat} (short : nanos < Instant.nanosPerSecond) (rest : List Char) :
    fraction? ((fractionText nanos).toList ++ 'Z' :: rest) = some (nanos, 'Z' :: rest) := by
  rw [Instant.nanosPerSecond] at short
  rw [fractionText]
  split
  next whole =>
    rw [whole]
    rfl
  next broken =>
    split
    next millis =>
      have undone : nanos / 1000000 * 10 ^ (9 - 3) = nanos := Nat.div_mul_cancel (Nat.dvd_of_mod_eq_zero millis)
      rw [fraction?_padded (by decide) (by decide) (by omega), undone]
    next finer =>
      split
      next micros =>
        have undone : nanos / 1000 * 10 ^ (9 - 6) = nanos := Nat.div_mul_cancel (Nat.dvd_of_mod_eq_zero micros)
        rw [fraction?_padded (by decide) (by decide) (by omega), undone]
      next finest => rw [fraction?_padded (by decide) (by decide) short, Nat.sub_self, Nat.pow_zero, Nat.mul_one]

/-- An instant that timestamps can tell: it lies in the calendar, and only the last second of a minute is long enough
for a leap second. -/
structure Representable (instant : Instant) : Prop where
  inCalendar : inCalendar instant = true
  nanos : instant.nanos < Instant.nanosPerSecond ∨
    instant.nanos < 2 * Instant.nanosPerSecond ∧ instant.seconds % 60 = 59

theorem day_bounds {instant : Instant} (inside : Timestamp.inCalendar instant = true) :
    Instant.dayNumber leastYear 1 1 ≤ instant.seconds.fdiv Instant.secondsPerDay ∧
      instant.seconds.fdiv Instant.secondsPerDay < Instant.dayNumber (greatestYear + 1) 1 1 := by
  obtain ⟨start, stop⟩ := Bool.and_eq_true_iff.mp inside
  have start := of_decide_eq_true start
  have stop := of_decide_eq_true stop
  have positive : (0 : Int) < Instant.secondsPerDay := by decide
  rw [Int.fdiv_eq_ediv_of_nonneg _ positive.le]
  exact ⟨(Int.le_ediv_iff_mul_le positive).mpr start, (Int.ediv_lt_iff_lt_mul positive).mpr stop⟩

theorem secondOfDay_eq (seconds : Int) :
    let second := (seconds - seconds.fdiv Instant.secondsPerDay * Instant.secondsPerDay).toNat
    second < 86400 ∧ seconds = seconds.fdiv Instant.secondsPerDay * 86400 + second := by
  have whole : seconds.fdiv Instant.secondsPerDay = seconds / 86400 := Int.fdiv_eq_ediv_of_nonneg _ (by decide)
  rw [whole, Instant.secondsPerDay]
  omega

theorem instant?_parts {instant : Instant} (representable : Representable instant) :
    let day := Int.fdiv instant.seconds Instant.secondsPerDay
    let second := (instant.seconds - day * Instant.secondsPerDay).toNat
    let leap := if Instant.nanosPerSecond ≤ instant.nanos then 1 else 0
    instant? (Instant.dateOfDay day).1 (Instant.dateOfDay day).2.1 (Instant.dateOfDay day).2.2 (second / 3600)
      (second / 60 % 60) (second % 60 + leap) (instant.nanos % Instant.nanosPerSecond) 0 = some instant := by
  obtain ⟨inside, fine⟩ := representable
  intro day second leap
  have date := Instant.isDate_dateOfDay day
  have years := Instant.dateOfDay_year_bounds (day_bounds inside).1 (day_bounds inside).2
  obtain ⟨daytime, whole⟩ : second < 86400 ∧ instant.seconds = day * 86400 + second :=
    secondOfDay_eq instant.seconds
  have leapIs : instant.nanos < 1000000000 ∧ leap = 0 ∨
      1000000000 ≤ instant.nanos ∧ instant.nanos < 2000000000 ∧ leap = 1 ∧ second % 60 = 59 := by
    by_cases long : Instant.nanosPerSecond ≤ instant.nanos
    · have one : leap = 1 := if_pos long
      rw [Instant.nanosPerSecond] at fine long
      omega
    · have zero : leap = 0 := if_neg long
      rw [Instant.nanosPerSecond] at long
      omega
  generalize leap = leap at leapIs ⊢
  have leapSecond : (if second % 60 + leap = 60 then 1 else 0) = leap := by
    split <;> omega
  have seconds : day * Instant.secondsPerDay + (((second / 3600 : Nat) : Int) * 3600 +
      ((second / 60 % 60 : Nat) : Int) * 60 + (second % 60 + leap - leap : Nat)) - 0 = instant.seconds := by
    rw [Instant.secondsPerDay]
    omega
  have nanos : instant.nanos % Instant.nanosPerSecond + leap * Instant.nanosPerSecond = instant.nanos := by
    rw [Instant.nanosPerSecond]
    omega
  rw [instant?, if_pos ⟨years.1, years.2, date.month_bounds.1, date.month_bounds.2, date.day_bounds.1,
    date.day_bounds.2, by omega, by omega, by omega, by decide⟩]
  simp only [leapSecond, date.number_eq, seconds, nanos, inside, if_true]

theorem next_part {α β : Type} {part : Option α} {found : α} {rest : α → Option β} {result : Option β}
    (here : part = some found) (later : rest found = result) : part >>= rest = result := by
  rw [here]
  exact later

theorem read?_parts (year : Int) {month day hour minute second nanos : Nat} (shortMonth : month < 100)
    (shortDay : day < 100) (shortHour : hour < 100) (shortMinute : minute < 100) (shortSecond : second < 100)
    (shortNanos : nanos < Instant.nanosPerSecond) :
    read? (yearText year ++ "-" ++ padded 2 month ++ "-" ++ padded 2 day ++ "T" ++ padded 2 hour ++ ":" ++
      padded 2 minute ++ ":" ++ padded 2 second ++ fractionText nanos ++ "Z") =
      instant? year month day hour minute second nanos 0 := by
  rw [read?]
  simp only [String.toList_append, String.reduceToList, List.append_assoc, List.cons_append, List.nil_append]
  refine next_part (year?_yearText year _) ?_
  refine next_part rfl (next_part (field?_padded _ shortMonth) ?_)
  refine next_part rfl (next_part (field?_padded _ shortDay) ?_)
  refine next_part rfl (next_part (field?_padded _ shortHour) ?_)
  refine next_part rfl (next_part (field?_padded _ shortMinute) ?_)
  refine next_part rfl (next_part (field?_padded _ shortSecond) ?_)
  refine next_part (fraction?_fractionText shortNanos []) (next_part rfl ?_)
  rfl

/-- A timestamp is read as the instant that it was written from. -/
theorem read?_print {instant : Instant} (representable : Representable instant) :
    read? (print instant) = some instant := by
  let day := instant.seconds.fdiv Instant.secondsPerDay
  let second := (instant.seconds - day * Instant.secondsPerDay).toNat
  let leap := if Instant.nanosPerSecond ≤ instant.nanos then 1 else 0
  have date := Instant.isDate_dateOfDay day
  have shortMonth : (Instant.dateOfDay day).2.1 < 100 := date.month_bounds.2.trans_lt (by decide)
  have shortDay : (Instant.dateOfDay day).2.2 < 100 :=
    (date.day_bounds.2.trans (Instant.daysInMonth_le _ _)).trans_lt (by decide)
  have daytime : second < 86400 := (secondOfDay_eq instant.seconds).1
  have shortLeap : leap ≤ 1 := by
    simp only [leap]
    split <;> decide
  have shortHour : second / 3600 < 100 := by omega
  have shortMinute : second / 60 % 60 < 100 := by omega
  have shortSecond : second % 60 + leap < 100 := by omega
  have shortNanos : instant.nanos % Instant.nanosPerSecond < Instant.nanosPerSecond := Nat.mod_lt _ (by decide)
  exact (read?_parts _ shortMonth shortDay shortHour shortMinute shortSecond shortNanos).trans
    (instant?_parts representable)

end Legality.Timestamp
