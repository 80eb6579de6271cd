import Almanac.Proofs.YearBound

/-!
# Almanac.Proofs.DayNumber

Day numbers in 64 bits.  A date that exists has a day number in unbounded integers, so the only way
in which `Date.dayNumber?` fails for it is that a number leaves the range
(`Date.dayNumber?_of_valid`).

The days of the whole eras are formed first, and the era of a day may end after the last day number:
the last days in range have dates without a day number (`Date.dayNumber?_ofDayNumber`).  There is no
such gap at the other end, because an era begins before its days.
-/

namespace Almanac

/-- The days of the whole eras before a day number: the number from the start of era 0, rounded down
to an era. -/
theorem EraDay.wholeEras_ofDayNumber (n : Int) :
    (ofDayNumber n).wholeEras = (n + 719468) / 146097 * 146097 := by
  simp only [wholeEras, ofDayNumber, daysPerEra, epochShift]
  omega

namespace Date

/-- The day of the era comes back from the date of a day number. -/
theorem ofDate_ofDayNumber (n : Int) : EraDay.ofDate (ofDayNumber n) = EraDay.ofDayNumber n :=
  EraDay.ofDate_toDate (EraDay.day_ofDayNumber_lt n)

/-- For a date that exists, only the range decides whether it has a day number. -/
theorem dayNumber?_of_valid {d : Date} (h : d.Valid) :
    d.dayNumber? =
      if FitsInt64 (EraDay.ofDate d).wholeEras ∧ FitsInt64 d.dayNumber then .ok d.dayNumber
      else .error (.outOfRange s!"day number of {d.text}") := by
  rw [dayNumber?, check_eq_ok_iff.2 h]
  rfl

/-- Rounding down to an era does not leave the range at its lower end. -/
theorem fitsInt64_wholeEras_iff {n : Int} (h : FitsInt64 n) :
    FitsInt64 ((n + 719468) / 146097 * 146097) ↔
      (n + 719468) / 146097 * 146097 ≤ 9223372036854775807 := by
  unfold FitsInt64 at *
  omega

/-- The date of a day number in range has that day number, unless the days of its whole eras leave
the range. -/
theorem dayNumber?_ofDayNumber {n : Int} (h : FitsInt64 n) :
    (ofDayNumber n).dayNumber? =
      if (n + 719468) / 146097 * 146097 ≤ 9223372036854775807 then .ok n
      else .error (.outOfRange s!"day number of {(ofDayNumber n).text}") := by
  have heras : FitsInt64 (EraDay.ofDate (ofDayNumber n)).wholeEras ↔
      (n + 719468) / 146097 * 146097 ≤ 9223372036854775807 := by
    rw [ofDate_ofDayNumber, EraDay.wholeEras_ofDayNumber, fitsInt64_wholeEras_iff h]
  rw [dayNumber?_of_valid (valid_ofDayNumber n), dayNumber_ofDayNumber]
  simp only [heras, h, and_true]

/-- A date with a day number is the date of it. -/
theorem ofDayNumber_of_dayNumber? {d : Date} {n : Int} (h : d.dayNumber? = .ok n) :
    ofDayNumber n = d := by
  obtain ⟨hvalid, -, hn⟩ := dayNumber?_eq_ok_iff.1 h
  rw [← hn, ofDayNumber_dayNumber hvalid]

/-- Day numbers and dates are inverse to each other.  The date of a day number in range has that day
number, unless the days of its whole eras leave the range, which is reported as such; and whatever
date has a day number is the date of it. -/
theorem dayNumber?_inverts_ofDayNumber :
    (∀ n : Int, FitsInt64 n → (ofDayNumber n).dayNumber? =
      if (n + 719468) / 146097 * 146097 ≤ 9223372036854775807 then .ok n
      else .error (.outOfRange s!"day number of {(ofDayNumber n).text}")) ∧
    ∀ (d : Date) (n : Int), d.dayNumber? = .ok n → FitsInt64 n ∧ ofDayNumber n = d := by
  refine ⟨fun n h => dayNumber?_ofDayNumber h, fun d n h => ?_⟩
  obtain ⟨-, ⟨-, hfits⟩, hn⟩ := dayNumber?_eq_ok_iff.1 h
  exact ⟨hn ▸ hfits, ofDayNumber_of_dayNumber? h⟩

/-- The last day in range has a date without a day number, and the leap day of 2000 comes back from
its own. -/
theorem dayNumber?_inverts_at_last_day :
    FitsInt64 9223372036854775807 ∧
      (ofDayNumber 9223372036854775807).dayNumber? =
        .error (.outOfRange "day number of 25252734927768524-07-27") ∧
      (⟨2000, 2, 29⟩ : Date).dayNumber? = .ok 11016 ∧
      FitsInt64 11016 ∧ ofDayNumber 11016 = ⟨2000, 2, 29⟩ := by
  have hlast : FitsInt64 9223372036854775807 := by decide
  have hleap : (⟨2000, 2, 29⟩ : Date).dayNumber? = .ok 11016 := by decide +kernel
  refine ⟨hlast, ?_, hleap, dayNumber?_inverts_ofDayNumber.2 _ _ hleap⟩
  rw [dayNumber?_inverts_ofDayNumber.1 _ hlast, if_neg (by decide)]
  decide +kernel

end Date

end Almanac
