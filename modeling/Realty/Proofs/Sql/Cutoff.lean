/-
# Dates that lie so many days back

* `toOrdinal_bounds`: the number of a date lies between those of the first and the last day.
* `cutoff_isOk_iff`: the date so many days before a date exists exactly when its number is that of a
  day.  The bounds on a span of days are wider than the calendar and refuse nothing else.
-/
import Realty.Sql.Condition

namespace Realty

namespace Date

/-! ## 1. The numbers of the days -/

theorem monthLength_congr {year year' : Nat} (h : isLeap year = isLeap year') :
    monthLength year = monthLength year' := by
  funext month
  unfold monthLength
  rw [h]

theorem daysBeforeMonth_congr {year year' : Nat} (h : isLeap year = isLeap year') (month : Nat) :
    daysBeforeMonth year month = daysBeforeMonth year' month := by
  rw [daysBeforeMonth, daysBeforeMonth, monthLength_congr h]

/-- The days up to the end of a month are days of the year, of which a long one has 366. -/
theorem daysBeforeMonth_add_le {year month : Nat} (h : month ≤ 12) :
    daysBeforeMonth year month + monthLength year month ≤ 365 + (isLeap year).toNat := by
  have hlong : ∀ m ≤ 12, daysBeforeMonth 4 m + monthLength 4 m ≤ 366 := by decide
  have hshort : ∀ m ≤ 12, daysBeforeMonth 1 m + monthLength 1 m ≤ 365 := by decide
  cases hleap : isLeap year with
  | true =>
    have hyear : isLeap year = isLeap 4 := hleap
    rw [daysBeforeMonth_congr hyear, monthLength_congr hyear]
    exact hlong month h
  | false =>
    have hyear : isLeap year = isLeap 1 := hleap
    rw [daysBeforeMonth_congr hyear, monthLength_congr hyear]
    exact hshort month h

/-- The last year is a short one and ends with the last day. -/
theorem daysBeforeYear_last : daysBeforeYear 9999 + 365 = maxOrdinal ∧ isLeap 9999 = false := by
  decide

/-- Every earlier year leaves a whole year until then. -/
theorem daysBeforeYear_le {year : Nat} (h : year ≤ 9998) :
    daysBeforeYear year + 366 ≤ maxOrdinal := by
  simp only [daysBeforeYear, maxOrdinal]
  omega

/-- **The number of a date lies between those of the first and the last day.** -/
theorem toOrdinal_bounds {d : Date} (h : d.isValid = true) :
    1 ≤ d.toOrdinal ∧ d.toOrdinal ≤ maxOrdinal := by
  simp only [isValid, Bool.and_eq_true, decide_eq_true_eq] at h
  obtain ⟨⟨⟨⟨⟨-, hyear⟩, -⟩, hmonth⟩, hfirst⟩, hday⟩ := h
  have hmonths : daysBeforeMonth d.year d.month + monthLength d.year d.month ≤
      365 + (isLeap d.year).toNat := daysBeforeMonth_add_le hmonth
  rw [toOrdinal]
  refine ⟨by omega, ?_⟩
  by_cases hlast : d.year = 9999
  · obtain ⟨hend, hshort⟩ := daysBeforeYear_last
    rw [hlast, hshort, Bool.toNat_false] at hmonths
    rw [hlast] at hday ⊢
    omega
  · have hyears := daysBeforeYear_le (show d.year ≤ 9998 by omega)
    have hleap := Bool.toNat_le (isLeap d.year)
    omega

theorem ofOrdinal?_isSome_iff {n : Int} :
    (ofOrdinal? n).isSome = true ↔ 1 ≤ n ∧ n ≤ maxOrdinal := by
  unfold ofOrdinal?
  split
  · next h => simpa using h
  · next h => simpa using h

end Date

namespace Sql

/-! ## 2. Cutoffs -/

/-- A number of days within the longest span is a span. -/
theorem spanOfDays_eq_ok {n : Int} (h : n.natAbs ≤ maxSpan) : spanOfDays n = .ok n := by
  have hmachine : ¬ (n < -0x80000000 || 0x80000000 ≤ n) = true := by
    simp only [maxSpan, Bool.or_eq_true, decide_eq_true_eq] at *
    omega
  rw [spanOfDays, if_neg hmachine, if_neg (Nat.not_lt.2 h)]

/-- No other number of days is one. -/
theorem spanOfDays_isOk_of_long {n : Int} (h : maxSpan < n.natAbs) :
    (spanOfDays n).isOk = false := by
  unfold spanOfDays
  split
  · rfl
  · rfl

/-- **The date so many days back exists exactly when its number is that of a day.** -/
theorem cutoff_isOk_iff {today : Date} (h : today.isValid = true) (n : Int) :
    (cutoff today (.int n)).isOk = true ↔
      1 ≤ today.toOrdinal - n ∧ today.toOrdinal - n ≤ Date.maxOrdinal := by
  obtain ⟨hfirst, hlast⟩ := Date.toOrdinal_bounds h
  by_cases hspan : n.natAbs ≤ maxSpan
  · have hdate : (cutoff today (.int n)).isOk = (today.addDays? (-n)).isSome := by
      rw [cutoff, span, spanOfDays_eq_ok hspan]
      simp only [bind, Except.bind]
      cases today.addDays? (-n) <;> rfl
    rw [hdate, Date.addDays?, Date.ofOrdinal?_isSome_iff, Int.sub_eq_add_neg]
  · have hfails : (cutoff today (.int n)).isOk = false := by
      have hlong := spanOfDays_isOk_of_long (Nat.not_le.1 hspan)
      rw [cutoff, span]
      cases hresult : spanOfDays n with
      | error e => rfl
      | ok m =>
        rw [hresult] at hlong
        cases hlong
    rw [hfails]
    simp only [maxSpan, Date.maxOrdinal, Bool.false_eq_true, false_iff] at *
    omega

end Sql

end Realty
