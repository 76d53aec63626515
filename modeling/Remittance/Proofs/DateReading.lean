import Remittance.Proofs.Decision

/-!
# Dates in a sentence

The dates that are accepted are the days of the calendar, and a text that is none is told of
its first wrong part: its form, then the month, then the day of any month, then once more its
form when this month, or the year, has no such day (`ofText_diagnoses`). Accepted dates are
compared as texts. That is the order of their years, months and days, and so a payment waits
exactly until its day (`accepted_dates_ordered`).
-/

namespace Remittance

namespace Calendar

/-- The lengths of the twelve months. February has one day more in every fourth year, but of
the centuries only in every fourth. -/
def monthLengths (year : Nat) : List Nat :=
  [31, if 4 ∣ year ∧ (¬ 100 ∣ year ∨ 400 ∣ year) then 29 else 28,
    31, 30, 31, 30, 31, 31, 30, 31, 30, 31]

def monthLength (year month : Nat) : Nat :=
  (monthLengths year).getD (month - 1) 0

theorem isLeap_iff {year : Nat} :
    isLeap year = true ↔ 4 ∣ year ∧ (¬ 100 ∣ year ∨ 400 ∣ year) := by
  simp only [isLeap, Bool.and_eq_true, Bool.or_eq_true, decide_eq_true_eq,
    Nat.dvd_iff_mod_eq_zero, ne_eq]

theorem daysInMonth_eq_monthLength (year : Nat) {month : Nat} (hlow : 1 ≤ month)
    (hhigh : month ≤ 12) : daysInMonth year month = monthLength year month := by
  interval_cases month <;> simp [daysInMonth, monthLength, monthLengths, isLeap_iff]

theorem isDate_iff {year month day : Nat} :
    IsDate year month day ↔ 1 ≤ year ∧ year ≤ 9999 ∧ 1 ≤ month ∧ month ≤ 12 ∧
      1 ≤ day ∧ day ≤ monthLength year month := by
  unfold IsDate
  refine and_congr_right fun _ => and_congr_right fun _ => ?_
  refine and_congr_right fun hlow => and_congr_right fun hhigh => ?_
  rw [daysInMonth_eq_monthLength year hlow hhigh]

end Calendar

namespace Date

open Calendar

/-! ## The diagnosis of a text -/

/-- The text is no date, and the customer is told the message. -/
def Refused (s : String) (message : String) : Prop :=
  ∃ fault, ofText s = .error fault ∧ fault.message = message

theorem Fault.message_injective {a b : Fault} (h : a.message = b.message) : a = b := by
  revert h
  cases a <;> cases b <;> simp [Fault.message]

theorem refused_message_iff {s : String} {fault : Fault} :
    Refused s fault.message ↔ ofText s = .error fault := by
  constructor
  · rintro ⟨other, h, hmessage⟩
    rwa [← Fault.message_injective hmessage]
  · intro h
    exact ⟨fault, h, rfl⟩

section

variable {s : String} {year month day : Nat}

theorem HasParts.unique {year' month' day' : Nat} (h : HasParts s year month day)
    (h' : HasParts s year' month' day') : year = year' ∧ month = month' ∧ day = day' := by
  obtain ⟨y, m, d, hs, hy, hm, hd⟩ := h
  obtain ⟨y', m', d', hs', hy', hm', hd'⟩ := h'
  obtain ⟨hyear, hmonth, hday⟩ := parts_form hy.length hm.length hd.length
  obtain ⟨hyear', hmonth', hday'⟩ := parts_form hy'.length hm'.length hd'.length
  rw [← hs] at hyear hmonth hday
  rw [← hs'] at hyear' hmonth' hday'
  refine ⟨?_, ?_, ?_⟩
  · rw [← hy.value, ← hyear, hyear', hy'.value]
  · rw [← hm.value, ← hmonth, hmonth', hm'.value]
  · rw [← hd.value, ← hday, hday', hd'.value]

/-- What holds of some numbers of a text holds of its numbers. -/
theorem HasParts.exists_iff (h : HasParts s year month day) (p : Nat → Nat → Nat → Prop) :
    (∃ year month day, HasParts s year month day ∧ p year month day) ↔ p year month day := by
  constructor
  · rintro ⟨year', month', day', h', hp⟩
    obtain ⟨rfl, rfl, rfl⟩ := h.unique h'
    exact hp
  · intro hp
    exact ⟨year, month, day, h, hp⟩

theorem HasParts.isDate_iff (h : HasParts s year month day) (hmonth : 1 ≤ month ∧ month ≤ 12)
    (hday : 1 ≤ day) : IsDate year month day ↔ ¬ (year = 0 ∨ monthLength year month < day) := by
  obtain ⟨y, _, _, _, hy, _⟩ := h
  have hyear : year < 10 ^ 4 := hy.lt
  rw [Calendar.isDate_iff]
  omega

end

section

variable {s : String}

/-- A wrong month or day is found on the numbers of a text. -/
theorem ofText_eq_error_iff {fault : Fault} {p : Nat → Nat → Nat → Prop} (hfault : fault ≠ .format)
    (hparts : ∀ year month day, HasParts s year month day →
      (ofText s = .error fault ↔ p year month day)) :
    ofText s = .error fault ↔ ∃ year month day, HasParts s year month day ∧ p year month day := by
  by_cases h : ∃ year month day, HasParts s year month day
  · obtain ⟨year, month, day, h⟩ := h
    rw [h.exists_iff p]
    exact hparts year month day h
  · refine iff_of_false ?_ ?_
    · rw [ofText_of_not_hasParts h]
      exact fun herror => hfault (Except.error.inj herror).symm
    · rintro ⟨year, month, day, hnumbers, _⟩
      exact h ⟨year, month, day, hnumbers⟩

theorem ofText_eq_month_iff :
    ofText s = .error .month ↔
      ∃ year month day, HasParts s year month day ∧ ¬ (1 ≤ month ∧ month ≤ 12) := by
  refine ofText_eq_error_iff (by simp) fun year month day h => ?_
  rw [ofText_of_hasParts h]
  split_ifs with hmonth
  · exact iff_of_false (by simp) (not_not_intro hmonth)
  · exact iff_of_false (by simp) (not_not_intro hmonth)
  · exact iff_of_false (by simp) (not_not_intro hmonth)
  · exact iff_of_true rfl hmonth

theorem ofText_eq_day_iff :
    ofText s = .error .day ↔
      ∃ year month day, HasParts s year month day ∧ (1 ≤ month ∧ month ≤ 12) ∧
        ¬ (1 ≤ day ∧ day ≤ 31) := by
  refine ofText_eq_error_iff (by simp) fun year month day h => ?_
  rw [ofText_of_hasParts h]
  split_ifs with hmonth hday
  · exact iff_of_false (by simp) fun hp => hp.2 hday
  · exact iff_of_false (by simp) fun hp => hp.2 hday
  · exact iff_of_true rfl ⟨hmonth, hday⟩
  · exact iff_of_false (by simp) fun hp => hmonth hp.1

/-- The form is at fault once more when the month, or the year, has no such day. -/
theorem ofText_eq_format_iff :
    ofText s = .error .format ↔
      (¬ ∃ year month day, HasParts s year month day) ∨
      ∃ year month day, HasParts s year month day ∧ (1 ≤ month ∧ month ≤ 12) ∧
        (1 ≤ day ∧ day ≤ 31) ∧ (year = 0 ∨ monthLength year month < day) := by
  by_cases h : ∃ year month day, HasParts s year month day
  · rw [or_iff_right (not_not_intro h)]
    obtain ⟨year, month, day, h⟩ := h
    rw [h.exists_iff (fun year month day => (1 ≤ month ∧ month ≤ 12) ∧
      (1 ≤ day ∧ day ≤ 31) ∧ (year = 0 ∨ monthLength year month < day)), ofText_of_hasParts h]
    split_ifs with hmonth hday hdate
    · exact iff_of_false (by simp) fun hp => (h.isDate_iff hmonth hday.1).mp hdate hp.2.2
    · rw [h.isDate_iff hmonth hday.1, not_not] at hdate
      exact iff_of_true rfl ⟨hmonth, hday, hdate⟩
    · exact iff_of_false (by simp) fun hp => hday hp.2.1
    · exact iff_of_false (by simp) fun hp => hmonth hp.1
  · rw [ofText_of_not_hasParts h]
    exact iff_of_true rfl (Or.inl h)

example : ofText "1900-02-29" = .error .format := by decide

/-- The texts that read as a date are the days of the calendar in their written form, and
each reads as itself. Any other text is told of its first wrong part. -/
theorem ofText_diagnoses (s : String) :
    (∀ d : Date, ofText s = .ok d ↔ HasParts s d.year d.month d.day) ∧
    ((∃ d, ofText s = .ok d) ↔
      ∃ year month day, HasParts s year month day ∧ 1 ≤ year ∧ year ≤ 9999 ∧
        1 ≤ month ∧ month ≤ 12 ∧ 1 ≤ day ∧ day ≤ monthLength year month) ∧
    (Refused s "Invalid month, month must be between 1 and 12 in YYYY-MM-DD" ↔
      ∃ year month day, HasParts s year month day ∧ ¬ (1 ≤ month ∧ month ≤ 12)) ∧
    (Refused s "Invalid day, day cannot be greater than 31 in YYYY-MM-DD" ↔
      ∃ year month day, HasParts s year month day ∧ (1 ≤ month ∧ month ≤ 12) ∧
        ¬ (1 ≤ day ∧ day ≤ 31)) ∧
    (Refused s "Invalid date format: date format is YYYY-MM-DD" ↔
      (¬ ∃ year month day, HasParts s year month day) ∨
      ∃ year month day, HasParts s year month day ∧ (1 ≤ month ∧ month ≤ 12) ∧
        (1 ≤ day ∧ day ≤ 31) ∧ (year = 0 ∨ monthLength year month < day)) := by
  refine ⟨fun d => ofText_eq_ok_iff_hasParts, ?_, ?_, ?_, ?_⟩
  · constructor
    · rintro ⟨d, hd⟩
      exact ⟨_, _, _, ofText_eq_ok_iff_hasParts.mp hd, Calendar.isDate_iff.mp d.isDate⟩
    · rintro ⟨year, month, day, hparts, hdate⟩
      exact ⟨⟨year, month, day, Calendar.isDate_iff.mpr hdate⟩,
        ofText_eq_ok_iff_hasParts.mpr hparts⟩
  · exact refused_message_iff.trans ofText_eq_month_iff
  · exact refused_message_iff.trans ofText_eq_day_iff
  · exact refused_message_iff.trans ofText_eq_format_iff

end

/-! ## The order of dates -/

/-- Years count first, then months, then days. -/
def parts (d : Date) : ℕ ×ₗ ℕ ×ₗ ℕ :=
  toLex (d.year, toLex (d.month, d.day))

theorem lt_iff_parts_lt {a b : Date} : a < b ↔ a.parts < b.parts := by
  rw [parts, parts, Prod.Lex.toLex_lt_toLex, Prod.Lex.toLex_lt_toLex]
  rfl

theorem parts_inj {a b : Date} : a.parts = b.parts ↔ a = b := by
  constructor
  · intro h
    obtain ⟨year, month, day, _⟩ := a
    obtain ⟨year', month', day', _⟩ := b
    obtain ⟨rfl, hrest⟩ := Prod.mk.inj (toLex_inj.mp h)
    obtain ⟨rfl, rfl⟩ := Prod.mk.inj (toLex_inj.mp hrest)
    rfl
  · rintro rfl
    rfl

end Date

namespace Timing

theorem status_eq_pending_iff {timing : Timing} : timing.status = .pending ↔ timing = .later := by
  cases timing <;> decide

theorem status_eq_successful_iff {timing : Timing} :
    timing.status = .successful ↔ ¬ timing = .later := by
  cases timing <;> decide

theorem ofDate_text_eq_later_iff {d today : Date} :
    ofDate (some d.text) today = .later ↔ today.parts < d.parts := by
  rw [← Date.lt_iff_parts_lt]
  refine (@ofDate_eq_later_iff (some d) today).trans ?_
  simp

end Timing

/-- An accepted text writes a date, and of two such texts the later date is the greater text.
So on any day a payment is pending exactly when the written date lies ahead, and else it
takes place. -/
theorem accepted_dates_ordered (s : String) (d : Date) (h : Date.ofText s = .ok d) :
    Date.HasParts s d.year d.month d.day ∧
    (∀ today, ((Timing.ofDate (some s) today).status = .pending ↔ today.parts < d.parts) ∧
      ((Timing.ofDate (some s) today).status = .successful ↔ ¬ today.parts < d.parts)) ∧
    ∀ s' d', Date.ofText s' = .ok d' →
      (s' < s ↔ d'.parts < d.parts) ∧ (s' = s ↔ d'.parts = d.parts) := by
  have hparts := Date.ofText_eq_ok_iff_hasParts.mp h
  obtain rfl := Date.ofText_eq_ok_iff.mp h
  refine ⟨hparts, ?_, ?_⟩
  · intro today
    rw [Timing.status_eq_pending_iff, Timing.status_eq_successful_iff,
      Timing.ofDate_text_eq_later_iff]
    exact ⟨Iff.rfl, Iff.rfl⟩
  · intro s' d' h'
    obtain rfl := Date.ofText_eq_ok_iff.mp h'
    rw [Date.text_lt_text_iff, Date.lt_iff_parts_lt, Date.parts_inj]
    refine ⟨Iff.rfl, ?_, ?_⟩
    · intro htext
      rw [htext, h] at h'
      exact (Except.ok.inj h').symm
    · rintro rfl
      rfl

/-- The leap day of a year divisible by four hundred lies ahead on the last day of the year
before, not on the day itself, and its text comes before the first of March. -/
theorem accepted_dates_ordered_leapDay :
    Date.ofText "2000-02-29" = .ok ⟨2000, 2, 29, by decide⟩ ∧
    Date.HasParts "2000-02-29" 2000 2 29 ∧
    (Timing.ofDate (some "2000-02-29") ⟨1999, 12, 31, by decide⟩).status = .pending ∧
    (Timing.ofDate (some "2000-02-29") ⟨2000, 2, 29, by decide⟩).status = .successful ∧
    ("2000-02-29" : String) < "2000-03-01" := by
  have hread : Date.ofText "2000-02-29" = .ok ⟨2000, 2, 29, by decide⟩ := by decide
  have hlater : Date.ofText "2000-03-01" = .ok ⟨2000, 3, 1, by decide⟩ := by decide
  obtain ⟨hparts, hstatus, _⟩ := accepted_dates_ordered _ _ hread
  obtain ⟨_, _, horder⟩ := accepted_dates_ordered _ _ hlater
  exact ⟨hread, hparts, (hstatus _).1.mpr (by decide), (hstatus _).2.mpr (by decide),
    (horder _ _ hread).1.mpr (by decide)⟩

end Remittance
