import BridgeLedger.Proofs.Calendar
import Mathlib.Data.List.Lex

/-!
# Texts of instants

The text of an instant tells the instant: no two have one text (`Timestamp.text_eq_iff`). In the years 0 to 9999 the
texts, compared code point by code point, stand in the order of the instants (`Timestamp.text_precedes_iff`). There all
fields up to the seconds have a fixed width, and a fraction only adds to a text that would otherwise end.

Beyond those years the order is lost, as the year carries a sign and has any number of digits; but the year can still be
read back, and within one year the order holds as before.
-/

namespace BridgeLedger

/-! ## The order of code points -/

/-- Compared code point by code point, the first text comes before the second. -/
def Precedes (text later : List Char) : Prop := List.Lex (fun c d => c.toNat < d.toNat) text later

section
variable {text later : List Char} (h : Precedes text later)
include h

theorem Precedes.asymm : ¬ Precedes later text := by
  refine List.lex_asymm (fun {c d} hlt hgt => ?_) h
  omega

theorem Precedes.ne : text ≠ later := by
  rintro rfl
  exact h.asymm h

theorem Precedes.behind (start : List Char) : Precedes (start ++ text) (start ++ later) :=
  List.Lex.append_left _ h start

theorem Precedes.before (hlength : text.length = later.length) (rest rest' : List Char) :
    Precedes (text ++ rest) (later ++ rest') := by
  induction h with
  | nil => simp at hlength
  | cons _ ih => exact .cons (ih (by simpa using hlength))
  | rel hlt => exact .rel hlt

end

/-! ## Digits -/

theorem length_lastDigits (width n : Nat) : (lastDigits width n).length = width := by
  induction width generalizing n with
  | zero => rfl
  | succ width ih => simp [lastDigits, ih]

theorem lastDigits_mod (width n : Nat) : lastDigits width (n % 10 ^ width) = lastDigits width n := by
  induction width generalizing n with
  | zero => rfl
  | succ width ih =>
    have hlast : n % 10 ^ (width + 1) % 10 = n % 10 := Nat.mod_mod_of_dvd n ⟨10 ^ width, Nat.pow_succ'⟩
    have hrest : n % 10 ^ (width + 1) / 10 = n / 10 % 10 ^ width := by
      rw [Nat.pow_succ', Nat.mod_mul_right_div_self]
    rw [lastDigits, hlast, hrest, ih, lastDigits]

theorem lastDigits_add (width more n : Nat) :
    lastDigits (width + more) n = lastDigits width (n / 10 ^ more) ++ lastDigits more n := by
  induction more generalizing n with
  | zero => simp [lastDigits]
  | succ more ih =>
    rw [← Nat.add_assoc, lastDigits, ih, lastDigits, Nat.div_div_eq_div_mul, ← Nat.pow_succ', List.append_assoc]

theorem lastDigits_precedes {width m n : Nat} (h : m < n) (hn : n < 10 ^ width) :
    Precedes (lastDigits width m) (lastDigits width n) := by
  induction width generalizing m n with
  | zero => omega
  | succ width ih =>
    rw [Nat.pow_succ] at hn
    by_cases hlast : m / 10 = n / 10
    · rw [lastDigits, lastDigits, hlast]
      refine Precedes.behind (.rel ?_) _
      rw [Nat.toNat_digitChar_of_lt_ten (by omega), Nat.toNat_digitChar_of_lt_ten (by omega)]
      omega
    · refine (ih (by omega) (by omega)).before ?_ _ _
      rw [length_lastDigits, length_lastDigits]

/-- A field of fixed width comes first, and what follows counts where the fields are the same. -/
theorem Precedes.field {width m n : Nat} (hn : n < 10 ^ width) {rest rest' : List Char}
    (h : m < n ∨ m = n ∧ Precedes rest rest') :
    Precedes (lastDigits width m ++ rest) (lastDigits width n ++ rest') := by
  rcases h with h | ⟨rfl, h⟩
  · refine (lastDigits_precedes h hn).before ?_ rest rest'
    rw [length_lastDigits, length_lastDigits]
  · exact h.behind _

theorem isDigit_of_mem_lastDigits {width n : Nat} {c : Char} (h : c ∈ lastDigits width n) : c.isDigit = true := by
  induction width generalizing n with
  | zero => cases h
  | succ width ih =>
    rw [lastDigits, List.mem_append, List.mem_singleton] at h
    rcases h with h | rfl
    · exact ih h
    · rw [Nat.isDigit_digitChar, decide_eq_true_eq]
      omega

theorem ofDigitChars_lastDigits {width n : Nat} (h : n < 10 ^ width) :
    Nat.ofDigitChars 10 (lastDigits width n) 0 = n := by
  induction width generalizing n with
  | zero =>
    simp [lastDigits]
    omega
  | succ width ih =>
    rw [Nat.pow_succ] at h
    rw [lastDigits, Nat.ofDigitChars_append, ih (by omega), Nat.ofDigitChars_cons_digitChar_of_lt_ten (by omega),
      Nat.ofDigitChars_nil]
    omega

theorem isDigit_of_mem_paddedDigits {width n : Nat} {c : Char} (h : c ∈ paddedDigits width n) : c.isDigit = true := by
  rw [paddedDigits, List.mem_append, List.mem_replicate] at h
  rcases h with ⟨_, rfl⟩ | h
  · rfl
  · exact Nat.isDigit_of_mem_toDigits (by decide) (by decide) h

theorem ofDigitChars_paddedDigits (width n : Nat) : Nat.ofDigitChars 10 (paddedDigits width n) 0 = n := by
  rw [paddedDigits, Nat.ofDigitChars_append, Nat.ofDigitChars_replicate_zero, Nat.mul_zero,
    Nat.ofDigitChars_toDigits (by decide) (by decide)]

/-! ## Years -/

def leadingNumber (text : List Char) : Nat := Nat.ofDigitChars 10 (text.takeWhile Char.isDigit) 0

def leadingYear : List Char → Int
  | '-' :: text => -leadingNumber text
  | '+' :: text => leadingNumber text
  | text => leadingNumber text

theorem leadingNumber_append {digits : List Char} (h : ∀ c ∈ digits, c.isDigit = true) (rest : List Char) :
    leadingNumber (digits ++ '-' :: rest) = Nat.ofDigitChars 10 digits 0 := by
  rw [leadingNumber, List.takeWhile_append_of_pos h, List.takeWhile_cons_of_neg (by decide), List.append_nil]

theorem leadingYear_of_isDigit {text : List Char} {c : Char} (hhead : text.head? = some c) (h : c.isDigit = true) :
    leadingYear text = leadingNumber text := by
  unfold leadingYear
  split
  · cases hhead
    exact absurd h (by decide)
  · cases hhead
    exact absurd h (by decide)
  · rfl

theorem leadingYear_yearText (date : CivilDate) (rest : List Char) :
    leadingYear (date.yearText ++ '-' :: rest) = date.year := by
  have hpadding : ∀ c ∈ paddedDigits 4 date.year.natAbs, c.isDigit = true := fun _ => isDigit_of_mem_paddedDigits
  have hpadded := leadingNumber_append hpadding rest
  rw [ofDigitChars_paddedDigits] at hpadded
  unfold CivilDate.yearText
  by_cases hera : 0 ≤ date.year ∧ date.year ≤ 9999
  · rw [if_pos hera]
    have hdigits : ∀ c ∈ lastDigits 4 date.year.toNat, c.isDigit = true := fun _ => isDigit_of_mem_lastDigits
    have hnumber := leadingNumber_append hdigits rest
    rw [ofDigitChars_lastDigits (by omega)] at hnumber
    cases htext : lastDigits 4 date.year.toNat with
    | nil =>
      have := length_lastDigits 4 date.year.toNat
      simp [htext] at this
    | cons c digits =>
      rw [htext] at hdigits hnumber
      rw [leadingYear_of_isDigit (List.cons_append ▸ List.head?_cons) (hdigits c (List.mem_cons_self ..)), hnumber]
      omega
  · rw [if_neg hera]
    by_cases hneg : date.year < 0
    · rw [if_pos hneg, List.cons_append, leadingYear, hpadded]
      omega
    · rw [if_neg hneg, List.cons_append, leadingYear, hpadded]
      omega

/-! ## Days and times of day -/

def CivilDate.dayText (date : CivilDate) : List Char := lastDigits 2 date.month ++ '-' :: lastDigits 2 date.day

def clockText (timeOfDay : Nat) : List Char :=
  let seconds := timeOfDay / 1000000
  lastDigits 2 (seconds / 3600) ++ ':' :: (lastDigits 2 (seconds / 60 % 60) ++
    ':' :: (lastDigits 2 (seconds % 60) ++ fractionText (timeOfDay % 1000000)))

theorem fractionText_eq (micros : Nat) :
    fractionText micros = if micros = 0 then [] else '.' :: (lastDigits 3 (micros / 1000) ++
      if micros % 1000 = 0 then [] else lastDigits 3 (micros % 1000)) := by
  unfold fractionText
  by_cases hzero : micros = 0
  · rw [if_pos hzero, if_pos hzero]
  · rw [if_neg hzero, if_neg hzero]
    split
    · rw [List.append_nil]
    · rw [show micros % 1000 = micros % 10 ^ 3 from rfl, lastDigits_mod, show micros / 1000 = micros / 10 ^ 3 from rfl,
        ← lastDigits_add]

theorem fractionText_precedes {micros later : Nat} (h : micros < later) (hlater : later < 1000000) :
    Precedes (fractionText micros) (fractionText later) := by
  rw [fractionText_eq, fractionText_eq, if_neg (show later ≠ 0 by omega)]
  by_cases hzero : micros = 0
  · rw [if_pos hzero]
    exact .nil
  · rw [if_neg hzero]
    refine .cons (Precedes.field (by omega) ?_)
    by_cases hmillis : micros / 1000 = later / 1000
    · refine .inr ⟨hmillis, ?_⟩
      rw [if_neg (show later % 1000 ≠ 0 by omega)]
      split
      · exact .nil
      · exact lastDigits_precedes (by omega) (by omega)
    · exact .inl (by omega)

theorem clockText_precedes {time later : Nat} (h : time < later) (hlater : later < 86400000000) :
    Precedes (clockText time) (clockText later) := by
  have hours : time / 1000000 / 3600 < later / 1000000 / 3600 ∨
      time / 1000000 / 3600 = later / 1000000 / 3600 ∧
        (time / 1000000 / 60 % 60 < later / 1000000 / 60 % 60 ∨
          time / 1000000 / 60 % 60 = later / 1000000 / 60 % 60 ∧
            (time / 1000000 % 60 < later / 1000000 % 60 ∨
              time / 1000000 % 60 = later / 1000000 % 60 ∧ time % 1000000 < later % 1000000)) := by omega
  refine Precedes.field (by omega) (hours.imp_right fun ⟨same, minutes⟩ => ⟨same, .cons ?_⟩)
  refine Precedes.field (by omega) (minutes.imp_right fun ⟨same, seconds⟩ => ⟨same, .cons ?_⟩)
  exact Precedes.field (by omega)
    (seconds.imp_right fun ⟨same, micros⟩ => ⟨same, fractionText_precedes micros (by omega)⟩)

/-! ## Instants -/

namespace Timestamp

/-- The year is written with four digits and no sign. -/
def HasPlainYear (t : Timestamp) : Prop := 0 ≤ t.date.year ∧ t.date.year ≤ 9999

def afterYear (t : Timestamp) : List Char := t.date.dayText ++ 'T' :: clockText t.timeOfDay

theorem toList_text (t : Timestamp) : t.text.toList = t.date.yearText ++ '-' :: t.afterYear := by
  simp [text, afterYear, CivilDate.dayText, clockText]

theorem timeOfDay_lt (t : Timestamp) : t.timeOfDay < 86400000000 := by
  unfold timeOfDay microsPerDay
  omega

section
variable {t later : Timestamp} (h : t.micros < later.micros)
include h

theorem date_or_time :
    t.date.Before later.date ∨ t.date = later.date ∧ t.timeOfDay < later.timeOfDay := by
  unfold date timeOfDay microsPerDay
  by_cases hday : t.micros / 86400000000 = later.micros / 86400000000
  · exact .inr ⟨congrArg _ hday, by omega⟩
  · exact .inl (CivilDate.ofDays_before (by omega))

theorem year_le : t.date.year ≤ later.date.year := by
  rcases date_or_time h with hdate | ⟨hdate, _⟩
  · unfold CivilDate.Before at hdate
    omega
  · exact Int.le_of_eq (congrArg CivilDate.year hdate)

theorem afterYear_precedes (hyear : t.date.year = later.date.year) : Precedes t.afterYear later.afterYear := by
  have hmonth : later.date.month ≤ 12 := CivilDate.ofDays_month_le _
  have hday : later.date.day ≤ 31 := CivilDate.ofDays_day_le _
  have hmonths : t.date.month < later.date.month ∨ t.date.month = later.date.month ∧
      (t.date.day < later.date.day ∨ t.date.day = later.date.day ∧ t.timeOfDay < later.timeOfDay) := by
    rcases date_or_time h with hdate | ⟨hdate, htime⟩
    · unfold CivilDate.Before at hdate
      omega
    · rw [hdate]
      exact .inr ⟨rfl, .inr ⟨rfl, htime⟩⟩
  unfold afterYear CivilDate.dayText
  rw [List.append_assoc, List.append_assoc]
  refine Precedes.field (by omega) (hmonths.imp_right fun ⟨same, hdays⟩ => ⟨same, .cons ?_⟩)
  exact Precedes.field (by omega)
    (hdays.imp_right fun ⟨same, htime⟩ => ⟨same, .cons (clockText_precedes htime later.timeOfDay_lt)⟩)

theorem text_precedes_of_year (hyear : t.date.year = later.date.year) :
    Precedes t.text.toList later.text.toList := by
  have hyearText : t.date.yearText = later.date.yearText := by
    unfold CivilDate.yearText
    rw [hyear]
  rw [t.toList_text, later.toList_text, hyearText]
  exact Precedes.behind (.cons (afterYear_precedes h hyear)) _

theorem text_precedes (hplain : t.HasPlainYear) (hplain' : later.HasPlainYear) :
    Precedes t.text.toList later.text.toList := by
  have hle := year_le h
  by_cases hyear : t.date.year = later.date.year
  · exact text_precedes_of_year h hyear
  · unfold HasPlainYear at hplain hplain'
    rw [t.toList_text, later.toList_text, CivilDate.yearText, CivilDate.yearText, if_pos hplain, if_pos hplain']
    exact Precedes.field (by omega) (.inl (by omega))

end

section
variable {t other : Timestamp}

theorem year_eq_of_text (h : t.text = other.text) : t.date.year = other.date.year := by
  have hlists := congrArg String.toList h
  rw [t.toList_text, other.toList_text] at hlists
  rw [← leadingYear_yearText t.date t.afterYear, hlists, leadingYear_yearText]

theorem text_eq_iff : t.text = other.text ↔ t = other := by
  constructor
  · intro h
    have hyear := year_eq_of_text h
    rcases Int.lt_trichotomy t.micros other.micros with hlt | heq | hgt
    · exact absurd (congrArg String.toList h) (text_precedes_of_year hlt hyear).ne
    · cases t
      cases heq
      rfl
    · exact absurd (congrArg String.toList h.symm) (text_precedes_of_year hgt hyear.symm).ne
  · rintro rfl
    rfl

theorem text_precedes_iff (hplain : t.HasPlainYear) (hplain' : other.HasPlainYear) :
    Precedes t.text.toList other.text.toList ↔ t.micros < other.micros := by
  refine ⟨fun h => ?_, fun h => text_precedes h hplain hplain'⟩
  rcases Int.lt_trichotomy t.micros other.micros with hlt | heq | hgt
  · exact hlt
  · rw [show t = other by cases t; cases heq; rfl] at h
    exact absurd h h.asymm
  · exact absurd h (text_precedes hgt hplain' hplain).asymm

end

end Timestamp

end BridgeLedger
