import Mathlib
import Authoring.Contract.Date
import Authoring.Proofs.Text.Runs

/-! The dates that a date format accepts: those of four, two and two digits that the calendar has,
and other spellings of ten bytes, with a sign or with blanks, for days that the calendar has. -/

namespace Authoring.Date

open Text (AllBlank IsRun StartsVisibly)
open Decimal (isDigit valueOf)

/-! The calendar -/

def IsLeap (year : Int) : Prop :=
  4 ∣ year ∧ (100 ∣ year → 400 ∣ year)

instance (year : Int) : Decidable (IsLeap year) :=
  inferInstanceAs (Decidable (_ ∧ _))

def monthLengths (year : Int) : List Nat :=
  [31, if IsLeap year then 29 else 28, 31, 30, 31, 30, 31, 31, 30, 31, 30, 31]

def InCalendar (year : Int) (month day : Nat) : Prop :=
  1 ≤ month ∧ ∃ length, (monthLengths year)[month - 1]? = some length ∧ 1 ≤ day ∧ day ≤ length

theorem isLeapYear_iff {year : Int} : isLeapYear year = true ↔ IsLeap year := by
  simp only [isLeapYear, IsLeap, Bool.and_eq_true, Bool.or_eq_true, beq_iff_eq, bne_iff_ne,
    Int.dvd_iff_emod_eq_zero]
  omega

theorem isDay_iff {year : Int} {month day : Nat} :
    isDay year month day = true ↔ InCalendar year month day := by
  simp only [isDay, daysIn, isLeapYear_iff, InCalendar, monthLengths, Bool.and_eq_true,
    decide_eq_true_eq]
  by_cases inside : 1 ≤ month ∧ month ≤ 12
  · obtain ⟨least, greatest⟩ := inside
    interval_cases month <;> simp
  · have outside : month = 0 ∨ 12 ≤ month - 1 := by omega
    constructor
    · split_ifs <;> omega
    · rintro ⟨least, length, found, -⟩
      obtain ⟨short, -⟩ := List.getElem?_eq_some_iff.mp found
      simp only [List.length_cons, List.length_nil] at short
      omega

/-! How dates are written -/

inductive IsCalendarDate : List Char → Prop
  | mk {year month day : List Char} (digits : ∀ c ∈ year ++ month ++ day, isDigit c = true)
      (yearLength : year.length = 4) (monthLength : month.length = 2) (dayLength : day.length = 2)
      (inCalendar : InCalendar (valueOf year) (valueOf month) (valueOf day)) :
      IsCalendarDate (year ++ '-' :: (month ++ '-' :: day))

structure IsNumber (width : Nat) (digits : List Char) : Prop where
  nonempty : digits ≠ []
  short : digits.length ≤ width
  digits : ∀ c ∈ digits, isDigit c = true

inductive IsYear : List Char → Int → Prop
  | unsigned {digits : List Char} (number : IsNumber 4 digits) : IsYear digits (valueOf digits)
  | positive {digits : List Char} {width : Nat} (number : IsNumber width digits) :
      IsYear ('+' :: digits) (valueOf digits)
  | negative {digits : List Char} {width : Nat} (number : IsNumber width digits) :
      IsYear ('-' :: digits) (-valueOf digits)

inductive IsWritten : List Char → Int → Nat → Nat → Prop
  | mk {opening year beforeMonth month beforeDay day : List Char} {value : Int}
      (openingBlank : AllBlank opening) (yearDigits : IsYear year value)
      (beforeMonthBlank : AllBlank beforeMonth) (monthDigits : IsNumber 2 month)
      (beforeDayBlank : AllBlank beforeDay) (dayDigits : IsNumber 2 day) :
      IsWritten (opening ++ (year ++ '-' :: (beforeMonth ++ (month ++ '-' :: (beforeDay ++ day)))))
        value (valueOf month) (valueOf day)

def IsMarked (text : List Char) : Prop :=
  (∃ c ∈ text.head?, c = '+' ∨ c = '-') ∨ ∃ c ∈ text, Text.isBlank c = true

/-- Ten bytes with a sign or with blanks are a day that the calendar has. -/
def IsLooseDate (text : List Char) : Prop :=
  IsMarked text ∧ String.utf8Len text = 10 ∧
    ∃ year month day, IsWritten text year month day ∧ InCalendar year month day

/-! The reader -/

variable {text rest digits : List Char} {width month day value : Nat} {year : Int}

theorem IsNumber.head (number : IsNumber width digits) :
    ∃ c later, digits = c :: later ∧ isDigit c = true := by
  obtain ⟨c, later, rfl⟩ := List.exists_cons_of_ne_nil number.nonempty
  exact ⟨c, later, rfl, number.digits c List.mem_cons_self⟩

theorem IsNumber.startsVisibly (number : IsNumber width digits) (rest : List Char) :
    StartsVisibly (digits ++ rest) := by
  obtain ⟨c, later, rfl, digit⟩ := number.head
  exact Text.startsVisibly_cons.mpr (Text.isBlank_of_isDigit digit)

theorem number?_written (read : number? width text = some (value, rest)) :
    ∃ digits, IsNumber width digits ∧ text = digits ++ rest ∧ value = valueOf digits := by
  rw [number?] at read
  split at read
  · cases read
  · rename_i nonempty
    cases read
    have run := Text.isRun_takeWhile isDigit (text.take width)
    have short := List.length_take_le width text
    rw [run.whole, List.length_append] at short
    refine ⟨_, ⟨fun none => nonempty (by rw [none]; rfl), by omega, run.inside⟩, ?_, rfl⟩
    have leads : (text.take width).takeWhile isDigit <+: text :=
      (List.takeWhile_prefix _).trans (List.take_prefix _ _)
    exact (List.prefix_iff_eq_append.mp leads).symm

theorem number?_append (number : IsNumber width digits)
    (stops : ∀ c ∈ rest.head?, isDigit c = false) :
    number? width (digits ++ rest) = some (valueOf digits, rest) := by
  obtain ⟨nonempty, short, all⟩ := number
  have run : IsRun isDigit ((digits ++ rest).take width) digits
      (rest.take (width - digits.length)) := by
    refine ⟨?_, all, ?_⟩
    · rw [List.take_append, List.take_of_length_le short]
    · intro c first
      rw [List.head?_take] at first
      split at first
      · cases first
      · exact stops c first
  rw [number?, run.splits.1]
  simp [nonempty]

theorem IsNumber.long (number : IsNumber width digits) (rest : List Char) :
    IsNumber (digits ++ rest).length digits :=
  ⟨number.nonempty, by simp, number.digits⟩

theorem number?_map_written (change : Nat → Int)
    (read : (number? width text).map (fun (value, rest) => (change value, rest)) =
      some (year, rest)) :
    ∃ digits, IsNumber width digits ∧ text = digits ++ rest ∧ year = change (valueOf digits) := by
  obtain ⟨⟨value, later⟩, number, same⟩ := Option.map_eq_some_iff.mp read
  cases same
  obtain ⟨digits, written, rfl, rfl⟩ := number?_written number
  exact ⟨digits, written, rfl, rfl⟩

theorem year?_written (read : year? text = some (year, rest)) :
    ∃ digits, IsYear digits year ∧ text = digits ++ rest := by
  unfold year? at read
  split at read
  · obtain ⟨digits, written, rfl, rfl⟩ := number?_map_written (fun value => -(value : Int)) read
    exact ⟨_, .negative written, rfl⟩
  · obtain ⟨digits, written, rfl, rfl⟩ := number?_map_written (fun value => (value : Int)) read
    exact ⟨_, .positive written, rfl⟩
  · obtain ⟨digits, written, rfl, rfl⟩ := number?_map_written (fun value => (value : Int)) read
    exact ⟨_, .unsigned written, rfl⟩

theorem year?_append (written : IsYear digits year) (stops : ∀ c ∈ rest.head?, isDigit c = false) :
    year? (digits ++ rest) = some (year, rest) := by
  cases written with
  | unsigned number =>
      have read := number?_append number stops
      obtain ⟨c, later, rfl, digit⟩ := number.head
      have noSign : c ≠ '-' ∧ c ≠ '+' := by
        constructor <;> (rintro rfl; cases digit)
      unfold year?
      split
      · rename_i same
        exact absurd (List.cons.inj same).1 noSign.1
      · rename_i same
        exact absurd (List.cons.inj same).1 noSign.2
      · rw [read]
        rfl
  | positive number | negative number =>
      rw [List.cons_append, year?, number?_append (number.long rest) stops]
      rfl

theorem IsYear.startsVisibly (written : IsYear digits year) (rest : List Char) :
    StartsVisibly (digits ++ rest) := by
  cases written with
  | unsigned number => exact number.startsVisibly rest
  | positive | negative => exact Text.startsVisibly_cons.mpr (by decide)

theorem hyphen?_eq_some_iff : hyphen? text = some rest ↔ text = '-' :: rest := by
  unfold hyphen?
  split
  · simp
  · rename_i other
    simpa using other rest

theorem stops_hyphen (rest : List Char) : ∀ c ∈ ('-' :: rest).head?, isDigit c = false := by
  rintro _ ⟨⟩
  rfl

theorem parts?_eq_some_iff :
    parts? text = some (year, month, day) ↔ IsWritten text year month day := by
  constructor
  · intro read
    simp only [parts?, Option.bind_eq_bind, Option.bind_eq_some_iff, hyphen?_eq_some_iff] at read
    obtain ⟨⟨_, _⟩, yearRead, behindYear, rfl, ⟨_, _⟩, monthRead, behindMonth, rfl, ⟨_, ending⟩,
      dayRead, read⟩ := read
    split at read
    · rename_i nothing
      cases read
      obtain ⟨opening, openingBlank, whole⟩ := Text.exists_trimStart text
      obtain ⟨beforeMonth, beforeMonthBlank, monthWhole⟩ := Text.exists_trimStart behindYear
      obtain ⟨beforeDay, beforeDayBlank, dayWhole⟩ := Text.exists_trimStart behindMonth
      obtain ⟨yearText, yearDigits, yearSame⟩ := year?_written yearRead
      obtain ⟨monthText, monthDigits, monthSame, rfl⟩ := number?_written monthRead
      obtain ⟨dayText, dayDigits, daySame, rfl⟩ := number?_written dayRead
      rw [show ending = [] from List.isEmpty_iff.mp nothing, List.append_nil] at daySame
      rw [whole, yearSame, monthWhole, monthSame, dayWhole, daySame]
      exact .mk openingBlank yearDigits beforeMonthBlank monthDigits beforeDayBlank dayDigits
    · cases read
  · rintro ⟨openingBlank, yearDigits, beforeMonthBlank, monthDigits, beforeDayBlank, dayDigits⟩
    rename_i opening yearText beforeMonth monthText beforeDay dayText
    have lastVisible := dayDigits.startsVisibly []
    have dayRead : number? 2 (dayText ++ []) = some (_, []) := number?_append dayDigits (by simp)
    rw [List.append_nil] at lastVisible dayRead
    simp only [parts?, openingBlank.trimStart (yearDigits.startsVisibly _),
      year?_append yearDigits (stops_hyphen _), hyphen?,
      beforeMonthBlank.trimStart (monthDigits.startsVisibly _),
      number?_append monthDigits (stops_hyphen _), beforeDayBlank.trimStart lastVisible, dayRead,
      Option.bind_eq_bind, Option.bind_some]
    rfl

theorem accepts_iff {text : String} : accepts text = true ↔ String.utf8Len text.toList = 10 ∧
    ∃ year month day, IsWritten text.toList year month day ∧ InCalendar year month day := by
  have bytes : text.utf8ByteSize = String.utf8Len text.toList := by
    rw [← String.utf8ByteSize_ofList, String.ofList_toList]
  rw [accepts, Bool.and_eq_true, beq_iff_eq, bytes]
  refine and_congr_right fun _ => ?_
  cases found : parts? text.toList with
  | none =>
      constructor
      · nofun
      · rintro ⟨year, month, day, written, -⟩
        cases found.symm.trans (parts?_eq_some_iff.mpr written)
  | some parts =>
      obtain ⟨year, month, day⟩ := parts
      rw [isDay_iff]
      constructor
      · exact fun inside => ⟨year, month, day, parts?_eq_some_iff.mp found, inside⟩
      · rintro ⟨_, _, _, written, inside⟩
        cases found.symm.trans (parts?_eq_some_iff.mpr written)
        exact inside

/-! Calendar dates and loose dates -/

theorem utf8Len_digits (all : ∀ c ∈ digits, isDigit c = true) :
    String.utf8Len digits = digits.length := by
  induction digits with
  | nil => rfl
  | cons c later ih =>
      obtain ⟨digit, others⟩ := List.forall_mem_cons.mp all
      obtain ⟨-, greatest⟩ : 48 ≤ c.toNat ∧ c.toNat ≤ 57 := Char.isDigit_iff_toNat.mp digit
      have small : c.utf8Size = 1 := by
        rw [Char.utf8Size_eq_one_iff, UInt32.le_iff_toNat_le]
        exact Nat.le_trans greatest (by decide)
      rw [String.utf8Len_cons, ih others, small, List.length_cons]

theorem utf8Len_digitGroups {one two three : List Char}
    (all : ∀ c ∈ one ++ two ++ three, isDigit c = true) :
    String.utf8Len (one ++ '-' :: (two ++ '-' :: three)) =
      one.length + two.length + three.length + 2 := by
  simp only [List.forall_mem_append] at all
  simp only [String.utf8Len_append, String.utf8Len_cons, utf8Len_digits all.1.1,
    utf8Len_digits all.1.2, utf8Len_digits all.2, show '-'.utf8Size = 1 from rfl]
  omega

theorem IsCalendarDate.unmarked (date : IsCalendarDate text) : ¬IsMarked text := by
  obtain @⟨year, month, day, digits, yearLength, -, -, -⟩ := date
  rintro (⟨c, first, sign⟩ | ⟨c, member, blank⟩)
  · cases year with
    | nil => cases yearLength
    | cons other later =>
        cases first
        have digit := digits c (by simp)
        rcases sign with rfl | rfl <;> cases digit
  · have visible : Text.isBlank c = false := by
      by_cases hyphen : c = '-'
      · rw [hyphen]
        rfl
      · exact Text.isBlank_of_isDigit (digits c (by simpa [hyphen] using member))
    rw [visible] at blank
    cases blank

theorem IsCalendarDate.accepted (date : IsCalendarDate text) : String.utf8Len text = 10 ∧
    ∃ year month day, IsWritten text year month day ∧ InCalendar year month day := by
  obtain @⟨year, month, day, digits, yearLength, monthLength, dayLength, inCalendar⟩ := date
  refine ⟨by rw [utf8Len_digitGroups digits]; omega, _, _, _, ?_, inCalendar⟩
  simp only [List.forall_mem_append] at digits
  have nonempty {text : List Char} {length : Nat} (long : text.length = length + 1) : text ≠ [] :=
    List.ne_nil_of_length_eq_add_one long
  exact .mk (List.forall_mem_nil _) (.unsigned ⟨nonempty yearLength, yearLength.le, digits.1.1⟩)
    (List.forall_mem_nil _) ⟨nonempty monthLength, monthLength.le, digits.1.2⟩
    (List.forall_mem_nil _) ⟨nonempty dayLength, dayLength.le, digits.2⟩

theorem isCalendarDate_of_unmarked (unmarked : ¬IsMarked text) (long : String.utf8Len text = 10)
    (written : IsWritten text year month day) (inCalendar : InCalendar year month day) :
    IsCalendarDate text := by
  obtain ⟨unsigned, visible⟩ := not_or.mp unmarked
  cases written with
  | @mk opening year beforeMonth month beforeDay day _ openingBlank yearDigits beforeMonthBlank
      monthDigits beforeDayBlank dayDigits =>
      have nothing {gap : List Char} (blank : AllBlank gap) (inside : gap ⊆ opening ++
          (year ++ '-' :: (beforeMonth ++ (month ++ '-' :: (beforeDay ++ day))))) : gap = [] := by
        cases gap with
        | nil => rfl
        | cons c later =>
            exact absurd ⟨c, inside List.mem_cons_self, blank c List.mem_cons_self⟩ visible
      obtain rfl := nothing openingBlank fun c member => by simp [member]
      obtain rfl := nothing beforeMonthBlank fun c member => by simp [member]
      obtain rfl := nothing beforeDayBlank fun c member => by simp [member]
      simp only [List.nil_append] at long unsigned ⊢
      cases yearDigits with
      | unsigned number =>
          have digits : ∀ c ∈ year ++ month ++ day, isDigit c = true :=
            List.forall_mem_append.mpr
              ⟨List.forall_mem_append.mpr ⟨number.digits, monthDigits.digits⟩, dayDigits.digits⟩
          rw [utf8Len_digitGroups digits] at long
          have yearShort := number.short
          have monthShort := monthDigits.short
          have dayShort := dayDigits.short
          exact .mk digits (by omega) (by omega) (by omega) inCalendar
      | positive => exact absurd ⟨'+', rfl, .inl rfl⟩ unsigned
      | negative => exact absurd ⟨'-', rfl, .inr rfl⟩ unsigned

theorem accepts_cases {text : String} : accepts text = true ↔
    IsCalendarDate text.toList ∨ IsLooseDate text.toList := by
  rw [accepts_iff]
  constructor
  · rintro ⟨long, year, month, day, written, inCalendar⟩
    by_cases marked : IsMarked text.toList
    · exact .inr ⟨marked, long, year, month, day, written, inCalendar⟩
    · exact .inl (isCalendarDate_of_unmarked marked long written inCalendar)
  · rintro (date | loose)
    · exact date.accepted
    · exact loose.2

end Authoring.Date
