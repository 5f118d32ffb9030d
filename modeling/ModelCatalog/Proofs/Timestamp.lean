import ModelCatalog.Text.Timestamp

/-! # The grammar of timestamps

The reader of timestamps takes one part of a text after the other. What it takes is said here
without a reader: each part is a list of characters, and a timestamp is made of its parts.
-/
namespace ModelCatalog.Text.Timestamp

variable {n : Nat} {c : Char} {cs rest : List Char}

/-! ## Digits -/

def digit (n : Nat) : Char := Char.ofNat (48 + n)

/-- A number below 100 with its leading zero. -/
def two (n : Nat) : List Char := [digit (n / 10), digit (n % 10)]

/-- A number below 10000 with its leading zeros. -/
def four (n : Nat) : List Char := two (n / 100) ++ two (n % 100)

theorem digit?_digit : ∀ n < 10, digit? (digit n) = some n := by decide

theorem digit?_eq_some_iff : digit? c = some n ↔ n < 10 ∧ c = digit n := by
  constructor
  · intro h
    obtain ⟨hdigit, hn⟩ := Option.ite_none_right_eq_some.mp h
    obtain ⟨hleast, hgreatest⟩ : 48 ≤ c.toNat ∧ c.toNat ≤ 57 := by
      simpa [Char.isDigit, UInt32.le_iff_toNat_le] using hdigit
    obtain rfl := Option.some.inj hn
    have hback : 48 + (c.toNat - 48) = c.toNat := by omega
    refine ⟨by omega, ?_⟩
    rw [digit, hback, Char.ofNat_toNat]
  · rintro ⟨hn, rfl⟩
    exact digit?_digit n hn

theorem twoDigits?_eq_some_iff :
    twoDigits? cs = some (n, rest) ↔ n < 100 ∧ cs = two n ++ rest := by
  constructor
  · intro h
    match cs, h with
    | a :: b :: tail, h =>
      simp only [twoDigits?, Option.bind_eq_bind, Option.bind_eq_some_iff, digit?_eq_some_iff,
        Option.pure_def, Option.some.injEq, Prod.mk.injEq] at h
      obtain ⟨i, ⟨hi, rfl⟩, j, ⟨hj, rfl⟩, rfl, rfl⟩ := h
      have htens : (10 * i + j) / 10 = i := by omega
      have hones : (10 * i + j) % 10 = j := by omega
      refine ⟨by omega, ?_⟩
      rw [two, htens, hones]
      rfl
  · rintro ⟨hn, rfl⟩
    have hsplit : 10 * (n / 10) + n % 10 = n := Nat.div_add_mod n 10
    simp [two, twoDigits?, digit?_digit (n / 10) (by omega), digit?_digit (n % 10) (by omega),
      hsplit]

theorem fourDigits?_eq_some_iff :
    fourDigits? cs = some (n, rest) ↔ n < 10000 ∧ cs = four n ++ rest := by
  simp only [fourDigits?, Option.bind_eq_bind, Option.bind_eq_some_iff, Prod.exists,
    twoDigits?_eq_some_iff, Option.pure_def, Option.some.injEq, Prod.mk.injEq]
  constructor
  · rintro ⟨high, _, ⟨hhigh, rfl⟩, low, _, ⟨hlow, rfl⟩, rfl, rfl⟩
    have hhundreds : (100 * high + low) / 100 = high := by omega
    have hrest : (100 * high + low) % 100 = low := by omega
    refine ⟨by omega, ?_⟩
    rw [four, hhundreds, hrest, List.append_assoc]
  · rintro ⟨hn, rfl⟩
    exact ⟨n / 100, two (n % 100) ++ rest, ⟨by omega, List.append_assoc ..⟩, n % 100, rest,
      ⟨by omega, rfl⟩, Nat.div_add_mod n 100, rfl⟩

theorem skip?_eq_some_iff {ok : Char → Bool} :
    skip? ok cs = some rest ↔ ∃ c, ok c = true ∧ cs = c :: rest := by
  cases cs with
  | nil => simp [skip?]
  | cons c tail =>
    simp only [skip?, Option.ite_none_right_eq_some, Option.some.injEq, List.cons.injEq]
    exact ⟨fun ⟨hok, hrest⟩ => ⟨c, hok, rfl, hrest⟩, fun ⟨_, hok, hc, hrest⟩ => ⟨hc ▸ hok, hrest⟩⟩

/-! ## Parts -/

/-- A day that the calendar has. -/
inductive Date : List Char → Prop
  | day {year month day : Nat} (hyear : year < 10000) (hmonth : 1 ≤ month ∧ month ≤ 12)
    (hday : 1 ≤ day ∧ day ≤ daysIn year month) :
    Date (four year ++ '-' :: (two month ++ '-' :: two day))

/-- Nothing, or a point and digits. -/
inductive Fraction : List Char → Prop
  | nothing : Fraction []
  | digits {digits : List Char} (hsome : digits ≠ []) (hall : ∀ c ∈ digits, c.isDigit = true) :
    Fraction ('.' :: digits)

/-- A time of day, which may fall into the second that a minute has for a leap. -/
inductive Time : List Char → Prop
  | time {hour minute second : Nat} {fraction : List Char} (hhour : hour < 24)
    (hminute : minute < 60) (hsecond : second ≤ 60) (hfraction : Fraction fraction) :
    Time (two hour ++ ':' :: (two minute ++ ':' :: (two second ++ fraction)))

/-- The distance from universal time. -/
inductive Offset : List Char → Prop
  | universal {c : Char} (hc : c = 'Z' ∨ c = 'z') : Offset [c]
  | distance {sign : Char} {hours minutes : Nat} (hsign : sign = '+' ∨ sign = '-' ∨ sign = '\u2212')
    (hhours : hours < 24) (hminutes : minutes < 60) :
    Offset (sign :: (two hours ++ ':' :: two minutes))

/-- The text names an instant. -/
def NamesInstant (s : String) : Prop :=
  ∃ date separator time offset, s.toList = date ++ separator :: (time ++ offset) ∧
    Date date ∧ (separator = 'T' ∨ separator = 't' ∨ separator = ' ') ∧ Time time ∧ Offset offset

/-! ## Readers -/

theorem daysIn_le (year month : Nat) : daysIn year month ≤ 31 := by
  unfold daysIn
  split
  · split <;> decide
  · split <;> decide

theorem date?_eq_some_iff : date? cs = some rest ↔ ∃ date, Date date ∧ cs = date ++ rest := by
  simp only [date?, Option.bind_eq_bind, Option.bind_eq_some_iff, Prod.exists,
    twoDigits?_eq_some_iff, fourDigits?_eq_some_iff, skip?_eq_some_iff, decide_eq_true_eq,
    Option.ite_none_right_eq_some, Option.some.injEq]
  constructor
  · rintro ⟨year, _, ⟨hyear, rfl⟩, _, ⟨_, rfl, rfl⟩, month, _, ⟨-, rfl⟩, _, ⟨_, rfl, rfl⟩, day, _,
      ⟨-, rfl⟩, ⟨hleast, hgreatest, hday⟩, rfl⟩
    exact ⟨_, .day hyear ⟨hleast, hgreatest⟩ hday, by simp⟩
  · rintro ⟨_, @⟨year, month, day, hyear, hmonth, hday⟩, rfl⟩
    have hlast := daysIn_le year month
    exact ⟨year, _, ⟨hyear, List.append_assoc ..⟩, _, ⟨_, rfl, rfl⟩, month, _,
      ⟨by omega, List.append_assoc ..⟩, _, ⟨_, rfl, rfl⟩, day, _, ⟨by omega, rfl⟩,
      ⟨hmonth.1, hmonth.2, hday⟩, rfl⟩

/-- The reader takes all the digits after a point, so a fraction is what it takes where no more of
them follow. -/
theorem fraction_of_fraction? (h : fraction? cs = some rest) :
    ∃ fraction, Fraction fraction ∧ cs = fraction ++ rest := by
  unfold fraction? at h
  split at h
  next c tail =>
    obtain ⟨hc, hrest⟩ := Option.ite_none_right_eq_some.mp h
    obtain rfl := Option.some.inj hrest
    refine ⟨'.' :: c :: tail.takeWhile Char.isDigit, .digits nofun ?_, ?_⟩
    · intro d hd
      rcases List.mem_cons.mp hd with rfl | hd
      · exact hc
      · exact List.all_eq_true.mp List.all_takeWhile d hd
    · simp only [List.cons_append, List.takeWhile_append_dropWhile]
  next => cases h
  next => exact ⟨[], .nothing, Option.some.inj h⟩

theorem fraction?_append {fraction : List Char} (h : Fraction fraction)
    (hrest : ∀ c ∈ rest.head?, c ≠ '.' ∧ c.isDigit = false) :
    fraction? (fraction ++ rest) = some rest := by
  cases h with
  | nothing =>
    cases rest with
    | nil => rfl
    | cons c tail =>
      obtain ⟨hpoint, -⟩ := hrest c rfl
      simp [fraction?, hpoint]
  | @digits digits hsome hall =>
    obtain ⟨d, ds, rfl⟩ := List.exists_cons_of_ne_nil hsome
    obtain ⟨hd, hds⟩ := List.forall_mem_cons.mp hall
    have hstop : rest.dropWhile Char.isDigit = rest := by
      cases rest with
      | nil => rfl
      | cons c tail => simp [(hrest c rfl).2]
    simp only [List.cons_append, fraction?, hd, if_true, List.dropWhile_append_of_pos hds, hstop]

theorem time_of_time? (h : time? cs = some rest) : ∃ time, Time time ∧ cs = time ++ rest := by
  simp only [time?, Option.bind_eq_bind, Option.bind_eq_some_iff, Prod.exists,
    twoDigits?_eq_some_iff, skip?_eq_some_iff, decide_eq_true_eq,
    Option.ite_none_right_eq_some] at h
  obtain ⟨hour, _, ⟨-, rfl⟩, _, ⟨_, rfl, rfl⟩, minute, _, ⟨-, rfl⟩, _, ⟨_, rfl, rfl⟩, second, _,
    ⟨-, rfl⟩, ⟨hhour, hminute, hsecond⟩, h⟩ := h
  obtain ⟨fraction, hfraction, rfl⟩ := fraction_of_fraction? h
  exact ⟨_, .time hhour hminute hsecond hfraction, by simp⟩

theorem time?_append {time : List Char} (h : Time time)
    (hrest : ∀ c ∈ rest.head?, c ≠ '.' ∧ c.isDigit = false) :
    time? (time ++ rest) = some rest := by
  obtain @⟨hour, minute, second, fraction, hhour, hminute, hsecond, hfraction⟩ := h
  simp only [time?, Option.bind_eq_bind, Option.bind_eq_some_iff, Prod.exists,
    twoDigits?_eq_some_iff, skip?_eq_some_iff, decide_eq_true_eq,
    Option.ite_none_right_eq_some]
  exact ⟨hour, _, ⟨by omega, List.append_assoc ..⟩, _, ⟨_, rfl, rfl⟩, minute, _,
    ⟨by omega, List.append_assoc ..⟩, _, ⟨_, rfl, rfl⟩, second, _,
    ⟨by omega, List.append_assoc ..⟩, ⟨hhour, hminute, hsecond⟩, fraction?_append hfraction hrest⟩

theorem offset?_eq_some_iff :
    offset? cs = some rest ↔ ∃ offset, Offset offset ∧ cs = offset ++ rest := by
  constructor
  · intro h
    unfold offset? at h
    split at h
    next => exact ⟨_, .universal (.inl rfl), congrArg _ (Option.some.inj h)⟩
    next => exact ⟨_, .universal (.inr rfl), congrArg _ (Option.some.inj h)⟩
    next =>
      simp only [Option.bind_eq_bind, Option.bind_eq_some_iff, Prod.exists, twoDigits?_eq_some_iff,
        skip?_eq_some_iff, decide_eq_true_eq, Bool.or_eq_true, Option.ite_none_right_eq_some,
        Option.some.injEq, or_assoc] at h
      obtain ⟨_, ⟨sign, hsign, rfl⟩, hours, _, ⟨-, rfl⟩, _, ⟨_, rfl, rfl⟩, minutes, _, ⟨-, rfl⟩,
        ⟨hhours, hminutes⟩, rfl⟩ := h
      exact ⟨_, .distance hsign hhours hminutes, by simp⟩
  · rintro ⟨_, hoffset | @⟨sign, hours, minutes, hsign, hhours, hminutes⟩, rfl⟩
    · rcases hoffset with rfl | rfl <;> rfl
    · have htwo : ∀ {n : Nat}, n < 60 → ∀ cs, twoDigits? (two n ++ cs) = some (n, cs) :=
        fun hn _ => twoDigits?_eq_some_iff.mpr ⟨by omega, rfl⟩
      have hread := htwo (n := hours) (by omega) (':' :: (two minutes ++ rest))
      rcases hsign with rfl | rfl | rfl <;>
        simp [offset?, skip?, hread, htwo hminutes, hhours, hminutes]

/-! ## Timestamps -/

theorem Offset.starts {offset : List Char} (h : Offset offset) :
    ∀ c ∈ offset.head?, c ≠ '.' ∧ c.isDigit = false := by
  intro c hc
  rcases h with hzone | ⟨hsign, -, -⟩
  · obtain rfl := Option.some.inj hc
    rcases hzone with rfl | rfl <;> decide
  · obtain rfl := Option.some.inj hc
    rcases hsign with rfl | rfl | rfl <;> decide

end Timestamp

open Timestamp

/-- The reader accepts the texts that name an instant. -/
theorem isTimestamp_iff {s : String} : isTimestamp s = true ↔ NamesInstant s := by
  simp only [isTimestamp, rest?, beq_iff_eq, Option.bind_eq_bind, Option.bind_eq_some_iff,
    date?_eq_some_iff, skip?_eq_some_iff, offset?_eq_some_iff, decide_eq_true_eq, Bool.or_eq_true,
    or_assoc, List.append_nil]
  constructor
  · rintro ⟨_, ⟨date, hdate, hs⟩, _, ⟨separator, hseparator, rfl⟩, offset, hread, _, hoffset, rfl⟩
    obtain ⟨time, htime, rfl⟩ := time_of_time? hread
    exact ⟨date, separator, time, offset, hs, hdate, hseparator, htime, hoffset⟩
  · rintro ⟨date, separator, time, offset, hs, hdate, hseparator, htime, hoffset⟩
    exact ⟨_, ⟨date, hdate, hs⟩, _, ⟨separator, hseparator, rfl⟩, offset,
      time?_append htime hoffset.starts, offset, hoffset, rfl⟩

instance (s : String) : Decidable (NamesInstant s) := decidable_of_iff _ isTimestamp_iff

/-- A leap day has to fall into a leap year, and a leap second into a minute. -/
example : NamesInstant "2024-02-29T23:59:60+01:00" ∧ ¬ NamesInstant "2023-02-29T00:00:00Z" ∧
    ¬ NamesInstant "2024-02-29T23:59:61Z" := by decide +kernel

end ModelCatalog.Text
