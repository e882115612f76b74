import MacProvider.Lib.TextOrder

/-! # The gateway's timestamps

An instant is nanoseconds since the Unix epoch. `encodeTime` is the text the store writes
(`time.RFC3339Nano`): fields of fixed width, the fraction without trailing zeros, then `Z`. Text
order is time order for different seconds; inside one see `orderAgrees_iff`. -/

namespace MacProvider.Gateway.Time

open Lib.TextOrder

/-- Nanoseconds since 1970-01-01T00:00:00Z. -/
abbrev Instant := ℕ

/-- `time.Second`. -/
def nanosPerSecond : ℕ := 1000000000
/-- The seconds of a day. -/
def secondsPerDay : ℕ := 86400

/-- The days from 0001-01-01 to 1970-01-01. -/
def unixEpochDay : ℕ := 719162

/-- A duration. -/
def seconds (n : ℕ) : ℕ := n * nanosPerSecond
/-- A duration. -/
def minutes (n : ℕ) : ℕ := seconds (60 * n)
/-- A duration. -/
def hours (n : ℕ) : ℕ := minutes (60 * n)

/-- `time.UnixMilli`. -/
def unixMilli (ms : ℕ) : Instant := ms * 1000000

/-- `UnixMilli`. -/
def toUnixMilli (t : Instant) : ℕ := t / 1000000

/-- Year and day of the year of a day from 0001-01-01. A last day of a cycle would open a fifth one;
`n - n / 4` cuts it back. -/
def yearDay (d : ℕ) : ℕ × ℕ :=
  let n400 := d / 146097
  let d1 := d - 146097 * n400
  let n100 := d1 / 36524 - d1 / 36524 / 4
  let d2 := d1 - 36524 * n100
  let n4 := d2 / 1461
  let d3 := d2 - 1461 * n4
  let n1 := d3 / 365 - d3 / 365 / 4
  (400 * n400 + 100 * n100 + 4 * n4 + n1 + 1, d3 - 365 * n1)

/-- A leap year. -/
def isLeap (year : ℕ) : Bool :=
  year % 4 == 0 && (year % 100 != 0 || year % 400 == 0)

/-- The days before month `m` (from `0`). -/
def daysBefore (m : ℕ) : ℕ :=
  [0, 31, 59, 90, 120, 151, 181, 212, 243, 273, 304, 334].getD m 365

/-- Month and day (from `1`) of a day of the year. -/
def monthDay (leap : Bool) (yday : ℕ) : ℕ × ℕ :=
  if leap && yday == 59 then (2, 29)
  else
    let day := if leap && decide (59 < yday) then yday - 1 else yday
    let m := day / 31
    if daysBefore (m + 1) ≤ day then (m + 2, day - daysBefore (m + 1) + 1)
    else (m + 1, day - daysBefore m + 1)

/-! ### The texts -/

/-- Decimal, padded to `w` digits. -/
def appendInt (w n : ℕ) : List Char := if n < 10 ^ w then fixed w n else Nat.toDigits 10 n

/-- The date of a day. -/
def dateText (d : ℕ) : List Char :=
  let y := yearDay d
  let md := monthDay (isLeap y.1) y.2
  appendInt 4 y.1 ++ ['-'] ++ appendInt 2 md.1 ++ ['-'] ++ appendInt 2 md.2

/-- The time of day. -/
def clockText (s : ℕ) : List Char :=
  appendInt 2 (s / 3600) ++ [':'] ++ appendInt 2 (s / 60 % 60) ++ [':'] ++ appendInt 2 (s % 60)

/-- The text of a full second. -/
def secondText (s : ℕ) : List Char :=
  dateText (s / secondsPerDay + unixEpochDay) ++ ['T'] ++ clockText (s % secondsPerDay)

/-- The text of an instant in the store. -/
def encodeTime (t : Instant) : List Char :=
  secondText (t / nanosPerSecond) ++ fracZ 9 (t % nanosPerSecond)

/-- `Format("2006-01-02")`: the quota window. -/
def windowDate (t : Instant) : String :=
  String.ofList (dateText (t / nanosPerSecond / secondsPerDay + unixEpochDay))

/-- The first second of the year 10000. -/
def endOfYear9999 : ℕ := 253402300800

example : encodeTime (seconds 1767225600) = "2026-01-01T00:00:00Z".toList := by decide
example : encodeTime (seconds 1709210096 + 120000000) = "2024-02-29T12:34:56.12Z".toList := by
  decide

/-! ### The calendar is increasing -/

/-- The days before year `n + 1`. -/
def daysBeforeYear (n : ℕ) : ℕ := 365 * n + n / 4 - n / 100 + n / 400

theorem isLeap_toNat (y : ℕ) :
    (isLeap y).toNat = if 4 ∣ y ∧ (¬ 100 ∣ y ∨ 400 ∣ y) then 1 else 0 := by
  have h : isLeap y = decide (4 ∣ y ∧ (¬ 100 ∣ y ∨ 400 ∣ y)) := by
    rw [Bool.eq_iff_iff]
    simp [isLeap, Nat.dvd_iff_mod_eq_zero]
  rw [h]
  split_ifs with hd
  · rw [decide_eq_true hd]; rfl
  · rw [decide_eq_false hd]; rfl

theorem daysBeforeYear_succ (n : ℕ) :
    daysBeforeYear (n + 1) = daysBeforeYear n + 365 + (isLeap (n + 1)).toNat := by
  have h100 : 100 ∣ n + 1 → 4 ∣ n + 1 := Dvd.dvd.trans (by norm_num)
  have h400 : 400 ∣ n + 1 → 100 ∣ n + 1 := Dvd.dvd.trans (by norm_num)
  have hle : n / 100 ≤ n / 4 := Nat.div_le_div_left (by norm_num) (by norm_num)
  unfold daysBeforeYear
  rw [isLeap_toNat, Nat.succ_div, Nat.succ_div, Nat.succ_div]
  by_cases d4 : 4 ∣ n + 1
  · by_cases d100 : 100 ∣ n + 1
    · by_cases d400 : 400 ∣ n + 1 <;> simp only [d4, d100, d400] <;> simp <;> omega
    · have d400 : ¬ 400 ∣ n + 1 := fun h => d100 (h400 h)
      simp only [d4, d100, d400]; simp; omega
  · have d100 : ¬ 100 ∣ n + 1 := fun h => d4 (h100 h)
    have d400 : ¬ 400 ∣ n + 1 := fun h => d100 (h400 h)
    simp only [d4, d100, d400]; simp; omega

theorem daysBeforeYear_mono : Monotone daysBeforeYear :=
  monotone_nat_of_le_succ fun n => by rw [daysBeforeYear_succ]; omega

theorem yearDay_spec (d : ℕ) : ∃ n, (yearDay d).1 = n + 1 ∧
    d = daysBeforeYear n + (yearDay d).2 ∧ (yearDay d).2 < 365 + (isLeap (n + 1)).toNat := by
  have hcyc : ∃ a b c e, b ≤ 3 ∧ c ≤ 24 ∧ e ≤ 3 ∧
      (yearDay d).1 = 400 * a + 100 * b + 4 * c + e + 1 ∧
      d = 146097 * a + 36524 * b + 1461 * c + 365 * e + (yearDay d).2 ∧
      (yearDay d).2 ≤ 365 ∧ ((yearDay d).2 = 365 → e = 3 ∧ (c = 24 → b = 3)) := by
    unfold yearDay
    dsimp only
    set a := d / 146097 with ha
    set d1 := d - 146097 * a with hd1
    set b := d1 / 36524 - d1 / 36524 / 4 with hb
    set d2 := d1 - 36524 * b with hd2
    set c := d2 / 1461 with hc
    set d3 := d2 - 1461 * c with hd3
    set e := d3 / 365 - d3 / 365 / 4 with he
    refine ⟨a, b, c, e, ?_, ?_, ?_, rfl, ?_, ?_, ?_⟩ <;> omega
  obtain ⟨a, b, c, e, hb, hc, he, hy, hd, hle, hl⟩ := hcyc
  refine ⟨400 * a + 100 * b + 4 * c + e, hy, ?_, ?_⟩
  · unfold daysBeforeYear
    have h4 : (400 * a + 100 * b + 4 * c + e) / 4 = 100 * a + 25 * b + c := by omega
    have h100 : (400 * a + 100 * b + 4 * c + e) / 100 = 4 * a + b := by omega
    have h400 : (400 * a + 100 * b + 4 * c + e) / 400 = a := by omega
    omega
  · rcases Nat.lt_or_ge (yearDay d).2 365 with h | h
    · omega
    · -- the 366th day: the last year of a 4-year cycle that does not end a century
      obtain ⟨rfl, h24⟩ := hl (by omega)
      have hleap : isLeap (400 * a + 100 * b + 4 * c + 3 + 1) = true := by
        simp only [isLeap, Bool.and_eq_true, Bool.or_eq_true, beq_iff_eq, bne_iff_ne]
        omega
      rw [hleap]; simp; omega

variable {d s d' s' : ℕ}

theorem yearDay_lt (h : d < d') : (yearDay d).1 < (yearDay d').1 ∨
    ((yearDay d).1 = (yearDay d').1 ∧ (yearDay d).2 < (yearDay d').2) := by
  obtain ⟨n, hy, hd, hr⟩ := yearDay_spec d
  obtain ⟨n', hy', hd', hr'⟩ := yearDay_spec d'
  rcases Nat.lt_trichotomy n n' with hlt | rfl | hgt
  · left; omega
  · right; omega
  · have h1 := daysBeforeYear_mono (show n' + 1 ≤ n from hgt)
    rw [daysBeforeYear_succ] at h1
    omega

theorem yearDay_year_lt (h : d < endOfYear9999 / secondsPerDay + unixEpochDay) :
    (yearDay d).1 < 10000 := by
  obtain ⟨n, hy, hd, -⟩ := yearDay_spec d
  by_contra hn
  have h1 := daysBeforeYear_mono (show 9999 ≤ n by omega)
  have h2 : daysBeforeYear 9999 = endOfYear9999 / secondsPerDay + unixEpochDay := by decide
  omega

theorem yday_range (d : ℕ) : (yearDay d).2 < 365 + (isLeap (yearDay d).1).toNat := by
  obtain ⟨n, hy, -, hr⟩ := yearDay_spec d
  rw [hy]; exact hr

/-- Month and day as one number. -/
def monthDayNum (leap : Bool) (yday : ℕ) : ℕ := (monthDay leap yday).1 * 32 + (monthDay leap yday).2

theorem monthDayNum_step : ∀ leap : Bool, ∀ y < 364 + leap.toNat,
    monthDayNum leap y < monthDayNum leap (y + 1) := by decide +kernel

theorem monthDay_range : ∀ leap : Bool, ∀ y < 365 + leap.toNat,
    (monthDay leap y).1 ≤ 12 ∧ (monthDay leap y).2 ≤ 31 := by decide +kernel

theorem monthDayNum_lt {leap : Bool} {y y' : ℕ} (hy' : y' < 365 + leap.toNat) (h : y < y') :
    monthDayNum leap y < monthDayNum leap y' := by
  induction y' with
  | zero => omega
  | succ z ih =>
    have hz := monthDayNum_step leap z (by omega)
    rcases Nat.lt_or_ge y z with hlt | hge
    · exact lt_trans (ih (by omega) hlt) hz
    · rw [show y = z by omega]; exact hz

/-! ### The texts are increasing -/

theorem appendInt_of_lt {w n : ℕ} (h : n < 10 ^ w) : appendInt w n = fixed w n := by
  unfold appendInt; rw [if_pos h]

/-- The day behind the last one. -/
def lastDay : ℕ := endOfYear9999 / secondsPerDay + unixEpochDay

theorem dateText_eq (h : d < lastDay) : dateText d =
    fixed 4 (yearDay d).1 ++ ('-' :: (fixed 2 (monthDay (isLeap (yearDay d).1) (yearDay d).2).1 ++
      ('-' :: fixed 2 (monthDay (isLeap (yearDay d).1) (yearDay d).2).2))) := by
  have hy := yearDay_year_lt h
  obtain ⟨hm, hd⟩ := monthDay_range (isLeap (yearDay d).1) (yearDay d).2 (yday_range d)
  unfold dateText
  dsimp only
  rw [appendInt_of_lt (by omega), appendInt_of_lt (by omega), appendInt_of_lt (by omega)]
  simp

theorem length_dateText (h : d < lastDay) : (dateText d).length = 10 := by
  rw [dateText_eq h]; simp

theorem dateText_lt (hd' : d' < lastDay) (h : d < d') : dateText d < dateText d' := by
  have hy' := yearDay_year_lt hd'
  rw [dateText_eq (lt_trans h hd'), dateText_eq hd']
  rcases yearDay_lt h with hy | ⟨he, hyd⟩
  · exact append_lt_append _ _ (by simp) (fixed_lt_fixed (by omega) hy)
  · -- the same year: the day of the year decides, through month and day
    have hr' := yday_range d'
    rw [he]
    generalize isLeap (yearDay d').1 = l at hr' ⊢
    have hnum := monthDayNum_lt hr' hyd
    obtain ⟨hm', hdd'⟩ := monthDay_range l (yearDay d').2 hr'
    obtain ⟨hm, hdd⟩ := monthDay_range l (yearDay d).2 (lt_trans hyd hr')
    unfold monthDayNum at hnum
    refine List.append_left_lt (List.cons_lt_cons_iff.mpr (Or.inr ⟨rfl, ?_⟩))
    rcases Nat.lt_or_ge (monthDay l (yearDay d).2).1 (monthDay l (yearDay d').2).1 with hlt | hge
    · exact append_lt_append _ _ (by simp) (fixed_lt_fixed (by omega) hlt)
    · have hme : (monthDay l (yearDay d).2).1 = (monthDay l (yearDay d').2).1 := by omega
      rw [hme]
      refine List.append_left_lt (List.cons_lt_cons_iff.mpr (Or.inr ⟨rfl, ?_⟩))
      exact fixed_lt_fixed (by omega) (by omega)

theorem clockText_eq (h : s < secondsPerDay) : clockText s =
    fixed 2 (s / 3600) ++ (':' :: (fixed 2 (s / 60 % 60) ++ (':' :: fixed 2 (s % 60)))) := by
  unfold secondsPerDay at h
  unfold clockText
  rw [appendInt_of_lt (by omega), appendInt_of_lt (by omega), appendInt_of_lt (by omega)]
  simp

theorem length_clockText (h : s < secondsPerDay) : (clockText s).length = 8 := by
  rw [clockText_eq h]; simp

theorem clockText_lt (hs' : s' < secondsPerDay) (h : s < s') : clockText s < clockText s' := by
  rw [clockText_eq (lt_trans h hs'), clockText_eq hs']
  unfold secondsPerDay at hs'
  rcases Nat.lt_or_ge (s / 3600) (s' / 3600) with hlt | hge
  · exact append_lt_append _ _ (by simp) (fixed_lt_fixed (by omega) hlt)
  · rw [show s / 3600 = s' / 3600 by omega]
    refine List.append_left_lt (List.cons_lt_cons_iff.mpr (Or.inr ⟨rfl, ?_⟩))
    rcases Nat.lt_or_ge (s / 60 % 60) (s' / 60 % 60) with hlt | hge
    · exact append_lt_append _ _ (by simp) (fixed_lt_fixed (by omega) hlt)
    · rw [show s / 60 % 60 = s' / 60 % 60 by omega]
      refine List.append_left_lt (List.cons_lt_cons_iff.mpr (Or.inr ⟨rfl, ?_⟩))
      exact fixed_lt_fixed (by omega) (by omega)

theorem length_secondText (h : s < endOfYear9999) : (secondText s).length = 19 := by
  have hd : s / secondsPerDay + unixEpochDay < lastDay := by
    unfold lastDay endOfYear9999 secondsPerDay at *; omega
  unfold secondText
  simp [length_dateText hd, length_clockText (Nat.mod_lt s (show 0 < secondsPerDay by decide))]

/-- **Whole seconds sort like their texts.** -/
theorem secondText_lt (hs' : s' < endOfYear9999) (h : s < s') : secondText s < secondText s' := by
  have hpos : 0 < secondsPerDay := by decide
  have hd : s / secondsPerDay + unixEpochDay < lastDay := by
    unfold lastDay endOfYear9999 secondsPerDay at *; omega
  have hd' : s' / secondsPerDay + unixEpochDay < lastDay := by
    unfold lastDay endOfYear9999 secondsPerDay at *; omega
  unfold secondText
  simp only [List.append_assoc]
  rcases Nat.lt_or_ge (s / secondsPerDay) (s' / secondsPerDay) with hlt | hge
  · exact append_lt_append _ _ (by rw [length_dateText hd, length_dateText hd'])
      (dateText_lt hd' (by omega))
  · have he : s / secondsPerDay = s' / secondsPerDay :=
      le_antisymm (Nat.div_le_div_right h.le) hge
    rw [he]
    refine List.append_left_lt (List.append_left_lt (clockText_lt (Nat.mod_lt _ hpos) ?_))
    have h1 := Nat.div_add_mod s secondsPerDay
    have h2 := Nat.div_add_mod s' secondsPerDay
    rw [he] at h1; omega

/-! ### Text order against time order -/

/-- In one second, one printed fraction a prefix of the other. -/
def Confusable (t u : Instant) : Prop :=
  t / nanosPerSecond = u / nanosPerSecond ∧ t ≠ u ∧
    (fracDigits 9 (t % nanosPerSecond) <+: fracDigits 9 (u % nanosPerSecond) ∨
      fracDigits 9 (u % nanosPerSecond) <+: fracDigits 9 (t % nanosPerSecond))

instance (t u : Instant) : Decidable (Confusable t u) := by
  unfold Confusable; infer_instance

theorem Confusable.symm {t u : Instant} (h : Confusable t u) : Confusable u t :=
  ⟨h.1.symm, h.2.1.symm, h.2.2.symm⟩

/-- The instants of the years 1970 to 9999. -/
def InRange (t : Instant) : Prop := t / nanosPerSecond < endOfYear9999

instance (t : Instant) : Decidable (InRange t) := by unfold InRange; infer_instance

theorem nanos_lt (t : Instant) : t % nanosPerSecond < 10 ^ 9 := Nat.mod_lt _ (by decide)

theorem encodeTime_same_second {t u : Instant} (h : t / nanosPerSecond = u / nanosPerSecond) :
    encodeTime t < encodeTime u ↔
      fracZ 9 (t % nanosPerSecond) < fracZ 9 (u % nanosPerSecond) := by
  unfold encodeTime
  rw [h]
  constructor
  · intro hlt
    by_contra hn
    rcases lt_or_eq_of_le (not_lt.mp hn) with hgt | he
    · exact lt_asymm hlt (List.append_left_lt hgt)
    · rw [he] at hlt; exact lt_irrefl _ hlt
  · exact fun hlt => List.append_left_lt hlt

theorem nanos_lt_nanos {t u : ℕ} (he : t / nanosPerSecond = u / nanosPerSecond) (h : t < u) :
    t % nanosPerSecond < u % nanosPerSecond := by
  unfold nanosPerSecond at *
  omega

theorem encodeTime_lt {t u : Instant} (hu : InRange u) (h : t < u) (hc : ¬ Confusable t u) :
    encodeTime t < encodeTime u := by
  rcases Nat.lt_or_ge (t / nanosPerSecond) (u / nanosPerSecond) with hlt | hge
  · refine append_lt_append _ _ ?_ (secondText_lt hu hlt)
    rw [length_secondText hu, length_secondText (lt_trans hlt hu)]
  · have he : t / nanosPerSecond = u / nanosPerSecond :=
      le_antisymm (Nat.div_le_div_right h.le) hge
    rw [encodeTime_same_second he]
    exact fracZ_lt_fracZ (nanos_lt u) (nanos_lt_nanos he h) fun hp =>
      hc ⟨he, ne_of_lt h, Or.inl hp⟩

theorem encodeTime_gt {t u : Instant} (h : t < u) (hc : Confusable t u) :
    encodeTime u < encodeTime t := by
  obtain ⟨he, -, hp⟩ := hc
  have hn := nanos_lt_nanos he h
  rw [encodeTime_same_second he.symm]
  rcases hp with hp | hp
  · exact fracZ_lt_of_append (nanos_lt t) (nanos_lt u) hn hp
  · exact absurd (fracDigits_le_of_append (nanos_lt u) hp) (not_le.mpr hn)

/-- Texts compare like instants. -/
def OrderAgrees (t u : Instant) : Prop :=
  (encodeTime t < encodeTime u ↔ t < u) ∧ (encodeTime t = encodeTime u ↔ t = u) ∧
    (encodeTime u < encodeTime t ↔ u < t)

instance (t u : Instant) : Decidable (OrderAgrees t u) := by unfold OrderAgrees; infer_instance

theorem orderAgrees_of_lt {t u : Instant} (h : t < u) (ht : encodeTime t < encodeTime u) :
    OrderAgrees t u :=
  ⟨⟨fun _ => h, fun _ => ht⟩, ⟨fun he => absurd he (ne_of_lt ht), fun he => absurd he (ne_of_lt h)⟩,
    ⟨fun hg => absurd ht (lt_asymm hg), fun hg => absurd h (lt_asymm hg)⟩⟩

theorem OrderAgrees.symm {t u : Instant} (h : OrderAgrees t u) : OrderAgrees u t :=
  ⟨h.2.2, ⟨fun e => (h.2.1.mp e.symm).symm, fun e => (h.2.1.mpr e.symm).symm⟩, h.1⟩

/-- **Text order is time order except on confusable pairs.** -/
theorem orderAgrees_iff {t u : Instant} (ht : InRange t) (hu : InRange u) :
    OrderAgrees t u ↔ ¬ Confusable t u := by
  constructor
  · rintro ⟨h1, -, h3⟩ hc
    rcases Nat.lt_or_gt_of_ne hc.2.1 with h | h
    · exact lt_asymm (h1.mpr h) (encodeTime_gt h hc)
    · exact lt_asymm (h3.mpr h) (encodeTime_gt h hc.symm)
  · intro hc
    rcases lt_trichotomy t u with h | rfl | h
    · exact orderAgrees_of_lt h (encodeTime_lt hu h hc)
    · simp [OrderAgrees]
    · exact (orderAgrees_of_lt h (encodeTime_lt ht h fun hc' => hc hc'.symm)).symm

/-- **The text of an instant is its own.** -/
theorem encodeTime_injective : Function.Injective fun t : { t // InRange t } => encodeTime t := by
  rintro ⟨t, ht⟩ ⟨u, hu⟩ h
  refine Subtype.ext ?_
  by_cases hc : Confusable t u
  · rcases Nat.lt_or_gt_of_ne hc.2.1 with hlt | hgt
    · exact absurd h.symm (encodeTime_gt hlt hc).ne
    · exact absurd h (encodeTime_gt hgt hc.symm).ne
  · exact ((orderAgrees_iff ht hu).mpr hc).2.1.mp h

end MacProvider.Gateway.Time
