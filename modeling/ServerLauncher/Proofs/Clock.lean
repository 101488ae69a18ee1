import Mathlib.Data.Nat.Log
import Mathlib.Tactic.Set
import Mathlib.Tactic.SplitIfs
import ServerLauncher.Machine.Basic

/-!
# The clock and the deadline

A deadline that has been reached stays reached.  The clock shows whole microseconds, but times are
computed with rounding, so that this rests on rounding being monotone.

## Main statements

* `roundQuotient_mono`, `roundSignificand_mono`: rounding is monotone.
* `Arithmetic.reaches_of_le`: what the clock has reached, it has reached later on.
* `Arithmetic.before_zero_of_reaches`: no time is left until a deadline that the clock has reached.
* `Arithmetic.reaches_of_before_zero`: a deadline that was computed is reached when no time is left.
-/

namespace ServerLauncher

/-! ## Rounding -/

theorem le_roundQuotient (num den : Nat) : num / den ≤ roundQuotient num den := by
  simp only [roundQuotient]
  split_ifs
  · exact le_refl _
  · exact Nat.le_succ _
  · exact le_refl _
  · exact Nat.le_succ _

theorem roundQuotient_le (num den : Nat) : roundQuotient num den ≤ num / den + 1 := by
  simp only [roundQuotient]
  split_ifs
  · exact Nat.le_succ _
  · exact le_refl _
  · exact Nat.le_succ _
  · exact le_refl _

theorem roundQuotient_mono {num num' : Nat} (den : Nat) (h : num ≤ num') :
    roundQuotient num den ≤ roundQuotient num' den := by
  have hquotient : num / den ≤ num' / den := Nat.div_le_div_right h
  rcases Nat.lt_or_eq_of_le hquotient with hlt | heq
  · calc roundQuotient num den ≤ num / den + 1 := roundQuotient_le num den
      _ ≤ num' / den := hlt
      _ ≤ roundQuotient num' den := le_roundQuotient num' den
  · -- With the same quotient, the greater remainder is not rounded down if the other one is not.
    have hrest : num % den ≤ num' % den := by
      have hnum := Nat.div_add_mod num den
      have hnum' := Nat.div_add_mod num' den
      rw [heq] at hnum
      omega
    simp only [roundQuotient, heq]
    split_ifs <;> omega

/-- The binary digits of a quotient that rounding leaves out. -/
def spareDigits (num den : Nat) : Nat := (num / den).log2 - 52

theorem spareDigits_mono {num num' : Nat} (den : Nat) (h : num ≤ num') :
    spareDigits num den ≤ spareDigits num' den := by
  have hlog : (num / den).log2 ≤ (num' / den).log2 := by
    rw [Nat.log2_eq_log_two, Nat.log2_eq_log_two]
    exact Nat.log_mono_right (Nat.div_le_div_right h)
  exact Nat.sub_le_sub_right hlog 52

theorem roundSignificand_eq (num den : Nat) : roundSignificand num den =
    roundQuotient num (den * 2 ^ spareDigits num den) * 2 ^ spareDigits num den := rfl

theorem roundSignificand_le (num den : Nat) :
    roundSignificand num den ≤ 2 ^ (53 + spareDigits num den) := by
  have hquotient : num / den < 2 ^ (53 + spareDigits num den) := by
    refine lt_of_lt_of_le Nat.lt_log2_self (Nat.pow_le_pow_right Nat.two_pos ?_)
    unfold spareDigits
    omega
  have hkept : num / (den * 2 ^ spareDigits num den) < 2 ^ 53 := by
    rw [← Nat.div_div_eq_div_mul]
    rw [Nat.pow_add] at hquotient
    exact Nat.div_lt_of_lt_mul (by rwa [Nat.mul_comm] at hquotient)
  rw [roundSignificand_eq, Nat.pow_add]
  exact Nat.mul_le_mul_right _ (le_trans (roundQuotient_le _ _) hkept)

theorem le_roundSignificand {num den : Nat} (h : 0 < spareDigits num den) :
    2 ^ (52 + spareDigits num den) ≤ roundSignificand num den := by
  have hlog : (num / den).log2 = 52 + spareDigits num den := by
    unfold spareDigits at h ⊢
    omega
  have hne : num / den ≠ 0 := by
    intro hzero
    rw [hzero, Nat.log2_zero] at hlog
    omega
  have hquotient : 2 ^ (52 + spareDigits num den) ≤ num / den := by
    rw [← hlog]
    exact Nat.log2_self_le hne
  have hkept : 2 ^ 52 ≤ num / (den * 2 ^ spareDigits num den) := by
    rw [← Nat.div_div_eq_div_mul, Nat.le_div_iff_mul_le (Nat.two_pow_pos _), ← Nat.pow_add]
    exact hquotient
  rw [roundSignificand_eq, Nat.pow_add]
  exact Nat.mul_le_mul_right _ (le_trans hkept (le_roundQuotient _ _))

theorem roundSignificand_mono {num num' : Nat} (den : Nat) (h : num ≤ num') :
    roundSignificand num den ≤ roundSignificand num' den := by
  rcases Nat.lt_or_eq_of_le (spareDigits_mono den h) with hlt | heq
  · -- Where more digits are left out, the numbers are on both sides of a power of two.
    calc roundSignificand num den ≤ 2 ^ (53 + spareDigits num den) := roundSignificand_le num den
      _ ≤ 2 ^ (52 + spareDigits num' den) := Nat.pow_le_pow_right Nat.two_pos (by omega)
      _ ≤ roundSignificand num' den := le_roundSignificand (Nat.zero_lt_of_lt hlt)
  · rw [roundSignificand_eq, roundSignificand_eq, heq]
    exact Nat.mul_le_mul_right _ (roundQuotient_mono _ h)

/-! ## The clock -/

theorem ticksPerMicro_pos : 0 < ticksPerMicro := by decide +kernel

theorem Time.reaches_of_le {ticks ticks' : Int} {deadline : Time} (h : ticks ≤ ticks')
    (hreached : (Time.at ticks).reaches deadline) : (Time.at ticks').reaches deadline := by
  cases deadline with
  | undefined => exact hreached
  | past => rfl
  | «at» n =>
    simp only [Time.reaches, Time.before, decide_eq_true_eq] at hreached ⊢
    omega
  | future => exact hreached

namespace Arithmetic

/-- A reading of the clock in ticks. -/
def ticksOf : Arithmetic → Nat → Nat
  | exact, micros => micros * ticksPerMicro
  | binary, micros =>
    roundSignificand (min micros clockLimit * ticksPerMicro) ticksPerQuantum * ticksPerQuantum

theorem ticksOf_mono (a : Arithmetic) {micros micros' : Nat} (h : micros ≤ micros') :
    a.ticksOf micros ≤ a.ticksOf micros' := by
  cases a with
  | binary =>
    have hmin : min micros clockLimit ≤ min micros' clockLimit := by omega
    exact Nat.mul_le_mul_right _ (roundSignificand_mono _ (Nat.mul_le_mul_right _ hmin))
  | exact => exact Nat.mul_le_mul_right _ h

theorem roundSignificand_lt_quantaLimit (micros : Nat) :
    roundSignificand (min micros clockLimit * ticksPerMicro) ticksPerQuantum <
      Double.quantaLimit := by
  set ticks := min micros clockLimit * ticksPerMicro
  have hticks : ticks < 2 ^ 2093 := by
    calc ticks ≤ clockLimit * ticksPerMicro := Nat.mul_le_mul_right _ (Nat.min_le_right _ _)
      _ = 2 ^ (1024 + 1068) := by rw [clockLimit, ticksPerMicro, Nat.pow_add]
      _ < 2 ^ 2093 := Nat.pow_lt_pow_right Nat.one_lt_two (by omega)
  have hlog : (ticks / ticksPerQuantum).log2 ≤ 2092 := by
    rcases Nat.eq_zero_or_pos (ticks / ticksPerQuantum) with hzero | hpos
    · rw [hzero, Nat.log2_zero]
      exact Nat.zero_le _
    · rw [← Nat.lt_succ_iff, Nat.log2_lt (Nat.ne_of_gt hpos)]
      exact lt_of_le_of_lt (Nat.div_le_self _ _) hticks
  have hspare : 53 + spareDigits ticks ticksPerQuantum < 2098 := by
    unfold spareDigits
    omega
  exact lt_of_le_of_lt (roundSignificand_le _ _) (Nat.pow_lt_pow_right Nat.one_lt_two hspare)

/-- The clock never shows a time that is infinite or not a number. -/
theorem ofMicros_eq (a : Arithmetic) (micros : Nat) :
    a.ofMicros micros = .at (a.ticksOf micros) := by
  cases a with
  | binary =>
    have hfinite := roundSignificand_lt_quantaLimit micros
    simp only [ofMicros, settle, Int.natAbs_natCast, Double.ofQuanta]
    rw [if_neg (not_le.mpr hfinite), decide_eq_false (by omega)]
    simp [Time.ofSeconds, ticksOf]
  | exact => rw [ofMicros, settle, ticksOf]

/-- What the clock has reached, it has reached later on. -/
theorem reaches_of_le (a : Arithmetic) {micros micros' : Nat} {deadline : Time}
    (h : micros ≤ micros') (hreached : (a.ofMicros micros).reaches deadline) :
    (a.ofMicros micros').reaches deadline := by
  have hticks := a.ticksOf_mono h
  rw [ofMicros_eq] at hreached ⊢
  exact Time.reaches_of_le (Int.ofNat_le.mpr hticks) hreached

/-- No positive time comes from a number of ticks that is not positive. -/
theorem settle_before_zero (a : Arithmetic) {n : Int} (h : n ≤ 0) : (a.settle n).before .zero := by
  cases a with
  | binary =>
    rcases Int.lt_or_eq_of_le h with hneg | rfl
    · simp only [settle, Double.ofQuanta, decide_eq_true hneg]
      split_ifs
      · rfl
      · simp only [Time.ofSeconds, if_true, Time.before, Time.zero, decide_eq_true_eq]
        have hsize : (0 : Int) ≤ roundSignificand n.natAbs ticksPerQuantum := Int.natCast_nonneg _
        have hquantum : (0 : Int) ≤ ticksPerQuantum := Int.natCast_nonneg _
        exact Int.mul_nonpos_of_nonpos_of_nonneg (by omega) hquantum
    · have hzero : ¬ Double.quantaLimit ≤ 0 := by
        rw [Double.quantaLimit, Nat.not_le]
        exact Nat.two_pow_pos _
      simp [settle, roundSignificand, roundQuotient, Double.ofQuanta, hzero, Time.ofSeconds,
        Time.before, Time.zero]
  | exact => simpa [settle, Time.before, Time.zero] using h

theorem minus_before_zero (a : Arithmetic) {ticks : Int} {deadline : Time}
    (h : (Time.at ticks).reaches deadline) : (a.minus deadline (.at ticks)).before .zero := by
  cases deadline with
  | undefined => exact absurd h Bool.false_ne_true
  | past => rfl
  | «at» n =>
    refine a.settle_before_zero ?_
    simp only [Time.reaches, Time.before, decide_eq_true_eq] at h
    omega
  | future => exact absurd h Bool.false_ne_true

/-! ### The time left

A difference of two numbers of the binary format is rounded to zero only if they are equal, since
the least positive difference is a quantum.  So some time is left until the clock reaches a deadline
that has been computed. -/

/-- The times that a machine computes: all of them, or those that are whole numbers of quanta. -/
def Computes (a : Arithmetic) (t : Time) : Prop :=
  a = .binary → ∀ n, t = .at n → (ticksPerQuantum : Int) ∣ n

theorem dvd_of_ofSeconds {x : Double} {n : Int} (h : Time.ofSeconds x = .at n) :
    (ticksPerQuantum : Int) ∣ n := by
  cases x with
  | nan => cases h
  | infinite negative => cases negative <;> cases h
  | finite negative quanta =>
    cases h
    exact Int.dvd_mul_left _ _

theorem settle_binary (n : Int) : binary.settle n = .ofSeconds (.ofQuanta (decide (n < 0))
    (roundSignificand n.natAbs ticksPerQuantum)) := rfl

theorem computes_settle (a : Arithmetic) (n : Int) : a.Computes (a.settle n) := by
  rintro rfl ticks hticks
  rw [settle_binary] at hticks
  exact dvd_of_ofSeconds hticks

theorem computes_plus (a : Arithmetic) (s t : Time) : a.Computes (a.plus s t) := by
  unfold plus
  split
  case h_9 m n => exact a.computes_settle _
  all_goals exact fun _ _ hat => nomatch hat

theorem computes_ofMicros (a : Arithmetic) (micros : Nat) : a.Computes (a.ofMicros micros) := by
  rintro rfl ticks hticks
  rw [ofMicros_eq] at hticks
  cases hticks
  rw [ticksOf, Int.natCast_mul]
  exact Int.dvd_mul_left _ _

theorem roundSignificand_pos {num den : Nat} (hden : 0 < den) (h : den ≤ num) :
    0 < roundSignificand num den := by
  by_cases hspare : 0 < spareDigits num den
  · exact Nat.lt_of_lt_of_le (Nat.two_pow_pos _) (le_roundSignificand hspare)
  · have hnone : spareDigits num den = 0 := by omega
    have hquotient : 0 < num / den := Nat.div_pos h hden
    rw [roundSignificand_eq, hnone, Nat.pow_zero, Nat.mul_one, Nat.mul_one]
    exact Nat.lt_of_lt_of_le hquotient (le_roundQuotient num den)

/-- A positive whole number of quanta stays positive. -/
theorem settle_not_before_zero (a : Arithmetic) {n : Int} (hpos : 0 < n)
    (hwhole : a = .binary → (ticksPerQuantum : Int) ∣ n) : (a.settle n).before .zero = false := by
  cases a with
  | binary =>
    have hquantum : 0 < ticksPerQuantum := Nat.pow_pos (by decide)
    have hle : ticksPerQuantum ≤ n.natAbs := by
      have hdvd := Int.le_of_dvd hpos (hwhole rfl)
      omega
    have hround := roundSignificand_pos hquantum hle
    simp only [settle, Double.ofQuanta, decide_eq_false (not_lt.mpr hpos.le)]
    split_ifs
    · rfl
    · have hticks : 0 < (roundSignificand n.natAbs ticksPerQuantum : Int) * ticksPerQuantum :=
        Int.mul_pos (by omega) (by omega)
      simp only [Time.ofSeconds, Time.before, Time.zero]
      simpa using hticks
  | exact => simpa [settle, Time.before, Time.zero] using hpos

/-- A deadline that has been computed is reached when no time is left until it. -/
theorem reaches_of_before_zero (a : Arithmetic) {micros : Nat} {deadline : Time}
    (hcomputed : a.Computes deadline)
    (h : (a.minus deadline (a.ofMicros micros)).before .zero) :
    (a.ofMicros micros).reaches deadline := by
  have hclock := a.computes_ofMicros micros
  rw [ofMicros_eq] at h hclock ⊢
  cases deadline with
  | undefined => exact absurd h Bool.false_ne_true
  | past => rfl
  | «at» n =>
    by_contra hnot
    have hpos : 0 < n + -(a.ticksOf micros : Int) := by
      simp only [Time.reaches, Time.before, decide_eq_true_eq] at hnot
      omega
    have hleft := a.settle_not_before_zero hpos fun hbinary =>
      Int.dvd_add (hcomputed hbinary n rfl) (Int.dvd_neg.mpr (hclock hbinary _ rfl))
    exact absurd (hleft.symm.trans h) Bool.false_ne_true
  | future => exact absurd h Bool.false_ne_true

/-- No time is left until a deadline that the clock has reached. -/
theorem before_zero_of_reaches (a : Arithmetic) {micros : Nat} {deadline : Time}
    (h : (a.ofMicros micros).reaches deadline) :
    (a.minus deadline (a.ofMicros micros)).before .zero := by
  rw [ofMicros_eq] at h ⊢
  exact a.minus_before_zero h

/-! ### Exact times -/

/-- The clock has not passed a deadline as long as it shows no more than its whole microseconds. -/
theorem exact_before {micros ticks : Nat} :
    (exact.ofMicros micros).before (.at ticks) ↔ micros ≤ ticks / ticksPerMicro := by
  rw [Nat.le_div_iff_mul_le ticksPerMicro_pos]
  simp only [ofMicros, settle, Time.before, decide_eq_true_eq]
  exact Int.ofNat_le

theorem exact_reaches {micros : Nat} {ticks : Int} :
    (exact.ofMicros micros).reaches (.at ticks) ↔ ticks ≤ (micros * ticksPerMicro : Nat) := by
  simp only [ofMicros, settle, Time.reaches, Time.before, decide_eq_true_eq]

theorem exact_minus (ticks : Int) (micros : Nat) : exact.minus (.at ticks)
    (exact.ofMicros micros) = .at (ticks - (micros * ticksPerMicro : Nat)) := by
  simp only [minus, ofMicros, settle, Time.opposite, plus]
  rfl

/-- A duration is over when the clock has counted as many microseconds as there are until then. -/
theorem le_of_microsUntil? {ticks : Int} {micros : Nat}
    (h : exact.microsUntil? (.at ticks) = some micros) :
    ticks ≤ (micros * ticksPerMicro : Nat) := by
  simp only [microsUntil?, Option.some_inj] at h
  have hpos := ticksPerMicro_pos
  have hle : ticks.toNat ≤ micros * ticksPerMicro := by
    have hlt := Nat.lt_div_mul_add hpos (a := ticks.toNat + (ticksPerMicro - 1))
    rw [h] at hlt
    omega
  omega

/-- The time left until a deadline, but none that is negative. -/
theorem exact_clamped_minus (ticks : Int) (micros : Nat) :
    (exact.minus (.at ticks) (exact.ofMicros micros)).clamped =
      .at (max (ticks - (micros * ticksPerMicro : Nat)) 0) := by
  rw [exact_minus, Time.clamped]
  simp only [Time.before, Time.zero, decide_eq_true_eq]
  split_ifs
  · rw [max_eq_left (by omega)]
  · rw [max_eq_right (by omega)]

/-- A deadline has come when the time left until it has been counted. -/
theorem reaches_of_microsUntil? {ticks : Int} {micros left : Nat}
    (h : exact.microsUntil? (exact.minus (.at ticks) (exact.ofMicros micros)).clamped =
      some left) : (exact.ofMicros (micros + left)).reaches (.at ticks) := by
  rw [exact_clamped_minus] at h
  have hle := le_of_microsUntil? h
  rw [exact_reaches, Nat.add_mul]
  omega

/-- A deadline has come when one has come that was set by the time left until it. -/
theorem reaches_of_reaches_plus {ticks : Int} {micros micros' : Nat}
    (h : (exact.ofMicros micros').reaches (exact.plus (exact.ofMicros micros)
      (exact.minus (.at ticks) (exact.ofMicros micros)).clamped)) :
    (exact.ofMicros micros').reaches (.at ticks) := by
  rw [exact_clamped_minus] at h
  simp only [ofMicros, plus, settle] at h
  rw [← settle, ← ofMicros, exact_reaches] at h
  rw [exact_reaches]
  omega

end Arithmetic

end ServerLauncher
