import ServerLauncher.Proofs.Clock

/-!
# The order of times

Times are computed with rounding, and rounding is monotone: a later time stays later when the same
duration is added to both, and a longer duration does not come to fewer microseconds.  A number that
the format has is rounded to itself, so that a clock that shows a time shows it exactly.

## Main definitions

* `Time.IsPositive`: a duration that is longer than none.

## Main statements

* `Time.before_trans`, `Time.before_total`: times other than the undefined one are in order.
* `roundSignificand_roundSignificand`: what has been rounded is rounded to itself.
* `Arithmetic.settle_mono`, `Arithmetic.plus_mono`, `Arithmetic.micros?_mono`: computing with times
  is monotone.
* `Arithmetic.reaches_plus_of_before_zero`: a deadline that is not after now has been reached.
* `Arithmetic.isPositive_minus`: the time left until a deadline that has not been reached is
  positive.
-/

namespace ServerLauncher

/-! ## Rounding twice -/

/-- A multiple of the digits that rounding leaves out is not changed by it. -/
theorem roundSignificand_of_dvd {s den : Nat} (hden : 0 < den) (h : 2 ^ (s.log2 - 52) ∣ s) :
    roundSignificand (s * den) den = s := by
  have hspare : spareDigits (s * den) den = s.log2 - 52 := by
    rw [spareDigits, Nat.mul_div_cancel _ hden]
  obtain ⟨t, ht⟩ := h
  rw [roundSignificand_eq, hspare]
  set kept := 2 ^ (s.log2 - 52)
  have hkept : 0 < den * kept := Nat.mul_pos hden (Nat.two_pow_pos _)
  have hmultiple : s * den = t * (den * kept) := by
    rw [ht, Nat.mul_comm kept t, Nat.mul_assoc, Nat.mul_comm kept den]
  rw [hmultiple, roundQuotient]
  simp only [Nat.mul_mod_left, Nat.mul_zero, if_pos hkept, Nat.mul_div_cancel _ hkept]
  rw [ht, Nat.mul_comm]

/-- What has been rounded is rounded to itself. -/
theorem roundSignificand_roundSignificand (num : Nat) {den : Nat} (hden : 0 < den) :
    roundSignificand (roundSignificand num den * den) den = roundSignificand num den := by
  set s := roundSignificand num den with hs
  refine roundSignificand_of_dvd hden ?_
  have hle : s ≤ 2 ^ (53 + spareDigits num den) := roundSignificand_le num den
  have hdvd : 2 ^ spareDigits num den ∣ s := by
    rw [hs, roundSignificand_eq]
    exact Nat.dvd_mul_left _ _
  by_cases htop : s = 2 ^ (53 + spareDigits num den)
  · -- Rounding has led to the next power of two, which has one digit more.
    rw [htop, Nat.log2_two_pow]
    exact Nat.pow_dvd_pow 2 (by omega)
  · have hlog : s.log2 - 52 ≤ spareDigits num den := by
      rcases Nat.eq_zero_or_pos s with hzero | hpos
      · rw [hzero, Nat.log2_zero]
        exact Nat.zero_le _
      · have hlt : s.log2 < 53 + spareDigits num den := by
          rw [Nat.log2_lt (Nat.ne_of_gt hpos)]
          omega
        omega
    exact Nat.dvd_trans (Nat.pow_dvd_pow 2 hlog) hdvd

/-! ## The order -/

theorem Double.ofNat_ne_nan (n : Nat) : Double.ofNat n ≠ .nan := by
  unfold ofNat
  exact nofun

namespace Time

variable {s t u : Time}

/-- A duration that is longer than none. -/
def IsPositive (t : Time) : Prop := zero.before t ∧ t.before zero = false

theorem before_refl (h : t ≠ .undefined) : t.before t := by
  cases t with
  | undefined => exact absurd rfl h
  | «at» n => simp [before]
  | past | future => rfl

theorem before_trans (h : s.before t) (h' : t.before u) : s.before u := by
  cases s <;> cases t <;> cases u <;> simp_all only [before, decide_eq_true_eq]
  all_goals first | omega | exact absurd h Bool.false_ne_true | exact absurd h' Bool.false_ne_true

theorem before_total (hs : s ≠ .undefined) (ht : t ≠ .undefined) : s.before t ∨ t.before s := by
  cases s <;> cases t <;> simp_all [before]
  omega

theorem ne_undefined_of_before (h : s.before t) : s ≠ .undefined ∧ t ≠ .undefined := by
  refine ⟨?_, ?_⟩
  · rintro rfl
    exact absurd h Bool.false_ne_true
  · rintro rfl
    cases s <;> exact absurd h Bool.false_ne_true

theorem ofSeconds_ne_undefined {x : Double} (h : x ≠ .nan) : ofSeconds x ≠ .undefined := by
  intro hundefined
  cases x with
  | nan => exact h rfl
  | infinite negative => cases negative <;> cases hundefined
  | finite negative quanta => cases hundefined

/-- Of two deadlines the earlier one is reached whenever the later one is. -/
theorem reaches_of_before {now : Time} (h : s.before t) (hreached : now.reaches t) :
    now.reaches s :=
  before_trans h hreached

end Time

namespace Arithmetic

open Time

/-! ## Monotone computing -/

variable {s t : Time}

theorem ofQuanta_before {quanta quanta' : Nat} (h : quanta ≤ quanta') :
    (ofSeconds (.ofQuanta false quanta)).before (ofSeconds (.ofQuanta false quanta')) := by
  simp only [Double.ofQuanta]
  split_ifs with hlarge hlarge'
  · rfl
  · omega
  · rfl
  · have hticks : (quanta * ticksPerQuantum : Int) ≤ quanta' * ticksPerQuantum :=
      Int.mul_le_mul_of_nonneg_right (by omega) (Int.natCast_nonneg _)
    simpa [ofSeconds, before] using hticks

theorem ofQuanta_before_of_negative {quanta quanta' : Nat} (h : quanta ≤ quanta') :
    (ofSeconds (.ofQuanta true quanta')).before (ofSeconds (.ofQuanta true quanta)) := by
  simp only [Double.ofQuanta]
  split_ifs with hlarge' hlarge
  · rfl
  · rfl
  · omega
  · have hticks : (-quanta' * ticksPerQuantum : Int) ≤ -quanta * ticksPerQuantum :=
      Int.mul_le_mul_of_nonneg_right (by omega) (Int.natCast_nonneg _)
    simpa [ofSeconds, before] using hticks

theorem zero_before_settle (a : Arithmetic) {n : Int} (h : 0 ≤ n) : zero.before (a.settle n) := by
  cases a with
  | binary =>
    have hfinite : ¬ Double.quantaLimit ≤ 0 := by
      rw [Double.quantaLimit, Nat.not_le]
      exact Nat.two_pow_pos _
    have hzero : zero = ofSeconds (.ofQuanta false 0) := by
      rw [Double.ofQuanta, if_neg hfinite]
      rfl
    rw [settle_binary, decide_eq_false (not_lt.mpr h), hzero]
    exact ofQuanta_before (Nat.zero_le _)
  | exact => simpa [settle, before, zero] using h

theorem settle_mono (a : Arithmetic) {m n : Int} (h : m ≤ n) :
    (a.settle m).before (a.settle n) := by
  by_cases hsign : m ≤ 0 ∧ 0 ≤ n
  · exact before_trans (a.settle_before_zero hsign.1) (a.zero_before_settle hsign.2)
  cases a with
  | exact => simpa [settle, before] using h
  | binary =>
    -- Numbers of one sign are in the order of their sizes, or in the opposite one.
    rw [settle_binary, settle_binary]
    by_cases hneg : n < 0
    · have hsize : n.natAbs ≤ m.natAbs := by omega
      rw [decide_eq_true hneg, decide_eq_true (by omega)]
      exact ofQuanta_before_of_negative (roundSignificand_mono _ hsize)
    · have hsize : m.natAbs ≤ n.natAbs := by omega
      rw [decide_eq_false hneg, decide_eq_false (by omega)]
      exact ofQuanta_before (roundSignificand_mono _ hsize)

theorem settle_ne_undefined (a : Arithmetic) (n : Int) : a.settle n ≠ .undefined :=
  (ne_undefined_of_before (a.settle_mono (Int.le_refl n))).1

theorem plus_ne_undefined (a : Arithmetic) (n : Int) (h : t ≠ .undefined) :
    a.plus (.at n) t ≠ .undefined := by
  cases t with
  | undefined => exact absurd rfl h
  | «at» k => exact a.settle_ne_undefined _
  | past | future => exact nofun

/-- Of two durations the longer one leads to the later time. -/
theorem plus_mono (a : Arithmetic) (n : Int) (h : s.before t) :
    (a.plus (.at n) s).before (a.plus (.at n) t) := by
  obtain ⟨hs, ht⟩ := ne_undefined_of_before h
  have hplus := a.plus_ne_undefined n hs
  have hplus' := a.plus_ne_undefined n ht
  cases s with
  | undefined => exact absurd rfl hs
  | past =>
    show Time.past.before _
    generalize a.plus (.at n) t = later at hplus'
    cases later with
    | undefined => exact absurd rfl hplus'
    | past | «at» _ | future => rfl
  | «at» k =>
    cases t with
    | undefined => exact absurd rfl ht
    | past => exact absurd h Bool.false_ne_true
    | «at» k' =>
      simp only [before, decide_eq_true_eq] at h
      exact a.settle_mono (by omega)
    | future =>
      show (a.settle (n + k)).before .future
      have hsettle := a.settle_ne_undefined (n + k)
      generalize a.settle (n + k) = earlier at hsettle
      cases earlier with
      | undefined => exact absurd rfl hsettle
      | past | «at» _ | future => rfl
  | future =>
    cases t with
    | undefined => exact absurd rfl ht
    | past | «at» _ => exact absurd h Bool.false_ne_true
    | future => rfl

/-- The later of two deadlines leaves the more time. -/
theorem minus_mono (a : Arithmetic) (n : Int) (h : s.before t) :
    (a.minus s (.at n)).before (a.minus t (.at n)) := by
  have hcomm : ∀ t, a.minus t (.at n) = a.plus (.at (-n)) t := by
    rintro (_ | _ | k | _)
    · rfl
    · rfl
    · show a.settle (k + -n) = a.settle (-n + k)
      rw [Int.add_comm]
    · rfl
  rw [hcomm, hcomm]
  exact a.plus_mono (-n) h

theorem micros?_binary (n : Int) : binary.micros? (.at n) =
    if microsLimit * Double.quantaPerUnit ≤ roundSignificand (n.toNat * 2 ^ 6) 1 then none
    else some (roundQuotient (roundSignificand (n.toNat * 2 ^ 6) 1) Double.quantaPerUnit) := rfl

/-- A longer duration does not come to fewer microseconds. -/
theorem micros?_mono (a : Arithmetic) (h : s.before t) {micros : Nat}
    (hmicros : a.micros? t = some micros) : ∃ fewer, a.micros? s = some fewer ∧ fewer ≤ micros := by
  cases t with
  | undefined | future => cases hmicros
  | past =>
    cases s with
    | past => exact ⟨0, rfl, Nat.zero_le _⟩
    | undefined | «at» _ | future => exact absurd h Bool.false_ne_true
  | «at» n =>
    cases s with
    | undefined | future => exact absurd h Bool.false_ne_true
    | past => exact ⟨0, rfl, Nat.zero_le _⟩
    | «at» k =>
      simp only [before, decide_eq_true_eq] at h
      have hsize : k.toNat ≤ n.toNat := by omega
      cases a with
      | exact =>
        cases hmicros
        exact ⟨_, rfl, Nat.div_le_div_right hsize⟩
      | binary =>
        have hrounded : roundSignificand (k.toNat * 2 ^ 6) 1 ≤
            roundSignificand (n.toNat * 2 ^ 6) 1 :=
          roundSignificand_mono 1 (Nat.mul_le_mul_right _ hsize)
        rw [micros?_binary] at hmicros ⊢
        obtain ⟨hsmall, hsome⟩ := Option.ite_none_left_eq_some.mp hmicros
        rw [Option.some_inj] at hsome
        refine ⟨_, if_neg fun hlarge => hsmall (hlarge.trans hrounded), ?_⟩
        rw [← hsome]
        exact roundQuotient_mono _ hrounded

/-! ## Deadlines -/

/-- The clock shows numbers that the machine computes as they are. -/
theorem settle_ticksOf (a : Arithmetic) (micros : Nat) :
    a.settle (a.ticksOf micros) = .at (a.ticksOf micros) := by
  cases a with
  | exact => rfl
  | binary =>
    have hquantum : 0 < ticksPerQuantum := Nat.pow_pos (by decide)
    have hfinite := roundSignificand_lt_quantaLimit micros
    rw [settle_binary, Int.natAbs_natCast, decide_eq_false (by omega), ticksOf,
      roundSignificand_roundSignificand _ hquantum, Double.ofQuanta, if_neg (not_le.mpr hfinite)]
    simp [ofSeconds]

/-- A deadline that is not after now has been reached. -/
theorem reaches_plus_of_before_zero (a : Arithmetic) (micros : Nat) (h : t.before .zero) :
    (a.ofMicros micros).reaches (a.plus (a.ofMicros micros) t) := by
  rw [ofMicros_eq]
  have hzero : a.plus (.at (a.ticksOf micros)) zero = .at (a.ticksOf micros) := by
    show a.settle (a.ticksOf micros + 0) = _
    rw [Int.add_zero, settle_ticksOf]
  have hplus := a.plus_mono (a.ticksOf micros) h
  rwa [hzero] at hplus

/-- The time left until a deadline that has not been reached is positive. -/
theorem isPositive_minus (a : Arithmetic) {micros : Nat} {deadline : Time}
    (hcomputed : a.Computes deadline) (hdefined : deadline ≠ .undefined)
    (h : (a.ofMicros micros).reaches deadline = false) :
    (a.minus deadline (a.ofMicros micros)).IsPositive := by
  have hlonger : (a.minus deadline (a.ofMicros micros)).before .zero = false := by
    by_contra hzero
    rw [Bool.not_eq_false] at hzero
    exact absurd (h.symm.trans (a.reaches_of_before_zero hcomputed hzero)) Bool.false_ne_true
  refine ⟨?_, hlonger⟩
  have hleft : a.minus deadline (a.ofMicros micros) ≠ .undefined := by
    rw [ofMicros_eq]
    exact (ne_undefined_of_before (a.minus_mono _ (before_refl hdefined))).1
  rcases before_total hleft (t := zero) nofun with hshort | hlong
  · exact absurd (hlonger.symm.trans hshort) Bool.false_ne_true
  · exact hlong

end Arithmetic

end ServerLauncher
