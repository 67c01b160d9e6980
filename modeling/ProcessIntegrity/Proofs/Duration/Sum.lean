import ProcessIntegrity.Duration.Spans
/-!
# Sums of spans

What adding up does to the total, in nanoseconds and without durations. A span comes as one or two
amounts, each counted in nanoseconds or in seconds. Adding an amount either gives the exact sum, or
is refused because something on the way does not fit, or tips the total over: the sum is the first
number of nanoseconds that no duration has, and the amount is a second or less of nanoseconds, which
is not carried in time.
-/

namespace ProcessIntegrity.Duration

open TimeUnit (Worth)

def limit : Nat := UInt64.size * 1000000000

theorem toNanos_lt_limit (d : Duration) : d.toNanos < limit := by
  have hsecs := d.secs_lt
  have hnanos := d.nanos_lt
  unfold toNanos limit
  omega

theorem toNanos_injective {d e : Duration} (h : d.toNanos = e.toNanos) : d = e := by
  have hd := ofNanos?_toNanos d
  rw [h, ofNanos?_toNanos] at hd
  exact (Option.some.inj hd).symm

theorem exists_toNanos_eq {n : Nat} (h : n < limit) : ∃ d : Duration, d.toNanos = n := by
  have hsecs : n / 1000000000 < UInt64.size := by
    unfold limit at h
    omega
  exact ⟨_, toNanos_ofNanos? (dif_pos hsecs)⟩

theorem ofNanos?_eq_some_iff {n : Nat} {d : Duration} : ofNanos? n = some d ↔ d.toNanos = n := by
  constructor
  · exact toNanos_ofNanos?
  · intro h
    rw [← h]
    exact ofNanos?_toNanos d

theorem ofNanos?_eq_none_iff {n : Nat} : ofNanos? n = none ↔ limit ≤ n := by
  constructor
  · intro h
    rcases Nat.lt_or_ge n limit with hlt | hge
    · obtain ⟨d, hd⟩ := exists_toNanos_eq hlt
      rw [ofNanos?_eq_some_iff.2 hd] at h
      cases h
    · exact hge
  · intro h
    cases hn : ofNanos? n with
    | none => rfl
    | some d =>
        have hd := ofNanos?_eq_some_iff.1 hn
        have hlt := toNanos_lt_limit d
        omega

/-! ## One addition -/

theorem size_eq : UInt64.size = 18446744073709551616 := rfl

theorem fit_of_lt {n : Nat} (h : n < UInt64.size) : fit n = .ok n := if_pos h

theorem fit_of_ge {n : Nat} (h : UInt64.size ≤ n) : fit n = .error .numberTooLarge :=
  if_neg (Nat.not_lt.2 h)

theorem ok_bind {α β : Type} (a : α) (f : α → Except Fault β) : (Except.ok a >>= f) = f a :=
  pure_bind a f

theorem error_bind {α β : Type} (fault : Fault) (f : α → Except Fault β) :
    (Except.error fault >>= f) = .error fault := rfl

/-- The end of an addition, where the nanoseconds may still be a whole second. -/
def settle (secs nanos : Nat) : Except Fault Duration := do
  let secs ← fit secs
  match ofNanos? (secs * 1000000000 + nanos) with
  | some sum => .ok sum
  | none => .error .carryOverflow

theorem settle_of_ge {secs nanos : Nat} (h : UInt64.size ≤ secs) :
    settle secs nanos = .error .numberTooLarge := by
  rw [settle, fit_of_ge h, error_bind]

theorem settle_ok_iff {secs nanos : Nat} {d : Duration} :
    settle secs nanos = .ok d ↔ secs < UInt64.size ∧ d.toNanos = secs * 1000000000 + nanos := by
  by_cases hsecs : secs < UInt64.size
  · rw [settle, fit_of_lt hsecs, ok_bind, ← ofNanos?_eq_some_iff]
    cases ofNanos? (secs * 1000000000 + nanos) with
    | none => simp
    | some sum => simp [hsecs]
  · rw [settle_of_ge (Nat.not_lt.1 hsecs)]
    simp [hsecs]

theorem settle_crash_iff {secs nanos : Nat} :
    settle secs nanos = .error .carryOverflow ↔
      secs < UInt64.size ∧ limit ≤ secs * 1000000000 + nanos := by
  by_cases hsecs : secs < UInt64.size
  · rw [settle, fit_of_lt hsecs, ok_bind, ← ofNanos?_eq_none_iff]
    cases ofNanos? (secs * 1000000000 + nanos) with
    | none => simp [hsecs]
    | some sum => simp
  · rw [settle_of_ge (Nat.not_lt.1 hsecs)]
    simp [hsecs]

theorem add_of_ge {total : Duration} {secs nanos : Nat} (h : UInt64.size ≤ total.nanos + nanos) :
    total.add secs nanos = .error .numberTooLarge := by
  rw [add, fit_of_ge h, error_bind]

/-- With at most a second of nanoseconds nothing is carried before the end. -/
theorem add_of_le {total : Duration} {secs nanos : Nat} (h : total.nanos + nanos ≤ 1000000000) :
    total.add secs nanos = settle (total.secs + secs) (total.nanos + nanos) := by
  have hsize := size_eq
  have hfit : total.nanos + nanos < UInt64.size := by omega
  rw [add, fit_of_lt hfit, ok_bind, if_neg (Nat.not_lt.2 h), pure_bind]
  unfold settle
  refine congrArg (fit (total.secs + secs) >>= ·) (funext fun s => ?_)
  cases ofNanos? (s * 1000000000 + (total.nanos + nanos)) <;> rfl

theorem add_of_gt {total : Duration} {nanos : Nat} (h : 1000000000 < total.nanos + nanos)
    (hfit : total.nanos + nanos < UInt64.size) :
    total.add 0 nanos =
      settle (total.secs + (total.nanos + nanos) / 1000000000)
        ((total.nanos + nanos) % 1000000000) := by
  have hcarry : 0 + (total.nanos + nanos) / 1000000000 < UInt64.size := by omega
  rw [add, fit_of_lt hfit, ok_bind, if_pos h, fit_of_lt hcarry, ok_bind, pure_bind, Nat.zero_add]
  unfold settle
  refine congrArg (fit (total.secs + (total.nanos + nanos) / 1000000000) >>= ·) (funext fun s => ?_)
  cases ofNanos? (s * 1000000000 + (total.nanos + nanos) % 1000000000) <;> rfl

theorem add_secs_ok_iff {total d : Duration} {n : Nat} :
    total.add n 0 = .ok d ↔ d.toNanos = total.toNanos + n * 1000000000 := by
  have hnanos := total.nanos_lt
  have hd := toNanos_lt_limit d
  rw [add_of_le (by omega), settle_ok_iff]
  unfold toNanos limit at *
  omega

theorem add_secs_ne_crash {total : Duration} {n : Nat} :
    total.add n 0 ≠ .error .carryOverflow := by
  have hnanos := total.nanos_lt
  intro h
  rw [add_of_le (by omega), settle_crash_iff] at h
  unfold limit at h
  omega

/-- Adding nanoseconds is exact, with all nanoseconds below a second first added in 64 bits. -/
theorem add_nanos_ok_iff {total d : Duration} {n : Nat} :
    total.add 0 n = .ok d ↔ total.nanos + n < UInt64.size ∧ d.toNanos = total.toNanos + n := by
  have hd := toNanos_lt_limit d
  by_cases hfit : total.nanos + n < UInt64.size
  · by_cases hle : total.nanos + n ≤ 1000000000
    · rw [add_of_le hle, settle_ok_iff]
      have hsecs := total.secs_lt
      unfold toNanos
      omega
    · rw [add_of_gt (Nat.not_le.1 hle) hfit, settle_ok_iff]
      unfold toNanos limit at *
      omega
  · rw [add_of_ge (Nat.not_lt.1 hfit)]
    simp [hfit]

/-- Adding nanoseconds tips a total over at one point only. -/
theorem add_nanos_crash_iff {total : Duration} {n : Nat} :
    total.add 0 n = .error .carryOverflow ↔ n ≤ 1000000000 ∧ total.toNanos + n = limit := by
  have hsecs := total.secs_lt
  have hnanos := total.nanos_lt
  by_cases hfit : total.nanos + n < UInt64.size
  · by_cases hle : total.nanos + n ≤ 1000000000
    · rw [add_of_le hle, settle_crash_iff]
      unfold toNanos limit
      omega
    · rw [add_of_gt (Nat.not_le.1 hle) hfit, settle_crash_iff]
      unfold toNanos limit
      omega
  · rw [add_of_ge (Nat.not_lt.1 hfit)]
    have hsize := size_eq
    have hlarge : ¬ n ≤ 1000000000 := by omega
    simp [hlarge]

/-! ## Amounts -/

def TimeUnit.Worth.perUnit : Worth → Nat
  | .nanos perUnit => perUnit
  | .secs perUnit => perUnit

/-- So much of a unit: `count` over `divisor`, with the worth of the unit. Where a unit has no
fractions there is no worth. -/
structure Amount where
  count : Nat
  divisor : Nat
  worth : Option Worth
  divisor_pos : 0 < divisor

namespace Amount

/-- The amount is `n` of what its worth counts in exactly, and 64 bits are enough to find out. -/
structure Exact (a : Amount) (worth : Worth) (n : Nat) : Prop where
  worth_eq : a.worth = some worth
  fits : a.count * worth.perUnit < UInt64.size
  exact : a.count * worth.perUnit = n * a.divisor

inductive Adds (a : Amount) (total : Nat) : Nat → Prop
  | nanos {perUnit n : Nat} (exact : a.Exact (.nanos perUnit) n)
      (fits : total % 1000000000 + n < UInt64.size) (within : total + n < limit) :
      Adds a total (total + n)
  | secs {perUnit n : Nat} (exact : a.Exact (.secs perUnit) n)
      (within : total + n * 1000000000 < limit) : Adds a total (total + n * 1000000000)

/-- The amount is a second or less of nanoseconds and makes the total just too large. -/
def Tips (a : Amount) (total : Nat) : Prop :=
  ∃ perUnit n, a.Exact (.nanos perUnit) n ∧ n ≤ 1000000000 ∧ total + n = limit

theorem Adds.lt_limit {a : Amount} {total next : Nat} (h : a.Adds total next) : next < limit := by
  cases h with
  | nanos _ _ hwithin => exact hwithin
  | secs _ hwithin => exact hwithin

end Amount

inductive Totals : Nat → List Amount → Nat → Prop
  | nil (total : Nat) : Totals total [] total
  | cons {a : Amount} {later : List Amount} {total next sum : Nat} :
      a.Adds total next → Totals next later sum → Totals total (a :: later) sum

inductive TipsOver : Nat → List Amount → Prop
  | here {a : Amount} {later : List Amount} {total : Nat} :
      a.Tips total → TipsOver total (a :: later)
  | later {a : Amount} {later : List Amount} {total next : Nat} :
      a.Adds total next → TipsOver next later → TipsOver total (a :: later)

def addAmount (total : Duration) (a : Amount) : Except Fault Duration :=
  match a.worth with
  | none => .error .numberTooLarge
  | some worth => total.addWorth a.count a.divisor worth

def addUnits (total : Duration) (worth : Worth) (n : Nat) : Except Fault Duration :=
  match worth with
  | .nanos _ => total.add 0 n
  | .secs _ => total.add n 0

theorem addWorth_eq (total : Duration) (count divisor : Nat) (worth : Worth) :
    total.addWorth count divisor worth = (do
      let product ← fit (count * worth.perUnit)
      if product % divisor = 0 then total.addUnits worth (product / divisor)
      else .error .numberTooLarge) := by
  cases worth with
  | nanos perUnit => rfl
  | secs perUnit => rfl

theorem addAmount_of_exact {a : Amount} {worth : Worth} {n : Nat} (h : a.Exact worth n)
    (total : Duration) : total.addAmount a = total.addUnits worth n := by
  have hmod : a.count * worth.perUnit % a.divisor = 0 := by
    rw [h.exact, Nat.mul_mod_left]
  have hdiv : a.count * worth.perUnit / a.divisor = n := by
    rw [h.exact, Nat.mul_div_cancel n a.divisor_pos]
  rw [addAmount, h.worth_eq]
  simp only
  rw [addWorth_eq, fit_of_lt h.fits, ok_bind, if_pos hmod, hdiv]

theorem addAmount_of_not_exact {a : Amount} (h : ∀ worth n, ¬ a.Exact worth n)
    (total : Duration) : total.addAmount a = .error .numberTooLarge := by
  rw [addAmount]
  cases hworth : a.worth with
  | none => rfl
  | some worth =>
      simp only
      rw [addWorth_eq]
      by_cases hfits : a.count * worth.perUnit < UInt64.size
      · have hmod : a.count * worth.perUnit % a.divisor ≠ 0 := fun hmod =>
          h worth _ ⟨hworth, hfits, (Nat.div_mul_cancel (Nat.dvd_of_mod_eq_zero hmod)).symm⟩
        rw [fit_of_lt hfits, ok_bind, if_neg hmod]
      · rw [fit_of_ge (Nat.not_lt.1 hfits), error_bind]

theorem toNanos_mod (d : Duration) : d.toNanos % 1000000000 = d.nanos := by
  have hnanos := d.nanos_lt
  unfold toNanos
  omega

theorem addAmount_ok_iff {total d : Duration} {a : Amount} :
    total.addAmount a = .ok d ↔ a.Adds total.toNanos d.toNanos := by
  have hmod := toNanos_mod total
  constructor
  · intro h
    by_cases hexact : ∃ worth n, a.Exact worth n
    · obtain ⟨worth, n, hexact⟩ := hexact
      rw [addAmount_of_exact hexact] at h
      have hlimit := toNanos_lt_limit d
      cases worth with
      | nanos perUnit =>
          obtain ⟨hfits, hd⟩ := add_nanos_ok_iff.1 h
          rw [hd] at hlimit ⊢
          exact .nanos hexact (by omega) hlimit
      | secs perUnit =>
          have hd := add_secs_ok_iff.1 h
          rw [hd] at hlimit ⊢
          exact .secs hexact hlimit
    · rw [addAmount_of_not_exact fun worth n hn => hexact ⟨worth, n, hn⟩] at h
      cases h
  · intro h
    generalize hd : d.toNanos = sum at h
    cases h with
    | nanos hexact hfits hwithin =>
        rw [addAmount_of_exact hexact]
        exact add_nanos_ok_iff.2 ⟨by omega, hd⟩
    | secs hexact hwithin =>
        rw [addAmount_of_exact hexact]
        exact add_secs_ok_iff.2 hd

theorem addAmount_crash_iff {total : Duration} {a : Amount} :
    total.addAmount a = .error .carryOverflow ↔ a.Tips total.toNanos := by
  constructor
  · intro h
    by_cases hexact : ∃ worth n, a.Exact worth n
    · obtain ⟨worth, n, hexact⟩ := hexact
      rw [addAmount_of_exact hexact] at h
      cases worth with
      | nanos perUnit => exact ⟨perUnit, n, hexact, add_nanos_crash_iff.1 h⟩
      | secs perUnit => exact absurd h add_secs_ne_crash
    · rw [addAmount_of_not_exact fun worth n hn => hexact ⟨worth, n, hn⟩] at h
      cases h
  · intro h
    obtain ⟨perUnit, n, hexact, htips⟩ := h
    rw [addAmount_of_exact hexact]
    exact add_nanos_crash_iff.2 htips

/-! ## Any number of amounts -/

def addAmounts (total : Duration) (as : List Amount) : Except Fault Duration :=
  as.foldlM addAmount total

theorem addAmounts_nil (total : Duration) : total.addAmounts [] = .ok total := rfl

theorem addAmounts_cons (total : Duration) (a : Amount) (later : List Amount) :
    total.addAmounts (a :: later) = total.addAmount a >>= (addAmounts · later) := by
  unfold addAmounts
  rw [List.foldlM_cons]

theorem addAmounts_ok_iff {total d : Duration} {as : List Amount} :
    total.addAmounts as = .ok d ↔ Totals total.toNanos as d.toNanos := by
  induction as generalizing total with
  | nil =>
      rw [addAmounts_nil]
      constructor
      · intro h
        rw [Except.ok.inj h]
        exact .nil d.toNanos
      · intro h
        generalize hd : d.toNanos = sum at h
        cases h
        rw [toNanos_injective hd]
  | cons a later ih =>
      rw [addAmounts_cons]
      constructor
      · intro h
        cases hnext : total.addAmount a with
        | error fault =>
            rw [hnext, error_bind] at h
            cases h
        | ok next =>
            rw [hnext, ok_bind] at h
            exact .cons (addAmount_ok_iff.1 hnext) (ih.1 h)
      · intro h
        cases h with
        | cons hadds hlater =>
            obtain ⟨next, rfl⟩ := exists_toNanos_eq hadds.lt_limit
            rw [addAmount_ok_iff.2 hadds, ok_bind]
            exact ih.2 hlater

theorem addAmounts_crash_iff {total : Duration} {as : List Amount} :
    total.addAmounts as = .error .carryOverflow ↔ TipsOver total.toNanos as := by
  induction as generalizing total with
  | nil =>
      rw [addAmounts_nil]
      constructor
      · intro h
        cases h
      · intro h
        cases h
  | cons a later ih =>
      rw [addAmounts_cons]
      constructor
      · intro h
        cases hnext : total.addAmount a with
        | error fault =>
            rw [hnext, error_bind] at h
            rw [h] at hnext
            exact .here (addAmount_crash_iff.1 hnext)
        | ok next =>
            rw [hnext, ok_bind] at h
            exact .later (addAmount_ok_iff.1 hnext) (ih.1 h)
      · intro h
        cases h with
        | here htips => rw [addAmount_crash_iff.2 htips, error_bind]
        | later hadds hlater =>
            obtain ⟨next, rfl⟩ := exists_toNanos_eq hadds.lt_limit
            rw [addAmount_ok_iff.2 hadds, ok_bind]
            exact ih.2 hlater

end ProcessIntegrity.Duration
