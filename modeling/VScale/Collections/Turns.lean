import Mathlib.Data.Int.CardIntervalMod

/-!
# Turns of a shared counter

A counter that advances by a fixed step is read modulo the number of places.
The turns are spread evenly over the places when step and number of places are
coprime; otherwise some places are never reached, and evenness only lasts until
the counter is back where it started.
-/

namespace Collections

variable {start step places rounds : Nat}

/-- How often a place is reached in a number of rounds. -/
def turns (start step places rounds place : Nat) : Nat :=
  (List.range rounds).countP fun round => (start + round * step) % places = place

/-- Every place is reached as often as any other, up to one turn. -/
def EvenlySpread (start step places rounds : Nat) : Prop :=
  ∀ place < places,
    rounds / places ≤ turns start step places rounds place ∧
      turns start step places rounds place ≤ (rounds + places - 1) / places

theorem countP_range_eq_count
    (holds : Nat → Prop)
    [DecidablePred holds]
    (rounds : Nat) :
    (List.range rounds).countP (fun round => holds round) = Nat.count holds rounds := by
  induction rounds with
  | zero => rfl
  | succ rounds ih =>
      rw [List.range_succ, List.countP_append, ih, Nat.count_succ,
        List.countP_singleton]
      simp only [decide_eq_true_eq]

/-- With a coprime step a place is reached in the rounds of one residue class. -/
theorem exists_round_of_coprime
    (coprime : Nat.Coprime step places)
    (some : 0 < places)
    {place : Nat}
    (inside : place < places) :
    ∃ first, ∀ round, (start + round * step) % places = place ↔ round ≡ first [MOD places] := by
  obtain ⟨first, _, reaches⟩ := Nat.exists_mul_mod_eq_of_coprime
    (place + (places - start % places)) coprime (Nat.ne_of_gt some)
  have goal : start + (place + (places - start % places)) ≡ place [MOD places] := by
    have parts := Nat.div_add_mod start places
    have below := Nat.mod_lt start some
    have sum : start + (place + (places - start % places)) =
        place + places * (start / places + 1) := by
      rw [Nat.mul_add, Nat.mul_one]
      omega
    rw [sum]
    exact Nat.add_mul_mod_self_left place places _
  refine ⟨first, fun round => ?_⟩
  have reached : (start + round * step) % places = place ↔
      start + round * step ≡ place [MOD places] := by
    rw [Nat.ModEq, Nat.mod_eq_of_lt inside]
  rw [reached]
  constructor
  · intro same
    have cancelled := Nat.ModEq.add_left_cancel' start (same.trans goal.symm)
    have equal : round * step ≡ first * step [MOD places] := by
      rw [Nat.mul_comm first]
      exact cancelled.trans (Eq.symm reaches)
    exact Nat.ModEq.cancel_right_of_coprime coprime.symm equal
  · intro same
    have moved : round * step ≡ place + (places - start % places) [MOD places] := by
      refine (same.mul_right step).trans ?_
      rw [Nat.mul_comm first]
      exact reaches
    exact (moved.add_left start).trans goal

theorem evenlySpread_of_coprime (coprime : Nat.Coprime step places) :
    EvenlySpread start step places rounds := by
  intro place inside
  have some : 0 < places := by omega
  obtain ⟨first, class_iff⟩ := exists_round_of_coprime coprime some inside
  have counted : turns start step places rounds place =
      rounds / places + if first % places < rounds % places then 1 else 0 := by
    rw [← Nat.count_modEq_card rounds some first, ← countP_range_eq_count]
    apply List.countP_congr
    intro round _
    rw [decide_eq_true_eq, decide_eq_true_eq, class_iff]
  rw [counted]
  refine ⟨Nat.le_add_right _ _, ?_⟩
  rw [Nat.le_div_iff_mul_le some, Nat.add_mul]
  have parts := Nat.div_add_mod rounds places
  rw [Nat.mul_comm] at parts
  split
  · omega
  · omega

/-- Two rounds that reach one place are a whole period apart. -/
theorem period_dvd_sub
    (some : 0 < places)
    {first second : Nat}
    (order : first ≤ second)
    (same : (start + first * step) % places = (start + second * step) % places) :
    places / Nat.gcd places step ∣ second - first := by
  have moved : first * step ≡ second * step [MOD places] :=
    Nat.ModEq.add_left_cancel' start same
  exact (Nat.modEq_iff_dvd' order).mp (Nat.ModEq.cancel_right_div_gcd some moved)

/-- Within one period no place is reached twice. -/
theorem turns_le_one
    (some : 0 < places)
    (short : rounds * Nat.gcd step places ≤ places)
    (place : Nat) : turns start step places rounds place ≤ 1 := by
  have period : rounds ≤ places / Nat.gcd places step := by
    rw [Nat.gcd_comm places, Nat.le_div_iff_mul_le (Nat.gcd_pos_of_pos_right step some)]
    exact short
  have reaching : ((List.range rounds).filter fun round =>
      decide ((start + round * step) % places = place)).Pairwise (· < ·) :=
    List.pairwise_lt_range.filter _
  rw [turns, List.countP_eq_length_filter]
  cases found : (List.range rounds).filter fun round =>
      decide ((start + round * step) % places = place) with
  | nil => exact Nat.zero_le 1
  | cons first later =>
      cases later with
      | nil => exact Nat.le_refl 1
      | cons second others =>
          have member : ∀ round ∈ first :: second :: others,
              round < rounds ∧ (start + round * step) % places = place := by
            intro round listed
            rw [← found, List.mem_filter, List.mem_range, decide_eq_true_eq] at listed
            exact listed
          obtain ⟨_, reachFirst⟩ := member first List.mem_cons_self
          obtain ⟨below, reachSecond⟩ :=
            member second (List.mem_cons_of_mem first List.mem_cons_self)
          rw [found] at reaching
          have order := (List.pairwise_cons.mp reaching).1 second List.mem_cons_self
          have apart := Nat.le_of_dvd (by omega)
            (period_dvd_sub some (Nat.le_of_lt order) (reachFirst.trans reachSecond.symm))
          omega

/-- After a whole period the counter is back. -/
theorem back_after_period (start step places : Nat) :
    (start + places / Nat.gcd step places * step) % places = start % places := by
  obtain ⟨quotient, multiple⟩ := Nat.gcd_dvd_left step places
  have whole := Nat.div_mul_cancel (Nat.gcd_dvd_right step places)
  have product : places / Nat.gcd step places * step = places * quotient := by
    calc
      _ = places / Nat.gcd step places * (Nat.gcd step places * quotient) := by rw [← multiple]
      _ = places / Nat.gcd step places * Nat.gcd step places * quotient :=
        (Nat.mul_assoc _ _ _).symm
      _ = places * quotient := by rw [whole]
  rw [product, Nat.add_mul_mod_self_left]

/-- The place behind the first one is not reached with a common divisor. -/
theorem turns_eq_zero (shared : ¬ Nat.Coprime step places) :
    turns start step places rounds ((start + 1) % places) = 0 := by
  rw [turns, List.countP_eq_zero]
  intro round _ reached
  have same : start + round * step ≡ start + 1 [MOD places] := of_decide_eq_true reached
  have one : round * step ≡ 1 [MOD Nat.gcd step places] :=
    (Nat.ModEq.add_left_cancel' start same).of_dvd (Nat.gcd_dvd_right step places)
  have zero : round * step ≡ 0 [MOD Nat.gcd step places] :=
    (Nat.modEq_zero_iff_dvd).mpr ((Nat.gcd_dvd_left step places).mul_left round)
  exact shared (Nat.dvd_one.mp ((Nat.modEq_zero_iff_dvd).mp (one.symm.trans zero)))

/-- Beyond one period the first place is reached again. -/
theorem two_le_turns
    (some : 0 < places)
    (long : places < rounds * Nat.gcd step places) :
    2 ≤ turns start step places rounds (start % places) := by
  have divisor := Nat.gcd_pos_of_pos_right step some
  have positive : 0 < places / Nat.gcd step places :=
    Nat.div_pos (Nat.gcd_le_right step some) divisor
  have past : places / Nat.gcd step places < rounds := (Nat.div_lt_iff_lt_mul divisor).mpr long
  rw [turns, countP_range_eq_count]
  calc
    2 = Nat.count (fun round => (start + round * step) % places = start % places) 1 + 1 := by
      simp [Nat.count_succ]
    _ ≤ Nat.count (fun round => (start + round * step) % places = start % places)
          (places / Nat.gcd step places) + 1 :=
      Nat.add_le_add_right (Nat.count_monotone _ positive) 1
    _ = Nat.count (fun round => (start + round * step) % places = start % places)
          (places / Nat.gcd step places + 1) := by
      rw [Nat.count_succ, if_pos (back_after_period start step places)]
    _ ≤ _ := Nat.count_monotone _ past

/-- The turns are spread evenly exactly when the step is coprime to the number of places or
the rounds do not go beyond one period. -/
theorem evenlySpread_iff (some : 0 < places) :
    EvenlySpread start step places rounds ↔
      Nat.Coprime step places ∨ rounds * Nat.gcd step places ≤ places := by
  constructor
  · intro even
    by_contra neither
    rw [not_or, Nat.not_le] at neither
    obtain ⟨shared, long⟩ := neither
    by_cases many : places ≤ rounds
    · have missed := (even _ (Nat.mod_lt (start + 1) some)).1
      rw [turns_eq_zero shared] at missed
      have full := Nat.div_pos many some
      omega
    · have twice := (two_le_turns some long).trans (even _ (Nat.mod_lt start some)).2
      rw [Nat.le_div_iff_mul_le some] at twice
      omega
  · rintro (coprime | short)
    · exact evenlySpread_of_coprime coprime
    · by_cases coprime : Nat.Coprime step places
      · exact evenlySpread_of_coprime coprime
      · have divisor : 2 ≤ Nat.gcd step places := by
          have positive := Nat.gcd_pos_of_pos_right step some
          rw [Nat.Coprime] at coprime
          omega
        have few := (Nat.mul_le_mul_left rounds divisor).trans short
        intro place _
        rw [Nat.div_eq_of_lt (by omega), Nat.le_div_iff_mul_le some]
        refine ⟨Nat.zero_le _, ?_⟩
        cases rounds with
        | zero => simp [turns]
        | succ rounds =>
            have once : turns start step places (rounds + 1) place * places ≤ 1 * places :=
              Nat.mul_le_mul_right places (turns_le_one some short place)
            omega

end Collections
