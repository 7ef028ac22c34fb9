import Mathlib.Algebra.Order.BigOperators.Group.List
import WeatherRelay.Proofs.Binary.Nearest
import WeatherRelay.Proofs.RainStore.Retention

/-! Sums of rain without rounding.

Gauges count in fixed steps. Whole 1024ths of an inch below 16384 inches fit into 24 bits, so that
single precision holds every partial sum of theirs, in whatever order they are added.
-/

set_option autoImplicit false

namespace WeatherRelay

/-- A whole number of 1024ths. -/
def Gauged (inches : Rat) : Prop := ∃ count : Nat, inches = count / 1024

namespace Gauged

theorem zero : Gauged 0 := ⟨0, by simp⟩

theorem add {left right : Rat} (leftGauged : Gauged left) (rightGauged : Gauged right) :
    Gauged (left + right) := by
  obtain ⟨leftCount, rfl⟩ := leftGauged
  obtain ⟨rightCount, rfl⟩ := rightGauged
  refine ⟨leftCount + rightCount, ?_⟩
  push_cast
  ring

theorem nonneg {inches : Rat} (gauged : Gauged inches) : 0 ≤ inches := by
  obtain ⟨count, rfl⟩ := gauged
  positivity

theorem sum {amounts : List Rat} (gauged : ∀ amount ∈ amounts, Gauged amount) :
    Gauged amounts.sum := by
  induction amounts with
  | nil => exact zero
  | cons amount rest ih =>
    rw [List.sum_cons]
    exact (gauged amount List.mem_cons_self).add
      (ih fun other member => gauged other (List.mem_cons_of_mem _ member))

theorem single_holds {inches : Rat} (gauged : Gauged inches) (small : inches < 16384) :
    Format.single.Holds inches where
  short := by
    obtain ⟨count, rfl⟩ := gauged
    -- 16384 inches are 2 ^ 24 steps.
    have bound : count < 2 ^ 24 := by
      rw [div_lt_iff₀ (by norm_num)] at small
      exact_mod_cast (by linarith : (count : Rat) < 2 ^ 24)
    refine ⟨count, -10, by simpa [Format.binade, Format.single, twoTo] using bound, by decide, ?_⟩
    norm_num [div_eq_mul_inv]
  finite := by
    have last : Format.single.infinityRank =
        Format.single.binade + 254 * Format.single.binade := by decide
    rw [last, Format.magnitude_stack _ _ _ (by decide) (.inr le_rfl)]
    refine lt_trans small ?_
    norm_num [Format.binade, Format.single, twoTo]

theorem toRat?_round {inches : Rat} (gauged : Gauged inches) (small : inches < 16384) :
    (Binary.round false inches : Binary32).toRat? = some inches := by
  apply Binary.toRat?_round false (by decide)
  rw [abs_of_nonneg gauged.nonneg]
  exact gauged.single_holds small

/-- Adding up such numbers in order loses nothing, as long as the total is small. -/
theorem foldl_round {α : Type} {value : α → Binary32} (amount : α → Rat) {items : List α}
    {start : Rat} (startGauged : Gauged start) (gauged : ∀ item ∈ items, Gauged (amount item))
    (values : ∀ item ∈ items, (value item).toRat? = some (amount item))
    (small : start + (items.map amount).sum < 16384) :
    items.foldl (fun total item => total + value item) (Binary.round false start) =
      Binary.round false (start + (items.map amount).sum) := by
  induction items generalizing start with
  | nil => simp
  | cons item rest ih =>
    have first := gauged item List.mem_cons_self
    have others : ∀ other ∈ rest, Gauged (amount other) :=
      fun other member => gauged other (List.mem_cons_of_mem _ member)
    have restNonneg : 0 ≤ (rest.map amount).sum :=
      (Gauged.sum fun _ member => by
        obtain ⟨other, held, rfl⟩ := List.mem_map.mp member
        exact others other held).nonneg
    -- The partial sums only grow, so each of them is small if the last one is.
    rw [List.map_cons, List.sum_cons, ← add_assoc] at small ⊢
    have startHeld := startGauged.single_holds (by linarith [first.nonneg])
    rw [List.foldl_cons, Binary.round_false_add (by decide) startGauged.nonneg startHeld
      (values item List.mem_cons_self)]
    exact ih (startGauged.add first) others
      (fun other member => values other (List.mem_cons_of_mem _ member)) small

end Gauged

theorem zero_eq_round : (0 : Binary32) = Binary.round false 0 := by
  change Binary.round false ((0 : Nat) : Rat) = _
  rw [Nat.cast_zero]

namespace RainRow

/-- The rain of a row as a rational. -/
def amount (row : RainRow) : Rat := row.inches.toRat?.getD 0

/-- The rain of a row is a whole number of 1024ths of an inch. -/
def CountsSteps (row : RainRow) : Prop :=
  ∃ count : Nat, row.inches.toRat? = some ((count : Rat) / 1024)

theorem countsSteps_iff {row : RainRow} :
    row.CountsSteps ↔ row.inches.toRat?.any fun inches => 0 ≤ inches && (1024 * inches).den = 1 := by
  unfold CountsSteps
  cases row.inches.toRat? with
  | none => simp
  | some inches =>
    simp only [Option.some.injEq, Option.any_some, Bool.and_eq_true, decide_eq_true_eq]
    constructor
    · rintro ⟨count, rfl⟩
      have whole : (1024 : Rat) * (count / 1024) = (count : Int) := by
        push_cast
        ring
      rw [whole]
      exact ⟨by positivity, Rat.den_intCast _⟩
    · rintro ⟨nonneg, whole⟩
      have natural := Rat.coe_int_num_of_den_eq_one whole
      have signless : (((1024 * inches).num.toNat : Nat) : Int) = (1024 * inches).num :=
        Int.toNat_of_nonneg (Rat.num_nonneg.mpr (by positivity))
      refine ⟨(1024 * inches).num.toNat, ?_⟩
      rw [← Int.cast_natCast, signless, natural]
      ring

instance (row : RainRow) : Decidable row.CountsSteps := decidable_of_iff _ countsSteps_iff.symm

theorem CountsSteps.toRat?_eq {row : RainRow} (counts : row.CountsSteps) :
    row.inches.toRat? = some row.amount := by
  obtain ⟨count, same⟩ := counts
  simp [amount, same]

theorem CountsSteps.gauged {row : RainRow} (counts : row.CountsSteps) : Gauged row.amount := by
  obtain ⟨count, same⟩ := counts
  exact ⟨count, by simp [amount, same]⟩

end RainRow

/-- Both sums are the same, unless every row is a negative zero. -/
theorem rawSum_eq (rows : List RainRow) :
    rawSum rows = if rows.all fun row => row.inches = -0 then -0 else rainSum rows := by
  have kept (x : Binary32) : -0 + x = x := Binary.finite_zero_add (by decide) _ true (.inl rfl)
  unfold rawSum Binary.sum rainSum
  rw [List.foldl_map]
  induction rows with
  | nil => rfl
  | cons row rest ih =>
    rw [List.foldl_cons, List.foldl_cons, List.all_cons, kept]
    by_cases zero : row.inches = -0
    · have positive : (0 : Binary32) + -0 = 0 := by decide +kernel
      rw [decide_eq_true zero, Bool.true_and, zero, positive]
      exact ih
    · have same : 0 + row.inches = row.inches :=
        Binary.finite_zero_add (by decide) (by decide) false (.inr zero)
      rw [decide_eq_false zero, Bool.false_and, if_neg Bool.false_ne_true, same]

/-- The rain of some rows as a rational. -/
def rainAmount (rows : List RainRow) : Rat := (rows.map RainRow.amount).sum

/-- Rows of whole steps that are few enough for single precision. -/
structure SumsExactly (rows : List RainRow) : Prop where
  counts : ∀ row ∈ rows, row.CountsSteps
  small : rainAmount rows < 16384

-- What is summed over some rows and over others is summed over both together.
theorem rainAmount_filter_add {rows : List RainRow} {left right both : RainRow → Bool}
    (split : ∀ row ∈ rows, both row = (left row || right row))
    (apart : ∀ row ∈ rows, left row = true → right row = false) :
    rainAmount (rows.filter left) + rainAmount (rows.filter right) =
      rainAmount (rows.filter both) := by
  induction rows with
  | nil => simp [rainAmount]
  | cons row rest ih =>
    have remaining := ih (fun other member => split other (List.mem_cons_of_mem _ member))
      (fun other member => apart other (List.mem_cons_of_mem _ member))
    have here := split row List.mem_cons_self
    have once := apart row List.mem_cons_self
    unfold rainAmount at remaining ⊢
    cases inLeft : left row with
    | true =>
      have notRight := once inLeft
      simp only [List.filter_cons, here, inLeft, notRight, Bool.true_or, if_true, List.map_cons,
        List.sum_cons, ← remaining, Bool.false_eq_true, if_false]
      ring
    | false =>
      cases inRight : right row <;>
        simp only [List.filter_cons, here, inLeft, inRight, Bool.or_false, Bool.or_true, if_true,
          List.map_cons, List.sum_cons, ← remaining, Bool.false_eq_true, if_false]
      ring

theorem gauged_rainAmount {rows : List RainRow} (counts : ∀ row ∈ rows, row.CountsSteps) :
    Gauged (rainAmount rows) := by
  apply Gauged.sum
  intro amount member
  obtain ⟨row, held, rfl⟩ := List.mem_map.mp member
  exact (counts row held).gauged

-- The rows that are left out take nothing away, so that a part is no more than the whole.
theorem rainAmount_le_of_sublist {part rows : List RainRow} (counts : ∀ row ∈ rows, row.CountsSteps)
    (sublist : part.Sublist rows) : rainAmount part ≤ rainAmount rows := by
  apply (sublist.map RainRow.amount).sum_le_sum
  intro amount member
  obtain ⟨row, among, rfl⟩ := List.mem_map.mp member
  exact (counts row among).gauged.nonneg

namespace SumsExactly

variable {rows : List RainRow}

theorem gauged (exact : SumsExactly rows) : Gauged (rainAmount rows) :=
  gauged_rainAmount exact.counts

theorem sublist {part : List RainRow} (exact : SumsExactly rows) (sublist : part.Sublist rows) :
    SumsExactly part where
  counts row member := exact.counts row (sublist.mem member)
  small := lt_of_le_of_lt (rainAmount_le_of_sublist exact.counts sublist) exact.small

theorem filter (exact : SumsExactly rows) (wanted : RainRow → Bool) :
    SumsExactly (rows.filter wanted) :=
  exact.sublist List.filter_sublist

theorem rainSum_eq_round (exact : SumsExactly rows) :
    rainSum rows = Binary.round false (rainAmount rows) := by
  have summed := Gauged.foldl_round RainRow.amount Gauged.zero
    (fun row member => (exact.counts row member).gauged)
    (fun row member => (exact.counts row member).toRat?_eq)
    (by simpa [rainAmount] using exact.small)
  rw [zero_add] at summed
  unfold rainSum
  rw [zero_eq_round]
  exact summed

theorem rainSum_toRat? (exact : SumsExactly rows) :
    (rainSum rows).toRat? = some (rainAmount rows) := by
  rw [exact.rainSum_eq_round]
  exact exact.gauged.toRat?_round exact.small

theorem rawSum_toRat? (exact : SumsExactly rows) :
    (rawSum rows).toRat? = some (rainAmount rows) := by
  rw [rawSum_eq]
  split
  case isTrue zeros =>
    have nothing : rainAmount rows = 0 := by
      apply List.sum_eq_zero
      intro amount member
      obtain ⟨row, held, rfl⟩ := List.mem_map.mp member
      rw [RainRow.amount, of_decide_eq_true (List.all_eq_true.mp zeros row held)]
      decide +kernel
    rw [nothing]
    decide +kernel
  case isFalse => exact exact.rainSum_toRat?

end SumsExactly

end WeatherRelay
