import Giro.Proofs.Decimal.Twice
import Giro.Proofs.Query.Ranges

/-!
# Shares of what was spent

A breakdown has one row for each category that occurs, with exactly what was spent on it
and its percentage of the total, rounded once. The rows come in an order of their own: it
shows neither in which order the transfers came nor in which order the sums by category
were looked at.
-/

namespace Giro

open Decimal (sum exactSum storedUnits unitsOfOne)
open Transfer (amounts Addable Plain)

/-- A function that fails for none of some items gives a value for each. -/
theorem mapM_eq_ok_map
    {ε α β : Type}
    {function : α -> Except ε β}
    {value : α -> β}
    {items : List α}
    (each : ∀ item ∈ items, function item = .ok (value item)) :
    items.mapM function = .ok (items.map value) := by
  induction items with
  | nil => rfl
  | cons item rest ih =>
      obtain ⟨here, there⟩ := List.forall_mem_cons.mp each
      rw [List.mapM_cons, here, ih there]
      rfl

theorem Table.mem_keys_putRow_iff
    {κ α : Type}
    [DecidableEq κ]
    {rows : List (κ × α)}
    {key other : κ}
    {value : α} :
    other ∈ (putRow key value rows).map Prod.fst ↔
      other = key ∨ other ∈ rows.map Prod.fst := by
  induction rows with
  | nil => simp [putRow]
  | cons row rest ih =>
      rw [putRow]
      split
      · rename_i same
        simp [same]
      · rw [List.map_cons, List.mem_cons, ih, List.map_cons, List.mem_cons]
        tauto

namespace CategoryShare

/-! ## Sums by category -/

/-- Sums by category account for some transfers: exactly, and with nothing but them. -/
structure Splits (transfers : List Transfer) (entries : List (Category × Decimal)) : Prop where
  distinct : (entries.map Prod.fst).Nodup
  occurring : ∀ category,
    category ∈ entries.map Prod.fst ↔
      ∃ transfer ∈ transfers, Category.classify transfer.description = category
  exact : ∀ entry ∈ entries,
    entry.2.Addend ∧ entry.2.units = exactSum (amounts (spentOn entry.1 transfers))
  altogether : exactSum (entries.map Prod.snd) = exactSum (amounts transfers)

/-- There are sums for the categories of the transfers, and no others. -/
theorem mem_keys_foldlM
    {category : Category}
    {transfers : List Transfer}
    {entries after : List (Category × Decimal)}
    (grouped : transfers.foldlM (fun entries transfer =>
      addToCategory (.classify transfer.description) transfer.amount entries) entries =
        .ok after) :
    category ∈ after.map Prod.fst ↔
      category ∈ entries.map Prod.fst ∨
        ∃ transfer ∈ transfers, Category.classify transfer.description = category := by
  induction transfers generalizing entries with
  | nil =>
      cases grouped
      simp
  | cons transfer rest ih =>
      rw [List.foldlM_cons, addToCategory_eq] at grouped
      cases added : (sumFor entries (.classify transfer.description)).add transfer.amount with
      | error overflow =>
          rw [added] at grouped
          cases grouped
      | ok total =>
          rw [added] at grouped
          rw [ih grouped, Table.mem_keys_putRow_iff, List.exists_mem_cons_iff]
          tauto

theorem sums_split {transfers : List Transfer} (addable : Addable transfers) :
    ∃ entries, sums transfers = .ok entries ∧ Splits transfers entries := by
  have plain : Plain transfers := ⟨addable.positive, addable.storable⟩
  obtain ⟨total, added, -⟩ := addable.sum_exact
  obtain ⟨entries, grouped, groups⟩ := sums_isOk plain added
  obtain ⟨_, sameGrouped, addedUp⟩ := sums_exact addable
  rw [grouped] at sameGrouped
  cases sameGrouped
  refine ⟨entries, grouped, groups.distinct, fun category => ?_, fun entry member => ?_,
    addedUp.altogether⟩
  · rw [mem_keys_foldlM grouped]
    simp
  · obtain ⟨part, summed, units⟩ := (addable.sublist (spentOn_sublist entry.1 transfers)).sum_exact
    rw [groups.summed, groups.sumFor_eq member] at summed
    cases summed
    exact ⟨addedUp.addends entry member, units⟩

/-- The order of the sums does not matter. -/
theorem Splits.perm
    {transfers : List Transfer}
    {entries shuffled : List (Category × Decimal)}
    (splits : Splits transfers entries)
    (same : shuffled.Perm entries) :
    Splits transfers shuffled where
  distinct := (same.map Prod.fst).nodup_iff.mpr splits.distinct
  occurring := fun category => (same.map Prod.fst).mem_iff.trans (splits.occurring category)
  exact := fun entry member => splits.exact entry (same.mem_iff.mp member)
  altogether := (Decimal.exactSum_perm (same.map Prod.snd)).trans splits.altogether

/-! ## Percentages -/

/-- A hundred times an amount that can be stored is told exactly. -/
theorem mul_hundred_exact
    {amount : Decimal}
    {steps : Nat}
    (units : amount.units = (steps * storedUnits : Nat))
    (fits : 100 * steps < Decimal.capacity) :
    ∃ product, amount.mul hundred = .ok product ∧
      product.units = (100 * steps * storedUnits : Nat) := by
  have hundredth : hundred.coefficient = 100 ∧ hundred.scale = 0 := ⟨rfl, rfl⟩
  by_cases nothing : amount.coefficient = 0
  · refine ⟨.zero, by simp [Decimal.mul, Decimal.mul?, nothing], ?_⟩
    rw [Decimal.units_eq_zero nothing] at units
    have none : steps * storedUnits = 0 := by exact_mod_cast units.symm
    rw [mul_assoc, none]
    rfl
  · have whole : amount.coefficient * 100 * tenTo (28 - amount.scale) =
        (100 * steps : Nat) * storedUnits := by
      rw [Decimal.units] at units
      push_cast at units ⊢
      linear_combination 100 * units
    obtain ⟨product, made, same⟩ := Decimal.ofRatio?_exact amount.scaleFits whole
      (by rwa [Int.natAbs_natCast])
    refine ⟨product, ?_, same.trans (Nat.cast_mul _ _).symm⟩
    simp [Decimal.mul, Decimal.mul?, nothing, hundredth, made]

/-- An addend is so many ten-thousandths. -/
theorem exists_steps {amount : Decimal} (addend : amount.Addend) :
    ∃ steps : Nat, amount.units = (steps * storedUnits : Nat) := by
  obtain ⟨steps, units⟩ := addend.storable
  have nonnegative : 0 <= steps := by
    refine nonneg_of_mul_nonneg_right ?_ (tenTo_cast_pos 24)
    exact units ▸ addend.nonnegative
  refine ⟨steps.toNat, ?_⟩
  rw [Nat.cast_mul, Int.toNat_of_nonneg nonnegative, units, mul_comm]

/-- A percentage is rounded once: to four digits, a half going up. -/
theorem percentageOf_rounds
    {amount total : Decimal}
    (amountAddend : amount.Addend)
    (totalAddend : total.Addend)
    (positive : 0 < total.units)
    (bounded : total.units < tenTo 15 * unitsOfOne)
    (within : amount.units <= total.units) :
    ∃ percentage steps, percentageOf amount total = .ok percentage ∧
      percentage.units = steps * storedUnits ∧
      RoundsTo (100 * tenTo 4 * amount.units) total.units steps := by
  obtain ⟨part, partUnits⟩ := exists_steps amountAddend
  obtain ⟨whole, wholeUnits⟩ := exists_steps totalAddend
  have step : 0 < storedUnits := tenTo_pos 24
  have cap : tenTo 15 * unitsOfOne = (tenTo 19 * storedUnits : Nat) := by decide
  rw [wholeUnits] at positive
  rw [wholeUnits, cap, Nat.cast_lt] at bounded
  rw [partUnits, wholeUnits, Nat.cast_le] at within
  have some : 0 < whole := Nat.pos_of_mul_pos_right (Int.natCast_pos.mp positive)
  have few : whole < tenTo 19 := Nat.lt_of_mul_lt_mul_right bounded
  have less : part <= whole := Nat.le_of_mul_le_mul_right within step
  have fits : 100 * part < Decimal.capacity := by
    have room : 100 * tenTo 19 < Decimal.capacity := by decide
    omega
  obtain ⟨product, multiplied, productUnits⟩ := mul_hundred_exact partUnits fits
  obtain ⟨quotient, rounded, divided, cut, units⟩ :=
    Decimal.div_roundTo productUnits wholeUnits some few (Nat.mul_le_mul_left 100 less)
  refine ⟨rounded, (roundQuotient .awayFromZero (100 * part * tenTo 4) whole : Nat), ?_, ?_, ?_⟩
  · rw [percentageOf, multiplied]
    dsimp only [bind, Except.bind]
    rw [divided]
    dsimp only
    rw [percentageDigits, cut, Option.getD_some]
  · rw [units, Nat.cast_mul]
  · have rounds := (roundsTo_roundQuotient (100 * part * tenTo 4) some).mul_right
      (tenTo_cast_pos 24)
    rw [partUnits, wholeUnits]
    convert rounds using 1
    · push_cast
      rw [storedUnits]
      ring
    · push_cast
      rfl

/-! ## Rows -/

/-- A row is before another one: its amount is larger, or they are equal and its label is less. -/
def Before (earlier later : CategoryShare) : Prop :=
  later.amount.units < earlier.amount.units ∨
    earlier.amount.units = later.amount.units ∧ earlier.category.label < later.category.label

theorem label_injective : Function.Injective Category.label := by
  intro left right same
  cases left <;> cases right <;> first | rfl | exact absurd same (by decide)

/-- Of two categories, the shares are in the order in which they are sorted. -/
theorem before_of_largestFirst
    {earlier later : CategoryShare}
    (sorted : largestFirst earlier later = true)
    (different : earlier.category ≠ later.category) :
    Before earlier later := by
  have labels : earlier.category.label ≠ later.category.label :=
    fun same => different (label_injective same)
  simp only [largestFirst, Bool.or_eq_true, Bool.and_eq_true, Bool.not_eq_true',
    decide_eq_true_eq, decide_eq_false_iff_not, Decimal.lt_def] at sorted
  rcases sorted with larger | ⟨notLess, label⟩
  · exact .inl larger
  · rcases Int.lt_or_eq_of_le (Int.not_lt.mp notLess) with larger | same
    · exact .inl larger
    · exact .inr ⟨same.symm, lt_of_le_of_ne label labels⟩

/-- Sorting puts the largest share first. -/
theorem pairwise_largestFirst (shares : List CategoryShare) :
    (shares.mergeSort largestFirst).Pairwise (fun earlier later =>
      largestFirst earlier later = true) := by
  apply List.pairwise_mergeSort
  · intro first second third before after
    simp only [largestFirst, Bool.or_eq_true, Bool.and_eq_true, Bool.not_eq_true',
      decide_eq_true_eq, decide_eq_false_iff_not, Decimal.lt_def] at before after ⊢
    rcases before with larger | ⟨notLess, label⟩
    · omega
    · rcases after with larger | ⟨notLessEither, labelAfter⟩
      · omega
      · exact .inr ⟨by omega, le_trans label labelAfter⟩
  · intro first second
    simp only [largestFirst, Bool.or_eq_true, Bool.and_eq_true, Bool.not_eq_true',
      decide_eq_true_eq, decide_eq_false_iff_not, Decimal.lt_def]
    have label := le_total first.category.label second.category.label
    rcases label with label | label <;> by_cases less : first.amount.units < second.amount.units <;>
      by_cases more : second.amount.units < first.amount.units <;> simp [less, more, label]

/-- What rows tell of some transfers, with the figures in units. -/
structure Tells (transfers : List Transfer) (rows : List CategoryShare) : Prop where
  distinct : (rows.map CategoryShare.category).Nodup
  occurring : ∀ category,
    category ∈ rows.map CategoryShare.category ↔
      ∃ transfer ∈ transfers, Category.classify transfer.description = category
  amount : ∀ row ∈ rows, row.amount.units = exactSum (amounts (spentOn row.category transfers))
  altogether : exactSum (rows.map CategoryShare.amount) = exactSum (amounts transfers)
  percentage : ∀ row ∈ rows, ∃ steps : Int,
    row.percentage.units = steps * storedUnits ∧
      RoundsTo (100 * tenTo 4 * row.amount.units) (exactSum (amounts transfers)) steps
  hundred : transfers = [] ∧ rows = [] ∨
    2 * (exactSum (rows.map CategoryShare.percentage) - 100 * unitsOfOne).natAbs <=
      rows.length * storedUnits
  ordered : rows.Pairwise Before

/-- The category of a row and its figures, in units. -/
def figures (row : CategoryShare) : Category × Int × Int :=
  (row.category, row.amount.units, row.percentage.units)

/-- Percentages that are rounded each by half a step at most add up to a hundred so closely. -/
theorem exactSum_percentage_near
    {total : Int}
    {rows : List CategoryShare}
    (rounded : ∀ row ∈ rows, ∃ steps : Int,
      row.percentage.units = steps * storedUnits ∧
        RoundsTo (100 * tenTo 4 * row.amount.units) total steps) :
    |2 * (exactSum (rows.map CategoryShare.percentage) * total -
        100 * unitsOfOne * exactSum (rows.map CategoryShare.amount))| <=
      rows.length * (storedUnits * total) := by
  induction rows with
  | nil => simp
  | cons row rest ih =>
      obtain ⟨⟨steps, units, low, high⟩, others⟩ := List.forall_mem_cons.mp rounded
      obtain ⟨below, above⟩ := abs_le.mp (ih others)
      have weight : 100 * unitsOfOne = 100 * tenTo 4 * storedUnits := by decide
      have step : (0 : Int) <= storedUnits := (tenTo_cast_pos 24).le
      have lowHere := Int.mul_le_mul_of_nonneg_left low step
      have highHere := Int.mul_le_mul_of_nonneg_left high.le step
      rw [List.map_cons, List.map_cons, Decimal.exactSum_cons, Decimal.exactSum_cons, units,
        List.length_cons, abs_le]
      rw [weight] at below above ⊢
      push_cast
      constructor
      · linarith
      · linarith

theorem Tells.perm
    {transfers other : List Transfer}
    {rows : List CategoryShare}
    (tells : Tells other rows)
    (shuffled : other.Perm transfers) :
    Tells transfers rows := by
  have total := Transfer.exactSum_amounts_perm shuffled
  have part (category : Category) :
      exactSum (amounts (spentOn category other)) =
        exactSum (amounts (spentOn category transfers)) :=
    Transfer.exactSum_amounts_perm (shuffled.filter _)
  refine ⟨tells.distinct, fun category => ?_, fun row member => ?_, ?_, fun row member => ?_, ?_,
    tells.ordered⟩
  · rw [tells.occurring]
    exact exists_congr fun transfer => and_congr_left' shuffled.mem_iff
  · rw [← part]
    exact tells.amount row member
  · rw [← total]
    exact tells.altogether
  · rw [← total]
    exact tells.percentage row member
  · refine tells.hundred.imp_left (And.imp_left ?_)
    rintro rfl
    exact List.nil_perm.mp shuffled

/-- What rows tell of a category of some transfers, in units. -/
def told (transfers : List Transfer) (category : Category) : Category × Int × Int :=
  let amount := exactSum (amounts (spentOn category transfers))
  let total := exactSum (amounts transfers)
  (category, amount, (2 * (100 * tenTo 4 * amount) + total) / (2 * total) * storedUnits)

/-- Whether more was spent on a category than on another one, or as much, and its label is less. -/
def SpentBefore (transfers : List Transfer) (earlier later : Category) : Prop :=
  exactSum (amounts (spentOn later transfers)) <
      exactSum (amounts (spentOn earlier transfers)) ∨
    exactSum (amounts (spentOn earlier transfers)) =
        exactSum (amounts (spentOn later transfers)) ∧
      earlier.label < later.label

theorem SpentBefore.asymm
    {transfers : List Transfer}
    {earlier later : Category}
    (before : SpentBefore transfers earlier later) :
    ¬ SpentBefore transfers later earlier := by
  rintro (less | ⟨same, label⟩)
  · rcases before with more | ⟨same, -⟩ <;> omega
  · rcases before with more | ⟨-, less⟩
    · omega
    · exact lt_asymm label less

namespace Tells

variable {transfers : List Transfer} {rows : List CategoryShare}

theorem figures_eq_told
    (tells : Tells transfers rows)
    {row : CategoryShare}
    (member : row ∈ rows) :
    figures row = told transfers row.category := by
  obtain ⟨steps, units, rounds⟩ := tells.percentage row member
  rw [figures, told, units, rounds.eq_ediv, tells.amount row member]

theorem pairwise_spentBefore (tells : Tells transfers rows) :
    (rows.map CategoryShare.category).Pairwise (SpentBefore transfers) := by
  rw [List.pairwise_map]
  refine tells.ordered.imp_of_mem fun here there before => ?_
  rw [Before, tells.amount _ here, tells.amount _ there] at before
  exact before

/-- Rows that tell of the same transfers have the same figures in the same order. -/
theorem figures_eq
    {others : List CategoryShare}
    (tells : Tells transfers rows)
    (alsoTells : Tells transfers others) :
    rows.map figures = others.map figures := by
  have categories : rows.map CategoryShare.category = others.map CategoryShare.category := by
    refine List.Perm.eq_of_pairwise (fun first second _ _ before after => ?_)
      tells.pairwise_spentBefore alsoTells.pairwise_spentBefore
      ((List.perm_ext_iff_of_nodup tells.distinct alsoTells.distinct).mpr fun category => ?_)
    · exact absurd after before.asymm
    · rw [tells.occurring, alsoTells.occurring]
  have byCategory {rows : List CategoryShare} (tells : Tells transfers rows) :
      rows.map figures = (rows.map CategoryShare.category).map (told transfers) := by
    rw [List.map_map]
    exact List.map_congr_left fun row member => tells.figures_eq_told member
  rw [byCategory tells, byCategory alsoTells, categories]

end Tells

/-- The breakdown, with the sums by category looked at in some order. -/
def breakdownIn
    (order : List (Category × Decimal) -> List (Category × Decimal))
    (transfers : List Transfer) : Except Overflow (List CategoryShare) := do
  let total <- sum (amounts transfers)
  if total.coefficient = 0 then .ok []
  else
    let entries <- sums transfers
    let shares <- (order entries).mapM (share total)
    .ok (shares.mergeSort largestFirst)

theorem breakdown_eq (transfers : List Transfer) :
    breakdown transfers = breakdownIn id transfers := rfl

/-- The share of a category, if its percentage can be told. -/
def row (total : Decimal) (entry : Category × Decimal) : CategoryShare :=
  ⟨entry.1, entry.2, (percentageOf entry.2 total).toOption.getD .zero⟩

/-- A share of a total can be told, with its percentage rounded once. -/
theorem share_eq_row
    {total : Decimal}
    {entry : Category × Decimal}
    (addend : entry.2.Addend)
    (totalAddend : total.Addend)
    (positive : 0 < total.units)
    (bounded : total.units < tenTo 15 * unitsOfOne)
    (within : entry.2.units <= total.units) :
    share total entry = .ok (row total entry) ∧
      ∃ steps : Int,
        (row total entry).percentage.units = steps * storedUnits ∧
          RoundsTo (100 * tenTo 4 * entry.2.units) total.units steps := by
  obtain ⟨percentage, steps, percent, units, rounds⟩ :=
    percentageOf_rounds addend totalAddend positive bounded within
  refine ⟨?_, steps, ?_, rounds⟩
  · rw [share, row, percent]
    rfl
  · rw [row, percent]
    exact units

/-- Percentages of amounts that come to the total add up to a hundred. -/
theorem percentages_near_hundred
    {total : Int}
    (positive : 0 < total)
    {rows : List CategoryShare}
    (altogether : exactSum (rows.map CategoryShare.amount) = total)
    (rounded : ∀ row ∈ rows, ∃ steps : Int,
      row.percentage.units = steps * storedUnits ∧
        RoundsTo (100 * tenTo 4 * row.amount.units) total steps) :
    2 * (exactSum (rows.map CategoryShare.percentage) - 100 * unitsOfOne).natAbs <=
      rows.length * storedUnits := by
  have near := exactSum_percentage_near rounded
  rw [altogether, ← sub_mul, ← mul_assoc, ← mul_assoc, abs_mul, abs_of_pos positive] at near
  have close := le_of_mul_le_mul_right near positive
  zify
  rwa [abs_mul, abs_two] at close

/-- Sums that account for some transfers become rows that tell of them. -/
theorem Splits.tells
    {transfers : List Transfer}
    {entries : List (Category × Decimal)}
    (splits : Splits transfers entries)
    {total : Decimal}
    (units : total.units = exactSum (amounts transfers))
    (positive : 0 < total.units)
    (bounded : total.units < tenTo 15 * unitsOfOne) :
    ∃ shares, entries.mapM (share total) = .ok shares ∧
      Tells transfers (shares.mergeSort largestFirst) := by
  have addends : ∀ entry ∈ entries, entry.2.Addend := fun entry member =>
    (splits.exact entry member).1
  have totalAddend : total.Addend := by
    refine ⟨?_, positive.le⟩
    rw [Decimal.Storable, units, ← splits.altogether]
    exact Decimal.storedUnits_dvd_exactSum_map addends
  have within : ∀ entry ∈ entries, entry.2.units <= total.units := by
    intro entry member
    rw [units, ← splits.altogether]
    exact Decimal.units_le_exactSum_map addends member
  have shared {entry : Category × Decimal} (member : entry ∈ entries) :=
    share_eq_row (addends entry member) totalAddend positive bounded (within entry member)
  refine ⟨entries.map (row total), mapM_eq_ok_map fun entry member => (shared member).1, ?_⟩
  have sorted := List.mergeSort_perm (entries.map (row total)) largestFirst
  set rows := (entries.map (row total)).mergeSort largestFirst
  have categories : (rows.map CategoryShare.category).Perm (entries.map Prod.fst) := by
    simpa [Function.comp_def, row] using sorted.map CategoryShare.category
  have altogether : exactSum (rows.map CategoryShare.amount) = exactSum (amounts transfers) := by
    rw [Decimal.exactSum_perm (sorted.map CategoryShare.amount), ← splits.altogether, List.map_map]
    rfl
  have distinct := categories.nodup_iff.mpr splits.distinct
  have origin : ∀ share ∈ rows, ∃ entry ∈ entries, row total entry = share := fun share member =>
    List.mem_map.mp (sorted.mem_iff.mp member)
  have percentage : ∀ share ∈ rows, ∃ steps : Int,
      share.percentage.units = steps * storedUnits ∧
        RoundsTo (100 * tenTo 4 * share.amount.units) (exactSum (amounts transfers)) steps := by
    intro share member
    obtain ⟨entry, there, rfl⟩ := origin share member
    exact units ▸ (shared there).2
  refine ⟨distinct, fun category => categories.mem_iff.trans (splits.occurring category),
    fun share member => ?_, altogether, percentage, .inr ?_, ?_⟩
  · obtain ⟨entry, there, rfl⟩ := origin share member
    exact (splits.exact entry there).2
  · exact percentages_near_hundred (units ▸ positive) altogether percentage
  · have different : rows.Pairwise (fun earlier later => earlier.category ≠ later.category) :=
      List.pairwise_map.mp distinct
    exact ((pairwise_largestFirst _).and different).imp fun both =>
      before_of_largestFirst both.1 both.2

theorem breakdownIn_tells
    {order : List (Category × Decimal) -> List (Category × Decimal)}
    (same : ∀ entries, (order entries).Perm entries)
    {transfers : List Transfer}
    (plain : Plain transfers)
    (bounded : exactSum (amounts transfers) < tenTo 15 * unitsOfOne) :
    ∃ rows, breakdownIn order transfers = .ok rows ∧ Tells transfers rows := by
  have room : tenTo 15 * unitsOfOne <= Tables.wealthCap := by decide
  have addable : Addable transfers := ⟨plain.positive, plain.storable, by omega⟩
  obtain ⟨total, added, units⟩ := addable.sum_exact
  rcases eq_nil_of_total plain added with rfl | least
  · exact ⟨[], rfl, by simp, by simp, by simp, rfl, by simp, .inl ⟨rfl, rfl⟩, .nil⟩
  · have positive : 0 < total.units := Int.lt_of_lt_of_le (tenTo_cast_pos 24) least
    have something : total.coefficient ≠ 0 :=
      fun nothing => positive.ne' (Decimal.units_eq_zero nothing)
    obtain ⟨entries, grouped, splits⟩ := sums_split addable
    obtain ⟨shares, made, tells⟩ :=
      (splits.perm (same entries)).tells units positive (units ▸ bounded)
    refine ⟨shares.mergeSort largestFirst, ?_, tells⟩
    rw [breakdownIn, added]
    dsimp only [bind, Except.bind]
    rw [if_neg something, grouped]
    dsimp only
    rw [made]

/--
Transfers of positive amounts with four digits that count, and of less than ten to the
fifteenth altogether, can always be broken down. There is one row for each category that
occurs, with exactly what was spent on it; the rows come to the total, the largest amount
first and equal ones by label. A percentage is a hundred times the amount by the total,
rounded to four digits once, a half going up, so that all of them add up to a hundred but
for half a step each; of nothing there are no shares. Neither the order of the transfers
nor the one in which the sums are looked at changes any row, or the order of rows.
-/
theorem breakdown_tells_shares
    (transfers : List Transfer)
    (positive : ∀ transfer ∈ transfers, Decimal.zero < transfer.amount)
    (storable : ∀ transfer ∈ transfers, transfer.amount.Storable)
    (bounded : exactSum (amounts transfers) < tenTo 15 * unitsOfOne) :
    ∃ rows, breakdown transfers = .ok rows ∧ Tells transfers rows ∧
      ∀ other : List Transfer, other.Perm transfers ->
        ∀ order : List (Category × Decimal) -> List (Category × Decimal),
          (∀ entries, (order entries).Perm entries) ->
            ∃ others, breakdownIn order other = .ok others ∧
              others.map figures = rows.map figures := by
  have plain : Plain transfers := ⟨positive, storable⟩
  have unordered (entries : List (Category × Decimal)) : (id entries).Perm entries := .refl _
  obtain ⟨rows, made, tells⟩ := breakdownIn_tells unordered plain bounded
  refine ⟨rows, (breakdown_eq transfers).trans made, tells,
    fun other shuffled order same => ?_⟩
  have plainOther : Plain other :=
    ⟨fun transfer member => positive transfer (shuffled.mem_iff.mp member),
      fun transfer member => storable transfer (shuffled.mem_iff.mp member)⟩
  have boundedOther : exactSum (amounts other) < tenTo 15 * unitsOfOne := by
    rwa [Transfer.exactSum_amounts_perm shuffled]
  obtain ⟨others, madeOther, tellsOther⟩ := breakdownIn_tells same plainOther boundedOther
  exact ⟨others, madeOther, (tellsOther.perm shuffled).figures_eq tells⟩

end CategoryShare

namespace Sample

/-- Three categories of which none is more than another one. -/
def thirds : List Transfer :=
  [payment 1 3600 "A" "B" (.whole 1 (by decide)) (some "rent"),
    payment 2 3600 "A" "B" (.whole 1 (by decide)) (some "cafe"),
    payment 3 3600 "A" "C" (.whole 1 (by decide)) none]

end Sample

namespace CategoryShare

/-- Three equal sums, whose percentages do not come to a hundred, are told in either order. -/
theorem breakdown_tells_shares_sample :
    (∀ transfer ∈ Sample.thirds, Decimal.zero < transfer.amount) ∧
      (∀ transfer ∈ Sample.thirds, transfer.amount.Storable) ∧
      exactSum (amounts Sample.thirds) < tenTo 15 * unitsOfOne ∧
      ∃ rows, breakdown Sample.thirds = .ok rows ∧ Tells Sample.thirds rows ∧
        Category.dining ∈ rows.map CategoryShare.category ∧
        ∃ others, breakdownIn List.reverse Sample.thirds.reverse = .ok others ∧
          others.map figures = rows.map figures := by
  have positive : ∀ transfer ∈ Sample.thirds, Decimal.zero < transfer.amount := by decide
  have storable : ∀ transfer ∈ Sample.thirds, transfer.amount.Storable := by decide
  have bounded : exactSum (amounts Sample.thirds) < tenTo 15 * unitsOfOne := by decide
  obtain ⟨rows, made, tells, same⟩ :=
    breakdown_tells_shares Sample.thirds positive storable bounded
  have occurs : ∃ transfer ∈ Sample.thirds,
      Category.classify transfer.description = Category.dining := by decide
  exact ⟨positive, storable, bounded, rows, made, tells, (tells.occurring _).mpr occurs,
    same Sample.thirds.reverse (List.reverse_perm _) List.reverse List.reverse_perm⟩

end CategoryShare
end Giro
