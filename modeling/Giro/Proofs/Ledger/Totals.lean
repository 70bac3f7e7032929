import Giro.Ledger.Tables
import Giro.Proofs.Decimal.Exactness
import Mathlib.Algebra.Order.BigOperators.Group.List

/-!
# Totals over tables

Sums over the rows of a table, and what writing a row does to them. As long as
all balances are storable and none is negative, adding them up is exact, and no
two of them exceed the total.
-/

namespace Giro
namespace Table

variable {κ α : Type} [DecidableEq κ]

/-- The sum over all rows of what each of them weighs. -/
def sumOf (table : Table κ α) (weigh : α -> Int) : Int :=
  (table.values.map weigh).sum

theorem mem_values_of_get?
    {table : Table κ α}
    {key : κ}
    {value : α}
    (found : table.get? key = some value) :
    value ∈ table.values := by
  rw [get?, Option.map_eq_some_iff] at found
  obtain ⟨row, here, rfl⟩ := found
  exact List.mem_map_of_mem (List.mem_of_find?_eq_some here)

/-- The rows after a write are the written one and some of those before. -/
theorem mem_values_put
    {table : Table κ α}
    {key : κ}
    {value row : α}
    (member : row ∈ (table.put key value).values) :
    row = value ∨ row ∈ table.values := by
  obtain ⟨rows⟩ := table
  simp only [values, put] at member ⊢
  induction rows with
  | nil => simpa [putRow] using member
  | cons first rest ih =>
      rw [putRow] at member
      split at member
      · rw [List.map_cons, List.mem_cons] at member
        exact member.imp_right (fun later => List.mem_cons_of_mem _ later)
      · rw [List.map_cons, List.mem_cons] at member
        rcases member with rfl | later
        · exact Or.inr (List.mem_cons_self ..)
        · exact (ih later).imp_right (fun member => List.mem_cons_of_mem _ member)

/-- Replacing a row takes its weight from the sum and adds that of the new one. -/
theorem sumOf_put
    {table : Table κ α}
    {key : κ}
    {old : α}
    (weigh : α -> Int)
    (new : α)
    (found : table.get? key = some old) :
    (table.put key new).sumOf weigh = table.sumOf weigh - weigh old + weigh new := by
  obtain ⟨rows⟩ := table
  simp only [sumOf, values, put, get?] at found ⊢
  induction rows with
  | nil => cases found
  | cons first rest ih =>
      by_cases here : first.1 = key
      · have same : first.2 = old := by simpa [here] using found
        simp only [putRow, if_pos here, List.map_cons, List.sum_cons, same]
        omega
      · have later := ih (by simpa [here] using found)
        simp only [putRow, if_neg here, List.map_cons, List.sum_cons] at later ⊢
        omega

omit [DecidableEq κ] in
theorem le_sumOf
    {table : Table κ α}
    {weigh : α -> Int}
    (nonnegative : ∀ row ∈ table.values, 0 <= weigh row)
    {row : α}
    (member : row ∈ table.values) :
    weigh row <= table.sumOf weigh := by
  refine List.single_le_sum ?_ _ (List.mem_map_of_mem member)
  intro weight weighed
  obtain ⟨other, there, rfl⟩ := List.mem_map.mp weighed
  exact nonnegative other there

/-- The rows under two keys weigh no more than all rows together. -/
theorem add_le_sumOf
    {table : Table κ α}
    {weigh : α -> Int}
    (nonnegative : ∀ row ∈ table.values, 0 <= weigh row)
    {left right : κ}
    {first second : α}
    (here : table.get? left = some first)
    (there : table.get? right = some second)
    (different : left ≠ right) :
    weigh first + weigh second <= table.sumOf weigh := by
  obtain ⟨rows⟩ := table
  induction rows with
  | nil => cases here
  | cons row rows ih =>
      have later : ∀ other ∈ (mk rows).values, 0 <= weigh other :=
        fun other member => nonnegative other (List.mem_cons_of_mem _ member)
      have weight : 0 <= weigh row.2 := nonnegative row.2 (List.mem_cons_self ..)
      have whole : (mk (row :: rows)).sumOf weigh = weigh row.2 + (mk rows).sumOf weigh := by
        simp [sumOf, values]
      have skips : ∀ key, row.1 ≠ key ->
          (mk (row :: rows)).get? key = (mk rows).get? key := by
        intro key other
        simp [get?, other]
      have finds : ∀ key value, row.1 = key ->
          (mk (row :: rows)).get? key = some value -> row.2 = value := by
        intro key value same found
        simpa [get?, same] using found
      by_cases isFirst : row.1 = left
      · rw [skips right (isFirst.trans_ne different)] at there
        have bound := le_sumOf later (mem_values_of_get? there)
        have same := finds left first isFirst here
        rw [whole, same]
        omega
      · rw [skips left isFirst] at here
        by_cases isSecond : row.1 = right
        · have bound := le_sumOf later (mem_values_of_get? here)
          have same := finds right second isSecond there
          rw [whole, same]
          omega
        · rw [skips right isSecond] at there
          have bound := ih later here there
          rw [whole]
          omega

end Table

namespace Decimal

theorem exactSum_eq_sum (numbers : List Decimal) :
    exactSum numbers = (numbers.map units).sum := by
  induction numbers with
  | nil => rfl
  | cons number rest ih =>
      rw [List.map_cons, List.sum_cons, ← ih]
      rfl

theorem exactSum_append (left right : List Decimal) :
    exactSum (left ++ right) = exactSum left + exactSum right := by
  rw [exactSum_eq_sum, exactSum_eq_sum, exactSum_eq_sum, List.map_append, List.sum_append]

/-- Storable numbers that are not negative are added up exactly, within the range. -/
theorem foldlM_add_exact
    (numbers : List Decimal)
    {start : Decimal}
    (startStorable : start.Storable)
    (startNonnegative : 0 <= start.units)
    (storable : ∀ number ∈ numbers, number.Storable)
    (nonnegative : ∀ number ∈ numbers, 0 <= number.units)
    (fits : start.units + exactSum numbers < exactUnits) :
    ∃ total, numbers.foldlM add start = .ok total ∧
      total.units = start.units + exactSum numbers := by
  induction numbers generalizing start with
  | nil => exact ⟨start, rfl, (Int.add_zero _).symm⟩
  | cons number rest ih =>
      have numberNonnegative := nonnegative number (by simp)
      have restNonnegative : 0 <= exactSum rest := by
        rw [exactSum_eq_sum]
        apply List.sum_nonneg
        intro weight member
        obtain ⟨other, there, rfl⟩ := List.mem_map.mp member
        exact nonnegative other (List.mem_cons_of_mem _ there)
      have whole : exactSum (number :: rest) = number.units + exactSum rest := rfl
      obtain ⟨sum, added, units⟩ := add?_exact startStorable (storable number (by simp))
        (by omega)
      obtain ⟨total, summed, totalUnits⟩ :=
        ih (storable_of_units_add startStorable (storable number (by simp)) units)
          (by omega)
          (fun other member => storable other (List.mem_cons_of_mem _ member))
          (fun other member => nonnegative other (List.mem_cons_of_mem _ member))
          (by omega)
      refine ⟨total, ?_, by omega⟩
      rw [List.foldlM_cons, add, added]
      exact summed

end Decimal
end Giro
