import Giro.Gateway.Http
import Mathlib.Data.List.Basic

/-!
# Pieces between separators

A text splits at a separator as lists do, and into one piece more than there are
separators.
-/

namespace Giro

theorem Text.splitAt_eq_splitOn (separator : Char) (characters : List Char) :
    splitAt separator characters = characters.splitOn separator := by
  induction characters with
  | nil => rw [splitAt, List.splitOn_nil]
  | cons next rest ih =>
      rw [splitAt, ih, List.splitOn_cons_eq_if_modifyHead]
      cases pieces : rest.splitOn separator with
      | nil => exact absurd pieces (List.splitOn_ne_nil _ _)
      | cons piece others => simp only [beq_iff_eq, List.modifyHead_cons]

theorem Text.length_splitAt (separator : Char) (characters : List Char) :
    (splitAt separator characters).length = characters.count separator + 1 := by
  rw [splitAt_eq_splitOn]
  induction characters with
  | nil => rw [List.splitOn_nil, List.count_nil, List.length_singleton]
  | cons next rest ih =>
      rw [List.splitOn_cons_eq_if_modifyHead, List.count_cons]
      split_ifs with same
      · rw [List.length_cons, ih]
      · rw [List.length_modifyHead, ih, Nat.add_zero]

end Giro
