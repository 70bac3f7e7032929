import Giro.Ledger.Tables

/-!
# Spending by category

The description of a transfer decides its category: the first rule that has one
of its keywords anywhere in the description, letters compared without regard to
case. A breakdown adds up the transfers of each category and gives every sum as
a percentage of the total.
-/

namespace Giro

/-- What money is spent on. -/
inductive Category
  | rent
  | shopping
  | bills
  | salary
  | dining
  | transfer
  | other
deriving DecidableEq

namespace Category

/-- The name of a category. -/
def label : Category -> String
  | rent => "Rent"
  | shopping => "Shopping"
  | bills => "Bills"
  | salary => "Salary"
  | dining => "Dining"
  | transfer => "Transfer"
  | other => "Other"

/-- Categories and the keywords that lead to them, in the order in which they are tried. -/
def rules : List (Category × List String) :=
  [(rent, ["rent", "housing", "kira"]),
    (shopping, ["market", "grocery", "shop", "migros"]),
    (bills, ["bill", "utility", "invoice", "fatura"]),
    (salary, ["salary", "maaş"]),
    (dining, ["restaurant", "food", "cafe", "yemek"]),
    (transfer, ["transfer", "eft", "fast"])]

/--
The lower-case form of a character, where it can matter: the letters that have
one made of ASCII letters or of the one other letter that keywords contain.
-/
def lowerChar (character : Char) : List Char :=
  if character = 'Ş' then ['ş']
  else if character = '\u212A' then ['k']
  else if character = '\u0130' then ['i', '\u0307']
  else [character.toLower]

/-- Whether characters occur one after the other in a text. -/
def occursIn (keyword : List Char) : List Char -> Bool
  | [] => keyword.isEmpty
  | next :: rest => keyword.isPrefixOf (next :: rest) || occursIn keyword rest

/-- Whether a description holds one of some keywords. -/
def mentions (description : String) (keywords : List String) : Bool :=
  let lowered := description.toList.flatMap lowerChar
  keywords.any (fun keyword => occursIn keyword.toList lowered)

/-- The category of a description; without one, or without a keyword, none in particular. -/
def classify : Option String -> Category
  | none => other
  | some description =>
      match rules.find? (fun rule => mentions description rule.2) with
      | some rule => rule.1
      | none => other

end Category

/-- The share of a category in what was spent. -/
structure CategoryShare where
  category : Category
  amount : Decimal
  percentage : Decimal
deriving DecidableEq

namespace CategoryShare

/-- Digits after the point of a percentage. -/
def percentageDigits : Nat := 4

theorem hundred_fits : (100 : Int).natAbs < Decimal.capacity := by decide

/-- A hundred. -/
def hundred : Decimal := .whole 100 hundred_fits

/-- An amount as a percentage of a total. -/
def percentageOf (amount total : Decimal) : Except Overflow Decimal := do
  let scaled <- amount.mul hundred
  let quotient <- scaled.div total
  .ok ((quotient.roundTo? percentageDigits).getD quotient)

/-- Sums by category with one more amount added to its category. -/
def addToCategory (category : Category) (amount : Decimal) :
    List (Category × Decimal) -> Except Overflow (List (Category × Decimal))
  | [] => do .ok [(category, <- Decimal.zero.add amount)]
  | entry :: rest =>
      if entry.1 = category then do .ok ((category, <- entry.2.add amount) :: rest)
      else do .ok (entry :: (<- addToCategory category amount rest))

/-- The sum of the transfers of each category that occurs. -/
def sums (transfers : List Transfer) : Except Overflow (List (Category × Decimal)) :=
  transfers.foldlM
    (fun entries transfer =>
      addToCategory (.classify transfer.description) transfer.amount entries)
    []

/-- Whether a share stands before another one: by amount, and then by label. -/
def largestFirst (left right : CategoryShare) : Bool :=
  decide (right.amount < left.amount) ||
    (!decide (left.amount < right.amount) &&
      decide (left.category.label <= right.category.label))

/-- The shares of all categories that occur, largest first; none if the total is zero. -/
def breakdown (transfers : List Transfer) : Except Overflow (List CategoryShare) := do
  let total <- Decimal.sum (transfers.map (fun transfer => transfer.amount))
  if total.coefficient = 0 then .ok []
  else
    let entries <- sums transfers
    let shares <-
      entries.mapM (fun entry => do
        .ok (⟨entry.1, entry.2, <- percentageOf entry.2 total⟩ : CategoryShare))
    .ok (shares.mergeSort largestFirst)

end CategoryShare
end Giro
