import Giro.Proofs.Traffic.Judgement

/-!
# Administration of accounts

Writes to accounts that ask for no lock. They are about the profile of an
account, which is all of it but its balance; a posting is about balances, and
has the profiles of the rows that it was made from.
-/

namespace Giro

/-- An account but for its balance. -/
def Account.profile (account : Account) : Account :=
  { account with balance := .zero }

/-- A mapped row is found under the key of the row that it was made from. -/
theorem Table.get?_mapValues
    {κ α : Type}
    [DecidableEq κ]
    (table : Table κ α)
    (function : α -> α)
    (key : κ) :
    (table.mapValues function).get? key = (table.get? key).map function := by
  obtain ⟨rows⟩ := table
  simp only [get?, mapValues]
  induction rows with
  | nil => rfl
  | cons row rest ih =>
      by_cases here : row.1 = key
      · simp [here]
      · simpa [here] using ih

/-- A write to accounts outside of any transaction. -/
inductive AdminWrite
  | insertAccount (account : Account)
  | setUserActive (userId : Int) (isActive : Bool)

/-- The rows after a write. -/
def AdminWrite.apply : AdminWrite -> Tables -> Tables
  | insertAccount account => .insertAccount account
  | setUserActive userId isActive => .setUserActive userId isActive

/-- The rows after some writes, one after another. -/
def AdminWrite.applyAll (writes : List AdminWrite) (tables : Tables) : Tables :=
  writes.foldl (fun tables write => write.apply tables) tables

namespace Tables

/-- The profile of the account with a number. -/
def profileOf (tables : Tables) (iban : String) : Option Account :=
  (tables.findAccount iban).map Account.profile

theorem findAccount_insertAccount (tables : Tables) (account : Account) (iban : String) :
    (tables.insertAccount account).findAccount iban =
      if account.iban = iban then some account else tables.findAccount iban := by
  rw [findAccount, insertAccount, Table.get?_put]
  rfl

theorem Keyed.insertAccount
    {tables : Tables}
    (keyed : tables.Keyed)
    (account : Account) :
    (tables.insertAccount account).Keyed where
  accounts := by
    intro iban row found
    rw [findAccount_insertAccount] at found
    split at found
    · cases found
      assumption
    · exact keyed.accounts iban row found
  limits := keyed.limits

theorem Keyed.setUserActive
    {tables : Tables}
    (keyed : tables.Keyed)
    (userId : Int)
    (isActive : Bool) :
    (tables.setUserActive userId isActive).Keyed where
  accounts := by
    intro iban row found
    rw [findAccount, Tables.setUserActive, Table.get?_mapValues, Option.map_eq_some_iff] at found
    obtain ⟨account, found, rfl⟩ := found
    have named := keyed.accounts iban account found
    split
    · exact named
    · exact named
  limits := keyed.limits

theorem Keyed.administer
    {tables : Tables}
    (keyed : tables.Keyed)
    (write : AdminWrite) :
    (write.apply tables).Keyed := by
  cases write with
  | insertAccount account => exact keyed.insertAccount account
  | setUserActive userId isActive => exact keyed.setUserActive userId isActive

/-! ## Profiles -/

theorem profileOf_insertAccount (tables : Tables) (account : Account) (iban : String) :
    (tables.insertAccount account).profileOf iban =
      if account.iban = iban then some account.profile else tables.profileOf iban := by
  rw [profileOf, findAccount_insertAccount]
  split <;> rfl

theorem profileOf_setUserActive
    (tables : Tables)
    (userId : Int)
    (isActive : Bool)
    (iban : String) :
    (tables.setUserActive userId isActive).profileOf iban =
      (tables.profileOf iban).map (fun profile =>
        if profile.owner.userId = userId then
          { profile with owner := { profile.owner with isActive := isActive } }
        else profile) := by
  rw [profileOf, profileOf, findAccount, findAccount, setUserActive, Table.get?_mapValues]
  cases tables.accounts.get? iban with
  | none => rfl
  | some account =>
      simp only [Option.map_some, Account.profile, Option.some.injEq]
      split <;> rfl

/-- What a write makes of a profile depends on that profile alone. -/
theorem profileOf_apply_congr
    {left right : Tables}
    {iban : String}
    (write : AdminWrite)
    (same : left.profileOf iban = right.profileOf iban) :
    (write.apply left).profileOf iban = (write.apply right).profileOf iban := by
  cases write with
  | insertAccount account =>
      simp only [AdminWrite.apply]
      rw [profileOf_insertAccount, profileOf_insertAccount, same]
  | setUserActive userId isActive =>
      simp only [AdminWrite.apply]
      rw [profileOf_setUserActive, profileOf_setUserActive, same]

/-- The profiles of both rows of a posting are those of the rows that it was made from. -/
theorem profileOf_book
    {errand : Errand}
    {pair : LockedPair}
    {today : Option DailyLimit}
    {posting : Posting}
    (proposed : errand.propose pair today = .ok posting)
    (tables : Tables)
    (transfer : Transfer)
    (iban : String) :
    (tables.book posting transfer).profileOf iban =
      if pair.receiver.iban = iban then some pair.receiver.profile
      else if pair.sender.iban = iban then some pair.sender.profile
      else tables.profileOf iban := by
  obtain ⟨debited, credited, debit, credit⟩ := Errand.accounts_of_propose proposed
  rw [profileOf, findAccount_book, debit, credit]
  dsimp only
  split
  · rfl
  · split <;> rfl

end Tables
end Giro
