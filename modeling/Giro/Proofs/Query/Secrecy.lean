import Giro.Proofs.Traffic.Basic
import Giro.Query.Basic

/-!
# What queries give away

A user who is no administrator learns from the queries about an account nothing
but what belongs to that user. Two ledgers with the same accounts of the user,
and the same transfers sent or received by these, answer every query alike: the
other accounts, whether they exist, their transfers and all limits do not show,
in no result and in no refusal.
-/

namespace Giro

namespace Tables

/-- The account with a number, if it belongs to the caller. -/
def ownAccount (tables : Tables) (caller : Caller) (iban : String) : Option Account :=
  (tables.findAccount iban).filter (fun account => account.owner.userId == caller.userId)

/-- Whether a transfer was sent or received by an account of the caller. -/
def concerns (tables : Tables) (caller : Caller) (transfer : Transfer) : Bool :=
  tables.accounts.values.any (fun account =>
    account.owner.userId == caller.userId && transfer.involves account.iban)

/-- The transfers sent or received by the accounts of the caller, oldest entry first. -/
def ownTransfers (tables : Tables) (caller : Caller) : List Transfer :=
  tables.transfers.filter (tables.concerns caller)

/-- Two ledgers that differ at most in what does not belong to the caller. -/
structure AlikeTo (caller : Caller) (left right : Tables) : Prop where
  accounts : ∀ iban, left.ownAccount caller iban = right.ownAccount caller iban
  transfers : left.ownTransfers caller = right.ownTransfers caller

theorem ownAccount_eq_some_iff
    {tables : Tables}
    {caller : Caller}
    {iban : String}
    {account : Account} :
    tables.ownAccount caller iban = some account ↔
      tables.findAccount iban = some account ∧ account.owner.userId = caller.userId := by
  simp [ownAccount, Option.filter_eq_some_iff]

/-- A transfer of an account of the caller is one of the caller's. -/
theorem concerns_of_involves
    {tables : Tables}
    {caller : Caller}
    {iban : String}
    {account : Account}
    {transfer : Transfer}
    (own : tables.ownAccount caller iban = some account)
    (involved : transfer.involves account.iban = true) :
    tables.concerns caller transfer = true := by
  obtain ⟨found, owned⟩ := ownAccount_eq_some_iff.mp own
  obtain ⟨row, standing, rfl⟩ := Option.map_eq_some_iff.mp found
  refine List.any_eq_true.mpr
    ⟨row.2, List.mem_map_of_mem (List.mem_of_find?_eq_some standing), ?_⟩
  simp [owned, involved]

/-- What only picks transfers of an account of the caller finds them among the caller's. -/
theorem filter_ownTransfers
    {tables : Tables}
    {caller : Caller}
    {iban : String}
    {account : Account}
    (own : tables.ownAccount caller iban = some account)
    {wanted : Transfer -> Bool}
    (involves : ∀ transfer, wanted transfer = true -> transfer.involves account.iban = true) :
    (tables.ownTransfers caller).filter wanted = tables.transfers.filter wanted := by
  rw [ownTransfers, List.filter_filter]
  refine List.filter_congr fun transfer _ => ?_
  cases picked : wanted transfer with
  | false => rfl
  | true => simpa using concerns_of_involves own (involves transfer picked)

namespace AlikeTo

variable {caller : Caller} {left right : Tables} {iban : String} {account : Account}

/-- The transfers of an account of the caller that meet a condition are the same. -/
theorem filter_eq
    (alike : AlikeTo caller left right)
    (own : left.ownAccount caller iban = some account)
    (wanted : Transfer -> Bool)
    (involves : ∀ transfer, wanted transfer = true -> transfer.involves account.iban = true) :
    left.transfers.filter wanted = right.transfers.filter wanted := by
  have ownRight : right.ownAccount caller iban = some account :=
    (alike.accounts iban).symm.trans own
  rw [← filter_ownTransfers own involves, ← filter_ownTransfers ownRight involves,
    alike.transfers]

theorem listTransfers_eq
    (alike : AlikeTo caller left right)
    (own : left.ownAccount caller iban = some account)
    (filter : TransferFilter)
    (request : PageRequest) :
    left.listTransfers account.iban filter request =
      right.listTransfers account.iban filter request := by
  have same := alike.filter_eq own
    (fun transfer => transfer.involves account.iban && filter.accepts transfer)
    (fun _ picked => (Bool.and_eq_true_iff.mp picked).1)
  simp only [listTransfers, matching, same]

theorem summarize_eq
    (alike : AlikeTo caller left right)
    (own : left.ownAccount caller iban = some account) :
    left.summarize account.iban = right.summarize account.iban := by
  have same := alike.filter_eq own
    (fun transfer => transfer.involves account.iban) (fun _ picked => picked)
  simp only [summarize, same]

theorem outgoing_eq
    (alike : AlikeTo caller left right)
    (own : left.ownAccount caller iban = some account) :
    left.outgoing account.iban = right.outgoing account.iban :=
  alike.filter_eq own (fun transfer => transfer.sender == account.iban)
    (fun _ sent => by simp [Transfer.involves, sent])

theorem dailyOutgoingSince_eq
    (alike : AlikeTo caller left right)
    (own : left.ownAccount caller iban = some account)
    (since : Instant) :
    left.dailyOutgoingSince account.iban since =
      right.dailyOutgoingSince account.iban since := by
  simp only [dailyOutgoingSince, alike.outgoing_eq own]

end AlikeTo
end Tables

namespace Query

/-- Users other than administrators are let in exactly to their own accounts. -/
theorem authorize_ofTables
    {caller : Caller}
    (plain : caller.isAdmin = false)
    (tables : Tables)
    (spelling : String) :
    authorize (.ofTables tables) spelling caller =
      match tables.ownAccount caller (Iban.normalize spelling) with
      | some account => .ok account
      | none => .error (.refused .notViewer) := by
  simp only [authorize, Reader.ofTables, Tables.ownAccount, Caller.mayUse, plain,
    Bool.false_or]
  cases tables.findAccount (Iban.normalize spelling) with
  | none => rfl
  | some account =>
      by_cases owned : account.owner.userId = caller.userId
      · simp [owned, Option.filter, bind, Except.bind]
      · simp [owned, Option.filter, bind, Except.bind]

/--
What is asked after the caller was let in is answered alike, if it is for the
caller's own accounts.
-/
theorem authorize_bind_eq
    {caller : Caller}
    {left right : Tables}
    {α : Type}
    (plain : caller.isAdmin = false)
    (alike : Tables.AlikeTo caller left right)
    (spelling : String)
    {onLeft onRight : Account -> Except Failure α}
    (same : ∀ account,
      left.ownAccount caller (Iban.normalize spelling) = some account ->
        onLeft account = onRight account) :
    (authorize (.ofTables left) spelling caller >>= onLeft) =
      (authorize (.ofTables right) spelling caller >>= onRight) := by
  rw [authorize_ofTables plain, authorize_ofTables plain, ← alike.accounts]
  cases own : left.ownAccount caller (Iban.normalize spelling) with
  | none => rfl
  | some account => exact same account own

theorem filterHistory_eq
    {caller : Caller}
    {left right : Tables}
    (plain : caller.isAdmin = false)
    (alike : Tables.AlikeTo caller left right)
    (spelling : String)
    (filter : TransferFilter)
    (request : PageRequest) :
    filterHistory (.ofTables left) spelling filter request caller =
      filterHistory (.ofTables right) spelling filter request caller := by
  unfold filterHistory
  -- The bounds are looked at first, and without the ledger.
  split
  · rfl
  split
  · rfl
  exact authorize_bind_eq plain alike spelling fun account own =>
    congrArg Failure.ofOverflow (alike.listTransfers_eq own filter request)

/--
No query tells a user who is no administrator anything about what belongs to
others: ledgers that differ in nothing else give the same answers and the same
refusals, whatever is asked and whenever.
-/
theorem answers_alike
    (caller : Caller)
    (plain : caller.isAdmin = false)
    (left right : Store)
    (alike : Tables.AlikeTo caller left.tables right.tables)
    (now : Instant)
    (spelling : String)
    (filter : TransferFilter)
    (request : PageRequest) :
    history (.ofTables left.tables) spelling request caller =
        history (.ofTables right.tables) spelling request caller ∧
      filterHistory (.ofTables left.tables) spelling filter request caller =
        filterHistory (.ofTables right.tables) spelling filter request caller ∧
      summary (.ofTables left.tables) spelling caller =
        summary (.ofTables right.tables) spelling caller ∧
      categories (.ofTables left.tables) spelling caller =
        categories (.ofTables right.tables) spelling caller ∧
      weeklyTrend (.ofTables left.tables) now spelling caller =
        weeklyTrend (.ofTables right.tables) now spelling caller := by
  refine ⟨filterHistory_eq plain alike spelling .unbounded request,
    filterHistory_eq plain alike spelling filter request, ?_, ?_, ?_⟩
  · exact authorize_bind_eq plain alike spelling fun account own =>
      congrArg Failure.ofOverflow (alike.summarize_eq own)
  · exact authorize_bind_eq plain alike spelling fun account own =>
      congrArg (fun sent => Failure.ofOverflow (CategoryShare.breakdown sent))
        (alike.outgoing_eq own)
  · exact authorize_bind_eq plain alike spelling fun account own =>
      congrArg Failure.ofOverflow (alike.dailyOutgoingSince_eq own (trendStart now))

end Query

namespace Sample

/-- A transfer of 40 at the beginning of time. -/
def entry (id : Int) (sender receiver : String) : Transfer where
  toTransferDraft :=
    (errand sender receiver 1 id.toNat "R").request.draft
      ⟨account sender 1, account receiver 2⟩ ⟨id.toNat⟩ ("R" ++ Text.showInt id) ⟨0, 0⟩
  id := id

/-- One account of the first user, who sent something to the second. -/
def narrow : Tables where
  accounts := ⟨[("A", account "A" 1), ("B", account "B" 2)]⟩
  limits := .empty
  transfers := [entry 1 "A" "B"]

/-- The same without the second user, and with a third who was sent something too. -/
def wide : Tables where
  accounts := ⟨[("C", account "C" 3), ("A", account "A" 1)]⟩
  limits := ⟨[(("A", ⟨0⟩), .opened "A" ⟨0⟩ (account "A" 1).dailyLimit)]⟩
  transfers := [entry 2 "B" "C", entry 1 "A" "B"]

theorem alike : Tables.AlikeTo ⟨1, .user, "A", none⟩ narrow wide where
  accounts := by
    intro iban
    by_cases first : iban = "A"
    · subst first
      decide
    -- No other account is the first user's, here or there.
    · by_cases second : iban = "B" <;> by_cases third : iban = "C" <;>
        simp_all [Tables.ownAccount, Tables.findAccount, Table.get?, narrow, wide, account,
          Option.filter, eq_comm]
  transfers := by decide

end Sample

namespace Query

theorem answers_alike_sample :
    let caller : Caller := ⟨1, .user, "A", none⟩
    let left : Store := { Store.empty with tables := Sample.narrow }
    let right : Store := { Store.empty with tables := Sample.wide }
    caller.isAdmin = false ∧ Tables.AlikeTo caller left.tables right.tables ∧
      left.tables.findAccount "C" ≠ right.tables.findAccount "C" ∧
      (summary (.ofTables left.tables) "a" caller).isOk ∧
      summary (.ofTables left.tables) "a" caller = summary (.ofTables right.tables) "a" caller := by
  intro caller left right
  refine ⟨rfl, Sample.alike, by decide, by decide, ?_⟩
  exact (answers_alike caller rfl left right Sample.alike ⟨0, 0⟩ "a" .unbounded ⟨0, 1⟩).2.2.1

end Query
end Giro
