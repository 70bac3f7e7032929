import Giro.Proofs.Ledger.Transactions
import Giro.Proofs.Protocol.Hearing

/-!
# Questions and their answers

Everything that can come of a question: what it is answered, under which condition,
and what has become of the store by then. What is to be shown of answers, of staged
rows or of the log is shown of these cases.
-/

namespace Giro

namespace Transaction

/-- An account as a transaction on some tables sees it. -/
def account? (transaction : Transaction) (tables : Tables) (iban : String) : Option Account :=
  (transaction.accounts.get? iban).or (tables.findAccount iban)

/-- The limit of an account on a day as a transaction on some tables sees it. -/
def limit?
    (transaction : Transaction)
    (tables : Tables)
    (iban : String)
    (date : Date) : Option DailyLimit :=
  (transaction.limits.get? (iban, date)).or (tables.dailyLimit iban date)

/-- The transaction with an account staged. -/
def stageAccount (row : Account) (transaction : Transaction) : Transaction :=
  { transaction with accounts := transaction.accounts.put row.iban row }

/-- The transaction with a limit staged. -/
def stageLimit (row : DailyLimit) (transaction : Transaction) : Transaction :=
  { transaction with limits := transaction.limits.put (row.iban, row.date) row }

/-- The transaction with a transfer staged. -/
def stageTransfer (transfer : Transfer) (transaction : Transaction) : Transaction :=
  { transaction with transfers := transaction.transfers ++ [transfer] }

end Transaction

/-- Nothing is committed but by a commit. -/
theorem LedgerAsk.eq_commit_of_commits
    {ask : LedgerAsk}
    {answer : ask.Answer}
    (commits : ask.commits answer = true) :
    ask = .commit := by
  cases ask with
  | commit => rfl
  | _ => cases commits

namespace Store

/-- What comes of a question, in the transaction that is open, if any. -/
inductive Deals (store : Store) :
    Option TransactionId -> (ask : LedgerAsk) -> Served ask -> Prop
  | begins (current : Option TransactionId) :
      Deals store current .begin
        (.answered (.ok () : Except Refusal Unit) (some store.nextTransaction) store.begin.2)
  | idles (ask : LedgerAsk) :
      Deals store none ask (.answered (ask.refuse .noTransaction) none store)
  | tells (id : TransactionId) (iban : String) :
      Deals store (some id) (.lock iban)
        (.answered
          (.ok ((store.transaction id).account? store.tables iban) :
            Except Refusal (Option Account))
          (some id) store)
  | grants
      (id : TransactionId)
      (iban : String)
      (present : store.tables.accounts.contains iban = true)
      (free : (store.lockOf iban).taken = false) :
      Deals store (some id) (.lock iban)
        (.answered
          (.ok ((store.transaction id).account? store.tables iban) :
            Except Refusal (Option Account))
          (some id) (store.hand id iban []))
  | queues
      (id : TransactionId)
      (iban : String)
      (present : store.tables.accounts.contains iban = true)
      (unstaged : (store.transaction id).accounts.get? iban = none) :
      Deals store (some id) (.lock iban)
        (.waiting id iban (fun result => result)
          (store.relock iban ⟨true, (store.lockOf iban).waiting ++ [id]⟩))
  | limits (id : TransactionId) (iban : String) (date : Date) :
      Deals store (some id) (.readLimit iban date)
        (.answered
          (.ok ((store.transaction id).limit? store.tables iban date) :
            Except Refusal (Option DailyLimit))
          (some id) store)
  | stagesLimit (id : TransactionId) (row : DailyLimit) (held : row.iban ∈ store.heldBy id) :
      Deals store (some id) (.writeLimit row)
        (.answered (.ok () : Except Refusal Unit) (some id)
          (store.update id (Transaction.stageLimit row)))
  | stagesAccount (id : TransactionId) (row : Account) (held : row.iban ∈ store.heldBy id) :
      Deals store (some id) (.writeAccount row)
        (.answered (.ok () : Except Refusal Unit) (some id)
          (store.update id (Transaction.stageAccount row)))
  | records
      (id : TransactionId)
      (draft : TransferDraft)
      (unstaged : ∀ staged ∈ (store.transaction id).transfers,
        staged.clashesWith { draft with id := store.nextId } = false) :
      Deals store (some id) (.record draft)
        (.answered (.ok { draft with id := store.nextId } : Except Refusal Transfer) (some id)
          (store.useId.update id (Transaction.stageTransfer { draft with id := store.nextId })))
  | refuses
      (id : TransactionId)
      (ask : LedgerAsk)
      (refusal : Refusal)
      (next : Int)
      (later : store.nextId <= next)
      (writes : ask.writes = true) :
      Deals store (some id) ask
        (.answered (ask.refuse refusal) (some id) (store.renumber next))
  | commits
      (id : TransactionId)
      (unused : ∀ staged ∈ (store.transaction id).transfers, ∀ logged ∈ store.tables.transfers,
        logged.clashesWith staged = false) :
      Deals store (some id) .commit
        (.answered (.ok () : Except Refusal Unit) none
          ((store.retable (installed store.tables (store.transaction id))).close id))
  | undoes
      (id : TransactionId)
      (ask : LedgerAsk)
      (answer : ask.Answer)
      (ends : ask.ends = true)
      (uncommitted : ask.commits answer = false) :
      Deals store (some id) ask (.answered answer none (store.close id))

theorem deals_lock (store : Store) (id : TransactionId) (iban : String) :
    Deals store (some id) (.lock iban) (store.serve (some id) (.lock iban)) := by
  have told := @Deals.tells store id iban
  simp only [serve, serveOpen, lock]
  cases unstaged : (store.transaction id).accounts.get? iban with
  | some staged => simpa [Transaction.account?, unstaged] using told
  | none =>
      simp only [Transaction.account?, unstaged, Option.none_or] at told
      dsimp only
      by_cases holds : store.holds id iban = true
      · rw [if_pos holds]
        exact told
      rw [if_neg holds]
      by_cases missing : (!store.tables.accounts.contains iban) = true
      · rw [if_pos missing]
        have absent : store.tables.findAccount iban = none := by
          simpa [Tables.findAccount, Table.contains] using missing
        rwa [absent] at told
      rw [if_neg missing]
      have present : store.tables.accounts.contains iban = true := by simpa using missing
      by_cases taken : (store.lockOf iban).taken = true
      · rw [if_pos taken]
        exact .queues id iban present unstaged
      · rw [if_neg taken]
        have granted := @Deals.grants store id iban present (by simpa using taken)
        rwa [Transaction.account?, unstaged, Option.none_or] at granted

theorem deals_readLimit (store : Store) (id : TransactionId) (iban : String) (date : Date) :
    Deals store (some id) (.readLimit iban date)
      (store.serve (some id) (.readLimit iban date)) := by
  have told := @Deals.limits store id iban date
  simp only [serve, serveOpen, readLimit]
  cases staged : (store.transaction id).limits.get? (iban, date) with
  | some row => simpa [Transaction.limit?, staged] using told
  | none => simpa [Transaction.limit?, staged] using told

theorem deals_writeLimit (store : Store) (id : TransactionId) (row : DailyLimit) :
    Deals store (some id) (.writeLimit row) (store.serve (some id) (.writeLimit row)) := by
  simp only [serve, serveOpen, writeLimit]
  split
  · exact .refuses id (.writeLimit row) _ store.nextId (Int.le_refl _) rfl
  · rename_i held
    exact .stagesLimit id row ((store.holds_iff id row.iban).mp (by simpa using held))

theorem deals_writeAccount (store : Store) (id : TransactionId) (row : Account) :
    Deals store (some id) (.writeAccount row) (store.serve (some id) (.writeAccount row)) := by
  simp only [serve, serveOpen, writeAccount]
  split
  · exact .refuses id (.writeAccount row) _ store.nextId (Int.le_refl _) rfl
  split
  · exact .refuses id (.writeAccount row) _ store.nextId (Int.le_refl _) rfl
  · rename_i held _
    exact .stagesAccount id row ((store.holds_iff id row.iban).mp (by simpa using held))

theorem deals_record (store : Store) (id : TransactionId) (draft : TransferDraft) :
    Deals store (some id) (.record draft) (store.serve (some id) (.record draft)) := by
  simp only [serve, serveOpen, record]
  split
  · exact .refuses id (.record draft) _ store.nextId (Int.le_refl _) rfl
  split
  · exact .refuses id (.record draft) _ (store.nextId + 1) (by omega) rfl
  · rename_i unused
    simp only [Bool.or_eq_true, List.any_eq_true, not_or, not_exists, not_and,
      Bool.not_eq_true] at unused
    exact .records id draft unused.1

theorem deals_commit (store : Store) (id : TransactionId) :
    Deals store (some id) .commit (store.serve (some id) .commit) := by
  simp only [serve, serveOpen, commit]
  split
  · exact .undoes id .commit _ rfl rfl
  · rename_i unused
    simp only [List.any_eq_true, Tables.referenceTaken, not_exists, not_and,
      Bool.not_eq_true] at unused
    exact .commits id unused

/-- Nothing else comes of a question. -/
theorem deals_serve (store : Store) (current : Option TransactionId) (ask : LedgerAsk) :
    Deals store current ask (store.serve current ask) := by
  cases current with
  | none =>
      cases ask with
      | begin => exact .begins none
      | _ => exact .idles _
  | some id =>
      cases ask with
      | begin => exact .begins (some id)
      | lock iban => exact deals_lock store id iban
      | readLimit iban date => exact deals_readLimit store id iban date
      | writeLimit row => exact deals_writeLimit store id row
      | writeAccount row => exact deals_writeAccount store id row
      | record draft => exact deals_record store id draft
      | commit => exact deals_commit store id
      | rollback => exact .undoes id .rollback _ rfl rfl
      | discard => exact .undoes id .discard _ rfl rfl

end Store
end Giro
