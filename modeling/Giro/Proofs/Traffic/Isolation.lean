import Giro.Proofs.Traffic.Clients

/-!
# Isolation

What any client may rely on, whoever else is on the store. A transaction sees the
rows that it has staged itself and the committed rows otherwise, and nobody sees
what it has staged: the committed rows, which are all that is read outside of
transactions, change with a commit only, and then all at once.
-/

namespace Giro

/-- Whether a transaction has staged an account, or a limit of an account. -/
def Transaction.stages (transaction : Transaction) (iban : String) : Bool :=
  transaction.accounts.values.any (fun row => row.iban == iban) ||
    transaction.limits.values.any (fun row => row.iban == iban)

/-- What is staged for an account is staged under its lock. -/
theorem Transaction.Guarded.held_of_stages
    {transaction : Transaction}
    (guarded : transaction.Guarded)
    {iban : String}
    (stages : transaction.stages iban = true) :
    iban ∈ transaction.held := by
  simp only [Transaction.stages, Table.values, Bool.or_eq_true, List.any_eq_true,
    List.mem_map, beq_iff_eq] at stages
  rcases stages with ⟨_, ⟨row, staged, rfl⟩, rfl⟩ | ⟨_, ⟨row, staged, rfl⟩, rfl⟩
  · obtain ⟨named, held⟩ := guarded.accounts row staged
    exact named ▸ held
  · obtain ⟨named, held⟩ := guarded.limits row staged
    rwa [← named] at held

namespace TransferCall

/-- The answer that a call is given with its next step, along with the question. -/
def heard? (call : TransferCall) (store : Store) : Option Exchange :=
  (call.advance store).1.transcript[call.transcript.length]?

/-- How a call comes to be answered with a step. -/
inductive Hears (call : TransferCall) (store : Store) : Exchange -> Prop
  | answered
      {current later : Option TransactionId}
      {after : Store}
      (ask : LedgerAsk)
      (next : ask.Answer -> TransferScript (Except Failure Transfer))
      (answer : ask.Answer)
      (stands : call.standing = .active current (.ask (.ledger ask) next))
      (served : store.serve current ask = .answered answer later after) :
      Hears call store ⟨.ledger ask, answer⟩
  | resumed
      {id : TransactionId}
      {iban : String}
      (ask : LedgerAsk)
      (reply : Except Refusal (Option Account) -> ask.Answer)
      (next : ask.Answer -> TransferScript (Except Failure Transfer))
      (stands : call.standing = .waiting id iban ask reply next) :
      Hears call store ⟨.ledger ask, reply (store.endWait id iban).1⟩
  | outside (ask : OutsideAsk) (answer : ask.Answer) : Hears call store ⟨.outside ask, answer⟩

variable {call : TransferCall} {store : Store}

theorem heard?_of_hear
    {ask : TransferAsk}
    {answer : ask.Answer}
    {standing : Standing}
    {after : Store}
    (advance : call.advance store = (call.hear ask answer standing, after)) :
    call.heard? store = some ⟨ask, answer⟩ := by
  simp [heard?, advance, hear]

theorem hears_of_heard?
    {exchange : Exchange}
    (heard : call.heard? store = some exchange) :
    call.Hears store exchange := by
  cases stands : call.standing with
  | active current script =>
      cases script with
      | done outcome => simp [heard?, advance_done stands] at heard
      | ask ask next =>
          cases ask with
          | outside ask =>
              rw [heard?_of_hear (advance_outside call store stands)] at heard
              cases heard
              exact .outside ask _
          | ledger ask =>
              cases served : store.serve current ask with
              | answered answer later after =>
                  rw [heard?_of_hear (advance_answered stands served)] at heard
                  cases heard
                  exact .answered ask next answer stands served
              | waiting id iban reply after =>
                  simp [heard?, advance_delayed stands served] at heard
  | waiting id iban ask reply next =>
      rw [heard?_of_hear (advance_waiting call store stands)] at heard
      cases heard
      exact .resumed ask reply next stands

/--
Who is granted a lock is given the row as it was staged by the own transaction, or
as it is committed. Nothing else is answered but that the time for the wait is up.
-/
theorem Fits.hears_lock
    (fits : call.Fits store)
    {id : TransactionId}
    (own : call.current = some id)
    {iban : String}
    {answer : Except Refusal (Option Account)}
    (hears : call.Hears store ⟨.ledger (.lock iban), answer⟩) :
    answer = .error .accountBusy ∨
      answer = .ok ((store.transaction id).account? store.tables iban) := by
  cases hears with
  | @answered current later after _ next _ stands served =>
      have same : current = some id := by rwa [TransferCall.current, stands] at own
      subst same
      have deals := store.deals_serve (some id) (.lock iban)
      rw [served] at deals
      cases deals with
      | tells => exact Or.inr rfl
      | grants _ _ present free => exact Or.inr rfl
      | refuses _ _ refusal next later writes => cases writes
      | undoes _ _ _ ends uncommitted => cases ends
  | @resumed waiting row _ reply next stands =>
      have awaits := fits.awaits
      rw [stands] at awaits
      cases awaits with
      | waiting _ _ _ present unstaged =>
          have same : waiting = id := by simpa [TransferCall.current, stands] using own
          subst same
          unfold Store.endWait
          split
          · exact Or.inr (by rw [Transaction.account?, unstaged]; rfl)
          · exact Or.inl rfl

/-- Who asks for a limit is told it as it was staged by the own transaction, or is committed. -/
theorem Fits.hears_limit
    (fits : call.Fits store)
    {id : TransactionId}
    (own : call.current = some id)
    {iban : String}
    {date : Date}
    {answer : Except Refusal (Option DailyLimit)}
    (hears : call.Hears store ⟨.ledger (.readLimit iban date), answer⟩) :
    answer = .ok ((store.transaction id).limit? store.tables iban date) := by
  cases hears with
  | @answered current later after _ next _ stands served =>
      have same : current = some id := by rwa [TransferCall.current, stands] at own
      subst same
      have deals := store.deals_serve (some id) (.readLimit iban date)
      rw [served] at deals
      cases deals with
      | limits => rfl
      | refuses _ _ refusal next later writes => cases writes
      | undoes _ _ _ ends uncommitted => cases ends
  | @resumed waiting row _ reply next stands =>
      have awaits := fits.awaits
      rw [stands] at awaits
      cases awaits

/-- A step without a commit leaves the committed rows as they are. -/
theorem tables_of_uncommitted
    (uncommitted : ∀ exchange, call.heard? store = some exchange -> exchange.commits = false) :
    (call.advance store).2.tables = store.tables := by
  cases stands : call.standing with
  | active current script =>
      cases script with
      | done outcome => rw [advance_done stands]
      | ask ask next =>
          cases ask with
          | outside ask => rw [advance_outside call store stands]
          | ledger ask =>
              rw [advance_ledger stands, (receive_served call ask next _).1]
              have deals := store.deals_serve current ask
              generalize served : store.serve current ask = outcome at deals
              cases deals with
              | commits id unused =>
                  have heard := heard?_of_hear (advance_answered stands served)
                  exact Bool.noConfusion (uncommitted _ heard)
              | undoes id answer ends refused => exact store.close_tables id
              | _ => rfl
  | waiting id iban ask reply next =>
      rw [advance_waiting call store stands]
      unfold Store.endWait
      split <;> rfl

/-- A commit that is not refused installs what its transaction has staged. -/
theorem Fits.installs_of_commits
    (fits : call.Fits store)
    (lawful : store.Lawful)
    {exchange : Exchange}
    (hears : call.Hears store exchange)
    (commits : exchange.commits = true) :
    ∃ id, call.current = some id ∧
      store.tables.Installs (store.transaction id) (call.advance store).2.tables := by
  cases hears with
  | outside ask answer => cases commits
  | @resumed id iban ask reply next stands =>
      have awaits := fits.awaits
      rw [stands] at awaits
      cases awaits
      cases commits
  | @answered current later after ask next answer stands served =>
      obtain rfl : ask = .commit := LedgerAsk.eq_commit_of_commits commits
      rw [advance_answered stands served]
      have deals := store.deals_serve current .commit
      rw [served] at deals
      cases deals with
      | idles => cases commits
      | commits id unused =>
          refine ⟨id, by rw [TransferCall.current, stands], ?_⟩
          simp only [Store.close_tables]
          exact Tables.installs_installed store.tables (lawful.guarded id)
      | refuses _ _ refusal next later writes => cases writes
      | undoes _ _ _ ends refused => exact Bool.noConfusion (commits.symm.trans refused)

end TransferCall

namespace Traffic

/-- The transaction that a call has open. -/
def current? (traffic : Traffic) (index : Nat) : Option TransactionId :=
  traffic.calls[index]?.bind TransferCall.current

/-- The answer that a call is given with its next step, along with the question. -/
def heard? (traffic : Traffic) (index : Nat) : Option Exchange :=
  traffic.calls[index]?.bind (fun call => call.heard? traffic.store)

/-- What a client of a store may rely on, whoever else is on it. -/
structure Isolated (traffic : Traffic) : Prop where
  /-- A row is locked by one transaction at most. -/
  single : ∀ left right iban,
    traffic.store.holds left iban = true -> traffic.store.holds right iban = true ->
      left = right
  /-- Rows are staged for accounts that are locked. -/
  staged : ∀ id iban,
    (traffic.store.transaction id).stages iban = true -> traffic.store.holds id iban = true
  /-- No two transactions have staged rows for one account. -/
  apart : ∀ left right iban,
    (traffic.store.transaction left).stages iban = true ->
      (traffic.store.transaction right).stages iban = true -> left = right
  /-- Locks are registered for existing accounts only. -/
  registered : ∀ iban,
    traffic.store.locks.contains iban = true -> traffic.tables.accounts.contains iban = true
  /-- Unless it times out, a lock comes with the own staged row, or the committed one. -/
  locks : ∀ index id iban (answer : Except Refusal (Option Account)),
    traffic.current? index = some id ->
      traffic.heard? index = some ⟨.ledger (.lock iban), answer⟩ ->
        answer = .error .accountBusy ∨
          answer = .ok (((traffic.store.transaction id).accounts.get? iban).or
            (traffic.tables.findAccount iban))
  /-- A limit is told as the transaction itself has staged it, or as it is committed. -/
  limits : ∀ index id iban date (answer : Except Refusal (Option DailyLimit)),
    traffic.current? index = some id ->
      traffic.heard? index = some ⟨.ledger (.readLimit iban date), answer⟩ ->
        answer = .ok (((traffic.store.transaction id).limits.get? (iban, date)).or
          (traffic.tables.dailyLimit iban date))
  /-- Nothing but a commit that is not refused changes what readers see. -/
  keeps : ∀ index,
    (∀ exchange, traffic.heard? index = some exchange -> exchange.commits = false) ->
      (traffic.advance index).tables = traffic.tables
  /-- A commit that is not refused installs all that is staged, and nothing else. -/
  installs : ∀ index exchange,
    traffic.heard? index = some exchange -> exchange.commits = true ->
      ∃ id, traffic.current? index = some id ∧
        traffic.tables.Installs (traffic.store.transaction id) (traffic.advance index).tables

theorem Conforms.isolated {traffic : Traffic} (conforms : traffic.Conforms) :
    traffic.Isolated := by
  have lawful := conforms.lawful
  have held : ∀ id iban, (traffic.store.transaction id).stages iban = true ->
      traffic.store.holds id iban = true := fun id iban stages =>
    (traffic.store.holds_iff id iban).mpr ((lawful.guarded id).held_of_stages stages)
  have single : ∀ left right iban,
      traffic.store.holds left iban = true -> traffic.store.holds right iban = true ->
        left = right := by
    intro left right iban inLeft inRight
    rw [Store.holds_iff] at inLeft inRight
    exact lawful.orderly.single left right iban inLeft inRight
  constructor
  case single => exact single
  case staged => exact held
  case apart =>
    intro left right iban inLeft inRight
    exact single left right iban (held left iban inLeft) (held right iban inRight)
  case registered => exact lawful.registered
  case locks =>
    intro index id iban answer own heard
    obtain ⟨call, there, own⟩ := Option.bind_eq_some_iff.mp own
    rw [heard?, there] at heard
    exact (conforms.fits index call there).hears_lock own (TransferCall.hears_of_heard? heard)
  case limits =>
    intro index id iban date answer own heard
    obtain ⟨call, there, own⟩ := Option.bind_eq_some_iff.mp own
    rw [heard?, there] at heard
    exact (conforms.fits index call there).hears_limit own (TransferCall.hears_of_heard? heard)
  case keeps =>
    intro index uncommitted
    cases there : traffic.calls[index]? with
    | none => rw [advance_of_absent there]
    | some call =>
        rw [heard?, there] at uncommitted
        rw [advance_of_call there]
        exact TransferCall.tables_of_uncommitted uncommitted
  case installs =>
    intro index exchange heard commits
    obtain ⟨call, there, heard⟩ := Option.bind_eq_some_iff.mp heard
    rw [advance_of_call there, current?, there]
    exact (conforms.fits index call there).installs_of_commits lawful
      (TransferCall.hears_of_heard? heard) commits

/--
Any clients are isolated from each other at any time, whatever questions they ask in
whatever order, and whatever is administered or imported meanwhile.
-/
theorem clients_isolated
    (accounts : List Account)
    (clients : List Client)
    (moves : List Move) :
    ((serving accounts clients).makeAll moves).Isolated :=
  (conforms_makeAll accounts clients moves).isolated

end Traffic
end Giro
