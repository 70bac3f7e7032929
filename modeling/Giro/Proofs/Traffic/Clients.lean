import Giro.Proofs.Ledger.Log
import Giro.Proofs.Traffic.LostWrites

/-!
# Clients of a store

Calls that carry out transfers share a store with clients that put any questions
to it, in any number of transactions and in any order, and that may leave a
transaction unfinished. Meanwhile accounts are administered and transfers go
straight to the log. A question or an import is one step, and others come in
between while a lock is waited for. Whatever they all do, and whoever comes next,
the store stays lawful, and a client that waits finds what it waits for.
-/

namespace Giro

/-- Who works on a store: a transfer, or whoever asks questions by a script of its own. -/
inductive Client
  | transfers (errand : Errand)
  | transacts (script : TransferScript (Except Failure Transfer)) (oracle : Oracle)

/-- The call of a client that has not done anything yet. -/
def Client.call : Client -> TransferCall
  | transfers errand => errand.call
  | transacts script oracle => ⟨oracle, [], .active none script⟩

/-- What may happen next: a turn of calls and of administration, or an import to the log. -/
inductive Move
  | turn (turn : Turn)
  | imports (draft : TransferDraft)

namespace Traffic

/-- Clients that have not done anything yet, on a store with some accounts. -/
def serving (accounts : List Account) (clients : List Client) : Traffic :=
  ⟨.opened accounts, clients.map Client.call⟩

/-- The traffic after a move. -/
def make (traffic : Traffic) : Move -> Traffic
  | .turn turn => traffic.take turn
  | .imports draft => { traffic with store := (traffic.store.importTransfer draft).2 }

/-- The traffic after some moves. -/
def makeAll (traffic : Traffic) (moves : List Move) : Traffic :=
  moves.foldl make traffic

end Traffic

/-! ## The store -/

namespace Store

/-- All that is true of a store whatever is asked of it. -/
structure Lawful (store : Store) : Prop where
  orderly : store.Orderly
  keyed : store.tables.Keyed
  guarded : store.Guarded
  registered : store.Registered
  files : store.Files

theorem keyed_serve
    {store : Store}
    (keyed : store.tables.Keyed)
    (guarded : store.Guarded)
    (current : Option TransactionId)
    (ask : LedgerAsk) :
    (store.serve current ask).store.tables.Keyed := by
  have deals := deals_serve store current ask
  generalize store.serve current ask = served at deals
  cases deals with
  | commits id unused =>
      simp only [Served.store, close_tables]
      exact keyed.installed (guarded id)
  | undoes id answer ends uncommitted =>
      simp only [Served.store, close_tables]
      exact keyed
  | _ => exact keyed

namespace Lawful

variable {store : Store}

theorem serve
    (lawful : store.Lawful)
    (current : Option TransactionId)
    (ask : LedgerAsk) :
    (store.serve current ask).store.Lawful where
  orderly := lawful.orderly.serve current ask
  keyed := keyed_serve lawful.keyed lawful.guarded current ask
  guarded := lawful.guarded.serve current ask
  registered := lawful.registered.serve lawful.orderly lawful.guarded current ask
  files := lawful.files.serve current ask

theorem endWait
    (lawful : store.Lawful)
    (id : TransactionId)
    {iban : String}
    (present : store.tables.accounts.contains iban = true) :
    (store.endWait id iban).2.Lawful where
  orderly := lawful.orderly.endWait id iban
  keyed := by
    unfold Store.endWait
    split
    · exact lawful.keyed
    · exact lawful.keyed
  guarded := lawful.guarded.endWait id iban
  registered := lawful.registered.endWait id present
  files := lawful.files.endWait id iban

theorem administer (lawful : store.Lawful) (write : AdminWrite) :
    (store.administer write.apply).Lawful where
  orderly := lawful.orderly.retable _
  keyed := lawful.keyed.administer write
  guarded := lawful.guarded
  registered := lawful.registered.retable (Tables.spans_administer store.tables write)
  files := lawful.files.administer write

theorem importTransfer (lawful : store.Lawful) (draft : TransferDraft) :
    (store.importTransfer draft).2.Lawful := by
  have files := lawful.files.importTransfer draft
  unfold Store.importTransfer at files ⊢
  dsimp only at files ⊢
  split
  · rename_i used
    rw [if_pos used] at files
    exact ⟨lawful.orderly.renumber _, lawful.keyed, lawful.guarded, lawful.registered, files⟩
  · rename_i unused
    rw [if_neg unused] at files
    exact ⟨(lawful.orderly.renumber _).retable _, ⟨lawful.keyed.accounts, lawful.keyed.limits⟩,
      lawful.guarded, lawful.registered, files⟩

end Lawful

theorem lawful_empty : empty.Lawful where
  orderly := orderly_empty
  keyed := quiet_empty.keyed
  guarded := guarded_empty
  registered := registered_empty
  files := files_empty

theorem lawful_opened (accounts : List Account) : (opened accounts).Lawful :=
  opened_induction accounts Lawful lawful_empty
    (fun _ account lawful => lawful.administer (.insertAccount account))

/-- Whether a transaction is open. -/
def isOpen (store : Store) (id : TransactionId) : Bool :=
  store.transactions.contains id

theorem isOpen_update
    (store : Store)
    (id other : TransactionId)
    (change : Transaction -> Transaction) :
    (store.update id change).isOpen other = store.isOpen other := by
  rw [isOpen, isOpen, Table.contains, Table.contains, update, Table.get?_modify]
  split
  · exact Option.isSome_map
  · rfl

/-- The transaction in which it goes on after a question is open. -/
theorem isOpen_serve
    {store : Store}
    {current : Option TransactionId}
    {ask : LedgerAsk}
    (opened : ∀ id, current = some id -> store.isOpen id = true)
    {id : TransactionId}
    (after : (store.serve current ask).current = some id) :
    (store.serve current ask).store.isOpen id = true := by
  have deals := deals_serve store current ask
  generalize store.serve current ask = served at deals after ⊢
  cases deals with
  | begins =>
      cases after
      simp [isOpen, Served.store, Table.contains, get?_begin]
  | idles => cases after
  | tells own iban => exact opened id after
  | grants own iban present free => exact (isOpen_update _ own id _).trans (opened id after)
  | queues own iban present unstaged => exact opened id after
  | limits own iban date => exact opened id after
  | stagesLimit own row held => exact (isOpen_update _ own id _).trans (opened id after)
  | stagesAccount own row held => exact (isOpen_update _ own id _).trans (opened id after)
  | records own draft unstaged => exact (isOpen_update _ own id _).trans (opened id after)
  | refuses own ask refusal next later writes => exact opened id after
  | commits own unused => cases after
  | undoes own ask answer ends uncommitted => cases after

end Store

/-! ## A call -/

/-- A wait is for the lock of an account that is there, with nothing staged for it. -/
inductive Standing.Awaits (store : Store) : Standing -> Prop
  | active
      (current : Option TransactionId)
      (script : TransferScript (Except Failure Transfer)) :
      Awaits store (.active current script)
  | waiting
      (id : TransactionId)
      (iban : String)
      (next : Except Refusal (Option Account) -> TransferScript (Except Failure Transfer))
      (present : store.tables.accounts.contains iban = true)
      (unstaged : (store.transaction id).accounts.get? iban = none) :
      Awaits store (.waiting id iban (.lock iban) (fun result => result) next)

namespace TransferCall

/-- The transaction of a call is open, and ready for the row that it waits for. -/
structure Fits (call : TransferCall) (store : Store) : Prop where
  awaits : call.standing.Awaits store
  opened : ∀ id, call.current = some id -> store.isOpen id = true

variable {store : Store} {call : TransferCall}

theorem awaits_receive
    (call : TransferCall)
    (ask : LedgerAsk)
    (next : ask.Answer -> TransferScript (Except Failure Transfer))
    (store : Store)
    (current : Option TransactionId) :
    (call.receive ask next (store.serve current ask)).1.standing.Awaits
      (store.serve current ask).store := by
  have deals := store.deals_serve current ask
  generalize store.serve current ask = served at deals
  cases deals with
  | queues id iban present unstaged => exact .waiting id iban next present unstaged
  | _ => exact .active _ _

/-- A step keeps the store lawful and the call ready for it, and nothing recorded is lost. -/
theorem Fits.advance
    (fits : call.Fits store)
    (lawful : store.Lawful) :
    (call.advance store).2.Lawful ∧
      (call.advance store).1.Fits (call.advance store).2 ∧
        store.tables.Rises (call.advance store).2.tables := by
  have opened := fits.opened
  have awaits := fits.awaits
  generalize stands : call.standing = standing at awaits
  cases awaits with
  | active current script =>
      have own : call.current = current := by rw [TransferCall.current, stands]
      rw [own] at opened
      cases script with
      | done outcome =>
          rw [advance_done stands]
          exact ⟨lawful, fits, .refl store.tables⟩
      | ask ask next =>
          cases ask with
          | outside ask =>
              rw [advance_outside call store stands]
              exact ⟨lawful, ⟨.active _ _, opened⟩, .refl store.tables⟩
          | ledger ask =>
              obtain ⟨left, goesOn⟩ := receive_served call ask next (store.serve current ask)
              rw [advance_ledger stands, left]
              refine ⟨lawful.serve current ask, ⟨awaits_receive call ask next store current, ?_⟩,
                Store.rises_serve lawful.guarded current ask⟩
              intro id after
              exact Store.isOpen_serve opened (goesOn.symm.trans after)
  | waiting id iban next present unstaged =>
      have own : call.current = some id := by rw [TransferCall.current, stands]
      rw [advance_waiting call store stands]
      refine ⟨lawful.endWait id present, ⟨.active _ _, ?_⟩, store.rises_endWait id iban⟩
      intro other after
      rw [Store.isOpen, store.transactions_endWait]
      exact opened other (own.trans after)

/-- A call stays ready while its transaction is spared. -/
theorem Fits.spared
    {after : Store}
    {current : Option TransactionId}
    (fits : call.Fits store)
    (spares : Store.Spares current store after)
    (spans : store.tables.Spans after.tables)
    (apart : ∀ id, call.current = some id -> current ≠ some id) :
    call.Fits after := by
  have grown : ∀ id, call.current = some id ->
      ∃ later, after.transactions.get? id = some later ∧
        (store.transaction id).Grows later := by
    intro id own
    obtain ⟨transaction, here⟩ := Option.isSome_iff_exists.mp (fits.opened id own)
    rw [Store.transaction_of_get? here]
    exact spares id transaction (apart id own) here
  constructor
  · have awaits := fits.awaits
    generalize stands : call.standing = standing at awaits
    cases awaits with
    | active current script => exact .active current script
    | waiting id iban next present unstaged =>
        have own : call.current = some id := by rw [TransferCall.current, stands]
        obtain ⟨later, there, grows⟩ := grown id own
        refine .waiting id iban next (spans iban present) ?_
        rw [Store.transaction_of_get? there, grows.accounts]
        exact unstaged
  · intro id own
    obtain ⟨later, there, -⟩ := grown id own
    rw [Store.isOpen, Table.contains, there]
    rfl

end TransferCall

theorem Client.fits_call (client : Client) (store : Store) : client.call.Fits store := by
  cases client with
  | transfers errand => exact ⟨.active _ _, fun _ own => by cases own⟩
  | transacts script oracle => exact ⟨.active _ _, fun _ own => by cases own⟩

/-! ## All calls -/

namespace Traffic

/-- The store is lawful and ready for each of the calls, no two of which share a transaction. -/
structure Conforms (traffic : Traffic) : Prop where
  lawful : traffic.store.Lawful
  fits : ∀ (index : Nat) (call : TransferCall),
    traffic.calls[index]? = some call -> call.Fits traffic.store
  separate : ∀ (left right : Nat) (first second : TransferCall) (id : TransactionId),
    traffic.calls[left]? = some first -> traffic.calls[right]? = some second ->
      first.current = some id -> second.current = some id -> left = right

/-- Clients that have not begun are ready for any lawful store. -/
theorem conforms_of_lawful {store : Store} (lawful : store.Lawful) (clients : List Client) :
    Conforms ⟨store, clients.map Client.call⟩ where
  lawful := lawful
  fits := by
    intro index call here
    simp only [List.getElem?_map, Option.map_eq_some_iff] at here
    obtain ⟨client, -, rfl⟩ := here
    exact client.fits_call store
  separate := by
    intro left right first second id here there own
    simp only [List.getElem?_map, Option.map_eq_some_iff] at here
    obtain ⟨client, -, rfl⟩ := here
    cases client <;> cases own

theorem conforms_serving (accounts : List Account) (clients : List Client) :
    (serving accounts clients).Conforms :=
  conforms_of_lawful (Store.lawful_opened accounts) clients

namespace Conforms

variable {traffic : Traffic}

/-- A call that begins a transaction shares it with nobody. -/
theorem apart_advance
    (conforms : traffic.Conforms)
    {index other : Nat}
    {call second : TransferCall}
    {id : TransactionId}
    (there : traffic.calls[index]? = some call)
    (otherThere : traffic.calls[other]? = some second)
    (different : index ≠ other)
    (own : (call.advance traffic.store).1.current = some id) :
    second.current ≠ some id := by
  intro otherOwn
  rcases TransferCall.current_advance own with before | fresh
  · exact different (conforms.separate index other call second id there otherThere before otherOwn)
  · have opened := (conforms.fits other second otherThere).opened id otherOwn
    rw [Store.isOpen, Table.contains,
      conforms.lawful.orderly.fresh id (Nat.le_of_eq fresh.symm)] at opened
    cases opened

/-- The others are spared by the step of a call. -/
theorem others_advance
    (conforms : traffic.Conforms)
    {index other : Nat}
    {call second : TransferCall}
    (there : traffic.calls[index]? = some call)
    (otherThere : traffic.calls[other]? = some second)
    (different : index ≠ other) :
    ∀ id, second.current = some id -> call.current ≠ some id :=
  fun id otherOwn own =>
    different (conforms.separate index other call second id there otherThere own otherOwn)

/-- After a step there are still no two calls that share a transaction. -/
theorem separate_advance
    (conforms : traffic.Conforms)
    {index : Nat}
    {call : TransferCall}
    (there : traffic.calls[index]? = some call)
    {left right : Nat}
    {first second : TransferCall}
    {id : TransactionId}
    (found : (traffic.advance index).calls[left]? = some first)
    (otherFound : (traffic.advance index).calls[right]? = some second)
    (own : first.current = some id)
    (otherOwn : second.current = some id) :
    left = right := by
  rw [advance_of_call there, List.getElem?_set] at found otherFound
  by_cases isLeft : index = left
  · by_cases isRight : index = right
    · exact isLeft.symm.trans isRight
    · rw [if_neg isRight] at otherFound
      rw [if_pos isLeft] at found
      split at found <;> cases found
      exact absurd otherOwn (conforms.apart_advance there otherFound isRight own)
  · rw [if_neg isLeft] at found
    by_cases isRight : index = right
    · rw [if_pos isRight] at otherFound
      split at otherFound <;> cases otherFound
      exact absurd own (conforms.apart_advance there found isLeft otherOwn)
    · rw [if_neg isRight] at otherFound
      exact conforms.separate left right first second id found otherFound own otherOwn

theorem advance (conforms : traffic.Conforms) (index : Nat) :
    (traffic.advance index).Conforms := by
  cases there : traffic.calls[index]? with
  | none => rwa [advance_of_absent there]
  | some call =>
      obtain ⟨lawful, fits, rises⟩ := (conforms.fits index call there).advance conforms.lawful
      have after := advance_of_call there
      refine ⟨after ▸ lawful, ?_, fun _ _ _ _ _ => conforms.separate_advance there⟩
      intro other second here
      rw [after] at here ⊢
      rw [List.getElem?_set] at here
      by_cases same : index = other
      · rw [if_pos same] at here
        split at here <;> cases here
        exact fits
      · rw [if_neg same] at here
        exact (conforms.fits other second here).spared
          (call.spares_advance conforms.lawful.orderly) rises.accounts
          (conforms.others_advance there here same)

/-- What happens outside of all transactions is nothing to any call. -/
theorem outside
    (conforms : traffic.Conforms)
    {after : Store}
    (lawful : after.Lawful)
    (same : after.transactions = traffic.store.transactions)
    (rises : traffic.tables.Rises after.tables) :
    (⟨after, traffic.calls⟩ : Traffic).Conforms where
  lawful := lawful
  fits := by
    intro index call here
    have spares : Store.Spares none traffic.store after := .of_transactions same
    exact (conforms.fits index call here).spared spares rises.accounts
      (fun _ _ impossible => by cases impossible)
  separate := conforms.separate

/-- Every move keeps the store lawful and ready for the calls. -/
theorem make (conforms : traffic.Conforms) (move : Move) :
    (traffic.make move).Conforms := by
  cases move with
  | turn turn =>
      cases turn with
      | step index => exact conforms.advance index
      | administer write =>
          exact conforms.outside (conforms.lawful.administer write) rfl
            (traffic.tables.rises_administer write)
  | imports draft =>
      exact conforms.outside (conforms.lawful.importTransfer draft)
        (traffic.store.transactions_importTransfer draft)
        (traffic.store.rises_importTransfer draft)

theorem makeAll (conforms : traffic.Conforms) (moves : List Move) :
    (traffic.makeAll moves).Conforms := by
  induction moves generalizing traffic with
  | nil => exact conforms
  | cons move rest ih => exact ih (conforms.make move)

/-- No move takes an account away or changes what is in the log. -/
theorem rises_make (conforms : traffic.Conforms) (move : Move) :
    traffic.tables.Rises (traffic.make move).tables := by
  cases move with
  | turn turn =>
      cases turn with
      | step index =>
          change traffic.tables.Rises (traffic.advance index).tables
          cases there : traffic.calls[index]? with
          | none =>
              rw [advance_of_absent there]
              exact .refl traffic.tables
          | some call =>
              rw [advance_of_call there]
              exact ((conforms.fits index call there).advance conforms.lawful).2.2
      | administer write => exact traffic.tables.rises_administer write
  | imports draft => exact traffic.store.rises_importTransfer draft

theorem rises_makeAll (conforms : traffic.Conforms) (moves : List Move) :
    traffic.tables.Rises (traffic.makeAll moves).tables := by
  induction moves generalizing traffic with
  | nil => exact .refl traffic.tables
  | cons move rest ih => exact (conforms.rises_make move).trans (ih (conforms.make move))

end Conforms

/-- Whatever clients do on a store, the store stays lawful and ready for them. -/
theorem conforms_makeAll
    (accounts : List Account)
    (clients : List Client)
    (moves : List Move) :
    ((serving accounts clients).makeAll moves).Conforms :=
  (conforms_serving accounts clients).makeAll moves

end Traffic
end Giro
