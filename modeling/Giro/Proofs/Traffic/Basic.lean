import Giro.Ledger.Serving
import Giro.Transfer.Coordination

/-!
# Traffic

Calls that carry out transfers on one store, in any order of their steps. A step
is one question: the store answers it or makes the call wait, and everything
around the call is answered by an oracle of the call's own. A call that waits is
resumed when its turn comes next, with the row if the lock has been handed over
by then, and with a refusal if the time for the wait is up instead.

Nothing is said about who takes a step when. A schedule is a list of turns, and
what is proved of traffic is proved of every schedule.
-/

namespace Giro

/--
What a call learns from everything but the ledger. The answer may depend on how
many questions the call has asked before, so no two readings of a clock agree.
-/
abbrev Oracle := Nat -> (ask : OutsideAsk) -> ask.Answer

/-- A question and the answer to it. -/
abbrev Exchange := (ask : TransferAsk) × ask.Answer

/-- The row that comes with the answer to a question about a lock. -/
def LedgerAsk.rowIn : (ask : LedgerAsk) -> ask.Answer -> Option Account
  | .lock _, (answer : Except Refusal (Option Account)) => answer.toOption.join
  | _, _ => none

/-- The row that an exchange handed over along with its lock. -/
def Exchange.row? : Exchange -> Option Account
  | ⟨.ledger ask, answer⟩ => ask.rowIn answer
  | ⟨.outside _, _⟩ => none

/-- What a call is about to do: go on with its script, or end a wait first. -/
inductive Standing
  | active
      (current : Option TransactionId)
      (script : TransferScript (Except Failure Transfer))
  | waiting
      (transaction : TransactionId)
      (iban : String)
      (ask : LedgerAsk)
      (reply : Except Refusal (Option Account) -> ask.Answer)
      (next : ask.Answer -> TransferScript (Except Failure Transfer))

/-- A transfer on its way, with all that it was answered so far. -/
structure TransferCall where
  oracle : Oracle
  transcript : List Exchange
  standing : Standing

namespace TransferCall

/-- The transaction that a call has open. -/
def current (call : TransferCall) : Option TransactionId :=
  match call.standing with
  | .active current _ => current
  | .waiting transaction _ _ _ _ => some transaction

/-- What has become of a call that is over. -/
def outcome? (call : TransferCall) : Option (Except Failure Transfer) :=
  match call.standing with
  | .active _ (.done outcome) => some outcome
  | _ => none

/-- A call is over exactly if its script is at its end. -/
theorem outcome?_eq_some_iff {call : TransferCall} {outcome : Except Failure Transfer} :
    call.outcome? = some outcome ↔
      ∃ current, call.standing = .active current (.done outcome) := by
  constructor
  · intro known
    unfold outcome? at known
    split at known
    · rename_i current final stands
      cases known
      exact ⟨current, stands⟩
    · cases known
  · rintro ⟨current, stands⟩
    rw [outcome?, stands]

/-- The rows that a call was handed along with their locks, in order. -/
def rows (call : TransferCall) : List Account :=
  call.transcript.filterMap Exchange.row?

/-- The call after an answer. -/
def hear
    (call : TransferCall)
    (ask : TransferAsk)
    (answer : ask.Answer)
    (standing : Standing) : TransferCall :=
  { call with transcript := call.transcript ++ [⟨ask, answer⟩], standing := standing }

/-- The call after what came of a question to the ledger, and the store after it. -/
def receive
    (call : TransferCall)
    (ask : LedgerAsk)
    (next : ask.Answer -> TransferScript (Except Failure Transfer)) :
    Served ask -> TransferCall × Store
  | .answered answer current store =>
      (call.hear (.ledger ask) answer (.active current (next answer)), store)
  | .waiting transaction iban reply store =>
      ({ call with standing := .waiting transaction iban ask reply next }, store)

/-- One step of a call; nothing happens any more once it is over. -/
def advance (call : TransferCall) (store : Store) : TransferCall × Store :=
  match call.standing with
  | .active _ (.done _) => (call, store)
  | .active current (.ask (.ledger ask) next) =>
      call.receive ask next (store.serve current ask)
  | .active current (.ask (.outside ask) next) =>
      let answer := call.oracle call.transcript.length ask
      (call.hear (.outside ask) answer (.active current (next answer)), store)
  | .waiting transaction iban ask reply next =>
      let (result, store) := store.endWait transaction iban
      (call.hear (.ledger ask) (reply result)
        (.active (some transaction) (next (reply result))), store)

end TransferCall

/-- A request on behalf of a caller, and what its call learns on its way. -/
structure Errand where
  request : TransferRequest
  caller : Caller
  oracle : Oracle

/-- The call that has not done anything yet. -/
def Errand.call (errand : Errand) : TransferCall where
  oracle := errand.oracle
  transcript := []
  standing := .active none (transferScript errand.request errand.caller)

/-- A store with accounts that were opened one after another. -/
def Store.opened (accounts : List Account) : Store :=
  accounts.foldl (fun store account => store.administer (.insertAccount account)) .empty

/-- What holds of the empty store and is kept by opening accounts holds of a store with accounts. -/
theorem Store.opened_induction
    (accounts : List Account)
    (holds : Store -> Prop)
    (empty : holds .empty)
    (opens : ∀ store account, holds store ->
      holds (store.administer (.insertAccount account))) :
    holds (.opened accounts) := by
  unfold Store.opened
  generalize Store.empty = store at empty
  induction accounts generalizing store with
  | nil => exact empty
  | cons account rest ih => exact ih _ (opens store account empty)

/-- A store and the calls that share it. -/
structure Traffic where
  store : Store
  calls : List TransferCall

namespace Traffic

/-- Calls that have not done anything yet, on a store. -/
def start (store : Store) (errands : List Errand) : Traffic :=
  ⟨store, errands.map Errand.call⟩

/-- The committed rows. -/
def tables (traffic : Traffic) : Tables :=
  traffic.store.tables

/-- The traffic after a step of one of the calls. -/
def advance (traffic : Traffic) (index : Nat) : Traffic :=
  match traffic.calls[index]? with
  | none => traffic
  | some call =>
      ⟨(call.advance traffic.store).2,
        traffic.calls.set index (call.advance traffic.store).1⟩

/-- The traffic after the turns of a schedule. -/
def run (traffic : Traffic) (schedule : List Nat) : Traffic :=
  schedule.foldl advance traffic

/-- What has become of the call with an index, once it is over. -/
def outcome? (traffic : Traffic) (index : Nat) : Option (Except Failure Transfer) :=
  traffic.calls[index]?.bind TransferCall.outcome?

/-- All calls are over. -/
def Finished (traffic : Traffic) : Prop :=
  ∀ index, index < traffic.calls.length -> (traffic.outcome? index).isSome

instance (traffic : Traffic) : Decidable traffic.Finished :=
  inferInstanceAs (Decidable (∀ index, index < traffic.calls.length ->
    (traffic.outcome? index).isSome))

@[simp] theorem run_cons (traffic : Traffic) (index : Nat) (schedule : List Nat) :
    traffic.run (index :: schedule) = (traffic.advance index).run schedule := rfl

theorem run_append (traffic : Traffic) (first second : List Nat) :
    traffic.run (first ++ second) = (traffic.run first).run second :=
  List.foldl_append

theorem set_of_getElem?
    {α : Type}
    {values : List α}
    {index : Nat}
    {value : α}
    (here : values[index]? = some value) :
    values.set index value = values := by
  obtain ⟨within, rfl⟩ := List.getElem?_eq_some_iff.mp here
  exact List.set_getElem_self within

theorem getElem?_set_here
    {α : Type}
    {values : List α}
    {index : Nat}
    {value : α}
    (here : values[index]? = some value)
    (other : α) :
    (values.set index other)[index]? = some other := by
  obtain ⟨within, -⟩ := List.getElem?_eq_some_iff.mp here
  exact List.getElem?_set_self within

theorem advance_of_absent
    {traffic : Traffic}
    {index : Nat}
    (absent : traffic.calls[index]? = none) :
    traffic.advance index = traffic := by
  simp [advance, absent]

theorem advance_of_call
    {traffic : Traffic}
    {index : Nat}
    {call : TransferCall}
    (here : traffic.calls[index]? = some call) :
    traffic.advance index =
      ⟨(call.advance traffic.store).2,
        traffic.calls.set index (call.advance traffic.store).1⟩ := by
  simp [advance, here]

@[simp] theorem length_advance (traffic : Traffic) (index : Nat) :
    (traffic.advance index).calls.length = traffic.calls.length := by
  rw [advance]
  split
  · rfl
  · exact List.length_set

theorem length_run (traffic : Traffic) (schedule : List Nat) :
    (traffic.run schedule).calls.length = traffic.calls.length := by
  induction schedule generalizing traffic with
  | nil => rfl
  | cons index rest ih => rw [run_cons, ih, length_advance]

end Traffic

/-! ## A small bank -/

namespace Sample

/-- An account with a balance of 100 and a daily limit of 1000. -/
def account (iban : String) (userId : Int) : Account where
  accountId := userId
  iban := iban
  balance := .whole 100 (by decide)
  currency := .tryLira
  status := .active
  dailyLimit := .whole 1000 (by decide)
  isActive := true
  owner := ⟨userId, "First", "Last", "user@example.com", true⟩

/-- The clock stands still, and one code serves as reference and as identifier. -/
def oracle (code : Nat) (reference : String) : Oracle := fun _ ask =>
  match ask with
  | .now => (⟨0, 0⟩ : Instant)
  | .reference _ => reference
  | .externalId => (⟨code⟩ : Uuid)
  | .audit _ => true
  | .dispatch _ => ()

/-- A transfer of 40 on behalf of the owner of the sending account. -/
def errand (sender receiver : String) (userId : Int) (code : Nat) (reference : String) :
    Errand where
  request := ⟨sender, receiver, .whole 40 (by decide), none, none⟩
  caller := ⟨userId, .user, sender, none⟩
  oracle := oracle code reference

/-- Three accounts. -/
def accounts : List Account := [account "A" 1, account "B" 2, account "C" 3]

/-- Two transfers between the same accounts, in opposite directions. -/
def errands : List Errand := [errand "A" "B" 1 7 "R7", errand "B" "A" 2 8 "R8"]

/-- The second of two calls waits for the first one to be over. -/
def handover : List Nat := [0, 0, 1, 1] ++ List.replicate 13 0 ++ List.replicate 14 1

end Sample

example :
    ((Traffic.start (.opened Sample.accounts) Sample.errands).run
      Sample.handover).tables.transfers.length = 2 := by
  decide

end Giro
