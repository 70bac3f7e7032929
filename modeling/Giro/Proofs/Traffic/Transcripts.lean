import Giro.Proofs.Protocol.Course
import Giro.Proofs.Traffic.Coherence

/-!
# Transcripts

What a call has been answered so far leads from the script of its errand to where
the call stands. So what is known of a transfer in conversation with whomever it
may be is known of every call in traffic, and of its transcript.
-/

namespace Giro
namespace TransferCall

/-- The row whose lock a call waits for, or will be told of next. -/
def awaited? (call : TransferCall) : Option String :=
  match call.standing with
  | .active _ _ => none
  | .waiting _ iban _ _ _ => some iban

/-- The answers to a call lead from its script to where it stands. -/
def Recites (call : TransferCall) (script : TransferScript (Except Failure Transfer)) : Prop :=
  match call.standing with
  | .active _ rest => script.Leads call.transcript rest
  | .waiting _ iban ask _ next =>
      ask = .lock iban ∧ script.Leads call.transcript (.ask (.ledger ask) next)

/-- No answer makes a call wait but that about a lock. -/
theorem lock_of_waiting
    {store after : Store}
    {current : Option TransactionId}
    {ask : LedgerAsk}
    {id : TransactionId}
    {iban : String}
    {reply : Except Refusal (Option Account) -> ask.Answer}
    (served : store.serve current ask = .waiting id iban reply after) :
    ask = .lock iban := by
  cases current with
  | none => cases ask <;> cases served
  | some own =>
      cases ask with
      | lock row =>
          simp only [Store.serve, Store.serveOpen] at served
          split at served <;> cases served
          rfl
      | _ => cases served

/-- A step that is answered is one more exchange in the transcript. -/
theorem recites_advance
    {call : TransferCall}
    {script : TransferScript (Except Failure Transfer)}
    (recites : call.Recites script)
    (store : Store) :
    (call.advance store).1.Recites script := by
  obtain ⟨oracle, transcript, standing⟩ := call
  cases standing with
  | active current rest =>
      cases rest with
      | done outcome => exact recites
      | ask ask next =>
          cases ask with
          | outside ask => exact recites.hears _
          | ledger ask =>
              have received : (⟨oracle, transcript, .active current (.ask (.ledger ask) next)⟩ :
                  TransferCall).advance store =
                (⟨oracle, transcript, .active current (.ask (.ledger ask) next)⟩ :
                  TransferCall).receive ask next (store.serve current ask) := rfl
              rw [received]
              cases served : store.serve current ask with
              | answered answer later after => exact recites.hears answer
              | waiting id iban reply after => exact ⟨lock_of_waiting served, recites⟩
  | waiting id iban ask reply next => exact recites.2.hears _

end TransferCall

namespace TransferCall

variable {call : TransferCall} {errand : Errand}

/-- A transfer that names a single account asks nothing. -/
theorem eq_done_of_same
    {request : TransferRequest}
    {caller : Caller}
    (same : (Mandate.of request caller).sender = (Mandate.of request caller).receiver) :
    transferScript request caller = .done (.error (.refused .sameAccount)) := by
  unfold Mandate.of at same
  unfold transferScript
  exact if_pos same

/-- A call that is over has come to an end that is demanded of it. -/
theorem final_of_outcome?
    (recites : call.Recites (transferScript errand.request errand.caller))
    {outcome : Except Failure Transfer}
    (known : call.outcome? = some outcome) :
    (Mandate.of errand.request errand.caller).Final call.transcript outcome := by
  obtain ⟨current, stands⟩ := outcome?_eq_some_iff.mp known
  obtain ⟨oracle, transcript, standing⟩ := call
  subst stands
  exact (Mandate.proper_of_leads recites).1

/-- The lock that a call waits for is the next one in the order of its locks. -/
theorem inTurn_of_awaited?
    (recites : call.Recites (transferScript errand.request errand.caller))
    {iban : String}
    (awaits : call.awaited? = some iban) :
    let mandate := Mandate.of errand.request errand.caller
    mandate.order.1 < mandate.order.2 ∧
      Mandate.locksAsked call.transcript ++ [iban] <+: [mandate.order.1, mandate.order.2] := by
  obtain ⟨oracle, transcript, standing⟩ := call
  cases standing with
  | active current rest => cases awaits
  | waiting id row ask reply next =>
      cases awaits
      obtain ⟨rfl, leads⟩ := recites
      refine ⟨Mandate.order_ascends ?_, (Mandate.proper_of_leads leads).1.1.2⟩
      intro same
      rw [eq_done_of_same same] at leads
      cases leads.eq_done

end TransferCall

namespace Traffic

/-- What every call starts with and keeps in each of its steps holds of every call. -/
theorem calls_run_induction
    (holds : Errand -> TransferCall -> Prop)
    (outset : ∀ errand, holds errand errand.call)
    (keeps : ∀ errand call store, holds errand call ->
      holds errand (TransferCall.advance call store).1)
    (store : Store)
    (errands : List Errand)
    (schedule : List Nat)
    {index : Nat}
    {call : TransferCall}
    (here : ((start store errands).run schedule).calls[index]? = some call) :
    ∃ errand, errands[index]? = some errand ∧ holds errand call := by
  induction schedule using List.reverseRecOn generalizing call with
  | nil =>
      change (errands.map Errand.call)[index]? = some call at here
      rw [List.getElem?_map, Option.map_eq_some_iff] at here
      obtain ⟨errand, found, rfl⟩ := here
      exact ⟨errand, found, outset errand⟩
  | append_singleton before turn ih =>
      rw [run_append] at here
      change (((start store errands).run before).advance turn).calls[index]? = some call at here
      generalize (start store errands).run before = traffic at ih here
      cases own : traffic.calls[turn]? with
      | none =>
          rw [advance_of_absent own] at here
          exact ih here
      | some actor =>
          rw [advance_of_call own, List.getElem?_set] at here
          split at here
          · rename_i same
            subst same
            split at here <;> cases here
            obtain ⟨errand, found, held⟩ := ih own
            exact ⟨errand, found, keeps errand actor traffic.store held⟩
          · exact ih here

/-- In traffic, every call recites the script of its errand. -/
theorem recites_run
    (store : Store)
    (errands : List Errand)
    (schedule : List Nat)
    {index : Nat}
    {call : TransferCall}
    (here : ((start store errands).run schedule).calls[index]? = some call) :
    ∃ errand, errands[index]? = some errand ∧
      call.Recites (transferScript errand.request errand.caller) :=
  calls_run_induction
    (fun errand call => call.Recites (transferScript errand.request errand.caller))
    (fun _ => Script.Leads.start) (fun _ _ store recites => TransferCall.recites_advance recites store)
    store errands schedule here

end Traffic
end Giro
