/-!
# Scripts

A script is a computation that asks questions of its surroundings and continues
with their answers. It says nothing about who answers: the same script can be
run against a real store, against one that fails at will, or one question at a
time between the questions of other scripts.
-/

namespace Giro

/-- The questions that may be asked and the answers that each of them has. -/
structure Interface where
  Ask : Type
  Answer : Ask -> Type

/-- A computation that asks questions and ends with a value. -/
inductive Script (interface : Interface) (α : Type) : Type
  | done (value : α)
  | ask
      (question : interface.Ask)
      (next : interface.Answer question -> Script interface α)

namespace Script

variable {interface : Interface} {α β : Type}

/-- Continue a script with another one that depends on its value. -/
def bind : Script interface α -> (α -> Script interface β) -> Script interface β
  | done value, rest => rest value
  | ask question next, rest => ask question (fun answer => (next answer).bind rest)

@[simp] theorem bind_done (value : α) (rest : α -> Script interface β) :
    (done value).bind rest = rest value := rfl

@[simp] theorem bind_ask
    (question : interface.Ask)
    (next : interface.Answer question -> Script interface α)
    (rest : α -> Script interface β) :
    (ask question next).bind rest =
      ask question (fun answer => (next answer).bind rest) := rfl

@[simp] theorem bind_done_right (script : Script interface α) :
    script.bind done = script := by
  induction script with
  | done value => rfl
  | ask question next ih => simp only [bind_ask, ih]

/-- Continuing twice is continuing once with both. -/
theorem bind_assoc {γ : Type}
    (script : Script interface α)
    (rest : α -> Script interface β)
    (last : β -> Script interface γ) :
    (script.bind rest).bind last =
      script.bind (fun value => (rest value).bind last) := by
  induction script with
  | done value => rfl
  | ask question next ih => simp only [bind_ask, ih]

instance : Monad (Script interface) where
  pure := done
  bind := bind

/-- The script that asks one question and ends with its answer. -/
def single (question : interface.Ask) : Script interface (interface.Answer question) :=
  ask question done

/-- Run a script with answers that depend on nothing but a state. -/
def run {σ : Type}
    (respond : (question : interface.Ask) -> σ -> interface.Answer question × σ) :
    Script interface α -> σ -> α × σ
  | done value, state => (value, state)
  | ask question next, state =>
      let (answer, state) := respond question state
      (next answer).run respond state

/-- A continued script is run to its value, and from there on. -/
theorem run_bind {σ : Type}
    (respond : (question : interface.Ask) -> σ -> interface.Answer question × σ)
    (script : Script interface α)
    (rest : α -> Script interface β)
    (state : σ) :
    (script.bind rest).run respond state =
      (rest (script.run respond state).1).run respond (script.run respond state).2 := by
  induction script generalizing state with
  | done value => rfl
  | ask question next ih => simp only [bind_ask, run, ih]

end Script
end Giro
