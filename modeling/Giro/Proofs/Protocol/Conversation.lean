import Giro.Script
import Mathlib.Data.List.Basic

/-!
# Conversations

A script in conversation with a partner who answers as it pleases. What is shown
here of a script holds of every conversation, whoever the partner is and however
far the conversation has got: a rule for the questions is kept by each of them,
given everything that was heard before it, and the end is as it has to be.
-/

namespace Giro

/-- What was asked and what was answered, in order. -/
abbrev Interface.Talk (interface : Interface) : Type :=
  List ((question : interface.Ask) × interface.Answer question)

/-- Someone who answers, knowing all that was asked and answered before. -/
abbrev Interface.Partner (interface : Interface) : Type :=
  interface.Talk -> (question : interface.Ask) -> interface.Answer question

namespace Script

variable {interface : Interface} {α β : Type}

/-- The conversation of a script with a partner, and the value that it ends with. -/
def converse (partner : interface.Partner) :
    Script interface α -> interface.Talk -> interface.Talk × α
  | done value, heard => (heard, value)
  | ask question next, heard =>
      (next (partner heard question)).converse partner
        (heard ++ [⟨question, partner heard question⟩])

/-- What is left of a script after some of its questions have been answered. -/
inductive Leads (script : Script interface α) : interface.Talk -> Script interface α -> Prop
  | start : Leads script [] script
  | hears
      {heard : interface.Talk}
      {question : interface.Ask}
      {next : interface.Answer question -> Script interface α}
      (leads : Leads script heard (ask question next))
      (answer : interface.Answer question) :
      Leads script (heard ++ [⟨question, answer⟩]) (next answer)

/-- A script that is over leads nowhere else. -/
theorem Leads.eq_done
    {value : α}
    {heard : interface.Talk}
    {rest : Script interface α}
    (leads : (done value : Script interface α).Leads heard rest) :
    rest = done value := by
  induction leads with
  | start => rfl
  | hears leads answer ih => cases ih

/-- A conversation leads to the value that it ends with. -/
theorem Leads.converse
    {script rest : Script interface α}
    {heard : interface.Talk}
    (partner : interface.Partner)
    (leads : script.Leads heard rest) :
    script.Leads (rest.converse partner heard).1 (done (rest.converse partner heard).2) := by
  induction rest generalizing heard with
  | done value => exact leads
  | ask question next ih => exact ih _ (leads.hears _)

/--
Whatever is answered, each question keeps a rule that may depend on what was
heard before it, and the end is as demanded.
-/
def Keeps
    (proper : interface.Talk -> interface.Ask -> Prop)
    (final : interface.Talk -> α -> Prop) :
    Script interface α -> interface.Talk -> Prop
  | done value, heard => final heard value
  | ask question next, heard =>
      proper heard question ∧
        ∀ answer, (next answer).Keeps proper final (heard ++ [⟨question, answer⟩])

variable {proper : interface.Talk -> interface.Ask -> Prop}

/-- A continued script keeps a rule if what its first part ends with lets the rest keep it. -/
theorem keeps_bind
    {middle : interface.Talk -> α -> Prop}
    {final : interface.Talk -> β -> Prop}
    {rest : α -> Script interface β}
    {script : Script interface α}
    {heard : interface.Talk}
    (first : script.Keeps proper middle heard)
    (continues : ∀ later value, middle later value -> (rest value).Keeps proper final later) :
    (script.bind rest).Keeps proper final heard := by
  induction script generalizing heard with
  | done value => exact continues heard value first
  | ask question next ih => exact ⟨first.1, fun answer => ih answer (first.2 answer)⟩

variable {final : interface.Talk -> α -> Prop}

/-- What is demanded of the end may be weakened. -/
theorem Keeps.weaken
    {weaker : interface.Talk -> α -> Prop}
    {script : Script interface α}
    {heard : interface.Talk}
    (keeps : script.Keeps proper final heard)
    (weakens : ∀ later value, final later value -> weaker later value) :
    script.Keeps proper weaker heard := by
  induction script generalizing heard with
  | done value => exact weakens heard value keeps
  | ask question next ih => exact ⟨keeps.1, fun answer => ih answer (keeps.2 answer)⟩

/-- A rule is kept in every conversation, and by what is left of it at any time. -/
theorem Leads.keeps
    {script rest : Script interface α}
    {heard : interface.Talk}
    (leads : script.Leads heard rest)
    (keeps : script.Keeps proper final []) :
    rest.Keeps proper final heard ∧
      ∀ before question answer after, heard = before ++ ⟨question, answer⟩ :: after ->
        proper before question := by
  induction leads with
  | start =>
      refine ⟨keeps, ?_⟩
      intro before question answer after equal
      simp at equal
  | @hears heard question next leads answer ih =>
      obtain ⟨⟨here, later⟩, earlier⟩ := ih
      refine ⟨later answer, ?_⟩
      intro before other reply after equal
      rcases List.eq_nil_or_concat after with rfl | ⟨middle, last, rfl⟩
      · -- The exchange in question is the last one.
        obtain ⟨rfl, same⟩ := List.append_inj' equal rfl
        cases same
        exact here
      · rw [List.concat_eq_append, ← List.cons_append, ← List.append_assoc] at equal
        obtain ⟨earlierTalk, -⟩ := List.append_inj' equal rfl
        exact earlier before other reply middle earlierTalk

end Script
end Giro
