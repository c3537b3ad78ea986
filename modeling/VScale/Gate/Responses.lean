import VScale.Gate.Evolution
import VScale.Gate.ScatterWindow

/-!
# What a response is made of

The response to a statement is the answer of the only tablet it was forwarded to,
or it is made of the answers of all tablets it was scattered to.  Every tablet
answers a statement with one result.
-/

namespace VScale

open Aggregate Collections Effects Tree

namespace AllAnswered

variable {sql : SqlText} {trace : Trace gate} {responses : List QueryResponse}

theorem none : AllAnswered sql [] [] :=
  ⟨rfl, List.forall_mem_nil _⟩

/-- One more tablet has answered. -/
theorem cons
    {tc : TabletClient}
    {txID : TxID}
    {resp : QueryResponse}
    (later : AllAnswered sql trace responses) :
    AllAnswered sql (⟨.execute tc sql txID, .ok resp⟩ :: trace) (resp :: responses) := by
  refine ⟨congrArg (List.cons _) later.answers, List.forall_mem_cons.mpr ⟨?_, ?_⟩⟩
  · exact ⟨tc, txID, List.mem_cons_self⟩
  · intro other listed
    obtain ⟨tc, txID, present⟩ := later.asked other listed
    exact ⟨tc, txID, List.mem_cons_of_mem _ present⟩

/-- Other operations come before. -/
theorem after
    {before : Trace gate}
    (answered : AllAnswered sql trace responses)
    (quiet : responsesOf before = []) : AllAnswered sql (before ++ trace) responses := by
  refine ⟨?_, ?_⟩
  · rw [responsesOf_append, quiet, List.nil_append]
    exact answered.answers
  · intro resp listed
    obtain ⟨tc, txID, present⟩ := answered.asked resp listed
    exact ⟨tc, txID, List.mem_append_right _ present⟩

/-- Other operations follow. -/
theorem followed
    {later : Trace gate}
    (answered : AllAnswered sql trace responses)
    (quiet : responsesOf later = []) : AllAnswered sql (trace ++ later) responses := by
  refine ⟨?_, ?_⟩
  · rw [responsesOf_append, quiet, List.append_nil]
    exact answered.answers
  · intro resp listed
    obtain ⟨tc, txID, present⟩ := answered.asked resp listed
    exact ⟨tc, txID, List.mem_append_left _ present⟩

end AllAnswered

/-- A loop that has gathered the whole was answered by every tablet. -/
theorem GathersAll.answered
    {sql : SqlText}
    {trace : Trace gate}
    {whole : List QueryResult → γ}
    {results : List QueryResult}
    (gathers : GathersAll sql whole trace (whole results))
    (injective : whole.Injective) :
    ∃ responses, AllAnswered sql trace responses ∧ results = collected responses := by
  rcases gathers with ⟨responses, answered, same⟩ | ⟨_, other⟩
  · exact ⟨responses, answered, injective same⟩
  · exact absurd rfl (other results)

section Responses

variable {ext : Externals} {stmt : Statement} {trace : Trace gate} {resp : QueryResponse}

section Plain

variable (plain : Parser.isTxControl stmt = false)
include plain

variable {before : Trace gate} {session : Int}

end Plain

end Responses

end VScale
