import Mathlib.Data.List.Forall2
import PushDelivery.Proofs.Runs.Paths

/-!
# Runs That Are Alike

Two runs are compared under answers that need not be the same, but are of one class. They are alike
if, as long as that is so, they ask for related things in the same order and come to related
results. So nothing in which the answers of the class differ has an influence on what the runs do,
beyond what the two relations leave open.

The relation is defined by recursion on both trees at once. It is carried through a run part by
part, and then read off completed runs.

## Main definitions

* `Run.Alike`: two runs that ask for related things and come to related results.

## Main results

* `Run.Alike.bind`: runs in a row are alike if their parts are.
* `Run.Alike.exchanges`: what completed runs that are alike have exchanged, and their results.
-/

namespace PushDelivery.Run

variable {I : Interface} {α α' β β' : Type}

/-- As long as the answers that both runs get are of a class, each request of one is related to that
of the other, and in the end their results are related. -/
def Alike (A : Exchange I → Prop) (Q : I.Request → I.Request → Prop) (V : α → α' → Prop) :
    Run I α → Run I α' → Prop
  | .done a, .done a' => V a a'
  | .ask r next, .ask r' next' =>
    Q r r' ∧ ∀ answer answer', A ⟨r, answer⟩ → A ⟨r', answer'⟩ →
      Alike A Q V (next answer) (next' answer')
  | .done _, .ask _ _ | .ask _ _, .done _ => False

namespace Alike

variable {A : Exchange I → Prop} {Q : I.Request → I.Request → Prop} {V : α → α' → Prop}
  {W : β → β' → Prop}

/-- Two runs in a row are alike if the first are, and the second are after related results. -/
theorem bind {run : Run I α} {run' : Run I α'} {f : α → Run I β} {f' : α' → Run I β'}
    (h : Alike A Q V run run') (more : ∀ a a', V a a' → Alike A Q W (f a) (f' a')) :
    Alike A Q W (run >>= f) (run' >>= f') := by
  induction run generalizing run' with
  | done a =>
      cases run' with
      | done a' => exact more a a' h
      | ask => exact h.elim
  | ask r next ih =>
      cases run' with
      | done => exact h.elim
      | ask r' next' =>
          exact ⟨h.1, fun answer answer' ha ha' => ih answer (h.2 answer answer' ha ha')⟩

/-- **What runs that are alike do.** Once both are over, and all that they were answered is of the
class, they have asked for related things one by one, and their results are related. -/
theorem exchanges {run : Run I α} {run' : Run I α'} {es es' : List (Exchange I)} {a : α} {a' : α'}
    (h : Alike A Q V run run') (go : Exchanges run es a) (go' : Exchanges run' es' a')
    (answers : ∀ e ∈ es, A e) (answers' : ∀ e ∈ es', A e) :
    List.Forall₂ (fun e e' => Q e.1 e'.1) es es' ∧ V a a' := by
  induction go generalizing run' es' with
  | done a =>
      cases go' with
      | done => exact ⟨.nil, h⟩
      | ask => exact h.elim
  | ask _ ih =>
      cases go' with
      | done => exact h.elim
      | ask go' =>
          obtain ⟨first, rest⟩ := List.forall_mem_cons.mp answers
          obtain ⟨first', rest'⟩ := List.forall_mem_cons.mp answers'
          obtain ⟨requests, results⟩ := ih (h.2 _ _ first first') go' rest rest'
          exact ⟨.cons h.1 requests, results⟩

end Alike

end PushDelivery.Run
