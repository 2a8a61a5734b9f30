import Mathlib.Data.List.Forall2
import PushDelivery.Proofs.Runs.Paths

/-!
# Runs That Follow One Another

A run follows another one if it does the same under answers that are related to those of the other,
request by request. Unlike in `Run.Alike`, the two answers of a request are compared with each
other, so that nothing is assumed of what the first run is answered. And the first run may make
silent requests in between, whose answers have no influence, and which the second one leaves out.

The relation is an inductive one, with a constructor for each way in which two trees can go on. It
is carried through a run part by part, and then read off completed runs.

## Main definitions

* `Run.Follows`: two runs of which the second one does what the first does.
* `Run.AnswersAs`: surroundings that relate to what others have answered.

## Main results

* `Run.Follows.bind`: runs in a row follow runs in a row.
* `Run.Follows.exists_exchanges`: whatever the first run does, the second one can.
* `Run.Follows.exchanges`: what the second run does if it is answered as the first one was.
-/

namespace PushDelivery.Run

variable {I : Interface} {α α' β β' : Type}

/-- The second run does what the first does: they are done with related results; they make related
requests, and go on so after related answers; or the first one makes a silent request, and goes on
so after every answer. -/
inductive Follows (silent : I.Request → Bool) (Q : I.Request → I.Request → Prop)
    (R : Exchange I → Exchange I → Prop) (V : α → α' → Prop) : Run I α → Run I α' → Prop
  | done {a : α} {a' : α'} (value : V a a') : Follows silent Q R V (.done a) (.done a')
  | ask {r r' : I.Request} {next : I.Answer r → Run I α} {next' : I.Answer r' → Run I α'}
      (loud : silent r = false) (asks : Q r r')
      (more : ∀ answer answer', R ⟨r, answer⟩ ⟨r', answer'⟩ →
        Follows silent Q R V (next answer) (next' answer')) :
      Follows silent Q R V (.ask r next) (.ask r' next')
  | silent {r : I.Request} {next : I.Answer r → Run I α} {run' : Run I α'}
      (quiet : silent r = true) (more : ∀ answer, Follows silent Q R V (next answer) run') :
      Follows silent Q R V (.ask r next) run'

/-- The exchanges of a run without its silent requests. -/
def loud (silent : I.Request → Bool) (es : List (Exchange I)) : List (Exchange I) :=
  es.filter fun e => !silent e.1

/-- As long as the answers of the second run are related to those of the first, and it makes a
related request, it gets a related answer. -/
def AnswersAs (silent : I.Request → Bool) (Q : I.Request → I.Request → Prop)
    (R : Exchange I → Exchange I → Prop) (es es' : List (Exchange I)) : Prop :=
  ∀ before e after before' e' after', loud silent es = before ++ e :: after →
    es' = before' ++ e' :: after' → List.Forall₂ R before before' → Q e.1 e'.1 → R e e'

variable {silent : I.Request → Bool} {Q : I.Request → I.Request → Prop}
  {R : Exchange I → Exchange I → Prop} {V : α → α' → Prop} {W : β → β' → Prop}

/-- A silent request is not among the loud ones. -/
theorem loud_cons_of_silent {e : Exchange I} (quiet : silent e.1 = true) (es : List (Exchange I)) :
    loud silent (e :: es) = loud silent es :=
  List.filter_cons_of_neg (by simp [quiet])

/-- Any other request is. -/
theorem loud_cons_of_loud {e : Exchange I} (noisy : silent e.1 = false) (es : List (Exchange I)) :
    loud silent (e :: es) = e :: loud silent es :=
  List.filter_cons_of_pos (by simp [noisy])

/-- What is so related is answered so. -/
theorem AnswersAs.of_forall₂ {es es' : List (Exchange I)}
    (h : List.Forall₂ R (loud silent es) es') : AnswersAs silent Q R es es' := by
  rintro before e after before' e' after' split rfl related -
  have rest := List.forall₂_drop_append _ before' (e' :: after') h
  rw [split, List.drop_left' related.length_eq] at rest
  exact (List.forall₂_cons.mp rest).1

/-- The rest of a run is answered so too. -/
theorem AnswersAs.tail {e e' : Exchange I} {es es' : List (Exchange I)}
    (h : AnswersAs silent Q R (e :: es) (e' :: es')) (noisy : silent e.1 = false) (first : R e e') :
    AnswersAs silent Q R es es' := by
  intro before x after before' x' after' split split' related
  refine h (e :: before) x after (e' :: before') x' after' ?_ ?_ (.cons first related)
  · rw [loud_cons_of_loud noisy, split, List.cons_append]
  · rw [split', List.cons_append]

namespace Follows

/-- Two runs in a row follow two others if the first follow the first, and the second the second
after related results. -/
theorem bind {run : Run I α} {run' : Run I α'} {f : α → Run I β} {f' : α' → Run I β'}
    (h : Follows silent Q R V run run')
    (more : ∀ a a', V a a' → Follows silent Q R W (f a) (f' a')) :
    Follows silent Q R W (run >>= f) (run' >>= f') := by
  induction h with
  | done value => exact more _ _ value
  | ask noisy asks _ ih => exact .ask noisy asks fun answer answer' ha => ih answer answer' ha
  | silent quiet _ ih => exact .silent quiet ih

/-- **What the first run does, the second one can**, if a related request can always be given a
related answer. -/
theorem exists_exchanges {run : Run I α} {run' : Run I α'} {es : List (Exchange I)} {a : α}
    (h : Follows silent Q R V run run')
    (answers : ∀ (e : Exchange I) r', Q e.1 r' → ∃ answer', R e ⟨r', answer'⟩)
    (go : Exchanges run es a) :
    ∃ es' a', Exchanges run' es' a' ∧ List.Forall₂ R (loud silent es) es' ∧ V a a' := by
  induction h generalizing es with
  | @done b a' value =>
      obtain ⟨rfl, rfl⟩ := exchanges_done_iff.mp go
      exact ⟨[], a', .done a', .nil, value⟩
  | @ask r r' next next' noisy asks _ ih =>
      obtain ⟨answer, es, rfl, rest⟩ := exchanges_ask_iff.mp go
      obtain ⟨answer', ha⟩ := answers ⟨r, answer⟩ r' asks
      obtain ⟨es', a', go', related, value⟩ := ih answer answer' ha rest
      refine ⟨⟨r', answer'⟩ :: es', a', .ask go', ?_, value⟩
      rw [loud_cons_of_loud noisy]
      exact .cons ha related
  | @silent r next run' quiet _ ih =>
      obtain ⟨answer, es, rfl, rest⟩ := exchanges_ask_iff.mp go
      rw [loud_cons_of_silent quiet]
      exact ih answer rest

/-- **What the second run does.** If it is answered as the first one was, then it makes related
requests one by one, but for those that are silent, and comes to a related result. -/
theorem exchanges {run : Run I α} {run' : Run I α'} {es es' : List (Exchange I)} {a : α} {a' : α'}
    (h : Follows silent Q R V run run') (go : Exchanges run es a) (go' : Exchanges run' es' a')
    (answered : AnswersAs silent Q R es es') : List.Forall₂ R (loud silent es) es' ∧ V a a' := by
  induction h generalizing es es' with
  | done value =>
      obtain ⟨rfl, rfl⟩ := exchanges_done_iff.mp go
      obtain ⟨rfl, rfl⟩ := exchanges_done_iff.mp go'
      exact ⟨.nil, value⟩
  | @ask r r' next next' noisy asks _ ih =>
      obtain ⟨answer, es, rfl, rest⟩ := exchanges_ask_iff.mp go
      obtain ⟨answer', es', rfl, rest'⟩ := exchanges_ask_iff.mp go'
      have first : R ⟨r, answer⟩ ⟨r', answer'⟩ :=
        answered [] _ _ [] _ _ (loud_cons_of_loud noisy es) rfl .nil asks
      obtain ⟨related, value⟩ := ih answer answer' first rest rest' (answered.tail noisy first)
      rw [loud_cons_of_loud noisy]
      exact ⟨.cons first related, value⟩
  | @silent r next run' quiet _ ih =>
      obtain ⟨answer, es, rfl, rest⟩ := exchanges_ask_iff.mp go
      unfold AnswersAs at answered
      rw [loud_cons_of_silent quiet] at answered ⊢
      exact ih answer rest go' answered

end Follows

end PushDelivery.Run
