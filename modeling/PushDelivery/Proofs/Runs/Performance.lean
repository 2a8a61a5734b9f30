import PushDelivery.Proofs.Runs.Paths

/-!
# Runs Carried Out by Other Runs

`Run.within` lets the requests of a run be carried out by runs of another interface. From outside,
only the exchanges of those other runs can be seen. They come in stretches, one for each exchange
of the run, and what happens in the run is told from its stretches.

## Main definitions

* `Performs`: the stretches in which the exchanges of a run are carried out.

## Main results

* `exchanges_within_iff`: what a run does that is carried out by other runs.
* `performs_append_iff`, `performs_cons_iff`: stretches of stretches.
* `Performs.exists_stretch`: every exchange is made in the stretch of one that is carried out.
-/

namespace PushDelivery.Run

variable {I J : Interface} {α : Type} {perform : (r : I.Request) → Run J (I.Answer r)}

/-- Exchanges of a run, with the stretches of other exchanges in which they are carried out. -/
inductive Performs (perform : (r : I.Request) → Run J (I.Answer r)) :
    List (Exchange I) → List (Exchange J) → Prop
  | nil : Performs perform [] []
  | cons {r : I.Request} {answer : I.Answer r} {outer : List (Exchange I)}
      {stretch rest : List (Exchange J)} (first : Exchanges (perform r) stretch answer)
      (more : Performs perform outer rest) :
      Performs perform (⟨r, answer⟩ :: outer) (stretch ++ rest)

/-- Without exchanges there are no stretches. -/
theorem performs_nil_iff {es : List (Exchange J)} : Performs perform [] es ↔ es = [] := by
  constructor
  · intro h
    cases h with
    | nil => rfl
  · rintro rfl
    exact .nil

/-- The first exchange is carried out in the first stretch. -/
theorem performs_cons_iff {r : I.Request} {answer : I.Answer r} {outer : List (Exchange I)}
    {es : List (Exchange J)} :
    Performs perform (⟨r, answer⟩ :: outer) es ↔
      ∃ stretch rest, es = stretch ++ rest ∧ Exchanges (perform r) stretch answer ∧
        Performs perform outer rest := by
  constructor
  · intro h
    cases h with
    | cons first more => exact ⟨_, _, rfl, first, more⟩
  · rintro ⟨stretch, rest, rfl, first, more⟩
    exact .cons first more

/-- Exchanges one after the other are carried out one after the other. -/
theorem performs_append_iff {outer more : List (Exchange I)} {es : List (Exchange J)} :
    Performs perform (outer ++ more) es ↔
      ∃ first rest, es = first ++ rest ∧ Performs perform outer first ∧
        Performs perform more rest := by
  induction outer generalizing es with
  | nil =>
      constructor
      · intro h
        exact ⟨[], es, rfl, .nil, h⟩
      · rintro ⟨first, rest, rfl, hfirst, hrest⟩
        obtain rfl := performs_nil_iff.mp hfirst
        exact hrest
  | cons e outer ih =>
      obtain ⟨r, answer⟩ := e
      rw [List.cons_append, performs_cons_iff]
      constructor
      · rintro ⟨stretch, rest, rfl, hstretch, hrest⟩
        obtain ⟨first, rest, rfl, hfirst, hmore⟩ := ih.mp hrest
        exact ⟨stretch ++ first, rest, (List.append_assoc _ _ _).symm, .cons hstretch hfirst, hmore⟩
      · rintro ⟨first, rest, rfl, hfirst, hmore⟩
        obtain ⟨stretch, first, rfl, hstretch, hfirst⟩ := performs_cons_iff.mp hfirst
        exact ⟨stretch, first ++ rest, List.append_assoc _ _ _, hstretch,
          ih.mpr ⟨first, rest, rfl, hfirst, hmore⟩⟩

/-- A run that is carried out by other runs makes their exchanges, one stretch for each exchange of
its own. -/
theorem exchanges_within_iff {run : Run I α} {es : List (Exchange J)} {a : α} :
    Exchanges (run.within perform) es a ↔
      ∃ outer, Exchanges run outer a ∧ Performs perform outer es := by
  induction run generalizing es with
  | done b =>
      rw [within, exchanges_done_iff]
      constructor
      · rintro ⟨rfl, rfl⟩
        exact ⟨[], .done _, .nil⟩
      · rintro ⟨outer, ho, hp⟩
        obtain ⟨rfl, rfl⟩ := exchanges_done_iff.mp ho
        exact ⟨performs_nil_iff.mp hp, rfl⟩
  | ask r next ih =>
      rw [within, exchanges_bind_iff]
      constructor
      · rintro ⟨answer, stretch, rest, rfl, hstretch, hrest⟩
        obtain ⟨outer, ho, hp⟩ := (ih answer).mp hrest
        exact ⟨⟨r, answer⟩ :: outer, .ask ho, .cons hstretch hp⟩
      · rintro ⟨outer, ho, hp⟩
        obtain ⟨answer, outer, rfl, hnext⟩ := exchanges_ask_iff.mp ho
        obtain ⟨stretch, rest, rfl, hstretch, hrest⟩ := performs_cons_iff.mp hp
        exact ⟨answer, stretch, rest, rfl, hstretch, (ih answer).mpr ⟨outer, hnext, hrest⟩⟩

/-- An exchange that is made in some stretch belongs to one of the exchanges carried out. -/
theorem Performs.exists_stretch {outer : List (Exchange I)} {es : List (Exchange J)}
    (h : Performs perform outer es) {e : Exchange J} (he : e ∈ es) :
    ∃ x ∈ outer, ∃ stretch, Exchanges (perform x.1) stretch x.2 ∧ e ∈ stretch := by
  induction h with
  | nil => cases he
  | @cons r answer outer stretch rest first more ih =>
      rcases List.mem_append.mp he with he | he
      · exact ⟨⟨r, answer⟩, List.mem_cons_self, stretch, first, he⟩
      · obtain ⟨x, hx, stretch', hstretch, hmem⟩ := ih he
        exact ⟨x, List.mem_cons_of_mem _ hx, stretch', hstretch, hmem⟩

end PushDelivery.Run
