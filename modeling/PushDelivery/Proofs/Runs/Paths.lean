import PushDelivery.Run.Basic

/-!
# Paths of Runs

A run that is over is described by `Run.Exchanges`. A run that is still going on, or that was
abandoned in the middle, has made some of its exchanges and stands at what is left of it. This
module relates the two: a completed run splits at every exchange, and every run that has begun can
be completed, whatever class of answers its surroundings keep to.

## Main results

* `Run.Reaches`: the exchanges that lead from a run to what is left of it.
* `Run.OnlyAsks`, `Run.AsksUnder`: what a run may ask for, whatever it is answered or under some
  answers.
* `Run.reaches_done_iff`: the runs that have nothing left are those that `Exchanges` describes.
* `Run.Reaches.exists_exchanges`: a run that has begun can be completed within any class of answers
  that has one for each request.
* `Run.exchanges_against`: a run comes to its end in all surroundings.
-/

namespace PushDelivery.Run

variable {I : Interface} {α β : Type}

/-- The run can make exactly these exchanges first, and then the other run is what is left of it. -/
inductive Reaches : Run I α → List (Exchange I) → Run I α → Prop
  | here (run : Run I α) : Reaches run [] run
  | ask {r : I.Request} {next : I.Answer r → Run I α} {answer : I.Answer r}
      {rest : List (Exchange I)} {left : Run I α} (go : Reaches (next answer) rest left) :
      Reaches (.ask r next) (⟨r, answer⟩ :: rest) left

/-! ### Completed runs -/

/-- A run that is done makes no exchange. -/
theorem exchanges_done_iff {a b : α} {es : List (Exchange I)} :
    Exchanges (.done a) es b ↔ es = [] ∧ b = a := by
  constructor
  · intro h
    cases h with
    | done => exact ⟨rfl, rfl⟩
  · rintro ⟨rfl, rfl⟩
    exact .done _

/-- A request comes first, and the rest of the run depends on its answer. -/
theorem exchanges_ask_iff {r : I.Request} {next : I.Answer r → Run I α}
    {es : List (Exchange I)} {b : α} :
    Exchanges (.ask r next) es b ↔
      ∃ answer rest, es = ⟨r, answer⟩ :: rest ∧ Exchanges (next answer) rest b := by
  constructor
  · intro h
    cases h with
    | ask go => exact ⟨_, _, rfl, go⟩
  · rintro ⟨answer, rest, rfl, go⟩
    exact .ask go

/-- A request with what comes after it. -/
theorem exchanges_request_bind_iff {r : I.Request} {f : I.Answer r → Run I α}
    {es : List (Exchange I)} {b : α} :
    Exchanges (request r >>= f) es b ↔
      ∃ answer rest, es = ⟨r, answer⟩ :: rest ∧ Exchanges (f answer) rest b :=
  exchanges_ask_iff

/-- A run is over after the first of its exchanges that complete it, with one result. -/
theorem Exchanges.unique {run : Run I α} {es es' rest rest' : List (Exchange I)} {a a' : α}
    (h : Exchanges run es a) (h' : Exchanges run es' a') (same : es ++ rest = es' ++ rest') :
    es = es' ∧ a = a' := by
  induction h generalizing es' with
  | done a =>
      obtain ⟨rfl, rfl⟩ := exchanges_done_iff.mp h'
      exact ⟨rfl, rfl⟩
  | ask _ ih =>
      obtain ⟨answer, es', rfl, go⟩ := exchanges_ask_iff.mp h'
      obtain ⟨first, more⟩ := List.cons.inj same
      obtain rfl := eq_of_heq (Sigma.mk.inj first).2
      obtain ⟨rfl, rfl⟩ := ih go more
      exact ⟨rfl, rfl⟩

/-! ### Runs that have begun -/

/-- The runs that have nothing left are those that are over. -/
theorem reaches_done_iff {run : Run I α} {es : List (Exchange I)} {a : α} :
    Reaches run es (.done a) ↔ Exchanges run es a := by
  constructor
  · intro h
    generalize hl : Run.done a = left at h
    induction h with
    | here => exact hl ▸ .done a
    | ask _ ih => exact .ask (ih hl)
  · intro h
    induction h with
    | done a => exact .here _
    | ask _ ih => exact .ask ih

/-- What is left of a run, completed, completes the run. -/
theorem Reaches.exchanges {run left : Run I α} {es rest : List (Exchange I)} {a : α}
    (h : Reaches run es left) (go : Exchanges left rest a) : Exchanges run (es ++ rest) a := by
  induction h with
  | here => exact go
  | ask _ ih => exact .ask (ih go)

/-- The exchanges that complete a run that has begun are those of what is left of it. -/
theorem Reaches.exchanges_iff {run left : Run I α} {es rest : List (Exchange I)} {a : α}
    (h : Reaches run es left) : Exchanges run (es ++ rest) a ↔ Exchanges left rest a := by
  constructor
  · intro go
    induction h with
    | here => exact go
    | ask _ ih =>
        cases go with
        | ask go => exact ih go
  · exact h.exchanges

/-- A run that has begun, followed by another. -/
theorem Reaches.bind {run left : Run I α} {es : List (Exchange I)} (h : Reaches run es left)
    (f : α → Run I β) : Reaches (run >>= f) es (left >>= f) := by
  induction h with
  | here => exact .here _
  | ask _ ih => exact .ask ih

/-- Two stretches of a run are one. -/
theorem Reaches.trans {run mid left : Run I α} {es rest : List (Exchange I)}
    (h : Reaches run es mid) (h' : Reaches mid rest left) : Reaches run (es ++ rest) left := by
  induction h with
  | here => exact h'
  | ask _ ih => exact .ask (ih h')

/-- A completed run, followed by another, stands at the beginning of the other. -/
theorem Exchanges.reaches_bind {run : Run I α} {es : List (Exchange I)} {a : α}
    (h : Exchanges run es a) (f : α → Run I β) : Reaches (run >>= f) es (f a) :=
  (reaches_done_iff.mpr h).bind f

/-- Every run can be completed within a class of answers that has one for each request. -/
theorem exists_exchanges {P : Exchange I → Prop} (hP : ∀ r, ∃ answer, P ⟨r, answer⟩)
    (run : Run I α) : ∃ es a, Exchanges run es a ∧ ∀ e ∈ es, P e := by
  induction run with
  | done a => exact ⟨[], a, .done a, by simp⟩
  | ask r next ih =>
      obtain ⟨answer, ha⟩ := hP r
      obtain ⟨es, a, hes, hall⟩ := ih answer
      refine ⟨⟨r, answer⟩ :: es, a, .ask hes, ?_⟩
      intro e he
      rcases List.mem_cons.mp he with rfl | he
      · exact ha
      · exact hall e he

/-- A run that has begun can be completed within a class of answers that has one for each
request. -/
theorem Reaches.exists_exchanges {P : Exchange I → Prop} (hP : ∀ r, ∃ answer, P ⟨r, answer⟩)
    {run left : Run I α} {es : List (Exchange I)} (h : Reaches run es left) :
    ∃ rest a, Exchanges run (es ++ rest) a ∧ ∀ e ∈ rest, P e := by
  obtain ⟨rest, a, hr, hall⟩ := Run.exists_exchanges hP left
  exact ⟨rest, a, h.exchanges hr, hall⟩

/-! ### Runs against their surroundings -/

/-- The exchanges of a run and its result, if its surroundings answer each request by the exchanges
before it. -/
def against : Run I α → (List (Exchange I) → (r : I.Request) → I.Answer r) → List (Exchange I) × α
  | .done a, _ => ([], a)
  | .ask r next, answer =>
    let first : Exchange I := ⟨r, answer [] r⟩
    let (rest, a) := against (next first.2) fun before => answer (first :: before)
    (first :: rest, a)

/-- Every run comes to its end, whatever it is answered. -/
theorem exchanges_against (run : Run I α)
    (answer : List (Exchange I) → (r : I.Request) → I.Answer r) :
    Exchanges run (run.against answer).1 (run.against answer).2 := by
  induction run generalizing answer with
  | done a => exact .done a
  | ask r next ih => exact .ask (ih _ _)

/-- All exchanges of a run are of a class if its surroundings answer within it. -/
theorem forall_mem_against {P : Exchange I → Prop} (run : Run I α)
    (answer : List (Exchange I) → (r : I.Request) → I.Answer r)
    (within : ∀ before r, P ⟨r, answer before r⟩) : ∀ e ∈ (run.against answer).1, P e := by
  induction run generalizing answer with
  | done a => exact fun e he => absurd he List.not_mem_nil
  | ask r next ih =>
      exact List.forall_mem_cons.mpr ⟨within [] r, ih _ _ fun before => within _⟩

/-! ### What a run may ask -/

/-- Every request that the run can make, whatever it is answered, has a property. -/
def OnlyAsks (P : I.Request → Prop) : Run I α → Prop
  | .done _ => True
  | .ask r next => P r ∧ ∀ answer, OnlyAsks P (next answer)

/-- Two runs in a row ask for nothing but what they ask for. -/
theorem OnlyAsks.bind {P : I.Request → Prop} {run : Run I α} {f : α → Run I β}
    (h : OnlyAsks P run) (hf : ∀ a, OnlyAsks P (f a)) : OnlyAsks P (run >>= f) := by
  induction run with
  | done a => exact hf a
  | ask r next ih => exact ⟨h.1, fun answer => ih answer (h.2 answer)⟩

/-- A run that asks only for some requests asks only for those and others. -/
theorem OnlyAsks.mono {P Q : I.Request → Prop} {run : Run I α} (h : OnlyAsks P run)
    (hQ : ∀ r, P r → Q r) : OnlyAsks Q run := by
  induction run with
  | done a => trivial
  | ask r next ih => exact ⟨hQ r h.1, fun answer => ih answer (h.2 answer)⟩

/-- Every run asks only for what all requests have. -/
theorem OnlyAsks.of_forall {P : I.Request → Prop} (h : ∀ r, P r) (run : Run I α) :
    OnlyAsks P run := by
  induction run with
  | done a => trivial
  | ask r next ih => exact ⟨h r, ih⟩

/-- A run that is carried out by other runs asks for nothing but what those ask for. -/
theorem OnlyAsks.within {J : Interface} {P : J.Request → Prop}
    {perform : (r : I.Request) → Run J (I.Answer r)} {run : Run I α}
    (h : OnlyAsks (fun r => OnlyAsks P (perform r)) run) : OnlyAsks P (run.within perform) := by
  induction run with
  | done a => trivial
  | ask r next ih => exact h.1.bind fun answer => ih answer (h.2 answer)

/-- A run asks for nothing but what it asks for in its completions, if every request can be
answered. -/
theorem OnlyAsks.of_forall_exchanges {P : I.Request → Prop} (answers : ∀ r, Nonempty (I.Answer r))
    {run : Run I α} (h : ∀ es a, Exchanges run es a → ∀ e ∈ es, P e.1) : OnlyAsks P run := by
  induction run with
  | done a => trivial
  | ask r next ih =>
      have completed : ∀ answer, ∃ es a, Exchanges (next answer) es a := fun answer => by
        obtain ⟨es, a, he, -⟩ := exists_exchanges (P := fun _ => True)
          (fun r => (answers r).elim fun x => ⟨x, trivial⟩) (next answer)
        exact ⟨es, a, he⟩
      refine ⟨?_, fun answer => ih answer fun es a he e hm => ?_⟩
      · obtain ⟨answer⟩ := answers r
        obtain ⟨es, a, he⟩ := completed answer
        exact h _ a (.ask he) ⟨r, answer⟩ List.mem_cons_self
      · exact h _ a (.ask he) e (List.mem_cons_of_mem _ hm)

/-- The exchanges of a run that has begun have requests that it may ask. -/
theorem OnlyAsks.of_reaches {P : I.Request → Prop} {run left : Run I α} {es : List (Exchange I)}
    (h : OnlyAsks P run) (hr : Reaches run es left) : ∀ e ∈ es, P e.1 := by
  induction hr with
  | here => simp
  | ask _ ih =>
      intro e he
      rcases List.mem_cons.mp he with rfl | he
      · exact h.1
      · exact ih (h.2 _) e he

/-- The exchanges of a run have requests that it may ask. -/
theorem OnlyAsks.of_exchanges {P : I.Request → Prop} {run : Run I α} {es : List (Exchange I)}
    {a : α} (h : OnlyAsks P run) (he : Exchanges run es a) : ∀ e ∈ es, P e.1 :=
  h.of_reaches (reaches_done_iff.mpr he)

/-! ### What a run may ask under some answers -/

/-- Every request that the run can make, as long as its answers are of a class, has a property. -/
def AsksUnder (A : Exchange I → Prop) (P : I.Request → Prop) : Run I α → Prop
  | .done _ => True
  | .ask r next => P r ∧ ∀ answer, A ⟨r, answer⟩ → AsksUnder A P (next answer)

variable {A : Exchange I → Prop} {P : I.Request → Prop}

/-- Two runs in a row ask for nothing but what they ask for. -/
theorem AsksUnder.bind {run : Run I α} {f : α → Run I β} (h : AsksUnder A P run)
    (hf : ∀ a, AsksUnder A P (f a)) : AsksUnder A P (run >>= f) := by
  induction run with
  | done a => exact hf a
  | ask r next ih => exact ⟨h.1, fun answer ha => ih answer (h.2 answer ha)⟩

/-- A run that is carried out by other runs asks for nothing but what those ask for. -/
theorem AsksUnder.within {J : Interface} {perform : (r : J.Request) → Run I (J.Answer r)}
    (h : ∀ r, AsksUnder A P (perform r)) (run : Run J α) : AsksUnder A P (run.within perform) := by
  induction run with
  | done a => trivial
  | ask r next ih => exact (h r).bind fun answer => ih answer

/-- What is left of a run after such answers asks for nothing else. -/
theorem AsksUnder.of_reaches {run left : Run I α} {es : List (Exchange I)} (h : AsksUnder A P run)
    (hr : Reaches run es left) (answers : ∀ e ∈ es, A e) : AsksUnder A P left := by
  induction hr with
  | here => exact h
  | ask _ ih =>
      have first := answers _ List.mem_cons_self
      exact ih (h.2 _ first) fun e he => answers e (List.mem_cons_of_mem _ he)

end PushDelivery.Run
