/-!
# Runs

A run is what one task of the service does, seen from outside: it asks requests of its
surroundings one after the other, and each answer decides how it goes on. A run holds no state of
its surroundings. What it does under every surrounding is therefore a statement about one tree, and
two runs interleave at their requests and nowhere else.

## Main definitions

* `Interface`: the requests that a kind of run may make, with the type of each answer.
* `Run`: the tree of requests and answers, a monad in its results.
* `Run.within`: a run whose requests are each carried out by a run of another interface.
* `Run.Exchanges`: the requests that a run makes, with the answers it gets, until it is done.
-/

namespace PushDelivery

/-- The requests that a kind of run may make, and what each of them is answered with. -/
structure Interface where
  Request : Type
  Answer : Request → Type

/-- A run: done with a result, or a request and how to go on after each of its answers. -/
inductive Run (I : Interface) (α : Type) : Type
  | done (result : α)
  | ask (request : I.Request) (next : I.Answer request → Run I α)

namespace Run

variable {I J : Interface} {α β : Type}

/-- One run after the other. -/
def bind : Run I α → (α → Run I β) → Run I β
  | .done a, f => f a
  | .ask r next, f => .ask r fun answer => bind (next answer) f

instance : Monad (Run I) where
  pure := .done
  bind := bind

@[simp] theorem pure_eq (a : α) : (pure a : Run I α) = .done a := rfl

@[simp] theorem done_bind (a : α) (f : α → Run I β) : (Run.done a >>= f) = f a := rfl

@[simp] theorem ask_bind (r : I.Request) (next : I.Answer r → Run I α) (f : α → Run I β) :
    (Run.ask r next >>= f) = .ask r fun answer => next answer >>= f := rfl

/-- A run after which nothing happens is that run. -/
theorem map_id (run : Run I α) : id <$> run = run := by
  induction run with
  | done a => rfl
  | ask r next ih => exact congrArg (Run.ask r) (funext ih)

/-- Runs in a row are one run, however they are grouped. -/
theorem bind_bind {γ : Type} (run : Run I α) (f : α → Run I β) (g : β → Run I γ) :
    run >>= f >>= g = run >>= fun a => f a >>= g := by
  induction run with
  | done a => rfl
  | ask r next ih => exact congrArg (Run.ask r) (funext ih)

instance : LawfulMonad (Run I) :=
  LawfulMonad.mk' (Run I) map_id (fun _ _ => rfl) bind_bind

/-- A single request. -/
def request (r : I.Request) : Run I (I.Answer r) :=
  .ask r .done

/-- The run whose requests are each carried out by a run of another interface. -/
def within (perform : (r : I.Request) → Run J (I.Answer r)) : Run I α → Run J α
  | .done a => .done a
  | .ask r next => perform r >>= fun answer => within perform (next answer)

/-- A request with its answer. -/
abbrev Exchange (I : Interface) := (r : I.Request) × I.Answer r

/-- The run makes exactly these exchanges and is done with this result. -/
inductive Exchanges : Run I α → List (Exchange I) → α → Prop
  | done (a : α) : Exchanges (.done a) [] a
  | ask {r : I.Request} {next : I.Answer r → Run I α} {answer : I.Answer r}
      {rest : List (Exchange I)} {a : α} (go : Exchanges (next answer) rest a) :
      Exchanges (.ask r next) (⟨r, answer⟩ :: rest) a

/-- A sequence of two runs makes the exchanges of the first, then those of the second. -/
theorem exchanges_bind_iff {run : Run I α} {f : α → Run I β} {es : List (Exchange I)} {b : β} :
    Exchanges (run >>= f) es b ↔
      ∃ a es₁ es₂, es = es₁ ++ es₂ ∧ Exchanges run es₁ a ∧ Exchanges (f a) es₂ b := by
  constructor
  · intro h
    induction run generalizing es with
    | done a => exact ⟨a, [], es, rfl, .done a, h⟩
    | ask r next ih =>
      cases h with
      | ask go =>
        obtain ⟨a, es₁, es₂, rfl, h₁, h₂⟩ := ih _ go
        exact ⟨a, _ :: es₁, es₂, rfl, .ask h₁, h₂⟩
  · rintro ⟨a, es₁, es₂, rfl, h₁, h₂⟩
    induction h₁ with
    | done a => exact h₂
    | ask _ ih => exact .ask (ih h₂)

end Run

end PushDelivery
