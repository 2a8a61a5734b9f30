import PushDelivery.Broker.Queues

/-!
# Messages That Wait

A message that arrives at a queue that is declared waits at its end, behind those that were there
before. The messages of the other queues stay as they are. Nothing else adds a message, and nothing
but taking the first one removes any.

## Main definitions

* `Broker.Calls`: consumers that sleep were called, or have nothing to be called for.
* `Broker.counts`: what a broker counts about the messages that it hands out.

## Main results

* `Broker.waiting_enqueue`: the messages of a queue after one has come to its end.
* `Broker.waiting_push`, `Broker.waiting_publish`: what a message from outside or over a channel
  adds.
* `Broker.calls_push`, `Broker.calls_publish`: no message comes without a call.
* `Broker.pop?_eq_some`: what taking a message leaves.
* `Broker.waiting_connect`, `Broker.waiting_sever`: connections and their losses move no message.
-/

namespace PushDelivery.Broker

/-! ### Changes of one queue -/

/-- The messages of a queue that was changed. -/
theorem lookup_updateQueue_self {name : String} (f : List Body → List Body)
    (queues : List (String × List Body)) :
    (updateQueue name f queues).lookup name = (queues.lookup name).map f := by
  induction queues with
  | nil => rfl
  | cons entry rest ih =>
      obtain ⟨n, bodies⟩ := entry
      by_cases hn : n = name
      · subst hn
        simp [updateQueue]
      · have hne : (name == n) = false := beq_false_of_ne (Ne.symm hn)
        rw [updateQueue, if_neg hn, List.lookup_cons, List.lookup_cons, hne]
        exact ih

/-- The messages of a queue beside one that was changed. -/
theorem lookup_updateQueue_of_ne {name other : String} (h : other ≠ name)
    (f : List Body → List Body) (queues : List (String × List Body)) :
    (updateQueue name f queues).lookup other = queues.lookup other := by
  induction queues with
  | nil => rfl
  | cons entry rest ih =>
      obtain ⟨n, bodies⟩ := entry
      by_cases hn : n = name
      · subst hn
        have hne : (other == n) = false := beq_false_of_ne h
        rw [updateQueue, if_pos rfl, List.lookup_cons, List.lookup_cons, hne]
      · rw [updateQueue, if_neg hn, List.lookup_cons, List.lookup_cons, ih]

/-- A queue is declared if it has its messages, which may be none. -/
theorem isDeclared_iff {b : Broker} {queue : String} :
    b.isDeclared queue = true ↔ ∃ bodies, b.queues.lookup queue = some bodies := by
  rw [isDeclared]
  induction b.queues with
  | nil => simp
  | cons entry rest ih =>
      obtain ⟨n, bodies⟩ := entry
      by_cases hn : n = queue
      · subst hn
        simp
      · have hne : (queue == n) = false := beq_false_of_ne (Ne.symm hn)
        rw [List.any_cons, List.lookup_cons, hne, decide_eq_false hn, Bool.false_or]
        exact ih

/-! ### Arrivals -/

/-- A message that comes to the end of a queue waits behind the others. -/
theorem waiting_enqueue {b : Broker} {queue : String} (h : b.isDeclared queue = true)
    (body : Body) : (b.enqueue queue body false).waiting queue = b.waiting queue ++ [body] := by
  obtain ⟨bodies, hb⟩ := isDeclared_iff.mp h
  rw [waiting, waiting, enqueue, lookup_updateQueue_self, hb]
  rfl

/-- The other queues wait as before. -/
theorem waiting_enqueue_of_ne {b : Broker} {queue other : String} (h : other ≠ queue)
    (body : Body) (front : Bool) :
    (b.enqueue queue body front).waiting other = b.waiting other := by
  rw [waiting, waiting, enqueue, lookup_updateQueue_of_ne h]

/-- An arrival at a queue that is declared adds one message at its end. -/
theorem waiting_arrive {b : Broker} {queue : String} (declared : b.isDeclared queue = true)
    (body : Body) : (b.arrive queue body false).waiting queue = b.waiting queue ++ [body] := by
  rw [arrive, if_pos declared]
  exact waiting_enqueue declared body

/-- An arrival at a queue adds nothing to another one. -/
theorem waiting_arrive_of_ne {b : Broker} {queue other : String} (h : other ≠ queue)
    (body : Body) (front : Bool) : (b.arrive queue body front).waiting other = b.waiting other := by
  rw [arrive]
  split
  · exact waiting_enqueue_of_ne h body front
  · rfl

/-- A publication over an open channel to a queue that is declared adds one message at its end. -/
theorem waiting_publish {b : Broker} {channel : Nat} {queue : String}
    (opened : b.isOpen channel = true) (declared : b.isDeclared queue = true) (body : Body) :
    (b.publish channel queue body).2.waiting queue = b.waiting queue ++ [body] := by
  rw [publish, if_pos opened]
  exact waiting_arrive declared body

/-! ### Queues that are declared -/

/-- Changing a queue declares none and drops none. -/
theorem isDeclared_updateQueue (name other : String) (f : List Body → List Body)
    (queues : List (String × List Body)) :
    (updateQueue name f queues).any (·.1 = other) = queues.any (·.1 = other) := by
  induction queues with
  | nil => rfl
  | cons entry rest ih =>
      obtain ⟨n, bodies⟩ := entry
      rw [updateQueue]
      split
      · rfl
      · rw [List.any_cons, List.any_cons, ih]

/-- An arrival declares no queue and drops none. -/
@[simp] theorem isDeclared_arrive (b : Broker) (queue other : String) (body : Body) (front : Bool) :
    (b.arrive queue body front).isDeclared other = b.isDeclared other := by
  rw [arrive]
  split
  · exact isDeclared_updateQueue queue other _ b.queues
  · rfl

/-- A queue that was declared is declared. -/
theorem isDeclared_declare_self (b : Broker) (queue : String) :
    (b.declare queue).isDeclared queue = true := by
  rw [declare]
  split
  · assumption
  · simp [isDeclared]

/-- A queue stays declared when another one is declared. -/
theorem isDeclared_declare {b : Broker} {other : String} (h : b.isDeclared other = true)
    (queue : String) : (b.declare queue).isDeclared other = true := by
  rw [declare]
  split
  · exact h
  · rw [isDeclared, List.any_append]
    exact Bool.or_eq_true_iff.mpr (.inl h)

/-- Declaring a queue moves no message. -/
@[simp] theorem waiting_declare (b : Broker) (queue other : String) :
    (b.declare queue).waiting other = b.waiting other := by
  rw [declare]
  split
  · rfl
  · rw [waiting, waiting, List.lookup_append]
    cases h : b.queues.lookup other with
    | some bodies => rfl
    | none =>
        rw [Option.none_or, List.lookup_cons]
        cases other == queue <;> rfl

/-- A message from outside waits at the end of its queue. -/
theorem waiting_push (b : Broker) (queue : String) (body : Body) :
    (b.push queue body).waiting queue = b.waiting queue ++ [body] := by
  rw [push, waiting_arrive (b.isDeclared_declare_self queue), waiting_declare]

/-- A message from outside adds nothing to another queue. -/
theorem waiting_push_of_ne {queue other : String} (h : other ≠ queue) (b : Broker) (body : Body) :
    (b.push queue body).waiting other = b.waiting other := by
  rw [push, waiting_arrive_of_ne h, waiting_declare]

/-! ### Calls -/

/-- What happened between two brokers called the consumers that sleep, or changed nothing about the
messages of a queue. -/
def Calls (queue : String) (b b' : Broker) : Prop :=
  b.epoch < b'.epoch ∨ (b'.epoch = b.epoch ∧ b'.waiting queue = b.waiting queue)

/-- Each arrival calls. -/
theorem calls_arrive (b : Broker) (queue other : String) (body : Body) (front : Bool) :
    Calls other b (b.arrive queue body front) := by
  rw [arrive]
  split
  · exact .inl (Nat.lt_succ_self b.epoch)
  · exact .inr ⟨rfl, rfl⟩

/-- A message from outside calls. -/
theorem calls_push (b : Broker) (queue other : String) (body : Body) :
    Calls other b (b.push queue body) := by
  have epoch : (b.declare queue).epoch = b.epoch := by
    rw [declare]
    split <;> rfl
  have called := calls_arrive (b.declare queue) queue other body false
  rw [Calls, epoch, waiting_declare] at called
  exact called

/-- A publication calls. -/
theorem calls_publish (b : Broker) (channel : Nat) (queue other : String) (body : Body) :
    Calls other b (b.publish channel queue body).2 := by
  rw [publish]
  split
  · exact calls_arrive b queue other body false
  · exact .inr ⟨rfl, rfl⟩

/-! ### Messages that are taken -/

/-- Who takes no message finds none. -/
theorem pop?_eq_none {b : Broker} {queue : String} (h : b.pop? queue = none) :
    b.waiting queue = [] := by
  rw [pop?] at h
  split at h
  · assumption
  · cases h

/-- Who takes a message takes the first one, and leaves the others. -/
theorem pop?_eq_some {b rest : Broker} {queue : String} {body : Body}
    (h : b.pop? queue = some (body, rest)) :
    b.waiting queue = body :: rest.waiting queue ∧
      ∃ queues, rest = { b with queues } ∧
        ∀ other, queues.any (·.1 = other) = b.queues.any (·.1 = other) := by
  rw [pop?] at h
  split at h
  · cases h
  · rename_i first more hwaiting
    cases h
    refine ⟨?_, _, rfl, fun other => isDeclared_updateQueue _ _ _ _⟩
    rw [hwaiting, waiting, lookup_updateQueue_self]
    cases hlookup : b.queues.lookup queue with
    | none => simp [waiting, hlookup] at hwaiting
    | some bodies => rfl

/-- Taking a message from one queue leaves the others as they are. -/
theorem waiting_pop?_of_ne {b rest : Broker} {queue other : String} {body : Body}
    (h : b.pop? queue = some (body, rest)) (hne : other ≠ queue) :
    rest.waiting other = b.waiting other := by
  rw [pop?] at h
  split at h
  · cases h
  · cases h
    rw [waiting, waiting, lookup_updateQueue_of_ne hne]

/-! ### Counters -/

/-- What a broker counts about the messages that it hands out. -/
structure Counts where
  lastTag : Nat
  acked : Nat
  rejected : Nat
  requeued : Nat
  deriving DecidableEq, Repr

/-- The counters of a broker. -/
def counts (b : Broker) : Counts := ⟨b.lastTag, b.acked, b.rejected, b.requeued⟩

@[simp] theorem counts_declare (b : Broker) (queue : String) :
    (b.declare queue).counts = b.counts := by
  rw [declare]
  split <;> rfl

@[simp] theorem counts_arrive (b : Broker) (queue : String) (body : Body) (front : Bool) :
    (b.arrive queue body front).counts = b.counts := by
  rw [arrive]
  split <;> rfl

@[simp] theorem counts_push (b : Broker) (queue : String) (body : Body) :
    (b.push queue body).counts = b.counts := by
  rw [push, counts_arrive, counts_declare]

@[simp] theorem counts_publish (b : Broker) (channel : Nat) (queue : String) (body : Body) :
    (b.publish channel queue body).2.counts = b.counts := by
  rw [publish]
  split
  · exact counts_arrive b queue body false
  · rfl

/-! ### Connections -/

@[simp] theorem isOpen_declare (b : Broker) (queue : String) (channel : Nat) :
    (b.declare queue).isOpen channel = b.isOpen channel := by
  rw [declare]
  split <;> rfl

@[simp] theorem isOpen_arrive (b : Broker) (queue : String) (body : Body) (front : Bool)
    (channel : Nat) : (b.arrive queue body front).isOpen channel = b.isOpen channel := by
  rw [arrive]
  split <;> rfl

/-- A message from outside closes no channel. -/
@[simp] theorem isOpen_push (b : Broker) (queue : String) (body : Body) (channel : Nat) :
    (b.push queue body).isOpen channel = b.isOpen channel := by
  rw [push, isOpen_arrive, isOpen_declare]

/-- A publication closes no channel. -/
@[simp] theorem isOpen_publish (b : Broker) (used : Nat) (queue : String) (body : Body)
    (channel : Nat) : (b.publish used queue body).2.isOpen channel = b.isOpen channel := by
  rw [publish]
  split
  · exact isOpen_arrive b queue body false channel
  · rfl

/-- The loss of the connection moves no message. -/
@[simp] theorem waiting_sever (b : Broker) (reason queue : String) :
    (b.sever reason).waiting queue = b.waiting queue := by
  rw [sever]
  split <;> rfl

@[simp] theorem counts_sever (b : Broker) (reason : String) :
    (b.sever reason).counts = b.counts := by
  rw [sever]
  split <;> rfl

/-- The queues of a topology are declared one after the other. -/
theorem declare_all (queues : List String) (b : Broker) :
    (∀ queue, (queues.foldl declare b).waiting queue = b.waiting queue) ∧
      (queues.foldl declare b).counts = b.counts ∧
      ∀ queue, (queue ∈ queues ∨ b.isDeclared queue = true) →
        (queues.foldl declare b).isDeclared queue = true := by
  induction queues generalizing b with
  | nil => simp
  | cons first rest ih =>
      obtain ⟨hwaiting, hcounts, hdeclared⟩ := ih (b.declare first)
      refine ⟨fun queue => ?_, ?_, fun queue hqueue => hdeclared queue ?_⟩
      · rw [List.foldl_cons, hwaiting, waiting_declare]
      · rw [List.foldl_cons, hcounts, counts_declare]
      · rcases hqueue with hmem | hold
        · rcases List.mem_cons.mp hmem with rfl | hmem
          · exact .inr (b.isDeclared_declare_self _)
          · exact .inl hmem
        · exact .inr (isDeclared_declare hold first)

/-- A connection moves no message, whether it succeeds or not. -/
@[simp] theorem waiting_connect (b : Broker) (t : Topology) (queue : String) :
    (b.connect t).2.waiting queue = b.waiting queue := by
  rw [connect]
  split
  · rfl
  · have hwaiting := (declare_all t.queues b).1 queue
    cases b.current with
    | none => exact hwaiting
    | some previous => exact hwaiting

@[simp] theorem counts_connect (b : Broker) (t : Topology) :
    (b.connect t).2.counts = b.counts := by
  rw [connect]
  split
  · rfl
  · have hcounts := (declare_all t.queues b).2.1
    cases b.current with
    | none => exact hcounts
    | some previous => exact hcounts

/-- A first connection that is not refused opens a channel and declares the queues. -/
theorem connect_of_none {b : Broker} (first : b.current = none) (willing : b.connectFailures = 0)
    (t : Topology) : ∃ channel, (b.connect t).1 = .ok channel ∧
      (b.connect t).2.isOpen channel = true ∧
      ∀ queue ∈ t.queues, (b.connect t).2.isDeclared queue = true := by
  have hdeclared := (declare_all t.queues b).2.2
  rw [connect, if_neg (by omega), first]
  refine ⟨_, rfl, ?_, fun queue hqueue => hdeclared queue (.inl hqueue)⟩
  simp [isOpen]

end PushDelivery.Broker
