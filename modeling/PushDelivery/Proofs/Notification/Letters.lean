import PushDelivery.Proofs.Notification.Jobs
import PushDelivery.Proofs.Transport.DeadLetters

/-!
# Dead Letters That Can Be Read

A dead letter carries the job that could not be completed, for whoever looks into it later or sends
it again. The job stands inside the letter, so its free-form maps have one more object around them
than they had in the message of the job. A job whose maps nest as deep as a message may have them is
delivered like any other, but its dead letter nests too deep to be decoded. This module says for
every job exactly whether its dead letter can be read.

## Main definitions

* `DeadLetter.ofBody?`: the dead letter that a message spells.

## Main results

* `DeadLetter.read_iff_fitsIn`: a dead letter that was published is read, with its job, exactly
  if the job fits.
* `DeadLetter.nestedLetter_unread`: a job that was decoded, and whose dead letter is not.
-/

namespace PushDelivery

open Run (Exchange Exchanges)
open Transport (interface publishDeadLetter letterBody deadLetter)

namespace DeadLetter

/-- The dead letter that a message spells. -/
def ofBody? (body : Body) (now : Moment) : Option DeadLetter :=
  body.document?.bind (ofDocument? now)

/-- A dead letter is written exactly if its job is. -/
theorem exact_json {l : DeadLetter} (job : l.originalMessage.json.Exact)
    (attempts : l.attemptCount < attemptBound) : l.json.Exact := by
  have count : (Json.ofNat l.attemptCount).Exact := Json.exact_ofNat (attempts.trans (by decide))
  refine Json.exact_record.mpr ?_
  simp [job, count, Moment.json]

/-- The fields of a dead letter of a sound job give the dead letter if the job fits, and else
nothing. -/
theorem ofDocument?_ofJson {l : DeadLetter} (sound : l.originalMessage.Sound)
    (attempts : l.attemptCount < attemptBound) (dated : l.failedAt.Valid) (now : Moment) :
    ofDocument? now (.ofJson l.json) = if l.originalMessage.FitsIn 1 then some l else none := by
  obtain ⟨f, hf, -, holds⟩ := Document.exists_record? names (v := l.json) rfl
    (by simp [Json.Named, names]) (by decide)
  have job : Job.ofDocument? now 1 (.ofJson l.originalMessage.json) = _ :=
    Job.ofDocument?_ofJson sound now (by decide)
  rw [ofDocument?, hf]
  simp only [Option.bind_eq_bind, Option.bind_some, Document.text?_str,
    (holds 0 _ _ rfl).required, job, (holds 1 _ _ rfl).required, (holds 2 _ _ rfl).required,
    Document.below?_ofNat attempts, (holds 3 _ _ rfl).required, Document.moment?_json dated,
    (holds 4 _ _ rfl).required]
  by_cases fits : l.originalMessage.FitsIn 1
  · rw [if_pos fits, if_pos fits]
    rfl
  · rw [if_neg fits, if_neg fits]
    rfl

/-! ### What is published -/

variable {t : Topology} {error : DeliveryError} {es : List (Exchange interface)}
  {result answer : Except BrokerError Unit} {channel : Nat} {queue : String} {written : Body}

/-- A publication writes its own message, to its own queue. -/
theorem eq_of_mem_publish {body : Body} {other : String}
    (published : Exchanges (Transport.publish other body) es result)
    (writes : (⟨.publishOver channel queue written, answer⟩ : Exchange interface) ∈ es) :
    queue = other ∧ written = body := by
  rcases Transport.exchanges_publish_iff.mp published with
    ⟨rfl, -⟩ | ⟨used, rfl, -⟩ | ⟨used, e, rfl, -⟩
  · simp at writes
  · simp only [List.mem_cons, List.not_mem_nil, or_false] at writes
    obtain ⟨⟨⟩⟩ | ⟨⟨⟩⟩ | ⟨⟨⟩⟩ := writes
    exact ⟨rfl, rfl⟩
  · simp only [List.mem_cons, List.not_mem_nil, or_false] at writes
    obtain ⟨⟨⟩⟩ | ⟨⟨⟩⟩ | ⟨⟨⟩⟩ := writes
    exact ⟨rfl, rfl⟩

/-- What is written for a dead letter is the dead letter, dated by the clock. -/
theorem exists_of_mem_publication {job : Job}
    (published : Exchanges (publishDeadLetter t job error) es result)
    (writes : (⟨.publishOver channel queue written, answer⟩ : Exchange interface) ∈ es) :
    queue = t.failedQueue ∧ ∃ time : Instant,
      (⟨.delivery .now, time⟩ : Exchange interface) ∈ es ∧ written = letterBody job error time := by
  obtain ⟨time, publication, hp, rfl⟩ := Transport.exchanges_publishDeadLetter_iff.mp published
  have hmem :
      (⟨.publishOver channel queue written, answer⟩ : Exchange interface) ∈ publication := by
    rcases List.mem_append.mp (List.mem_of_ne_of_mem (by simp) writes) with hmem | hnote
    · exact hmem
    · cases result <;> simp [Transport.letterNote] at hnote
  obtain ⟨hqueue, hbody⟩ := eq_of_mem_publish hp hmem
  exact ⟨hqueue, time, List.mem_cons_self, hbody⟩

/-- The dead letter of a sound job without floating-point numbers is read if the job fits, and else
nothing is. -/
theorem ofBody?_letterBody {job : Job} (sound : job.Sound) (integral : job.Integral)
    {time : Instant} (dated : (Moment.ofInstant time).Valid) (now : Moment) :
    ofBody? (letterBody job error time) now =
      if job.FitsIn 1 then some (deadLetter job error (.ofInstant time)) else none := by
  have exact : (deadLetter job error (.ofInstant time)).json.Exact :=
    exact_json (sound.exact integral) sound.attempts
  rw [ofBody?, letterBody, Body.document?_ofJson exact, Option.bind_some,
    ofDocument?_ofJson sound sound.attempts dated now]
  rfl

/-- **A dead letter is read if its job fits.** Take a job that was decoded from any message and has
no floating-point numbers in its free-form maps, with any count of attempts that it may have
reached, and any failure of it. What the publication of its dead letter writes goes to the failed
queue, and spells a dead letter with this job exactly if the free-form maps nest at most 125 deep.
If they nest deeper, which a message allows up to 126, it spells no dead letter at all. -/
theorem read_iff_fitsIn {body : Body} {received : Moment} (current : received.Valid) {j : Job}
    (decoded : Transport.job? body received = some j) (integral : j.Integral) {attempts : Nat}
    (reached : attempts < attemptBound)
    (published :
      Exchanges (publishDeadLetter t { j with attemptCount := attempts } error) es result)
    (dated : ∀ time : Instant, (⟨.delivery .now, time⟩ : Exchange interface) ∈ es →
      (Moment.ofInstant time).Valid)
    (writes : (⟨.publishOver channel queue written, answer⟩ : Exchange interface) ∈ es)
    (now : Moment) :
    queue = t.failedQueue ∧
      ((∃ l, ofBody? written now = some l ∧
          l.originalMessage = { j with attemptCount := attempts }) ↔ j.FitsIn 1) ∧
      (¬j.FitsIn 1 → ofBody? written now = none) := by
  obtain ⟨hqueue, time, htime, rfl⟩ := exists_of_mem_publication published writes
  have sound : Job.Sound { j with attemptCount := attempts } :=
    { Job.sound_of_job? current decoded with attempts := reached }
  have hread := @ofBody?_letterBody error _ sound integral _ (dated time htime) now
  by_cases fits : j.FitsIn 1
  · rw [if_pos (show Job.FitsIn 1 { j with attemptCount := attempts } from fits)] at hread
    exact ⟨hqueue, iff_of_true ⟨_, hread, rfl⟩ fits, fun deep => absurd fits deep⟩
  · rw [if_neg (show ¬Job.FitsIn 1 { j with attemptCount := attempts } from fits)] at hread
    refine ⟨hqueue, iff_of_false ?_ fits, fun _ => hread⟩
    rintro ⟨l, hl, -⟩
    rw [hread] at hl
    cases hl

/-! ### A job whose dead letter cannot be read -/

/-- Arrays inside one another. -/
def nestedArrays : Nat → Json
  | 0 => .arr []
  | n + 1 => .arr [nestedArrays n]

/-- They nest one deeper than there are arrays around the innermost. -/
theorem depth_nestedArrays (n : Nat) : (nestedArrays n).depth = n + 1 := by
  induction n with
  | zero => rfl
  | succ n ih => simp [nestedArrays, Json.depth, Json.depthOfItems, ih]

/-- They hold neither objects nor numbers. -/
theorem exists_arr_of_mem_nestedArrays {n : Nat} {v : Json} (h : v ∈ (nestedArrays n).parts) :
    ∃ items, v = .arr items := by
  induction n with
  | zero => exact ⟨[], by simpa [nestedArrays] using h⟩
  | succ n ih =>
      rcases (by simpa [nestedArrays] using h : v = _ ∨ v ∈ (nestedArrays n).parts) with rfl | h
      · exact ⟨_, rfl⟩
      · exact ih h

/-- Nested arrays as the only value of an object. -/
def nestedData (arrays : Nat) : DataMap := [("a", nestedArrays arrays)]

/-- They can be decoded, and hold no numbers. -/
theorem decoded_nestedData {arrays : Nat} (h : arrays ≤ 124) : (nestedData arrays).Decoded 1 where
  sorted := Json.sorted_obj.mpr ⟨by simp [nestedData, DataMap.Sorted], fun f hf fields hfields => by
    obtain rfl : f = ("a", nestedArrays arrays) := by simpa [nestedData] using hf
    obtain ⟨items, hitems⟩ := exists_arr_of_mem_nestedArrays hfields
    cases hitems⟩
  fits := by
    have hnesting : Document.nesting = 127 := rfl
    simp only [nestedData, Json.depth, Json.depthOfFields, depth_nestedArrays]
    omega
  exact _ := Json.exact_obj.mpr fun f hf number hnumber => by
    obtain rfl : f = ("a", nestedArrays arrays) := by simpa [nestedData] using hf
    obtain ⟨items, hitems⟩ := exists_arr_of_mem_nestedArrays hnumber
    cases hitems

/-- A job with nested data. -/
def nestedJob (arrays : Nat) : Job :=
  { (default : Job) with
    id := "n1", userId := "u1", deviceTokens := ["a"], title := "Title", attemptCount := 0
    data := nestedData arrays, bindings := [], scheduledAt := none
    createdAt := .ofInstant (0 : Nat) }

/-- The job holds no floating-point numbers. -/
theorem nestedJob_integral (arrays : Nat) : (nestedJob arrays).Integral := by
  refine fun x => ⟨fun hx => ?_, by simp [nestedJob]⟩
  have hmem : Json.num (.float x) ∈ (nestedArrays arrays).parts := by
    simpa [nestedJob, nestedData] using hx
  obtain ⟨items, hitems⟩ := exists_arr_of_mem_nestedArrays hmem
  cases hitems

/-- It could have been decoded. -/
theorem nestedJob_sound {arrays : Nat} (h : arrays ≤ 124) : (nestedJob arrays).Sound where
  attempts := by decide +revert
  scheduled := nofun
  created := (by decide : (Moment.ofInstant (0 : Nat)).Valid)
  data := decoded_nestedData h
  bindings := .empty (by decide)

/-- A message may nest 127 deep: the job, its data, and 125 arrays. -/
theorem nestedJob_decoded {arrays : Nat} (h : arrays ≤ 124) (now : Moment) :
    Transport.job? (.ofJson (nestedJob arrays).json) now = some (nestedJob arrays) :=
  (nestedJob_sound h).job?_ofJson (nestedJob_integral arrays) now

/-- A dead letter may nest as deep, and has one object more. -/
theorem fitsIn_nestedJob {arrays : Nat} : (nestedJob arrays).FitsIn 1 ↔ arrays ≤ 123 := by
  have hnesting : Document.nesting = 127 := rfl
  simp only [Job.FitsIn, nestedJob, nestedData, Json.depth, Json.depthOfFields, depth_nestedArrays]
  omega

/-- The exchanges of the dead letter of such a job, which the broker takes. -/
def nestedLetter (arrays : Nat) : List (Exchange interface) :=
  [⟨.delivery .now, (0 : Nat)⟩, ⟨.channel, some (0 : Nat)⟩,
    ⟨.publishOver 0 "failed.queue" (letterBody (nestedJob arrays) .cancelled (0 : Nat)), .ok ()⟩,
    ⟨.note (.published "failed.queue"), ()⟩, ⟨.note (.deadLettered "cancelled"), ()⟩]

/-- They are the publication of the dead letter. -/
theorem nestedLetter_published (arrays : Nat) :
    Exchanges (publishDeadLetter {} (nestedJob arrays) .cancelled) (nestedLetter arrays) (.ok ()) :=
  Transport.exchanges_publishDeadLetter_iff.mpr
    ⟨(0 : Nat), _, Transport.exchanges_publish_iff.mpr (.inr (.inl ⟨0, rfl, rfl⟩)), rfl⟩

/-- A publication writes the dead letter. -/
theorem nestedLetter_written (arrays : Nat) :
    (⟨.publishOver 0 "failed.queue" (letterBody (nestedJob arrays) .cancelled (0 : Nat)), .ok ()⟩ :
      Exchange interface) ∈ nestedLetter arrays := by
  simp [nestedLetter]

/-- The dead letter of the deepest job that fits is read. -/
theorem read_iff_fitsIn_nested :
    (Moment.ofInstant (0 : Nat)).Valid ∧
      Transport.job? (.ofJson (nestedJob 123).json) (.ofInstant (0 : Nat)) = some (nestedJob 123) ∧
      (nestedJob 123).Integral ∧ 0 < attemptBound ∧
      ∃ l, ofBody? (letterBody (nestedJob 123) .cancelled (0 : Nat)) (.ofInstant (0 : Nat)) =
        some l ∧ l.originalMessage = nestedJob 123 := by
  have current : (Moment.ofInstant (0 : Nat)).Valid := by decide
  have reached : 0 < attemptBound := by decide
  have decoded := nestedJob_decoded (show 123 ≤ 124 by decide) (.ofInstant (0 : Nat))
  have read := read_iff_fitsIn current decoded (nestedJob_integral 123) reached
    (nestedLetter_published 123) (by simp [nestedLetter, current]) (nestedLetter_written 123)
    (.ofInstant (0 : Nat))
  exact ⟨current, decoded, nestedJob_integral 123, reached,
    read.2.1.mpr (fitsIn_nestedJob.mpr (by decide))⟩

/-- **A dead letter that cannot be read.** A message whose data nest 126 deep spells a job. The dead
letter of the job is published, and spells nothing. -/
theorem nestedLetter_unread :
    Transport.job? (.ofJson (nestedJob 124).json) (.ofInstant (0 : Nat)) = some (nestedJob 124) ∧
      (nestedJob 124).Integral ∧
      Exchanges (publishDeadLetter {} (nestedJob 124) .cancelled) (nestedLetter 124) (.ok ()) ∧
      ∃ written, (⟨.publishOver 0 "failed.queue" written, .ok ()⟩ : Exchange interface) ∈
          nestedLetter 124 ∧
        ofBody? written (.ofInstant (0 : Nat)) = none := by
  refine ⟨nestedJob_decoded (by decide) _, nestedJob_integral 124, nestedLetter_published 124, _,
    nestedLetter_written 124, ?_⟩
  have current : (Moment.ofInstant (0 : Nat)).Valid := by decide
  rw [ofBody?_letterBody (nestedJob_sound (by decide)) (nestedJob_integral 124) current]
  exact if_neg (mt fitsIn_nestedJob.mp (by decide))

end DeadLetter

end PushDelivery
