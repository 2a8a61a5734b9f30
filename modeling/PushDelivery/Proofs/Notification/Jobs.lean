import PushDelivery.Proofs.Json.Records
import PushDelivery.Proofs.Text.Octets
import PushDelivery.Transport.Settlement

/-!
# Jobs That Were Decoded

A message that spells a job may spell it in many ways: as an object with fields in any order and
others among them, or as an array; with strings escaped or not; with dates at any offset; with empty
maps and nulls, or without them. The job is written in one way. This module proves that nothing is
lost on the way back: what was decoded once, from whatever message, is decoded again from the text
that it is written as, unless it holds a floating-point number.

The proof goes over what is true of every job that was decoded. Dates are dates, the count of
attempts fits its 32 bits, and the free-form maps are sorted, nest no deeper than a job may have
them, and hold integers of 64 bits. A job with these properties is written as a text that is read as
its fields. Whether it is a job again depends on one thing only, on how many arrays and objects
there are around it.

## Main definitions

* `Job.Sound`: what is true of every job that was decoded.
* `Job.FitsIn`: the free-form maps do not nest too deep for the place of the job.
* `Job.Integral`: no floating-point numbers in the free-form maps.

## Main results

* `Job.ofDocument?_ofJson`: the fields of a sound job give the job, if its maps fit where it stands.
* `Job.sound_of_ofDocument?`: a job that was decoded is sound.
* `Job.decoded_again`: a job that was decoded is decoded from its text.
-/

namespace PushDelivery

open Text (Utf8.octets)

/-- The octets of a message spell what its text does. -/
theorem Body.document?_toOctets (b : Body) : (Body.octets b.toOctets).document? = b.document? := by
  cases b with
  | text s => exact congrArg Document.read? (Text.Utf8.cells_octets s)
  | octets o => rfl

/-- A message that was written spells the document of its value. -/
theorem Body.document?_ofJson {v : Json} (exact : v.Exact) :
    (Body.ofJson v).document? = some (.ofJson v) := by
  have hcells : (Body.ofJson v).cells = v.write.map some :=
    congrArg (List.map some) String.toList_ofList
  rw [document?, hcells, Document.read?_write exact]

namespace Job

/-! ### What was decoded -/

/-- What is true of every job that was decoded. -/
structure Sound (j : Job) : Prop where
  /-- The count of attempts fits its 32 bits. -/
  attempts : j.attemptCount < attemptBound
  /-- The job is scheduled for a date, if for any. -/
  scheduled : ∀ m ∈ j.scheduledAt, m.Valid
  /-- The job was created at a date. -/
  created : j.createdAt.Valid
  /-- The data were decoded. -/
  data : j.data.Decoded 1
  /-- The bindings were decoded. -/
  bindings : j.bindings.Decoded 1

/-- No floating-point numbers in the free-form maps. -/
def Integral (j : Job) : Prop :=
  ∀ x, .num (.float x) ∉ (Json.obj j.data).parts ∧ .num (.float x) ∉ (Json.obj j.bindings).parts

/-- A job that was decoded is sound. -/
theorem sound_of_ofDocument? {now : Moment} {d : Document} {j : Job} (current : now.Valid)
    (spelled : d.Spelled) (h : ofDocument? now 0 d = some j) : j.Sound := by
  rw [ofDocument?] at h
  obtain ⟨f, hf, h⟩ := Option.bind_eq_some_iff.mp h
  -- the fields from the number of the job to its link
  iterate 9 obtain ⟨_, -, h⟩ := Option.bind_eq_some_iff.mp h
  obtain ⟨data, hdata, h⟩ := Option.bind_eq_some_iff.mp h
  obtain ⟨bindings, hbindings, h⟩ := Option.bind_eq_some_iff.mp h
  iterate 2 obtain ⟨_, -, h⟩ := Option.bind_eq_some_iff.mp h
  obtain ⟨attempts, hattempts, h⟩ := Option.bind_eq_some_iff.mp h
  iterate 2 obtain ⟨_, -, h⟩ := Option.bind_eq_some_iff.mp h
  obtain ⟨scheduled, hscheduled, h⟩ := Option.bind_eq_some_iff.mp h
  obtain ⟨created, hcreated, h⟩ := Option.bind_eq_some_iff.mp h
  cases h
  have fields := spelled.of_record? hf
  exact {
    attempts := Fields.of_withDefault (P := (· < attemptBound)) (by decide)
      (fun _ _ => Document.lt_of_below?) hattempts
    scheduled := Fields.of_optional (fun _ _ => Document.valid_of_moment?) hscheduled
    created := Fields.of_withDefault current (fun _ _ => Document.valid_of_moment?) hcreated
    data := Fields.decoded_of_withDefault fields (by decide) hdata
    bindings := Fields.decoded_of_withDefault fields (by decide) hbindings }

/-! ### What was written -/

/-- A sound job without floating-point numbers is written exactly. -/
theorem Sound.exact {j : Job} (sound : j.Sound) (integral : j.Integral) : j.json.Exact := by
  have data : (Json.obj j.data).Exact := sound.data.exact fun x => (integral x).1
  have bindings : (Json.obj j.bindings).Exact := sound.bindings.exact fun x => (integral x).2
  have attempts : (Json.ofNat j.attemptCount).Exact :=
    Json.exact_ofNat (sound.attempts.trans (by decide))
  refine Json.exact_record.mpr ?_
  simp [Json.exact_arr, data, bindings, attempts, Priority.json, Moment.json]

/-- The free-form maps nest no deeper than a job may have them that has `depth` other arrays and
objects around it. -/
def FitsIn (depth : Nat) (j : Job) : Prop :=
  (Json.obj j.data).depth ≤ Document.nesting - (depth + 1) ∧
    (Json.obj j.bindings).depth ≤ Document.nesting - (depth + 1)

instance (depth : Nat) (j : Job) : Decidable (j.FitsIn depth) := by unfold FitsIn; infer_instance

/-- **A job is read from its fields.** The fields of a sound job, inside `depth` other arrays and
objects, give the job if its free-form maps fit there, and else nothing. -/
theorem ofDocument?_ofJson {j : Job} (sound : j.Sound) (now : Moment) {depth : Nat}
    (inside : depth + 1 < Document.nesting) :
    ofDocument? now depth (.ofJson j.json) = if j.FitsIn depth then some j else none := by
  obtain ⟨f, hf, -, holds⟩ := Document.exists_record? names (v := j.json) rfl
    (by simp [Json.Named, names]) (by decide)
  have tokens : Document.list? Document.text? (.ofJson (.arr (j.deviceTokens.map .str))) =
      some j.deviceTokens := Document.list?_arr fun _ _ => rfl
  have priority : Priority.ofDocument? (.ofJson j.priority.json) = some j.priority := by
    cases j.priority <;> rfl
  have scheduled : f.optional "scheduled_at" Document.moment? = some j.scheduledAt :=
    (holds 16 _ _ rfl).optional rfl fun m hm => Document.moment?_json (sound.scheduled m hm)
  rw [ofDocument?, hf, Option.bind_eq_bind, Option.bind_some]
  rw [(holds 0 _ _ rfl).required, (holds 1 _ _ rfl).required, (holds 2 _ _ rfl).required, tokens,
    (holds 3 _ _ rfl).text, (holds 4 _ _ rfl).text, (holds 5 _ _ rfl).withDefault,
    (holds 6 _ _ rfl).withDefault, (holds 7 _ _ rfl).text, (holds 8 _ _ rfl).text,
    (holds 9 _ _ rfl).map sound.data.sorted inside,
    (holds 10 _ _ rfl).map sound.bindings.sorted inside, (holds 11 _ _ rfl).text,
    (holds 12 _ _ rfl).withDefault, priority, (holds 13 _ _ rfl).withDefault,
    Document.below?_ofNat sound.attempts, (holds 14 _ _ rfl).text, (holds 15 _ _ rfl).text,
    scheduled, (holds 17 _ _ rfl).withDefault, Document.moment?_json sound.created]
  by_cases hdata : (Json.obj j.data).depth ≤ Document.nesting - (depth + 1)
  · by_cases hbindings : (Json.obj j.bindings).depth ≤ Document.nesting - (depth + 1)
    · have fits : j.FitsIn depth := ⟨hdata, hbindings⟩
      rw [if_pos hdata, if_pos hbindings, if_pos fits]
      rfl
    · have misfit : ¬j.FitsIn depth := fun fits => hbindings fits.2
      rw [if_pos hdata, if_neg hbindings, if_neg misfit]
      rfl
  · have misfit : ¬j.FitsIn depth := fun fits => hdata fits.1
    rw [if_neg hdata, if_neg misfit]
    rfl

/-! ### Messages -/

/-- A job that a message spells is sound. -/
theorem sound_of_job? {body : Body} {now : Moment} {j : Job} (current : now.Valid)
    (h : Transport.job? body now = some j) : j.Sound := by
  obtain ⟨d, hd, h⟩ := Option.bind_eq_some_iff.mp h
  exact sound_of_ofDocument? current (Document.spelled_of_read? hd) h

/-- A sound job without floating-point numbers is spelled by its own message. -/
theorem Sound.job?_ofJson {j : Job} (sound : j.Sound) (integral : j.Integral) (now : Moment) :
    Transport.job? (.ofJson j.json) now = some j := by
  rw [Transport.job?, Body.document?_ofJson (sound.exact integral), Option.bind_some,
    ofDocument?_ofJson sound now (by decide)]
  exact if_pos ⟨sound.data.fits, sound.bindings.fits⟩

/-- **A job that was decoded is decoded again.** Whatever message a job was decoded from, and at
whatever time, if there are no floating-point numbers in its free-form maps, then the message that
it is written as spells this job, at any time, as a text and in octets; and what is decoded from it
is written as the same message. -/
theorem decoded_again {body : Body} {now : Moment} {j : Job} (current : now.Valid)
    (decoded : Transport.job? body now = some j) (integral : j.Integral) (later : Moment) :
    Transport.job? (.ofJson j.json) later = some j ∧
      Transport.job? (.octets (Body.ofJson j.json).toOctets) later = some j ∧
      ∀ again, Transport.job? (.ofJson j.json) later = some again →
        Body.ofJson again.json = .ofJson j.json := by
  have written := (sound_of_job? current decoded).job?_ofJson integral later
  refine ⟨written, ?_, fun again hagain => ?_⟩
  · rw [Transport.job?, Body.document?_toOctets]
    exact written
  · rw [written] at hagain
    rw [Option.some.inj hagain]

/-- A job spelled by position, with nulls, keys out of order, and a leap second at an offset. -/
def positionalText : String :=
  "[\"n1\", \"u1\", [\"a\"], null, null, \"\", \"Body\", null, \"\", " ++
    "\x7b\"b\": 1, \"a\": \x7b\x7d\x7d, \x7b\x7d, null, \"high\", 2, null, null, null, " ++
    "\"2024-1-1 02:00:60.5 +02:00\"]"

/-- What it spells. -/
def positionalJob : Job :=
  { (default : Job) with
    id := "n1", userId := "u1", deviceTokens := ["a"], body := "Body", link := some ""
    data := [("a", .obj []), ("b", .ofInt 1)], bindings := [], priority := .high, attemptCount := 2
    createdAt := ⟨2024, 1, 1, 0, 0, 60, 500000000⟩ }

/-- A job that was given by position is decoded again from the object that it is written as. -/
theorem decoded_again_positional :
    (Moment.ofInstant (0 : Nat)).Valid ∧
      Transport.job? (.text positionalText) (.ofInstant (0 : Nat)) = some positionalJob ∧
      positionalJob.Integral ∧
      Transport.job? (.ofJson positionalJob.json) (.ofInstant (0 : Nat)) = some positionalJob := by
  have current : (Moment.ofInstant (0 : Nat)).Valid := by decide
  have decoded :
      Transport.job? (.text positionalText) (.ofInstant (0 : Nat)) = some positionalJob := by
    decide +kernel
  have integral : positionalJob.Integral := by
    simp [Integral, positionalJob, Json.ofInt, Json.parts, Json.partsOfFields]
  exact ⟨current, decoded, integral, (decoded_again current decoded integral _).1⟩

end Job

end PushDelivery
