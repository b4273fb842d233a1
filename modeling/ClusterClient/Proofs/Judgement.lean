/-
  ClusterClient.Proofs.Judgement — what a reply is taken for.

  A reply may report failures in three places: the command failed, documents were not written, the
  write was not acknowledged as asked.  Fields may be missing, null or in another order, and labels
  stand in up to two places.  `Judged` says of a reply as it came what is made of it: a success only
  if nothing in it reports a failure, otherwise the failure that comes first, with all of its
  labels; and what cannot be read is an error too.  What a failure says, and whether it can be read,
  is a matter of the fields of the reply alone.

  Main statement: `Run.Replies.judged`, for every reply and every operation that writes.
-/
import ClusterClient.Proofs.Classification
import ClusterClient.Proofs.Ending
import ClusterClient.Proofs.Refusal
import ClusterClient.Proofs.ReplyFields

namespace ClusterClient

open Run

variable {α β : Type}

/-! ## §1. Labels. -/

namespace Error

theorem hasLabel_iff (e : Error) (label : String) :
    e.hasLabel label = true ↔ label ∈ e.labels :=
  List.contains_iff_mem

theorem hasLabel_addLabel (e : Error) (label other : String) :
    (e.addLabel label).hasLabel other = true ↔ e.hasLabel other = true ∨ other = label := by
  unfold addLabel
  split
  case isTrue h =>
    refine ⟨.inl, fun hother => hother.elim id ?_⟩
    rintro rfl
    exact h
  case isFalse h =>
    rw [hasLabel_iff, hasLabel_iff, List.mem_append, List.mem_singleton]

theorem hasLabel_addLabels (e : Error) (labels : List String) (label : String) :
    (e.addLabels labels).hasLabel label = true ↔ e.hasLabel label = true ∨ label ∈ labels := by
  induction labels generalizing e with
  | nil => simp [addLabels]
  | cons first rest ih =>
    have hstep : e.addLabels (first :: rest) = (e.addLabel first).addLabels rest := rfl
    rw [hstep, ih, hasLabel_addLabel, List.mem_cons, or_assoc]

/-- The labels are those of the reply, and those of a write concern failure itself. -/
theorem hasLabel_labelled (cause : Cause) (labels : List String) (label : String) :
    (labelled cause labels).hasLabel label = true ↔
      label ∈ labels ∨ ∃ failure, cause = .writeConcern failure ∧ label ∈ failure.labels := by
  have hreply : (addLabels ⟨cause, []⟩ labels).hasLabel label = true ↔ label ∈ labels := by
    rw [hasLabel_addLabels, hasLabel_iff]
    simp
  unfold labelled
  cases cause with
  | writeConcern failure =>
    dsimp only
    rw [hasLabel_addLabels, hreply]
    simp
  | _ => simpa using hreply

end Error

/-! ## §2. Fields. -/

/-- The reply has no such field, or it is null. -/
def Document.Lacks (d : Document) (key : String) : Prop := ∀ v, (key, v) ∈ d → v = .null

/-- The reply has no such field, or it is null or empty. -/
def Document.Unlisted (d : Document) (key : String) : Prop :=
  ∀ v, (key, v) ∈ d → v = .null ∨ v = .array []

/-- The label is listed in the document. -/
def Document.Tells (d : Document) (label : String) : Prop :=
  ∃ items, ("errorLabels", Value.array items) ∈ d ∧ ∃ v ∈ items, v.Spells label

/-- The label is listed in the failure, be it a document or an array of its fields. -/
def Value.Tells (v : Value) (label : String) : Prop :=
  match v with
  | .document d => Document.Tells d label
  | .array items => ∃ own, items[4]? = some (.array own) ∧ ∃ w ∈ own, w.Spells label
  | _ => False

theorem Value.Spells.unique {v : Value} {s s' : String} (h : v.Spells s) (h' : v.Spells s') :
    s = s' :=
  Option.some.inj ((text?_eq_some_iff.mpr h).symm.trans (text?_eq_some_iff.mpr h'))

/-- The texts of an array are those that its items spell. -/
theorem Value.Lists.mem_iff {v : Value} {labels : List String} (h : v.Lists Spells labels) :
    ∃ items, v = .array items ∧ ∀ label, label ∈ labels ↔ ∃ w ∈ items, w.Spells label := by
  obtain ⟨items, rfl, hitems⟩ := h
  refine ⟨items, rfl, fun label => ?_⟩
  induction hitems with
  | nil => simp
  | @cons w first _ _ hfirst _ ih =>
    have hw : label = first ↔ w.Spells label := ⟨fun h => h ▸ hfirst, fun h => h.unique hfirst⟩
    rw [List.mem_cons, ih, hw]
    simp

namespace Fields

variable {d : Document} {key : String} {position : Nat} {item : Value → α → Prop}

/-- What stands in a field is the only value under its name. -/
theorem Holds.mem_iff {o : Option Value} (h : (Fields.named d).Holds position [key] o)
    (w : Value) : (key, w) ∈ d ↔ o = some w := by
  cases h with
  | absent h => exact iff_of_false (fun hw => h _ hw (List.mem_singleton_self _)) nofun
  | @named before after _ _ name v hname hbefore hafter =>
    obtain rfl := List.mem_singleton.mp hname
    have hother : ∀ l : Document, (∀ f ∈ l, f.1 ∉ [name]) → (name, w) ∉ l :=
      fun l hl hw => hl _ hw (List.mem_singleton_self _)
    rw [List.mem_append, List.mem_cons, or_iff_right (hother _ hbefore),
      or_iff_left (hother _ hafter), Option.some.injEq, Prod.mk.injEq, eq_comm (a := w)]
    exact and_iff_right rfl

/-- In a field that is there at most once stands what has its name. -/
theorem Holds.some_iff_mem {o : Option Value} (h : (Fields.named d).Holds position [key] o)
    (w : Value) : (Fields.named d).Holds position [key] (some w) ↔ (key, w) ∈ d :=
  ⟨fun hw => (hw.mem_iff w).mpr rfl, fun hw => (h.mem_iff w).mp hw ▸ h⟩

theorem holds_positional_iff {items : List Value} {names : List String} {o : Option Value} :
    (Fields.positional items).Holds position names o ↔ items[position]? = o := by
  rw [← find_eq_some_iff]
  exact Option.some_inj

theorem Defaulted.exists_holds {fs : Fields} {names : List String} {fallback a : α}
    (h : fs.Defaulted position names fallback item a) : ∃ o, fs.Holds position names o := by
  cases h with
  | missing h | present h => exact ⟨_, h⟩

/-- The texts of a field are those that its items spell; there are none if it is missing. -/
theorem Defaulted.mem_iff {fs : Fields} {names labels : List String}
    (h : fs.Defaulted position names [] (Value.Lists Value.Spells) labels) (label : String) :
    label ∈ labels ↔ ∃ items, fs.Holds position names (some (.array items)) ∧
      ∃ w ∈ items, w.Spells label := by
  cases h with
  | missing hnone =>
    refine iff_of_false List.not_mem_nil ?_
    rintro ⟨items, hitems, -⟩
    cases hnone.unique hitems
  | present hown hv =>
    obtain ⟨items, rfl, hmem⟩ := hv.mem_iff
    rw [hmem]
    refine ⟨fun hw => ⟨items, hown, hw⟩, ?_⟩
    rintro ⟨items', hitems', hw⟩
    cases hown.unique hitems'
    exact hw

theorem Optional.lacks (h : (Fields.named d).Optional position [key] item none) :
    d.Lacks key := by
  intro v hv
  cases h with
  | missing h =>
    rw [h.mem_iff] at hv
    cases hv
  | null h =>
    rw [h.mem_iff] at hv
    cases hv
    rfl

/-- A field in which something stands is not null, and there is no other of its name. -/
theorem Optional.exists_of_some {a : α}
    (h : (Fields.named d).Optional position [key] item (some a)) :
    ∃ v, v ≠ .null ∧ item v a ∧ ∀ w, (key, w) ∈ d ↔ w = v := by
  cases h with
  | @present v _ h hnull hv =>
    refine ⟨v, hnull, hv, fun w => ?_⟩
    rw [h.mem_iff, Option.some.injEq]
    exact eq_comm

end Fields

/-- The labels of a reply are those that it lists. -/
theorem Document.Labels.mem_iff {reply : Document} {labels : List String}
    (h : reply.Labels labels) (label : String) : label ∈ labels ↔ reply.Tells label := by
  obtain ⟨listed, hlisted, rfl⟩ := h
  cases listed with
  | none =>
    refine iff_of_false List.not_mem_nil ?_
    rintro ⟨items, hitems, -⟩
    cases hlisted.lacks _ hitems
  | some own =>
    obtain ⟨v, -, hv, honly⟩ := hlisted.exists_of_some
    obtain ⟨items, rfl, hmem⟩ := hv.mem_iff
    rw [Option.getD_some, hmem]
    refine ⟨fun hw => ⟨items, (honly _).mpr rfl, hw⟩, ?_⟩
    rintro ⟨items', hitems', hw⟩
    cases (honly _).mp hitems'
    exact hw

/-- The labels of a write concern failure are those that it lists. -/
theorem Value.ReportsConcern.mem_labels {v : Value} {failure : WriteConcernFailure}
    (h : v.ReportsConcern failure) (label : String) :
    label ∈ failure.labels ↔ v.Tells label := by
  obtain ⟨fs, hfs, hreported⟩ := h
  rw [hreported.labels.mem_iff]
  -- A document has the labels under their name, an array at their position.
  cases hfs with
  | document d =>
    obtain ⟨o, ho⟩ := hreported.labels.exists_holds
    simp only [ho.some_iff_mem]
    rfl
  | array items =>
    simp only [Fields.holds_positional_iff]
    rfl

/-! ## §3. Judgement. -/

/-- The reply reports a failed command and its labels. -/
structure Document.ReportsCommand (reply : Document) (failure : CommandFailure)
    (labels : List String) : Prop where
  failure : failure.ReportedIn (.named reply)
  labels : reply.Labels labels

/-- The error is the cause with just these labels. -/
structure Error.Is (e : Error) (cause : Cause) (labels : String → Prop) : Prop where
  cause : e.cause = cause
  labels : ∀ label, label ∈ e.labels ↔ labels label

theorem Error.Is.congr {e : Error} {cause : Cause} {labels labels' : String → Prop}
    (h : e.Is cause labels) (hlabels : ∀ label, labels label ↔ labels' label) :
    e.Is cause labels' :=
  ⟨h.cause, fun label => (h.labels label).trans (hlabels label)⟩

/-- What comes of a reply; `writes` says whether single documents may not have been written, and
    `reads` what is read from a reply in which no failure is reported. -/
structure Judged (writes : Bool) (reads : α → Prop) (reply : Document)
    (result : Except Error α) : Prop where
  /-- No failure that is reported is taken for a success. -/
  succeeds : ∀ a, result = .ok a ↔ reply.Succeeds ∧ reads a ∧
    (writes = true → reply.Unlisted "writeErrors") ∧ reply.Lacks "writeConcernError"
  /-- A failed command comes before all else. -/
  command : ¬ reply.Succeeds → ∀ failure labels, reply.ReportsCommand failure labels →
    ∃ e, result = .error e ∧ e.Is (.command failure) reply.Tells
  garbled : ¬ reply.Succeeds → (¬ ∃ failure labels, reply.ReportsCommand failure labels) →
    result = .error ⟨.invalidReply, []⟩
  /-- Then the first document that was not written. -/
  write : reply.Succeeds → (∃ a, reads a) → writes = true →
    ∀ v others, ("writeErrors", Value.array (v :: others)) ∈ reply →
      ∃ failure e, v.ReportsWrite failure ∧ result = .error e ∧
        e.Is (.write failure) reply.Tells
  /-- Then the write concern, which brings its own labels. -/
  writeConcern : reply.Succeeds → (∃ a, reads a) →
    (writes = true → reply.Unlisted "writeErrors") →
    ∀ v, ("writeConcernError", v) ∈ reply → v ≠ .null →
      ∃ failure e, v.ReportsConcern failure ∧ result = .error e ∧
        e.Is (.writeConcern failure) fun label => reply.Tells label ∨ v.Tells label
  unread : reply.Succeeds → (¬ ∃ a, reads a) → result = .error ⟨.undecodable, []⟩
  /-- What could not be read is not sent again. -/
  final : ∀ e, result = .error e → e.cause = .invalidReply ∨ e.cause = .undecodable →
    e.isRetryable = false

theorem Error.isRetryable_of_unread {e : Error}
    (h : e.cause = .invalidReply ∨ e.cause = .undecodable) : e.isRetryable = false := by
  unfold isRetryable
  rcases h with h | h <;> rw [h]

/-- The labels of an error that is no write concern failure are those of the reply. -/
theorem Error.is_labelled {cause : Cause} {reply : Document} {labels : List String}
    (hl : reply.Labels labels) (hc : ∀ failure, cause ≠ .writeConcern failure) :
    (labelled cause labels).Is cause reply.Tells where
  cause := cause_labelled _ _
  labels label := by
    rw [← hasLabel_iff, hasLabel_labelled, hl.mem_iff]
    exact or_iff_left fun ⟨failure, hcause, _⟩ => hc failure hcause

/-- The labels of a write concern failure are those of the reply and its own. -/
theorem Error.is_labelled_writeConcern {failure : WriteConcernFailure} {v : Value}
    {reply : Document} {labels : List String} (hl : reply.Labels labels)
    (hv : v.ReportsConcern failure) :
    (labelled (.writeConcern failure) labels).Is (.writeConcern failure)
      fun label => reply.Tells label ∨ v.Tells label where
  cause := cause_labelled _ _
  labels label := by
    rw [← hasLabel_iff, hasLabel_labelled, hl.mem_iff, ← hv.mem_labels]
    refine or_congr_right ⟨?_, fun h => ⟨failure, rfl, h⟩⟩
    rintro ⟨_, heq, h⟩
    cases heq
    exact h

theorem Document.validate_of_failed {reply : Document} (h : ¬ reply.Succeeds)
    {failure : CommandFailure} {labels : List String} (hr : reply.ReportsCommand failure labels) :
    reply.validate = .error (.labelled (.command failure) labels) := by
  unfold validate
  rw [if_neg (mt isOk_iff.mp h), errorLabels?_eq_some_iff.mpr hr.labels,
    CommandFailure.read?_eq_some_iff.mpr hr.failure]

theorem Document.validate_of_garbled {reply : Document} (h : ¬ reply.Succeeds)
    (hg : ¬ ∃ failure labels, reply.ReportsCommand failure labels) :
    reply.validate = .error ⟨.invalidReply, []⟩ := by
  unfold validate
  rw [if_neg (mt isOk_iff.mp h)]
  split
  case h_1 labels failure hlabels hfailure =>
    exact absurd ⟨failure, labels, CommandFailure.read?_eq_some_iff.mp hfailure,
      errorLabels?_eq_some_iff.mp hlabels⟩ hg
  case h_2 => rfl

/-- For a reply that does not report success, only what it says of the command counts. -/
theorem judged_error {writes : Bool} {reads : α → Prop} {reply : Document} {e : Error}
    (h : ¬ reply.Succeeds)
    (command : ∀ failure labels, reply.ReportsCommand failure labels →
      e.Is (.command failure) reply.Tells)
    (garbled : (¬ ∃ failure labels, reply.ReportsCommand failure labels) →
      e = ⟨.invalidReply, []⟩) : Judged writes reads reply (.error e) where
  succeeds _ := iff_of_false nofun fun hok => h hok.1
  command _ failure labels hr := ⟨e, rfl, command failure labels hr⟩
  garbled _ hno := congrArg Except.error (garbled hno)
  write hok := absurd hok h
  writeConcern hok := absurd hok h
  unread hok := absurd hok h
  final _ _ := Error.isRetryable_of_unread

/-- A reply that does not report success is judged without being looked into further. -/
theorem judged_failed {writes : Bool} {reads : β → Prop} {reply : Document}
    (h : ¬ reply.Succeeds) (interpret : Document → Except Error β) :
    Judged writes reads reply (reply.validate >>= interpret) := by
  by_cases hg : ∃ failure labels, reply.ReportsCommand failure labels
  · obtain ⟨failure, labels, hr⟩ := hg
    rw [reply.validate_of_failed h hr]
    refine judged_error h (fun failure' labels' hr' => ?_) fun hno => ?_
    · rw [hr'.failure.unique hr.failure]
      exact Error.is_labelled hr.labels nofun
    · exact absurd ⟨failure, labels, hr⟩ hno
  · rw [reply.validate_of_garbled h hg]
    exact judged_error h (fun failure labels hr => absurd ⟨failure, labels, hr⟩ hg) fun _ => rfl

section Successful

variable {writes : Bool} {reads : α → Prop} {reply : Document} {labels : List String}

/-- A reply that reports success, of which the rest cannot be read. -/
theorem judged_unread (h : reply.Succeeds) (hbad : ¬ ∃ a, reads a) :
    Judged writes reads reply (.error (Error.of .undecodable)) where
  succeeds a := iff_of_false nofun fun hok => hbad ⟨a, hok.2.1⟩
  command hno := absurd h hno
  garbled hno := absurd h hno
  write _ hread := absurd hread hbad
  writeConcern _ hread := absurd hread hbad
  unread _ _ := rfl
  final _ _ := Error.isRetryable_of_unread

/-- A reply in which no failure is reported. -/
theorem judged_succeeded (h : reply.Succeeds) {a : α} (hreads : ∀ b, reads b ↔ b = a)
    (hunlisted : writes = true → reply.Unlisted "writeErrors")
    (hlacks : reply.Lacks "writeConcernError") : Judged writes reads reply (.ok a) where
  succeeds b := by
    rw [hreads, Except.ok.injEq, eq_comm]
    exact ⟨fun heq => ⟨h, heq, hunlisted, hlacks⟩, fun hok => hok.2.1⟩
  command hno := absurd h hno
  garbled hno := absurd h hno
  write _ _ hwrites v others hv := by obtain heq | heq := hunlisted hwrites _ hv <;> cases heq
  writeConcern _ _ _ v hv hnull := absurd (hlacks v hv) hnull
  unread _ hbad := absurd ⟨a, (hreads a).mpr rfl⟩ hbad
  final := nofun

/-- A reply in which no failure is reported but that of the write concern. -/
theorem judged_unacknowledged {v : Value} {failure : WriteConcernFailure} (h : reply.Succeeds)
    (hread : ∃ a, reads a) (hunlisted : writes = true → reply.Unlisted "writeErrors")
    (hlabels : reply.Labels labels) (hnull : v ≠ .null) (hv : v.ReportsConcern failure)
    (honly : ∀ w, ("writeConcernError", w) ∈ reply ↔ w = v) :
    Judged writes reads reply (.error (.labelled (.writeConcern failure) labels)) where
  succeeds _ := iff_of_false nofun fun hok => hnull (hok.2.2.2 v ((honly v).mpr rfl))
  command hno := absurd h hno
  garbled hno := absurd h hno
  write _ _ hwrites v others hv := by obtain heq | heq := hunlisted hwrites _ hv <;> cases heq
  writeConcern _ _ _ w hw _ := by
    rw [(honly w).mp hw]
    exact ⟨failure, _, hv, rfl, Error.is_labelled_writeConcern hlabels hv⟩
  unread _ hbad := absurd hread hbad
  final _ _ := Error.isRetryable_of_unread

/-- A reply in which a document is listed that was not written. -/
theorem judged_unwritten {v : Value} {others : List Value} {failure : WriteFailure}
    (h : reply.Succeeds) (hread : ∃ a, reads a) (hlabels : reply.Labels labels)
    (hv : v.ReportsWrite failure)
    (honly : ∀ w, ("writeErrors", w) ∈ reply ↔ w = .array (v :: others)) :
    Judged true reads reply (.error (.labelled (.write failure) labels)) := by
  have hlisted : ¬ reply.Unlisted "writeErrors" := by
    intro hunlisted
    obtain heq | heq := hunlisted _ ((honly _).mpr rfl) <;> cases heq
  exact {
    succeeds := fun _ => iff_of_false nofun fun hok => hlisted (hok.2.2.1 rfl)
    command := fun hno => absurd h hno
    garbled := fun hno => absurd h hno
    write := fun _ _ _ v' others' hv' => by
      cases (honly _).mp hv'
      exact ⟨failure, _, hv, rfl, Error.is_labelled hlabels nofun⟩
    writeConcern := fun _ _ hno => absurd (hno rfl) hlisted
    unread := fun _ hbad => absurd hread hbad
    final := fun _ _ => Error.isRetryable_of_unread }

end Successful

/-! ## §4. The two readers of successful replies. -/

/-- The reply to a write that only has to be acknowledged counts as `a` if what it says of its
    write concern and its labels can be read. -/
def Document.Acknowledges (reply : Document) (a b : α) : Prop :=
  b = a ∧ (∃ concern, reply.Concern concern) ∧ ∃ labels, reply.Labels labels

/-- The reply to an insert can be read, and so many documents were inserted. -/
def Document.Inserts (reply : Document) (n : Nat) : Prop :=
  ∃ report, InsertReport.ReportedIn reply report ∧ report.inserted = n

/-- A reply to a write that only has to be acknowledged. -/
theorem judged_checkWriteConcern {reply : Document} (h : reply.Succeeds) (f : Document → α) :
    Judged false (reply.Acknowledges (f reply)) reply (reply.checkWriteConcern.map f) := by
  have hunlisted : false = true → reply.Unlisted "writeErrors" := nofun
  by_cases hread : (∃ concern, reply.Concern concern) ∧ ∃ labels, reply.Labels labels
  · have hreads : ∀ a, reply.Acknowledges (f reply) a ↔ a = f reply := fun _ => and_iff_left hread
    obtain ⟨⟨concern, hconcern⟩, labels, hlabels⟩ := hread
    unfold Document.checkWriteConcern
    rw [(Document.concern_eq_some_iff 0).mpr hconcern,
      Document.errorLabels?_eq_some_iff.mpr hlabels]
    cases concern with
    | none => exact judged_succeeded h hreads hunlisted hconcern.lacks
    | some failure =>
      obtain ⟨v, hnull, hv, honly⟩ := hconcern.exists_of_some
      exact judged_unacknowledged h ⟨_, (hreads _).mpr rfl⟩ hunlisted hlabels hnull hv honly
  · have herror : reply.checkWriteConcern = .error (Error.of .undecodable) := by
      unfold Document.checkWriteConcern
      dsimp only
      split
      case h_1 labels hconcern hlabels =>
        exact absurd ⟨⟨_, (Document.concern_eq_some_iff 0).mp hconcern⟩, labels,
          Document.errorLabels?_eq_some_iff.mp hlabels⟩ hread
      case h_2 failure labels hconcern hlabels =>
        exact absurd ⟨⟨_, (Document.concern_eq_some_iff 0).mp hconcern⟩, labels,
          Document.errorLabels?_eq_some_iff.mp hlabels⟩ hread
      case h_3 => rfl
    rw [herror]
    exact judged_unread h fun ⟨_, _, hr⟩ => hread hr

/-- Either no document is listed that was not written, or there is a first one. -/
theorem InsertReport.ReportedIn.writeFailures_cases {reply : Document} {report : InsertReport}
    (h : report.ReportedIn reply) :
    (report.writeFailures = [] ∧ reply.Unlisted "writeErrors") ∨
      ∃ failure rest v others, report.writeFailures = failure :: rest ∧ v.ReportsWrite failure ∧
        ∀ w, ("writeErrors", w) ∈ reply ↔ w = .array (v :: others) := by
  obtain ⟨listed, hlisted, heq⟩ := h.writeFailures
  rw [← heq]
  cases listed with
  | none => exact .inl ⟨rfl, fun v hv => .inl (hlisted.lacks v hv)⟩
  | some failures =>
    obtain ⟨_, -, ⟨items, rfl, hitems⟩, honly⟩ := hlisted.exists_of_some
    -- As many documents are read as are listed.
    cases hitems with
    | nil => exact .inl ⟨rfl, fun w hw => .inr ((honly w).mp hw)⟩
    | cons hfirst _ => exact .inr ⟨_, _, _, _, rfl, hfirst, honly⟩

/-- A reply to an insert. -/
theorem judged_insertedCount {reply : Document} (h : reply.Succeeds) :
    Judged true reply.Inserts reply reply.insertedCount := by
  unfold Document.insertedCount
  cases hread : InsertReport.read? reply with
  | none =>
    refine judged_unread h ?_
    rintro ⟨_, report, hreport, -⟩
    rw [InsertReport.read?_eq_some_iff.mpr hreport] at hread
    cases hread
  | some report =>
    have hreport := InsertReport.read?_eq_some_iff.mp hread
    have hreads : ∀ n, reply.Inserts n ↔ n = report.inserted := by
      intro n
      unfold Document.Inserts
      simp only [← InsertReport.read?_eq_some_iff, hread, Option.some.injEq, exists_eq_left']
      exact eq_comm
    have hconcern := hreport.writeConcern
    show Judged true _ reply report.inserted?
    unfold InsertReport.inserted?
    obtain ⟨hnone, hunlisted⟩ | ⟨failure, rest, v, others, hsome, hv, honly⟩ :=
      hreport.writeFailures_cases
    · rw [hnone]
      cases hc : report.writeConcern with
      | none =>
        rw [hc] at hconcern
        exact judged_succeeded h hreads (fun _ => hunlisted) hconcern.lacks
      | some failure =>
        rw [hc] at hconcern
        obtain ⟨v, hnull, hv, honly⟩ := hconcern.exists_of_some
        exact judged_unacknowledged h ⟨_, (hreads _).mpr rfl⟩ (fun _ => hunlisted) hreport.labels
          hnull hv honly
    · -- A document that was not written comes before the write concern.
      rw [hsome]
      exact judged_unwritten h ⟨_, (hreads _).mpr rfl⟩ hreport.labels hv honly

/-! ## §5. Attempts. -/

/-- The server on the connection answers the next command with this reply. -/
def Run.Replies (r : Run) (lease : Lease) (reply : Document) : Prop :=
  (r.deployment.nextReply lease.description.address).1.answer = .ok reply

/-- A reply is validated, and if it passes it is interpreted. -/
theorem judged_validate {writes : Bool} {reads : α → Prop} {reply : Document}
    {interpret : Document → Except Error α}
    (h : reply.Succeeds → Judged writes reads reply (interpret reply)) :
    Judged writes reads reply (reply.validate >>= interpret) := by
  by_cases hok : reply.Succeeds
  · have hvalidate : reply.validate = .ok reply := by
      unfold Document.validate
      rw [if_pos (Document.isOk_iff.mpr hok)]
    rw [hvalidate]
    exact h hok
  · exact judged_failed hok interpret

section Attempts

variable {r : Run} {lease : Lease} {reply : Document}

theorem Run.Replies.attempt (h : r.Replies lease reply) (source : Source) (command : Command)
    (interpret : Interpretation α) :
    ((attempt source lease command interpret).on r).1 =
      (reply.validate >>= fun reply => interpret reply lease.description.address) := by
  rw [attempt_on, send_result, show _ = _ from h]
  rfl

/-- A write that only has to be acknowledged, on the connection that it reaches. -/
theorem Reached.acknowledged {b : Binding} {r₀ : Run} {source : Source}
    (hr : Reached b .write r₀ source lease r) (h : r.Replies lease reply) (database : String)
    (body : Document) :
    Judged false (reply.Acknowledges Outcome.done) reply
      ((acknowledged b database body).on r₀).1 := by
  have hresult : ((ClusterClient.acknowledged b database body).on r₀).1 =
      (reply.validate >>= Document.checkWriteConcern).map fun _ => .done := by
    unfold ClusterClient.acknowledged performWrite
    rw [Exec.on_bind_pure, within_on, (reach_ok_iff ..).mpr hr]
    exact congrArg (Except.map _) (h.attempt source _ _)
  have hmap : (reply.validate >>= Document.checkWriteConcern).map (fun _ => Outcome.done) =
      (reply.validate >>= fun reply => reply.checkWriteConcern.map fun _ => Outcome.done) := by
    cases reply.validate <;> rfl
  rw [hresult, hmap]
  exact judged_validate fun hok => judged_checkWriteConcern hok fun _ => Outcome.done

end Attempts

/-- The error says that the collection does not exist. -/
def Error.Missing (e : Error) : Prop :=
  ∃ failure, e.cause = .command failure ∧
    (failure.code = 26 ∨ "ns not found".toList <:+: failure.message.toList)

theorem Error.isNsNotFound_iff (e : Error) : e.isNsNotFound = true ↔ e.Missing := by
  unfold isNsNotFound Missing
  cases e.cause with
  | command failure =>
    simp only [isNamespaceNotFound, Bool.or_eq_true, beq_iff_eq, mentions_iff]
    exact ⟨fun h => ⟨failure, rfl, h⟩, fun ⟨_, heq, h⟩ => by cases heq; exact h⟩
  | _ => exact iff_of_false nofun fun ⟨_, heq, _⟩ => nomatch heq

/-- Dropping a collection ends like any other write, but that it does not exist is no failure. -/
structure Forgives (written result : Except Error Outcome) : Prop where
  ok : ∀ a, written = .ok a → result = .ok a
  missing : ∀ e, written = .error e → e.Missing → result = .ok .done
  error : ∀ e, written = .error e → ¬ e.Missing → result = .error e

theorem dropCollection_forgives (b : Binding) (database collection : String) (r : Run) :
    Forgives ((acknowledged b database [("drop", .text collection)]).on r).1
      (((Operation.dropCollection database collection).execute b).on r).1 := by
  have hexecute : (((Operation.dropCollection database collection).execute b).on r).1 =
      ignoreNsNotFound ((acknowledged b database [("drop", .text collection)]).on r).1 .done := by
    unfold Operation.execute
    rw [Exec.on_bind, on_observe]
    rfl
  rw [hexecute]
  constructor
  · intro a ha
    rw [ha]
    rfl
  · intro e he hmissing
    rw [he]
    exact if_pos ((e.isNsNotFound_iff).mpr hmissing)
  · intro e he hmissing
    rw [he]
    exact if_neg (mt (e.isNsNotFound_iff).mp hmissing)

/-- Whatever a server replies, no failure in it is swallowed and no label is lost, by any operation
    that writes. -/
theorem Run.Replies.judged {r : Run} {lease : Lease} {reply : Document} (h : r.Replies lease reply)
    (source : Source) :
    (∀ (i : Insert) (x : SessionContext) (command : Command),
      Judged true reply.Inserts reply
        ((ClusterClient.attempt source lease command (i.request x).interpret).on r).1) ∧
    (∀ (name : String) (x : SessionContext) (command : Command),
      Judged false (reply.Acknowledges reply) reply
        ((ClusterClient.attempt source lease command (endRequest name x).interpret).on r).1) ∧
    ∀ (b : Binding) (r₀ : Run), Reached b .write r₀ source lease r →
      (∀ database user, Judged false (reply.Acknowledges .done) reply
        (((Operation.dropUser database user).execute b).on r₀).1) ∧
      ∀ database collection, ∃ written : Except Error Outcome,
        Judged false (reply.Acknowledges .done) reply written ∧
        Forgives written (((Operation.dropCollection database collection).execute b).on r₀).1 := by
  refine ⟨fun i x command => ?_, fun name x command => ?_, fun b r₀ hr => ⟨?_, ?_⟩⟩
  · rw [h.attempt]
    exact judged_validate judged_insertedCount
  · rw [h.attempt]
    refine judged_validate fun hok => ?_
    have hid : reply.checkWriteConcern.map id = reply.checkWriteConcern := by
      cases reply.checkWriteConcern <;> rfl
    have hjudged := judged_checkWriteConcern hok id
    rw [hid] at hjudged
    exact hjudged
  · intro database user
    exact hr.acknowledged h database [("dropUser", .text user)]
  · intro database collection
    exact ⟨_, hr.acknowledged h database _, dropCollection_forgives b database collection r₀⟩

namespace Lone

/-- A document was not written, the write was not acknowledged either, and both say that the command
    may be sent again. -/
def mixed : Document :=
  [("ok", .int32 1), ("n", .int32 1),
    ("writeErrors", .array [.document [("index", .int32 0), ("code", .int32 11000)]]),
    ("writeConcernError", .document [("code", .int32 91),
      ("errInfo", .document [("writeConcern", .document [("w", .int32 2)])]),
      ("errorLabels", .array [.text "RetryableWriteError"])]),
    ("errorLabels", .array [.text "TransientTransactionError"])]

/-- The collection does not exist; the fields are in another order, and the code in 64 bits. -/
def missing : Document :=
  [("errorLabels", .array [.text "TransientTransactionError"]), ("errmsg", .text "ns not found"),
    ("code", .int64 26), ("codeName", .text "NamespaceNotFound"), ("ok", .boolean false)]

/-- A failure without a code. -/
def garbled : Document := [("ok", .int32 0), ("errmsg", .text "failed")]

/-- The run in which the primary replies so. -/
def replying (reply : Document) : Run := { opened with deployment := { opened.deployment with
  replies := [(address, [⟨.ok reply, [], []⟩])] } }

/-- A connection of the primary. -/
def link : Lease := ⟨0, ⟨address, .primary, 17, some 1800000, 1⟩⟩

/-- The server that lends it. -/
def source : Source := ⟨⟨0, primary⟩, bound.context⟩

/-- The run in which it is lent. -/
def replied (reply : Document) : Run := ((reach bound .write).on (replying reply)).2

theorem reached (reply : Document) :
    Reached bound .write (replying reply) source link (replied reply) :=
  (reach_ok_iff ..).mp (Prod.ext rfl rfl)

theorem replied_replies (reply : Document) : (replied reply).Replies link reply := by
  have hdeployment : (replied reply).deployment = (replying reply).deployment := rfl
  unfold Run.Replies
  rw [hdeployment]
  rfl

/-- What comes of an insert that gets the reply. -/
def inserted (reply : Document) : Except Error Nat :=
  ((attempt source link (.of "db" []) (single.request bound.context).interpret).on
    (replied reply)).1

theorem succeeds_mixed : mixed.Succeeds := Document.isOk_iff.mp rfl

theorem fails_missing : ¬ missing.Succeeds := mt Document.isOk_iff.mpr (by decide)

theorem reportsCommand_missing : missing.ReportsCommand
    ⟨26, "NamespaceNotFound", "ns not found"⟩ ["TransientTransactionError"] :=
  ⟨CommandFailure.read?_eq_some_iff.mp rfl, Document.errorLabels?_eq_some_iff.mp rfl⟩

/-- Both replies list one label. -/
theorem tells_iff {reply : Document} (h : reply.Labels ["TransientTransactionError"])
    (label : String) : reply.Tells label ↔ label ∈ ["TransientTransactionError"] :=
  (h.mem_iff label).symm

end Lone

/-- For an insert the document counts that was not written, with the label of the reply; for any
    other write it is the write concern, with both labels.  That the collection does not exist is a
    failure of an insert, but not of dropping the collection.  A failure without a code cannot be
    read. -/
theorem judged_lone :
    (∀ reply, (Lone.replied reply).Replies Lone.link reply) ∧
      (∃ e, Lone.inserted Lone.mixed = .error e ∧
        e.Is (.write ⟨11000, none, ""⟩) (· ∈ ["TransientTransactionError"])) ∧
      (∃ e, (((Operation.dropUser "db" "user").execute Lone.bound).on
          (Lone.replying Lone.mixed)).1 = .error e ∧
        e.Is (.writeConcern ⟨91, "", "", some [("writeConcern", .document [("w", .int32 2)])],
          ["RetryableWriteError"]⟩) (· ∈ ["TransientTransactionError", "RetryableWriteError"])) ∧
      (∃ e, Lone.inserted Lone.missing = .error e ∧
        e.Is (.command ⟨26, "NamespaceNotFound", "ns not found"⟩)
          (· ∈ ["TransientTransactionError"])) ∧
      (((Operation.dropCollection "db" "coll").execute Lone.bound).on
        (Lone.replying Lone.missing)).1 = .ok .done ∧
      Lone.inserted Lone.garbled = .error ⟨.invalidReply, []⟩ := by
  have hmixed : Lone.mixed.Labels ["TransientTransactionError"] :=
    Document.errorLabels?_eq_some_iff.mp rfl
  have hmissing := Lone.reportsCommand_missing
  refine ⟨Lone.replied_replies, ?_, ?_, ?_, ?_, ?_⟩
  · obtain ⟨hinsert, -⟩ := (Lone.replied_replies Lone.mixed).judged Lone.source
    have hreads : Lone.mixed.Inserts 1 := ⟨_, InsertReport.read?_eq_some_iff.mp rfl, rfl⟩
    obtain ⟨failure, e, hfailure, he, his⟩ := (hinsert Lone.single Lone.bound.context _).write
      Lone.succeeds_mixed ⟨1, hreads⟩ rfl (.document [("index", .int32 0), ("code", .int32 11000)])
      [] (by simp [Lone.mixed])
    obtain rfl := Option.some.inj (WriteFailure.ofValue?_eq_some_iff.mpr hfailure)
    exact ⟨e, he, his.congr (Lone.tells_iff hmixed)⟩
  · obtain ⟨-, -, hwrites⟩ := (Lone.replied_replies Lone.mixed).judged Lone.source
    obtain ⟨hdropUser, -⟩ := hwrites _ _ (Lone.reached _)
    have hreads : Lone.mixed.Acknowledges Outcome.done .done :=
      ⟨rfl, ⟨_, (Document.concern_eq_some_iff 0).mp rfl⟩, _, hmixed⟩
    obtain ⟨failure, e, hfailure, he, his⟩ := (hdropUser "db" "user").writeConcern
      Lone.succeeds_mixed ⟨_, hreads⟩ nofun (.document [("code", .int32 91),
        ("errInfo", .document [("writeConcern", .document [("w", .int32 2)])]),
        ("errorLabels", .array [.text "RetryableWriteError"])]) (by simp [Lone.mixed]) nofun
    have hown := hfailure.mem_labels
    obtain rfl := Option.some.inj (WriteConcernFailure.ofValue?_eq_some_iff.mpr hfailure)
    refine ⟨e, he, his.congr fun label => ?_⟩
    rw [Lone.tells_iff hmixed, ← hown, ← List.mem_append]
    rfl
  · obtain ⟨hinsert, -⟩ := (Lone.replied_replies Lone.missing).judged Lone.source
    obtain ⟨e, he, his⟩ := (hinsert Lone.single Lone.bound.context _).command Lone.fails_missing
      _ _ hmissing
    exact ⟨e, he, his.congr (Lone.tells_iff hmissing.labels)⟩
  · obtain ⟨-, -, hwrites⟩ := (Lone.replied_replies Lone.missing).judged Lone.source
    obtain ⟨-, hdropCollection⟩ := hwrites _ _ (Lone.reached _)
    obtain ⟨written, hjudged, hforgives⟩ := hdropCollection "db" "coll"
    obtain ⟨e, he, his⟩ := hjudged.command Lone.fails_missing _ _ hmissing
    exact hforgives.missing e he ⟨_, his.cause, .inl rfl⟩
  · obtain ⟨hinsert, -⟩ := (Lone.replied_replies Lone.garbled).judged Lone.source
    refine (hinsert Lone.single Lone.bound.context _).garbled
      (mt Document.isOk_iff.mpr (by decide)) ?_
    rintro ⟨failure, labels, hreports, -⟩
    cases CommandFailure.read?_eq_some_iff.mpr hreports

end ClusterClient
