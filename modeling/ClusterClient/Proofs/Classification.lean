/-
  ClusterClient.Proofs.Classification — the category of an error, and whether its command may be
  sent again.

  Both questions are asked of the code and the message that a server gave.  A category looks first
  for codes, then for messages, and the messages overlap: whoever says that he is not master or
  secondary says that he is not master.  Whether a command may be sent again looks at all of them
  at once.  The two agree on every code and every message but for four codes that no category
  knows: after these a command may be sent again, whatever its error is called.

  Main statements: `isRetryableFailure_eq` (one code and one message) and `Error.isRetryable_iff`.
-/
import ClusterClient.Error
import Mathlib.Data.List.Infix

namespace ClusterClient

/-! ## §1. Texts in texts. -/

theorem mentions_go_iff (part : String) (text : List Char) :
    mentions.go part text = true ↔ part.toList <:+: text := by
  induction text with
  | nil => simp [mentions.go]
  | cons c rest ih =>
    rw [mentions.go, Bool.or_eq_true, List.isPrefixOf_iff_prefix, ih]
    exact List.infix_cons_iff.symm

theorem mentions_iff (text part : String) :
    mentions text part = true ↔ part.toList <:+: text.toList :=
  mentions_go_iff part text.toList

/-- Where a text stands, all that it begins with stands too. -/
theorem mentions_of_prefix {text part longer : String} (h : part.toList <+: longer.toList)
    (hm : mentions text longer = true) : mentions text part = true := by
  rw [mentions_iff] at hm ⊢
  exact h.isInfix.trans hm

/-! ## §2. Codes and messages. -/

/-- The codes after which a command may be sent again although they are of no category. -/
def strayCodes : List Int32 := [6, 7, 89, 9001]

/-- Every code after which a command may be sent again tells that the server takes no writes, that
    it is recovering, or is one of these. -/
theorem contains_retryableCodes (code : Int32) :
    retryableCodes.contains code = ([10107, 13435].contains code ||
      [11600, 11602, 13436, 189, 91].contains code || strayCodes.contains code) := by
  rw [Bool.eq_iff_iff]
  simp only [retryableCodes, strayCodes, Bool.or_eq_true, List.contains_iff_mem, List.mem_cons,
    List.not_mem_nil, or_false]
  tauto

/-- A failure allows another attempt if one of the two categories is its own, or its code is a
    stray one. -/
theorem isRetryableFailure_eq (code : Int32) (message : String) :
    isRetryableFailure code message = (isNotWritablePrimary code message ||
      isRecovering code message || strayCodes.contains code) := by
  -- The longer message is a case of the shorter one, which only the second category looks for.
  have hmaster : mentions message "not master or secondary" = true →
      mentions message "not master" = true := mentions_of_prefix (by decide)
  unfold isRetryableFailure isNotWritablePrimary isRecovering
  rw [contains_retryableCodes]
  cases hlong : mentions message "not master or secondary" with
  | true =>
    rw [hmaster hlong]
    simp
  | false =>
    cases mentions message "not master" <;> cases mentions message "node is recovering" <;>
      cases [10107, 13435].contains code <;>
        cases [11600, 11602, 13436, 189, 91].contains code <;> rfl

/-! ## §3. Errors. -/

/-- The categories of failures that pass. -/
def Category.isTransient : Category → Bool
  | .network | .notWritablePrimary | .nodeIsRecovering => true
  | _ => false

/-- The code by which a failed command, or a write that was not acknowledged, is judged. -/
def Error.judgedCode? (e : Error) : Option Int32 :=
  match e.cause with
  | .command f => some f.code
  | .writeConcern f => some f.code
  | _ => none

/-- The same for the category that code and message lead to, where all that is left over goes to one
    that does not pass. -/
theorem isRetryableFailure_iff (code : Int32) (message : String) {otherwise : Category}
    (hother : otherwise.isTransient = false) :
    isRetryableFailure code message = true ↔
      (if isNotWritablePrimary code message then Category.notWritablePrimary
        else if isRecovering code message then .nodeIsRecovering
        else otherwise).isTransient = true ∨
      ∃ code' ∈ strayCodes, some code = some code' := by
  have hstray : (∃ code' ∈ strayCodes, some code = some code') ↔
      strayCodes.contains code = true := by simp
  have hpasses : (if isNotWritablePrimary code message then Category.notWritablePrimary
      else if isRecovering code message then .nodeIsRecovering else otherwise).isTransient =
        (isNotWritablePrimary code message || isRecovering code message) := by
    split_ifs with hprimary hrecovering
    · rw [hprimary]
      rfl
    · rw [hrecovering, Bool.or_true]
      rfl
    · rw [hother, Bool.eq_false_iff.mpr hprimary, Bool.eq_false_iff.mpr hrecovering]
      rfl
  rw [hstray, hpasses, isRetryableFailure_eq, Bool.or_eq_true]

/-- Whatever its labels, an error allows another attempt exactly if its category is one of those
    that pass or it is judged by one of four codes that no category knows.  A wait that ran out is
    not judged by a code, so it never does. -/
theorem Error.isRetryable_iff (e : Error) :
    (e.isRetryable = true ↔
      e.category.isTransient = true ∨ ∃ code ∈ strayCodes, e.judgedCode? = some code) ∧
    (e.category ≠ .selectionTimeout ∨ e.isRetryable = false) := by
  obtain ⟨cause, labels⟩ := e
  cases cause with
  | command f =>
    constructor
    · refine isRetryableFailure_iff f.code f.message ?_
      cases isNamespaceNotFound f.code f.message <;> rfl
    · left
      show (if _ then _ else if _ then _ else if _ then _ else _ : Category) ≠ _
      split_ifs <;> decide
  | writeConcern f =>
    constructor
    · exact isRetryableFailure_iff f.code f.message rfl
    · left
      show (if _ then _ else if _ then _ else _ : Category) ≠ _
      split_ifs <;> decide
  | network fault message => exact ⟨iff_of_true rfl (.inl rfl), .inl nofun⟩
  | _ =>
    -- All others are of a category that does not pass, and no code goes with them.
    refine ⟨iff_of_false nofun ?_, .inr rfl⟩
    rintro (h | ⟨_, _, h⟩) <;> cases h

/-- A server that cannot reach another one says so with the code 6.  Whatever else it says, the
    command may be sent again, but the error is of none of the categories that pass. -/
theorem hostUnreachable_isRetryable :
    (∃ e : Error, e.category = .application ∧ e.isRetryable = true) ∧
    (∃ e : Error, e.category = .namespaceNotFound ∧ e.isRetryable = true) ∧
    (∃ e : Error, e.category = .writeConcern ∧ e.isRetryable = true) ∧
    ¬ ∀ e : Error, e.isRetryable = true ↔ e.category.isTransient = true := by
  refine ⟨⟨Error.of (.command ⟨6, "HostUnreachable", "boom"⟩), by decide +kernel⟩,
    ⟨Error.of (.command ⟨6, "HostUnreachable", "ns not found"⟩), by decide +kernel⟩,
    ⟨Error.of (.writeConcern ⟨6, "HostUnreachable", "boom", none, []⟩), by decide +kernel⟩, ?_⟩
  intro h
  have hpasses := (h (Error.of (.command ⟨6, "HostUnreachable", "boom"⟩))).mp (by decide +kernel)
  have hnot :
      (Error.of (.command ⟨6, "HostUnreachable", "boom"⟩)).category.isTransient = false := by
    decide +kernel
  rw [hnot] at hpasses
  cases hpasses

end ClusterClient
