/-
  ClusterClient.Proofs.LowerCase — what writing in small letters leaves.

  A small letter is written as itself, so writing a text in small letters a second time changes
  nothing.  No character but the colon is written as a colon, and none is left out.

  The table of runs is settled by comparing each run with each other one: the small letters of a
  run lie apart from all capital letters, either because the one ends before the other begins or
  because of two steps that pass each other by (`smallLetters_apart`).

  Main statements: `lowercase_lowercase`, `colon_mem_lowercase` and `lowercase_ne_empty`.
-/
import ClusterClient.Text.Lowercase

namespace ClusterClient.Text

/-! ## §1. Runs that lie apart. -/

/-- Capital letters in a row: the first and the last one, the step, and the way to the small
    letters. -/
abbrev LetterRun := Nat × Nat × Nat × Int

namespace LetterRun

/-- The code point is one of the run. -/
def Has (r : LetterRun) (n : Nat) : Prop := r.1 ≤ n ∧ n ≤ r.2.1 ∧ (n - r.1) % r.2.2.1 = 0

/-- The small letter of the first one. -/
def firstSmall (r : LetterRun) : Nat := Int.toNat (r.1 + r.2.2.2)

/-- The small letter of the last one. -/
def lastSmall (r : LetterRun) : Nat := Int.toNat (r.2.1 + r.2.2.2)

/-- The small letters of the first run end before the second run or begin behind it, or the second
    run goes by even steps and passes them by: over even numbers if they are odd, and the other
    way round. -/
def apart (r q : LetterRun) : Bool :=
  Nat.blt r.lastSmall q.1 || (Nat.blt q.2.1 r.firstSmall ||
    (q.2.2.1 % 2 == 0 && ((r.firstSmall == r.lastSmall || r.2.2.1 % 2 == 0) &&
      r.firstSmall % 2 != q.1 % 2)))

/-- The small letter of a code point of a run stands where the code point stands. -/
theorem Has.small {r : LetterRun} {n : Nat} (h : r.Has n) (hfirst : 0 ≤ (r.1 : Int) + r.2.2.2) :
    r.firstSmall ≤ ((n : Int) + r.2.2.2).toNat ∧ ((n : Int) + r.2.2.2).toNat ≤ r.lastSmall ∧
      (((n : Int) + r.2.2.2).toNat - r.firstSmall) % r.2.2.1 = 0 := by
  obtain ⟨hle, hge, hmod⟩ := h
  have hshift : ((n : Int) + r.2.2.2).toNat - r.firstSmall = n - r.1 := by
    unfold firstSmall
    omega
  refine ⟨?_, ?_, ?_⟩
  · unfold firstSmall
    omega
  · unfold lastSmall
    omega
  · rw [hshift]
    exact hmod

/-- What lies apart has nothing in common. -/
theorem not_has_of_apart {r q : LetterRun} (h : r.apart q = true) {m : Nat}
    (hfirst : r.firstSmall ≤ m)
    (hlast : m ≤ r.lastSmall) (hstep : (m - r.firstSmall) % r.2.2.1 = 0) : ¬q.Has m := by
  rintro ⟨hle, hge, hmod⟩
  simp only [apart, Bool.or_eq_true, Bool.and_eq_true, Nat.blt_eq, beq_iff_eq, bne_iff_ne] at h
  rcases h with hbefore | hbehind | ⟨hq, heven, hparity⟩
  · omega
  · omega
  -- The way from the first of either run is even.
  · have hone : (m - r.firstSmall) % 2 = 0 := by
      rcases heven with heq | heven
      · omega
      · exact Nat.mod_eq_zero_of_dvd
          (Nat.dvd_trans (Nat.dvd_of_mod_eq_zero heven) (Nat.dvd_of_mod_eq_zero hstep))
    have hother : (m - q.1) % 2 = 0 := Nat.mod_eq_zero_of_dvd
      (Nat.dvd_trans (Nat.dvd_of_mod_eq_zero hq) (Nat.dvd_of_mod_eq_zero hmod))
    omega

end LetterRun

/-- What no small letter is: the colon, the capital letters of ASCII, the dotted capital I, and
    the numbers that are no characters. -/
def reservedRuns : List LetterRun :=
  [(0x3a, 0x3a, 1, 0), (0x41, 0x5a, 1, 0), (0x130, 0x130, 1, 0), (0xd800, 0xdfff, 1, 0)]

/-- The small letters of the table are characters, and apart from all its capital letters. -/
theorem smallLetters_apart : ∀ r ∈ smallLetterRuns,
    0 ≤ (r.1 : Int) + r.2.2.2 ∧ LetterRun.lastSmall r < 0x110000 ∧
      (smallLetterRuns ++ reservedRuns).all (LetterRun.apart r) = true := by
  decide +kernel

/-! ## §2. Characters. -/

/-- The character is written as itself, wherever it stands. -/
def Settled (c : Char) : Prop := c ≠ 'Σ' ∧ smallLetters c = [c]

instance (c : Char) : Decidable (Settled c) := inferInstanceAs (Decidable (_ ∧ _))

theorem smallLetterBeyondAscii_of_not_has {c : Char}
    (h : ∀ r ∈ smallLetterRuns, ¬LetterRun.Has r c.toNat) : smallLetterBeyondAscii c = c := by
  unfold smallLetterBeyondAscii
  have hnone : smallLetterRuns.find? (fun r =>
      decide (r.1 ≤ c.toNat ∧ c.toNat ≤ r.2.1 ∧ (c.toNat - r.1) % r.2.2.1 = 0)) = none := by
    rw [List.find?_eq_none]
    intro r hr
    rw [decide_eq_true_eq]
    exact h r hr
  dsimp only
  rw [hnone]

/-- What is no capital letter of any kind is settled. -/
theorem settled_of_not_has {c : Char}
    (h : ∀ q ∈ smallLetterRuns ++ reservedRuns, ¬LetterRun.Has q c.toNat) :
    Settled c ∧ c ≠ ':' := by
  have hruns : ∀ r ∈ smallLetterRuns, ¬LetterRun.Has r c.toNat :=
    fun r hr => h r (List.mem_append_left _ hr)
  have hreserved : ∀ r ∈ reservedRuns, ¬LetterRun.Has r c.toNat :=
    fun r hr => h r (List.mem_append_right _ hr)
  have hsigma : c ≠ 'Σ' := by
    rintro rfl
    exact hruns (0x3a3, 0x3ab, 1, 32) (by decide) ⟨by decide, by decide, by decide⟩
  have hcolon : c ≠ ':' := by
    rintro rfl
    exact hreserved (0x3a, 0x3a, 1, 0) (by decide) ⟨by decide, by decide, by decide⟩
  have hdotted : c ≠ '\u0130' := by
    rintro rfl
    exact hreserved (0x130, 0x130, 1, 0) (by decide) ⟨by decide, by decide, by decide⟩
  have hascii : ¬(0x41 ≤ c.toNat ∧ c.toNat ≤ 0x5a) := by
    intro hc
    exact hreserved (0x41, 0x5a, 1, 0) (by decide) ⟨hc.1, hc.2, Nat.mod_one _⟩
  refine ⟨⟨hsigma, ?_⟩, hcolon⟩
  unfold smallLetters
  split
  · have hlower : c.toLower = c := by
      unfold Char.toLower
      split
      · next hupper => exact absurd hupper hascii
      · rfl
    rw [hlower]
  · rw [smallLetterBeyondAscii_of_not_has hruns]

/-- The character of a number that is one. -/
theorem toNat_ofNat {n : Nat} (h : n.isValidChar) : (Char.ofNat n).toNat = n := by
  unfold Char.ofNat
  rw [dif_pos h]
  rfl

/-- The small letters of ASCII are settled, and only the colon is written as a colon. -/
theorem settled_toLower : ∀ n < 0x80, Settled (Char.ofNat n).toLower ∧
    ((Char.ofNat n).toLower = ':' → Char.ofNat n = ':') := by
  decide +kernel

/-- The letters that are written for the dotted capital I and for the capital sigma are settled. -/
theorem settled_special :
    Settled 'i' ∧ Settled '\u0307' ∧ Settled 'ς' ∧ Settled 'σ' := by
  decide +kernel

/-- What is found in the table is settled. -/
theorem settled_smallLetterBeyondAscii {c : Char} (hascii : ¬c.toNat < 0x80) (hsigma : c ≠ 'Σ')
    (hdotted : c ≠ '\u0130') :
    Settled (smallLetterBeyondAscii c) ∧ smallLetterBeyondAscii c ≠ ':' := by
  by_cases hcapital : ∀ r ∈ smallLetterRuns, ¬LetterRun.Has r c.toNat
  -- A character that is no capital letter stays.
  · have hself := smallLetterBeyondAscii_of_not_has hcapital
    rw [hself]
    refine ⟨⟨hsigma, ?_⟩, ?_⟩
    · unfold smallLetters
      rw [if_neg hascii, if_neg hdotted, hself]
    · rintro rfl
      exact hascii (by decide)
  · unfold smallLetterBeyondAscii
    dsimp only
    cases hfound : smallLetterRuns.find? (fun r =>
        decide (r.1 ≤ c.toNat ∧ c.toNat ≤ r.2.1 ∧ (c.toNat - r.1) % r.2.2.1 = 0)) with
    | none =>
      rw [List.find?_eq_none] at hfound
      refine absurd (fun r hr hhas => ?_) hcapital
      exact hfound r hr (decide_eq_true hhas)
    | some r =>
      have hfits := List.find?_some hfound
      rw [decide_eq_true_eq] at hfits
      have hhas : LetterRun.Has r c.toNat := hfits
      obtain ⟨hfirst, hlast, hall⟩ := smallLetters_apart r (List.mem_of_find?_eq_some hfound)
      obtain ⟨hle, hge, hstep⟩ := hhas.small hfirst
      have hapart : ∀ q ∈ smallLetterRuns ++ reservedRuns,
          ¬LetterRun.Has q ((c.toNat : Int) + r.2.2.2).toNat := by
        intro q hq
        exact LetterRun.not_has_of_apart (List.all_eq_true.mp hall q hq) hle hge hstep
      have hvalid : ((c.toNat : Int) + r.2.2.2).toNat.isValidChar := by
        have hsurrogate : ¬(0xd800 ≤ ((c.toNat : Int) + r.2.2.2).toNat ∧
            ((c.toNat : Int) + r.2.2.2).toNat ≤ 0xdfff) := fun hin =>
          hapart (0xd800, 0xdfff, 1, 0) (by decide) ⟨hin.1, hin.2, Nat.mod_one _⟩
        unfold Nat.isValidChar
        omega
      dsimp only
      refine settled_of_not_has ?_
      rw [toNat_ofNat hvalid]
      exact hapart

/-- The small letters of a character are settled, and only the colon is written as a colon. -/
theorem settled_smallLetters {c : Char} (hsigma : c ≠ 'Σ') :
    ∀ d ∈ smallLetters c, Settled d ∧ (d = ':' → c = ':') := by
  intro d hd
  unfold smallLetters at hd
  split at hd
  · next hascii =>
    rw [List.mem_singleton] at hd
    have hlower := settled_toLower c.toNat hascii
    rw [Char.ofNat_toNat] at hlower
    rw [hd]
    exact hlower
  · next hascii =>
    split at hd
    · obtain ⟨hi, hdot, -⟩ := settled_special
      rcases List.mem_cons.mp hd with rfl | hd
      · exact ⟨hi, fun heq => absurd heq (by decide)⟩
      · rw [List.mem_singleton] at hd
        subst hd
        exact ⟨hdot, fun heq => absurd heq (by decide)⟩
    · next hdotted =>
      rw [List.mem_singleton] at hd
      obtain ⟨hsettled, hcolon⟩ := settled_smallLetterBeyondAscii hascii hsigma hdotted
      rw [hd]
      exact ⟨hsettled, fun heq => absurd heq hcolon⟩

theorem smallLetters_ne_nil (c : Char) : smallLetters c ≠ [] := by
  unfold smallLetters
  split
  · exact List.cons_ne_nil _ _
  · split <;> exact List.cons_ne_nil _ _

/-! ## §3. Texts. -/

namespace lowercase

/-- Settled characters stay, whatever stands before them. -/
theorem go_of_settled {cs : List Char} (h : ∀ c ∈ cs, Settled c) (before : List Char) :
    go before cs = cs := by
  induction cs generalizing before with
  | nil => rfl
  | cons c rest ih =>
    obtain ⟨hsigma, hself⟩ := h c List.mem_cons_self
    rw [go, if_neg hsigma, hself, ih fun d hd => h d (List.mem_cons_of_mem c hd)]
    rfl

/-- What is written is settled, and a colon is written only for a colon. -/
theorem settled_go (cs before : List Char) :
    ∀ d ∈ go before cs, Settled d ∧ (d = ':' → ':' ∈ cs) := by
  induction cs generalizing before with
  | nil => exact fun d hd => absurd hd List.not_mem_nil
  | cons c rest ih =>
    intro d hd
    rw [go, List.mem_append] at hd
    rcases hd with hfirst | hrest
    · by_cases hsigma : c = 'Σ'
      · obtain ⟨-, -, hfinal, hinner⟩ := settled_special
        rw [if_pos hsigma, List.mem_singleton] at hfirst
        -- The form depends on where the sigma stands; both are settled.
        split at hfirst
        · subst hfirst
          exact ⟨hfinal, fun heq => absurd heq (by decide)⟩
        · subst hfirst
          exact ⟨hinner, fun heq => absurd heq (by decide)⟩
      · rw [if_neg hsigma] at hfirst
        obtain ⟨hsettled, hcolon⟩ := settled_smallLetters hsigma d hfirst
        exact ⟨hsettled, fun heq => List.mem_cons.mpr (.inl (hcolon heq).symm)⟩
    · obtain ⟨hsettled, hcolon⟩ := ih (c :: before) d hrest
      exact ⟨hsettled, fun heq => List.mem_cons_of_mem c (hcolon heq)⟩

theorem go_ne_nil {cs : List Char} (h : cs ≠ []) (before : List Char) : go before cs ≠ [] := by
  cases cs with
  | nil => exact absurd rfl h
  | cons c rest =>
    rw [go]
    intro hnil
    have hfirst := (List.append_eq_nil_iff.mp hnil).1
    split at hfirst
    · exact List.cons_ne_nil _ _ hfirst
    · exact smallLetters_ne_nil c hfirst

end lowercase

/-- Writing in small letters twice is the same as once. -/
theorem lowercase_lowercase (s : String) : lowercase (lowercase s) = lowercase s := by
  show String.ofList (lowercase.go [] (String.ofList (lowercase.go [] s.toList)).toList) = _
  rw [String.toList_ofList,
    lowercase.go_of_settled fun d hd => (lowercase.settled_go s.toList [] d hd).1]
  rfl

/-- A colon in small letters was there before. -/
theorem colon_mem_lowercase {s : String} (h : ':' ∈ (lowercase s).toList) : ':' ∈ s.toList := by
  unfold lowercase at h
  rw [String.toList_ofList] at h
  exact (lowercase.settled_go s.toList [] ':' h).2 rfl

/-- What is written in small letters is not empty, unless the text was. -/
theorem lowercase_ne_empty {s : String} (h : s ≠ "") : lowercase s ≠ "" := by
  intro hempty
  have hcs : s.toList ≠ [] := fun hnil => h (String.toList_eq_nil_iff.mp hnil)
  refine lowercase.go_ne_nil hcs [] ?_
  have hnil := congrArg String.toList hempty
  unfold lowercase at hnil
  rw [String.toList_ofList] at hnil
  exact hnil

end ClusterClient.Text
