/-
  ClusterClient.Proofs.ReplyFields — what a reply says, field by field.

  A failure in a reply is a document, or an array of its fields in their order.  Fields may be
  missing, null or, in a document, in any place, but none may be there twice.  Which values they
  have is said here by the values alone: a code is a whole number in 32 bits however it is stored, a
  text may be stored as its UTF-8 bytes, and details without wrappers stand for themselves.

  Each reader is then shown to read exactly what the fields say, so that a reply cannot be read
  exactly if its fields say nothing that could be read.

  Main statements: `Document.isOk_iff`, `CommandFailure.read?_eq_some_iff`,
  `WriteFailure.ofValue?_eq_some_iff`, `WriteConcernFailure.ofValue?_eq_some_iff` and
  `InsertReport.read?_eq_some_iff`.
-/
import ClusterClient.Reply
import Mathlib.Data.List.Forall2
import Mathlib.Tactic.Ring

namespace ClusterClient

variable {α : Type}

/-! ## §1. Doubles that stand for one. -/

namespace Double

/-- The parts that the bits of a finite number consist of. -/
theorem bits_of_finite {bits : UInt64} {negative : Bool} {m : Nat} {q : Int}
    (h : meaning bits = .finite negative m q) :
    ∃ e fraction : Nat, fraction < 2 ^ 52 ∧
      bits.toNat = negative.toNat * 2 ^ 63 + e * 2 ^ 52 + fraction ∧
      ((m = fraction ∧ q = -1074) ∨ (m = 2 ^ 52 + fraction ∧ q = e - 1075)) := by
  have hsign : (bits >>> 63).toNat = bits.toNat / 2 ^ 63 := by
    rw [UInt64.toNat_shiftRight, Nat.shiftRight_eq_div_pow]
    rfl
  have hexponent : ((bits >>> 52) &&& 0x7FF).toNat = bits.toNat / 2 ^ 52 % 2 ^ 11 := by
    rw [UInt64.toNat_and, UInt64.toNat_shiftRight, Nat.shiftRight_eq_div_pow]
    exact Nat.and_two_pow_sub_one_eq_mod _ 11
  have hfraction : (bits &&& 0xFFFFFFFFFFFFF).toNat = bits.toNat % 2 ^ 52 := by
    rw [UInt64.toNat_and]
    exact Nat.and_two_pow_sub_one_eq_mod _ 52
  have hlt : bits.toNat < 2 ^ 64 := bits.toNat_lt
  have hnegative : (bits >>> 63 == 1).toNat = bits.toNat / 2 ^ 63 := by
    have hone : (bits >>> 63 = 1) ↔ bits.toNat / 2 ^ 63 = 1 := by
      rw [← UInt64.toNat_inj, hsign]
      rfl
    by_cases hbit : bits >>> 63 = 1
    · rw [hone.mp hbit, hbit]
      rfl
    · have hzero := mt hone.mpr hbit
      rw [beq_eq_false_iff_ne.mpr hbit, Bool.toNat_false]
      omega
  unfold meaning at h
  dsimp only at h
  rw [hexponent, hfraction] at h
  refine ⟨bits.toNat / 2 ^ 52 % 2 ^ 11, bits.toNat % 2 ^ 52, Nat.mod_lt _ (by decide), ?_⟩
  split at h
  · split at h <;> cases h
  · split at h
    all_goals
      cases h
      rw [hnegative]
      refine ⟨by omega, ?_⟩
    · exact .inl ⟨rfl, rfl⟩
    · exact .inr ⟨rfl, rfl⟩

/-- A number is one up to the rounding unit if it is a little more than one at most. -/
theorem finite_of_wholeNumber?_eq_one {bits : UInt64} (h : wholeNumber? bits = some 1) :
    ∃ m q, meaning bits = .finite false m q ∧ m * twoPow q / twoPow (-q) = 1 ∧
      2 ^ 52 * (m * twoPow q % twoPow (-q)) ≤ twoPow (-q) := by
  unfold wholeNumber? at h
  cases hmeaning : meaning bits with
  | finite negative m q =>
    rw [hmeaning] at h
    dsimp only at h
    split at h
    case isFalse => cases h
    case isTrue hrest =>
      split at h
      case isTrue hlt =>
        have hofInt := Option.some.inj h
        have hlt' : m * twoPow q / twoPow (-q) < 2 ^ 63 := hlt
        generalize hwhole : m * twoPow q / twoPow (-q) = whole at hofInt hlt'
        have htoInt := congrArg Int64.toInt hofInt
        rw [Int64.toInt_ofInt_of_le (by split <;> omega) (by split <;> omega)] at htoInt
        change (if negative = true then -(whole : Int) else whole) = 1 at htoInt
        cases negative with
        | true =>
          rw [if_pos rfl] at htoInt
          omega
        | false =>
          rw [if_neg (by decide)] at htoInt
          exact ⟨m, q, rfl, by omega, hrest⟩
      case isFalse =>
        split at h
        · cases negative <;> cases h
        · cases h
  | infinite negative =>
    rw [hmeaning] at h
    cases h
  | notANumber negative =>
    rw [hmeaning] at h
    cases h

theorem twoPow_le_twoPow {a b : Int} (h : a ≤ b) : twoPow a ≤ twoPow b :=
  Nat.pow_le_pow_right (by decide) (Int.toNat_le_toNat h)

/-- Among the numbers with so many digits, one has the exponent that leaves one before the point. -/
theorem exponent_eq_of_quotient {m k : Nat} (h : m / 2 ^ k = 1) (hlow : 2 ^ 52 ≤ m)
    (hhigh : m < 2 ^ 53) : k = 52 := by
  have hpos : 0 < 2 ^ k := Nat.two_pow_pos k
  have hle : 2 ^ k ≤ m := by
    by_contra hlt
    rw [Nat.div_eq_of_lt (Nat.lt_of_not_le hlt)] at h
    cases h
  have hlt : m < 2 ^ (k + 1) := by
    have := Nat.lt_mul_div_succ m hpos
    rw [h] at this
    rwa [pow_succ]
  have hk : k < 53 := (Nat.pow_lt_pow_iff_right (by decide)).mp (hle.trans_lt hhigh)
  have hk' : 52 < k + 1 := (Nat.pow_lt_pow_iff_right (by decide)).mp (hlow.trans_lt hlt)
  omega

/-- A double stands for one if it is one or the next number after it. -/
theorem wholeNumber?_eq_one_iff {bits : UInt64} :
    wholeNumber? bits = some 1 ↔ bits = 0x3FF0000000000000 ∨ bits = 0x3FF0000000000001 := by
  constructor
  · intro h
    obtain ⟨m, q, hmeaning, hone, hrest⟩ := finite_of_wholeNumber?_eq_one h
    obtain ⟨e, fraction, hfraction, hbits, hparts⟩ := bits_of_finite hmeaning
    have hnegative : q < 0 := by
      by_contra hnot
      obtain ⟨-, rfl⟩ | ⟨rfl, -⟩ := hparts
      · omega
      have hscale : twoPow (-q) = 1 := by
        rw [twoPow, Int.toNat_eq_zero.mpr (by omega)]
      have hle : 2 ^ 52 + fraction ≤ (2 ^ 52 + fraction) * twoPow q :=
        Nat.le_mul_of_pos_right _ (Nat.two_pow_pos _)
      rw [hscale, Nat.div_one] at hone
      omega
    have hunit : twoPow q = 1 := by
      rw [twoPow, Int.toNat_eq_zero.mpr hnegative.le]
    rw [hunit, Nat.mul_one] at hone hrest
    obtain ⟨rfl, rfl⟩ | ⟨rfl, rfl⟩ := hparts
    · have hdigits : m < twoPow 52 := hfraction
      have hsmall : m < twoPow (- -1074) := hdigits.trans_le (twoPow_le_twoPow (by decide))
      rw [Nat.div_eq_of_lt hsmall] at hone
      cases hone
    · have hk := exponent_eq_of_quotient hone (Nat.le_add_right _ _) (by omega)
      have hscale : twoPow (-(e - 1075 : Int)) = 2 ^ 52 := by
        rw [twoPow, hk]
        rfl
      rw [hscale, Nat.add_mod_left, Nat.mod_eq_of_lt hfraction] at hrest
      rw [Bool.toNat_false] at hbits
      rw [← UInt64.toNat_inj, ← UInt64.toNat_inj]
      show bits.toNat = 4607182418800017408 ∨ bits.toNat = 4607182418800017409
      omega
  · rintro (rfl | rfl) <;> rfl

end Double

/-! ## §2. Values. -/

namespace Value

/-- True, or the number one; of doubles also the next one after it. -/
inductive Affirms : Value → Prop where
  | boolean : Affirms (.boolean true)
  | int32 : Affirms (.int32 1)
  | int64 : Affirms (.int64 1)
  | one : Affirms (.double 0x3FF0000000000000)
  | nextOne : Affirms (.double 0x3FF0000000000001)

/-- The code, stored in 32 or in 64 bits. -/
inductive IsCode : Value → Int32 → Prop where
  | int32 (n : Int32) : IsCode (.int32 n) n
  | int64 {m : Int64} {n : Int32} (h : m.toInt = n.toInt) : IsCode (.int64 m) n

/-- The number, stored in 32 or in 64 bits. -/
inductive IsCount : Value → Nat → Prop where
  | int32 {n : Int32} {k : Nat} (h : n.toInt = k) : IsCount (.int32 n) k
  | int64 {n : Int64} {k : Nat} (h : n.toInt = k) : IsCount (.int64 n) k

/-- The text, as such or in UTF-8. -/
inductive Spells : Value → String → Prop where
  | text (s : String) : Spells (.text s) s
  | utf8 {bytes : List UInt8} {s : String} (h : s.toUTF8 = ⟨bytes.toArray⟩) :
    Spells (.binary bytes) s

/-- An array of such items. -/
def Lists (item : Value → α → Prop) (v : Value) (l : List α) : Prop :=
  ∃ items, v = .array items ∧ List.Forall₂ item items l

/-- Nothing in the value is in a wrapper: no key starts with a dollar sign. -/
inductive Unwrapped : Value → Prop where
  | scalar {v : Value} (hdocument : ∀ d, v ≠ .document d) (harray : ∀ items, v ≠ .array items) :
    Unwrapped v
  | document {d : Document} (hkeys : ∀ f ∈ d, f.1.toList.head? ≠ some '$')
    (hvalues : ∀ f ∈ d, Unwrapped f.2) : Unwrapped (.document d)
  | array {items : List Value} (h : ∀ v ∈ items, Unwrapped v) : Unwrapped (.array items)

/-- A document stands for itself, unless there are wrappers in it. -/
inductive Stands : Value → Document → Prop where
  | unwrapped {d : Document} (h : (Value.document d).Unwrapped) : Stands (.document d) d
  | wrapped {v : Value} {d : Document} (hv : ¬ v.Unwrapped) (h : Wrapper.document? v = some d) :
    Stands v d

theorem wholeNumber?_eq_one_iff {v : Value} : v.wholeNumber? = some 1 ∨ v = .boolean true ↔
    v.Affirms := by
  constructor
  · rintro (h | rfl)
    · cases v with
      | int32 n =>
        have hn : n.toInt64 = 1 := Option.some.inj h
        obtain rfl : n = 1 := by
          rw [← Int32.toInt_inj, ← Int32.toInt_toInt64, hn]
          rfl
        exact .int32
      | int64 n =>
        cases h
        exact .int64
      | double bits =>
        obtain rfl | rfl := Double.wholeNumber?_eq_one_iff.mp h
        · exact .one
        · exact .nextOne
      | _ => cases h
    · exact .boolean
  · intro h
    cases h with
    | boolean => exact .inr rfl
    | int32 | int64 | one | nextOne => exact .inl rfl

theorem code?_int64 (m : Int64) : (Value.int64 m).code? =
    if Int32.minValue.toInt ≤ m.toInt ∧ m.toInt ≤ Int32.maxValue.toInt then some m.toInt32
    else none := rfl

theorem code?_eq_some_iff {v : Value} {n : Int32} : v.code? = some n ↔ v.IsCode n := by
  constructor
  · intro h
    cases v with
    | int32 m =>
      cases h
      exact .int32 n
    | int64 m =>
      rw [code?_int64] at h
      split at h
      case isTrue hrange =>
        cases h
        refine .int64 ?_
        rw [Int64.toInt_toInt32, Int.bmod_eq_of_le hrange.1 (Int.lt_add_one_of_le hrange.2)]
      case isFalse => cases h
    | _ => cases h
  · intro h
    cases h with
    | int32 => rfl
    | @int64 m _ hm =>
      rw [code?_int64, hm, if_pos ⟨n.minValue_le_toInt, n.toInt_le⟩, Option.some.injEq,
        ← Int32.toInt_inj, Int64.toInt_toInt32, hm]
      exact n.toInt_bmod

theorem natural?_eq_some_iff {v : Value} {k : Nat} : v.natural? = some k ↔ v.IsCount k := by
  have hnumber : ∀ n : Int64,
      (if 0 ≤ n.toInt then some n.toInt.toNat else none) = some k ↔ n.toInt = k := by
    intro n
    split
    case isTrue h =>
      rw [Option.some.injEq]
      omega
    case isFalse h => exact iff_of_false nofun (by omega)
  have hread : v.natural? = some k ↔ ∃ n, v.integer? = some n ∧ n.toInt = k := by
    unfold natural?
    simp only [Option.bind_eq_some_iff, hnumber]
  rw [hread]
  constructor
  · rintro ⟨n, hn, h⟩
    cases v with
    | int32 m =>
      cases hn
      exact .int32 (by rw [← h, Int32.toInt_toInt64])
    | int64 m =>
      cases hn
      exact .int64 h
    | _ => cases hn
  · intro h
    cases h with
    | @int32 n _ h => exact ⟨n.toInt64, rfl, by rw [Int32.toInt_toInt64, h]⟩
    | @int64 n _ h => exact ⟨n, rfl, h⟩

theorem ofUtf8?_eq_some_iff {bytes : List UInt8} {s : String} :
    Text.ofUtf8? bytes = some s ↔ s.toUTF8 = ⟨bytes.toArray⟩ := by
  unfold Text.ofUtf8? String.fromUTF8?
  split
  case isTrue h =>
    rw [Option.some.injEq, ← String.toByteArray_inj]
    exact eq_comm
  case isFalse h =>
    refine iff_of_false nofun fun hbytes => h ?_
    rw [← hbytes]
    exact s.isValidUTF8

theorem text?_eq_some_iff {v : Value} {s : String} : v.text? = some s ↔ v.Spells s := by
  constructor
  · intro h
    cases v with
    | text =>
      cases h
      exact .text s
    | binary bytes => exact .utf8 (ofUtf8?_eq_some_iff.mp h)
    | _ => cases h
  · intro h
    cases h with
    | text => rfl
    | utf8 h => exact ofUtf8?_eq_some_iff.mpr h

/-- The items of a list are all read, each by itself. -/
theorem mapM_eq_some_iff {β : Type} {f : α → Option β} {l : List α} {l' : List β} :
    l.mapM f = some l' ↔ List.Forall₂ (fun a b => f a = some b) l l' := by
  induction l generalizing l' with
  | nil =>
    rw [List.mapM_nil, List.forall₂_nil_left_iff]
    exact ⟨fun h => (Option.some.inj h).symm, fun h => congrArg some h.symm⟩
  | cons a rest ih =>
    rw [List.mapM_cons, List.forall₂_cons_left_iff]
    simp only [Option.bind_eq_bind, Option.bind_eq_some_iff, ih, Option.pure_def]
    constructor
    · rintro ⟨b, hb, bs, hbs, ⟨⟩⟩
      exact ⟨b, bs, hb, hbs, rfl⟩
    · rintro ⟨b, bs, hb, hbs, rfl⟩
      exact ⟨b, hb, bs, hbs, rfl⟩

theorem listOf?_eq_some_iff {read : Value → Option α} {item : Value → α → Prop}
    (hread : ∀ v a, read v = some a ↔ item v a) {v : Value} {l : List α} :
    listOf? read v = some l ↔ v.Lists item l := by
  cases v with
  | array items =>
    rw [listOf?, mapM_eq_some_iff]
    simp only [hread]
    exact ⟨fun h => ⟨items, rfl, h⟩, fun ⟨_, heq, h⟩ => by cases heq; exact h⟩
  | _ => exact iff_of_false nofun fun ⟨_, heq, _⟩ => nomatch heq

theorem texts?_eq_some_iff {v : Value} {l : List String} :
    v.texts? = some l ↔ v.Lists Spells l :=
  listOf?_eq_some_iff fun _ _ => text?_eq_some_iff

end Value

namespace Wrapper

/-- All wrapper keys start with a dollar sign. -/
theorem readers_lookup_of_plain {key : String} (h : key.toList.head? ≠ some '$') :
    key ≠ "$code" ∧ key ≠ "$scope" ∧ readers.lookup key = none := by
  refine ⟨?_, ?_, ?_⟩
  · rintro rfl
    exact h (by decide)
  · rintro rfl
    exact h (by decide)
  · have hkeys : ∀ key ∈ readers.map (·.1), key.toList.head? = some '$' := by decide
    rw [List.lookup_eq_none_iff]
    intro reader hreader
    rw [bne_iff_ne]
    rintro rfl
    exact h (hkeys _ (List.mem_map_of_mem hreader))

theorem assemble?_cons {part : Part} {rest : List Part} {meaning : Meaning} {fields : Document}
    (hkey : part.key.toList.head? ≠ some '$') (hpart : part.meaning = some meaning)
    (hrest : assemble? rest = some (.document fields)) :
    assemble? (part :: rest) = some (.document ((part.key, meaning.toValue) :: fields)) := by
  obtain ⟨hcode, hscope, hreader⟩ := readers_lookup_of_plain hkey
  unfold assemble?
  rw [if_neg hcode, if_neg hscope, hreader, hpart, hrest]

/-- The value stands for itself. -/
def Kept (v : Value) : Prop := ∃ meaning, meaning? v = some meaning ∧ meaning.toValue = v

theorem assemble?_partsOf {d : Document} (hkeys : ∀ f ∈ d, f.1.toList.head? ≠ some '$')
    (hvalues : ∀ f ∈ d, Kept f.2) : assemble? (partsOf d) = some (.document d) := by
  induction d with
  | nil => rfl
  | cons f rest ih =>
    obtain ⟨key, v⟩ := f
    obtain ⟨meaning, hmeaning, hv⟩ := hvalues _ List.mem_cons_self
    have hrest := ih (fun f hf => hkeys f (List.mem_cons_of_mem _ hf))
      fun f hf => hvalues f (List.mem_cons_of_mem _ hf)
    have hcons : assemble? (⟨key, v, meaning? v⟩ :: partsOf rest) = _ :=
      assemble?_cons (hkeys _ List.mem_cons_self) hmeaning hrest
    rw [hv] at hcons
    exact hcons

theorem itemsOf?_of_kept {items : List Value} (h : ∀ v ∈ items, Kept v) :
    itemsOf? items = some items := by
  induction items with
  | nil => rfl
  | cons v rest ih =>
    obtain ⟨meaning, hmeaning, hv⟩ := h _ List.mem_cons_self
    rw [itemsOf?, hmeaning, ih fun v hv => h v (List.mem_cons_of_mem _ hv)]
    dsimp only
    rw [hv]

theorem meaning?_document_of_kept {d : Document} (hkeys : ∀ f ∈ d, f.1.toList.head? ≠ some '$')
    (hvalues : ∀ f ∈ d, Kept f.2) : meaning? (.document d) = some (.document d) :=
  assemble?_partsOf hkeys hvalues

/-- Values without wrappers stand for themselves. -/
theorem kept_of_unwrapped {v : Value} (h : v.Unwrapped) : Kept v := by
  induction h with
  | @scalar v hdocument harray =>
    refine ⟨.value v, ?_, rfl⟩
    cases v with
    | document d => exact absurd rfl (hdocument d)
    | array items => exact absurd rfl (harray items)
    | _ => rfl
  | document hkeys _ ih => exact ⟨_, meaning?_document_of_kept hkeys ih, rfl⟩
  | @array items _ ih =>
    refine ⟨.value (.array items), ?_, rfl⟩
    rw [meaning?, itemsOf?_of_kept ih, Option.map_some]

theorem document?_of_unwrapped {d : Document} (h : (Value.document d).Unwrapped) :
    document? (.document d) = some d := by
  cases h with
  | scalar hdocument => exact absurd rfl (hdocument d)
  | document hkeys hvalues =>
    unfold document?
    rw [meaning?_document_of_kept hkeys fun f hf => kept_of_unwrapped (hvalues f hf)]

theorem document?_eq_some_iff {v : Value} {d : Document} : document? v = some d ↔ v.Stands d := by
  constructor
  · intro h
    by_cases hv : v.Unwrapped
    · obtain ⟨meaning, hmeaning, htoValue⟩ := kept_of_unwrapped hv
      unfold document? at h
      rw [hmeaning] at h
      cases meaning with
      | document fields =>
        cases h
        cases htoValue
        exact .unwrapped hv
      | value => cases h
    · exact .wrapped hv h
  · intro h
    cases h with
    | unwrapped h => exact document?_of_unwrapped h
    | wrapped _ h => exact h

end Wrapper

/-! ## §3. Fields. -/

namespace Fields

/-- What stands in a field.  In a document, whose fields have no positions, it goes by one of the
    names and no other field does. -/
inductive Holds : Fields → Nat → List String → Option Value → Prop where
  | absent {d : Document} {position : Nat} {names : List String}
    (h : ∀ f ∈ d, f.1 ∉ names) : Holds (.named d) position names none
  | named {before after : Document} {position : Nat} {names : List String} {name : String}
    {v : Value} (hname : name ∈ names) (hbefore : ∀ f ∈ before, f.1 ∉ names)
    (hafter : ∀ f ∈ after, f.1 ∉ names) :
    Holds (.named (before ++ (name, v) :: after)) position names (some v)
  | positional {items : List Value} {position : Nat} {names : List String} :
    Holds (.positional items) position names items[position]?

/-- A field that has to be there. -/
def Required (fs : Fields) (position : Nat) (names : List String) (item : Value → α → Prop)
    (a : α) : Prop :=
  ∃ v, fs.Holds position names (some v) ∧ item v a

/-- A field that may be missing, and counts as the fallback then. -/
inductive Defaulted (fs : Fields) (position : Nat) (names : List String) (fallback : α)
    (item : Value → α → Prop) : α → Prop where
  | missing (h : fs.Holds position names none) : Defaulted fs position names fallback item fallback
  | present {v : Value} {a : α} (h : fs.Holds position names (some v)) (hv : item v a) :
    Defaulted fs position names fallback item a

/-- A field that may be missing or null. -/
inductive Optional (fs : Fields) (position : Nat) (names : List String)
    (item : Value → α → Prop) : Option α → Prop where
  | missing (h : fs.Holds position names none) : Optional fs position names item none
  | null (h : fs.Holds position names (some .null)) : Optional fs position names item none
  | present {v : Value} {a : α} (h : fs.Holds position names (some v)) (hnull : v ≠ .null)
    (hv : item v a) : Optional fs position names item (some a)

variable {fs : Fields} {position : Nat} {names : List String}

/-- One element of a list satisfies the condition exactly if the others around it do not. -/
theorem filter_eq_singleton_iff {p : α → Bool} {l : List α} {a : α} :
    l.filter p = [a] ↔ ∃ before after, l = before ++ a :: after ∧ p a = true ∧
      (∀ b ∈ before, p b = false) ∧ ∀ b ∈ after, p b = false := by
  rw [List.filter_eq_cons_iff]
  simp only [List.filter_eq_nil_iff, Bool.not_eq_true]
  constructor
  · rintro ⟨before, after, rfl, hbefore, ha, hafter⟩
    exact ⟨before, after, rfl, ha, hbefore, hafter⟩
  · rintro ⟨before, after, rfl, ha, hbefore, hafter⟩
    exact ⟨before, after, rfl, hbefore, ha, hafter⟩

theorem find_eq_some_iff {o : Option Value} :
    fs.find position names = some o ↔ fs.Holds position names o := by
  have hother : ∀ f : String × Value, names.contains f.1 = false ↔ f.1 ∉ names := fun f => by
    rw [← Bool.not_eq_true, List.contains_iff_mem]
  cases fs with
  | positional items =>
    constructor
    · intro h
      cases h
      exact .positional
    · intro h
      cases h
      rfl
  | named d =>
    unfold find
    dsimp only
    constructor
    · intro h
      split at h
      case h_1 hnone =>
        cases h
        refine .absent fun f hf => (hother f).mp ?_
        simpa using List.filter_eq_nil_iff.mp hnone f hf
      case h_2 f hone =>
        cases h
        obtain ⟨before, after, rfl, hf, hbefore, hafter⟩ := filter_eq_singleton_iff.mp hone
        exact .named (List.contains_iff_mem.mp hf) (fun f hf => (hother f).mp (hbefore f hf))
          fun f hf => (hother f).mp (hafter f hf)
      case h_3 => cases h
    · intro h
      cases h with
      | absent h =>
        have hnone : List.filter (fun f => names.contains f.1) d = [] :=
          List.filter_eq_nil_iff.mpr fun f hf => by rw [(hother f).mpr (h f hf)]; nofun
        rw [hnone]
      | @named before after _ _ name v hname hbefore hafter =>
        have hone : List.filter (fun f => names.contains f.1) (before ++ (name, v) :: after) =
            [(name, v)] :=
          filter_eq_singleton_iff.mpr ⟨before, after, rfl, List.contains_iff_mem.mpr hname,
            fun f hf => (hother f).mpr (hbefore f hf), fun f hf => (hother f).mpr (hafter f hf)⟩
        rw [hone]

/-- At most one thing stands in a field. -/
theorem Holds.unique {o o' : Option Value}
    (h : fs.Holds position names o) (h' : fs.Holds position names o') : o = o' :=
  Option.some.inj ((find_eq_some_iff.mpr h).symm.trans (find_eq_some_iff.mpr h'))

section Readers

variable {read : Value → Option α} {item : Value → α → Prop}

theorem required_eq_some_iff (hread : ∀ v a, read v = some a ↔ item v a) {a : α} :
    fs.required position names read = some a ↔ fs.Required position names item a := by
  unfold required Required
  simp only [← find_eq_some_iff, ← hread]
  cases fs.find position names with
  | none => exact iff_of_false nofun nofun
  | some o => cases o <;> simp

theorem defaulted_eq_some_iff (hread : ∀ v a, read v = some a ↔ item v a) {fallback a : α} :
    fs.defaulted position names fallback read = some a ↔
      fs.Defaulted position names fallback item a := by
  unfold defaulted
  constructor
  · intro h
    split at h
    case h_1 v hfind => exact .present (find_eq_some_iff.mp hfind) ((hread v a).mp h)
    case h_2 hfind =>
      cases h
      exact .missing (find_eq_some_iff.mp hfind)
    case h_3 => cases h
  · intro h
    cases h with
    | missing h => rw [find_eq_some_iff.mpr h]
    | present h hv => rw [find_eq_some_iff.mpr h, ← (hread _ _).mpr hv]

theorem optional_eq_some_iff (hread : ∀ v a, read v = some a ↔ item v a) {o : Option α} :
    fs.optional position names read = some o ↔ fs.Optional position names item o := by
  unfold optional
  constructor
  · intro h
    split at h
    case h_1 hfind =>
      cases h
      exact .null (find_eq_some_iff.mp hfind)
    case h_2 v hnull hfind =>
      obtain ⟨a, ha, rfl⟩ := Option.map_eq_some_iff.mp h
      exact .present (find_eq_some_iff.mp hfind) hnull ((hread v a).mp ha)
    case h_3 hfind =>
      cases h
      exact .missing (find_eq_some_iff.mp hfind)
    case h_4 => cases h
  · intro h
    cases h with
    | missing h => rw [find_eq_some_iff.mpr h]
    | null h => rw [find_eq_some_iff.mpr h]
    | @present v a h hnull hv =>
      rw [find_eq_some_iff.mpr h]
      have ha := (hread v a).mpr hv
      cases v with
      | null => exact absurd rfl hnull
      | _ => exact congrArg (Option.map some) ha

/-- Positions may not be missing. -/
theorem nullable_eq_some_iff (hread : ∀ v a, read v = some a ↔ item v a) {o : Option α} :
    fs.nullable position names read = some o ↔ fs.Optional position names item o ∧
      ∀ items, fs = .positional items → position < items.length := by
  rw [← optional_eq_some_iff hread]
  cases fs with
  | named d => exact (and_iff_left nofun).symm
  | positional items =>
    have hlength : (∀ items', positional items = .positional items' → position < items'.length) ↔
        position < items.length :=
      ⟨fun h => h items rfl, fun h _ heq => by cases heq; exact h⟩
    rw [hlength]
    unfold nullable optional find
    dsimp only
    cases hitem : items[position]? with
    | none =>
      exact iff_of_false nofun fun h => absurd h.2 (List.getElem?_eq_none_iff.mp hitem).not_gt
    | some v => exact (and_iff_left (List.getElem?_eq_some_iff.mp hitem).1).symm

end Readers

end Fields

/-- The fields of a document, or of an array that has them in their order. -/
inductive Value.HasFields : Value → Fields → Prop where
  | document (d : Document) : HasFields (.document d) (.named d)
  | array (items : List Value) : HasFields (.array items) (.positional items)

theorem Fields.ofValue?_eq_some_iff {v : Value} {fs : Fields} :
    ofValue? v = some fs ↔ v.HasFields fs := by
  constructor
  · intro h
    cases v with
    | document d =>
      cases h
      exact .document d
    | array items =>
      cases h
      exact .array items
    | _ => cases h
  · intro h
    cases h <;> rfl

/-! ## §4. Failures. -/

/-- The fields report a failed command. -/
structure CommandFailure.ReportedIn (fs : Fields) (failure : CommandFailure) : Prop where
  code : fs.Required 0 ["code"] Value.IsCode failure.code
  codeName : fs.Defaulted 1 ["codeName"] "" Value.Spells failure.codeName
  message : fs.Defaulted 2 ["errmsg"] "" Value.Spells failure.message

/-- The fields report a write that was not acknowledged as asked. -/
structure WriteConcernFailure.ReportedIn (fs : Fields) (failure : WriteConcernFailure) : Prop where
  code : fs.Required 0 ["code"] Value.IsCode failure.code
  codeName : fs.Defaulted 1 ["codeName"] "" Value.Spells failure.codeName
  message : fs.Defaulted 2 ["message", "errmsg"] "" Value.Spells failure.message
  details : fs.Optional 3 ["errInfo"] Value.Stands failure.details
  /-- In an array the details may be null, but not missing. -/
  detailed : ∀ items, fs = .positional items → 3 < items.length
  labels : fs.Defaulted 4 ["errorLabels"] [] (Value.Lists Value.Spells) failure.labels

/-- The fields report a document that was not written. -/
structure WriteFailure.ReportedIn (fs : Fields) (failure : WriteFailure) : Prop where
  code : fs.Required 0 ["code"] Value.IsCode failure.code
  codeName : fs.Optional 1 ["codeName"] Value.Spells failure.codeName
  message : fs.Defaulted 2 ["errmsg"] "" Value.Spells failure.message

/-- The value reports that the write was not acknowledged. -/
def Value.ReportsConcern (v : Value) (failure : WriteConcernFailure) : Prop :=
  ∃ fs, v.HasFields fs ∧ failure.ReportedIn fs

/-- The value reports that a document was not written. -/
def Value.ReportsWrite (v : Value) (failure : WriteFailure) : Prop :=
  ∃ fs, v.HasFields fs ∧ failure.ReportedIn fs

theorem CommandFailure.read?_eq_some_iff {fs : Fields} {failure : CommandFailure} :
    read? fs = some failure ↔ failure.ReportedIn fs := by
  unfold read?
  simp only [Option.bind_eq_bind, Option.bind_eq_some_iff, Option.pure_def,
    Fields.required_eq_some_iff fun _ _ => Value.code?_eq_some_iff,
    Fields.defaulted_eq_some_iff fun _ _ => Value.text?_eq_some_iff]
  constructor
  · rintro ⟨code, hcode, codeName, hcodeName, message, hmessage, ⟨⟩⟩
    exact ⟨hcode, hcodeName, hmessage⟩
  · rintro ⟨hcode, hcodeName, hmessage⟩
    exact ⟨_, hcode, _, hcodeName, _, hmessage, rfl⟩

theorem CommandFailure.ReportedIn.unique {fs : Fields} {failure failure' : CommandFailure}
    (h : failure.ReportedIn fs) (h' : failure'.ReportedIn fs) : failure = failure' :=
  Option.some.inj ((read?_eq_some_iff.mpr h).symm.trans (read?_eq_some_iff.mpr h'))

theorem WriteFailure.ofValue?_eq_some_iff {v : Value} {failure : WriteFailure} :
    ofValue? v = some failure ↔ v.ReportsWrite failure := by
  have hread : ∀ fs, read? fs = some failure ↔ failure.ReportedIn fs := by
    intro fs
    unfold read?
    simp only [Option.bind_eq_bind, Option.bind_eq_some_iff, Option.pure_def,
      Fields.required_eq_some_iff fun _ _ => Value.code?_eq_some_iff,
      Fields.optional_eq_some_iff fun _ _ => Value.text?_eq_some_iff,
      Fields.defaulted_eq_some_iff fun _ _ => Value.text?_eq_some_iff]
    constructor
    · rintro ⟨code, hcode, codeName, hcodeName, message, hmessage, ⟨⟩⟩
      exact ⟨hcode, hcodeName, hmessage⟩
    · rintro ⟨hcode, hcodeName, hmessage⟩
      exact ⟨_, hcode, _, hcodeName, _, hmessage, rfl⟩
  unfold ofValue? Value.ReportsWrite
  simp only [Option.bind_eq_some_iff, Fields.ofValue?_eq_some_iff, hread]

theorem WriteConcernFailure.ofValue?_eq_some_iff {v : Value} {failure : WriteConcernFailure} :
    ofValue? v = some failure ↔ v.ReportsConcern failure := by
  have hread : ∀ fs, read? fs = some failure ↔ failure.ReportedIn fs := by
    intro fs
    unfold read?
    simp only [Option.bind_eq_bind, Option.bind_eq_some_iff, Option.pure_def,
      Fields.required_eq_some_iff fun _ _ => Value.code?_eq_some_iff,
      Fields.nullable_eq_some_iff fun _ _ => Wrapper.document?_eq_some_iff,
      Fields.defaulted_eq_some_iff fun _ _ => Value.text?_eq_some_iff,
      Fields.defaulted_eq_some_iff fun _ _ => Value.texts?_eq_some_iff]
    constructor
    · rintro ⟨code, hcode, codeName, hcodeName, message, hmessage, details,
        ⟨hdetails, hdetailed⟩, labels, hlabels, ⟨⟩⟩
      exact ⟨hcode, hcodeName, hmessage, hdetails, hdetailed, hlabels⟩
    · rintro ⟨hcode, hcodeName, hmessage, hdetails, hdetailed, hlabels⟩
      exact ⟨_, hcode, _, hcodeName, _, hmessage, _, ⟨hdetails, hdetailed⟩, _, hlabels, rfl⟩
  unfold ofValue? Value.ReportsConcern
  simp only [Option.bind_eq_some_iff, Fields.ofValue?_eq_some_iff, hread]

/-! ## §5. Replies. -/

/-- The reply reports success, in its first field of that name. -/
def Document.Succeeds (reply : Document) : Prop :=
  ∃ before v after, reply = before ++ ("ok", v) :: after ∧ (∀ f ∈ before, f.1 ≠ "ok") ∧ v.Affirms

/-- The labels that the reply lists; there are none if the field is missing or null. -/
def Document.Labels (reply : Document) (labels : List String) : Prop :=
  ∃ listed, (Fields.named reply).Optional 0 ["errorLabels"] (Value.Lists Value.Spells) listed ∧
    listed.getD [] = labels

/-- The write concern failure that the reply reports, if any. -/
def Document.Concern (reply : Document) (concern : Option WriteConcernFailure) : Prop :=
  (Fields.named reply).Optional 0 ["writeConcernError"] Value.ReportsConcern concern

/-- What the reply to an insert reports. -/
structure InsertReport.ReportedIn (reply : Document) (report : InsertReport) : Prop where
  inserted : (Fields.named reply).Defaulted 0 ["n"] 0 Value.IsCount report.inserted
  writeFailures : ∃ listed,
    (Fields.named reply).Optional 0 ["writeErrors"] (Value.Lists Value.ReportsWrite) listed ∧
      listed.getD [] = report.writeFailures
  writeConcern : reply.Concern report.writeConcern
  labels : reply.Labels report.labels

namespace Document

variable {reply : Document}

theorem value?_eq_some_iff {key : String} {v : Value} : reply.value? key = some v ↔
    ∃ before after, reply = before ++ (key, v) :: after ∧ ∀ f ∈ before, f.1 ≠ key := by
  unfold value?
  rw [Option.map_eq_some_iff]
  constructor
  · rintro ⟨⟨name, v⟩, hfound, rfl⟩
    obtain ⟨hname, before, after, rfl, hbefore⟩ := List.find?_eq_some_iff_append.mp hfound
    obtain rfl : name = key := by simpa using hname
    exact ⟨before, after, rfl, fun f hf => by simpa using hbefore f hf⟩
  · rintro ⟨before, after, rfl, hbefore⟩
    refine ⟨(key, v), List.find?_eq_some_iff_append.mpr ⟨by simp, before, after, rfl, ?_⟩, rfl⟩
    intro f hf
    simpa using hbefore f hf

theorem isOk_iff : reply.isOk = true ↔ reply.Succeeds := by
  have hok : reply.isOk = true ↔ ∃ v, reply.value? "ok" = some v ∧ v.Affirms := by
    unfold isOk
    cases reply.value? "ok" with
    | none => simp
    | some v =>
      simp only [Option.some.injEq, exists_eq_left', ← Value.wholeNumber?_eq_one_iff]
      cases v <;> simp [Value.wholeNumber?]
  rw [hok]
  simp only [value?_eq_some_iff]
  constructor
  · rintro ⟨v, ⟨before, after, heq, hbefore⟩, hv⟩
    exact ⟨before, v, after, heq, hbefore, hv⟩
  · rintro ⟨before, v, after, heq, hbefore, hv⟩
    exact ⟨v, ⟨before, after, heq, hbefore⟩, hv⟩

theorem errorLabels?_eq_some_iff {labels : List String} :
    reply.errorLabels? = some labels ↔ reply.Labels labels := by
  unfold errorLabels? Labels
  simp only [Option.map_eq_some_iff,
    Fields.optional_eq_some_iff fun _ _ => Value.texts?_eq_some_iff]

/-- Which position a field has does not matter in a document. -/
theorem concern_eq_some_iff (position : Nat) {concern : Option WriteConcernFailure} :
    (Fields.named reply).optional position ["writeConcernError"] WriteConcernFailure.ofValue? =
      some concern ↔ reply.Concern concern := by
  show (Fields.named reply).optional 0 _ _ = _ ↔ _
  exact Fields.optional_eq_some_iff fun _ _ => WriteConcernFailure.ofValue?_eq_some_iff

end Document

theorem InsertReport.read?_eq_some_iff {reply : Document} {report : InsertReport} :
    read? reply = some report ↔ report.ReportedIn reply := by
  have hinserted : ∀ n, (Fields.named reply).defaulted 0 ["n"] 0 Value.natural? = some n ↔
      (Fields.named reply).Defaulted 0 ["n"] 0 Value.IsCount n := fun _ =>
    Fields.defaulted_eq_some_iff fun _ _ => Value.natural?_eq_some_iff
  have hfailures : ∀ listed, (Fields.named reply).optional 1 ["writeErrors"]
      (Value.listOf? WriteFailure.ofValue?) = some listed ↔
      (Fields.named reply).Optional 0 ["writeErrors"] (Value.Lists Value.ReportsWrite) listed := by
    intro listed
    show (Fields.named reply).optional 0 _ _ = _ ↔ _
    exact Fields.optional_eq_some_iff fun _ _ =>
      Value.listOf?_eq_some_iff fun _ _ => WriteFailure.ofValue?_eq_some_iff
  unfold read?
  simp only [Option.bind_eq_bind, Option.bind_eq_some_iff, Option.pure_def, hinserted, hfailures,
    Document.concern_eq_some_iff, Document.errorLabels?_eq_some_iff]
  constructor
  · rintro ⟨n, hn, listed, hlisted, concern, hconcern, labels, hlabels, ⟨⟩⟩
    exact ⟨hn, ⟨listed, hlisted, rfl⟩, hconcern, hlabels⟩
  · rintro ⟨hn, ⟨listed, hlisted, heq⟩, hconcern, hlabels⟩
    refine ⟨_, hn, listed, hlisted, _, hconcern, _, hlabels, ?_⟩
    rw [heq]

end ClusterClient
