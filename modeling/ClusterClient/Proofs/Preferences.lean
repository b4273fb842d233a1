/-
  ClusterClient.Proofs.Preferences — read preferences, written and read again.

  What reading accepts is described without reference to how it is read: which data are maps of
  texts, and where mode and tag sets stand in a record.  Stored documents are described in the same
  way by their own values, some of which count as texts or maps without being such.  A preference
  that is written and read again is then one whose document asks for it.

  A single tag is not always written as a map: under a key that wraps values of another kind, a
  text that denotes such a value is stored as the value.  Numbers do not come back from there.
  Identifiers, moments, symbols and decimal numbers by their bytes do if the text was the usual one,
  because these values count as maps of one text.

  Main statements: `ReadPreference.read_record_eq_ok_iff` and `ReadPreference.read_ofFields` (what
  is read), and `ReadPreference.writes_and_reads`.
-/
import ClusterClient.Selection
import Mathlib.Data.List.Forall2

namespace ClusterClient

/-! ## §1. Tag sets. -/

namespace TagSet

/-- The keys are in ascending order, and no two are equal. -/
def Sorted (set : TagSet) : Prop := List.Pairwise (fun a b => a.1 < b.1) set

theorem mem_insert {tag t : String × String} {set : TagSet} (h : t ∈ insert tag set) :
    t = tag ∨ t ∈ set := by
  induction set with
  | nil => exact .inl (List.mem_singleton.mp h)
  | cons u rest ih =>
    unfold insert at h
    split_ifs at h
    · exact (List.mem_cons.mp h).imp_right (List.mem_cons_of_mem u)
    · exact List.mem_cons.mp h
    · rcases List.mem_cons.mp h with rfl | h
      · exact .inr List.mem_cons_self
      · exact (ih h).imp_right (List.mem_cons_of_mem u)

theorem Sorted.insert {set : TagSet} (h : set.Sorted) (tag : String × String) :
    (insert tag set).Sorted := by
  induction set with
  | nil => exact List.pairwise_singleton _ tag
  | cons u rest ih =>
    obtain ⟨hfirst, hrest⟩ := List.pairwise_cons.mp h
    unfold TagSet.insert
    split_ifs with heq hlt
    · exact List.pairwise_cons.mpr ⟨fun t ht => heq ▸ hfirst t ht, hrest⟩
    · refine List.pairwise_cons.mpr ⟨fun t ht => ?_, h⟩
      rcases List.mem_cons.mp ht with rfl | ht
      · exact hlt
      · exact String.lt_trans hlt (hfirst t ht)
    · refine List.pairwise_cons.mpr ⟨fun t ht => ?_, ih hrest⟩
      rcases mem_insert ht with rfl | ht
      -- Keys that differ and are not in order are in the opposite order.
      · by_contra hnot
        exact heq (String.le_antisymm (String.not_lt.mp hnot) (String.not_lt.mp hlt))
      · exact hfirst t ht

/-- The set as it is built along the reversed list, whose first tag is put in last. -/
theorem ofList_eq_foldr (tags : List (String × String)) :
    ofList tags = tags.reverse.foldr insert [] := by
  rw [List.foldr_reverse]
  rfl

/-- Whatever the tags are, their set is in order. -/
theorem sorted_ofList (tags : List (String × String)) : (ofList tags).Sorted := by
  rw [ofList_eq_foldr]
  induction tags.reverse with
  | nil => exact List.Pairwise.nil
  | cons tag _ ih => exact ih.insert tag

theorem value?_cons (t : String × String) (rest : TagSet) (key : String) :
    value? (t :: rest) key = if t.1 = key then some t.2 else value? rest key := by
  by_cases h : t.1 = key <;> simp [value?, h]

theorem value?_insert (tag : String × String) (set : TagSet) (key : String) :
    value? (insert tag set) key = if tag.1 = key then some tag.2 else value? set key := by
  induction set with
  | nil => exact value?_cons tag [] key
  | cons u rest ih =>
    unfold insert
    split_ifs with heq hlt
    all_goals simp only [value?_cons, ih]
    all_goals grind

/-- Of tags with one key the last one counts. -/
theorem value?_ofList (tags : List (String × String)) (key : String) :
    value? (ofList tags) key = value? tags.reverse key := by
  rw [ofList_eq_foldr]
  induction tags.reverse with
  | nil => rfl
  | cons tag rest ih => rw [List.foldr_cons, value?_insert, ih, value?_cons]

theorem value?_eq_some_iff {set : TagSet} (h : List.Pairwise (fun a b => a.1 ≠ b.1) set)
    {key text : String} : set.value? key = some text ↔ (key, text) ∈ set := by
  induction set with
  | nil => simp [value?]
  | cons t rest ih =>
    obtain ⟨hfirst, hrest⟩ := List.pairwise_cons.mp h
    rw [value?_cons, List.mem_cons, ← ih hrest]
    constructor
    · split_ifs with hkey
      · rintro ⟨⟩
        exact .inl (Prod.ext hkey.symm rfl)
      · exact .inr
    · rintro (rfl | hv)
      · exact if_pos rfl
      · rw [if_neg (hfirst _ ((ih hrest).mp hv)), hv]

theorem Sorted.keys_ne {set : TagSet} (h : set.Sorted) :
    List.Pairwise (fun a b => a.1 ≠ b.1) set := by
  refine List.Pairwise.imp ?_ h
  intro a b hlt heq
  exact String.lt_irrefl b.1 (heq ▸ hlt)

/-- Searched from the end, a set has the same values. -/
theorem Sorted.value?_reverse {set : TagSet} (h : set.Sorted) (key : String) :
    value? set.reverse key = set.value? key := by
  have hreverse : List.Pairwise (fun a b => a.1 ≠ b.1) set.reverse :=
    List.pairwise_reverse.mpr (h.keys_ne.imp Ne.symm)
  ext text
  rw [value?_eq_some_iff hreverse, value?_eq_some_iff h.keys_ne, List.mem_reverse]

/-- Sets in order are equal if their values are. -/
theorem Sorted.eq_of_value? {a b : TagSet} (ha : a.Sorted) (hb : b.Sorted)
    (h : ∀ key, a.value? key = b.value? key) : a = b := by
  have hnodup : ∀ {set : TagSet}, set.Sorted → set.Nodup := fun hs =>
    hs.keys_ne.imp fun hne heq => hne (congrArg Prod.fst heq)
  have hperm : List.Perm a b := by
    refine (List.perm_ext_iff_of_nodup (hnodup ha) (hnodup hb)).mpr fun t => ?_
    rw [← value?_eq_some_iff ha.keys_ne, ← value?_eq_some_iff hb.keys_ne, h]
  exact hperm.eq_of_pairwise (fun _ _ _ _ hab hba => absurd hba (String.lt_asymm hab)) ha hb

end TagSet

/-! ## §2. Configuration. -/

theorem bind_eq_ok_iff {ε α β : Type} {x : Except ε α} {f : α → Except ε β} {b : β} :
    x >>= f = .ok b ↔ ∃ a, x = .ok a ∧ f a = .ok b := by
  cases x <;> simp [bind, Except.bind]

theorem map_eq_ok_iff {ε α β : Type} {x : Except ε α} {f : α → β} {b : β} :
    x.map f = .ok b ↔ ∃ a, x = .ok a ∧ f a = b := by
  cases x <;> simp [Except.map]

theorem mapM_eq_ok_iff {ε α β : Type} {f : α → Except ε β} {l : List α} {l' : List β} :
    l.mapM f = .ok l' ↔ List.Forall₂ (fun a b => f a = .ok b) l l' := by
  induction l generalizing l' with
  | nil =>
    rw [List.mapM_nil, List.forall₂_nil_left_iff]
    exact ⟨fun h => by cases h; rfl, fun h => by cases h; rfl⟩
  | cons a rest ih =>
    rw [List.mapM_cons, List.forall₂_cons_left_iff]
    simp only [bind_eq_ok_iff, ih]
    constructor
    · rintro ⟨b, hb, bs, hbs, ⟨⟩⟩
      exact ⟨b, bs, hb, hbs, rfl⟩
    · rintro ⟨b, bs, hb, hbs, rfl⟩
      exact ⟨b, hb, bs, hbs, rfl⟩

namespace Datum

/-- The datum is a map of texts, and this is its set of tags. -/
def Maps (d : Datum) (set : TagSet) : Prop :=
  ∃ tags : List (String × String),
    d = .record (tags.map fun t => (t.1, .text t.2)) ∧ set = TagSet.ofList tags

/-- The fields under the keys of tag sets. -/
def tagFields (fields : List (String × Datum)) : List (String × Datum) :=
  fields.filter fun f => ReadPreference.tagKeys.contains f.1

/-- The tag sets of a record.  There are none if no field has one of their keys, and at most one
    field may have one. -/
inductive Lists (fields : List (String × Datum)) : Option (List TagSet) → Prop where
  | absent (h : tagFields fields = []) : Lists fields none
  | null {key : String} (h : tagFields fields = [(key, .null)]) : Lists fields none
  | sets {key : String} {items : List Datum} {tagSets : List TagSet}
    (h : tagFields fields = [(key, .list items)]) (hmaps : List.Forall₂ Maps items tagSets) :
    Lists fields (some tagSets)

theorem string_eq_ok_iff {d : Datum} {text : String} : string d = .ok text ↔ d = .text text := by
  cases d <;> simp [string]

theorem listOf_eq_ok_iff {α : Type} {item : Datum → Except DecodeError α} {d : Datum}
    {l : List α} : listOf item d = .ok l ↔
      ∃ items, d = .list items ∧ List.Forall₂ (fun d a => item d = .ok a) items l := by
  cases d with
  | list items =>
    rw [listOf, mapM_eq_ok_iff]
    exact ⟨fun h => ⟨items, rfl, h⟩, fun ⟨_, heq, h⟩ => by cases heq; exact h⟩
  | _ => exact ⟨nofun, nofun⟩

end Datum

namespace TagSet

/-- A field of a record as a tag. -/
def readTag (field : String × Datum) : Except DecodeError (String × String) := do
  let text ← Datum.string field.2
  pure (field.1, text)

theorem readTag_eq_ok_iff {field : String × Datum} {tag : String × String} :
    readTag field = .ok tag ↔ field = (tag.1, .text tag.2) := by
  obtain ⟨key, d⟩ := field
  obtain ⟨key', text⟩ := tag
  rw [readTag, bind_eq_ok_iff]
  simp [Datum.string_eq_ok_iff, pure, Except.pure, and_comm]

/-- Tag sets are read from maps of texts. -/
theorem read_eq_ok_iff {d : Datum} {set : TagSet} : read d = .ok set ↔ d.Maps set := by
  cases d with
  | record fields =>
    have htags : ∀ tags : List (String × String), fields.mapM readTag = .ok tags ↔
        fields = tags.map fun t => (t.1, .text t.2) := by
      intro tags
      rw [mapM_eq_ok_iff]
      simp only [readTag_eq_ok_iff]
      rw [← List.forall₂_map_right_iff (R := Eq), List.forall₂_eq_eq_eq]
    unfold read
    dsimp only
    rw [bind_eq_ok_iff]
    constructor
    · rintro ⟨tags, hread, ⟨⟩⟩
      exact ⟨tags, congrArg Datum.record ((htags tags).mp hread), rfl⟩
    · rintro ⟨tags, heq, rfl⟩
      exact ⟨tags, (htags tags).mpr (Datum.record.inj heq), rfl⟩
  | _ => exact ⟨nofun, nofun⟩

end TagSet

/-- The name of a mode in small letters. -/
def ReadMode.smallName : ReadMode → String
  | .secondary => "secondary"
  | .primaryPreferred => "primarypreferred"
  | .secondaryPreferred => "secondarypreferred"
  | .nearest => "nearest"

theorem ReadMode.toLower_name (m : ReadMode) : m.name.toLower = m.smallName := by
  cases m <;> decide +kernel

namespace ReadPreference

theorem toLower_primary : "primary".toLower = "primary" := by decide +kernel

/-- Tag sets that narrow nothing: there are none, or the only one is empty. -/
def Blank (tagSets : Option (List TagSet)) : Prop :=
  tagSets = none ∨ tagSets = some [] ∨ tagSets = some [[]]

theorem saysNothing_iff {tagSets : Option (List TagSet)} :
    saysNothing tagSets = true ↔ Blank tagSets := by
  unfold saysNothing Blank
  split <;> simp_all

/-- The preference that a mode, in whatever case, and tag sets stand for. -/
inductive Stands (mode : String) (tagSets : Option (List TagSet)) : ReadPreference → Prop where
  | primary (hmode : mode.toLower = "primary".toLower) (hblank : Blank tagSets) :
    Stands mode tagSets .primary
  | flexible {m : ReadMode} (hmode : mode.toLower = m.name.toLower) :
    Stands mode tagSets (.flexible m (some ⟨tagSets⟩))

/-- What stands under the only key of tag sets is read as a list unless it is null. -/
theorem readTagSets_single {fields : List (String × Datum)} {key : String} {d : Datum}
    (h : Datum.tagFields fields = [(key, d)]) (hnull : d ≠ .null) :
    readTagSets fields = (Datum.listOf TagSet.read d).map some := by
  unfold Datum.tagFields at h
  unfold readTagSets
  rw [h]
  cases d with
  | null => exact absurd rfl hnull
  | _ => rfl

/-- Tag sets are read from the records that list them. -/
theorem readTagSets_eq_ok_iff {fields : List (String × Datum)} {tagSets : Option (List TagSet)} :
    readTagSets fields = .ok tagSets ↔ Datum.Lists fields tagSets := by
  constructor
  · intro h
    rcases hfound : Datum.tagFields fields with _ | ⟨⟨key, d⟩, _ | ⟨f, rest⟩⟩
    · rw [readTagSets, ← Datum.tagFields, hfound] at h
      cases h
      exact .absent hfound
    · by_cases hnull : d = .null
      · rw [readTagSets, ← Datum.tagFields, hfound, hnull] at h
        cases h
        exact .null (hnull ▸ hfound)
      · rw [readTagSets_single hfound hnull] at h
        obtain ⟨sets, hsets, rfl⟩ := map_eq_ok_iff.mp h
        obtain ⟨items, rfl, hitems⟩ := Datum.listOf_eq_ok_iff.mp hsets
        exact .sets hfound (hitems.imp fun _ _ => TagSet.read_eq_ok_iff.mp)
    · rw [readTagSets, ← Datum.tagFields, hfound] at h
      cases d <;> cases h
  · intro h
    cases h with
    | absent h =>
      rw [readTagSets, ← Datum.tagFields, h]
    | null h =>
      rw [readTagSets, ← Datum.tagFields, h]
    | sets h hmaps =>
      rw [readTagSets_single h nofun]
      exact map_eq_ok_iff.mpr ⟨_, Datum.listOf_eq_ok_iff.mpr
        ⟨_, rfl, hmaps.imp fun _ _ => TagSet.read_eq_ok_iff.mpr⟩, rfl⟩

/-- A preference is read from the records that have a mode and tag sets for it. -/
theorem read_record_eq_ok_iff {fields : List (String × Datum)} {rp : ReadPreference} :
    read (.record fields) = .ok rp ↔
      ∃ mode tagSets, Datum.lookup fields "mode" = some (.text mode) ∧
        Datum.Lists fields tagSets ∧ Stands mode tagSets rp := by
  simp only [← readTagSets_eq_ok_iff]
  constructor
  · intro h
    unfold read at h
    dsimp only at h
    split at h
    next d hfound =>
      obtain ⟨mode, hmode, hrest⟩ := bind_eq_ok_iff.mp h
      obtain ⟨tagSets, hsets, hchosen⟩ := bind_eq_ok_iff.mp hrest
      rw [Datum.string_eq_ok_iff.mp hmode] at hfound
      refine ⟨mode, tagSets, hfound, hsets, ?_⟩
      -- One case for each name of a mode, and one for all other texts.
      split at hchosen
      next heq =>
        split at hchosen
        next hblank =>
          cases hchosen
          exact .primary (heq.trans toLower_primary.symm) (saysNothing_iff.mp hblank)
        next => cases hchosen
      next heq =>
        cases hchosen
        exact .flexible (heq.trans (ReadMode.toLower_name .secondary).symm)
      next heq =>
        cases hchosen
        exact .flexible (heq.trans (ReadMode.toLower_name .primaryPreferred).symm)
      next heq =>
        cases hchosen
        exact .flexible (heq.trans (ReadMode.toLower_name .secondaryPreferred).symm)
      next heq =>
        cases hchosen
        exact .flexible (heq.trans (ReadMode.toLower_name .nearest).symm)
      next => cases hchosen
    next => cases h
  · rintro ⟨mode, tagSets, hmode, hsets, h⟩
    unfold read
    dsimp only
    rw [hmode, hsets]
    simp only [Datum.string, bind, Except.bind]
    cases h with
    | primary hname hblank =>
      rw [hname, toLower_primary, saysNothing_iff.mpr hblank]
      rfl
    | @flexible m hname =>
      rw [hname, m.toLower_name]
      cases m <;> rfl

end ReadPreference

/-! ## §3. Stored documents. -/

/-- The text that a stored value spells: a text does, and so do the bytes of its UTF-8 form. -/
def Value.spelling? : Value → Option String
  | .text s => some s
  | .binary bytes => Text.ofUtf8? bytes
  | _ => none

/-- Values that are written as one text under a key for their kind. -/
inductive Value.Wraps : Value → String → String → Prop where
  | identifier (bytes : List UInt8) : Wraps (.objectId bytes) "$oid" (Text.hexBytes bytes)
  /-- Of moments only those that have a date and a time. -/
  | moment {millis : Int64} {text : String} (h : Moment.text? millis.toInt = some text) :
    Wraps (.dateTime millis) "$date" text
  | symbol (text : String) : Wraps (.document [("$symbol", .text text)]) "$symbol" text
  /-- A decimal number by its bytes, which a text of sixteen bytes may give. -/
  | decimal (text : String) :
    Wraps (.document [("$numberDecimalBytes", .text text)]) "$numberDecimalBytes" text

/-- The stored value is taken for a map of texts, and this is its set of tags. -/
inductive Value.Maps : Value → TagSet → Prop where
  /-- Documents whose values all spell texts.  Of fields with one key the last one counts. -/
  | document {fields : List (String × Value)} {set : TagSet}
    (hspelled : ∀ f ∈ fields, ∃ text, f.2.spelling? = some text) (hsorted : set.Sorted)
    (hvalues : ∀ key, set.value? key =
      (Document.value? fields.reverse key).bind Value.spelling?) : Maps (.document fields) set
  | wrapped {v : Value} {key text : String} (h : v.Wraps key text) : Maps v [(key, text)]

namespace Document

/-- The fields under the keys of tag sets. -/
def tagFields (d : Document) : List (String × Value) :=
  List.filter (fun f => ReadPreference.tagKeys.contains f.1) d

/-- The tag sets of a stored document. -/
inductive Lists (d : Document) : Option (List TagSet) → Prop where
  | absent (h : d.tagFields = []) : Lists d none
  | null {key : String} (h : d.tagFields = [(key, .null)]) : Lists d none
  | sets {key : String} {items : List Value} {tagSets : List TagSet}
    (h : d.tagFields = [(key, .array items)]) (hmaps : List.Forall₂ Value.Maps items tagSets) :
    Lists d (some tagSets)

end Document

namespace Datum

theorem ofFields_eq_map (fields : List (String × Value)) :
    ofFields fields = fields.map fun f => (f.1, ofValue f.2) := by
  induction fields with
  | nil => rfl
  | cons f rest ih => rw [ofFields, ofField, ih, List.map_cons]

theorem ofItems_eq_map (items : List Value) : ofItems items = items.map ofValue := by
  induction items with
  | nil => rfl
  | cons v rest ih => rw [ofItems, ih, List.map_cons]

theorem lookup_ofFields (d : Document) (key : String) :
    lookup (ofFields d) key = (d.value? key).map ofValue := by
  rw [ofFields_eq_map, lookup, List.find?_map, Document.value?, Option.map_map, Option.map_map]
  rfl

theorem tagFields_ofFields (d : Document) :
    tagFields (ofFields d) = d.tagFields.map fun f => (f.1, ofValue f.2) := by
  rw [ofFields_eq_map, tagFields, List.filter_map]
  rfl

theorem ofValue_eq_null {v : Value} : ofValue v = .null ↔ v = .null := by
  cases v with
  | binary bytes =>
    rw [ofValue]
    cases Text.ofUtf8? bytes <;> simp
  | _ => simp [ofValue]

theorem ofValue_eq_text {v : Value} {text : String} :
    ofValue v = .text text ↔ v.spelling? = some text := by
  cases v with
  | text s => simp [ofValue, Value.spelling?]
  | binary bytes =>
    rw [ofValue, Value.spelling?]
    cases Text.ofUtf8? bytes <;> simp
  | _ => simp [ofValue, Value.spelling?]

theorem ofValue_eq_list {v : Value} {ds : List Datum} :
    ofValue v = .list ds ↔ ∃ items, v = .array items ∧ ds = items.map ofValue := by
  cases v with
  | array items =>
    rw [ofValue, ofItems_eq_map]
    exact ⟨fun h => ⟨items, rfl, by cases h; rfl⟩, fun ⟨_, hv, hds⟩ => by cases hv; rw [hds]⟩
  | binary bytes =>
    rw [ofValue]
    cases Text.ofUtf8? bytes <;> simp
  | _ => simp [ofValue]

/-- A document is a record of texts if its fields spell them. -/
theorem ofFields_eq_texts {fields : List (String × Value)} {tags : List (String × String)} :
    (ofFields fields = tags.map fun t => (t.1, .text t.2)) ↔
      List.Forall₂ (fun f t => f.1 = t.1 ∧ f.2.spelling? = some t.2) fields tags := by
  rw [ofFields_eq_map, ← List.forall₂_eq_eq_eq, List.forall₂_map_left_iff,
    List.forall₂_map_right_iff]
  simp only [Prod.mk.injEq, ofValue_eq_text]

end Datum

/-- Tags have the values that the texts of their fields have. -/
theorem TagSet.value?_of_spelling {fields : List (String × Value)} {tags : TagSet}
    (h : List.Forall₂ (fun f t => f.1 = t.1 ∧ f.2.spelling? = some t.2) fields tags)
    (key : String) : tags.value? key = (Document.value? fields key).bind Value.spelling? := by
  induction h with
  | nil => rfl
  | @cons f t fields tags hft _ ih =>
    obtain ⟨hkey, htext⟩ := hft
    rw [value?_cons, ih, ← hkey]
    by_cases h : f.1 = key <;> simp [Document.value?, h, htext]

/-- A stored document is the map of the tags that its fields spell. -/
theorem Value.maps_document_iff {fields : List (String × Value)} {set : TagSet} :
    (Value.document fields).Maps set ↔ (Datum.record (Datum.ofFields fields)).Maps set := by
  have hvalues : ∀ {tags : TagSet}, Datum.ofFields fields = tags.map (fun t => (t.1, .text t.2)) →
      ∀ key, (TagSet.ofList tags).value? key =
        (Document.value? fields.reverse key).bind Value.spelling? := by
    intro tags htags key
    have hspelled := List.rel_reverse (Datum.ofFields_eq_texts.mp htags)
    rw [TagSet.value?_ofList, TagSet.value?_of_spelling hspelled]
  constructor
  · intro h
    cases h with
    | document hspelled hsorted hset =>
      -- The tags are what the fields spell, in the order of the fields; two sets in order with the
      -- same values are the same.
      have htags := Datum.ofFields_eq_texts.mpr <|
        List.forall₂_map_right_iff (f := fun f => (f.1, f.2.spelling?.getD "")) |>.mpr <|
        List.forall₂_same.mpr fun f hf => by
          obtain ⟨text, htext⟩ := hspelled f hf
          exact ⟨rfl, by rw [htext, Option.getD_some]⟩
      exact ⟨_, congrArg Datum.record htags, hsorted.eq_of_value? (TagSet.sorted_ofList _)
        fun key => by rw [hset, hvalues htags]⟩
    | wrapped h => cases h <;> exact ⟨[_], rfl, rfl⟩
  · rintro ⟨tags, heq, rfl⟩
    have htags := Datum.record.inj heq
    -- Each field has a tag beside it that it spells.
    have hspelled : ∀ f ∈ fields, ∃ text, f.2.spelling? = some text :=
      ((List.forall₂_and_left fields tags).mp
        ((Datum.ofFields_eq_texts.mp htags).imp fun f t ht => ⟨⟨t.2, ht.2⟩, ht⟩)).1
    exact .document hspelled (TagSet.sorted_ofList tags) (hvalues htags)

/-- The stored values that are maps of texts are those that are read as such. -/
theorem Value.maps_iff {v : Value} {set : TagSet} : v.Maps set ↔ (Datum.ofValue v).Maps set := by
  cases v with
  | document fields =>
    rw [Datum.ofValue]
    exact maps_document_iff
  | objectId bytes =>
    rw [Datum.ofValue]
    constructor
    · rintro (_ | h)
      cases h
      exact ⟨[_], rfl, rfl⟩
    · rintro ⟨tags, heq, rfl⟩
      obtain ⟨⟨key, text⟩, rfl, ht⟩ :=
        List.map_eq_singleton_iff.mp (Datum.record.inj heq).symm
      cases ht
      exact .wrapped (.identifier bytes)
  | dateTime millis =>
    rw [Datum.ofValue]
    constructor
    · rintro (_ | h)
      cases h with
      | moment htext =>
        rw [htext]
        exact ⟨[_], rfl, rfl⟩
    · rintro ⟨tags, heq, rfl⟩
      obtain ⟨⟨key, text⟩, rfl, ht⟩ :=
        List.map_eq_singleton_iff.mp (Datum.record.inj heq).symm
      cases htext : Moment.text? millis.toInt with
      | some text =>
        rw [htext] at ht
        cases ht
        exact .wrapped (.moment htext)
      | none =>
        rw [htext] at ht
        cases ht
  | binary bytes =>
    rw [Datum.ofValue]
    refine ⟨nofun, fun ⟨_, heq, _⟩ => ?_⟩
    split at heq <;> cases heq
  | _ => exact ⟨nofun, fun ⟨_, heq, _⟩ => by cases heq⟩

namespace Document

/-- A stored document has the tag sets that are read from it. -/
theorem lists_iff {d : Document} {tagSets : Option (List TagSet)} :
    d.Lists tagSets ↔ Datum.Lists (Datum.ofFields d) tagSets := by
  have hfound := Datum.tagFields_ofFields d
  constructor
  · intro h
    cases h with
    | absent h =>
      rw [h] at hfound
      exact .absent hfound
    | null h =>
      rw [h] at hfound
      exact .null hfound
    | sets h hmaps =>
      rw [h, List.map_singleton, Datum.ofValue, Datum.ofItems_eq_map] at hfound
      exact .sets hfound
        (List.forall₂_map_left_iff.mpr (hmaps.imp fun _ _ => Value.maps_iff.mp))
  · intro h
    cases h with
    | absent h => exact .absent (List.map_eq_nil_iff.mp (hfound.symm.trans h))
    | null h =>
      obtain ⟨⟨key, v⟩, hfields, hv⟩ := List.map_eq_singleton_iff.mp (hfound.symm.trans h)
      obtain rfl := Datum.ofValue_eq_null.mp (Prod.mk.inj hv).2
      exact .null hfields
    | sets h hmaps =>
      obtain ⟨⟨key, v⟩, hfields, hv⟩ := List.map_eq_singleton_iff.mp (hfound.symm.trans h)
      obtain ⟨items, rfl, rfl⟩ := Datum.ofValue_eq_list.mp (Prod.mk.inj hv).2
      exact .sets hfields
        ((List.forall₂_map_left_iff.mp hmaps).imp fun _ _ => Value.maps_iff.mpr)

/-- The document asks for the preference: it has a mode and tag sets that stand for it. -/
def Prefers (d : Document) (rp : ReadPreference) : Prop :=
  ∃ v mode tagSets, d.value? "mode" = some v ∧ v.spelling? = some mode ∧ d.Lists tagSets ∧
    ReadPreference.Stands mode tagSets rp

end Document

namespace ReadPreference

/-- A preference is read from the documents that ask for it. -/
theorem read_ofFields {d : Document} {rp : ReadPreference} :
    read (.record (Datum.ofFields d)) = .ok rp ↔ d.Prefers rp := by
  rw [read_record_eq_ok_iff, Datum.lookup_ofFields]
  simp only [← Document.lists_iff, Option.map_eq_some_iff, Datum.ofValue_eq_text]
  constructor
  · rintro ⟨mode, tagSets, ⟨v, hv, hmode⟩, h⟩
    exact ⟨v, mode, tagSets, hv, hmode, h⟩
  · rintro ⟨v, mode, tagSets, hv, hmode, h⟩
    exact ⟨mode, tagSets, ⟨v, hv, hmode⟩, h⟩

end ReadPreference

/-! ## §4. Written and read again. -/

namespace TagSet

/-- The set is written as a map, or as a value that is read as the same map. -/
def Plain (set : TagSet) : Prop :=
  ∀ key text v, set = [(key, text)] → Wrapper.ofText? key text = some v → v.Wraps key text

theorem Sorted.ofList_eq {set : TagSet} (h : set.Sorted) : ofList set = set :=
  (sorted_ofList set).eq_of_value? h fun key => by rw [value?_ofList, h.value?_reverse]

theorem Sorted.maps_toValue {set : TagSet} (h : set.Sorted) (hplain : set.Plain) :
    set.toValue.Maps set := by
  have hmap : (Value.document (set.map fun t => (t.1, .text t.2))).Maps set := by
    refine Value.maps_document_iff.mpr ⟨set, ?_, h.ofList_eq.symm⟩
    rw [Datum.ofFields_eq_map, List.map_map]
    rfl
  unfold toValue
  split
  next key text =>
    -- Only a single tag can be stored as a value of another kind.
    cases hv : Wrapper.ofText? key text with
    | none => exact hmap
    | some v => exact .wrapped (hplain key text v rfl hv)
  next => exact hmap

end TagSet

namespace ReadPreference

/-- Every tag set is in order. -/
def Sorted (rp : ReadPreference) : Prop :=
  ∀ sets, rp.tagSets? = some sets → ∀ set ∈ sets, set.Sorted

/-- Every tag set comes back. -/
def Plain (rp : ReadPreference) : Prop :=
  ∀ sets, rp.tagSets? = some sets → ∀ set ∈ sets, set.Plain

/-- The preference with options, if it can have any. -/
def settled : ReadPreference → ReadPreference
  | .primary => .primary
  | .flexible mode options => .flexible mode (some ⟨options.bind (·.tagSets)⟩)

@[simp] theorem modeName_settled (rp : ReadPreference) : rp.settled.modeName = rp.modeName := by
  cases rp <;> rfl

@[simp] theorem tagSets?_settled (rp : ReadPreference) : rp.settled.tagSets? = rp.tagSets? := by
  cases rp <;> rfl

theorem stands_settled (rp : ReadPreference) : Stands rp.modeName rp.tagSets? rp.settled := by
  cases rp with
  | primary => exact .primary rfl (.inl rfl)
  | flexible mode options => exact .flexible rfl

theorem lists_toDocument {rp : ReadPreference} (hsorted : rp.Sorted) (hplain : rp.Plain) :
    rp.toDocument.Lists rp.tagSets? := by
  unfold toDocument
  cases hsets : rp.tagSets? with
  | none => exact .absent rfl
  | some sets =>
    refine .sets rfl (List.forall₂_map_left_iff.mpr (List.forall₂_same.mpr fun set hset => ?_))
    exact (hsorted sets hsets set hset).maps_toValue (hplain sets hsets set hset)

/-- The document of a preference asks for it. -/
theorem prefers_toDocument {rp : ReadPreference} (hsorted : rp.Sorted) (hplain : rp.Plain) :
    rp.toDocument.Prefers rp.settled :=
  ⟨.text rp.modeName, rp.modeName, rp.tagSets?, rfl, rfl, lists_toDocument hsorted hplain,
    stands_settled rp⟩

end ReadPreference

namespace ClusterDescription

theorem suitable_settled (c : ClusterDescription) (rp : ReadPreference) :
    c.suitable (.readPreference rp.settled) = c.suitable (.readPreference rp) := by
  cases rp with
  | primary => rfl
  | flexible mode options => cases mode <;> rfl

theorem choose?_settled (c : ClusterDescription) (load : Address → Option Nat)
    (rp : ReadPreference) :
    c.choose? load (.readPreference rp.settled) = c.choose? load (.readPreference rp) := by
  unfold choose? inWindow
  rw [suitable_settled]

end ClusterDescription

namespace ReadPreference

theorem sorted_of_lists {fields : List (String × Datum)} {sets : List TagSet}
    (h : Datum.Lists fields (some sets)) : ∀ set ∈ sets, set.Sorted := by
  cases h with
  | sets hfound hmaps =>
    clear hfound
    induction hmaps with
    | nil => exact List.forall_mem_nil _
    | cons hmap _ ih =>
      obtain ⟨tags, -, rfl⟩ := hmap
      exact List.forall_mem_cons.mpr ⟨TagSet.sorted_ofList tags, ih⟩

theorem eq_record_of_read {d : Datum} {rp : ReadPreference} (h : read d = .ok rp) :
    ∃ fields, d = .record fields := by
  cases d with
  | record fields => exact ⟨fields, rfl⟩
  | _ => cases h

/-- What was read has options if it can have any, and its tag sets are in order. -/
theorem settled_of_read {d : Datum} {rp : ReadPreference} (h : read d = .ok rp) :
    rp.settled = rp ∧ rp.Sorted := by
  obtain ⟨fields, rfl⟩ := eq_record_of_read h
  obtain ⟨mode, tagSets, -, hlists, hstands⟩ := read_record_eq_ok_iff.mp h
  cases hstands with
  | primary => exact ⟨rfl, nofun⟩
  | flexible =>
    refine ⟨rfl, fun sets hsets => ?_⟩
    obtain rfl : tagSets = some sets := hsets
    exact sorted_of_lists hlists

/-- The names of the modes. -/
def modeNames : List String :=
  ["primary", "secondary", "primaryPreferred", "secondaryPreferred", "nearest"]

/-- The mode is one of the five in any case, and the tag sets say nothing if it is the primary. -/
def Acceptable (mode : String) (tagSets : Option (List TagSet)) : Prop :=
  ∃ name ∈ modeNames, mode.toLower = name.toLower ∧ (name = "primary" → Blank tagSets)

theorem exists_stands_iff {mode : String} {tagSets : Option (List TagSet)} :
    (∃ rp, Stands mode tagSets rp) ↔ Acceptable mode tagSets := by
  constructor
  · rintro ⟨rp, h⟩
    cases h with
    | primary hmode hblank => exact ⟨"primary", by simp [modeNames], hmode, fun _ => hblank⟩
    | @flexible m hmode =>
      exact ⟨m.name, by cases m <;> simp [modeNames, ReadMode.name], hmode,
        fun h => by cases m <;> simp [ReadMode.name] at h⟩
  · rintro ⟨name, hname, hmode, hblank⟩
    simp only [modeNames, List.mem_cons, List.not_mem_nil, or_false] at hname
    rcases hname with rfl | rfl | rfl | rfl | rfl
    · exact ⟨_, .primary hmode (hblank rfl)⟩
    · exact ⟨_, .flexible (m := .secondary) hmode⟩
    · exact ⟨_, .flexible (m := .primaryPreferred) hmode⟩
    · exact ⟨_, .flexible (m := .secondaryPreferred) hmode⟩
    · exact ⟨_, .flexible (m := .nearest) hmode⟩

/-- A preference that is written and read again has its mode and its tag sets and selects the same
    servers; one that was read is the same afterwards.  It takes tag sets that are written as maps,
    or as values that are read as the same maps.

    A record is read exactly if its mode is one of the five in any case, its tag sets are missing,
    null or maps of texts under one of their keys, and they say nothing beside the primary.  In a
    stored document, bytes do for texts, and identifiers and moments for maps of one text. -/
theorem writes_and_reads :
    (∀ rp : ReadPreference, rp.Sorted → rp.Plain →
      read (.record (Datum.ofFields rp.toDocument)) = .ok rp.settled ∧
      rp.settled.modeName = rp.modeName ∧ rp.settled.tagSets? = rp.tagSets? ∧
      ∀ (c : ClusterDescription) (load : Address → Option Nat),
        c.suitable (.readPreference rp.settled) = c.suitable (.readPreference rp) ∧
        c.choose? load (.readPreference rp.settled) = c.choose? load (.readPreference rp)) ∧
    (∀ (d : Datum) (rp : ReadPreference), read d = .ok rp → rp.Plain →
      read (.record (Datum.ofFields rp.toDocument)) = .ok rp) ∧
    (∀ d : Datum, (∃ rp, read d = .ok rp) ↔
      ∃ fields mode tagSets, d = .record fields ∧
        Datum.lookup fields "mode" = some (.text mode) ∧ Datum.Lists fields tagSets ∧
        Acceptable mode tagSets) ∧
    ∀ d : Document, (∃ rp, read (.record (Datum.ofFields d)) = .ok rp) ↔
      ∃ v mode tagSets, d.value? "mode" = some v ∧ v.spelling? = some mode ∧
        d.Lists tagSets ∧ Acceptable mode tagSets := by
  have hwritten : ∀ rp : ReadPreference, rp.Sorted → rp.Plain →
      read (.record (Datum.ofFields rp.toDocument)) = .ok rp.settled :=
    fun rp hsorted hplain => read_ofFields.mpr (prefers_toDocument hsorted hplain)
  refine ⟨fun rp hsorted hplain => ?_, fun d rp h hplain => ?_, fun d => ?_, fun d => ?_⟩
  · exact ⟨hwritten rp hsorted hplain, modeName_settled rp, tagSets?_settled rp,
      fun c load => ⟨c.suitable_settled rp, c.choose?_settled load rp⟩⟩
  · obtain ⟨hsettled, hsorted⟩ := settled_of_read h
    rw [hwritten rp hsorted hplain, hsettled]
  · simp only [← exists_stands_iff]
    constructor
    · rintro ⟨rp, h⟩
      obtain ⟨fields, rfl⟩ := eq_record_of_read h
      obtain ⟨mode, tagSets, hmode, hlists, hstands⟩ := read_record_eq_ok_iff.mp h
      exact ⟨fields, mode, tagSets, rfl, hmode, hlists, rp, hstands⟩
    · rintro ⟨fields, mode, tagSets, rfl, hmode, hlists, rp, hstands⟩
      exact ⟨rp, read_record_eq_ok_iff.mpr ⟨mode, tagSets, hmode, hlists, hstands⟩⟩
  · simp only [← exists_stands_iff, read_ofFields]
    constructor
    · rintro ⟨rp, v, mode, tagSets, hv, hmode, hlists, hstands⟩
      exact ⟨v, mode, tagSets, hv, hmode, hlists, rp, hstands⟩
    · rintro ⟨v, mode, tagSets, hv, hmode, hlists, rp, hstands⟩
      exact ⟨rp, v, mode, tagSets, hv, hmode, hlists, hstands⟩

/-- Members in the east, else one with an identifier for a tag, else any. -/
def eastern : ReadPreference := .flexible .nearest (some ⟨some
  [[("dc", "east"), ("rack", "1")], [("$oid", "507f1f77bcf86cd799439011")], []]⟩)

theorem writes_and_reads_eastern :
    eastern.Sorted ∧ eastern.Plain ∧
      read (.record (Datum.ofFields eastern.toDocument)) = .ok eastern.settled ∧
    read (.record [("mode", .text "NEAREST"), ("tagSets", .list
      [.record [("rack", .text "1"), ("dc", .text "east")],
        .record [("$oid", .text "507f1f77bcf86cd799439011")], .record []])]) = .ok eastern ∧
      read (.record (Datum.ofFields eastern.toDocument)) = .ok eastern := by
  have hsorted : eastern.Sorted := by
    rintro sets ⟨⟩ set hset
    simp only [List.mem_cons, List.not_mem_nil, or_false] at hset
    rcases hset with rfl | rfl | rfl
    all_goals
      unfold TagSet.Sorted
      decide +kernel
  have hidentifier : Wrapper.ofText? "$oid" "507f1f77bcf86cd799439011" = some (.objectId
      [0x50, 0x7f, 0x1f, 0x77, 0xbc, 0xf8, 0x6c, 0xd7, 0x99, 0x43, 0x90, 0x11]) := rfl
  have hplain : eastern.Plain := by
    rintro sets ⟨⟩ set hset key text v rfl hv
    simp only [List.mem_cons, List.not_mem_nil, or_false] at hset
    rcases hset with hset | hset | hset <;> cases hset
    rw [hidentifier] at hv
    cases hv
    exact .identifier _
  have hread : read (.record [("mode", .text "NEAREST"), ("tagSets", .list
      [.record [("rack", .text "1"), ("dc", .text "east")],
        .record [("$oid", .text "507f1f77bcf86cd799439011")], .record []])]) = .ok eastern := by
    decide +kernel
  exact ⟨hsorted, hplain, (writes_and_reads.1 eastern hsorted hplain).1, hread,
    writes_and_reads.2.1 _ eastern hread hplain⟩

/-- Secondaries with a tag that is a number in its wrapper. -/
def numbered : ReadPreference := .flexible .secondary (some ⟨some [[("$numberLong", "5")]]⟩)

/-- A tag can be lost, even one that was read: it is stored as a number and not a map.  Modes need
    not be stored as texts, nor tag sets as documents. -/
theorem number_tag_is_lost :
    read (.record [("mode", .text "secondary"),
      ("tags", .list [.record [("$numberLong", .text "5")]])]) = .ok numbered ∧
    read (.record (Datum.ofFields numbered.toDocument)) = .error .shape ∧
    read (.record (Datum.ofFields
      [("mode", .binary [0x73, 0x65, 0x63, 0x6f, 0x6e, 0x64, 0x61, 0x72, 0x79])])) =
        .ok (.flexible .secondary (some ⟨none⟩)) ∧
    read (.record (Datum.ofFields
      [("mode", .text "nearest"),
        ("tags", .array [.objectId (List.replicate 12 0), .dateTime 0])])) =
        .ok (.flexible .nearest (some ⟨some [[("$oid", "000000000000000000000000")],
          [("$date", "1970-01-01T00:00:00Z")]]⟩)) := by
  decide +kernel

end ReadPreference

end ClusterClient
