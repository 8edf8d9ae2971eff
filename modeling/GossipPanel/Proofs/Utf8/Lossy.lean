import GossipPanel.Proofs.Utf8.Characters

/-!
# Texts of arbitrary bytes

* `LossyDecoding` says what the lossy decoding of a sequence of bytes is, in terms of the encodings
  of characters only; `decodeLossy` computes it (`lossyDecoding_iff`).
* Decoding resumes: `xs ++ ys` is decoded as `xs`, and then `ys` behind the unfinished character
  that `xs` ends with (`pieces_append`).
* The encoding of a text is decoded to that text (`pieces_encode`).
* A text gets longer when an unfinished character is decoded on its own although the next byte
  continues it (`length_decodeLossy_le_of_fits`).
-/

namespace GossipPanel.Text.Utf8

variable {b y : UInt8} {bs rest bad t q xs ys : List UInt8} {ch : Char} {cs : List Char}

/-! ## The first piece -/

@[simp] theorem pieces_nil : pieces [] = ([], []) := by
  rw [pieces]

theorem pieces_of_char (h : decodeFirst b bs = .char ch rest) :
    pieces (b :: bs) = (some ch :: (pieces rest).1, (pieces rest).2) := by
  rw [pieces]
  split <;> simp_all

theorem pieces_of_invalid (h : decodeFirst b bs = .invalid rest) :
    pieces (b :: bs) = (none :: (pieces rest).1, (pieces rest).2) := by
  rw [pieces]
  split <;> simp_all

theorem pieces_of_unfinished (h : Unfinished t) : pieces t = ([], t) := by
  cases t with
  | nil => exact absurd rfl h.ne_nil
  | cons b bs =>
    have hfirst := decodeFirst_eq_unfinished_iff.2 h
    rw [pieces]
    split <;> simp_all

theorem pieces_encodeChar (ch : Char) (rest : List UInt8) :
    pieces (String.utf8EncodeChar ch ++ rest) = (some ch :: (pieces rest).1, (pieces rest).2) := by
  cases hcode : String.utf8EncodeChar ch with
  | nil => exact absurd hcode String.utf8EncodeChar_ne_nil
  | cons b more => exact pieces_of_char (decodeFirst_eq_char_iff.2 (by rw [hcode]; rfl))

theorem pieces_broken (h : Unfinished t) (hy : fits t y = false) :
    pieces (t ++ y :: q) = (none :: (pieces (y :: q)).1, (pieces (y :: q)).2) := by
  cases t with
  | nil => exact absurd rfl h.ne_nil
  | cons b more => exact pieces_of_invalid (decodeFirst_eq_iff.2 (.broken more q h hy))

theorem pieces_stray (h : sequenceLength b = 0) :
    pieces (b :: bs) = (none :: (pieces bs).1, (pieces bs).2) :=
  pieces_of_invalid (decodeFirst_eq_iff.2 (.stray h))

/-- What can be found at the start of a sequence of bytes, with the sequence as a whole. -/
theorem pieces_cases {motive : List UInt8 → Prop} (nil : motive [])
    (char : ∀ ch rest, motive rest → motive (String.utf8EncodeChar ch ++ rest))
    (stray : ∀ b rest, sequenceLength b = 0 → motive rest → motive (b :: rest))
    (broken : ∀ t y rest, Unfinished t → fits t y = false → motive (y :: rest) →
      motive (t ++ y :: rest))
    (unfinished : ∀ t, Unfinished t → motive t) (bs : List UInt8) : motive bs := by
  induction bs using pieces.induct with
  | case1 => exact nil
  | case2 b bs ch rest h hlt ps tail hrest ih =>
    rw [decodeFirst_eq_char_iff.1 h]
    exact char ch rest ih
  | case3 b bs rest h hlt ps tail hrest ih =>
    cases decodeFirst_eq_iff.1 h with
    | stray hb => exact stray b bs hb ih
    | broken more rest hmore hy => exact broken (b :: more) _ rest hmore hy ih
  | case4 b bs h => exact unfinished _ (decodeFirst_eq_unfinished_iff.1 h)

/-! ## Resuming -/

theorem pieces_append (xs ys : List UInt8) :
    pieces (xs ++ ys) = ((pieces xs).1 ++ (pieces ((pieces xs).2 ++ ys)).1,
      (pieces ((pieces xs).2 ++ ys)).2) := by
  induction xs using pieces_cases with
  | nil => simp
  | char ch rest ih => rw [List.append_assoc, pieces_encodeChar, pieces_encodeChar, ih]; rfl
  | stray b rest hb ih => rw [List.cons_append, pieces_stray hb, pieces_stray hb, ih]; rfl
  | broken t y rest ht hy ih =>
    rw [List.append_assoc, List.cons_append, pieces_broken ht hy, pieces_broken ht hy,
      ← List.cons_append, ih]
    rfl
  | unfinished t ht => simp [pieces_of_unfinished ht]

theorem pieces_tail (bs : List UInt8) : (pieces bs).2 = [] ∨ Unfinished (pieces bs).2 := by
  induction bs using pieces_cases with
  | nil => exact .inl (by simp)
  | char ch rest ih => rwa [pieces_encodeChar]
  | stray b rest hb ih => rwa [pieces_stray hb]
  | broken t y rest ht hy ih => rwa [pieces_broken ht hy]
  | unfinished t ht => exact .inr (by rwa [pieces_of_unfinished ht])

/-! ## Lossy texts -/

theorem toList_decodeLossy (bs : List UInt8) :
    (decodeLossy bs).toList =
      (pieces bs).1.map Piece.char ++ if (pieces bs).2.isEmpty then [] else [replacement] := by
  rw [decodeLossy]
  exact String.toList_ofList

@[simp] theorem decodeLossy_nil : decodeLossy [] = "" := by
  simp [decodeLossy]

theorem toList_decodeLossy_append (xs ys : List UInt8) :
    (decodeLossy (xs ++ ys)).toList =
      (pieces xs).1.map Piece.char ++ (decodeLossy ((pieces xs).2 ++ ys)).toList := by
  rw [toList_decodeLossy, toList_decodeLossy, pieces_append, List.map_append, List.append_assoc]

theorem toList_decodeLossy_encodeChar (ch : Char) (rest : List UInt8) :
    (decodeLossy (String.utf8EncodeChar ch ++ rest)).toList = ch :: (decodeLossy rest).toList := by
  rw [toList_decodeLossy, toList_decodeLossy, pieces_encodeChar]
  rfl

theorem toList_decodeLossy_stray (h : sequenceLength b = 0) :
    (decodeLossy (b :: rest)).toList = replacement :: (decodeLossy rest).toList := by
  rw [toList_decodeLossy, toList_decodeLossy, pieces_stray h]
  rfl

theorem toList_decodeLossy_unfinished (h : Unfinished t) :
    (decodeLossy t).toList = [replacement] := by
  rw [toList_decodeLossy, pieces_of_unfinished h, if_neg (by simpa using h.ne_nil)]
  rfl

theorem toList_decodeLossy_broken (h : Unfinished t)
    (hrest : ∀ y ∈ rest.head?, fits t y = false) :
    (decodeLossy (t ++ rest)).toList = replacement :: (decodeLossy rest).toList := by
  cases rest with
  | nil => simp [toList_decodeLossy_unfinished h]
  | cons y q =>
    rw [toList_decodeLossy, toList_decodeLossy, pieces_broken h (hrest y rfl)]
    rfl

/-- A byte that continues a character can only save a replacement. The recursion is on the bytes
after it: each that fits is a replacement of its own on the right and none on the left. -/
theorem length_decodeLossy_le_of_fits {t : List UInt8} {y : UInt8} {q : List UInt8}
    (h : Unfinished t) (hy : fits t y = true) :
    (decodeLossy (t ++ y :: q)).toList.length ≤ (decodeLossy (y :: q)).toList.length := by
  rw [List.append_cons, toList_decodeLossy_stray (sequenceLength_of_fits h hy), List.length_cons]
  obtain ⟨ch, hch⟩ | hext := h.extend hy
  · rw [← hch, toList_decodeLossy_encodeChar, List.length_cons]
  · cases q with
    | nil => simp [toList_decodeLossy_unfinished hext]
    | cons z q =>
      cases hz : fits (t ++ [y]) z with
      | false => rw [toList_decodeLossy_broken hext (by simpa using hz), List.length_cons]
      | true => exact Nat.le_succ_of_le (length_decodeLossy_le_of_fits hext hz)

/-! ## What a lossy text is -/

/-- No character stands at the start of `bad ++ rest`. The bytes `bad` begin one, or are a single
byte that begins none, and no encoding of a character goes on with the next byte. -/
structure InvalidStart (bad rest : List UInt8) : Prop where
  ne_nil : bad ≠ []
  no_char (ch : Char) : ¬String.utf8EncodeChar ch <+: bad ++ rest
  starts : StartsChar bad ∨ bad.length = 1
  maximal {y : UInt8} (hy : y ∈ rest.head?) : ¬StartsChar (bad ++ [y])

/-- The characters of a text in bytes, with one replacement for each maximal invalid start. -/
inductive LossyDecoding : List UInt8 → List Char → Prop where
  | nil : LossyDecoding [] []
  | char (ch : Char) {rest : List UInt8} {cs : List Char} (h : LossyDecoding rest cs) :
      LossyDecoding (String.utf8EncodeChar ch ++ rest) (ch :: cs)
  | invalid {bad rest : List UInt8} {cs : List Char} (hbad : InvalidStart bad rest)
      (h : LossyDecoding rest cs) : LossyDecoding (bad ++ rest) (replacement :: cs)

theorem not_encodeChar_prefix (h : (pieces bs).1.head? ≠ some (some ch)) :
    ¬String.utf8EncodeChar ch <+: bs := by
  rintro ⟨rest, rfl⟩
  rw [pieces_encodeChar] at h
  exact h rfl

theorem invalidStart_stray (h : sequenceLength b = 0) : InvalidStart [b] rest where
  ne_nil := by simp
  no_char ch := not_encodeChar_prefix (by simp [pieces_stray h])
  starts := .inr rfl
  maximal _ hstart := by
    have := hstart.sequenceLength_pos
    omega

theorem invalidStart_broken (h : Unfinished t) (hy : fits t y = false) :
    InvalidStart t (y :: q) where
  ne_nil := h.ne_nil
  no_char ch := not_encodeChar_prefix (by simp [pieces_broken h hy])
  starts := .inl h.startsChar
  maximal hz hstart := by
    obtain rfl : y = _ := by simpa using hz
    exact Bool.eq_false_iff.1 hy (h.fits_iff.2 hstart)

theorem invalidStart_unfinished (h : Unfinished t) : InvalidStart t [] where
  ne_nil := h.ne_nil
  no_char ch := not_encodeChar_prefix (by simp [pieces_of_unfinished h])
  starts := .inl h.startsChar
  maximal hy := by cases hy

theorem InvalidStart.stray_or_unfinished (h : InvalidStart bad rest) :
    (∃ b, bad = [b] ∧ sequenceLength b = 0) ∨
      Unfinished bad ∧ ∀ y ∈ rest.head?, fits bad y = false := by
  have hunfinished (hbad : Unfinished bad) :
      Unfinished bad ∧ ∀ y ∈ rest.head?, fits bad y = false := by
    refine ⟨hbad, fun y hy => Bool.eq_false_iff.2 fun hfits => ?_⟩
    exact h.maximal hy (hbad.fits_iff.1 hfits)
  obtain ⟨ch, more, hch⟩ | hlen := h.starts
  · cases more with
    | nil =>
      rw [List.append_nil] at hch
      exact absurd (hch ▸ List.prefix_append bad rest) (h.no_char ch)
    | cons y more => exact .inr (hunfinished (unfinished_iff.2 ⟨h.ne_nil, ch, y, more, hch.symm⟩))
  · obtain ⟨b, rfl⟩ := List.length_eq_one_iff.1 hlen
    obtain hb | hb | hb : sequenceLength b = 0 ∨ sequenceLength b = 1 ∨
      2 ≤ sequenceLength b := by omega
    · exact .inl ⟨b, rfl, hb⟩
    · have hwf := WellFormed.one (sequenceLength_eq_one.1 hb) rfl
      refine absurd ?_ (h.no_char (.ofNat b.toNat))
      rw [hwf.encode]
      exact List.prefix_append [b] rest
    · exact .inr (hunfinished (.one hb))

theorem InvalidStart.toList_decodeLossy (h : InvalidStart bad rest) :
    (decodeLossy (bad ++ rest)).toList = replacement :: (decodeLossy rest).toList := by
  obtain ⟨b, rfl, hb⟩ | ⟨hbad, hrest⟩ := h.stray_or_unfinished
  · exact toList_decodeLossy_stray hb
  · exact toList_decodeLossy_broken hbad hrest

theorem lossyDecoding_decodeLossy (bs : List UInt8) :
    LossyDecoding bs (decodeLossy bs).toList := by
  induction bs using pieces_cases with
  | nil => simpa using .nil
  | char ch rest ih =>
    rw [toList_decodeLossy_encodeChar]
    exact .char ch ih
  | stray b rest hb ih =>
    rw [toList_decodeLossy_stray hb]
    exact .invalid (invalidStart_stray hb) ih
  | broken t y rest ht hy ih =>
    have hbad := invalidStart_broken (q := rest) ht hy
    rw [hbad.toList_decodeLossy]
    exact .invalid hbad ih
  | unfinished t ht =>
    rw [toList_decodeLossy_unfinished ht]
    simpa using LossyDecoding.invalid (invalidStart_unfinished ht) .nil

theorem lossyDecoding_iff : LossyDecoding bs cs ↔ (decodeLossy bs).toList = cs := by
  constructor
  · intro h
    induction h with
    | nil => simp
    | char ch h ih => rw [toList_decodeLossy_encodeChar, ih]
    | invalid hbad h ih => rw [hbad.toList_decodeLossy, ih]
  · rintro rfl
    exact lossyDecoding_decodeLossy bs

/-! ## Valid texts -/

theorem byteArray_toList_loop (bytes : ByteArray) (i : Nat) (acc : List UInt8) :
    ByteArray.toList.loop bytes i acc = acc.reverse ++ bytes.data.toList.drop i := by
  fun_induction ByteArray.toList.loop bytes i acc with
  | case1 i acc h ih =>
    have hi : i < bytes.data.toList.length := by simpa using h
    rw [ih, List.drop_eq_getElem_cons hi]
    simp [ByteArray.get!, h]
  | case2 i acc h =>
    have hi : bytes.data.toList.length ≤ i := by simpa using h
    rw [List.drop_eq_nil_of_le hi, List.append_nil]

theorem encode_eq_flatMap (s : String) : encode s = s.toList.flatMap String.utf8EncodeChar := by
  have hbytes : s.toByteArray = (s.toList.flatMap String.utf8EncodeChar).toByteArray := by
    rw [← List.utf8Encode, ← String.toByteArray_ofList, String.ofList_toList]
  rw [encode, String.toUTF8, ByteArray.toList, byteArray_toList_loop, hbytes,
    List.data_toByteArray]
  rfl

theorem pieces_flatMap_encodeChar (cs : List Char) :
    pieces (cs.flatMap String.utf8EncodeChar) = (cs.map some, []) := by
  induction cs with
  | nil => simp
  | cons ch cs ih => rw [List.flatMap_cons, pieces_encodeChar, ih]; rfl

theorem pieces_encode (s : String) : pieces (encode s) = (s.toList.map some, []) := by
  rw [encode_eq_flatMap, pieces_flatMap_encodeChar]

end GossipPanel.Text.Utf8
