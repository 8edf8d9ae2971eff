import GossipPanel.Proofs.Utf8.Lossy

/-!
# Decoding a stream that arrives in chunks

* `Carry.text` is all the text of a stream: what every push returned, and then what `finish` did.
* `Carry.Cuts` is the one way in which a push loses a character: some of the bytes at hand are
  invalid, so all are decoded at once, also an unfinished character at the end that the later
  bytes continue.
* A push that does not cut resumes the lossy decoding (`push_resumes`), one that cuts makes it
  longer (`push_cuts`). So the text of a stream is its lossy decoding exactly when no push cuts,
  and a valid text is never cut, wherever the chunks end.
-/

namespace GossipPanel.Text.Utf8

variable {c : Carry} {chunk later : List UInt8} {chunks : List (List UInt8)}

/-! ## The text of a stream -/

/-- All the text of a stream. -/
def Carry.text (c : Carry) (chunks : List (List UInt8)) : String :=
  String.join (c.pushAll chunks).1 ++ (c.pushAll chunks).2.finish

@[simp] theorem Carry.text_nil (c : Carry) : c.text [] = decodeLossy c.pending := by
  simp [text, pushAll, finish]

theorem Carry.text_cons (c : Carry) (chunk : List UInt8) (chunks : List (List UInt8)) :
    c.text (chunk :: chunks) = (c.push chunk).1 ++ (c.push chunk).2.text chunks := by
  simp [text, pushAll, String.append_assoc]

/-! ## One push -/

theorem Carry.push_of_valid (h : none ∉ (pieces (c.pending ++ chunk)).1) :
    c.push chunk = (String.ofList ((pieces (c.pending ++ chunk)).1.map Piece.char),
      ⟨(pieces (c.pending ++ chunk)).2⟩) := by
  have hall : (pieces (c.pending ++ chunk)).1.all Option.isSome = true := by
    rw [List.all_eq_true]
    intro p hp
    exact Option.isSome_iff_ne_none.2 fun hnone => h (hnone ▸ hp)
  rw [push]
  exact if_pos hall

theorem Carry.push_of_invalid (h : none ∈ (pieces (c.pending ++ chunk)).1) :
    c.push chunk = (decodeLossy (c.pending ++ chunk), ⟨[]⟩) := by
  have hall : ¬(pieces (c.pending ++ chunk)).1.all Option.isSome = true := by
    rw [List.all_eq_true]
    intro hall
    simpa using hall none h
  rw [push]
  exact if_neg hall

/-- The push decodes all bytes at hand at once, because some are invalid, although they end in an
unfinished character that the next byte of the stream continues. -/
def Carry.Cuts (c : Carry) (chunk later : List UInt8) : Prop :=
  let (ps, tail) := pieces (c.pending ++ chunk)
  none ∈ ps ∧ tail ≠ [] ∧ ∃ y ∈ later.head?, StartsChar (tail ++ [y])

theorem Carry.toList_push_of_invalid (h : none ∈ (pieces (c.pending ++ chunk)).1) :
    (c.push chunk).1.toList ++ (decodeLossy ((c.push chunk).2.pending ++ later)).toList =
      (pieces (c.pending ++ chunk)).1.map Piece.char ++
        ((if (pieces (c.pending ++ chunk)).2.isEmpty then [] else [replacement]) ++
          (decodeLossy later).toList) := by
  rw [push_of_invalid h, List.nil_append, toList_decodeLossy (c.pending ++ chunk),
    List.append_assoc]

theorem Carry.push_resumes (h : ¬c.Cuts chunk later) :
    (decodeLossy (c.pending ++ (chunk ++ later))).toList =
      (c.push chunk).1.toList ++ (decodeLossy ((c.push chunk).2.pending ++ later)).toList := by
  rw [← List.append_assoc, toList_decodeLossy_append]
  by_cases hnone : none ∈ (pieces (c.pending ++ chunk)).1
  · rw [toList_push_of_invalid hnone]
    congr 1
    obtain htail | htail := pieces_tail (c.pending ++ chunk)
    · simp [htail]
    · rw [if_neg (by simpa using htail.ne_nil)]
      refine toList_decodeLossy_broken htail fun y hy => Bool.eq_false_iff.2 fun hfits => ?_
      exact h ⟨hnone, htail.ne_nil, y, hy, htail.fits_iff.1 hfits⟩
  · rw [push_of_valid hnone, String.toList_ofList]

theorem Carry.push_cuts (h : c.Cuts chunk later) :
    (decodeLossy (c.pending ++ (chunk ++ later))).toList.length <
      (c.push chunk).1.toList.length +
        (decodeLossy ((c.push chunk).2.pending ++ later)).toList.length := by
  obtain ⟨hnone, hne, y, hy, hstart⟩ := h
  obtain ⟨q, rfl⟩ : ∃ q, later = y :: q := by
    cases later with
    | nil => cases hy
    | cons z q => exact ⟨q, by simpa using hy⟩
  have htail := (pieces_tail (c.pending ++ chunk)).resolve_left hne
  have hle := length_decodeLossy_le_of_fits (q := q) htail (htail.fits_iff.2 hstart)
  rw [← List.length_append, toList_push_of_invalid hnone, if_neg (by simpa using hne),
    ← List.append_assoc, toList_decodeLossy_append]
  simp only [List.length_append, List.length_singleton]
  omega

theorem Carry.length_push_le (c : Carry) (chunk later : List UInt8) :
    (decodeLossy (c.pending ++ (chunk ++ later))).toList.length ≤
      (c.push chunk).1.toList.length +
        (decodeLossy ((c.push chunk).2.pending ++ later)).toList.length := by
  by_cases hcut : c.Cuts chunk later
  · exact Nat.le_of_lt (push_cuts hcut)
  · rw [push_resumes hcut, List.length_append]

/-! ## The whole stream -/

/-- Some push of the stream loses a character. -/
def Carry.Mangles (c : Carry) : List (List UInt8) → Prop
  | [] => False
  | chunk :: chunks => c.Cuts chunk chunks.flatten ∨ (c.push chunk).2.Mangles chunks

theorem Carry.text_of_not_mangles (h : ¬c.Mangles chunks) :
    c.text chunks = decodeLossy (c.pending ++ chunks.flatten) := by
  induction chunks generalizing c with
  | nil => simp
  | cons chunk chunks ih =>
    rw [Mangles, not_or] at h
    rw [text_cons, ih h.2, List.flatten_cons, ← String.toList_inj, push_resumes h.1,
      String.toList_append]

theorem Carry.length_decodeLossy_le_text (c : Carry) (chunks : List (List UInt8)) :
    (decodeLossy (c.pending ++ chunks.flatten)).toList.length ≤ (c.text chunks).toList.length := by
  induction chunks generalizing c with
  | nil => simp
  | cons chunk chunks ih =>
    have hstep := c.length_push_le chunk chunks.flatten
    have hrest := ih (c.push chunk).2
    rw [text_cons, List.flatten_cons, String.toList_append, List.length_append]
    omega

/-- Where a push cuts, the text gets longer, and no later push makes up for it. -/
theorem Carry.length_decodeLossy_lt_text (h : c.Mangles chunks) :
    (decodeLossy (c.pending ++ chunks.flatten)).toList.length < (c.text chunks).toList.length := by
  induction chunks generalizing c with
  | nil => exact h.elim
  | cons chunk chunks ih =>
    rw [text_cons, List.flatten_cons, String.toList_append, List.length_append]
    obtain hcut | hlater := h
    · have hstep := push_cuts hcut
      have hrest := (c.push chunk).2.length_decodeLossy_le_text chunks
      omega
    · have hstep := c.length_push_le chunk chunks.flatten
      have hrest := ih hlater
      omega

theorem Carry.Mangles.invalid (h : c.Mangles chunks) :
    none ∈ (pieces (c.pending ++ chunks.flatten)).1 := by
  induction chunks generalizing c with
  | nil => exact h.elim
  | cons chunk chunks ih =>
    rw [List.flatten_cons, ← List.append_assoc, pieces_append, List.mem_append]
    by_cases hnone : none ∈ (pieces (c.pending ++ chunk)).1
    · exact .inl hnone
    · have hlater := ih (h.resolve_left fun hcut => hnone hcut.1)
      rw [push_of_valid hnone] at hlater
      exact .inr hlater

/-- Exactly where no push cuts, the text of a stream is the lossy decoding of all its bytes. The
bytes of a text are never cut: that text comes out, wherever the chunks end. -/
theorem Carry.text_lossy_iff (chunks : List (List UInt8)) :
    (LossyDecoding chunks.flatten (Carry.text {} chunks).toList ↔ ¬Carry.Mangles {} chunks) ∧
      ∀ s, chunks.flatten = encode s → Carry.text {} chunks = s := by
  constructor
  · rw [lossyDecoding_iff]
    constructor
    · intro htext hmangles
      have hlt := length_decodeLossy_lt_text hmangles
      rw [List.nil_append, htext] at hlt
      exact lt_irrefl _ hlt
    · intro hmangles
      rw [text_of_not_mangles hmangles, List.nil_append]
  · intro s hs
    have hpieces : pieces chunks.flatten = (s.toList.map some, []) := by rw [hs, pieces_encode]
    have hmangles : ¬Carry.Mangles {} chunks := by
      intro h
      have hnone := h.invalid
      rw [List.nil_append, hpieces] at hnone
      simp at hnone
    rw [text_of_not_mangles hmangles, List.nil_append, ← String.toList_inj, toList_decodeLossy,
      hpieces]
    simp [Function.comp_def, Piece.char]

/-- A character of two bytes comes out whole although each byte comes in a chunk of its own. -/
theorem Carry.text_of_split_character :
    [[0x63, 0xc3], [0xa9]].flatten = encode "cé" ∧ Carry.text {} [[0x63, 0xc3], [0xa9]] = "cé" := by
  have hbytes : [[0x63, 0xc3], [0xa9]].flatten = encode "cé" := by
    rw [encode_eq_flatMap]
    decide
  exact ⟨hbytes, (text_lossy_iff [[0x63, 0xc3], [0xa9]]).2 "cé" hbytes⟩

/-- After an invalid byte the same character is lost where the chunks split it: each of its bytes
is replaced. In one chunk it comes out whole. -/
theorem Carry.split_character_lost_after_invalid_byte :
    Carry.text {} [[0xff, 0xc3], [0xa9]] = "\ufffd\ufffd\ufffd" ∧
      Carry.text {} [[0xff, 0xc3, 0xa9]] = "\ufffdé" ∧
      ¬LossyDecoding [0xff, 0xc3, 0xa9] (Carry.text {} [[0xff, 0xc3], [0xa9]]).toList := by
  have hcut : pieces [0xff, 0xc3] = ([none], [0xc3]) := by
    rw [pieces_stray (by decide), pieces_of_unfinished (.one (by decide))]
  have hrest : pieces [0xa9] = ([none], []) := by
    rw [pieces_stray (by decide), pieces_nil]
  have hwhole : pieces [0xff, 0xc3, 0xa9] = ([none, some 'é'], []) := by
    have hcode : [0xc3, 0xa9] = String.utf8EncodeChar 'é' ++ [] := by decide
    rw [pieces_stray (by decide), hcode, pieces_encodeChar, pieces_nil]
  have hsplit : Carry.text {} [[0xff, 0xc3], [0xa9]] = "\ufffd\ufffd\ufffd" := by
    rw [← String.toList_inj]
    simp [text_cons, push, decodeLossy, hcut, hrest, Piece.char, replacement]
  have hjoined : Carry.text {} [[0xff, 0xc3, 0xa9]] = "\ufffdé" := by
    rw [← String.toList_inj]
    simp [text_cons, push, decodeLossy, hwhole, Piece.char, replacement]
  refine ⟨hsplit, hjoined, fun h => ?_⟩
  rw [lossyDecoding_iff, hsplit, decodeLossy, hwhole] at h
  simp at h

end GossipPanel.Text.Utf8
