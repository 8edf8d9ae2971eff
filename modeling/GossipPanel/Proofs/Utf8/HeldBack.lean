import GossipPanel.Proofs.Utf8.Stream

/-!
# What the decoder of a stream holds back

* `Carry.Waits`: nothing is held back, or the beginning of a character. Every push leaves a decoder
  in this state, whatever the bytes are.
* `encode_textOf_append`: bytes of which none is invalid are the encoding of their text, and the
  beginning of a character behind it. `longestText_textOf`: no longer text begins them.
* `Carry.Waits.pushAll_of_valid`: where no byte is invalid, the pushes return the text of all bytes
  so far and hold back what is behind it.
* `only_unfinished_character_held_back`: both, for every sequence of chunks.
-/

namespace GossipPanel.Text.Utf8

variable {c : Carry} {bs : List UInt8} {chunks : List (List UInt8)}

/-! ## The bytes held back -/

/-- Nothing is held back, or the beginning of a character. -/
def Carry.Waits (c : Carry) : Prop :=
  c.pending = [] ∨ Unfinished c.pending

theorem Carry.waits_push (c : Carry) (chunk : List UInt8) : (c.push chunk).2.Waits := by
  by_cases hnone : none ∈ (pieces (c.pending ++ chunk)).1
  · rw [push_of_invalid hnone]
    exact .inl rfl
  · rw [push_of_valid hnone]
    exact pieces_tail (c.pending ++ chunk)

theorem Carry.waits_pushAll (h : c.Waits) (chunks : List (List UInt8)) :
    (c.pushAll chunks).2.Waits := by
  induction chunks generalizing c with
  | nil => exact h
  | cons chunk chunks ih => exact ih (c.waits_push chunk)

theorem Carry.Waits.pieces_pending (h : c.Waits) : pieces c.pending = ([], c.pending) := by
  obtain hnil | hunfinished := h
  · rw [hnil, pieces_nil]
  · exact pieces_of_unfinished hunfinished

theorem Carry.Waits.finish_eq_iff (h : c.Waits) : c.finish = "" ↔ c.pending = [] := by
  constructor
  · intro hfinish
    obtain hnil | hunfinished := h
    · exact hnil
    · have hone := toList_decodeLossy_unfinished hunfinished
      rw [show decodeLossy c.pending = "" from hfinish] at hone
      cases hone
  · intro hnil
    rw [finish, hnil, decodeLossy_nil]

/-! ## Texts at the beginning of a sequence of bytes -/

/-- The text is the longest one whose bytes the sequence begins with. -/
structure LongestText (bs : List UInt8) (text : String) : Prop where
  begins : encode text <+: bs
  longest {other : String} (h : encode other <+: bs) : encode other <+: encode text

/-- The text of the whole characters in a sequence of bytes. -/
def textOf (bs : List UInt8) : String :=
  String.ofList ((pieces bs).1.map Piece.char)

theorem pieces_of_begins {whole : String} (h : bs <+: encode whole) : none ∉ (pieces bs).1 := by
  obtain ⟨more, hmore⟩ := h
  intro hnone
  have hwhole : none ∈ (pieces (encode whole)).1 := by
    rw [← hmore, pieces_append]
    exact List.mem_append_left _ hnone
  rw [pieces_encode] at hwhole
  simp at hwhole

theorem toList_textOf (bs : List UInt8) : (textOf bs).toList = (pieces bs).1.map Piece.char :=
  String.toList_ofList

theorem map_some_textOf (h : none ∉ (pieces bs).1) :
    (textOf bs).toList.map some = (pieces bs).1 := by
  rw [toList_textOf, List.map_map]
  refine (List.map_congr_left fun p hp => ?_).trans (List.map_id _)
  cases p with
  | none => exact absurd hp h
  | some ch => rfl

theorem encode_textOf_append (h : none ∉ (pieces bs).1) :
    encode (textOf bs) ++ (pieces bs).2 = bs := by
  rw [encode_eq_flatMap, toList_textOf]
  induction bs using pieces_cases with
  | nil => simp
  | char ch rest ih =>
    rw [pieces_encodeChar] at h ⊢
    have hrest := ih fun hnone => h (List.mem_cons_of_mem _ hnone)
    rw [List.map_cons, List.flatMap_cons, List.append_assoc, hrest]
    rfl
  | stray b rest hb => exact absurd (by rw [pieces_stray hb]; exact List.mem_cons_self) h
  | broken t y rest ht hy => exact absurd (by rw [pieces_broken ht hy]; exact List.mem_cons_self) h
  | unfinished t ht => simp [pieces_of_unfinished ht]

theorem toList_prefix_textOf {text : String} (h : encode text <+: bs)
    (hvalid : none ∉ (pieces bs).1) : text.toList <+: (textOf bs).toList := by
  obtain ⟨more, rfl⟩ := h
  have hpieces : text.toList.map some <+: (textOf (encode text ++ more)).toList.map some := by
    rw [map_some_textOf hvalid, pieces_append, pieces_encode]
    exact List.prefix_append _ _
  rwa [List.prefix_map_iff_of_injective (Option.some_injective Char)] at hpieces

theorem longestText_textOf (h : none ∉ (pieces bs).1) : LongestText bs (textOf bs) where
  begins := ⟨(pieces bs).2, encode_textOf_append h⟩
  longest hother := by
    obtain ⟨behind, hbehind⟩ := toList_prefix_textOf hother h
    rw [encode_eq_flatMap, encode_eq_flatMap, ← hbehind, List.flatMap_append]
    exact List.prefix_append _ _

theorem exists_eq_encode_iff (h : none ∉ (pieces bs).1) :
    (∃ text, bs = encode text) ↔ (pieces bs).2 = [] := by
  constructor
  · rintro ⟨text, rfl⟩
    rw [pieces_encode]
  · intro hnil
    have hbytes := encode_textOf_append h
    rw [hnil, List.append_nil] at hbytes
    exact ⟨textOf bs, hbytes.symm⟩

/-! ## The texts that are returned -/

theorem Carry.Waits.pushAll_of_valid (h : c.Waits)
    (hvalid : none ∉ (pieces (c.pending ++ chunks.flatten)).1) :
    String.join (c.pushAll chunks).1 = textOf (c.pending ++ chunks.flatten) ∧
      (c.pushAll chunks).2.pending = (pieces (c.pending ++ chunks.flatten)).2 := by
  induction chunks generalizing c with
  | nil =>
    rw [List.flatten_nil, List.append_nil, textOf, h.pieces_pending]
    exact ⟨rfl, rfl⟩
  | cons chunk chunks ih =>
    -- What the first push holds back comes before the next chunk, where reading is resumed.
    rw [List.flatten_cons, ← List.append_assoc, pieces_append] at hvalid
    have hfirst : none ∉ (pieces (c.pending ++ chunk)).1 :=
      fun hnone => hvalid (List.mem_append_left _ hnone)
    have hpush := push_of_valid hfirst
    have hnext : (c.push chunk).2.pending = (pieces (c.pending ++ chunk)).2 := by rw [hpush]
    have hlater : none ∉ (pieces ((c.push chunk).2.pending ++ chunks.flatten)).1 := by
      rw [hnext]
      exact fun hnone => hvalid (List.mem_append_right _ hnone)
    obtain ⟨htext, hpending⟩ := ih (c.waits_push chunk) hlater
    rw [List.flatten_cons, ← List.append_assoc, textOf, pieces_append, ← hnext]
    refine ⟨?_, hpending⟩
    have hcons : String.join (c.pushAll (chunk :: chunks)).1 =
        (c.push chunk).1 ++ String.join ((c.push chunk).2.pushAll chunks).1 := String.join_cons
    rw [hcons, htext, hpush, List.map_append, String.ofList_append]
    rfl

theorem Carry.pushAll_of_prefix {whole : String} (h : chunks.flatten <+: encode whole) :
    String.join (pushAll {} chunks).1 = textOf chunks.flatten ∧
      (pushAll {} chunks).2.pending = (pieces chunks.flatten).2 := by
  have hnew : Waits {} := .inl rfl
  exact hnew.pushAll_of_valid (pieces_of_begins h)

/-- **Only an unfinished character is held back.** After every sequence of chunks the decoder holds
back nothing, or one to three bytes that begin the encoding of a character without being one. If
the bytes received so far are the beginning of a text:

* what has been returned is the longest text that they begin with, and all bytes behind it are
  held back;
* nothing comes at the end exactly if they are the bytes of a text. -/
theorem only_unfinished_character_held_back (chunks : List (List UInt8)) :
    let carry : Carry := (Carry.pushAll {} chunks).2
    let text := String.join (Carry.pushAll {} chunks).1
    let received := chunks.flatten
    (carry.pending = [] ∨
        (1 ≤ carry.pending.length ∧ carry.pending.length ≤ 3) ∧
          ∃ ch, carry.pending <+: String.utf8EncodeChar ch ∧
            carry.pending ≠ String.utf8EncodeChar ch) ∧
      ∀ whole, received <+: encode whole →
        LongestText received text ∧ encode text ++ carry.pending = received ∧
          (carry.finish = "" ↔ ∃ ended, received = encode ended) := by
  intro carry text received
  have hwaits : carry.Waits := Carry.waits_pushAll (.inl rfl) chunks
  constructor
  · refine hwaits.imp_right fun hunfinished => ⟨⟨?_, hunfinished.length_le⟩, ?_⟩
    · exact List.length_pos_iff.2 hunfinished.ne_nil
    · obtain ⟨ch, y, more, hch⟩ := hunfinished.complete
      exact ⟨ch, hch ▸ List.prefix_append _ _, by simp [hch]⟩
  · intro whole hwhole
    have hvalid : none ∉ (pieces received).1 := pieces_of_begins hwhole
    obtain ⟨htext, hpending⟩ := Carry.pushAll_of_prefix hwhole
    refine ⟨?_, ?_, ?_⟩
    · rw [show text = textOf received from htext]
      exact longestText_textOf hvalid
    · rw [show text = textOf received from htext, hpending]
      exact encode_textOf_append hvalid
    · rw [hwaits.finish_eq_iff, hpending, exists_eq_encode_iff hvalid]

/-- Of a text that is cut inside two characters, the first of them comes out with its last byte, and
the first byte of the other one is held back. -/
theorem euro_delivered_emoji_held_back :
    let chunks := [[0x63, 0xe2, 0x82], [0xac, 0xf0]]
    let text := String.join (Carry.pushAll {} chunks).1
    let carry := (Carry.pushAll {} chunks).2
    chunks.flatten <+: encode "c€😀" ∧ LongestText chunks.flatten text ∧ text = "c€" ∧
      carry.pending = [0xf0] ∧ carry.finish ≠ "" := by
  intro chunks text carry
  have hwhole : chunks.flatten <+: encode "c€😀" := by
    rw [encode_eq_flatMap]
    decide
  have hbytes : chunks.flatten = encode "c€" ++ [0xf0] := by
    rw [encode_eq_flatMap]
    decide
  have htail : pieces [0xf0] = ([], [0xf0]) := pieces_of_unfinished (.one (by decide))
  have hpieces : pieces chunks.flatten = (['c', '€'].map some, [0xf0]) := by
    rw [hbytes, pieces_append, pieces_encode, List.nil_append, htail]
    decide
  obtain ⟨htextOf, hrest⟩ := Carry.pushAll_of_prefix hwhole
  have htext : text = "c€" := by
    rw [show text = textOf chunks.flatten from htextOf, textOf, hpieces]
    decide
  have hpending : carry.pending = [0xf0] := by
    rw [show carry.pending = _ from hrest, hpieces]
  obtain ⟨-, hvalid⟩ := only_unfinished_character_held_back chunks
  obtain ⟨hlongest, -, hfinish⟩ := hvalid "c€😀" hwhole
  refine ⟨hwhole, hlongest, htext, hpending, fun hempty => ?_⟩
  have hnil := (exists_eq_encode_iff (pieces_of_begins hwhole)).1 (hfinish.1 hempty)
  rw [hpieces] at hnil
  cases hnil

end GossipPanel.Text.Utf8
