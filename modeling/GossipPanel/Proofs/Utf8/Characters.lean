import GossipPanel.Text.Utf8
import Mathlib.Data.List.Basic
import Mathlib.Tactic.SplitIfs
import Mathlib.Tactic.NormNum.Basic

/-!
# Encodings of characters, byte by byte

* `WellFormed` lists the sequences of bytes that stand for a character, by their length.
  `wellFormed_encode` and `WellFormed.encode` say that they are the encodings of characters.
* `Unfinished` lists their proper beginnings, `fits` says which byte may come next.
* `Reads` says what `decodeFirst` finds: an encoding, a byte that begins none, a beginning that the
  next byte breaks off, or a beginning at the end of the input.

The bytes are compared as numbers here and nowhere else; later modules speak of encodings only.
-/

namespace GossipPanel.Text.Utf8

/-! ## Bytes as numbers -/

section
variable {b c : UInt8} {n : Nat}

theorem sequenceLength_eq (b : UInt8) :
    sequenceLength b =
      if b.toNat ≤ 0x7f then 1
      else if 0xc2 ≤ b.toNat ∧ b.toNat ≤ 0xdf then 2
      else if 0xe0 ≤ b.toNat ∧ b.toNat ≤ 0xef then 3
      else if 0xf0 ≤ b.toNat ∧ b.toNat ≤ 0xf4 then 4
      else 0 := by
  simp only [sequenceLength, UInt8.lt_iff_toNat_lt, UInt8.le_iff_toNat_le]
  simp only [UInt8.reduceToNat]
  grind

theorem isContinuation_iff : isContinuation b = true ↔ 0x80 ≤ b.toNat ∧ b.toNat ≤ 0xbf := by
  simp [isContinuation, UInt8.le_iff_toNat_le]

theorem isSecond_iff : isSecond b c = true ↔
    0x80 ≤ c.toNat ∧ c.toNat ≤ 0xbf ∧ (b.toNat = 0xe0 → 0xa0 ≤ c.toNat) ∧
      (b.toNat = 0xed → c.toNat ≤ 0x9f) ∧ (b.toNat = 0xf0 → 0x90 ≤ c.toNat) ∧
      (b.toNat = 0xf4 → c.toNat ≤ 0x8f) := by
  simp only [isSecond, secondRange, Bool.and_eq_true, decide_eq_true_eq, UInt8.le_iff_toNat_le,
    ← UInt8.toNat_inj]
  split_ifs <;> simp_all <;> omega

theorem toNat_ofNat (h : n < 256) : (UInt8.ofNat n).toNat = n :=
  UInt8.toNat_ofNat_of_lt' h

theorem ofNat_eq_of_toNat (h : b.toNat = n) : UInt8.ofNat n = b := by
  rw [← h, UInt8.ofNat_toNat]

end

/-! ## Well-formed sequences -/

/-- The well-formed sequences of bytes, each with the code point that it stands for. -/
inductive WellFormed : List UInt8 → Nat → Prop where
  | one {b : UInt8} {n : Nat} (hb : b.toNat ≤ 0x7f) (hn : n = b.toNat) : WellFormed [b] n
  | two {b c : UInt8} {n : Nat} (hb : 0xc2 ≤ b.toNat ∧ b.toNat ≤ 0xdf)
      (hc : isSecond b c = true) (hn : n = b.toNat % 32 * 64 + payload c) : WellFormed [b, c] n
  | three {b c d : UInt8} {n : Nat} (hb : 0xe0 ≤ b.toNat ∧ b.toNat ≤ 0xef)
      (hc : isSecond b c = true) (hd : isContinuation d = true)
      (hn : n = b.toNat % 16 * 4096 + payload c * 64 + payload d) : WellFormed [b, c, d] n
  | four {b c d e : UInt8} {n : Nat} (hb : 0xf0 ≤ b.toNat ∧ b.toNat ≤ 0xf4)
      (hc : isSecond b c = true) (hd : isContinuation d = true) (he : isContinuation e = true)
      (hn : n = b.toNat % 8 * 262144 + payload c * 4096 + payload d * 64 + payload e) :
      WellFormed [b, c, d, e] n

variable {b y : UInt8} {bs rest more t : List UInt8} {n : Nat} {ch : Char} {found : First}

theorem wellFormed_encode (ch : Char) :
    WellFormed (String.utf8EncodeChar ch) ch.val.toNat := by
  have hch : ch.val.toNat < 0xd800 ∨ 0xdfff < ch.val.toNat ∧ ch.val.toNat < 0x110000 := ch.valid
  unfold String.utf8EncodeChar
  generalize ch.val.toNat = v at hch
  dsimp only
  split
  · have hb : (UInt8.ofNat v).toNat = v := toNat_ofNat (by omega)
    exact .one (by omega) hb.symm
  · split
    · have hb := toNat_ofNat (by omega : v / 64 % 32 + 192 < 256)
      have hc := toNat_ofNat (by omega : v % 64 + 128 < 256)
      exact .two (by omega) (isSecond_iff.2 (by omega)) (by rw [payload]; omega)
    · split
      · have hb := toNat_ofNat (by omega : v / 4096 % 16 + 224 < 256)
        have hc := toNat_ofNat (by omega : v / 64 % 64 + 128 < 256)
        have hd := toNat_ofNat (by omega : v % 64 + 128 < 256)
        exact .three (by omega) (isSecond_iff.2 (by omega)) (isContinuation_iff.2 (by omega))
          (by rw [payload, payload]; omega)
      · have hb := toNat_ofNat (by omega : v / 262144 % 8 + 240 < 256)
        have hc := toNat_ofNat (by omega : v / 4096 % 64 + 128 < 256)
        have hd := toNat_ofNat (by omega : v / 64 % 64 + 128 < 256)
        have he := toNat_ofNat (by omega : v % 64 + 128 < 256)
        exact .four (by omega) (isSecond_iff.2 (by omega)) (isContinuation_iff.2 (by omega))
          (isContinuation_iff.2 (by omega)) (by rw [payload, payload, payload]; omega)

theorem WellFormed.isValidChar (h : WellFormed bs n) : n.isValidChar := by
  show n < 0xd800 ∨ 0xdfff < n ∧ n < 0x110000
  cases h with
  | one hb hn => omega
  | two hb hc hn => rw [payload] at hn; omega
  | three hb hc hd hn =>
    have hc := isSecond_iff.1 hc
    rw [payload, payload] at hn
    omega
  | four hb hc hd he hn =>
    have hc := isSecond_iff.1 hc
    rw [payload, payload, payload] at hn
    omega

theorem WellFormed.encode (h : WellFormed bs n) : String.utf8EncodeChar (.ofNat n) = bs := by
  have hvalid := h.isValidChar
  have hval : (Char.ofNat n).val.toNat = n := by
    rw [Char.ofNat, dif_pos hvalid]
    rfl
  unfold String.utf8EncodeChar
  rw [hval]
  dsimp only
  cases h with
  | one hb hn =>
    rw [if_pos (by omega), ofNat_eq_of_toNat hn.symm]
  | two hb hc hn =>
    have hc := isSecond_iff.1 hc
    rw [payload] at hn
    rw [if_neg (by omega), if_pos (by omega)]
    simp only [List.cons.injEq, and_true]
    exact ⟨ofNat_eq_of_toNat (by omega), ofNat_eq_of_toNat (by omega)⟩
  | three hb hc hd hn =>
    have hc := isSecond_iff.1 hc
    have hd := isContinuation_iff.1 hd
    rw [payload, payload] at hn
    rw [if_neg (by omega), if_neg (by omega), if_pos (by omega)]
    simp only [List.cons.injEq, and_true]
    exact ⟨ofNat_eq_of_toNat (by omega), ofNat_eq_of_toNat (by omega),
      ofNat_eq_of_toNat (by omega)⟩
  | four hb hc hd he hn =>
    have hc := isSecond_iff.1 hc
    have hd := isContinuation_iff.1 hd
    have he := isContinuation_iff.1 he
    rw [payload, payload, payload] at hn
    rw [if_neg (by omega), if_neg (by omega), if_neg (by omega)]
    simp only [List.cons.injEq, and_true]
    exact ⟨ofNat_eq_of_toNat (by omega), ofNat_eq_of_toNat (by omega),
      ofNat_eq_of_toNat (by omega), ofNat_eq_of_toNat (by omega)⟩

/-! ## Beginnings of encodings -/

/-- The bytes begin the encoding of a character, or are one. -/
def StartsChar (bs : List UInt8) : Prop :=
  ∃ ch, bs <+: String.utf8EncodeChar ch

/-- The proper beginnings of well-formed sequences. -/
inductive Unfinished : List UInt8 → Prop where
  | one {b : UInt8} (hb : 2 ≤ sequenceLength b) : Unfinished [b]
  | two {b c : UInt8} (hb : 3 ≤ sequenceLength b) (hc : isSecond b c = true) : Unfinished [b, c]
  | three {b c d : UInt8} (hb : sequenceLength b = 4) (hc : isSecond b c = true)
      (hd : isContinuation d = true) : Unfinished [b, c, d]

/-- The byte may come next in a sequence that begins so. -/
def fits : List UInt8 → UInt8 → Bool
  | [b], y => isSecond b y
  | _, y => isContinuation y

theorem sequenceLength_eq_one : sequenceLength b = 1 ↔ b.toNat ≤ 0x7f := by
  rw [sequenceLength_eq]
  grind

theorem sequenceLength_eq_two : sequenceLength b = 2 ↔ 0xc2 ≤ b.toNat ∧ b.toNat ≤ 0xdf := by
  rw [sequenceLength_eq]
  grind

theorem sequenceLength_eq_three : sequenceLength b = 3 ↔ 0xe0 ≤ b.toNat ∧ b.toNat ≤ 0xef := by
  rw [sequenceLength_eq]
  grind

theorem sequenceLength_eq_four : sequenceLength b = 4 ↔ 0xf0 ≤ b.toNat ∧ b.toNat ≤ 0xf4 := by
  rw [sequenceLength_eq]
  grind

theorem sequenceLength_le (b : UInt8) : sequenceLength b ≤ 4 := by
  rw [sequenceLength_eq]
  grind

theorem Unfinished.ne_nil (h : Unfinished t) : t ≠ [] := by
  cases h <;> simp

theorem Unfinished.length_le (h : Unfinished t) : t.length ≤ 3 := by
  cases h <;> simp

theorem WellFormed.sequenceLength_eq (h : WellFormed (b :: bs) n) :
    sequenceLength b = bs.length + 1 := by
  cases h with
  | one hb => exact sequenceLength_eq_one.2 hb
  | two hb => exact sequenceLength_eq_two.2 hb
  | three hb => exact sequenceLength_eq_three.2 hb
  | four hb => exact sequenceLength_eq_four.2 hb

theorem sequenceLength_of_fits (h : Unfinished t) (hy : fits t y = true) :
    sequenceLength y = 0 := by
  have hcont : 0x80 ≤ y.toNat ∧ y.toNat ≤ 0xbf := by
    cases h with
    | one hb =>
      have := isSecond_iff.1 hy
      omega
    | two hb hc => exact isContinuation_iff.1 hy
    | three hb hc hd => exact isContinuation_iff.1 hy
  rw [sequenceLength_eq]
  grind

theorem WellFormed.cut (ht : t ≠ []) (h : WellFormed (t ++ y :: more) n) :
    Unfinished t ∧ fits t y = true := by
  match t, ht with
  | [b], _ =>
    change WellFormed (b :: y :: more) n at h
    have hlen : 2 ≤ sequenceLength b := by
      rw [h.sequenceLength_eq, List.length_cons]
      omega
    cases h with
    | two hb hc hn => exact ⟨.one hlen, hc⟩
    | three hb hc hd hn => exact ⟨.one hlen, hc⟩
    | four hb hc hd he hn => exact ⟨.one hlen, hc⟩
  | [b, c], _ =>
    change WellFormed (b :: c :: y :: more) n at h
    have hlen : 3 ≤ sequenceLength b := by
      rw [h.sequenceLength_eq, List.length_cons, List.length_cons]
      omega
    cases h with
    | three hb hc hd hn => exact ⟨.two hlen hc, hd⟩
    | four hb hc hd he hn => exact ⟨.two hlen hc, hd⟩
  | [b, c, d], _ =>
    change WellFormed (b :: c :: d :: y :: more) n at h
    have hlen := h.sequenceLength_eq
    cases h with
    | four hb hc hd he hn => exact ⟨.three hlen hc hd, he⟩
  | b :: _ :: _ :: _ :: _, _ =>
    -- no sequence has as many bytes
    have hlen := WellFormed.sequenceLength_eq (b := b) h
    have hle := sequenceLength_le b
    simp only [List.append_eq, List.length_append, List.length_cons] at hlen
    omega

theorem Unfinished.extend (h : Unfinished t) (hy : fits t y = true) :
    (∃ ch, String.utf8EncodeChar ch = t ++ [y]) ∨ Unfinished (t ++ [y]) := by
  cases h with
  | @one b hb =>
    by_cases hlen : sequenceLength b = 2
    · have hwf := WellFormed.two (sequenceLength_eq_two.1 hlen) hy rfl
      exact .inl ⟨_, hwf.encode⟩
    · exact .inr (.two (by omega) hy)
  | @two b c hb hc =>
    by_cases hlen : sequenceLength b = 3
    · have hwf := WellFormed.three (sequenceLength_eq_three.1 hlen) hc hy rfl
      exact .inl ⟨_, hwf.encode⟩
    · have := sequenceLength_le b
      exact .inr (.three (by omega) hc hy)
  | three hb hc hd =>
    have hwf := WellFormed.four (sequenceLength_eq_four.1 hb) hc hd hy rfl
    exact .inl ⟨_, hwf.encode⟩

theorem exists_fits (h : Unfinished t) : ∃ y, fits t y = true := by
  cases h with
  | @one b hb =>
    refine ⟨(secondRange b).1, ?_⟩
    simp only [fits, isSecond, secondRange, UInt8.le_iff_toNat_le]
    split_ifs <;> simp
  | two hb hc => exact ⟨0x80, by simp [fits, isContinuation]⟩
  | three hb hc hd => exact ⟨0x80, by simp [fits, isContinuation]⟩

/-- Every beginning can be completed. The induction is on the bytes that may still be missing. -/
theorem Unfinished.complete (h : Unfinished t) :
    ∃ ch y more, String.utf8EncodeChar ch = t ++ y :: more := by
  induction hmissing : 3 - t.length generalizing t with
  | zero =>
    obtain ⟨y, hy⟩ := exists_fits h
    obtain ⟨ch, hch⟩ | hext := h.extend hy
    · exact ⟨ch, y, [], hch⟩
    · have hlen := hext.length_le
      rw [List.length_append, List.length_singleton] at hlen
      omega
  | succ missing ih =>
    obtain ⟨y, hy⟩ := exists_fits h
    obtain ⟨ch, hch⟩ | hext := h.extend hy
    · exact ⟨ch, y, [], hch⟩
    · have hfewer : 3 - (t ++ [y]).length = missing := by
        rw [List.length_append, List.length_singleton]
        omega
      obtain ⟨ch, z, more, hch⟩ := ih hext hfewer
      exact ⟨ch, y, z :: more, by simpa using hch⟩

theorem unfinished_iff :
    Unfinished t ↔ t ≠ [] ∧ ∃ ch y more, String.utf8EncodeChar ch = t ++ y :: more := by
  constructor
  · intro h
    exact ⟨h.ne_nil, h.complete⟩
  · rintro ⟨ht, ch, y, more, hch⟩
    exact ((hch ▸ wellFormed_encode ch).cut ht).1

theorem Unfinished.startsChar (h : Unfinished t) : StartsChar t := by
  obtain ⟨ch, y, more, hch⟩ := h.complete
  exact ⟨ch, y :: more, hch.symm⟩

theorem Unfinished.fits_iff (h : Unfinished t) : fits t y = true ↔ StartsChar (t ++ [y]) := by
  constructor
  · intro hy
    obtain ⟨ch, hch⟩ | hext := h.extend hy
    · exact ⟨ch, hch ▸ List.prefix_rfl⟩
    · exact hext.startsChar
  · rintro ⟨ch, more, hch⟩
    have hwf : WellFormed (t ++ y :: more) ch.val.toNat := by
      rw [List.append_cons, hch]
      exact wellFormed_encode ch
    exact (hwf.cut h.ne_nil).2

theorem StartsChar.sequenceLength_pos (h : StartsChar (b :: bs)) : 0 < sequenceLength b := by
  obtain ⟨ch, more, hch⟩ := h
  have hwf : WellFormed (b :: (bs ++ more)) ch.val.toNat := by
    rw [← List.cons_append, hch]
    exact wellFormed_encode ch
  rw [hwf.sequenceLength_eq]
  omega

/-! ## What is found at the start of a sequence -/

/-- What may stand at the start of a sequence, by the bytes after the first. -/
inductive Reads (b : UInt8) : List UInt8 → First → Prop where
  | char (more rest : List UInt8) {ch : Char} (h : String.utf8EncodeChar ch = b :: more) :
      Reads b (more ++ rest) (.char ch rest)
  /-- No sequence begins with the byte. -/
  | stray {bs : List UInt8} (h : sequenceLength b = 0) : Reads b bs (.invalid bs)
  /-- A sequence begins but does not go on. -/
  | broken (more rest : List UInt8) {y : UInt8} (h : Unfinished (b :: more))
      (hy : fits (b :: more) y = false) : Reads b (more ++ y :: rest) (.invalid (y :: rest))
  | unfinished {bs : List UInt8} (h : Unfinished (b :: bs)) : Reads b bs .unfinished

theorem Reads.eq (h : Reads b bs found) : decodeFirst b bs = found := by
  cases h with
  | @char more rest ch h =>
    have hwf := wellFormed_encode ch
    rw [h] at hwf
    cases hwf with
    | one hb hn => simp [decodeFirst, sequenceLength_eq_one.2 hb, ← hn]
    | two hb hc hn => simp [decodeFirst, sequenceLength_eq_two.2 hb, hc, ← hn]
    | three hb hc hd hn => simp [decodeFirst, sequenceLength_eq_three.2 hb, hc, hd, ← hn]
    | four hb hc hd he hn =>
      simp [decodeFirst, sequenceLength_eq_four.2 hb, hc, hd, he, ← hn]
  | stray h => simp [decodeFirst, h]
  | broken more rest h hy =>
    have hle := sequenceLength_le b
    cases h with
    | one hb =>
      obtain hlen | hlen | hlen : sequenceLength b = 2 ∨ sequenceLength b = 3 ∨
        sequenceLength b = 4 := by omega
      all_goals simp_all [decodeFirst, fits]
    | two hb hc =>
      obtain hlen | hlen : sequenceLength b = 3 ∨ sequenceLength b = 4 := by omega
      all_goals simp_all [decodeFirst, fits]
    | three hb hc hd => simp_all [decodeFirst, fits]
  | unfinished h =>
    have hle := sequenceLength_le b
    cases h with
    | one hb =>
      obtain hlen | hlen | hlen : sequenceLength b = 2 ∨ sequenceLength b = 3 ∨
        sequenceLength b = 4 := by omega
      all_goals simp [decodeFirst, hlen]
    | two hb hc =>
      obtain hlen | hlen : sequenceLength b = 3 ∨ sequenceLength b = 4 := by omega
      all_goals simp [decodeFirst, hlen, hc]
    | three hb hc hd => simp [decodeFirst, hb, hc, hd]

/-- A beginning goes on as long as the next byte fits. The induction is on the bytes after it. -/
theorem Unfinished.reads (h : Unfinished (b :: more)) : ∃ found, Reads b (more ++ bs) found := by
  induction bs generalizing more with
  | nil => exact ⟨.unfinished, .unfinished (by simpa using h)⟩
  | cons y rest ih =>
    cases hy : fits (b :: more) y with
    | false => exact ⟨_, .broken more rest h hy⟩
    | true =>
      rw [List.append_cons]
      obtain ⟨ch, hch⟩ | hext := h.extend hy
      · exact ⟨_, .char (more ++ [y]) rest hch⟩
      · exact ih hext

theorem reads_decodeFirst (b : UInt8) (bs : List UInt8) : Reads b bs (decodeFirst b bs) := by
  have hsome : ∃ found, Reads b bs found := by
    obtain hlen | hlen | hlen : sequenceLength b = 0 ∨ sequenceLength b = 1 ∨
      2 ≤ sequenceLength b := by omega
    · exact ⟨_, .stray hlen⟩
    · have hwf := WellFormed.one (sequenceLength_eq_one.1 hlen) rfl
      exact ⟨_, .char [] bs hwf.encode⟩
    · exact (Unfinished.one hlen).reads
  obtain ⟨found, hfound⟩ := hsome
  exact hfound.eq ▸ hfound

theorem decodeFirst_eq_iff : decodeFirst b bs = found ↔ Reads b bs found :=
  ⟨fun h => h ▸ reads_decodeFirst b bs, Reads.eq⟩

theorem decodeFirst_eq_char_iff :
    decodeFirst b bs = .char ch rest ↔ b :: bs = String.utf8EncodeChar ch ++ rest := by
  rw [decodeFirst_eq_iff]
  constructor
  · intro h
    cases h with
    | char more rest hch => rw [hch, List.cons_append]
  · intro h
    cases hcode : String.utf8EncodeChar ch with
    | nil => exact absurd hcode String.utf8EncodeChar_ne_nil
    | cons b' more =>
      rw [hcode, List.cons_append, List.cons.injEq] at h
      obtain ⟨rfl, rfl⟩ := h
      exact .char more rest hcode

theorem decodeFirst_eq_unfinished_iff : decodeFirst b bs = .unfinished ↔ Unfinished (b :: bs) := by
  rw [decodeFirst_eq_iff]
  constructor
  · intro h
    cases h with
    | unfinished h => exact h
  · exact .unfinished

end GossipPanel.Text.Utf8
