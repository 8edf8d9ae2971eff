import GossipPanel.Proofs.Utf8.Lossy
import Mathlib.Data.String.Basic

/-!
# The order of encoded texts

Texts compare by their characters as they compare by their bytes.

* `WellFormed.lex`: the encoding of a smaller character comes first, whatever follows the two.
* `byteLt_iff`: the order of the bytes of two texts is the order of the texts.
-/

namespace GossipPanel.Text.Utf8

/-- The bytes of the first text come before those of the second in a dictionary. -/
def ByteLt (s t : String) : Prop :=
  List.Lex (· < ·) (encode s) (encode t)

section
variable {b b' : UInt8} {bs bs' xs ys : List UInt8} {m n : Nat} {cs ds : List Char}

theorem lex_of_lt (h : b.toNat < b'.toNat) : List.Lex (· < ·) (b :: xs) (b' :: ys) :=
  .rel (UInt8.lt_iff_toNat_lt.2 h)

theorem lex_of_le (hle : b.toNat ≤ b'.toNat)
    (hrest : b.toNat = b'.toNat → List.Lex (· < ·) xs ys) :
    List.Lex (· < ·) (b :: xs) (b' :: ys) := by
  rcases Nat.lt_or_eq_of_le hle with hlt | heq
  · exact lex_of_lt hlt
  · rw [UInt8.toNat_inj.1 heq]
    exact .cons (hrest heq)

/-- Longer encodings begin with greater bytes and stand for greater characters; encodings of one
length are compared byte by byte. -/
theorem WellFormed.lex (h : WellFormed bs m) (h' : WellFormed bs' n) (hlt : m < n)
    (xs ys : List UInt8) : List.Lex (· < ·) (bs ++ xs) (bs' ++ ys) := by
  cases h with
  | one hb hm =>
    cases h' with
    | one hb' hn => exact lex_of_lt (by omega)
    | two hb' => exact lex_of_lt (by omega)
    | three hb' => exact lex_of_lt (by omega)
    | four hb' => exact lex_of_lt (by omega)
  | two hb hc hm =>
    have hc := isSecond_iff.1 hc
    rw [payload] at hm
    cases h' with
    | one hb' hn => omega
    | two hb' hc' hn =>
      have hc' := isSecond_iff.1 hc'
      rw [payload] at hn
      refine lex_of_le (by omega) fun hfirst => lex_of_lt (by omega)
    | three hb' => exact lex_of_lt (by omega)
    | four hb' => exact lex_of_lt (by omega)
  | three hb hc hd hm =>
    have hc := isSecond_iff.1 hc
    have hd := isContinuation_iff.1 hd
    rw [payload, payload] at hm
    cases h' with
    | one hb' hn => omega
    | two hb' hc' hn =>
      rw [payload] at hn
      omega
    | three hb' hc' hd' hn =>
      have hc' := isSecond_iff.1 hc'
      have hd' := isContinuation_iff.1 hd'
      rw [payload, payload] at hn
      refine lex_of_le (by omega) fun hfirst => lex_of_le (by omega) fun hsecond =>
        lex_of_lt (by omega)
    | four hb' => exact lex_of_lt (by omega)
  | four hb hc hd he hm =>
    have hc := isSecond_iff.1 hc
    have hd := isContinuation_iff.1 hd
    have he := isContinuation_iff.1 he
    rw [payload, payload, payload] at hm
    cases h' with
    | one hb' hn => omega
    | two hb' hc' hn =>
      rw [payload] at hn
      omega
    | three hb' hc' hd' hn =>
      rw [payload, payload] at hn
      omega
    | four hb' hc' hd' he' hn =>
      have hc' := isSecond_iff.1 hc'
      have hd' := isContinuation_iff.1 hd'
      have he' := isContinuation_iff.1 he'
      rw [payload, payload, payload] at hn
      refine lex_of_le (by omega) fun hfirst => lex_of_le (by omega) fun hsecond =>
        lex_of_le (by omega) fun hthird => lex_of_lt (by omega)

theorem lex_flatMap_encodeChar (h : List.Lex (· < ·) cs ds) :
    List.Lex (· < ·) (cs.flatMap String.utf8EncodeChar) (ds.flatMap String.utf8EncodeChar) := by
  induction h with
  | @nil d ds =>
    obtain ⟨b, bs, hd⟩ := List.exists_cons_of_ne_nil (String.utf8EncodeChar_ne_nil (c := d))
    rw [List.flatMap_nil, List.flatMap_cons, hd]
    exact .nil
  | @rel c cs d ds hcd =>
    have hval : c.val.toNat < d.val.toNat := UInt32.lt_iff_toNat_lt.1 (Char.lt_def.1 hcd)
    rw [List.flatMap_cons, List.flatMap_cons]
    exact (wellFormed_encode c).lex (wellFormed_encode d) hval _ _
  | cons _ ih =>
    rw [List.flatMap_cons, List.flatMap_cons]
    exact List.Lex.append_left _ ih _

end

theorem byteLt_iff {s t : String} : ByteLt s t ↔ s < t := by
  have hlex {s t : String} (h : s < t) : ByteLt s t := by
    rw [ByteLt, encode_eq_flatMap, encode_eq_flatMap]
    exact lex_flatMap_encodeChar h
  constructor
  · intro h
    rcases lt_trichotomy s t with hlt | rfl | hgt
    · exact hlt
    · exact absurd h (List.lex_irrefl UInt8.lt_irrefl _)
    · exact absurd (hlex hgt) (List.lex_asymm UInt8.lt_asymm h)
  · exact hlex

end GossipPanel.Text.Utf8
