import GossipPanel.Panel.Search

/-!
# Lines of results

A line offers a file when it is the mark, a name, a colon and a hash that has no colon. Every other
line is kept as it is.

* `Offers`: such a line, written without the reader.
* `Offers.unique`: the hash begins behind the last colon, so a line offers one file at most.
* `Entry.ofLine_eq_downloadable_iff`, `Entry.ofLine_eq_info_iff`: what the reader makes of a line.
* `Entry.line_ofLine`: an entry gives back the line that it was read from.
* `offers_recognised`: reading and writing entries, for every line.
-/

namespace GossipPanel.Panel

open Text

/-- The line offers the file of this name and hash. -/
structure Offers (line name hash : String) : Prop where
  line_eq : line = "Downloadable match: " ++ name ++ ":" ++ hash
  name_ne : name ≠ ""
  hash_ne : hash ≠ ""
  no_colon : ':' ∉ hash.toList

theorem offers_iff {line name hash : String} :
    Offers line name hash ↔
      (dropPrefix? downloadableMark.toList line.toList).bind (splitAtLast? ':') =
          some (name.toList, hash.toList) ∧
        name.toList ≠ [] ∧ hash.toList ≠ [] := by
  have hline : line = "Downloadable match: " ++ name ++ ":" ++ hash ↔
      line.toList = downloadableMark.toList ++ (name.toList ++ ':' :: hash.toList) := by
    rw [← String.toList_inj]
    simp [downloadableMark, String.toList_append]
  have hcut : (dropPrefix? downloadableMark.toList line.toList).bind (splitAtLast? ':') =
        some (name.toList, hash.toList) ↔
      line = "Downloadable match: " ++ name ++ ":" ++ hash ∧ ':' ∉ hash.toList := by
    rw [Option.bind_eq_some_iff, hline]
    simp only [dropPrefix?_eq_some_iff, splitAtLast?_eq_some_iff]
    constructor
    · rintro ⟨rest, hrest, rfl, hfree⟩
      exact ⟨hrest, hfree⟩
    · rintro ⟨hrest, hfree⟩
      exact ⟨_, hrest, rfl, hfree⟩
  rw [hcut]
  constructor
  · rintro ⟨hline, hname, hhash, hfree⟩
    exact ⟨⟨hline, hfree⟩, by simpa using hname, by simpa using hhash⟩
  · rintro ⟨⟨hline, hfree⟩, hname, hhash⟩
    exact ⟨hline, by simpa using hname, by simpa using hhash, hfree⟩

theorem Offers.unique {line name hash name' hash' : String} (h : Offers line name hash)
    (h' : Offers line name' hash') : name = name' ∧ hash = hash' := by
  have hcut := (offers_iff.1 h).1.symm.trans (offers_iff.1 h').1
  obtain ⟨hname, hhash⟩ := Prod.mk.inj (Option.some.inj hcut)
  exact ⟨String.toList_inj.1 hname, String.toList_inj.1 hhash⟩

namespace Entry

theorem ofLine_of_offers {line name hash : String} (h : Offers line name hash) :
    ofLine line = .downloadable name hash := by
  obtain ⟨hcut, hname, hhash⟩ := offers_iff.1 h
  simp [ofLine, hcut, hname, hhash]

theorem ofLine_of_not_offers {line : String} (h : ∀ name hash, ¬Offers line name hash) :
    ofLine line = .info line := by
  rw [ofLine]
  split
  · next name hash hcut =>
    split
    · rfl
    · next hparts =>
      refine absurd (offers_iff.2 ?_) (h (String.ofList name) (String.ofList hash))
      simpa [hcut] using hparts
  · rfl

theorem ofLine_eq_downloadable_iff {line name hash : String} :
    ofLine line = .downloadable name hash ↔ Offers line name hash := by
  constructor
  · intro hline
    by_cases h : ∃ name hash, Offers line name hash
    · obtain ⟨name', hash', h'⟩ := h
      rw [ofLine_of_offers h'] at hline
      cases hline
      exact h'
    · simp only [not_exists] at h
      rw [ofLine_of_not_offers h] at hline
      cases hline
  · exact ofLine_of_offers

theorem ofLine_eq_info_iff {line text : String} :
    ofLine line = .info text ↔ text = line ∧ ∀ name hash, ¬Offers line name hash := by
  constructor
  · intro hline
    have hnone : ∀ name hash, ¬Offers line name hash := by
      intro name hash h
      rw [ofLine_of_offers h] at hline
      cases hline
    rw [ofLine_of_not_offers hnone] at hline
    exact ⟨(Entry.info.inj hline).symm, hnone⟩
  · rintro ⟨rfl, hnone⟩
    exact ofLine_of_not_offers hnone

theorem line_ofLine (line : String) : (ofLine line).line = line := by
  cases h : ofLine line with
  | info text => exact (ofLine_eq_info_iff.1 h).1
  | downloadable name hash => exact (ofLine_eq_downloadable_iff.1 h).line_eq.symm

end Entry

/-- **Exactly the lines that offer a file are recognised.** For every line:

* it is read as the offer of a file exactly when it is the mark, the name, a colon and the hash,
  with a name and a hash that are not empty and no colon in the hash; there is at most one such
  name and hash;
* it is kept as it is exactly when there is none;
* an offer that is written out is read back, and every entry that is read gives back its line, so
  no two lines are read alike. -/
theorem offers_recognised (line : String) :
    (∀ name hash, Entry.ofLine line = .downloadable name hash ↔ Offers line name hash) ∧
      (∀ name hash name' hash', Offers line name hash → Offers line name' hash' →
        name = name' ∧ hash = hash') ∧
      (∀ text, Entry.ofLine line = .info text ↔
        text = line ∧ ∀ name hash, ¬Offers line name hash) ∧
      (∀ name hash, name ≠ "" → hash ≠ "" → ':' ∉ hash.toList →
        Entry.ofLine (Entry.downloadable name hash).line = .downloadable name hash) ∧
      (Entry.ofLine line).line = line ∧
      ∀ other, Entry.ofLine other = Entry.ofLine line → other = line := by
  refine ⟨fun _ _ => Entry.ofLine_eq_downloadable_iff, fun _ _ _ _ => Offers.unique,
    fun _ => Entry.ofLine_eq_info_iff, fun name hash hname hhash hfree => ?_,
    Entry.line_ofLine line, fun other hother => ?_⟩
  · exact Entry.ofLine_of_offers ⟨rfl, hname, hhash, hfree⟩
  · rw [← Entry.line_ofLine other, hother, Entry.line_ofLine]

end GossipPanel.Panel
