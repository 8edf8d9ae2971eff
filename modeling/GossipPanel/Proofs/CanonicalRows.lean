import GossipPanel.Panel.Feed
import GossipPanel.Proofs.Utf8.Order
import Mathlib.Data.List.Nodup

/-!
# Rows in canonical order

The lists of peers and of routes are determined by their records: one row for each key, made of the
first record with that key, in the order of the bytes of the keys.

* `Rows`: the rows that records should have, for any kind of record and row.
* `Rows.unique`: there is at most one such list; `rows_canonical`: keeping the first record of each
  key and sorting by key makes it.
* `Rows.congr`: the records count through their keys and the first record of each only, so neither
  their order (`firstWith_of_perm`) nor later records with the same key matter.
* `rows_of_records`: all this for the lists of the panel.
-/

namespace GossipPanel.Panel

open Node Text.Utf8

/-! ## Rows of records -/

/-- The first record with a key. -/
def firstWith {α : Type} (key : α → String) (records : List α) (k : String) : Option α :=
  records.find? fun a => key a == k

/-- One row for each key of the records, in the order of the bytes of the keys; each shows the
first record with its key. -/
structure Rows {α β : Type} (key : α → String) (rowKey : β → String) (shows : β → α → Prop)
    (records : List α) (rows : List β) : Prop where
  increasing : (rows.map rowKey).Pairwise ByteLt
  keys : ∀ k, k ∈ rows.map rowKey ↔ k ∈ records.map key
  first : ∀ row ∈ rows, ∃ record,
    firstWith key records (rowKey row) = some record ∧ shows row record

section
variable {α β : Type} {key : α → String} {rowKey : β → String} {shows : β → α → Prop}
  {records records' : List α} {rows rows' : List β}

theorem eq_of_increasing {ks ks' : List String} (h : ks.Pairwise ByteLt)
    (h' : ks'.Pairwise ByteLt) (hmem : ∀ k, k ∈ ks ↔ k ∈ ks') : ks = ks' := by
  have hlt {ks : List String} (h : ks.Pairwise ByteLt) : ks.Pairwise (· < ·) :=
    h.imp byteLt_iff.1
  have hnodup {ks : List String} (h : ks.Pairwise ByteLt) : ks.Nodup := (hlt h).imp ne_of_lt
  have hperm : ks.Perm ks' := (List.perm_ext_iff_of_nodup (hnodup h) (hnodup h')).2 hmem
  refine hperm.eq_of_pairwise (fun k l _ _ hkl hlk => ?_) (hlt h) (hlt h')
  exact absurd hlk (lt_asymm hkl)

theorem eq_of_map_eq (hkeys : rows.map rowKey = rows'.map rowKey)
    (hrows : ∀ row ∈ rows, ∀ row' ∈ rows', rowKey row = rowKey row' → row = row') :
    rows = rows' := by
  induction rows generalizing rows' with
  | nil => exact (List.map_eq_nil_iff.1 hkeys.symm).symm
  | cons row rows ih =>
    cases rows' with
    | nil => cases hkeys
    | cons row' rows' =>
      obtain ⟨hkey, hkeys⟩ := List.cons.inj hkeys
      rw [hrows row List.mem_cons_self row' List.mem_cons_self hkey]
      refine congrArg (row' :: ·) (ih hkeys fun r hr r' hr' => ?_)
      exact hrows r (List.mem_cons_of_mem _ hr) r' (List.mem_cons_of_mem _ hr')

theorem Rows.unique (h : Rows key rowKey shows records rows)
    (h' : Rows key rowKey shows records rows')
    (hshows : ∀ {row row' : β} {record : α}, rowKey row = rowKey row' → shows row record →
      shows row' record → row = row') : rows = rows' := by
  have hkeys : rows.map rowKey = rows'.map rowKey :=
    eq_of_increasing h.increasing h'.increasing fun k => (h.keys k).trans (h'.keys k).symm
  refine eq_of_map_eq hkeys fun row hrow row' hrow' hkey => ?_
  obtain ⟨record, hfind, hshow⟩ := h.first row hrow
  obtain ⟨record', hfind', hshow'⟩ := h'.first row' hrow'
  rw [← hkey, hfind] at hfind'
  obtain rfl : record = record' := Option.some.inj hfind'
  exact hshows hkey hshow hshow'

/-- The first record of each key, sorted by key, makes the rows. -/
theorem rows_canonical (rowOf : α → β) (hkey : ∀ record, rowKey (rowOf record) = key record)
    (hshows : ∀ record, shows (rowOf record) record) (records : List α) :
    Rows key rowKey shows records ((canonical key records).map rowOf) := by
  have hperm := perm_canonical key records
  have hmap : ((canonical key records).map rowOf).map rowKey =
      (canonical key records).map key := by
    rw [List.map_map]
    exact List.map_congr_left fun record _ => hkey record
  constructor
  · have hnodup : ((canonical key records).map key).Pairwise (· ≠ ·) :=
      (hperm.map key).nodup_iff.2 (nodup_map_firstByKey key records)
    have hsorted : ((canonical key records).map key).Pairwise (· ≤ ·) :=
      List.pairwise_map.2 (sorted_canonical key records)
    rw [hmap]
    exact hsorted.imp₂ (fun k l hle hne => byteLt_iff.2 (lt_of_le_of_ne hle hne)) hnodup
  · intro k
    rw [hmap, (hperm.map key).mem_iff, mem_map_firstByKey]
  · intro row hrow
    obtain ⟨record, hrecord, rfl⟩ := List.mem_map.1 hrow
    rw [hkey]
    exact ⟨record, find?_of_mem_firstByKey (hperm.mem_iff.1 hrecord), hshows record⟩

/-! ## What the rows depend on -/

theorem isSome_firstWith {k : String} :
    (firstWith key records k).isSome ↔ k ∈ records.map key := by
  simp [firstWith, List.find?_isSome]

theorem Rows.congr (h : Rows key rowKey shows records rows)
    (hfirst : ∀ k, firstWith key records' k = firstWith key records k) :
    Rows key rowKey shows records' rows := by
  refine ⟨h.increasing, fun k => ?_, fun row hrow => ?_⟩
  · rw [h.keys, ← isSome_firstWith, ← isSome_firstWith, hfirst]
  · rw [hfirst]
    exact h.first row hrow

theorem firstWith_eq_some_iff (hnodup : (records.map key).Nodup) {k : String} {a : α} :
    firstWith key records k = some a ↔ a ∈ records ∧ key a = k := by
  have hfound {a : α} (h : firstWith key records k = some a) : a ∈ records ∧ key a = k := by
    have hkey : (key a == k) = true := List.find?_some (p := fun a => key a == k) h
    exact ⟨List.mem_of_find?_eq_some h, eq_of_beq hkey⟩
  constructor
  · exact hfound
  · rintro ⟨ha, rfl⟩
    obtain ⟨b, hb⟩ := Option.isSome_iff_exists.1 (isSome_firstWith.2 (List.mem_map_of_mem ha))
    obtain ⟨hmem, hkey⟩ := hfound hb
    rw [hb, List.inj_on_of_nodup_map hnodup hmem ha hkey]

theorem firstWith_of_perm (hperm : records.Perm records') (hnodup : (records.map key).Nodup)
    (k : String) : firstWith key records' k = firstWith key records k := by
  have hnodup' : (records'.map key).Nodup := (hperm.map key).nodup_iff.1 hnodup
  refine Option.ext fun a => ?_
  rw [firstWith_eq_some_iff hnodup, firstWith_eq_some_iff hnodup', hperm.mem_iff]

theorem firstWith_of_repeated {before : List α} {a : α} (ha : key a ∈ before.map key)
    (after : List α) (k : String) :
    firstWith key (before ++ a :: after) k = firstWith key (before ++ after) k := by
  rw [firstWith, firstWith, List.find?_append, List.find?_append, List.find?_cons]
  cases hk : key a == k with
  | false => rfl
  | true =>
    rw [eq_of_beq hk] at ha
    obtain ⟨first, hfirst⟩ := Option.isSome_iff_exists.1 (isSome_firstWith.2 ha)
    rw [firstWith] at hfirst
    rw [hfirst]
    rfl

end

/-! ## The lists of the panel -/

/-- `render` makes the rows of records and no others. The order of records with distinct keys does
not matter to it, nor does a record behind another one with its key. -/
structure RendersRows {α β : Type} (key : α → String) (rowKey : β → String)
    (shows : β → α → Prop) (render : List α → List β) : Prop where
  rows_iff : ∀ records rows, Rows key rowKey shows records rows ↔ rows = render records
  order : ∀ records records', records.Perm records' → (records.map key).Nodup →
    render records = render records'
  repeated : ∀ before record after, key record ∈ before.map key →
    render (before ++ record :: after) = render (before ++ after)

theorem rendersRows {α β : Type} {key : α → String} {rowKey : β → String} {shows : β → α → Prop}
    (rowOf : α → β) (hkey : ∀ record, rowKey (rowOf record) = key record)
    (hshows : ∀ record, shows (rowOf record) record)
    (hunique : ∀ {row row' : β} {record : α}, rowKey row = rowKey row' → shows row record →
      shows row' record → row = row') :
    RendersRows key rowKey shows fun records => (canonical key records).map rowOf := by
  have hrows := rows_canonical rowOf hkey hshows
  refine ⟨fun records rows => ⟨fun h => h.unique (hrows records) hunique, ?_⟩, ?_, ?_⟩
  · rintro rfl
    exact hrows records
  · intro records records' hperm hnodup
    exact (hrows records).unique
      ((hrows records').congr fun k => (firstWith_of_perm hperm hnodup k).symm) hunique
  · intro before record after hrecord
    exact (hrows _).unique
      ((hrows _).congr fun k => firstWith_of_repeated hrecord after k) hunique

theorem kind_eq_of_label_eq {kind kind' : PeerKind} (h : kind.label = kind'.label) :
    kind = kind' := by
  cases kind <;> cases kind' <;> first | rfl | exact absurd h (by decide)

/-- The row shows how the node learned about the peer. -/
def PeerRow.Shows (row : PeerRow) (peer : PeerRecord) : Prop :=
  row.kind.label = peer.kind.label

/-- The row shows the next hop, if the node reports it, and whether a conversation is open. -/
def RouteRow.Shows (isOpen : String → Bool) (row : RouteRow) (route : RouteRecord) : Prop :=
  (if route.nextHop = "" then row.via = "" else row.via = "through " ++ route.nextHop) ∧
    row.hasTab = isOpen row.origin

theorem PeerRow.Shows.unique {row row' : PeerRow} {peer : PeerRecord}
    (haddress : row.address = row'.address) (h : row.Shows peer) (h' : row'.Shows peer) :
    row = row' := by
  obtain ⟨address, kind⟩ := row
  obtain ⟨address', kind'⟩ := row'
  have hkind : kind = kind' := kind_eq_of_label_eq (h.trans h'.symm)
  rw [hkind]
  exact congrArg (PeerRow.mk · kind') haddress

theorem RouteRow.Shows.via_eq {isOpen : String → Bool} {row : RouteRow} {route : RouteRecord}
    (h : row.Shows isOpen route) : row.via = viaText route.nextHop := by
  have hvia := h.1
  rw [viaText]
  split at hvia
  · rwa [if_pos ‹_›]
  · rwa [if_neg ‹_›]

theorem RouteRow.shows_of_record (isOpen : String → Bool) (route : RouteRecord) :
    RouteRow.Shows isOpen ⟨route.origin, viaText route.nextHop, isOpen route.origin⟩ route := by
  refine ⟨?_, rfl⟩
  split
  · exact if_pos ‹_›
  · exact if_neg ‹_›

theorem RouteRow.Shows.unique {isOpen : String → Bool} {row row' : RouteRow} {route : RouteRecord}
    (horigin : row.origin = row'.origin) (h : row.Shows isOpen route)
    (h' : row'.Shows isOpen route) : row = row' := by
  have hvia : row.via = row'.via := h.via_eq.trans h'.via_eq.symm
  have htab : row.hasTab = row'.hasTab := by rw [h.2, h'.2, horigin]
  obtain ⟨origin, via, hasTab⟩ := row
  cases horigin
  cases hvia
  cases htab
  rfl

/-- **The lists of peers and routes are canonical.** For all records:

* the rows are exactly the list that increases by address, or by origin, in the order of bytes,
  has one row for each address or origin that occurs, and shows there the first record with it:
  its kind, or its next hop and whether a conversation with the origin is open;
* records with distinct addresses or origins may come in any order;
* a record with an address or origin that has occurred before changes nothing. -/
theorem rows_of_records :
    RendersRows PeerRecord.address PeerRow.address PeerRow.Shows peerRows ∧
      ∀ isOpen, RendersRows RouteRecord.origin RouteRow.origin (RouteRow.Shows isOpen)
        (routeRows · isOpen) := by
  constructor
  · exact rendersRows (fun p : PeerRecord => PeerRow.mk p.address p.kind) (fun _ => rfl)
      (fun _ => rfl) PeerRow.Shows.unique
  · intro isOpen
    exact rendersRows
      (fun r : RouteRecord => RouteRow.mk r.origin (viaText r.nextHop) (isOpen r.origin))
      (fun _ => rfl) (RouteRow.shows_of_record isOpen) RouteRow.Shows.unique

end GossipPanel.Panel
