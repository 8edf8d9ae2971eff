import GossipPanel.Node.Record
import GossipPanel.Text.Bytes
import GossipPanel.Text.Numeral

/-!
# Rows made of records

* Messages keep their order.
* Peers and routes are listed once, as their first record says, sorted by address and by origin.
-/

namespace GossipPanel.Panel

open Node Text

structure MessageRow where
  author : String
  relay : String
  seqId : UInt32
  date : String
  content : String
  hash : String
  /-- Written by the controlled node. -/
  isSelf : Bool
  /-- The first message of its origin. -/
  isOrigin : Bool
  deriving DecidableEq, Repr

structure PeerRow where
  address : String
  kind : PeerKind
  deriving DecidableEq, Repr

structure RouteRow where
  origin : String
  /-- The next hop in words, or nothing. -/
  via : String
  /-- A conversation with the origin is open. -/
  hasTab : Bool
  deriving DecidableEq, Repr

/-- The calendar date of a time stamp: its first ten characters, in every format in use. -/
def dateOf (firstSeen : String) : String :=
  String.ofList (firstSeen.toList.take 10)

/-- The first twelve bytes of a hash; the whole of one that is shorter or cannot be cut there. -/
def shortHash (hash : String) : String :=
  ((takeBytes? 12 hash.toList).map String.ofList).getD hash

/-- When a message was seen, through whom, its number and its hash. -/
def MessageRow.details (r : MessageRow) : String :=
  "seen " ++ r.date ++ (if r.relay = "" then "" else " · relay " ++ r.relay) ++
    " · id " ++ decimal r.seqId.toNat ++
    (if r.hash = "" then "" else " · hash " ++ shortHash r.hash)

def MessageRow.ofRecord (identity : String) (m : MessageRecord) : MessageRow :=
  { author := m.fromNode
    relay := m.fromAddress
    seqId := m.seqId
    date := dateOf m.firstSeen
    content := m.content
    hash := m.hash
    isSelf := identity != "" && m.fromNode == identity
    isOrigin := m.seqId == 0 }

def messageRows (messages : List MessageRecord) (identity : String) : List MessageRow :=
  messages.map (.ofRecord identity)

/-- The first element with each key. -/
def firstByKey {α : Type} (key : α → String) : List α → List α
  | [] => []
  | a :: as => a :: (firstByKey key as).filter fun b => key b != key a

/-- The first element with each key, in the order of the keys. -/
def canonical {α : Type} (key : α → String) (as : List α) : List α :=
  (firstByKey key as).mergeSort fun a b => decide (key a ≤ key b)

def peerRows (peers : List PeerRecord) : List PeerRow :=
  (canonical PeerRecord.address peers).map fun p => ⟨p.address, p.kind⟩

/-- The next hop of a route in words. -/
def viaText (nextHop : String) : String :=
  if nextHop = "" then "" else "through " ++ nextHop

/-- The rows of the route list; `isOpen` tells which origins have a conversation. -/
def routeRows (routes : List RouteRecord) (isOpen : String → Bool) : List RouteRow :=
  (canonical RouteRecord.origin routes).map fun r => ⟨r.origin, viaText r.nextHop, isOpen r.origin⟩

/-! ## One row for each key -/

section
variable {α : Type} {key : α → String} {k : String} {as : List α}

theorem mem_map_firstByKey : k ∈ (firstByKey key as).map key ↔ k ∈ as.map key := by
  induction as with
  | nil => rfl
  | cons a as ih =>
    have hfilter : ((firstByKey key as).filter fun b => key b != key a).map key =
        ((firstByKey key as).map key).filter (· != key a) := by
      rw [List.filter_map]
      rfl
    rw [firstByKey, List.map_cons, List.map_cons, List.mem_cons, List.mem_cons, hfilter,
      List.mem_filter, ih]
    by_cases hk : k = key a <;> simp [hk]

theorem nodup_map_firstByKey (key : α → String) (as : List α) :
    ((firstByKey key as).map key).Nodup := by
  induction as with
  | nil => exact List.nodup_nil
  | cons a as ih =>
    rw [firstByKey, List.map_cons, List.nodup_cons]
    refine ⟨fun hmem => ?_, ih.sublist (List.filter_sublist.map key)⟩
    obtain ⟨b, hb, hkey⟩ := List.mem_map.1 hmem
    simp [hkey] at hb

theorem find?_of_mem_firstByKey {a : α} (h : a ∈ firstByKey key as) :
    as.find? (fun b => key b == key a) = some a := by
  induction as with
  | nil => cases h
  | cons b as ih =>
    rcases List.mem_cons.1 h with rfl | h
    · exact List.find?_cons_of_pos (beq_self_eq_true _)
    · obtain ⟨hmem, hne⟩ := List.mem_filter.1 h
      have hkey : (key b == key a) = false := beq_false_of_ne (Ne.symm (bne_iff_ne.1 hne))
      simp only [List.find?_cons, hkey]
      exact ih hmem

theorem perm_canonical (key : α → String) (as : List α) :
    (canonical key as).Perm (firstByKey key as) :=
  List.mergeSort_perm _ _

theorem mem_of_mem_canonical {a : α} (h : a ∈ canonical key as) : a ∈ as :=
  List.mem_of_find?_eq_some (find?_of_mem_firstByKey ((perm_canonical key as).mem_iff.1 h))

theorem sorted_canonical (key : α → String) (as : List α) :
    (canonical key as).Pairwise fun a b => key a ≤ key b := by
  have htrans : ∀ a b c, decide (key a ≤ key b) → decide (key b ≤ key c) →
      decide (key a ≤ key c) := by
    intro a b c hab hbc
    exact decide_eq_true (String.le_trans (of_decide_eq_true hab) (of_decide_eq_true hbc))
  have htotal : ∀ a b, decide (key a ≤ key b) || decide (key b ≤ key a) := by
    intro a b
    simpa using String.le_total (key a) (key b)
  have hsorted := List.pairwise_mergeSort htrans htotal (firstByKey key as)
  exact hsorted.imp of_decide_eq_true

end

theorem filter_routeRows {routes : List RouteRecord} {origin : String}
    (hlisted : origin ∈ routes.map RouteRecord.origin) (isOpen : String → Bool) :
    ∃ via, (routeRows routes isOpen).filter (·.origin == origin) =
      [⟨origin, via, isOpen origin⟩] := by
  have hperm := (perm_canonical RouteRecord.origin routes).map RouteRecord.origin
  have hnodup : ((canonical RouteRecord.origin routes).map RouteRecord.origin).Nodup :=
    hperm.nodup_iff.2 (nodup_map_firstByKey _ _)
  have hmem : origin ∈ (canonical RouteRecord.origin routes).map RouteRecord.origin :=
    hperm.mem_iff.2 (mem_map_firstByKey.2 hlisted)
  have hone : ((canonical RouteRecord.origin routes).filter (·.origin == origin)).map
      RouteRecord.origin = [origin] := by
    have hfilter := List.filter_map (f := RouteRecord.origin) (p := (· == origin))
      (l := canonical RouteRecord.origin routes)
    refine hfilter.symm.trans ?_
    rw [List.filter_beq, hnodup.count, if_pos hmem]
    rfl
  obtain ⟨r, hr, rfl⟩ := List.map_eq_singleton_iff.1 hone
  refine ⟨viaText r.nextHop, ?_⟩
  rw [routeRows, List.filter_map]
  exact congrArg (List.map _) hr

end GossipPanel.Panel
