import GossipPanel.Node.Wire
import Mathlib.Data.List.Perm.Basic

/-!
# The fields of a record

What the decoders see of an object or an array, and how they read a single field of it.

* `own name members` are the values that an object gives under a name; `member?_eq_some_iff` says
  when `member?` finds one, whatever else the object holds.
* `ReadsField`: the datum that a reader finds in a field, and what a missing field stands for.
* `arrange?_ofMembers`: the object made of the first fields of a record is arranged like the array
  of these fields.
* `decodePeer?_eq_some_iff`, …: a record is decoded when every field of it is read.
* `decodeList?_eq_some_iff`: a list is decoded item by item.
-/

namespace GossipPanel.Node.Wire

open Json

theorem mapM_eq_some_iff {α β : Type} {f : α → Option β} {xs : List α} {ys : List β} :
    xs.mapM f = some ys ↔ xs.map f = ys.map some := by
  induction xs generalizing ys with
  | nil => cases ys <;> simp
  | cons x xs ih =>
    rw [List.mapM_cons, List.map_cons]
    cases ys with
    | nil => cases f x <;> cases xs.mapM f <;> simp
    | cons y ys =>
      rw [List.map_cons, List.cons.injEq, ← ih]
      cases f x <;> cases xs.mapM f <;> simp

theorem isSome_mapM_iff {α β : Type} {f : α → Option β} {xs : List α} :
    (xs.mapM f).isSome ↔ ∀ x ∈ xs, (f x).isSome := by
  induction xs with
  | nil => simp
  | cons x xs ih =>
    rw [List.mapM_cons, List.forall_mem_cons, ← ih]
    cases f x <;> cases xs.mapM f <;> simp

/-- The values that the members of an object give under a name. -/
def own (name : String) (members : List (Literal × Value)) : List Value :=
  (members.filter (·.1 == some name)).map (·.2)

section

variable {name : String} {members : List (Literal × Value)}

theorem mem_own {v : Value} : v ∈ own name members ↔ (some name, v) ∈ members := by
  simp [own]

theorem own_perm {members' : List (Literal × Value)} (hperm : members.Perm members') :
    (own name members).Perm (own name members') :=
  (hperm.filter _).map _

theorem member?_eq_some_iff {field : Option Value} :
    member? name members = some field ↔ own name members = field.toList := by
  unfold member? own
  generalize members.filter (·.1 == some name) = given
  rcases given with _ | ⟨m, _ | ⟨m', ms⟩⟩ <;> cases field <;> simp

theorem own_cons_self {v : Value} : own name ((some name, v) :: members) = v :: own name members := by
  simp [own]

theorem member?_cons_of_ne {m : Literal × Value} (hm : m.1 ≠ some name) :
    member? name (m :: members) = member? name members := by
  simp [member?, hm]

end

/-! ## Readers of single fields -/

/-- What a record keeps in a field. -/
inductive Datum where
  | text (s : String)
  | natural (n : Nat)
  deriving Inhabited

/-- The value says the datum: as a string literal, or as a numeral without sign, fraction and
exponent. -/
def Datum.IsSaid : Datum → Value → Prop
  | .text s, v => v = ofText s
  | .natural k, v => ∃ n : Number, v = .number n ∧ n.nat? = some k

/-- How a field is read: what is read when it is left out, and from a given value. -/
structure ReadsField {β : Type} (read : Option Value → Option β) (default? : Option Datum)
    (datum : β → Datum) : Prop where
  absent : ∀ x, read none = some x ↔ default? = some (datum x)
  given : ∀ v x, read (some v) = some x ↔ (datum x).IsSaid v

theorem text?_eq_some_iff {v : Value} {s : String} : text? v = some s ↔ v = ofText s := by
  cases v <;> simp [text?, ofText]

theorem readsField_required? : ReadsField required? none Datum.text where
  absent s := by simp [required?]
  given v s := text?_eq_some_iff

theorem readsField_optional? : ReadsField optional? (some (.text "")) Datum.text where
  absent s := by simp [optional?]
  given v s := text?_eq_some_iff

theorem readsField_kind? : ReadsField kind? none fun k => .natural k.toNat where
  absent k := by simp [kind?]
  given v k := by
    cases v <;> simp [kind?, Datum.IsSaid, Option.bind_eq_some_iff, PeerKind.ofNat?_eq_some_iff]

theorem sequence?_number_eq_some_iff {n : Number} {q : UInt32} :
    sequence? (some (.number n)) = some q ↔ n.nat? = some q.toNat := by
  rw [sequence?]
  rcases n.nat? with _ | k
  · simp
  · by_cases hk : k < UInt32.size
    · have hvalue : (UInt32.ofNat k).toNat = k := UInt32.toNat_ofNat_of_lt' hk
      simp [Option.filter, hk, ← UInt32.toNat_inj, hvalue]
    · -- a number that does not fit into 32 bits is no sequence number
      have hne : k ≠ q.toNat := fun heq => hk (heq ▸ q.toNat_lt_size)
      simp [Option.filter, hk, hne]

theorem readsField_sequence? :
    ReadsField sequence? (some (.natural 0)) fun q => .natural q.toNat where
  absent q := by simp [sequence?, ← UInt32.toNat_inj]
  given v q := by
    cases v with
    | number n => simp [sequence?_number_eq_some_iff, Datum.IsSaid]
    | _ => simp [sequence?, Datum.IsSaid]

/-! ## Arrays and objects of the first fields -/

theorem mapM_member?_zip {names : List String} (hnames : names.Nodup) {vs : List Value}
    (hvs : vs.length ≤ names.length) :
    names.mapM (member? · ((names.zip vs).map fun (k, v) => (some k, v))) =
      some (vs.map some ++ List.replicate (names.length - vs.length) none) := by
  rw [mapM_eq_some_iff]
  induction names generalizing vs with
  | nil =>
    obtain rfl : vs = [] := List.length_eq_zero_iff.1 (by simpa using hvs)
    rfl
  | cons n ns ih =>
    obtain ⟨hn, hns⟩ := List.nodup_cons.1 hnames
    cases vs with
    | nil => simp [member?, List.replicate_succ]
    | cons v vs =>
      have hrest := ih hns (by simpa using hvs)
      -- the first member has the first name, which no later field has
      have hfirst : member? n (((n :: ns).zip (v :: vs)).map fun (k, v) => (some k, v)) =
          some (some v) := by
        have hnone : own n ((ns.zip vs).map fun (k, v) => (some k, v)) = [] := by
          simp only [own, List.map_eq_nil_iff, List.filter_eq_nil_iff, List.mem_map]
          rintro _ ⟨⟨k, w⟩, hmem, rfl⟩
          simp only [beq_iff_eq, Option.some.injEq]
          rintro rfl
          exact hn (List.of_mem_zip hmem).1
        rw [member?_eq_some_iff, List.zip_cons_cons, List.map_cons, own_cons_self, hnone]
        rfl
      have hlater : ∀ m ∈ ns, member? m (((n :: ns).zip (v :: vs)).map fun (k, v) => (some k, v)) =
          member? m ((ns.zip vs).map fun (k, v) => (some k, v)) := by
        intro m hm
        exact member?_cons_of_ne fun heq => hn (Option.some.inj heq ▸ hm)
      rw [List.map_cons, hfirst, List.map_congr_left hlater, hrest]
      simp

theorem arrange?_ofMembers {names : List String} (hnames : names.Nodup) (vs : List Value)
    (hvs : vs.length ≤ names.length) :
    arrange? names (ofMembers (names.zip vs)) = arrange? names (.array vs) := by
  simp [arrange?, ofMembers, hvs, mapM_member?_zip hnames hvs]

/-! ## Records -/

theorem decodePeer?_eq_some_iff {v : Value} {p : PeerRecord} : decodePeer? v = some p ↔
    ∃ address kind, arrange? peerFields v = some [address, kind] ∧
      required? address = some p.address ∧ kind? kind = some p.kind := by
  unfold decodePeer?
  obtain ⟨a, k⟩ := p
  rcases arrange? peerFields v with _ | _ | ⟨address, _ | ⟨kind, _ | ⟨extra, fields⟩⟩⟩
  all_goals simp [Option.bind_eq_some_iff]

theorem decodeMessage?_eq_some_iff {v : Value} {m : MessageRecord} : decodeMessage? v = some m ↔
    ∃ fromNode fromAddress content seqId firstSeen hash,
      arrange? messageFields v =
        some [fromNode, fromAddress, content, seqId, firstSeen, hash] ∧
      required? fromNode = some m.fromNode ∧ optional? fromAddress = some m.fromAddress ∧
      required? content = some m.content ∧ sequence? seqId = some m.seqId ∧
      optional? firstSeen = some m.firstSeen ∧ optional? hash = some m.hash := by
  unfold decodeMessage?
  rcases arrange? messageFields v with
    _ | _ | ⟨fromNode, _ | ⟨fromAddress, _ | ⟨content, _ | ⟨seqId, _ | ⟨firstSeen, _ | ⟨hash, _ |
      ⟨extra, fields⟩⟩⟩⟩⟩⟩⟩
  all_goals simp [Option.bind_eq_some_iff]
  constructor
  · rintro ⟨_, hnode, _, haddress, _, hcontent, _, hseq, _, hseen, _, hhash, rfl⟩
    exact ⟨hnode, haddress, hcontent, hseq, hseen, hhash⟩
  · rintro ⟨hnode, haddress, hcontent, hseq, hseen, hhash⟩
    exact ⟨_, hnode, _, haddress, _, hcontent, _, hseq, _, hseen, _, hhash, rfl⟩

theorem decodeRoute?_object_eq_some_iff {ms : List (Literal × Value)} {r : RouteRecord} :
    decodeRoute? (.object ms) = some r ↔
      (isReadable (.object ms) = true ∧ depth (.object ms) ≤ maxRouteDepth) ∧
      ∃ origin address, arrange? routeFields (.object ms) = some [origin, address] ∧
        required? origin = some r.origin ∧ optional? address = some r.nextHop := by
  obtain ⟨o, n⟩ := r
  unfold decodeRoute?
  simp only [Bool.and_eq_true, decide_eq_true_eq]
  by_cases hwhole : isReadable (.object ms) = true ∧ depth (.object ms) ≤ maxRouteDepth
  · rw [if_pos hwhole]
    simp only [hwhole, true_and]
    rcases arrange? routeFields (.object ms) with _ | _ | ⟨origin, _ | ⟨address, _ | ⟨extra, fields⟩⟩⟩
    all_goals simp [Option.bind_eq_some_iff]
  · rw [if_neg hwhole]
    simp [hwhole]

/-! ## Lists -/

theorem decodeList?_eq_some_iff {α : Type} {decode : Value → Option α} {vs : List Value}
    {xs : List α} : decodeList? decode (.array vs) = some xs ↔ vs.map decode = xs.map some :=
  mapM_eq_some_iff

end GossipPanel.Node.Wire
