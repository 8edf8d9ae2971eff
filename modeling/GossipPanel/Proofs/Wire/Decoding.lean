import GossipPanel.Proofs.Wire.Fields

/-!
# What the decoders read

A record is laid out as a list of fields. Each field has a name, a shape, what it stands for when it
is left out, and the datum that a record keeps in it. `ReadsObjects` says what a decoder does with an
object of a layout: everything follows from `exact`, which says when an object is decoded to a given
record. It is proved once for each record from the readers of its fields, and the rest once for all
layouts.
-/

namespace GossipPanel.Node.Wire

open Json

/-! ## Layouts -/

/-- The data that a field may hold: texts, or natural numbers below a limit. -/
inductive Shape where
  | text
  | below (limit : Nat)

def Shape.Has : Shape → Datum → Prop
  | .text, .text _ => True
  | .below limit, .natural n => n < limit
  | _, _ => False

/-- The value says a datum of the shape. -/
def Shape.Admits (shape : Shape) (v : Value) : Prop :=
  ∃ d, shape.Has d ∧ d.IsSaid v

/-- A field of a record. -/
structure Field (α : Type) where
  name : String
  shape : Shape
  /-- What the field holds when it is left out; nothing when it is required. -/
  default? : Option Datum
  get : α → Datum
  get_has : ∀ x, shape.Has (get x)
  default_has : ∀ d ∈ default?, shape.Has d

namespace Field

variable {α : Type} (f : Field α) (members : List (Literal × Value))

/-- The members give the field the datum that the record keeps in it: once, or not at all and the
datum is the default. -/
def Holds (x : α) : Prop :=
  (own f.name members = [] ∧ f.default? = some (f.get x)) ∨
    ∃ v, own f.name members = [v] ∧ (f.get x).IsSaid v

/-- The members give the field something of its shape once, or not at all and it has a default. -/
def IsGiven : Prop :=
  (own f.name members = [] ∧ f.default?.isSome) ∨ ∃ v, own f.name members = [v] ∧ f.shape.Admits v

end Field

/-- The member has none of the names of the fields. -/
def Foreign {α : Type} (layout : List (Field α)) (m : Literal × Value) : Prop :=
  ∀ f ∈ layout, m.1 ≠ some f.name

/-- What a decoder does with an object: `Passes` is what it asks of the members that are not its
own. -/
structure ReadsObjects {α : Type} (layout : List (Field α)) (Passes : Literal × Value → Prop)
    (decode : Value → Option α) : Prop where
  /-- An object is decoded to the record whose fields its members give, each once or by default. -/
  exact : ∀ ms x, decode (.object ms) = some x ↔
    (∀ m ∈ ms, Foreign layout m → Passes m) ∧ ∀ f ∈ layout, f.Holds ms x
  /-- An object is decoded when its members give every field. -/
  decodes : ∀ ms, (decode (.object ms)).isSome ↔
    (∀ m ∈ ms, Foreign layout m → Passes m) ∧ ∀ f ∈ layout, f.IsGiven ms
  reordered : ∀ ms ms', ms.Perm ms' → decode (.object ms) = decode (.object ms')
  /-- Objects with the same own members, in any order and among any others, are decoded alike. -/
  own_members : ∀ ms ms', (∀ m ∈ ms, Foreign layout m → Passes m) →
    (∀ m ∈ ms', Foreign layout m → Passes m) →
    (∀ f ∈ layout, (own f.name ms).Perm (own f.name ms')) →
    decode (.object ms) = decode (.object ms')
  /-- A field that is given twice is an error, also with the same value. -/
  repeated : ∀ ms, ∀ f ∈ layout, 1 < (own f.name ms).length → decode (.object ms) = none
  /-- So is a value that is not of the shape of its field, such as `null`. -/
  misshapen : ∀ ms, ∀ f ∈ layout, ∀ v ∈ own f.name ms, ¬f.shape.Admits v →
    decode (.object ms) = none
  /-- So is a required field that is not given. -/
  missing : ∀ ms, ∀ f ∈ layout, f.default? = none → own f.name ms = [] →
    decode (.object ms) = none

/-! ## From one law to the others -/

section

variable {α : Type} {layout : List (Field α)} {Passes : Literal × Value → Prop}
  {decode : Value → Option α} {ms ms' : List (Literal × Value)} {x : α}

theorem Field.Holds.isGiven {f : Field α} (hf : f.Holds ms x) : f.IsGiven ms := by
  obtain ⟨hown, hdefault⟩ | ⟨v, hown, hv⟩ := hf
  · exact .inl ⟨hown, by simp [hdefault]⟩
  · exact .inr ⟨v, hown, f.get x, f.get_has x, hv⟩

theorem Field.Holds.of_perm {f : Field α} (hf : f.Holds ms x)
    (hperm : (own f.name ms).Perm (own f.name ms')) : f.Holds ms' x := by
  obtain ⟨hown, hdefault⟩ | ⟨v, hown, hv⟩ := hf
  · rw [hown] at hperm
    exact .inl ⟨hperm.nil_eq.symm, hdefault⟩
  · rw [hown] at hperm
    exact .inr ⟨v, List.perm_singleton.1 hperm.symm, hv⟩

theorem Field.IsGiven.exists_datum {f : Field α} (hf : f.IsGiven ms) :
    ∃ d, f.shape.Has d ∧ ((own f.name ms = [] ∧ f.default? = some d) ∨
      ∃ v, own f.name ms = [v] ∧ d.IsSaid v) := by
  obtain ⟨hown, hdefault⟩ | ⟨v, hown, d, hd, hv⟩ := hf
  · obtain ⟨d, hd⟩ := Option.isSome_iff_exists.1 hdefault
    exact ⟨d, f.default_has d hd, .inl ⟨hown, hd⟩⟩
  · exact ⟨d, hd, .inr ⟨v, hown, hv⟩⟩

/-- There is a record for any data of the right shapes. -/
def Spans (layout : List (Field α)) : Prop :=
  ∀ data : Field α → Datum, (∀ f ∈ layout, f.shape.Has (data f)) →
    ∃ x, ∀ f ∈ layout, f.get x = data f

theorem Spans.exists_holds (hspans : Spans layout) (hgiven : ∀ f ∈ layout, f.IsGiven ms) :
    ∃ x, ∀ f ∈ layout, f.Holds ms x := by
  choose! data hdata using fun f hf => (hgiven f hf).exists_datum
  obtain ⟨x, hx⟩ := hspans data fun f hf => (hdata f hf).1
  refine ⟨x, fun f hf => ?_⟩
  rw [Field.Holds, hx f hf]
  exact (hdata f hf).2

theorem readsObjects_of_exact (hspans : Spans layout)
    (exact : ∀ ms x, decode (.object ms) = some x ↔
      (∀ m ∈ ms, Foreign layout m → Passes m) ∧ ∀ f ∈ layout, f.Holds ms x) :
    ReadsObjects layout Passes decode where
  exact := exact
  decodes ms := by
    constructor
    · intro h
      obtain ⟨x, hx⟩ := Option.isSome_iff_exists.1 h
      obtain ⟨hpass, hholds⟩ := (exact ms x).1 hx
      exact ⟨hpass, fun f hf => (hholds f hf).isGiven⟩
    · rintro ⟨hpass, hgiven⟩
      obtain ⟨x, hx⟩ := hspans.exists_holds hgiven
      exact Option.isSome_iff_exists.2 ⟨x, (exact ms x).2 ⟨hpass, hx⟩⟩
  reordered ms ms' hperm := by
    refine Option.ext fun x => ?_
    rw [exact, exact]
    constructor
    · exact fun h => ⟨fun m hm => h.1 m (hperm.mem_iff.2 hm),
        fun f hf => (h.2 f hf).of_perm (own_perm hperm)⟩
    · exact fun h => ⟨fun m hm => h.1 m (hperm.mem_iff.1 hm),
        fun f hf => (h.2 f hf).of_perm (own_perm hperm.symm)⟩
  own_members ms ms' hms hms' hperm := by
    refine Option.ext fun x => ?_
    rw [exact, exact]
    constructor
    · exact fun h => ⟨hms', fun f hf => (h.2 f hf).of_perm (hperm f hf)⟩
    · exact fun h => ⟨hms, fun f hf => (h.2 f hf).of_perm (hperm f hf).symm⟩
  repeated ms f hf hlen := by
    refine Option.eq_none_iff_forall_ne_some.2 fun x hx => ?_
    obtain ⟨hown, -⟩ | ⟨v, hown, -⟩ := ((exact ms x).1 hx).2 f hf <;> simp [hown] at hlen
  misshapen ms f hf v hv hshape := by
    refine Option.eq_none_iff_forall_ne_some.2 fun x hx => ?_
    obtain ⟨hown, -⟩ | ⟨w, hown, hw⟩ := ((exact ms x).1 hx).2 f hf
    · simp [hown] at hv
    · obtain rfl : v = w := by simpa [hown] using hv
      exact hshape ⟨f.get x, f.get_has x, hw⟩
  missing ms f hf hdefault hmissing := by
    refine Option.eq_none_iff_forall_ne_some.2 fun x hx => ?_
    obtain ⟨-, hsome⟩ | ⟨v, hown, -⟩ := ((exact ms x).1 hx).2 f hf
    · simp [hdefault] at hsome
    · simp [hown] at hmissing

end

/-! ## The layouts of the records -/

theorem ReadsField.exists_member?_iff {β : Type} {read : Option Value → Option β}
    {default? : Option Datum} {datum : β → Datum} (hread : ReadsField read default? datum)
    {name : String} {ms : List (Literal × Value)} {x : β} :
    (∃ field, member? name ms = some field ∧ read field = some x) ↔
      (own name ms = [] ∧ default? = some (datum x)) ∨
        ∃ v, own name ms = [v] ∧ (datum x).IsSaid v := by
  simp only [member?_eq_some_iff, ← hread.absent, ← hread.given]
  constructor
  · rintro ⟨_ | v, hown, hx⟩
    · exact .inl ⟨hown, hx⟩
    · exact .inr ⟨v, hown, hx⟩
  · rintro (⟨hown, hx⟩ | ⟨v, hown, hx⟩)
    · exact ⟨none, hown, hx⟩
    · exact ⟨some v, hown, hx⟩

/-- A text that may not be left out. -/
def requiredText {α : Type} (name : String) (get : α → String) : Field α where
  name
  shape := .text
  default? := none
  get x := .text (get x)
  get_has _ := trivial
  default_has := by simp

/-- A text that is empty when it is left out. -/
def optionalText {α : Type} (name : String) (get : α → String) : Field α where
  name
  shape := .text
  default? := some (.text "")
  get x := .text (get x)
  get_has _ := trivial
  default_has := by simp [Shape.Has]

def peerType : Field PeerRecord where
  name := "Type"
  shape := .below 3
  default? := none
  get p := .natural p.kind.toNat
  get_has p := show p.kind.toNat < 3 by cases p.kind <;> decide
  default_has := by simp

def messageSequence : Field MessageRecord where
  name := "SeqID"
  shape := .below UInt32.size
  default? := some (.natural 0)
  get m := .natural m.seqId.toNat
  get_has m := m.seqId.toNat_lt_size
  default_has := by simp [Shape.Has]

def peerLayout : List (Field PeerRecord) :=
  [requiredText "Address" (·.address), peerType]

def messageLayout : List (Field MessageRecord) :=
  [requiredText "FromNode" (·.fromNode), optionalText "FromAddress" (·.fromAddress),
    requiredText "Content" (·.content), messageSequence,
    optionalText "FirstSeen" (·.firstSeen), optionalText "Hash" (·.hash)]

def routeLayout : List (Field RouteRecord) :=
  [requiredText "Origin" (·.origin), optionalText "Address" (·.nextHop)]

theorem Shape.Has.exists_text {d : Datum} (hd : Shape.text.Has d) : ∃ s, d = .text s := by
  cases d with
  | text s => exact ⟨s, rfl⟩
  | natural n => exact hd.elim

theorem Shape.Has.exists_natural {limit : Nat} {d : Datum} (hd : (Shape.below limit).Has d) :
    ∃ n < limit, d = .natural n := by
  cases d with
  | text s => exact hd.elim
  | natural n => exact ⟨n, hd, rfl⟩

theorem exists_kind : ∀ n < 3, ∃ k : PeerKind, k.toNat = n
  | 0, _ => ⟨.manual, rfl⟩
  | 1, _ => ⟨.learned, rfl⟩
  | 2, _ => ⟨.shortCircuited, rfl⟩

theorem spans_peerLayout : Spans peerLayout := by
  intro data hdata
  simp only [peerLayout, List.forall_mem_cons] at hdata ⊢
  obtain ⟨haddress, htype, -⟩ := hdata
  obtain ⟨s, hs⟩ := Shape.Has.exists_text haddress
  obtain ⟨n, hn, hdatum⟩ := Shape.Has.exists_natural htype
  obtain ⟨k, rfl⟩ := exists_kind n hn
  exact ⟨⟨s, k⟩, hs.symm, hdatum.symm, by simp⟩

theorem spans_messageLayout : Spans messageLayout := by
  intro data hdata
  simp only [messageLayout, List.forall_mem_cons] at hdata ⊢
  obtain ⟨hnode, haddress, hcontent, hseq, hseen, hhash, -⟩ := hdata
  obtain ⟨node, hnode⟩ := Shape.Has.exists_text hnode
  obtain ⟨address, haddress⟩ := Shape.Has.exists_text haddress
  obtain ⟨content, hcontent⟩ := Shape.Has.exists_text hcontent
  obtain ⟨n, hn, hseq⟩ := Shape.Has.exists_natural hseq
  obtain ⟨seen, hseen⟩ := Shape.Has.exists_text hseen
  obtain ⟨hash, hhash⟩ := Shape.Has.exists_text hhash
  have hvalue : (UInt32.ofNat n).toNat = n := UInt32.toNat_ofNat_of_lt' hn
  refine ⟨⟨node, address, content, .ofNat n, seen, hash⟩, hnode.symm, haddress.symm,
    hcontent.symm, ?_, hseen.symm, hhash.symm, by simp⟩
  rw [hseq]
  exact congrArg Datum.natural hvalue

theorem spans_routeLayout : Spans routeLayout := by
  intro data hdata
  simp only [routeLayout, List.forall_mem_cons] at hdata ⊢
  obtain ⟨horigin, haddress, -⟩ := hdata
  obtain ⟨s, hs⟩ := Shape.Has.exists_text horigin
  obtain ⟨t, ht⟩ := Shape.Has.exists_text haddress
  exact ⟨⟨s, t⟩, hs.symm, ht.symm, by simp⟩

/-! ## Objects -/

section

variable {ms : List (Literal × Value)}

theorem arrange?_object_eq_some_iff {names : List String} {fields : List (Option Value)} :
    arrange? names (.object ms) = some fields ↔
      (∀ m ∈ ms, m.1.isSome) ∧ names.map (member? · ms) = fields.map some := by
  simp [arrange?, mapM_eq_some_iff]

theorem forall_foreign_isSome_iff {α : Type} (layout : List (Field α)) :
    (∀ m ∈ ms, Foreign layout m → m.1.isSome) ↔ ∀ m ∈ ms, m.1.isSome := by
  refine ⟨fun h m hm => ?_, fun h m hm _ => h m hm⟩
  by_contra hnone
  refine hnone (h m hm fun f _ hname => hnone ?_)
  simp [hname]

theorem holds_requiredText {α : Type} {name : String} {get : α → String} {x : α} :
    (requiredText name get).Holds ms x ↔
      ∃ field, member? name ms = some field ∧ required? field = some (get x) :=
  readsField_required?.exists_member?_iff.symm

theorem holds_optionalText {α : Type} {name : String} {get : α → String} {x : α} :
    (optionalText name get).Holds ms x ↔
      ∃ field, member? name ms = some field ∧ optional? field = some (get x) :=
  readsField_optional?.exists_member?_iff.symm

theorem holds_peerType {p : PeerRecord} : peerType.Holds ms p ↔
    ∃ field, member? "Type" ms = some field ∧ kind? field = some p.kind :=
  readsField_kind?.exists_member?_iff.symm

theorem holds_messageSequence {m : MessageRecord} : messageSequence.Holds ms m ↔
    ∃ field, member? "SeqID" ms = some field ∧ sequence? field = some m.seqId :=
  readsField_sequence?.exists_member?_iff.symm

theorem decodePeer?_exact (p : PeerRecord) : decodePeer? (.object ms) = some p ↔
    (∀ m ∈ ms, Foreign peerLayout m → m.1.isSome) ∧ ∀ f ∈ peerLayout, f.Holds ms p := by
  rw [decodePeer?_eq_some_iff, forall_foreign_isSome_iff]
  simp only [arrange?_object_eq_some_iff, peerLayout, List.forall_mem_cons, holds_requiredText,
    holds_peerType, peerFields, List.map_cons, List.cons.injEq]
  constructor
  · rintro ⟨address, kind, ⟨hnames, haddress, hkind, -⟩, hreadAddress, hreadKind⟩
    exact ⟨hnames, ⟨address, haddress, hreadAddress⟩, ⟨kind, hkind, hreadKind⟩, by simp⟩
  · rintro ⟨hnames, ⟨address, haddress, hreadAddress⟩, ⟨kind, hkind, hreadKind⟩, -⟩
    exact ⟨address, kind, ⟨hnames, haddress, hkind, rfl⟩, hreadAddress, hreadKind⟩

theorem decodeMessage?_exact (m : MessageRecord) : decodeMessage? (.object ms) = some m ↔
    (∀ m ∈ ms, Foreign messageLayout m → m.1.isSome) ∧ ∀ f ∈ messageLayout, f.Holds ms m := by
  rw [decodeMessage?_eq_some_iff, forall_foreign_isSome_iff]
  simp only [arrange?_object_eq_some_iff, messageLayout, List.forall_mem_cons, holds_requiredText,
    holds_optionalText, holds_messageSequence, messageFields, List.map_cons, List.cons.injEq]
  constructor
  · rintro ⟨node, address, content, seq, seen, hash,
      ⟨hnames, hnode, haddress, hcontent, hseq, hseen, hhash, -⟩, h₁, h₂, h₃, h₄, h₅, h₆⟩
    exact ⟨hnames, ⟨node, hnode, h₁⟩, ⟨address, haddress, h₂⟩, ⟨content, hcontent, h₃⟩,
      ⟨seq, hseq, h₄⟩, ⟨seen, hseen, h₅⟩, ⟨hash, hhash, h₆⟩, by simp⟩
  · rintro ⟨hnames, ⟨node, hnode, h₁⟩, ⟨address, haddress, h₂⟩, ⟨content, hcontent, h₃⟩,
      ⟨seq, hseq, h₄⟩, ⟨seen, hseen, h₅⟩, ⟨hash, hhash, h₆⟩, -⟩
    exact ⟨node, address, content, seq, seen, hash,
      ⟨hnames, hnode, haddress, hcontent, hseq, hseen, hhash, rfl⟩, h₁, h₂, h₃, h₄, h₅, h₆⟩

/-- What a route asks of every member, since it is read whole. -/
def FitsRoute (m : Literal × Value) : Prop :=
  m.1.isSome ∧ isReadable m.2 = true ∧ depth m.2 < maxRouteDepth

theorem isReadable_object_iff :
    isReadable (.object ms) = true ↔ ∀ m ∈ ms, m.1.isSome ∧ isReadable m.2 = true := by
  rw [isReadable]
  induction ms with
  | nil => simp [membersReadable]
  | cons m ms ih => simp [membersReadable, ih]

theorem depth_object_le_iff {limit : Nat} (hlimit : 0 < limit) :
    depth (.object ms) ≤ limit ↔ ∀ m ∈ ms, depth m.2 < limit := by
  rw [depth]
  induction ms with
  | nil => simpa [depthOfMembers] using Nat.succ_le_of_lt hlimit
  | cons m ms ih =>
    rw [List.forall_mem_cons, ← ih, depthOfMembers]
    omega

theorem fitsRoute_object_iff :
    isReadable (.object ms) = true ∧ depth (.object ms) ≤ maxRouteDepth ↔
      ∀ m ∈ ms, FitsRoute m := by
  rw [isReadable_object_iff, depth_object_le_iff (by decide)]
  exact ⟨fun h m hm => ⟨(h.1 m hm).1, (h.1 m hm).2, h.2 m hm⟩,
    fun h => ⟨fun m hm => ⟨(h m hm).1, (h m hm).2.1⟩, fun m hm => (h m hm).2.2⟩⟩

theorem forall_foreign_fitsRoute_iff {r : RouteRecord} (hholds : ∀ f ∈ routeLayout, f.Holds ms r) :
    (∀ m ∈ ms, Foreign routeLayout m → FitsRoute m) ↔ ∀ m ∈ ms, FitsRoute m := by
  refine ⟨fun h m hm => ?_, fun h m hm _ => h m hm⟩
  by_cases hforeign : Foreign routeLayout m
  · exact h m hm hforeign
  · obtain ⟨f, hf, hname⟩ : ∃ f ∈ routeLayout, m.1 = some f.name := by
      simpa [Foreign] using hforeign
    have hown : m.2 ∈ own f.name ms := mem_own.2 (hname ▸ hm)
    obtain ⟨s, hs⟩ : ∃ s, f.get r = .text s := by
      simp only [routeLayout, List.mem_cons, List.not_mem_nil, or_false] at hf
      obtain rfl | rfl := hf
      · exact ⟨r.origin, rfl⟩
      · exact ⟨r.nextHop, rfl⟩
    obtain ⟨hnone, -⟩ | ⟨v, hone, hv⟩ := hholds f hf
    · simp [hnone] at hown
    · have hvalue : m.2 = v := by simpa [hone] using hown
      rw [hs] at hv
      rw [FitsRoute, hname, hvalue, show v = ofText s from hv]
      simp [ofText, isReadable, depth, maxRouteDepth]

theorem decodeRoute?_exact (r : RouteRecord) : decodeRoute? (.object ms) = some r ↔
    (∀ m ∈ ms, Foreign routeLayout m → FitsRoute m) ∧ ∀ f ∈ routeLayout, f.Holds ms r := by
  rw [decodeRoute?_object_eq_some_iff, fitsRoute_object_iff,
    and_congr_left forall_foreign_fitsRoute_iff]
  refine and_congr_right fun hfits => ?_
  simp only [arrange?_object_eq_some_iff, routeLayout, List.forall_mem_cons, holds_requiredText,
    holds_optionalText, routeFields, List.map_cons, List.cons.injEq]
  constructor
  · rintro ⟨origin, address, ⟨-, horigin, haddress, -⟩, hreadOrigin, hreadAddress⟩
    exact ⟨⟨origin, horigin, hreadOrigin⟩, ⟨address, haddress, hreadAddress⟩, by simp⟩
  · rintro ⟨⟨origin, horigin, hreadOrigin⟩, ⟨address, haddress, hreadAddress⟩, -⟩
    exact ⟨origin, address, ⟨fun m hm => (hfits m hm).1, horigin, haddress, rfl⟩, hreadOrigin,
      hreadAddress⟩

end

/-! ## Arrays, routes and lists -/

/-- What a decoder does with an array of the fields of a layout. -/
structure ReadsArrays {α : Type} (layout : List (Field α)) (decode : Value → Option α) : Prop where
  /-- An array of the first fields is decoded like the object with these members. -/
  first : ∀ vs : List Value, vs.length ≤ layout.length →
    decode (.array vs) = decode (ofMembers ((layout.map (·.name)).zip vs))
  longer : ∀ vs : List Value, layout.length < vs.length → decode (.array vs) = none

/-- What a decoder of lists does with a text, by the decoder of the items. -/
structure ReadsLists {α : Type} (decode : Value → Option α)
    (decodeText : List Char → Option (List α)) : Prop where
  /-- A text is decoded to the results of the items of its array, in their order. -/
  results : ∀ cs xs, decodeText cs = some xs ↔
    ∃ vs, parse? cs = some (.array vs) ∧ vs.map decode = xs.map some
  /-- An array is decoded when every item is. -/
  decodes : ∀ cs vs, parse? cs = some (.array vs) →
    ((decodeText cs).isSome ↔ ∀ v ∈ vs, (decode v).isSome)

theorem arrange?_longer {names : List String} {vs : List Value} (hvs : names.length < vs.length) :
    arrange? names (.array vs) = none := by
  rw [arrange?, if_neg (by omega)]

theorem readsArrays_peer : ReadsArrays peerLayout decodePeer? where
  first vs hvs := by
    rw [decodePeer?, decodePeer?, ← arrange?_ofMembers (by decide) vs hvs]
    rfl
  longer vs hvs := by
    rw [decodePeer?, arrange?_longer hvs]
    rfl

theorem readsArrays_message : ReadsArrays messageLayout decodeMessage? where
  first vs hvs := by
    rw [decodeMessage?, decodeMessage?, ← arrange?_ofMembers (by decide) vs hvs]
    rfl
  longer vs hvs := by
    rw [decodeMessage?, arrange?_longer hvs]
    rfl

theorem readsLists_of_items {α : Type} (decode : Value → Option α) :
    ReadsLists decode fun cs => (parse? cs).bind (decodeList? decode) where
  results cs xs := by
    rw [Option.bind_eq_some_iff]
    constructor
    · rintro ⟨_ | _ | _ | _ | vs | _, hcs, hxs⟩
      case array => exact ⟨vs, hcs, decodeList?_eq_some_iff.1 hxs⟩
      all_goals simp [decodeList?] at hxs
    · rintro ⟨vs, hcs, hxs⟩
      exact ⟨.array vs, hcs, decodeList?_eq_some_iff.2 hxs⟩
  decodes cs vs hcs := by
    rw [hcs]
    exact isSome_mapM_iff

theorem decodeRoute?_ofText (s : String) : decodeRoute? (ofText s) = some { origin := s } := by
  simp [decodeRoute?, ofText, isReadable, depth]

theorem decodeRoute?_origin (s : String) :
    decodeRoute? (ofMembers [("Origin", ofText s)]) = some { origin := s } := by
  have hfields : arrange? routeFields (ofMembers [("Origin", ofText s)]) =
      some [some (ofText s), none] :=
    arrange?_ofMembers (by decide) [ofText s] (by simp [routeFields])
  have hfits : ∀ m ∈ [(some "Origin", ofText s)], FitsRoute m := by
    simp [FitsRoute, ofText, isReadable, depth, maxRouteDepth]
  exact decodeRoute?_object_eq_some_iff.2 ⟨fitsRoute_object_iff.2 hfits, _, _, hfields, rfl, rfl⟩

theorem decodeRoute?_other {v : Value} (hobject : ∀ ms, v ≠ .object ms) (htext : ∀ s, v ≠ ofText s) :
    decodeRoute? v = none := by
  unfold decodeRoute?
  split
  · cases v with
    | object ms => exact absurd rfl (hobject ms)
    | string s =>
      cases s with
      | none => rfl
      | some s => exact absurd rfl (htext s)
    | _ => rfl
  · rfl

/-- **Decoders read the fields of a record and nothing else.**

* An object is decoded by the members that have the names of the fields. The others only have to
  have texts as names; those of a route have to be readable too, since it is read whole.
* A peer and a message may be arrays of their first fields, and a route may be its origin alone.
* A list is decoded item by item, to all results or to none. -/
theorem records_read_own_members :
    ReadsObjects peerLayout (·.1.isSome) decodePeer? ∧
    ReadsObjects messageLayout (·.1.isSome) decodeMessage? ∧
    ReadsObjects routeLayout FitsRoute decodeRoute? ∧
    ReadsArrays peerLayout decodePeer? ∧
    ReadsArrays messageLayout decodeMessage? ∧
    (∀ s : String, decodeRoute? (ofText s) = decodeRoute? (ofMembers [("Origin", ofText s)])) ∧
    (∀ v, (∀ ms, v ≠ .object ms) → (∀ s, v ≠ ofText s) → decodeRoute? v = none) ∧
    ReadsLists decodePeer? peersOf? ∧
    ReadsLists decodeMessage? messagesOf? ∧
    ReadsLists decodeRoute? routesOf? := by
  refine ⟨readsObjects_of_exact spans_peerLayout fun ms => decodePeer?_exact,
    readsObjects_of_exact spans_messageLayout fun ms => decodeMessage?_exact,
    readsObjects_of_exact spans_routeLayout fun ms => decodeRoute?_exact, readsArrays_peer,
    readsArrays_message, fun s => (decodeRoute?_ofText s).trans (decodeRoute?_origin s).symm,
    fun v => decodeRoute?_other, readsLists_of_items _, readsLists_of_items _,
    readsLists_of_items _⟩

end GossipPanel.Node.Wire
