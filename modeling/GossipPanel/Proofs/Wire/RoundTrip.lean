import GossipPanel.Proofs.Json.Values
import GossipPanel.Proofs.Wire.Fields

/-!
# What is written on the wire is read back

Each record is written as an object of all its fields. That object is arranged like the array of
these fields, which is decoded field by field; the text of a list of such objects has a written
form, so it is read back as the list it was written for.
-/

namespace GossipPanel.Node.Wire

open Json

/-! ## Written forms -/

theorem isProper_ofText (s : String) : (ofText s).IsProper :=
  rfl

theorem isProper_ofNat (n : Nat) : (ofNat n).IsProper :=
  isNumeral_ofNat n

theorem isProper_ofMembers {members : List (String × Value)}
    (hmembers : ∀ m ∈ members, m.2.IsProper) : (ofMembers members).IsProper := by
  refine membersProper_iff.2 fun m hm => ?_
  obtain ⟨⟨k, v⟩, hmem, rfl⟩ := List.mem_map.1 hm
  exact ⟨rfl, hmembers _ hmem⟩

theorem isProper_encodeList {α : Type} {encode : α → Value} (hencode : ∀ x, (encode x).IsProper)
    (xs : List α) : (encodeList encode xs).IsProper := by
  refine areProper_iff.2 fun v hv => ?_
  obtain ⟨x, -, rfl⟩ := List.mem_map.1 hv
  exact hencode x

theorem isProper_encodePeer (p : PeerRecord) : (encodePeer p).IsProper :=
  isProper_ofMembers (by simp [isProper_ofText, isProper_ofNat])

theorem isProper_encodeMessage (m : MessageRecord) : (encodeMessage m).IsProper :=
  isProper_ofMembers (by simp [isProper_ofText, isProper_ofNat])

theorem isProper_encodeRoute (r : RouteRecord) : (encodeRoute r).IsProper :=
  isProper_ofMembers (by simp [isProper_ofText])

/-! ## Records -/

theorem kind?_ofNat (k : PeerKind) : kind? (some (ofNat k.toNat)) = some k :=
  (readsField_kind?.given _ k).2 ⟨_, rfl, nat?_ofNat _⟩

theorem sequence?_ofNat (q : UInt32) : sequence? (some (ofNat q.toNat)) = some q :=
  (readsField_sequence?.given _ q).2 ⟨_, rfl, nat?_ofNat _⟩

theorem decodePeer?_encodePeer (p : PeerRecord) : decodePeer? (encodePeer p) = some p := by
  have hfields : arrange? peerFields (encodePeer p) =
      some [some (ofText p.address), some (ofNat p.kind.toNat)] :=
    arrange?_ofMembers (by decide) [ofText p.address, ofNat p.kind.toNat] (by simp [peerFields])
  exact decodePeer?_eq_some_iff.2 ⟨_, _, hfields, rfl, kind?_ofNat p.kind⟩

theorem decodeMessage?_encodeMessage (m : MessageRecord) :
    decodeMessage? (encodeMessage m) = some m := by
  have hfields : arrange? messageFields (encodeMessage m) =
      some [some (ofText m.fromNode), some (ofText m.fromAddress), some (ofText m.content),
        some (ofNat m.seqId.toNat), some (ofText m.firstSeen), some (ofText m.hash)] :=
    arrange?_ofMembers (by decide)
      [ofText m.fromNode, ofText m.fromAddress, ofText m.content, ofNat m.seqId.toNat,
        ofText m.firstSeen, ofText m.hash] (by simp [messageFields])
  exact decodeMessage?_eq_some_iff.2
    ⟨_, _, _, _, _, _, hfields, rfl, rfl, rfl, sequence?_ofNat m.seqId, rfl, rfl⟩

theorem decodeRoute?_encodeRoute (r : RouteRecord) : decodeRoute? (encodeRoute r) = some r := by
  have hfields : arrange? routeFields (encodeRoute r) =
      some [some (ofText r.origin), some (ofText r.nextHop)] :=
    arrange?_ofMembers (by decide) [ofText r.origin, ofText r.nextHop] (by simp [routeFields])
  have hwhole : isReadable (encodeRoute r) = true ∧ depth (encodeRoute r) ≤ maxRouteDepth := by
    simp [encodeRoute, ofMembers, ofText, isReadable, membersReadable, depth, depthOfMembers,
      maxRouteDepth]
  exact decodeRoute?_object_eq_some_iff.2 ⟨hwhole, _, _, hfields, rfl, rfl⟩

/-! ## Texts -/

/-- `decode` undoes `encode`; so a text that decodes says the same as the text that is written for
what it decodes to. -/
structure Recodes {α : Type} (decode : List Char → Option α) (encode : α → Value) : Prop where
  roundTrip : ∀ x, decode (encode x).text.toList = some x
  normalForm : ∀ cs x, decode cs = some x → decode (encode x).text.toList = decode cs

theorem recodes_of_roundTrip {α : Type} {decode : List Char → Option α} {encode : α → Value}
    (hround : ∀ x, decode (encode x).text.toList = some x) : Recodes decode encode where
  roundTrip := hround
  normalForm _ x hcs := (hround x).trans hcs.symm

theorem recodes_list {α : Type} {decode : Value → Option α} {encode : α → Value}
    (hencode : ∀ x, (encode x).IsProper) (hround : ∀ x, decode (encode x) = some x) :
    Recodes (fun cs => (parse? cs).bind (decodeList? decode)) (encodeList encode) := by
  refine recodes_of_roundTrip fun xs => ?_
  rw [parse?_text (isProper_encodeList hencode xs), Option.bind_some]
  refine decodeList?_eq_some_iff.2 ?_
  rw [List.map_map]
  exact List.map_congr_left fun x _ => hround x

/-- **What is written on the wire is read back.**

* Identities and lists of peers, messages and routes are read back from the texts written for them,
  so a text of any shape that decodes says the same as the text of what it decodes to.
* The bodies of a private message and of a search are texts of objects with exactly the members
  that the node expects, which hold the fields. -/
theorem wire_round_trip :
    Recodes identityOf? ofText ∧
    Recodes peersOf? (encodeList encodePeer) ∧
    Recodes messagesOf? (encodeList encodeMessage) ∧
    Recodes routesOf? (encodeList encodeRoute) ∧
    (∀ m : PrivateMessage, parse? (encodePrivate m).text.toList =
      some (.object [(some "Destination", .string (some m.destination)),
        (some "Content", .string (some m.content))])) ∧
    (∀ q : SearchQuery, ∃ budget : Number, budget.nat? = some q.budget.toNat ∧
      parse? (encodeQuery q).text.toList =
        some (.object [(some "Keywords", .string (some q.keywords)),
          (some "Budget", .number budget)])) := by
  refine ⟨?_, recodes_list isProper_encodePeer decodePeer?_encodePeer,
    recodes_list isProper_encodeMessage decodeMessage?_encodeMessage,
    recodes_list isProper_encodeRoute decodeRoute?_encodeRoute, fun m => ?_, fun q => ?_⟩
  · refine recodes_of_roundTrip fun s => ?_
    rw [identityOf?, parse?_text (isProper_ofText s)]
    rfl
  · exact parse?_text (isProper_ofMembers (by simp [isProper_ofText]))
  · exact ⟨.ofNat q.budget.toNat, nat?_ofNat _,
      parse?_text (isProper_ofMembers (by simp [isProper_ofText, isProper_ofNat]))⟩

-- an origin alone is written as a route with every field
example : (routesOf? "[\"bob\"]".toList).map (fun rs => (encodeList encodeRoute rs).text) =
    some "[\x7b\"Origin\":\"bob\",\"Address\":\"\"\x7d]" := by
  cbv

end GossipPanel.Node.Wire
