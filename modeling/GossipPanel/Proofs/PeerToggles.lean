import GossipPanel.Proofs.Commands
import Mathlib.Algebra.Group.Nat.Even
import Mathlib.Data.Finset.SymmDiff

/-!
# Toggles of peers

The node has one request that adds an absent peer and removes a present one. The panel sends it
only as its last snapshot allows, but snapshots and toggles take time.

* `Roster`: the node's peers, with all toggles that have reached it.
* `Exchange`: the panel, its node, and what is on the way between them.
* `Exchange.Consistent.step`: what the panel shows, what is on the way to it and what it has asked
  for all tell what the roster was at a known moment of the past.
* `toggle_as_meant_iff`: a toggle does what it is meant to do exactly when its peer has been
  toggled an even number of times since the moment of which the panel knew.
* `repeated_add_removes`: adding a peer twice before a snapshot shows it removes it.
-/

namespace GossipPanel.Panel

open Node

/-! ## The node -/

structure Roster where
  /-- The addresses of the peers. -/
  peers : Finset String
  /-- The addresses that have been toggled, oldest first. -/
  toggled : List String := []

namespace Roster

/-- Adds an absent peer, removes a present one. -/
def toggle (n : Roster) (address : String) : Roster :=
  { peers := symmDiff n.peers {address}, toggled := n.toggled ++ [address] }

/-- The address was one of a peer when the first `k` toggles had reached the node: it is one now,
unless it has been toggled an odd number of times since. -/
def WasPeer (n : Roster) (k : Nat) (address : String) : Prop :=
  address ∈ n.peers ↔ Even ((n.toggled.drop k).count address)

variable {n : Roster} {k : Nat} {address other : String}

theorem mem_toggle : address ∈ (n.toggle other).peers ↔ (address ∈ n.peers ↔ address ≠ other) := by
  rw [toggle, Finset.mem_symmDiff, Finset.mem_singleton]
  tauto

theorem wasPeer_toggle (hk : k ≤ n.toggled.length) :
    (n.toggle other).WasPeer k address ↔ n.WasPeer k address := by
  have hdrop : (n.toggle other).toggled.drop k = n.toggled.drop k ++ [other] :=
    List.drop_append_of_le_length hk
  unfold WasPeer
  rw [mem_toggle, hdrop, List.count_append]
  by_cases ha : address = other
  · subst ha
    rw [List.count_singleton_self, Nat.even_add_one]
    tauto
  · rw [List.count_singleton, if_neg (by simpa using Ne.symm ha), Nat.add_zero]
    tauto

theorem wasPeer_now : n.WasPeer n.toggled.length address ↔ address ∈ n.peers := by
  simp [WasPeer]

end Roster

/-! ## The panel and the node -/

/-- A command on its way to the node. -/
structure Order where
  command : Command
  /-- The number of toggles that had reached the node when it took the snapshot that the panel
  showed when it asked for the command. -/
  since : Nat
  deriving DecidableEq

/-- The peers of a snapshot on its way to the panel. -/
structure Report where
  generation : UInt64
  peers : Finset String
  /-- The number of toggles that had reached the node when it took the snapshot. -/
  since : Nat
  deriving DecidableEq

/-- The panel, its node, and what is on the way between them. -/
structure Exchange where
  app : App
  node : Roster
  /-- The number of toggles that had reached the node when it took the snapshot on show. -/
  shown : Nat := 0
  /-- The fetches that the node has not answered. -/
  fetches : List UInt64 := []
  reports : List Report := []
  orders : List Order := []
  /-- The commands that have reached the node and have not finished. -/
  delivered : List Command := []

/-- Anything that can happen to the panel and the node. -/
inductive Move where
  /-- An action that reports neither on a command nor on a fetch. -/
  | act (a : Action)
  /-- A command reaches the node. -/
  | deliver (order : Order)
  | finish (command : Command) (result : Except String String)
  /-- The node answers a fetch with its peers of this moment. -/
  | answer (generation : UInt64)
  | land (report : Report) (snapshot : Snapshot)
  /-- A fetch fails. -/
  | lose (generation : UInt64) (reason : String)

namespace Exchange

def start (app : App) (peers : Finset String) : Exchange :=
  { app, node := { peers } }

/-- The panel takes an action; what it asks for is on its way. -/
def react (x : Exchange) (a : Action) : Exchange :=
  { x with
    app := (update x.app a).1
    orders := x.orders ++ ((update x.app a).2.filterMap Effect.command?).map (⟨·, x.shown⟩)
    fetches := x.fetches ++ (update x.app a).2.filterMap Effect.fetch? }

def obey (n : Roster) : Command → Roster
  | .togglePeer address _ => n.toggle address
  | _ => n

def step (x : Exchange) : Move → Exchange
  | .act a => x.react a
  | .deliver o =>
    { x with
      node := obey x.node o.command
      orders := x.orders.erase o
      delivered := x.delivered ++ [o.command] }
  | .finish c result =>
    { x.react (.commandFinished c result) with delivered := x.delivered.erase c }
  | .answer g =>
    { x with
      fetches := x.fetches.erase g
      reports := x.reports ++ [⟨g, x.node.peers, x.node.toggled.length⟩] }
  | .land r snapshot =>
    { x.react (.snapshotLoaded r.generation (.ok snapshot)) with
      reports := x.reports.erase r
      shown := if x.app.polling.inFlight = some r.generation then r.since else x.shown }
  | .lose g reason =>
    { x with fetches := x.fetches.erase g }.react (.snapshotLoaded g (.error reason))

def Possible (x : Exchange) : Move → Prop
  | .act a => a.finished? = none ∧ a.landed? = none
  | .deliver o => o ∈ x.orders
  | .finish c _ => c ∈ x.delivered
  | .answer g => g ∈ x.fetches
  | .land r snapshot => r ∈ x.reports ∧ (snapshot.peers.map PeerRecord.address).toFinset = r.peers
  | .lose g _ => g ∈ x.fetches

instance (x : Exchange) (m : Move) : Decidable (x.Possible m) := by
  cases m <;> unfold Possible <;> infer_instance

def run (x : Exchange) (moves : List Move) : Exchange :=
  moves.foldl step x

/-- Every move of a run can happen when it comes. -/
def Admits (x : Exchange) : List Move → Prop
  | [] => True
  | m :: moves => x.Possible m ∧ (x.step m).Admits moves

instance Admits.decidable (x : Exchange) : (moves : List Move) → Decidable (x.Admits moves)
  | [] => .isTrue trivial
  | m :: moves => @instDecidableAnd _ _ _ (Admits.decidable (x.step m) moves)

/-! ## What each side knows of the past -/

/-- A toggle is asked for because of what the peer was at its moment. -/
def FitsOrder (n : Roster) (o : Order) : Prop :=
  o.since ≤ n.toggled.length ∧
    ∀ address adding, o.command = .togglePeer address adding →
      (adding = false ↔ n.WasPeer o.since address)

def FitsReport (n : Roster) (r : Report) : Prop :=
  r.since ≤ n.toggled.length ∧ ∀ address, address ∈ r.peers ↔ n.WasPeer r.since address

def FitsPanel (n : Roster) (app : App) (shown : Nat) : Prop :=
  shown ≤ n.toggled.length ∧ ∀ address, app.hasPeer address = true ↔ n.WasPeer shown address

/-- Everything that is known of the roster was true at its moment. -/
structure Consistent (x : Exchange) : Prop where
  panel : FitsPanel x.node x.app x.shown
  reports : ∀ r ∈ x.reports, FitsReport x.node r
  orders : ∀ o ∈ x.orders, FitsOrder x.node o

variable {x : Exchange} {n : Roster}

theorem length_le_obey (n : Roster) (c : Command) :
    n.toggled.length ≤ (obey n c).toggled.length := by
  cases c <;> simp [obey, Roster.toggle]

theorem wasPeer_obey {k : Nat} (hk : k ≤ n.toggled.length) (c : Command) (address : String) :
    (obey n c).WasPeer k address ↔ n.WasPeer k address := by
  cases c with
  | togglePeer other adding => exact Roster.wasPeer_toggle hk
  | _ => rfl

theorem Consistent.deliver (hx : Consistent x) (o : Order) : Consistent (x.step (.deliver o)) := by
  have hlater := length_le_obey x.node o.command
  constructor
  · obtain ⟨hle, hpeer⟩ := hx.panel
    exact ⟨hle.trans hlater, fun a => (hpeer a).trans (wasPeer_obey hle _ a).symm⟩
  · intro r hr
    obtain ⟨hle, hpeer⟩ := hx.reports r hr
    exact ⟨hle.trans hlater, fun a => (hpeer a).trans (wasPeer_obey hle _ a).symm⟩
  · intro o' ho'
    obtain ⟨hle, hmeant⟩ := hx.orders o' (List.mem_of_mem_erase ho')
    refine ⟨hle.trans hlater, fun a adding hcommand => ?_⟩
    exact (hmeant a adding hcommand).trans (wasPeer_obey hle _ a).symm

theorem Consistent.orders_react (hx : Consistent x) (a : Action) :
    ∀ o ∈ (x.react a).orders, FitsOrder x.node o := by
  intro o ho
  rcases List.mem_append.1 ho with ho | ho
  · exact hx.orders o ho
  · obtain ⟨command, hcommand, rfl⟩ := List.mem_map.1 ho
    obtain ⟨hle, hpeer⟩ := hx.panel
    refine ⟨hle, fun address adding heq => ?_⟩
    obtain rfl : command = .togglePeer address adding := heq
    have hstep := update_commandStep x.app a
    generalize (update x.app a).1.sending = sending,
      (update x.app a).2.filterMap Effect.command? = asked at hstep hcommand
    rw [← hpeer address]
    cases hstep with
    | finished => cases hcommand
    | quiet => cases hcommand
    | message ha hidle hmessage =>
      rw [← List.mem_singleton.1 hcommand] at hmessage
      cases hmessage
    | toggle =>
      obtain ⟨rfl, rfl⟩ := Command.togglePeer.inj (List.mem_singleton.1 hcommand)
      simp
    | other ha hmessage htoggle =>
      rw [← List.mem_singleton.1 hcommand] at htoggle
      cases htoggle

theorem Consistent.react (hx : Consistent x) {a : Action}
    (hsnapshot : (update x.app a).1.snapshot = x.app.snapshot) : Consistent (x.react a) where
  panel := by
    have hsame : ∀ address, (update x.app a).1.hasPeer address = x.app.hasPeer address := by
      intro address
      rw [App.hasPeer, hsnapshot, App.hasPeer]
    exact ⟨hx.panel.1, fun address => (hsame address) ▸ hx.panel.2 address⟩
  reports := hx.reports
  orders := hx.orders_react a

theorem snapshot_of_accepted?_none {app : App} {a : Action} (h : app.accepted? a = none) :
    (update app a).1.snapshot = app.snapshot := by
  rw [(update_reaction app a).snapshot, h]
  rfl

theorem accepted?_of_not_landed {app : App} {a : Action} (h : a.landed? = none) :
    app.accepted? a = none := by
  cases a <;> first | rfl | cases h

theorem mem_addresses {snapshot : Snapshot} {address : String} :
    address ∈ (snapshot.peers.map PeerRecord.address).toFinset ↔
      snapshot.peers.any (·.address == address) = true := by
  simp

theorem Consistent.land (hx : Consistent x) {r : Report} {snapshot : Snapshot}
    (hr : r ∈ x.reports)
    (hpeers : (snapshot.peers.map PeerRecord.address).toFinset = r.peers) :
    Consistent (x.step (.land r snapshot)) where
  panel := by
    have hsnapshot := (update_reaction x.app (.snapshotLoaded r.generation (.ok snapshot))).snapshot
    show FitsPanel x.node (update x.app (.snapshotLoaded r.generation (.ok snapshot))).1
      (if x.app.polling.inFlight = some r.generation then r.since else x.shown)
    by_cases hg : x.app.polling.inFlight = some r.generation
    · -- the snapshot is accepted: the panel knows what the report knows
      rw [if_pos hg]
      obtain ⟨hle, hpeer⟩ := hx.reports r hr
      refine ⟨hle, fun address => ?_⟩
      have hnew : (update x.app (.snapshotLoaded r.generation (.ok snapshot))).1.snapshot =
          snapshot := by
        rw [hsnapshot, App.accepted?, if_pos hg]
        rfl
      rw [App.hasPeer, hnew, ← mem_addresses, hpeers]
      exact hpeer address
    · rw [if_neg hg]
      have hold : x.app.accepted? (.snapshotLoaded r.generation (.ok snapshot)) = none := by
        rw [App.accepted?, if_neg hg]
      exact (hx.react (snapshot_of_accepted?_none hold)).panel
  reports r' hr' := hx.reports r' (List.mem_of_mem_erase hr')
  orders := hx.orders_react _

theorem Consistent.answer (hx : Consistent x) (g : UInt64) :
    Consistent (x.step (.answer g)) where
  panel := hx.panel
  reports r hr := by
    rcases List.mem_append.1 hr with hr | hr
    · exact hx.reports r hr
    · rw [List.mem_singleton.1 hr]
      exact ⟨le_refl _, fun _ => Roster.wasPeer_now.symm⟩
  orders := hx.orders

theorem Consistent.lose (hx : Consistent x) (g : UInt64) (reason : String) :
    Consistent (x.step (.lose g reason)) := by
  have hfetched : Consistent { x with fetches := x.fetches.erase g } :=
    ⟨hx.panel, hx.reports, hx.orders⟩
  refine hfetched.react ?_
  rw [(update_reaction _ _).snapshot, App.accepted?]
  split <;> rfl

theorem Consistent.step (hx : Consistent x) {m : Move} (hm : x.Possible m) :
    Consistent (x.step m) := by
  cases m with
  | act a => exact hx.react (snapshot_of_accepted?_none (accepted?_of_not_landed hm.2))
  | deliver o => exact hx.deliver o
  | finish c result =>
    have hreact : Consistent (x.react (.commandFinished c result)) :=
      hx.react (snapshot_of_accepted?_none rfl)
    exact ⟨hreact.panel, hreact.reports, hreact.orders⟩
  | answer g => exact hx.answer g
  | land r snapshot => exact hx.land hm.1 hm.2
  | lose g reason => exact hx.lose g reason

theorem Consistent.run (hx : Consistent x) {moves : List Move} (hmoves : x.Admits moves) :
    Consistent (x.run moves) := by
  induction moves generalizing x with
  | nil => exact hx
  | cons m moves ih => exact ih (hx.step hmoves.1) hmoves.2

theorem consistent_start {app : App} {peers : Finset String}
    (hsame : ∀ address, app.hasPeer address = true ↔ address ∈ peers) :
    Consistent (start app peers) where
  panel := by
    have hnow : ∀ address, (⟨peers, []⟩ : Roster).WasPeer 0 address ↔ address ∈ peers :=
      fun _ => Roster.wasPeer_now
    exact ⟨le_refl _, fun address => (hsame address).trans (hnow address).symm⟩
  reports := nofun
  orders := nofun

end Exchange

open Exchange

/-- **When a toggle does what it is meant to do.** Let the panel show the peers of its node, and
let nothing be on the way. After any run, whatever is asked for and in whatever order commands and
snapshots arrive, a toggle that reaches the node adds an absent peer when it is meant to add and
removes a present one when it is meant to remove, exactly when its peer has been toggled an even
number of times since the node took the snapshot on which the toggle was decided. -/
theorem toggle_as_meant_iff (app : App) (peers : Finset String)
    (hsame : ∀ address, app.hasPeer address = true ↔ address ∈ peers) (moves : List Move)
    (hmoves : (start app peers).Admits moves) :
    let x := (start app peers).run moves
    ∀ o ∈ x.orders, ∀ address adding, o.command = .togglePeer address adding →
      ((adding = true ∧ address ∉ x.node.peers ∨ adding = false ∧ address ∈ x.node.peers) ↔
        Even ((x.node.toggled.drop o.since).count address)) := by
  intro x o ho address adding hcommand
  have hx : Consistent x := (consistent_start hsame).run hmoves
  have hmeant : adding = false ↔ x.node.WasPeer o.since address :=
    (hx.orders o ho).2 address adding hcommand
  unfold Roster.WasPeer at hmeant
  cases adding with
  | true =>
    have hnot : ¬ (address ∈ x.node.peers ↔ Even ((x.node.toggled.drop o.since).count address)) :=
      fun h => absurd (hmeant.2 h) (by decide)
    simp only [true_and, Bool.true_eq_false, false_and, or_false]
    tauto
  | false =>
    have hsince : address ∈ x.node.peers ↔ Even ((x.node.toggled.drop o.since).count address) :=
      hmeant.1 rfl
    simpa using hsince

/-- A removal that is asked for when a snapshot shows the added peer removes it. -/
theorem removal_after_snapshot :
    let moves : List Move := [.act (.addPeer "a:1"), .deliver ⟨.togglePeer "a:1" true, 0⟩,
      .finish (.togglePeer "a:1" true) (.ok ""), .answer 1,
      .land ⟨1, {"a:1"}, 1⟩ { peers := [⟨"a:1", .manual⟩] }, .act (.deletePeer "a:1")]
    let x := (start {} ∅).run moves
    x.orders = [⟨.togglePeer "a:1" false, 1⟩] ∧ "a:1" ∈ x.node.peers := by
  intro moves x
  have horders : x.orders = [⟨.togglePeer "a:1" false, 1⟩] := by decide
  have ho : ⟨.togglePeer "a:1" false, 1⟩ ∈ x.orders := horders ▸ List.mem_singleton_self _
  have hmeant := toggle_as_meant_iff {} ∅ (by simp [App.hasPeer]) moves (by decide) _ ho "a:1"
    false rfl
  have heven : Even ((x.node.toggled.drop 1).count "a:1") := by decide
  exact ⟨horders, by simpa using hmeant.2 heven⟩

/-- A peer that is added twice before a snapshot shows it is removed again. -/
theorem repeated_add_removes :
    let moves : List Move := [.act (.addPeer "a:1"), .act (.addPeer "a:1"),
      .deliver ⟨.togglePeer "a:1" true, 0⟩]
    let x := (start {} ∅).run moves
    (start {} ∅).Admits moves ∧ x.orders = [⟨.togglePeer "a:1" true, 0⟩] ∧
      "a:1" ∈ x.node.peers := by
  decide

end GossipPanel.Panel
