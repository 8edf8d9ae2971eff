import GossipPanel.Proofs.ActiveView
import GossipPanel.Proofs.TabStrip
import Mathlib.Data.List.Rotate

/-!
# Cycling through the views

The tab strip and the cycle of views are built apart. They agree as long as no peer has two tabs
and the view that is shown is one of the views.

* `App.viewAfter`: the view a number of places further on in the tab strip, the first one after
  the last.
* `History.app_run_nextView`: repeated steps to the next view change the view, and it is the one
  that many places further on.
* `App.map_viewAfter_eq_rotate`: as many steps as there are views go through the rotated tab strip.
* `views_cycle`: the tab strip, the highlighted label and the cycle after every run.
-/

namespace GossipPanel.Panel

namespace App

variable {app : App}

/-! ## The views -/

theorem length_views (app : App) : app.views.length = app.conversations.tabs.length + 2 := by
  simp [views]

theorem nodup_views (hpeers : (app.conversations.tabs.map (·.peer)).Nodup) : app.views.Nodup := by
  have hviews : (app.conversations.tabs.map fun t => View.peer t.peer) =
      (app.conversations.tabs.map (·.peer)).map View.peer := by
    simp
  have hnames := hpeers.map (f := View.peer) fun _ _ => View.peer.inj
  rw [← hviews] at hnames
  simpa [views] using hnames

theorem view_mem_views (hopen : app.ShowsOpen) : app.view ∈ app.views := by
  cases hview : app.view with
  | peer name => simpa [views, Conversations.contains_iff] using hopen name hview
  | _ => simp [views]

theorem getElem?_views_eq_view_iff (hmem : app.view ∈ app.views) (hnodup : app.views.Nodup)
    (i : Nat) : app.views[i]? = some app.view ↔ i = app.views.idxOf app.view := by
  constructor
  · intro hi
    obtain ⟨hlt, hview⟩ := List.getElem?_eq_some_iff.1 hi
    rw [← hview, hnodup.idxOf_getElem]
  · rintro rfl
    have hlt := List.idxOf_lt_length_of_mem hmem
    rw [List.getElem?_eq_getElem hlt, List.getElem_idxOf hlt]

/-! ## Steps through the views -/

/-- The view `k` places after the active one. -/
def viewAfter (app : App) (k : Nat) : View :=
  app.views.getD ((app.views.idxOf app.view + k) % app.views.length) .gossip

theorem getElem?_viewAfter (app : App) (k : Nat) :
    app.views[(app.views.idxOf app.view + k) % app.views.length]? = some (app.viewAfter k) := by
  have hlt : (app.views.idxOf app.view + k) % app.views.length < app.views.length :=
    Nat.mod_lt _ (by simp [length_views])
  rw [viewAfter, List.getD_eq_getElem?_getD, List.getElem?_eq_getElem hlt, Option.getD_some]

theorem nextView_eq_viewAfter (hmem : app.view ∈ app.views) : app.nextView = app.viewAfter 1 := by
  rw [nextView, viewAfter, if_pos hmem]

theorem viewAfter_zero (hmem : app.view ∈ app.views) : app.viewAfter 0 = app.view := by
  have hlt := List.idxOf_lt_length_of_mem hmem
  have hview := app.getElem?_viewAfter 0
  rw [Nat.add_zero, Nat.mod_eq_of_lt hlt, List.getElem?_eq_getElem hlt,
    List.getElem_idxOf hlt] at hview
  exact (Option.some.inj hview).symm

theorem viewAfter_length (hmem : app.view ∈ app.views) :
    app.viewAfter app.views.length = app.view := by
  rw [← viewAfter_zero hmem, viewAfter, viewAfter, Nat.add_mod_right, Nat.add_zero]

theorem viewAfter_viewAfter (hnodup : app.views.Nodup) (j k : Nat) :
    viewAfter { app with view := app.viewAfter k } j = app.viewAfter (k + j) := by
  obtain ⟨hlt, hget⟩ := List.getElem?_eq_some_iff.1 (app.getElem?_viewAfter k)
  have hplace : app.views.idxOf (app.viewAfter k) =
      (app.views.idxOf app.view + k) % app.views.length := by
    rw [← hget, hnodup.idxOf_getElem]
  show app.views.getD ((app.views.idxOf (app.viewAfter k) + j) % app.views.length) _ = _
  rw [hplace, Nat.mod_add_mod, Nat.add_assoc]
  rfl

theorem viewAfter_mem_views (app : App) (k : Nat) : app.viewAfter k ∈ app.views :=
  List.mem_of_getElem? (app.getElem?_viewAfter k)

theorem map_viewAfter_eq_rotate (app : App) :
    (List.range app.views.length).map (fun k => app.viewAfter (k + 1)) =
      app.views.rotate (app.views.idxOf app.view + 1) := by
  refine List.ext_getElem (by simp) fun k hk _ => ?_
  rw [List.getElem_map, List.getElem_range, List.getElem_rotate, ← Option.some_inj,
    ← getElem?_viewAfter, ← List.getElem?_eq_getElem]
  congr 2
  omega

end App

open App in
theorem History.app_run_nextView {h : History} (hmem : h.app.view ∈ h.app.views)
    (hnodup : h.app.views.Nodup) (k : Nat) :
    (h.run (List.replicate k .nextView)).app = { h.app with view := h.app.viewAfter k } := by
  induction k with
  | zero =>
    rw [viewAfter_zero hmem]
    rfl
  | succ k ih =>
    rw [List.replicate_succ', History.run_concat]
    show (update (h.run (List.replicate k .nextView)).app .nextView).1 = _
    rw [ih, ← viewAfter_viewAfter hnodup 1 k, ← nextView_eq_viewAfter (viewAfter_mem_views _ k)]
    rfl

/-! ## The tab strip -/

open Display

theorem active_eq_idxOf {app : App} (hmem : app.view ∈ app.views) :
    TabBar.active app = app.views.idxOf app.view := by
  have hfound : ∃ l ∈ TabBar.labels app, (l.view == app.view) = true := by
    rw [← TabBar.map_view_labels, List.mem_map] at hmem
    obtain ⟨l, hl, hview⟩ := hmem
    exact ⟨l, hl, beq_iff_eq.2 hview⟩
  rw [TabBar.active, List.findIdx?_eq_some_of_exists hfound, Option.getD_some,
    ← TabBar.map_view_labels, List.idxOf, List.findIdx_map]
  rfl

open App in
/-- **The tab strip and the cycle of views agree.** After every run of the panel:

* the views are pairwise different, the feed and the search first and then one for each tab, and
  the labels of the tab strip stand for them in their order;
* the active view is at exactly one position, and the label there is the highlighted one: its cells
  and no others are bold;
* a step to the next view asks for nothing, and changes nothing but the view, which becomes the one
  at the next position, the first one after the last;
* as many steps as there are views show each view once, and end where they began. -/
theorem views_cycle (s : Settings.Resolved) (actions : List Action) :
    let app := (history s actions).app
    let n := app.conversations.tabs.length + 2
    let after := fun k => (history s (actions ++ List.replicate k .nextView)).app
    (app.views.length = n ∧ app.views.Nodup ∧ app.views.take 2 = [.gossip, .search] ∧
        (TabBar.labels app).map (·.view) = app.views) ∧
      (∃ i, (∀ j, app.views[j]? = some app.view ↔ j = i) ∧ TabBar.active app = i ∧
        (∀ width,
          let texts := (TabBar.labels app).map TabLabel.text
          let columns := Screen.tabColumns texts i width
          TabBar.draw app width =
              Screen.tabStrip (.colored .darkGray) TabBar.highlight texts i width ∧
            (TabBar.draw app width).map (·.style.bold) =
              (List.range width).map fun column =>
                decide (columns.1 ≤ column ∧ column < columns.2)) ∧
        (∃ view, app.views[(i + 1) % n]? = some view ∧
          update app .nextView = ({ app with view }, [])) ∧
        ∀ k, ∃ view, app.views[(i + k) % n]? = some view ∧ after k = { app with view }) ∧
      ((List.range n).map fun k => (after (k + 1)).view).Perm app.views ∧
      after n = app := by
  intro app n after
  have hmem : app.view ∈ app.views := view_mem_views (sighted_history s actions).showsOpen
  have hnodup : app.views.Nodup := nodup_views (nodup_peers_history s actions)
  have hn : app.views.length = n := length_views app
  have hafter : ∀ k, after k = { app with view := app.viewAfter k } := by
    intro k
    show (history s (actions ++ _)).app = _
    rw [history_append]
    exact History.app_run_nextView hmem hnodup k
  have hplace : ∀ k, app.views[(app.views.idxOf app.view + k) % n]? = some (app.viewAfter k) :=
    fun k => hn ▸ app.getElem?_viewAfter k
  have hactive : TabBar.active app = app.views.idxOf app.view := active_eq_idxOf hmem
  refine ⟨⟨hn, hnodup, rfl, TabBar.map_view_labels app⟩,
    ⟨app.views.idxOf app.view, getElem?_views_eq_view_iff hmem hnodup, hactive,
      fun width => ⟨?_, ?_⟩, ?_, fun k => ⟨_, hplace k, hafter k⟩⟩, ?_, ?_⟩
  · rw [TabBar.draw, hactive]
  · rw [TabBar.map_bold_draw, hactive]
  · refine ⟨_, hplace 1, ?_⟩
    rw [update, nextView_eq_viewAfter hmem]
  · have hround : ((List.range n).map fun k => (after (k + 1)).view) =
        app.views.rotate (app.views.idxOf app.view + 1) := by
      rw [← map_viewAfter_eq_rotate, hn]
      exact List.map_congr_left fun k _ => by rw [hafter]
    rw [hround]
    exact List.rotate_perm _ _
  · rw [hafter, ← hn, viewAfter_length hmem]

end GossipPanel.Panel
