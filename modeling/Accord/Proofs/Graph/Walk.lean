/-
# What a walk knows

The walk that finds strong components keeps an account of the graph: which nodes were met,
in which order, which of them wait for their component, and how far back each visit was
found to lead. This account is kept by every step. It says in particular that the nodes that
wait reach each other in the order in which they were met, that each of them leads back to a
node that is being visited, and that no edge between them leads back further than the visits
know. When a visit finds no number below its own, the nodes met since then are therefore a
strong component.

## Main definitions

* `Graph.Edge`, `Graph.Reaches`: the edges of a graph, and the paths along them;
* `Walk.Consistent`: the account, up to edges that were not followed yet.

## Main results

* `Walk.Consistent.enter`, `Walk.Consistent.leave`: the account is kept when a visit begins and
  when it ends;
* `Walk.Consistent.strong_of_num_le`: the nodes met since a visit with no smaller number began
  are a strong component;
* `Walk.Consistent.close`: the account is kept when a component is found.
-/

import Accord.Graph
import Mathlib.Data.Fintype.Card
import Mathlib.Logic.Relation

namespace Accord.Graph

variable {α : Type} {g : Graph α}

/-- There is an edge from a node to each of its successors that is a node. -/
def Edge (g : Graph α) (u v : α) : Prop := u ∈ g.nodes ∧ v ∈ g.next u ∧ v ∈ g.nodes

/-- A node reaches another along edges, in any number of steps. -/
def Reaches (g : Graph α) : α → α → Prop := Relation.ReflTransGen g.Edge

theorem Reaches.refl (v : α) : g.Reaches v v := Relation.ReflTransGen.refl

theorem Reaches.trans {u v w : α} (h : g.Reaches u v) (h' : g.Reaches v w) : g.Reaches u w :=
  Relation.ReflTransGen.trans h h'

theorem Reaches.tail {u v w : α} (h : g.Reaches u v) (h' : g.Edge v w) : g.Reaches u w :=
  Relation.ReflTransGen.tail h h'

/-! ### Passing numbers on -/

/-- What the visits are after the innermost one has ended: the one around it knows what it knew. -/
theorem mem_passOn {low : Nat} {b : Visit α} {outer : List (Visit α)} (hb : b ∈ passOn low outer) :
    ∃ c ∈ outer, b.node = c.node ∧ b.todo = c.todo ∧ b.low ≤ c.low ∧
      (b.low = c.low ∨ b.low = low) := by
  cases outer with
  | nil => cases hb
  | cons c rest =>
    rcases List.mem_cons.mp hb with rfl | hb
    · refine ⟨c, List.mem_cons_self, rfl, rfl, Nat.min_le_left _ _, ?_⟩
      rcases Nat.le_total c.low low with hle | hle
      · exact Or.inl (Nat.min_eq_left hle)
      · exact Or.inr (Nat.min_eq_right hle)
    · exact ⟨b, List.mem_cons_of_mem c hb, rfl, rfl, le_rfl, Or.inl rfl⟩

theorem exists_mem_passOn (low : Nat) {c : Visit α} {outer : List (Visit α)} (hc : c ∈ outer) :
    ∃ b ∈ passOn low outer, b.node = c.node ∧ b.low ≤ c.low ∧ b.todo = c.todo := by
  cases outer with
  | nil => cases hc
  | cons first rest =>
    rcases List.mem_cons.mp hc with rfl | hc
    · exact ⟨_, List.mem_cons_self, rfl, Nat.min_le_left _ _, rfl⟩
    · exact ⟨c, List.mem_cons_of_mem _ hc, rfl, le_rfl, rfl⟩

theorem pairwise_passOn {num : α → Nat} {low : Nat} {outer : List (Visit α)}
    (h : outer.Pairwise fun a b => num b.node < num a.node) :
    (passOn low outer).Pairwise fun a b => num b.node < num a.node := by
  cases outer with
  | nil => exact h
  | cons c rest => exact List.pairwise_cons.mpr (List.pairwise_cons.mp h)

variable [DecidableEq α]

/-! ### Cutting off the nodes of a component -/

theorem cutThrough_append {v : α} {nodes : List α} (h : v ∈ nodes) :
    (cutThrough v nodes).1 ++ (cutThrough v nodes).2 = nodes := by
  induction nodes with
  | nil => cases h
  | cons u rest ih =>
    unfold cutThrough
    split
    · rfl
    case isFalse hu =>
      have hv : v ∈ rest := (List.mem_cons.mp h).resolve_left (Ne.symm hu)
      simp [ih hv]

/-- In a list with falling numbers, the nodes down to a given one are those with at least its
number, and those below it are left. -/
theorem mem_cutThrough {num : α → Nat} {v : α} {nodes : List α}
    (hs : nodes.Pairwise fun x y => num y < num x) (h : v ∈ nodes) (x : α) :
    (x ∈ (cutThrough v nodes).1 ↔ x ∈ nodes ∧ num v ≤ num x) ∧
      (x ∈ (cutThrough v nodes).2 ↔ x ∈ nodes ∧ num x < num v) := by
  induction nodes with
  | nil => cases h
  | cons u rest ih =>
    obtain ⟨hu, hrest⟩ := List.pairwise_cons.mp hs
    unfold cutThrough
    split
    case isTrue huv =>
      -- All that follows has smaller numbers.
      subst huv
      have below : ∀ y ∈ rest, num y < num u := hu
      constructor
      · constructor
        · intro hx
          obtain rfl := List.mem_singleton.mp hx
          exact ⟨List.mem_cons_self, le_rfl⟩
        · rintro ⟨hx, hle⟩
          rcases List.mem_cons.mp hx with rfl | hx
          · exact List.mem_singleton_self x
          · exact absurd (below x hx) (by omega)
      · constructor
        · intro hx
          exact ⟨List.mem_cons_of_mem u hx, below x hx⟩
        · rintro ⟨hx, hlt⟩
          rcases List.mem_cons.mp hx with rfl | hx
          · exact absurd hlt (by omega)
          · exact hx
    case isFalse huv =>
      have hv : v ∈ rest := (List.mem_cons.mp h).resolve_left (Ne.symm huv)
      have hvu : num v < num u := hu v hv
      obtain ⟨above, below⟩ := ih hrest hv
      constructor
      · rw [List.mem_cons, List.mem_cons, above]
        constructor
        · rintro (rfl | ⟨hx, hle⟩)
          · exact ⟨Or.inl rfl, Nat.le_of_lt hvu⟩
          · exact ⟨Or.inr hx, hle⟩
        · rintro ⟨rfl | hx, hle⟩
          · exact Or.inl rfl
          · exact Or.inr ⟨hx, hle⟩
      · rw [List.mem_cons, below]
        constructor
        · rintro ⟨hx, hlt⟩
          exact ⟨Or.inr hx, hlt⟩
        · rintro ⟨rfl | hx, hlt⟩
          · exact absurd hlt (by omega)
          · exact ⟨hx, hlt⟩

namespace Walk

variable {w : Walk α} {v x y : α} {a b : Visit α} {outer : List (Visit α)}
  {left left' : α → α → Prop}

/-! ### The account -/

/-- A node was met. -/
def Met (w : Walk α) (x : α) : Prop := (w.numbers.lookup x).isSome

/-- The number of a node. -/
def num (w : Walk α) (x : α) : Nat := (w.numbers.lookup x).getD 0

/-- A node belongs to a component that was found. -/
def Settled (w : Walk α) (x : α) : Prop := ∃ k ∈ w.groups, x ∈ k

/-- An edge is still to be followed. -/
def Unfollowed (w : Walk α) (x y : α) : Prop := ∃ a ∈ w.visits, a.node = x ∧ y ∈ a.todo

/-- The account that a walk keeps of a graph, but for some edges. -/
structure Consistent (g : Graph α) (left : α → α → Prop) (w : Walk α) : Prop where
  /-- Only nodes are met. -/
  mem_of_met : ∀ x, w.Met x → x ∈ g.nodes
  /-- The next number is new. -/
  num_lt : ∀ x, w.Met x → w.num x < w.numbers.length
  /-- The nodes that were met wait for their component or have one. -/
  met_iff : ∀ x, w.Met x ↔ x ∈ w.pending ∨ w.Settled x
  not_settled : ∀ x ∈ w.pending, ¬ w.Settled x
  sorted : w.pending.Pairwise fun x y => w.num y < w.num x
  visits_pending : ∀ a ∈ w.visits, a.node ∈ w.pending
  visits_sorted : w.visits.Pairwise fun a b => w.num b.node < w.num a.node
  /-- Nodes that wait reach those that were met after them. -/
  forth : ∀ x ∈ w.pending, ∀ y ∈ w.pending, w.num x ≤ w.num y → g.Reaches x y
  /-- Nodes that wait lead back to a node that is being visited. -/
  back : ∀ y ∈ w.pending, ∃ a ∈ w.visits, w.num a.node ≤ w.num y ∧ g.Reaches y a.node
  /-- The low number of a visit is that of a node that the visited one reaches. -/
  low : ∀ a ∈ w.visits, a.low ≤ w.num a.node ∧
    ∃ y ∈ w.pending, w.num y = a.low ∧ g.Reaches a.node y
  /-- Nodes that follow nodes that were met were met, too. -/
  followed : ∀ x y, w.Met x → g.Edge x y → w.Met y ∨ left x y
  /-- No edge between nodes that wait leads back further than the visits know. -/
  covered : ∀ a ∈ w.visits, ∀ x ∈ w.pending, w.num a.node ≤ w.num x →
    ∀ y ∈ w.pending, g.Edge x y →
      left x y ∨ ∃ b ∈ w.visits, w.num a.node ≤ w.num b.node ∧ b.low ≤ w.num y
  settled_of_edge : ∀ x y, w.Settled x → g.Edge x y → w.Settled y
  /-- A component consists of the nodes that reach each other. -/
  mem_group_iff : ∀ k ∈ w.groups, ∀ x ∈ k, ∀ y, y ∈ k ↔ g.Reaches x y ∧ g.Reaches y x
  nodup_group : ∀ k ∈ w.groups, k.Nodup

namespace Consistent

theorem met_of_pending (h : Consistent g left w) (hx : x ∈ w.pending) : w.Met x :=
  (h.met_iff x).mpr (Or.inl hx)

/-- The innermost visit has the largest number. -/
theorem num_le_of_visits (h : Consistent g left w) (hw : w.visits = a :: outer)
    (hb : b ∈ w.visits) : w.num b.node ≤ w.num a.node := by
  have hs := h.visits_sorted
  rw [hw] at hs hb
  rcases List.mem_cons.mp hb with rfl | hb
  · exact le_rfl
  · exact ((List.pairwise_cons.mp hs).1 b hb).le

/-- Only the innermost visit has its number. -/
theorem eq_of_num_le (h : Consistent g left w) (hw : w.visits = a :: outer) (hb : b ∈ w.visits)
    (hn : w.num a.node ≤ w.num b.node) : b = a := by
  have hs := h.visits_sorted
  rw [hw] at hs hb
  rcases List.mem_cons.mp hb with rfl | hb
  · rfl
  · exact absurd ((List.pairwise_cons.mp hs).1 b hb) hn.not_gt

theorem reaches_of_settled (h : Consistent g left w) (hx : w.Settled x) (hr : g.Reaches x y) :
    w.Settled y := by
  induction hr with
  | refl => exact hx
  | tail _ hedge ih => exact h.settled_of_edge _ _ ih hedge

/-! ### Edges that are accounted for -/

/-- An edge need not be left out once its end was met and some visit knows how far it leads
back. -/
theorem settle (h : Consistent g left w)
    (hl : ∀ x y, g.Edge x y → left x y → left' x y ∨ w.Met y ∧
      (y ∈ w.pending → ∀ a ∈ w.visits, w.num a.node ≤ w.num x →
        ∃ b ∈ w.visits, w.num a.node ≤ w.num b.node ∧ b.low ≤ w.num y)) :
    Consistent g left' w :=
  { h with
    followed := by
      intro x y hx hxy
      rcases h.followed x y hx hxy with hy | hleft
      · exact Or.inl hy
      · rcases hl x y hxy hleft with hleft' | ⟨hy, -⟩
        · exact Or.inr hleft'
        · exact Or.inl hy
    covered := by
      intro a ha x hx hax y hy hxy
      rcases h.covered a ha x hx hax y hy hxy with hleft | hb
      · rcases hl x y hxy hleft with hleft' | ⟨-, hcover⟩
        · exact Or.inl hleft'
        · exact Or.inr (hcover hy a ha hax)
      · exact Or.inr hb }

/-- The innermost visit may go on, and lower its number to one that lies behind its node. -/
theorem lower (h : Consistent g left w) (hw : w.visits = a :: outer) (hnode : b.node = a.node)
    (hlow : b.low ≤ a.low) (hy : ∃ y ∈ w.pending, w.num y = b.low ∧ g.Reaches a.node y) :
    Consistent g left { w with visits := b :: outer } := by
  have hv := h.visits_pending
  have hs := h.visits_sorted
  have hl := h.low
  rw [hw] at hv hs hl
  -- The visits have the same nodes as before.
  have same : ∀ c ∈ w.visits, ∃ d ∈ b :: outer, d.node = c.node ∧ d.low ≤ c.low := by
    intro c hc
    rw [hw] at hc
    rcases List.mem_cons.mp hc with rfl | hc
    · exact ⟨b, List.mem_cons_self, hnode, hlow⟩
    · exact ⟨c, List.mem_cons_of_mem b hc, rfl, le_rfl⟩
  have same' : ∀ d ∈ b :: outer, ∃ c ∈ w.visits, c.node = d.node := by
    intro d hd
    rw [hw]
    rcases List.mem_cons.mp hd with rfl | hd
    · exact ⟨a, List.mem_cons_self, hnode.symm⟩
    · exact ⟨d, List.mem_cons_of_mem a hd, rfl⟩
  exact
    { h with
      visits_pending := by
        intro d hd
        obtain ⟨c, hc, hcd⟩ := same' d hd
        exact hcd ▸ h.visits_pending c hc
      visits_sorted := by
        obtain ⟨ha, houter⟩ := List.pairwise_cons.mp hs
        exact List.pairwise_cons.mpr ⟨fun c hc => hnode ▸ ha c hc, houter⟩
      back := by
        intro y hy
        obtain ⟨c, hc, hcy, hr⟩ := h.back y hy
        obtain ⟨d, hd, hdc, -⟩ := same c hc
        refine ⟨d, hd, ?_, ?_⟩
        · rw [hdc]
          exact hcy
        · rw [hdc]
          exact hr
      low := by
        intro d hd
        rcases List.mem_cons.mp hd with rfl | hd
        · rw [hnode]
          exact ⟨hlow.trans (hl a List.mem_cons_self).1, hy⟩
        · exact hl d (List.mem_cons_of_mem a hd)
      covered := by
        intro d hd x hx hdx y hy hxy
        -- A visit that knew how far the edge leads back knows it still, with a lower number.
        obtain ⟨c, hc, hcd⟩ := same' d hd
        rw [← hcd] at hdx ⊢
        rcases h.covered c hc x hx hdx y hy hxy with hleft | ⟨e, he, hce, hey⟩
        · exact Or.inl hleft
        · obtain ⟨f, hf, hfe, hlow'⟩ := same e he
          exact Or.inr ⟨f, hf, hfe ▸ hce, hlow'.trans hey⟩ }

/-! ### Meeting a node -/

theorem num_of_lookup {n : Nat} (h : w.numbers.lookup x = some n) :
    w.num x = n := by
  rw [num, h, Option.getD_some]

theorem num_enter_self : (Walk.enter g w v).num v = w.numbers.length := by
  simp [num, Walk.enter]

theorem num_enter_of_ne (h : x ≠ v) : (Walk.enter g w v).num x = w.num x := by
  simp [num, Walk.enter, List.lookup_cons, beq_false_of_ne h]

theorem met_enter_iff : (Walk.enter g w v).Met x ↔ x = v ∨ w.Met x := by
  by_cases h : x = v
  · simp [h, Met, Walk.enter]
  · simp [h, Met, Walk.enter, List.lookup_cons, beq_false_of_ne h]

/-- A node that is met for the first time, and that all nodes that wait reach, joins them. Its
edges are to be followed. -/
theorem enter (h : Consistent g left w) (hv : v ∈ g.nodes) (hm : ¬ w.Met v)
    (hr : ∀ x ∈ w.pending, g.Reaches x v) :
    Consistent g (fun x y => left x y ∨ x = v ∧ y ∈ g.next v) (Walk.enter g w v) := by
  have ne_of_met {x : α} (hx : w.Met x) : x ≠ v := fun e => hm (e ▸ hx)
  have num_met {x : α} (hx : w.Met x) : (Walk.enter g w v).num x = w.num x :=
    num_enter_of_ne (ne_of_met hx)
  have num_pending {x : α} (hx : x ∈ w.pending) : (Walk.enter g w v).num x = w.num x :=
    num_met (h.met_of_pending hx)
  have lt_new {x : α} (hx : w.Met x) : (Walk.enter g w v).num x < (Walk.enter g w v).num v := by
    rw [num_met hx, num_enter_self]
    exact h.num_lt x hx
  have visit_pending {a : Visit α} (ha : a ∈ w.visits) : w.Met a.node :=
    h.met_of_pending (h.visits_pending a ha)
  constructor
  case mem_of_met =>
    intro x hx
    rcases met_enter_iff.mp hx with rfl | hx
    · exact hv
    · exact h.mem_of_met x hx
  case num_lt =>
    intro x hx
    rcases met_enter_iff.mp hx with rfl | hx
    · rw [num_enter_self]
      exact Nat.lt_succ_self _
    · rw [num_met hx]
      exact (h.num_lt x hx).trans (Nat.lt_succ_self _)
  case met_iff =>
    intro x
    rw [met_enter_iff, h.met_iff]
    exact ⟨fun hx => by
      rcases hx with rfl | hx | hx
      · exact Or.inl List.mem_cons_self
      · exact Or.inl (List.mem_cons_of_mem v hx)
      · exact Or.inr hx, fun hx => by
      rcases hx with hx | hx
      · rcases List.mem_cons.mp hx with rfl | hx
        · exact Or.inl rfl
        · exact Or.inr (Or.inl hx)
      · exact Or.inr (Or.inr hx)⟩
  case not_settled =>
    intro x hx hs
    rcases List.mem_cons.mp hx with rfl | hx
    · exact hm ((h.met_iff x).mpr (Or.inr hs))
    · exact h.not_settled x hx hs
  case sorted =>
    refine List.pairwise_cons.mpr ⟨fun x hx => lt_new (h.met_of_pending hx), ?_⟩
    refine h.sorted.imp_of_mem fun hx hy hlt => ?_
    rwa [num_pending hx, num_pending hy]
  case visits_pending =>
    intro a ha
    rcases List.mem_cons.mp ha with rfl | ha
    · exact List.mem_cons_self
    · exact List.mem_cons_of_mem v (h.visits_pending a ha)
  case visits_sorted =>
    refine List.pairwise_cons.mpr ⟨fun a ha => lt_new (visit_pending ha), ?_⟩
    refine h.visits_sorted.imp_of_mem fun ha hb hlt => ?_
    rwa [num_met (visit_pending ha), num_met (visit_pending hb)]
  case forth =>
    intro x hx y hy hxy
    rcases List.mem_cons.mp hy with hyv | hyp
    -- The new node has the largest number: it is reached by all, and need not reach the others.
    · rcases List.mem_cons.mp hx with hxv | hxp
      · rw [hxv, hyv]
        exact Reaches.refl v
      · exact hyv ▸ hr x hxp
    · rcases List.mem_cons.mp hx with hxv | hxp
      · rw [hxv] at hxy
        exact absurd (lt_new (h.met_of_pending hyp)) hxy.not_gt
      · rw [num_pending hxp, num_pending hyp] at hxy
        exact h.forth x hxp y hyp hxy
  case back =>
    intro y hy
    rcases List.mem_cons.mp hy with rfl | hy
    -- The new node is being visited itself.
    · exact ⟨_, List.mem_cons_self, le_rfl, Reaches.refl y⟩
    · obtain ⟨a, ha, hay, hreach⟩ := h.back y hy
      refine ⟨a, List.mem_cons_of_mem _ ha, ?_, hreach⟩
      rwa [num_met (visit_pending ha), num_pending hy]
  case low =>
    intro a ha
    rcases List.mem_cons.mp ha with rfl | ha
    · exact ⟨num_enter_self.ge, v, List.mem_cons_self, num_enter_self, Reaches.refl v⟩
    · obtain ⟨hle, y, hy, hn, hreach⟩ := h.low a ha
      rw [num_met (visit_pending ha)]
      exact ⟨hle, y, List.mem_cons_of_mem v hy, (num_pending hy).trans hn, hreach⟩
  case followed =>
    intro x y hx hxy
    rcases met_enter_iff.mp hx with rfl | hx
    · exact Or.inr (Or.inr ⟨rfl, hxy.2.1⟩)
    · rcases h.followed x y hx hxy with hy | hleft
      · exact Or.inl (met_enter_iff.mpr (Or.inr hy))
      · exact Or.inr (Or.inl hleft)
  case covered =>
    intro a ha x hx hax y hy hxy
    rcases List.mem_cons.mp hx with rfl | hx
    · exact Or.inl (Or.inr ⟨rfl, hxy.2.1⟩)
    have hxmet := h.met_of_pending hx
    rcases List.mem_cons.mp ha with rfl | ha
    · exact absurd (lt_new hxmet) hax.not_gt
    rcases List.mem_cons.mp hy with rfl | hy
    · -- An edge to the new node was not followed, or the node would have been met.
      exact Or.inl (Or.inl ((h.followed x y hxmet hxy).resolve_left hm))
    rw [num_met (visit_pending ha), num_met hxmet] at hax
    rcases h.covered a ha x hx hax y hy hxy with hleft | ⟨b, hb, hab, hby⟩
    · exact Or.inl (Or.inl hleft)
    · refine Or.inr ⟨b, List.mem_cons_of_mem _ hb, ?_, ?_⟩
      · rwa [num_met (visit_pending ha), num_met (visit_pending hb)]
      · rwa [num_pending hy]
  case settled_of_edge => exact h.settled_of_edge
  case mem_group_iff => exact h.mem_group_iff
  case nodup_group => exact h.nodup_group

/-! ### Ending a visit -/

/-- The visit around the innermost one takes over its low number. -/
theorem exists_passOn_le (h : Consistent g left w) (hw : w.visits = a :: outer)
    (hb : b ∈ passOn a.low outer) :
    ∃ c ∈ passOn a.low outer, w.num b.node ≤ w.num c.node ∧ c.low ≤ a.low := by
  have hs := h.visits_sorted
  rw [hw] at hs
  obtain ⟨-, hs⟩ := List.pairwise_cons.mp hs
  cases outer with
  | nil => cases hb
  | cons c rest =>
    refine ⟨_, List.mem_cons_self, ?_, Nat.min_le_right _ _⟩
    rcases List.mem_cons.mp hb with rfl | hb
    · exact le_rfl
    · exact ((List.pairwise_cons.mp hs).1 b hb).le

/-- A visit that has found a smaller number than its own ends, and its node goes on to wait. -/
theorem leave (h : Consistent g left w) (hw : w.visits = a :: outer)
    (hlow : a.low < w.num a.node) :
    Consistent g left { w with visits := passOn a.low outer } := by
  have outer_mem {c : Visit α} (hc : c ∈ outer) : c ∈ w.visits :=
    hw ▸ List.mem_cons_of_mem a hc
  have ha : a ∈ w.visits := hw ▸ List.mem_cons_self
  obtain ⟨-, z, hz, hzlow, hreach⟩ := h.low a ha
  exact
    { h with
      visits_pending := by
        intro b hb
        obtain ⟨c, hc, hbc, -⟩ := mem_passOn hb
        exact hbc ▸ h.visits_pending c (outer_mem hc)
      visits_sorted := by
        have hs := h.visits_sorted
        rw [hw] at hs
        exact pairwise_passOn (List.pairwise_cons.mp hs).2
      back := by
        intro y hy
        -- What led back to the visit that ends leads back further, through its low number.
        have further : ∃ c ∈ outer, w.num c.node ≤ w.num y ∧ g.Reaches y c.node := by
          obtain ⟨c, hc, hcy, hr⟩ := h.back y hy
          rw [hw] at hc
          rcases List.mem_cons.mp hc with rfl | hc
          · obtain ⟨d, hd, hdz, hr'⟩ := h.back z hz
            rw [hw] at hd
            rcases List.mem_cons.mp hd with rfl | hd
            · omega
            · exact ⟨d, hd, by omega, hr.trans (hreach.trans hr')⟩
          · exact ⟨c, hc, hcy, hr⟩
        obtain ⟨c, hc, hcy, hr⟩ := further
        obtain ⟨b, hb, hbc, -⟩ := exists_mem_passOn a.low hc
        exact ⟨b, hb, hbc ▸ hcy, hbc ▸ hr⟩
      low := by
        intro b hb
        obtain ⟨c, hc, hbc, -, hle, hlow'⟩ := mem_passOn hb
        obtain ⟨hcl, y, hy, hyl, hr⟩ := h.low c (outer_mem hc)
        refine ⟨hbc ▸ hle.trans hcl, ?_⟩
        -- A number that was taken over lies behind the inner node, and so behind the outer one.
        rcases hlow' with he | he
        · exact ⟨y, hy, hyl.trans he.symm, hbc ▸ hr⟩
        · have hca := h.forth c.node (h.visits_pending c (outer_mem hc)) a.node
            (h.visits_pending a ha) (h.num_le_of_visits hw (outer_mem hc))
          exact ⟨z, hz, hzlow.trans he.symm, hbc ▸ hca.trans hreach⟩
      covered := by
        intro b hb x hx hbx y hy hxy
        obtain ⟨c, hc, hbc, -⟩ := mem_passOn hb
        rcases h.covered c (outer_mem hc) x hx (hbc ▸ hbx) y hy hxy with hleft | ⟨d, hd, hcd, hdy⟩
        · exact Or.inl hleft
        · right
          rw [hw] at hd
          rcases List.mem_cons.mp hd with rfl | hd
          · obtain ⟨e, he, hbe, hle⟩ := h.exists_passOn_le hw hb
            exact ⟨e, he, hbe, hle.trans hdy⟩
          · obtain ⟨e, he, hed, hle, -⟩ := exists_mem_passOn a.low hd
            exact ⟨e, he, by rw [hbc, hed]; exact hcd, hle.trans hdy⟩ }

/-! ### Finding a component -/

section Component

variable (h : Consistent g left w) (hw : w.visits = a :: outer) (hlow : w.num a.node ≤ a.low)
  (hleft : ∀ x y, x ∈ w.pending → w.num a.node ≤ w.num x → ¬ left x y)

include h hw hlow hleft

/-- Edges lead from the nodes met since a visit with no smaller number began to each other or to
earlier components. -/
theorem closed_of_edge (hx : x ∈ w.pending) (hax : w.num a.node ≤ w.num x) (hxy : g.Edge x y) :
    y ∈ w.pending ∧ w.num a.node ≤ w.num y ∨ w.Settled y := by
  have ha : a ∈ w.visits := hw ▸ List.mem_cons_self
  have hy := (h.followed x y (h.met_of_pending hx) hxy).resolve_right (hleft x y hx hax)
  rcases (h.met_iff y).mp hy with hy | hy
  · rcases h.covered a ha x hx hax y hy hxy with hl | ⟨b, hb, hab, hby⟩
    · exact absurd hl (hleft x y hx hax)
    · obtain rfl := h.eq_of_num_le hw hb hab
      exact Or.inl ⟨hy, hlow.trans hby⟩
  · exact Or.inr hy

theorem closed_of_reaches (hx : x ∈ w.pending) (hax : w.num a.node ≤ w.num x)
    (hr : g.Reaches x y) : y ∈ w.pending ∧ w.num a.node ≤ w.num y ∨ w.Settled y := by
  induction hr with
  | refl => exact Or.inl ⟨hx, hax⟩
  | tail _ hedge ih =>
    rcases ih with ⟨hz, haz⟩ | hz
    · exact h.closed_of_edge hw hlow hleft hz haz hedge
    · exact Or.inr (h.settled_of_edge _ _ hz hedge)

/-- The nodes met since then lead back to the node of the visit. -/
theorem reaches_of_num_le (hx : x ∈ w.pending) (hax : w.num a.node ≤ w.num x) :
    g.Reaches x a.node := by
  obtain ⟨b, hb, -, hr⟩ := h.back x hx
  have hbp := h.visits_pending b hb
  -- The visit that the node leads back to began no earlier, so it is the innermost one.
  rcases h.closed_of_reaches hw hlow hleft hx hax hr with ⟨-, hab⟩ | hs
  · obtain rfl := h.eq_of_num_le hw hb hab
    exact hr
  · exact absurd hs (h.not_settled _ hbp)

/-- The nodes met since then are those that any one of them reaches and is reached by. -/
theorem strong_of_num_le (hx : x ∈ w.pending) (hax : w.num a.node ≤ w.num x) :
    (y ∈ w.pending ∧ w.num a.node ≤ w.num y) ↔ g.Reaches x y ∧ g.Reaches y x := by
  have hap : a.node ∈ w.pending := h.visits_pending a (hw ▸ List.mem_cons_self)
  constructor
  · rintro ⟨hy, hay⟩
    have hxa := h.reaches_of_num_le hw hlow hleft hx hax
    have hya := h.reaches_of_num_le hw hlow hleft hy hay
    exact ⟨hxa.trans (h.forth _ hap y hy hay), hya.trans (h.forth _ hap x hx hax)⟩
  · rintro ⟨hxy, hyx⟩
    rcases h.closed_of_reaches hw hlow hleft hx hax hxy with hy | hy
    · exact hy
    · exact absurd (h.reaches_of_settled hy hyx) (h.not_settled x hx)

/-- A visit that has found no smaller number than its own ends with a component. -/
theorem close : Consistent g left (Walk.close { w with visits := passOn a.low outer } a.node) := by
  have ha : a ∈ w.visits := hw ▸ List.mem_cons_self
  have hap := h.visits_pending a ha
  have outer_mem {c : Visit α} (hc : c ∈ outer) : c ∈ w.visits :=
    hw ▸ List.mem_cons_of_mem a hc
  have outer_lt {c : Visit α} (hc : c ∈ outer) : w.num c.node < w.num a.node := by
    have hs := h.visits_sorted
    rw [hw] at hs
    exact (List.pairwise_cons.mp hs).1 c hc
  -- The nodes that wait are cut in two at the number of the node.
  have group (x : α) : x ∈ (cutThrough a.node w.pending).1 ↔
      x ∈ w.pending ∧ w.num a.node ≤ w.num x := (mem_cutThrough h.sorted hap x).1
  have stay (x : α) : x ∈ (cutThrough a.node w.pending).2 ↔
      x ∈ w.pending ∧ w.num x < w.num a.node := (mem_cutThrough h.sorted hap x).2
  have settled (x : α) : (Walk.close { w with visits := passOn a.low outer } a.node).Settled x ↔
      w.Settled x ∨ x ∈ (cutThrough a.node w.pending).1 := by
    simp [Settled, Walk.close, or_and_right, exists_or]
  have cut := cutThrough_append hap
  constructor
  case mem_of_met => exact h.mem_of_met
  case num_lt => exact h.num_lt
  case met_iff =>
    intro x
    have hmet := h.met_iff x
    rw [settled, group]
    change w.Met x ↔ x ∈ (cutThrough a.node w.pending).2 ∨ _
    rw [hmet, stay]
    rcases Nat.lt_or_ge (w.num x) (w.num a.node) with hlt | hge
    · simp [hlt, hlt.not_ge]
    · simp [hge, hge.not_gt, or_comm]
  case not_settled =>
    intro x hx hs
    obtain ⟨hxp, hlt⟩ := (stay x).mp hx
    rcases (settled x).mp hs with hs | hs
    · exact h.not_settled x hxp hs
    · exact absurd ((group x).mp hs).2 hlt.not_ge
  case sorted =>
    have hs := h.sorted
    rw [← cut] at hs
    exact (List.pairwise_append.mp hs).2.1
  case visits_pending =>
    intro b hb
    obtain ⟨c, hc, hbc, -⟩ := mem_passOn hb
    rw [hbc]
    exact (stay c.node).mpr ⟨h.visits_pending c (outer_mem hc), outer_lt hc⟩
  case visits_sorted =>
    have hs := h.visits_sorted
    rw [hw] at hs
    exact pairwise_passOn (List.pairwise_cons.mp hs).2
  case forth =>
    intro x hx y hy hxy
    exact h.forth x ((stay x).mp hx).1 y ((stay y).mp hy).1 hxy
  case back =>
    intro y hy
    obtain ⟨hyp, hlt⟩ := (stay y).mp hy
    obtain ⟨c, hc, hcy, hr⟩ := h.back y hyp
    rw [hw] at hc
    -- What was met earlier led back to an earlier visit.
    rcases List.mem_cons.mp hc with rfl | hc
    · exact absurd hcy hlt.not_ge
    · obtain ⟨b, hb, hbc, -⟩ := exists_mem_passOn a.low hc
      exact ⟨b, hb, hbc ▸ hcy, hbc ▸ hr⟩
  case low =>
    intro b hb
    obtain ⟨c, hc, hbc, -, hle, he⟩ := mem_passOn hb
    obtain ⟨hcl, y, hy, hyl, hr⟩ := h.low c (outer_mem hc)
    have hca := outer_lt hc
    refine ⟨hbc ▸ hle.trans hcl, y, ?_, ?_, hbc ▸ hr⟩
    · exact (stay y).mpr ⟨hy, by omega⟩
    · change w.num y = b.low
      rcases he with he | he <;> omega
  case followed => exact h.followed
  case covered =>
    intro b hb x hx hbx y hy hxy
    obtain ⟨hyp, hlt⟩ := (stay y).mp hy
    obtain ⟨c, hc, hbc, -⟩ := mem_passOn hb
    rcases h.covered c (outer_mem hc) x ((stay x).mp hx).1 (hbc ▸ hbx) y hyp hxy with
      hl | ⟨d, hd, hcd, hdy⟩
    · exact Or.inl hl
    · right
      rw [hw] at hd
      -- The visit that ends knew of nothing before its own node.
      rcases List.mem_cons.mp hd with rfl | hd
      · exact absurd (hlow.trans hdy) hlt.not_ge
      · obtain ⟨e, he, hed, hle, -⟩ := exists_mem_passOn a.low hd
        refine ⟨e, he, ?_, hle.trans hdy⟩
        rw [hbc, hed]
        exact hcd
  case settled_of_edge =>
    intro x y hx hxy
    rw [settled] at hx ⊢
    rcases hx with hx | hx
    · exact Or.inl (h.settled_of_edge x y hx hxy)
    · obtain ⟨hxp, hax⟩ := (group x).mp hx
      rcases h.closed_of_edge hw hlow hleft hxp hax hxy with hy | hy
      · exact Or.inr ((group y).mpr hy)
      · exact Or.inl hy
  case mem_group_iff =>
    intro k hk x hx y
    rcases List.mem_append.mp hk with hk | hk
    · exact h.mem_group_iff k hk x hx y
    · obtain rfl := List.mem_singleton.mp hk
      obtain ⟨hxp, hax⟩ := (group x).mp hx
      exact (group y).trans (h.strong_of_num_le hw hlow hleft hxp hax)
  case nodup_group =>
    intro k hk
    rcases List.mem_append.mp hk with hk | hk
    · exact h.nodup_group k hk
    · obtain rfl := List.mem_singleton.mp hk
      -- Nodes that wait have different numbers.
      have hnodup : w.pending.Nodup := h.sorted.imp fun hlt he => hlt.ne (congrArg w.num he).symm
      rw [← cut] at hnodup
      exact (List.nodup_append.mp hnodup).1

end Component

end Consistent

end Walk

end Accord.Graph
