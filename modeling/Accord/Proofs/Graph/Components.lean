/-
# Strong components

The walk along all edges of a graph finds its strong components: two nodes belong to the same
component exactly when they reach each other, and a component is cyclic exactly when its nodes
lie on a cycle.

## Main definitions

* `Walk.Sound`: the account of a walk leaves out only edges that are still to be followed.

## Main results

* `Walk.Sound.step`, `Walk.Sound.run`: the account is kept to the end of a walk;
* `Graph.componentOf?_eq_iff`: components are classes of nodes that reach each other;
* `Graph.cyclic_iff`: the components that are called cyclic are those with a cycle.
-/

import Accord.Proofs.Graph.Walk

namespace Accord.Graph

variable {α : Type} {g : Graph α} [DecidableEq α]

namespace Walk

variable {w : Walk α} {v x y : α} {a : Visit α} {outer : List (Visit α)}

/-! ### Steps -/

/-- The account of a walk is complete: what is left out is still to be followed. -/
structure Sound (g : Graph α) (w : Walk α) : Prop where
  consistent : Consistent g w.Unfollowed w
  todo : ∀ a ∈ w.visits, ∀ y ∈ a.todo, y ∈ g.next a.node

namespace Sound

/-- The next successor of the innermost visit is at the end of an edge, if it is a node. -/
theorem edge_of_todo (h : Sound g w) (ha : a ∈ w.visits) (hy : y ∈ a.todo) (hn : y ∈ g.nodes) :
    g.Edge a.node y := by
  have hmet := h.consistent.met_of_pending (h.consistent.visits_pending a ha)
  exact ⟨h.consistent.mem_of_met _ hmet, h.todo a ha y hy, hn⟩

/-- All nodes that wait reach what the innermost visit leads to. -/
theorem reaches_of_edge (h : Sound g w) (hw : w.visits = a :: outer) (hy : g.Edge a.node y)
    (hx : x ∈ w.pending) : g.Reaches x y := by
  have ha : a ∈ w.visits := hw ▸ List.mem_cons_self
  obtain ⟨c, hc, -, hr⟩ := h.consistent.back x hx
  have hca := h.consistent.forth c.node (h.consistent.visits_pending c hc) a.node
    (h.consistent.visits_pending a ha) (h.consistent.num_le_of_visits hw hc)
  exact (hr.trans hca).tail hy

variable {u : α} {low : Nat} {rest : List α}

omit [DecidableEq α] in
/-- After a successor was taken up only its edge is missing from those to be followed. -/
theorem unfollowed_cases (hw : w.visits = ⟨v, low, u :: rest⟩ :: outer) {low' : Nat}
    (h : w.Unfollowed x y) :
    Unfollowed { w with visits := ⟨v, low', rest⟩ :: outer } x y ∨ x = v ∧ y = u := by
  obtain ⟨c, hc, rfl, hy⟩ := h
  rw [hw] at hc
  rcases List.mem_cons.mp hc with rfl | hc
  · rcases List.mem_cons.mp hy with rfl | hy
    · exact Or.inr ⟨rfl, rfl⟩
    · exact Or.inl ⟨_, List.mem_cons_self, rfl, hy⟩
  · exact Or.inl ⟨c, List.mem_cons_of_mem _ hc, rfl, hy⟩

theorem todo_of_rest (h : Sound g w) (hw : w.visits = ⟨v, low, u :: rest⟩ :: outer) {low' : Nat} :
    ∀ a ∈ (⟨v, low', rest⟩ :: outer : List (Visit α)), ∀ y ∈ a.todo, y ∈ g.next a.node := by
  intro a ha y hy
  have htodo := h.todo
  rw [hw] at htodo
  rcases List.mem_cons.mp ha with rfl | ha
  · exact htodo _ List.mem_cons_self y (List.mem_cons_of_mem u hy)
  · exact htodo a (List.mem_cons_of_mem _ ha) y hy

/-- A successor may be passed over if it is no node or has a component. -/
theorem pass (h : Sound g w) (hw : w.visits = ⟨v, low, u :: rest⟩ :: outer)
    (hu : u ∈ g.nodes → w.Settled u) : Sound g { w with visits := ⟨v, low, rest⟩ :: outer } := by
  have ha : (⟨v, low, u :: rest⟩ : Visit α) ∈ w.visits := hw ▸ List.mem_cons_self
  have hc := h.consistent.lower hw (b := ⟨v, low, rest⟩) rfl le_rfl (h.consistent.low _ ha).2
  refine ⟨hc.settle fun x y hxy hleft => ?_, h.todo_of_rest hw⟩
  rcases unfollowed_cases hw hleft with hleft | ⟨rfl, rfl⟩
  · exact Or.inl hleft
  · have hs := hu hxy.2.2
    exact Or.inr ⟨(h.consistent.met_iff y).mpr (Or.inr hs),
      fun hy => absurd hs (h.consistent.not_settled y hy)⟩

/-- A successor that waits lowers the number of the visit. -/
theorem look (h : Sound g w) (hw : w.visits = ⟨v, low, u :: rest⟩ :: outer) (hn : u ∈ g.nodes)
    (hu : u ∈ w.pending) :
    Sound g { w with visits := ⟨v, min low (w.num u), rest⟩ :: outer } := by
  have ha : (⟨v, low, u :: rest⟩ : Visit α) ∈ w.visits := hw ▸ List.mem_cons_self
  have hedge := h.edge_of_todo ha List.mem_cons_self hn
  have behind : ∃ y ∈ w.pending, w.num y = min low (w.num u) ∧ g.Reaches v y := by
    rcases Nat.le_total low (w.num u) with hle | hle
    · rw [Nat.min_eq_left hle]
      exact (h.consistent.low _ ha).2
    · rw [Nat.min_eq_right hle]
      exact ⟨u, hu, rfl, (Reaches.refl v).tail hedge⟩
  have hc := h.consistent.lower hw (b := ⟨v, min low (w.num u), rest⟩) rfl
    (Nat.min_le_left _ _) behind
  refine ⟨hc.settle fun x y hxy hleft => ?_, h.todo_of_rest hw⟩
  rcases unfollowed_cases hw hleft with hleft | ⟨rfl, rfl⟩
  · exact Or.inl hleft
  · -- The visit itself knows now how far its edge leads back.
    exact Or.inr ⟨h.consistent.met_of_pending hu, fun _ c _ hcx =>
      ⟨_, List.mem_cons_self, hcx, Nat.min_le_right _ _⟩⟩

/-- A successor that was not met is met. -/
theorem meet (h : Sound g w) (hw : w.visits = ⟨v, low, u :: rest⟩ :: outer) (hn : u ∈ g.nodes)
    (hu : ¬ w.Met u) :
    Sound g (Walk.enter g { w with visits := ⟨v, low, rest⟩ :: outer } u) := by
  have ha : (⟨v, low, u :: rest⟩ : Visit α) ∈ w.visits := hw ▸ List.mem_cons_self
  have hedge := h.edge_of_todo ha List.mem_cons_self hn
  have hv := h.consistent.met_of_pending (h.consistent.visits_pending _ ha)
  have hc := h.consistent.lower hw (b := ⟨v, low, rest⟩) rfl le_rfl (h.consistent.low _ ha).2
  have he := hc.enter hn hu fun x hx => h.reaches_of_edge hw hedge hx
  refine ⟨he.settle fun x y hxy hleft => ?_, ?_⟩
  · rcases hleft with hleft | ⟨rfl, hy⟩
    · rcases unfollowed_cases hw hleft with ⟨c, hcv, hcx, hy⟩ | ⟨rfl, rfl⟩
      · exact Or.inl ⟨c, List.mem_cons_of_mem _ hcv, hcx, hy⟩
      · -- The edge to the new node leads forward: the low number of its visit lies before it.
        refine Or.inr ⟨Consistent.met_enter_iff.mpr (Or.inl rfl), fun _ c _ hcx =>
          ⟨_, List.mem_cons_of_mem _ List.mem_cons_self, hcx, ?_⟩⟩
        rw [Consistent.num_enter_self]
        exact ((h.consistent.low _ ha).1.trans_lt (h.consistent.num_lt _ hv)).le
    · exact Or.inl ⟨_, List.mem_cons_self, rfl, hy⟩
  · intro c hcv y hy
    rcases List.mem_cons.mp hcv with rfl | hcv
    · exact hy
    · exact h.todo_of_rest hw c hcv y hy

/-- A visit without successors left ends. -/
theorem finish (h : Sound g w) (hw : w.visits = ⟨v, low, []⟩ :: outer) :
    (w.num v ≤ low → Sound g (Walk.close { w with visits := passOn low outer } v)) ∧
      (low < w.num v → Sound g { w with visits := passOn low outer }) := by
  -- Only the visits around this one have edges left, and their nodes were met before.
  have none_left : ∀ x y, x ∈ w.pending → w.num v ≤ w.num x → ¬ w.Unfollowed x y := by
    rintro x y - hvx ⟨c, hc, rfl, hy⟩
    obtain rfl := h.consistent.eq_of_num_le hw hc hvx
    cases hy
  have keep : ∀ x y, w.Unfollowed x y →
      Unfollowed { w with visits := passOn low outer } x y := by
    rintro x y ⟨c, hc, rfl, hy⟩
    rw [hw] at hc
    rcases List.mem_cons.mp hc with rfl | hc
    · cases hy
    · obtain ⟨b, hb, hbc, -, hbt⟩ := exists_mem_passOn low hc
      exact ⟨b, hb, hbc, hbt ▸ hy⟩
  have todo : ∀ b ∈ passOn low outer, ∀ y ∈ b.todo, y ∈ g.next b.node := by
    intro b hb y hy
    obtain ⟨c, hc, hbc, hbt, -⟩ := mem_passOn hb
    rw [hbt] at hy
    rw [hbc]
    exact h.todo c (hw ▸ List.mem_cons_of_mem _ hc) y hy
  constructor
  · intro hlow
    have hc := h.consistent.close hw hlow none_left
    exact ⟨hc.settle fun x y _ hleft => Or.inl (keep x y hleft), todo⟩
  · intro hlow
    have hc := h.consistent.leave hw hlow
    exact ⟨hc.settle fun x y _ hleft => Or.inl (keep x y hleft), todo⟩

/-- A step keeps the account. -/
theorem step (h : Sound g w) : Sound g (Walk.step g w) := by
  unfold Walk.step
  split
  case h_1 => exact h
  case h_2 v low u rest outer hw =>
    split
    case isTrue hn =>
      split
      case h_1 hu => exact h.meet hw hn (by simp [Met, hu])
      case h_2 n hu =>
        obtain rfl := Consistent.num_of_lookup hu
        split
        case isTrue hp => exact h.look hw hn hp
        case isFalse hp =>
          have hmet : w.Met u := by simp [Met, hu]
          exact h.pass hw fun _ => ((h.consistent.met_iff u).mp hmet).resolve_left hp
    case isFalse hn => exact h.pass hw fun hu => absurd hu hn
  case h_3 v low outer hw =>
    split
    case isTrue hl => exact (h.finish hw).1 (Consistent.num_of_lookup hl).le
    case isFalse hl =>
      have ha : (⟨v, low, []⟩ : Visit α) ∈ w.visits := hw ▸ List.mem_cons_self
      have hmet := h.consistent.met_of_pending (h.consistent.visits_pending _ ha)
      obtain ⟨n, hn⟩ := Option.isSome_iff_exists.mp hmet
      have hnum : w.num v = n := Consistent.num_of_lookup hn
      refine (h.finish hw).2 (lt_of_le_of_ne (h.consistent.low _ ha).1 fun he => hl ?_)
      rw [hn, ← hnum]
      exact congrArg some he.symm

end Sound

/-- A step forgets no node that was met. -/
theorem Met.step (h : w.Met x) : (Walk.step g w).Met x := by
  unfold Walk.step
  split
  · exact h
  · split
    · split
      · exact Consistent.met_enter_iff.mpr (Or.inr h)
      · split <;> exact h
    · exact h
  · split <;> exact h

/-! ### Runs -/

/-- A run is as many steps as it takes until no visit is left. -/
theorem run_eq_iterate {k : Nat} (h : ((step g)^[k] w).visits = []) :
    run g w = (step g)^[k] w := by
  induction k generalizing w with
  | zero =>
    rw [Function.iterate_zero_apply] at h ⊢
    rw [run, if_pos (List.isEmpty_iff.mpr h)]
  | succ k ih =>
    rw [Function.iterate_succ_apply] at h ⊢
    rw [← ih h, run]
    split
    case isTrue hv =>
      -- A walk that is over stays where it is.
      have hstep : step g w = w := by rw [step, List.isEmpty_iff.mp hv]
      rw [hstep, run, if_pos hv]
    case isFalse => rfl

/-- A walk goes on until no visit is left, keeps the account and forgets no node. -/
theorem Sound.run (h : Sound g w) :
    Sound g (Walk.run g w) ∧ (Walk.run g w).visits = [] ∧
      ∀ x, w.Met x → (Walk.run g w).Met x := by
  fun_induction Walk.run g w with
  | case1 w hv => exact ⟨h, List.isEmpty_iff.mp hv, fun _ hx => hx⟩
  | case2 w _ ih =>
    obtain ⟨hs, hv, hm⟩ := ih h.step
    exact ⟨hs, hv, fun x hx => hm x hx.step⟩

/-- No node waits when no visit is left. -/
theorem Sound.pending_eq_nil (h : Sound g w) (hv : w.visits = []) : w.pending = [] := by
  refine List.eq_nil_iff_forall_not_mem.mpr fun x hx => ?_
  obtain ⟨a, ha, -⟩ := h.consistent.back x hx
  rw [hv] at ha
  cases ha

/-- A walk from a node meets it. -/
theorem Sound.visit (h : Sound g w) (hw : w.visits = []) (hv : v ∈ g.nodes) :
    Sound g (Walk.visit g w v) ∧ (Walk.visit g w v).visits = [] ∧
      ∀ x, x = v ∨ w.Met x → (Walk.visit g w v).Met x := by
  unfold Walk.visit
  split
  case isTrue hm =>
    refine ⟨h, hw, ?_⟩
    rintro x (rfl | hx)
    · exact hm
    · exact hx
  case isFalse hm =>
    -- Between walks no node waits, so that nothing has to reach the new one.
    have hp := h.pending_eq_nil hw
    have he := h.consistent.enter hv hm fun x hx => by rw [hp] at hx; cases hx
    have start : Sound g (Walk.enter g w v) := by
      refine ⟨he.settle fun x y _ hleft => ?_, fun a ha y hy => ?_⟩
      · rcases hleft with ⟨a, ha, -⟩ | ⟨rfl, hy⟩
        · rw [hw] at ha
          cases ha
        · exact Or.inl ⟨_, List.mem_cons_self, rfl, hy⟩
      · rcases List.mem_cons.mp ha with rfl | ha
        · exact hy
        · rw [hw] at ha
          cases ha
    obtain ⟨hs, hvisits, hmet⟩ := start.run
    exact ⟨hs, hvisits, fun x hx => hmet x (Consistent.met_enter_iff.mpr hx)⟩

theorem Sound.start : Sound g {} := by
  refine ⟨⟨?_, ?_, ?_, ?_, ?_, ?_, ?_, ?_, ?_, ?_, ?_, ?_, ?_, ?_, ?_⟩, ?_⟩ <;>
    simp [Met, Settled]

/-- Walks from some nodes, one after the other, meet them all. -/
theorem Sound.foldl_visit {nodes : List α} (h : Sound g w) (hw : w.visits = [])
    (hn : ∀ v ∈ nodes, v ∈ g.nodes) :
    Sound g (nodes.foldl (Walk.visit g) w) ∧ (nodes.foldl (Walk.visit g) w).visits = [] ∧
      ∀ x, x ∈ nodes ∨ w.Met x → (nodes.foldl (Walk.visit g) w).Met x := by
  induction nodes generalizing w with
  | nil => exact ⟨h, hw, fun x hx => hx.resolve_left (by simp)⟩
  | cons v rest ih =>
    obtain ⟨hs, hv, hm⟩ := h.visit hw (hn v List.mem_cons_self)
    obtain ⟨hs', hv', hm'⟩ := ih hs hv fun u hu => hn u (List.mem_cons_of_mem v hu)
    refine ⟨hs', hv', fun x hx => ?_⟩
    rcases hx with hx | hx
    · rcases List.mem_cons.mp hx with rfl | hx
      · exact hm' x (Or.inr (hm x (Or.inl rfl)))
      · exact hm' x (Or.inl hx)
    · exact hm' x (Or.inr (hm x (Or.inr hx)))

end Walk

/-! ### Components -/

variable {u v : α} {k : Component α}

/-- What is known of a graph after walks from all of its nodes. -/
theorem walk_sound (g : Graph α) :
    Walk.Sound g (g.nodes.foldl (Walk.visit g) {}) ∧
      ∀ v ∈ g.nodes, (g.nodes.foldl (Walk.visit g) {}).Settled v := by
  obtain ⟨hs, hv, hm⟩ := Walk.Sound.start.foldl_visit (g := g) rfl fun v hv => hv
  refine ⟨hs, fun v hn => ?_⟩
  rcases (hs.consistent.met_iff v).mp (hm v (Or.inl hn)) with hp | hp
  · rw [hs.pending_eq_nil hv] at hp
    cases hp
  · exact hp

theorem mem_components (hk : k ∈ g.components) :
    k.members ∈ (g.nodes.foldl (Walk.visit g) {}).groups ∧ k.cyclic = g.isCyclic k.members := by
  obtain ⟨members, hm, rfl⟩ := List.mem_map.mp hk
  exact ⟨hm, rfl⟩

/-- Every node has a component. -/
theorem exists_component (hv : v ∈ g.nodes) : ∃ k ∈ g.components, v ∈ k.members := by
  obtain ⟨members, hm, hmem⟩ := (walk_sound g).2 v hv
  exact ⟨_, List.mem_map_of_mem hm, hmem⟩

/-- A component has no nodes but those of the graph. -/
theorem mem_nodes_of_mem_component (hk : k ∈ g.components) (hv : v ∈ k.members) :
    v ∈ g.nodes := by
  have hc := (walk_sound g).1.consistent
  exact hc.mem_of_met v ((hc.met_iff v).mpr (Or.inr ⟨k.members, (mem_components hk).1, hv⟩))

/-- A cyclic component has a node. -/
theorem exists_mem_of_cyclic (hk : k ∈ g.components) (hc : k.cyclic = true) :
    ∃ v, v ∈ k.members := by
  refine List.exists_mem_of_ne_nil _ fun he => ?_
  rw [(mem_components hk).2, he] at hc
  cases hc

/-- A component consists of the nodes that reach each other. -/
theorem mem_component_iff (hk : k ∈ g.components) (hu : u ∈ k.members) :
    v ∈ k.members ↔ g.Reaches u v ∧ g.Reaches v u :=
  (walk_sound g).1.consistent.mem_group_iff _ (mem_components hk).1 u hu v

/-- The components that are called cyclic are those whose nodes lie on a cycle. -/
theorem cyclic_iff (hk : k ∈ g.components) (hu : u ∈ k.members) :
    k.cyclic = true ↔ Relation.TransGen g.Edge u u := by
  obtain ⟨hgroup, hcyclic⟩ := mem_components hk
  have hnodup := (walk_sound g).1.consistent.nodup_group _ hgroup
  have same (v : α) := mem_component_iff (v := v) hk hu
  rw [hcyclic]
  match hm : k.members with
  | [] =>
    rw [hm] at hu
    cases hu
  | [v] =>
    rw [hm] at hu same
    obtain rfl := List.mem_singleton.mp hu
    simp only [isCyclic, decide_eq_true_eq]
    have hnode := mem_nodes_of_mem_component hk (hm ▸ List.mem_singleton_self u)
    constructor
    · intro hself
      exact Relation.TransGen.single ⟨hnode, hself, hnode⟩
    · intro hcycle
      -- The first node of the cycle reaches the only node of the component.
      obtain ⟨z, hedge, hback⟩ := Relation.TransGen.head'_iff.mp hcycle
      have hz := (same z).mpr ⟨Relation.ReflTransGen.single hedge, hback⟩
      obtain rfl := List.mem_singleton.mp hz
      exact hedge.2.1
  | v :: v' :: rest =>
    rw [hm] at hu same hnodup
    -- A second node of the component is reached and leads back.
    have hother : ∃ z ∈ v :: v' :: rest, z ≠ u := by
      by_cases h : u = v
      · refine ⟨v', by simp, fun he => ?_⟩
        simp [h ▸ he] at hnodup
      · exact ⟨v, List.mem_cons_self, Ne.symm h⟩
    obtain ⟨z, hz, hne⟩ := hother
    obtain ⟨huz, hzu⟩ := (same z).mp hz
    have hcycle : Relation.TransGen g.Edge u u := by
      rcases Relation.reflTransGen_iff_eq_or_transGen.mp huz with he | ht
      · exact absurd he hne
      · exact ht.trans_left hzu
    exact ⟨fun _ => hcycle, fun _ => rfl⟩

/-! ### Places of components -/

theorem findIdx?_congr {β : Type} {p q : β → Bool} {l : List β} (h : ∀ b ∈ l, p b = q b) :
    l.findIdx? p = l.findIdx? q := by
  induction l with
  | nil => rfl
  | cons b rest ih =>
    rw [List.findIdx?_cons, List.findIdx?_cons, h b List.mem_cons_self,
      ih fun c hc => h c (List.mem_cons_of_mem b hc)]

/-- Where the component of a node stands. -/
theorem componentOf?_eq_some {i : Nat} (h : componentOf? g.components v = some i) :
    ∃ k, g.components[i]? = some k ∧ k ∈ g.components ∧ v ∈ k.members := by
  obtain ⟨hi, hk, -⟩ := List.findIdx?_eq_some_iff_getElem.mp h
  exact ⟨_, List.getElem?_eq_getElem hi, List.getElem_mem hi, of_decide_eq_true hk⟩

theorem exists_componentOf? (hv : v ∈ g.nodes) : ∃ i, componentOf? g.components v = some i := by
  obtain ⟨k, hk, hmem⟩ := exists_component hv
  refine Option.isSome_iff_exists.mp ?_
  rw [componentOf?, List.findIdx?_isSome, List.any_eq_true]
  exact ⟨k, hk, decide_eq_true hmem⟩

/-- Nodes have the same component exactly if they reach each other. -/
theorem componentOf?_eq_iff (hu : u ∈ g.nodes) :
    componentOf? g.components u = componentOf? g.components v ↔
      g.Reaches u v ∧ g.Reaches v u := by
  constructor
  · intro he
    obtain ⟨i, hi⟩ := exists_componentOf? hu
    obtain ⟨k, hk, hmem, huk⟩ := componentOf?_eq_some hi
    obtain ⟨k', hk', -, hvk⟩ := componentOf?_eq_some (he.symm.trans hi)
    obtain rfl : k = k' := Option.some.inj (hk.symm.trans hk')
    exact (mem_component_iff hmem huk).mp hvk
  · rintro ⟨huv, hvu⟩
    -- Every component holds both nodes or neither.
    refine findIdx?_congr fun k hk => decide_eq_decide.mpr ⟨fun h => ?_, fun h => ?_⟩
    · exact (mem_component_iff hk h).mpr ⟨huv, hvu⟩
    · exact (mem_component_iff hk h).mpr ⟨hvu, huv⟩

end Accord.Graph
