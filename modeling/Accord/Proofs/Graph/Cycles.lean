/-
# Cycles

A depth-first search goes along a path. Where an edge leads back to the path, the nodes since
then are a cycle. A node is finished when all that follows it is finished: the finished nodes are
therefore listed in such a way that edges only lead further down the list, and no cycle goes
through them. A search that finishes all nodes has shown that there is none.

## Main definitions

* `Graph.Round`: a walk that comes back to its first node, and to no other;
* `Graph.Trail`: the path of a search;
* `Graph.Ranked`: nodes in an order in which all edges lead down.

## Main results

* `Graph.round_of_search`: what a search reports is a round along edges;
* `Graph.ranked_of_search`: the nodes that a search has finished are ranked;
* `Graph.round_of_findCycle?`, `Graph.findCycle?_eq_none_iff`: there is a report exactly if there
  is a cycle.
-/

import Accord.Proofs.Graph.Walk
import Mathlib.Data.List.Chain

namespace Accord.Graph

variable {α : Type} {g : Graph α} {u v : α} {path todo finished more walk : List α}

/-! ### Rounds -/

/-- A walk that comes back to its first node, and meets every node once before that. -/
structure Round (r : α → α → Prop) (walk : List α) : Prop where
  long : 2 ≤ walk.length
  closed : walk.head? = walk.getLast?
  distinct : walk.dropLast.Nodup
  chain : walk.IsChain r

/-- A round is a round along any edges that include its own. -/
theorem Round.mono {r q : α → α → Prop} (h : Round r walk) (hrq : ∀ u v, r u v → q u v) :
    Round q walk where
  long := h.long
  closed := h.closed
  distinct := h.distinct
  chain := h.chain.imp hrq

/-- Where no edge leads from a node to itself, a round has at least two edges. -/
theorem Round.three_le {r : α → α → Prop} (h : Round r walk) (hr : ∀ v, ¬ r v v) :
    3 ≤ walk.length := by
  match walk, h with
  | [], h => exact absurd h.long (by simp)
  | [_], h => exact absurd h.long (by simp)
  | [u, v], h =>
    obtain rfl : u = v := Option.some.inj h.closed
    exact absurd (List.isChain_cons_cons.mp h.chain).1 (hr u)
  | _ :: _ :: _ :: _, _ => simp

/-- A walk along edges leads from its first node to every later one. -/
theorem transGen_of_isChain {r : α → α → Prop} (h : (u :: walk).IsChain r)
    (hv : v ∈ walk) : Relation.TransGen r u v := by
  induction walk generalizing u with
  | nil => cases hv
  | cons w rest ih =>
    obtain ⟨huw, hrest⟩ := List.isChain_cons_cons.mp h
    rcases List.mem_cons.mp hv with rfl | hv
    · exact .single huw
    · exact .head huw (ih hrest hv)

/-- A round is a cycle through its first node. -/
theorem Round.exists_transGen {r : α → α → Prop} (h : Round r walk) :
    ∃ v, Relation.TransGen r v v := by
  match walk, h with
  | [], h => exact absurd h.long (by simp)
  | [_], h => exact absurd h.long (by simp)
  | u :: v :: rest, h =>
    have hlast : (v :: rest).getLast? = some u := by
      rw [← List.getLast?_cons_cons (a := u), ← h.closed]
      rfl
    exact ⟨u, transGen_of_isChain h.chain (List.mem_of_getLast? hlast)⟩

/-! ### Searches that report a cycle -/

/-- The path of a search, its last node first: it goes along edges and meets every node once. -/
structure Trail (g : Graph α) (path : List α) : Prop where
  nodes : ∀ v ∈ path, v ∈ g.nodes
  distinct : path.Nodup
  chain : path.IsChain fun v u => g.Edge u v

/-- A node that follows the last one of a path. -/
def Follows (g : Graph α) (path : List α) (v : α) : Prop := ∀ u ∈ path.head?, v ∈ g.next u

theorem Trail.nil : Trail g [] := ⟨by simp, by simp, by simp⟩

/-- A path goes on with a node that follows it and that it did not meet. -/
theorem Trail.cons (h : Trail g path) (hv : v ∈ g.nodes) (hnew : v ∉ path)
    (hnext : Follows g path v) : Trail g (v :: path) where
  nodes := by
    intro w hw
    rcases List.mem_cons.mp hw with rfl | hw
    · exact hv
    · exact h.nodes w hw
  distinct := List.nodup_cons.mpr ⟨hnew, h.distinct⟩
  chain := by
    refine List.isChain_cons.mpr ⟨fun u hu => ?_, h.chain⟩
    exact ⟨h.nodes u (List.mem_of_mem_head? hu), hnext u hu, hv⟩

variable [DecidableEq α]

/-- An edge from the end of a path back to one of its nodes closes a round. -/
theorem Trail.round (h : Trail g path) (hv : v ∈ path) (hnext : Follows g path v) :
    Round g.Edge (v :: (path.takeWhile (· ≠ v)).reverse ++ [v]) := by
  -- The round consists of the nodes that the path met since it met the node.
  obtain ⟨since, before, rfl, hsince⟩ := List.eq_append_cons_of_mem hv
  have htake : (since ++ v :: before).takeWhile (· ≠ v) = since := by
    have hne : ∀ w ∈ since, decide (w ≠ v) = true := by
      intro w hw
      exact decide_eq_true fun heq => hsince (heq ▸ hw)
    rw [List.takeWhile_append_of_pos hne, List.takeWhile_cons_of_neg (by simp), List.append_nil]
  have hpart : (since ++ [v] ++ before).IsChain fun v u => g.Edge u v := by
    rw [List.append_assoc]
    exact h.chain
  have hhead : (since ++ [v]).head? = (since ++ v :: before).head? := by
    cases since <;> rfl
  rw [htake]
  constructor
  · simp
  · rw [List.getLast?_concat]
    rfl
  · rw [List.dropLast_concat, List.nodup_cons, List.mem_reverse, List.nodup_reverse]
    exact ⟨hsince, h.distinct.of_append_left⟩
  · have hback : v :: since.reverse ++ [v] = (v :: (since ++ [v])).reverse := by simp
    rw [hback, List.isChain_reverse, List.isChain_cons]
    refine ⟨fun u hu => ?_, hpart.left_of_append⟩
    rw [hhead] at hu
    exact ⟨h.nodes u (List.mem_of_mem_head? hu), hnext u hu, h.nodes v hv⟩

/-- What a search reports is a round along edges. -/
theorem round_of_search (hpath : Trail g path) (htodo : ∀ v ∈ todo, Follows g path v)
    (h : g.search path todo finished = .error walk) : Round g.Edge walk := by
  fun_induction Graph.search g path todo finished with
  | case1 => cases h
  | case2 path finished v rest hv =>
    cases h
    exact hpath.round hv (htodo v List.mem_cons_self)
  | case3 path finished v rest _ _ ih =>
    exact ih hpath (fun w hw => htodo w (List.mem_cons_of_mem v hw)) h
  | case4 path finished v rest _ _ hv cycle hinner ih =>
    cases h
    refine ih (hpath.cons hv.1 hv.2 (htodo v List.mem_cons_self)) (fun w hw u hu => ?_) hinner
    obtain rfl := Option.some.inj hu
    exact hw
  | case5 path finished v rest _ _ _ _ _ _ ih =>
    exact ih hpath (fun w hw => htodo w (List.mem_cons_of_mem v hw)) h
  | case6 path finished v rest _ _ _ ih =>
    exact ih hpath (fun w hw => htodo w (List.mem_cons_of_mem v hw)) h

/-! ### Searches that report none -/

/-- Nodes in an order in which all edges lead down: what follows a node comes after it. -/
def Ranked (g : Graph α) : List α → Prop
  | [] => True
  | v :: rest => v ∉ rest ∧ (∀ u ∈ g.next v, u ∈ g.nodes → u ∈ rest) ∧ Ranked g rest

omit [DecidableEq α] in
/-- An edge does not lead out of ranked nodes. -/
theorem Ranked.mem_of_edge (h : Ranked g finished) (hu : u ∈ finished) (huv : g.Edge u v) :
    v ∈ finished := by
  induction finished with
  | nil => cases hu
  | cons w rest ih =>
    apply List.mem_cons_of_mem
    rcases List.mem_cons.mp hu with rfl | hu
    · exact h.2.1 v huv.2.1 huv.2.2
    · exact ih h.2.2 hu

omit [DecidableEq α] in
/-- A path along edges does not lead out of ranked nodes. -/
theorem Ranked.mem_of_reaches (h : Ranked g finished) (hu : u ∈ finished) (huv : g.Reaches u v) :
    v ∈ finished := by
  induction huv with
  | refl => exact hu
  | tail _ hedge ih => exact h.mem_of_edge ih hedge

omit [DecidableEq α] in
/-- No cycle goes through ranked nodes. -/
theorem Ranked.not_transGen (h : Ranked g finished) (hv : v ∈ finished) :
    ¬ Relation.TransGen g.Edge v v := by
  induction finished with
  | nil => cases hv
  | cons w rest ih =>
    rcases List.mem_cons.mp hv with rfl | hv
    · -- Everything that follows the first node is below it, and stays there.
      intro hcycle
      obtain ⟨u, hvu, huv⟩ := Relation.TransGen.head'_iff.mp hcycle
      exact h.1 (h.2.2.mem_of_reaches (h.2.1 u hvu.2.1 hvu.2.2) huv)
    · exact ih h.2.2 hv

/-- What is known when a search ends: the nodes that are finished now. -/
structure Explored (g : Graph α) (path todo finished more : List α) : Prop where
  ranked : Ranked g more
  subset : ∀ v ∈ finished, v ∈ more
  done : ∀ v ∈ todo, v ∈ g.nodes → v ∈ more
  apart : ∀ v ∈ path, v ∉ more

/-- The nodes that a search has finished are ranked, and those it had to visit are among them. -/
theorem ranked_of_search (hfinished : Ranked g finished) (hpath : ∀ v ∈ path, v ∉ finished)
    (h : g.search path todo finished = .ok more) : Explored g path todo finished more := by
  fun_induction Graph.search g path todo finished generalizing more with
  | case1 path finished =>
    cases h
    exact ⟨hfinished, fun _ hv => hv, by simp, hpath⟩
  | case2 => cases h
  | case3 path finished v rest _ hv ih =>
    have hrest := ih hfinished hpath h
    refine ⟨hrest.ranked, hrest.subset, fun w hw hn => ?_, hrest.apart⟩
    rcases List.mem_cons.mp hw with rfl | hw
    · exact hrest.subset w hv
    · exact hrest.done w hw hn
  | case4 => cases h
  | case5 path finished v rest hnew hv _ inner hinner ihv ih =>
    -- All that follows the node is finished before the node is, so that it goes on top.
    have hafter := ihv hfinished (fun w hw => ?_) hinner
    · have hranked : Ranked g (v :: inner) :=
        ⟨hafter.apart v List.mem_cons_self, hafter.done, hafter.ranked⟩
      have hrest := ih hranked (fun w hw hmem => ?_) h
      · refine ⟨hrest.ranked, fun w hw => ?_, fun w hw hn => ?_, hrest.apart⟩
        · exact hrest.subset w (List.mem_cons_of_mem v (hafter.subset w hw))
        · rcases List.mem_cons.mp hw with rfl | hw
          · exact hrest.subset w List.mem_cons_self
          · exact hrest.done w hw hn
      · rcases List.mem_cons.mp hmem with rfl | hmem
        · exact hnew hw
        · exact hafter.apart w (List.mem_cons_of_mem v hw) hmem
    · rcases List.mem_cons.mp hw with rfl | hw
      · exact hv
      · exact hpath w hw
  | case6 path finished v rest hnew _ hv ih =>
    have hrest := ih hfinished hpath h
    refine ⟨hrest.ranked, hrest.subset, fun w hw hn => ?_, hrest.apart⟩
    rcases List.mem_cons.mp hw with rfl | hw
    · exact absurd ⟨hn, hnew⟩ hv
    · exact hrest.done w hw hn

/-! ### Reports -/

/-- The cycle that is found is a round along edges. -/
theorem round_of_findCycle? (h : g.findCycle? = some walk) : Round g.Edge walk := by
  unfold findCycle? at h
  split at h
  case h_1 cycle hsearch =>
    obtain rfl := Option.some.inj h
    refine round_of_search Trail.nil (fun v _ u hu => ?_) hsearch
    cases hu
  case h_2 => cases h

/-- No cycle is found exactly if there is none. -/
theorem findCycle?_eq_none_iff :
    g.findCycle? = none ↔ ∀ v, ¬ Relation.TransGen g.Edge v v := by
  constructor
  · intro h v hcycle
    unfold findCycle? at h
    split at h
    case h_1 => cases h
    case h_2 more hsearch =>
      have hall : Explored g [] g.nodes [] more :=
        ranked_of_search trivial (fun w hw => absurd hw List.not_mem_nil) hsearch
      -- A cycle begins with an edge, and edges begin at nodes.
      obtain ⟨u, hvu, -⟩ := Relation.TransGen.head'_iff.mp hcycle
      exact hall.ranked.not_transGen (hall.done v hvu.1 hvu.1) hcycle
  · intro h
    by_contra hfound
    obtain ⟨walk, hwalk⟩ := Option.ne_none_iff_exists'.mp hfound
    obtain ⟨v, hv⟩ := (round_of_findCycle? hwalk).exists_transGen
    exact h v hv

end Accord.Graph
