/-
# Finite graphs

A graph has a list of nodes and the successors of each; successors that are not
nodes count for nothing. Two searches run over it in depth-first order: one finds the
strong components, the other looks for a cycle.

The walk that finds the components numbers the nodes as it meets them. Each visit
keeps the least number that it found to lie behind its node; when this is the number of
the node itself, the nodes met since then are a component.

## Main definitions

* `Graph.Walk`: the state of a walk, with `Walk.step` and `Walk.run`;
* `Graph.components`: the strong components of a graph;
* `Graph.findCycle?`: the first cycle that a depth-first search meets.
-/

import Accord.Text.Basic

namespace Accord

/-- A finite graph. -/
structure Graph (α : Type) where
  nodes : List α
  next : α → List α

namespace Graph

/-- A filter that lets less through, and in particular not some node, gives a shorter list. -/
theorem length_filter_lt {β : Type} {p q : β → Bool} {nodes : List β} {v : β}
    (h : ∀ x, q x = true → p x = true) (hv : v ∈ nodes) (hp : p v = true) (hq : q v = false) :
    (nodes.filter q).length < (nodes.filter p).length := by
  induction nodes with
  | nil => cases hv
  | cons w rest ih =>
    have keep : (rest.filter q).length ≤ (rest.filter p).length := by
      rw [← List.countP_eq_length_filter, ← List.countP_eq_length_filter]
      exact List.countP_mono_left fun x _ => h x
    cases hv with
    | head =>
      rw [List.filter_cons_of_neg (by rw [hq]; exact Bool.false_ne_true),
        List.filter_cons_of_pos hp, List.length_cons]
      exact Nat.lt_succ_of_le keep
    | tail _ hv =>
      cases hqw : q w with
      | true =>
        rw [List.filter_cons_of_pos hqw, List.filter_cons_of_pos (h w hqw), List.length_cons,
          List.length_cons]
        exact Nat.succ_lt_succ (ih hv)
      | false =>
        rw [List.filter_cons_of_neg (by rw [hqw]; exact Bool.false_ne_true)]
        cases hpw : p w with
        | true =>
          rw [List.filter_cons_of_pos hpw, List.length_cons]
          exact Nat.lt_succ_of_lt (ih hv)
        | false =>
          rw [List.filter_cons_of_neg (by rw [hpw]; exact Bool.false_ne_true)]
          exact ih hv

variable {α : Type} [DecidableEq α] (g : Graph α)

/-- The nodes that were not met yet become fewer when one is met. -/
theorem unseen_lt {nodes seen : List α} {v : α} (hv : v ∈ nodes) (hs : v ∉ seen) :
    (nodes.filter (· ∉ v :: seen)).length < (nodes.filter (· ∉ seen)).length := by
  refine length_filter_lt (fun x hx => ?_) hv (decide_eq_true hs)
    (decide_eq_false fun h => h List.mem_cons_self)
  exact decide_eq_true fun hm => of_decide_eq_true hx (List.mem_cons_of_mem v hm)

/-! ### Strong components -/

/-- A node whose successors are being followed: the least number that was found to lie behind it,
and the successors that are left. -/
structure Visit (α : Type) where
  node : α
  low : Nat
  todo : List α
  deriving DecidableEq, Repr

/-- How far a walk along all edges has come. -/
structure Walk (α : Type) where
  /-- The visits that are not over, the innermost first. -/
  visits : List (Visit α) := []
  /-- The nodes that were met, with their numbers. -/
  numbers : List (α × Nat) := []
  /-- The nodes that were met and have no component yet, the last first. -/
  pending : List α := []
  /-- The components that were found. -/
  groups : List (List α) := []
  deriving Repr

/-- Cuts a list after a node. -/
def cutThrough (v : α) : List α → List α × List α
  | [] => ([], [])
  | w :: rest =>
    if w = v then ([w], rest) else (w :: (cutThrough v rest).1, (cutThrough v rest).2)

/-- Passes a low number on to the visit around the one that ends. -/
def passOn (low : Nat) : List (Visit α) → List (Visit α)
  | [] => []
  | a :: outer => { a with low := min a.low low } :: outer

namespace Walk

/-- Meets a node: it gets the next number, and its successors are to be followed. -/
def enter (w : Walk α) (v : α) : Walk α :=
  { w with
    visits := ⟨v, w.numbers.length, g.next v⟩ :: w.visits
    numbers := (v, w.numbers.length) :: w.numbers
    pending := v :: w.pending }

/-- Makes a component of the nodes that were met from a node on. -/
def close (w : Walk α) (v : α) : Walk α :=
  { w with
    pending := (cutThrough v w.pending).2
    groups := w.groups ++ [(cutThrough v w.pending).1] }

/-- One step of a walk: the next successor of the innermost visit is followed, or the visit
ends. A visit that finds no smaller number than its own has found a component. -/
def step (w : Walk α) : Walk α :=
  match w.visits with
  | [] => w
  | ⟨v, low, u :: rest⟩ :: outer =>
    if u ∈ g.nodes then
      match w.numbers.lookup u with
      | none => enter g { w with visits := ⟨v, low, rest⟩ :: outer } u
      | some n =>
        -- A node that has a component does not lead back to the nodes that wait.
        if u ∈ w.pending then { w with visits := ⟨v, min low n, rest⟩ :: outer }
        else { w with visits := ⟨v, low, rest⟩ :: outer }
    else { w with visits := ⟨v, low, rest⟩ :: outer }
  -- All nodes that were met during the visit lead back no further than its low number.
  | ⟨v, low, []⟩ :: outer =>
    if w.numbers.lookup v = some low then close { w with visits := passOn low outer } v
    else { w with visits := passOn low outer }

/-- The nodes that were not met yet. -/
def unmet (w : Walk α) : List α := g.nodes.filter fun v => (w.numbers.lookup v).isNone

/-- How much is left of the visits. -/
def remaining (w : Walk α) : Nat := w.visits.foldr (fun a n => a.todo.length + 1 + n) 0

omit [DecidableEq α] in
theorem remaining_passOn (low : Nat) (outer : List (Visit α)) :
    (passOn low outer).foldr (fun a n => a.todo.length + 1 + n) 0 =
      outer.foldr (fun a n => a.todo.length + 1 + n) 0 := by
  cases outer with
  | nil => rfl
  | cons a rest => rfl

/-- A node that was not met is no longer among those when it is. -/
theorem unmet_enter_lt {w : Walk α} {v : α} (hv : v ∈ g.nodes) (h : w.numbers.lookup v = none) :
    (unmet g (enter g w v)).length < (unmet g w).length := by
  refine length_filter_lt (fun x hx => ?_) hv (by simp [h]) (by simp [enter])
  by_cases hxv : x = v
  · simp [hxv, h]
  · simpa [enter, List.lookup_cons, beq_false_of_ne hxv] using hx

/-- A step meets a new node, or leaves less of the visits. -/
theorem step_lt {w : Walk α} (h : w.visits ≠ []) :
    Prod.Lex (· < ·) (· < ·) ((unmet g (step g w)).length, (step g w).remaining)
      ((unmet g w).length, w.remaining) := by
  unfold step
  split
  case h_1 hv => exact absurd hv h
  case h_2 v low u rest outer hv =>
    have less (low' : Nat) : Prod.Lex (· < ·) (· < ·)
        ((unmet g { w with visits := ⟨v, low', rest⟩ :: outer }).length,
          remaining { w with visits := ⟨v, low', rest⟩ :: outer })
        ((unmet g w).length, w.remaining) :=
      Prod.Lex.right _ (by simp [remaining, hv])
    split
    case isTrue hu =>
      split
      case h_1 hn => exact Prod.Lex.left _ _ (unmet_enter_lt g hu hn)
      case h_2 n hn =>
        split
        · exact less (min low n)
        · exact less low
    case isFalse => exact less low
  case h_3 v low outer hv =>
    have less : (passOn low outer).foldr (fun a n => a.todo.length + 1 + n) 0 <
        w.remaining := by
      rw [remaining_passOn, remaining, hv, List.foldr_cons]
      omega
    split
    · exact Prod.Lex.right _ less
    · exact Prod.Lex.right _ less

/-- Walks on until all visits are over. -/
def run (w : Walk α) : Walk α :=
  if w.visits.isEmpty then w else run (step g w)
termination_by ((unmet g w).length, w.remaining)
decreasing_by
  rename_i h
  exact step_lt g fun hv => h (by simp [hv])

/-- Walks from a node, unless it was met before. -/
def visit (w : Walk α) (v : α) : Walk α :=
  if (w.numbers.lookup v).isSome then w else run g (enter g w v)

end Walk

/-- A strong component: its nodes, each of which reaches all others, and whether they lie on a
cycle. -/
structure Component (α : Type) where
  members : List α
  cyclic : Bool
  deriving DecidableEq, Repr

/-- Whether nodes that reach each other lie on a cycle: they do if there are several, and a single
one does if it follows itself. -/
def isCyclic : List α → Bool
  | [] => false
  | [v] => v ∈ g.next v
  | _ :: _ :: _ => true

/-- The strong components of a graph, in the order in which a walk along all edges finds them. -/
def components : List (Component α) :=
  (g.nodes.foldl (Walk.visit g) {}).groups.map fun members => ⟨members, g.isCyclic members⟩

/-- The place of the component of a node. -/
def componentOf? (components : List (Component α)) (v : α) : Option Nat :=
  components.findIdx? (v ∈ ·.members)

/-! ### Cycles -/

/-- Searches depth first for a cycle. The path leads to the nodes that are to be visited,
its last node first; finished nodes lie on no cycle. The outcome is a cycle or the finished
nodes. -/
def search (path todo finished : List α) : Except (List α) (List α) :=
  match todo with
  | [] => .ok finished
  | v :: rest =>
    if v ∈ path then .error (v :: (path.takeWhile (· ≠ v)).reverse ++ [v])
    else if v ∈ finished then search path rest finished
    else if v ∈ g.nodes ∧ v ∉ path then
      match search (v :: path) (g.next v) finished with
      | .error cycle => .error cycle
      | .ok more => search path rest (v :: more)
    else search path rest finished
termination_by ((g.nodes.filter (· ∉ path)).length, todo.length)
decreasing_by
  · exact Prod.Lex.right _ (by simp)
  · rename_i h
    exact Prod.Lex.left _ _ (unseen_lt h.1 h.2)
  · exact Prod.Lex.right _ (by simp)
  · exact Prod.Lex.right _ (by simp)

/-- The first cycle that a depth-first search meets: its first node stands at its end
again. -/
def findCycle? : Option (List α) :=
  match g.search [] g.nodes [] with
  | .error cycle => some cycle
  | .ok _ => none

end Graph

end Accord
