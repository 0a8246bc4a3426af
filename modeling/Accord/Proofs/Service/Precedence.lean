/-
# Which route is taken

Routes are looked at in the order in which they were registered, and one that is more specific
than the best so far takes its place. This finds a route that no other matching route is more
specific than, because "more specific" is a strict weak order: two templates that neither precedes
the other have the same ranks. Among several such routes it is the one registered first. Where the
ranks of the matching routes differ there is only one, and the order of registration does not
matter.

## Main definitions

* `Registered.Matches`: a route serves a method and a path;
* `Mux.Foremost`: a matching route that no matching route precedes;
* `Mux.Selected`: what the search has found after some routes.

## Main results

* `Template.isStrictWeakOrder_moreSpecific`: the precedence of templates;
* `Mux.Selected.consider`, `Mux.selected_foldl`: the search, route by route;
* `Mux.find?_foremost`: the route that is found, and when none is.
-/

import Accord.Service.Mux
import Mathlib.Data.List.Pairwise
import Mathlib.Order.Defs.Unbundled

namespace Accord

/-! ### The order of templates -/

namespace Template

variable {a b c : List Nat}

theorem ranksAbove_irrefl (a : List Nat) : ranksAbove a a = false := by
  induction a with
  | nil => rfl
  | cons x rest ih => simp [ranksAbove, ih]

theorem ranksAbove_trans (hab : ranksAbove a b = true) (hbc : ranksAbove b c = true) :
    ranksAbove a c = true := by
  induction a generalizing b c with
  | nil =>
    cases c with
    | nil => cases b <;> simp [ranksAbove] at hbc
    | cons z u => rfl
  | cons x s ih =>
    cases b with
    | nil => simp [ranksAbove] at hab
    | cons y t =>
      cases c with
      | nil => simp [ranksAbove] at hbc
      | cons z u =>
        -- The first difference is that of the first list that differs.
        by_cases hxy : x = y
        · subst hxy
          by_cases hxz : x = z
          · simp only [ranksAbove, hxz, if_true] at hab hbc ⊢
            exact ih hab hbc
          · simpa [ranksAbove, hxz] using hbc
        · have hyx : y < x := by simpa [ranksAbove, hxy] using hab
          by_cases hyz : y = z
          · subst hyz
            simpa [ranksAbove, hxy] using hyx
          · have hzy : z < y := by simpa [ranksAbove, hyz] using hbc
            have hxz : x ≠ z := by omega
            simp only [ranksAbove, hxz, if_false, decide_eq_true_eq]
            omega

/-- Ranks of which neither is above the other are the same. -/
theorem eq_of_not_ranksAbove (hab : ranksAbove a b = false) (hba : ranksAbove b a = false) :
    a = b := by
  induction a generalizing b with
  | nil =>
    cases b with
    | nil => rfl
    | cons y t => simp [ranksAbove] at hab
  | cons x s ih =>
    cases b with
    | nil => simp [ranksAbove] at hba
    | cons y t =>
      by_cases hxy : x = y
      · subst hxy
        simp only [ranksAbove, if_true] at hab hba
        rw [ih hab hba]
      · have hle : x ≤ y := by simpa [ranksAbove, hxy] using hab
        have hge : y ≤ x := by simpa [ranksAbove, Ne.symm hxy] using hba
        omega

/-- Templates of which neither precedes the other have the same ranks. -/
theorem ranks_eq_iff {s t : Template} :
    s.ranks = t.ranks ↔ ¬ s.moreSpecific t = true ∧ ¬ t.moreSpecific s = true := by
  unfold moreSpecific
  constructor
  · intro h
    simp [h, ranksAbove_irrefl]
  · rintro ⟨hst, hts⟩
    exact eq_of_not_ranksAbove (by simpa using hst) (by simpa using hts)

/-- Precedence is a strict weak order. -/
theorem isStrictWeakOrder_moreSpecific :
    IsStrictWeakOrder Template fun s t => s.moreSpecific t = true where
  irrefl s := by simp [moreSpecific, ranksAbove_irrefl]
  trans _ _ _ := ranksAbove_trans
  incomp_trans _ _ _ hst htu := ranks_eq_iff.mp ((ranks_eq_iff.mpr hst).trans (ranks_eq_iff.mpr htu))

/-- What precedes a template precedes all that do not precede it. -/
theorem moreSpecific_of_not {r s t : Template} (hrt : r.moreSpecific t = true)
    (hst : ¬ s.moreSpecific t = true) : r.moreSpecific s = true := by
  by_cases hts : t.moreSpecific s = true
  · exact ranksAbove_trans hrt hts
  · -- Neither of the two precedes the other, so that they have the same ranks.
    rw [moreSpecific, ranks_eq_iff.mpr ⟨hst, hts⟩]
    exact hrt

theorem not_moreSpecific_of_moreSpecific {s t : Template} (h : s.moreSpecific t = true) :
    ¬ t.moreSpecific s = true := by
  intro hts
  have hss : ranksAbove s.ranks s.ranks = true := ranksAbove_trans h hts
  rw [ranksAbove_irrefl] at hss
  cases hss

end Template

/-! ### The search -/

variable {σ : Type} {m m' : Mux σ} {method path : Text} {r s : Registered σ}
  {values : Template.Values}

/-- A route serves a method and a path. -/
def Registered.Matches (method path : Text) (r : Registered σ) : Prop :=
  r.route.endpoint.method = method ∧ (r.template.matchPath? path).isSome

namespace Mux

/-- A matching route that no matching route precedes. -/
structure Foremost (m : Mux σ) (method path : Text) (r : Registered σ) : Prop where
  mem : r ∈ m.routes
  matching : r.Matches method path
  unpreceded : ∀ s ∈ m.routes, s.Matches method path →
    ¬ s.template.moreSpecific r.template = true

/-- What the search has found after some routes: nothing if none of them matches, else one that
precedes the matching routes in front of it and that those behind it do not precede. -/
inductive Selected (method path : Text) : List (Registered σ) →
    Option (Registered σ × Template.Values) → Prop where
  | nothing {seen : List (Registered σ)} (h : ∀ s ∈ seen, ¬ s.Matches method path) :
    Selected method path seen none
  | route {before after : List (Registered σ)} {r : Registered σ} {values : Template.Values}
    (hmethod : r.route.endpoint.method = method)
    (hvalues : r.template.matchPath? path = some values)
    (hbefore : ∀ s ∈ before, s.Matches method path → r.template.moreSpecific s.template = true)
    (hafter : ∀ s ∈ after, s.Matches method path →
      ¬ s.template.moreSpecific r.template = true) :
    Selected method path (before ++ r :: after) (some (r, values))

variable {seen : List (Registered σ)} {best : Option (Registered σ × Template.Values)}

/-- A route that does not match is passed over. -/
theorem consider_of_not_matches (h : ¬ r.Matches method path) :
    consider method path best r = best := by
  unfold consider
  split
  case isTrue hmethod =>
    have hnone : r.template.matchPath? path = none := by
      simpa [Registered.Matches, hmethod] using h
    rw [hnone]
  case isFalse => rfl

/-- A route that matches is compared with the best one so far. -/
theorem consider_of_matchPath? (hmethod : r.route.endpoint.method = method)
    (hvalues : r.template.matchPath? path = some values) :
    consider method path best r = better best r values := by
  simp [consider, hmethod, hvalues]

/-- A route that does not precede the best one so far changes nothing. -/
theorem Selected.keep (h : Selected method path seen best)
    (hr : r.Matches method path → ∃ b held, best = some (b, held) ∧
      ¬ r.template.moreSpecific b.template = true) :
    Selected method path (seen ++ [r]) best := by
  cases h with
  | nothing h =>
    refine .nothing fun s hs => ?_
    rcases List.mem_append.mp hs with hs | hs
    · exact h s hs
    · rw [List.mem_singleton.mp hs]
      intro hmatch
      obtain ⟨b, held, hbest, -⟩ := hr hmatch
      cases hbest
  | @route before after b held hb hheld hbefore hafter =>
    have hlist : before ++ b :: after ++ [r] = before ++ b :: (after ++ [r]) := by simp
    rw [hlist]
    refine .route hb hheld hbefore fun s hs hmatch => ?_
    rcases List.mem_append.mp hs with hs | hs
    · exact hafter s hs hmatch
    · obtain rfl := List.mem_singleton.mp hs
      obtain ⟨b', held', hbest, hnot⟩ := hr hmatch
      cases hbest
      exact hnot

/-- A route that precedes the best one so far precedes all that were seen. -/
theorem Selected.replace (h : Selected method path seen best)
    (hmethod : r.route.endpoint.method = method)
    (hvalues : r.template.matchPath? path = some values)
    (hr : ∀ b held, best = some (b, held) → r.template.moreSpecific b.template = true) :
    Selected method path (seen ++ [r]) (some (r, values)) := by
  refine .route hmethod hvalues (fun s hs hmatch => ?_) (by simp)
  cases h with
  | nothing h => exact absurd hmatch (h s hs)
  | @route before after b held hb hheld hbefore hafter =>
    have hrb := hr b held rfl
    rcases List.mem_append.mp hs with hs | hs
    · exact Template.ranksAbove_trans hrb (hbefore s hs hmatch)
    · rcases List.mem_cons.mp hs with rfl | hs
      · exact hrb
      · exact Template.moreSpecific_of_not hrb (hafter s hs hmatch)

/-- One more route is taken into account. -/
theorem Selected.consider (h : Selected method path seen best) (r : Registered σ) :
    Selected method path (seen ++ [r]) (Mux.consider method path best r) := by
  by_cases hr : r.Matches method path
  · obtain ⟨hmethod, hsome⟩ := hr
    obtain ⟨values, hvalues⟩ := Option.isSome_iff_exists.mp hsome
    rw [consider_of_matchPath? hmethod hvalues]
    match best with
    | none => exact h.replace hmethod hvalues (by simp)
    | some (b, held) =>
      by_cases hrb : r.template.moreSpecific b.template = true
      · rw [better, if_pos hrb]
        refine h.replace hmethod hvalues fun b' held' hbest => ?_
        cases hbest
        exact hrb
      · rw [better, if_neg hrb]
        exact h.keep fun _ => ⟨b, held, rfl, hrb⟩
  · rw [consider_of_not_matches hr]
    exact h.keep fun hmatch => absurd hmatch hr

/-- All routes are taken into account, one after the other. -/
theorem selected_foldl (h : Selected method path seen best) (more : List (Registered σ)) :
    Selected method path (seen ++ more) (more.foldl (Mux.consider method path) best) := by
  induction more generalizing seen best with
  | nil => simpa using h
  | cons r rest ih =>
    rw [List.foldl_cons, ← List.singleton_append, ← List.append_assoc]
    exact ih (h.consider r)

theorem selected_find? (m : Mux σ) (method path : Text) :
    Selected method path m.routes (m.find? method path) := by
  have start : Selected method path ([] : List (Registered σ)) none := .nothing (by simp)
  exact selected_foldl start m.routes

/-! ### The route that is found -/

theorem find?_eq_none_iff :
    m.find? method path = none ↔ ∀ r ∈ m.routes, ¬ r.Matches method path := by
  have h := selected_find? m method path
  generalize hroutes : m.routes = routes at h ⊢
  generalize m.find? method path = found at h ⊢
  cases h with
  | nothing h => simpa using h
  | @route before after r values hmethod hvalues _ _ =>
    have hmatch : r.Matches method path := ⟨hmethod, by simp [hvalues]⟩
    simp only [reduceCtorEq, false_iff]
    exact fun hno => hno r (by simp) hmatch

/-- A route that is found is foremost, and none in front of it is. -/
theorem foremost_of_find? (h : m.find? method path = some (r, values)) :
    ∃ before after, m.routes = before ++ r :: after ∧ m.Foremost method path r ∧
      (∀ s ∈ before, ¬ m.Foremost method path s) ∧ r.template.matchPath? path = some values := by
  have hsel := selected_find? m method path
  rw [h] at hsel
  generalize hroutes : m.routes = routes at hsel
  cases hsel with
  | @route before after r values hmethod hvalues hbefore hafter =>
    have hr : r ∈ m.routes := by simp [hroutes]
    have hmatch : r.Matches method path := ⟨hmethod, by simp [hvalues]⟩
    refine ⟨before, after, rfl, ⟨hr, hmatch, fun s hs hsm => ?_⟩, fun s hs hfore => ?_, hvalues⟩
    · rw [hroutes, List.mem_append, List.mem_cons] at hs
      rcases hs with hs | rfl | hs
      · exact Template.not_moreSpecific_of_moreSpecific (hbefore s hs hsm)
      · simp [Template.moreSpecific, Template.ranksAbove_irrefl]
      · exact hafter s hs hsm
    · exact hfore.unpreceded r hr hmatch (hbefore s hs hfore.matching)

/-- The first member of a list with a property is the only one of its kind. -/
theorem first_unique {α : Type} {p : α → Prop} {before after before' after' : List α} {x y : α}
    (h : before ++ x :: after = before' ++ y :: after') (hx : p x) (hy : p y)
    (hbefore : ∀ z ∈ before, ¬ p z) (hbefore' : ∀ z ∈ before', ¬ p z) : x = y := by
  rcases List.append_eq_append_iff.mp h with ⟨gap, rfl, hgap⟩ | ⟨gap, rfl, hgap⟩
  · cases gap with
    | nil => exact (List.cons.inj hgap).1
    | cons z rest =>
      obtain rfl := (List.cons.inj hgap).1
      exact absurd hx (hbefore' x (by simp))
  · cases gap with
    | nil => exact (List.cons.inj hgap).1.symm
    | cons z rest =>
      obtain rfl := (List.cons.inj hgap).1
      exact absurd hy (hbefore y (by simp))

theorem find?_eq_some_iff : m.find? method path = some (r, values) ↔
    ∃ before after, m.routes = before ++ r :: after ∧ m.Foremost method path r ∧
      (∀ s ∈ before, ¬ m.Foremost method path s) ∧ r.template.matchPath? path = some values := by
  refine ⟨foremost_of_find?, ?_⟩
  rintro ⟨before, after, hroutes, hfore, hbefore, hvalues⟩
  cases hfind : m.find? method path with
  | none => exact absurd hfore.matching (find?_eq_none_iff.mp hfind r hfore.mem)
  | some found =>
    obtain ⟨r', values'⟩ := found
    obtain ⟨before', after', hroutes', hfore', hbefore', hvalues'⟩ := foremost_of_find? hfind
    obtain rfl := first_unique (hroutes'.symm.trans hroutes) hfore' hfore hbefore' hbefore
    rw [hvalues, Option.some.injEq] at hvalues'
    rw [hvalues']

/-- Foremost routes have the same ranks. -/
theorem Foremost.ranks_eq (hr : m.Foremost method path r) (hs : m.Foremost method path s) :
    r.template.ranks = s.template.ranks :=
  Template.ranks_eq_iff.mpr
    ⟨hs.unpreceded r hr.mem hr.matching, hr.unpreceded s hs.mem hs.matching⟩

theorem Foremost.of_perm (h : m.routes.Perm m'.routes) (hr : m.Foremost method path r) :
    m'.Foremost method path r where
  mem := h.mem_iff.mp hr.mem
  matching := hr.matching
  unpreceded s hs := hr.unpreceded s (h.mem_iff.mpr hs)

/-- If the ranks of matching routes differ, the order of the routes does not matter. -/
theorem find?_perm (hperm : m.routes.Perm m'.routes)
    (hranks : m.routes.Pairwise fun r s => r.Matches method path → s.Matches method path →
      r.template.ranks ≠ s.template.ranks) :
    m'.find? method path = m.find? method path := by
  have symm : Std.Symm fun r s : Registered σ => r.Matches method path →
      s.Matches method path → r.template.ranks ≠ s.template.ranks :=
    ⟨fun _ _ h hs hr => (h hr hs).symm⟩
  cases hfind : m.find? method path with
  | none =>
    have hno := find?_eq_none_iff.mp hfind
    exact find?_eq_none_iff.mpr fun r hr => hno r (hperm.mem_iff.mpr hr)
  | some found =>
    obtain ⟨r, values⟩ := found
    obtain ⟨-, -, -, hfore, -, hvalues⟩ := foremost_of_find? hfind
    cases hfind' : m'.find? method path with
    | none =>
      have hno := find?_eq_none_iff.mp hfind' r (hperm.mem_iff.mp hfore.mem)
      exact absurd hfore.matching hno
    | some found' =>
      obtain ⟨r', values'⟩ := found'
      obtain ⟨-, -, -, hfore', -, hvalues'⟩ := foremost_of_find? hfind'
      have hback := hfore'.of_perm hperm.symm
      -- Both routes are foremost in one table, where only one route has these ranks.
      obtain rfl : r = r' := by
        by_contra hne
        exact hranks.forall hfore.mem hback.mem hne hfore.matching hback.matching
          (hfore.ranks_eq hback)
      rw [hvalues, Option.some.injEq] at hvalues'
      rw [hvalues']

/-- **The route that is found is a maximum.** Precedence is a strict weak order on templates. A
search finds nothing exactly if no route of the method matches the path; otherwise it finds the
first of the matching routes that no matching route precedes, with the values of its template. If
the ranks of the matching routes differ, it finds the same in every order of the routes. -/
theorem find?_foremost :
    (IsStrictWeakOrder Template fun s t => s.moreSpecific t = true) ∧
    ∀ {σ : Type} (m : Mux σ) (method path : Text),
      (m.find? method path = none ↔ ∀ r ∈ m.routes, ¬ r.Matches method path) ∧
      (∀ r values, m.find? method path = some (r, values) ↔
        ∃ before after, m.routes = before ++ r :: after ∧ m.Foremost method path r ∧
          (∀ s ∈ before, ¬ m.Foremost method path s) ∧
          r.template.matchPath? path = some values) ∧
      ((m.routes.Pairwise fun r s => r.Matches method path → s.Matches method path →
          r.template.ranks ≠ s.template.ranks) →
        ∀ m' : Mux σ, m.routes.Perm m'.routes →
          m'.find? method path = m.find? method path) :=
  ⟨Template.isStrictWeakOrder_moreSpecific, fun _ _ _ =>
    ⟨find?_eq_none_iff, fun _ _ => find?_eq_some_iff, fun hranks _ hperm =>
      find?_perm hperm hranks⟩⟩

/-! ### Two routes -/

/-- A route for a template that serves nothing. -/
def idle (t : Template) : Registered Unit where
  route := { endpoint := ⟨"Library", "read", "GET", t.text⟩, handler? := none }
  handler _ _ := pure none
  template := t

/-- The path of a book. -/
def anyBook : Template := [.fixed "books", .parameter ⟨"id", none⟩]

/-- The path of the new books, which could be that of a book. -/
def newBooks : Template := [.fixed "books", .fixed "new"]

/-- The fixed text is taken whichever of two routes was registered first. -/
theorem find?_foremost_newBooks :
    Mux.find? { routes := [idle anyBook, idle newBooks] } "GET" "/books/new" =
        some (idle newBooks, []) ∧
      Mux.find? { routes := [idle newBooks, idle anyBook] } "GET" "/books/new" =
        Mux.find? { routes := [idle anyBook, idle newBooks] } "GET" "/books/new" := by
  have hbook : (anyBook.matchPath? "/books/new").isSome := by decide +kernel
  have hnew : newBooks.matchPath? "/books/new" = some [] := by decide +kernel
  have habove : newBooks.moreSpecific anyBook = true := by decide +kernel
  have hranks : (idle anyBook).template.ranks ≠ (idle newBooks).template.ranks := by
    decide +kernel
  refine ⟨?_, (find?_foremost.2 { routes := [idle anyBook, idle newBooks] } _ _).2.2 ?_ _
    (List.Perm.swap _ _ _)⟩
  · obtain ⟨values, hvalues⟩ := Option.isSome_iff_exists.mp hbook
    simp only [find?, consider, better, idle, List.foldl_cons, List.foldl_nil, if_true, hvalues,
      hnew, habove]
  · simpa using fun _ _ => hranks

end Mux

end Accord
