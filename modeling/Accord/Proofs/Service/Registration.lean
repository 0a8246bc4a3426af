/-
# The table of routes

Routes are added one after the other, and one whose method and template are there already is
refused. The table therefore lists the routes that were accepted, in order, and no two of them
have the same method and the same template. Templates are compared by their spelling, which says
the same as comparing the templates, because a spelling is read as the template it came from.

A search looks at the routes in order. So a new route, which comes last, changes what is found
only for the methods and paths that it serves, and there it has to be more specific than the route
that was found before.

## Main definitions

* `Mux.attempt`: the table after a route was to be added, and whether it was;
* `Mux.accepted?`: the route of an attempt that succeeded;
* `Mux.Table`: what is true of a table after attempts.

## Main results

* `Mux.register_eq_ok_iff`: when a route is added;
* `Mux.Table.attempt`: what every attempt keeps;
* `Mux.find?_concat_local`: what is found with one more route;
* `Mux.register_local`: the table after every sequence of attempts, and one more route.
-/

import Accord.Proofs.History
import Accord.Proofs.Path.Canonical
import Accord.Proofs.Service.Precedence

namespace Accord

variable {σ : Type}

/-- The method of a route in the table. -/
abbrev Registered.method (r : Registered σ) : Text := r.route.endpoint.method

namespace Mux

variable {m m' : Mux σ} {route : Route σ} {r : Registered σ} {method path : Text}
  {past : List (Route σ × Except Fault Unit)}

/-! ### Adding routes -/

/-- Tries to add a route. A table that refuses a route stays as it is. -/
def attempt (m : Mux σ) (route : Route σ) : Except Fault Unit × Mux σ :=
  match m.register route with
  | .ok m' => (.ok (), m')
  | .error e => (.error e, m)

/-- The route of an attempt that succeeded. -/
def accepted? : Route σ × Except Fault Unit → Option (Route σ)
  | (route, .ok ()) => some route
  | (_, .error _) => none

/-- A route is added at the end if it has a handler, its path spells a template, and no route of
its method is spelled the same. -/
theorem register_eq_ok_iff : m.register route = .ok m' ↔
    ∃ r : Registered σ, r.route = route ∧ route.handler? = some r.handler ∧
      Template.parse route.endpoint.path = .ok r.template ∧
      (∀ s ∈ m.routes, s.method = route.endpoint.method → s.template.text ≠ r.template.text) ∧
      m' = { m with routes := m.routes ++ [r] } := by
  unfold register
  cases hhandler : route.handler? with
  | none => simp
  | some handler =>
    cases hparse : Template.parse route.endpoint.path with
    | error e => simp
    | ok template =>
      -- A route with the method and the template is found if there is one.
      have hfind : m.routes.find? (claims route.endpoint.method template) = none ↔
          ∀ s ∈ m.routes, s.method = route.endpoint.method → s.template.text ≠ template.text := by
        simp [List.find?_eq_none, claims]
      dsimp only
      cases hfound : m.routes.find? (claims route.endpoint.method template) with
      | some s =>
        constructor
        · intro h
          cases h
        · rintro ⟨⟨_, _, _⟩, -, -, ⟨⟩, hnew, -⟩
          rw [hfind.mpr hnew] at hfound
          cases hfound
      | none =>
        constructor
        · intro h
          cases h
          exact ⟨⟨route, handler, template⟩, rfl, rfl, rfl, hfind.mp hfound, rfl⟩
        · rintro ⟨⟨added, handler', template'⟩, hroute, hhandler', hparse', -, rfl⟩
          cases hroute
          cases hhandler'
          cases hparse'
          rfl

/-- An attempt adds a route, or it fails and changes nothing. -/
theorem attempt_cases (m : Mux σ) (route : Route σ) :
    (∃ r : Registered σ, r.route = route ∧ Template.parse route.endpoint.path = .ok r.template ∧
      (∀ s ∈ m.routes, s.method = route.endpoint.method → s.template.text ≠ r.template.text) ∧
      m.attempt route = (.ok (), { m with routes := m.routes ++ [r] })) ∨
    ∃ fault, m.attempt route = (.error fault, m) := by
  unfold attempt
  cases hregister : m.register route with
  | error e => exact .inr ⟨e, rfl⟩
  | ok m' =>
    obtain ⟨r, hroute, -, hparse, hnew, rfl⟩ := register_eq_ok_iff.mp hregister
    exact .inl ⟨r, hroute, hparse, hnew, rfl⟩

/-- What is true of a table after attempts: it lists the accepted routes in order, each with the
template that its path spells, and no two of one method are spelled the same. -/
structure Table (past : List (Route σ × Except Fault Unit)) (m : Mux σ) : Prop where
  listed : m.routes.map (·.route) = past.filterMap accepted?
  parsed : ∀ r ∈ m.routes, Template.parse r.route.endpoint.path = .ok r.template
  apart : m.routes.Pairwise fun r s => r.method = s.method → r.template.text ≠ s.template.text

theorem Table.start (m : Mux σ) : Table [] { m with routes := [] } where
  listed := rfl
  parsed _ h := absurd h List.not_mem_nil
  apart := .nil

/-- Every attempt keeps what is true of a table. -/
theorem Table.attempt (h : Table past m) (route : Route σ) :
    Table (past ++ [(route, (m.attempt route).1)]) (m.attempt route).2 := by
  rcases m.attempt_cases route with ⟨r, rfl, hparse, hnew, hadded⟩ | ⟨fault, hrefused⟩
  · rw [hadded]
    refine ⟨?_, ?_, ?_⟩
    · rw [List.map_append, List.filterMap_append, h.listed]
      rfl
    · intro s hs
      rcases List.mem_append.mp hs with hs | hs
      · exact h.parsed s hs
      · obtain rfl := List.mem_singleton.mp hs
        exact hparse
    · refine List.pairwise_append.mpr ⟨h.apart, List.pairwise_singleton _ _, fun s hs r' hr' => ?_⟩
      obtain rfl := List.mem_singleton.mp hr'
      exact hnew s hs
  · rw [hrefused]
    refine ⟨?_, h.parsed, h.apart⟩
    rw [List.filterMap_append, h.listed]
    exact (List.append_nil _).symm

theorem Table.final (m : Mux σ) (calls : List (Route σ)) :
    Table (History.trace Mux.attempt { m with routes := [] } calls)
      (History.final Mux.attempt { m with routes := [] } calls) :=
  History.invariant (.start m) (fun _ _ route h => h.attempt route) calls

/-- After attempts a route is accepted exactly if it has a handler, and its path spells a template
that no route of its method has. -/
theorem Table.attempt_eq_ok_iff (h : Table past m) : (m.attempt route).1 = .ok () ↔
    route.handler?.isSome ∧ ∃ template, Template.parse route.endpoint.path = .ok template ∧
      ∀ s ∈ m.routes, s.method = route.endpoint.method → s.template ≠ template := by
  have hattempt : (m.attempt route).1 = .ok () ↔ ∃ m', m.register route = .ok m' := by
    unfold Mux.attempt
    cases m.register route <;> simp
  -- Templates that were read differ in their spellings if they differ.
  have hspelled {template : Template} (hparse : Template.parse route.endpoint.path = .ok template)
      {s : Registered σ} (hs : s ∈ m.routes) :
      s.template.text ≠ template.text ↔ s.template ≠ template :=
    not_congr (Template.text_inj (h.parsed s hs) hparse)
  rw [hattempt]
  constructor
  · rintro ⟨m', hregister⟩
    obtain ⟨r, rfl, hhandler, hparse, hnew, -⟩ := register_eq_ok_iff.mp hregister
    refine ⟨by rw [hhandler]; rfl, r.template, hparse, fun s hs hmethod => ?_⟩
    exact (hspelled hparse hs).mp (hnew s hs hmethod)
  · rintro ⟨hhandler, template, hparse, hnew⟩
    obtain ⟨handler, hhandler⟩ := Option.isSome_iff_exists.mp hhandler
    refine ⟨_, register_eq_ok_iff.mpr ⟨⟨route, handler, template⟩, rfl, hhandler, hparse, ?_, rfl⟩⟩
    exact fun s hs hmethod => (hspelled hparse hs).mpr (hnew s hs hmethod)

/-! ### Finding routes -/

/-- A further route is taken into account last. -/
theorem find?_concat (m : Mux σ) (r : Registered σ) (method path : Text) :
    find? { m with routes := m.routes ++ [r] } method path =
      consider method path (m.find? method path) r := by
  simp [find?]

/-- One more route changes nothing where it does not match. Where it matches, it is found if nothing
was found before, or something less specific. -/
theorem find?_concat_local (m : Mux σ) (r : Registered σ) (method path : Text) :
    (¬ r.Matches method path →
      find? { m with routes := m.routes ++ [r] } method path = m.find? method path) ∧
    ∀ values, r.method = method → r.template.matchPath? path = some values →
      (m.find? method path = none →
        find? { m with routes := m.routes ++ [r] } method path = some (r, values)) ∧
      ∀ best held, m.find? method path = some (best, held) →
        find? { m with routes := m.routes ++ [r] } method path =
          if r.template.moreSpecific best.template then some (r, values)
          else some (best, held) := by
  rw [find?_concat]
  constructor
  · intro hno
    rw [consider_of_not_matches hno]
  · intro values hmethod hvalues
    rw [consider_of_matchPath? hmethod hvalues]
    constructor
    · intro hnone
      rw [hnone]
      rfl
    · intro best held hbest
      rw [hbest]
      rfl

/-- **The table of routes.** After every sequence of attempts the table lists the accepted routes in
order. No two of them have the same method and the same template, however it is spelled; a route is
accepted exactly if it has a handler and a template that no route of its method has, and otherwise
the table stays as it is. One more route changes nothing for the methods and paths that it does not
serve. For the others it is found if no route was found before, or if it is more specific than the
one that was. -/
theorem register_local (start : Mux σ) (calls : List (Route σ)) :
    let past := History.trace attempt { start with routes := [] } calls
    let m := History.final attempt { start with routes := [] } calls
    m.routes.map (·.route) = past.filterMap accepted? ∧
    (m.routes.Pairwise fun r s => r.method = s.method →
      r.template.text ≠ s.template.text ∧ r.template ≠ s.template) ∧
    (∀ r ∈ m.routes, Template.parse r.route.endpoint.path = .ok r.template ∧
      Template.parse r.template.text = .ok r.template) ∧
    ∀ route : Route σ,
      ((m.attempt route).1 = .ok () ↔ route.handler?.isSome ∧
        ∃ template, Template.parse route.endpoint.path = .ok template ∧
          ∀ s ∈ m.routes, s.method = route.endpoint.method → s.template ≠ template) ∧
      (∀ fault, (m.attempt route).1 = .error fault → (m.attempt route).2 = m) ∧
      ((m.attempt route).1 = .ok () → ∃ r : Registered σ,
        (m.attempt route).2.routes = m.routes ++ [r] ∧ r.route = route ∧
        Template.parse route.endpoint.path = .ok r.template ∧
        ∀ method path,
          (¬ r.Matches method path →
            (m.attempt route).2.find? method path = m.find? method path) ∧
          ∀ values, r.method = method → r.template.matchPath? path = some values →
            (m.find? method path = none →
              (m.attempt route).2.find? method path = some (r, values)) ∧
            ∀ best held, m.find? method path = some (best, held) →
              (m.attempt route).2.find? method path =
                if r.template.moreSpecific best.template then some (r, values)
                else some (best, held)) := by
  intro past m
  have htable : Table past m := Table.final start calls
  refine ⟨htable.listed, ?_, ?_, fun route => ⟨htable.attempt_eq_ok_iff, ?_, ?_⟩⟩
  · refine htable.apart.imp fun {r s} hrs hmethod => ⟨hrs hmethod, ?_⟩
    exact fun heq => hrs hmethod (congrArg Template.text heq)
  · intro r hr
    have hparse := htable.parsed r hr
    exact ⟨hparse, Template.parse_text hparse⟩
  · intro fault hfault
    rcases m.attempt_cases route with ⟨r, -, -, -, hadded⟩ | ⟨fault', hrefused⟩
    · rw [hadded] at hfault
      cases hfault
    · rw [hrefused]
  · intro hok
    rcases m.attempt_cases route with ⟨r, hroute, hparse, -, hadded⟩ | ⟨fault, hrefused⟩
    · rw [hadded]
      exact ⟨r, rfl, hroute, hparse, fun method path => m.find?_concat_local r method path⟩
    · rw [hrefused] at hok
      cases hok

/-- A route that reads books. -/
def reading (name path : Text) : Route Unit where
  endpoint := ⟨"Library", name, "GET", path⟩
  handler? := some fun _ _ => pure none

/-- Two routes for a book, whose paths spell the same template. -/
def bookRoutes : List (Route Unit) :=
  [reading "read" "/books/\x7bid\x7d", reading "readAgain" "/books/\x7bid\x7d/"]

/-- The second spelling of a template is refused. The route for the new books is accepted, and is
found where the route for any book was found before. -/
theorem register_local_newBooks :
    (History.final attempt {} bookRoutes).routes.map (·.route.endpoint.name) =
        [("read" : Text)] ∧
      ((History.final attempt {} bookRoutes).attempt (reading "readNew" "/books/new")).1 =
        .ok () ∧
      ∃ r values,
        ((History.final attempt {} bookRoutes).attempt (reading "readNew" "/books/new")).2.find?
          "GET" "/books/new" = some (r, values) ∧ r.route.endpoint.name = "readNew" := by
  obtain ⟨-, -, -, hroutes⟩ := register_local {} bookRoutes
  obtain ⟨haccepted, -, hfinds⟩ := hroutes (reading "readNew" "/books/new")
  have hparse : Template.parse "/books/new" = .ok newBooks := rfl
  have hok := haccepted.mpr ⟨rfl, newBooks, hparse, by decide +kernel⟩
  obtain ⟨r, -, hroute, hread, hfind⟩ := hfinds hok
  have hnew : r.template = newBooks := Except.ok.inj (hread.symm.trans hparse)
  have hvalues : r.template.matchPath? "/books/new" = some [] := by
    rw [hnew]
    decide +kernel
  have hmap : ((History.final attempt ({} : Mux Unit) bookRoutes).find? "GET" "/books/new").map
      (·.1.template) = some anyBook := by
    decide +kernel
  obtain ⟨⟨best, held⟩, hbest, htemplate⟩ := Option.map_eq_some_iff.mp hmap
  have hfound := ((hfind "GET" "/books/new").2 [] (by rw [Registered.method, hroute]; rfl)
    hvalues).2 best held hbest
  rw [hnew, htemplate, if_pos (by decide +kernel)] at hfound
  exact ⟨by decide +kernel, hok, r, [], hfound, by rw [hroute]; rfl⟩

end Mux

end Accord
