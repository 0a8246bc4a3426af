/-
# What is read and what is refused

A document is read as a whole or not at all. Wherever in it a fault lies, the mark that was set
there is still found when every enclosing part has put its own text in front, and the contract that
was held stays as it was. What is read keeps the rules that the checks of a contract take for
granted: what has to have a name has one, and codes and methods are known ones.

## Main definitions

* `EndpointDef.Proper`, `ErrorDef.Proper`, `Contract.Proper`: the rules that every contract keeps
  that was read.

## Main results

* `ReadError.has_parse_fault`: no context hides the mark of an unreadable document;
* `TypeExpr.yields_decode`: the names in a type, at any depth;
* `Contract.yields_ofText`: the rules for a whole document;
* `Contract.read_or_marked`: what comes of reading any text into any contract.
-/

import Accord.Contract.Reader
import Accord.Proofs.Contract.Encoding
import Accord.Proofs.Outcome

namespace Accord

/-! ### Marks -/

theorem Fault.has_context (context : Text) (cause : Fault) (m : Mark) :
    (Fault.context context cause).has m = cause.has m := rfl

/-- The mark of an unreadable document is found behind all contexts. -/
theorem ReadError.has_parse_fault (e : ReadError) : e.fault.has .parse = true := by
  induction e with
  | within context cause ih => rw [fault, Fault.has_context, ih]
  | _ => rfl

/-! ### Rules that are kept -/

/-- A cookie has a name. -/
def Auth.Named : Auth → Prop
  | .cookie name => name ≠ []
  | _ => True

/-- The key of a query argument and the name of a header are not empty. -/
def ParamKind.Named : ParamKind → Prop
  | .query id => id ≠ []
  | .header id => id ≠ []
  | _ => True

/-- An argument of which all parts have names. -/
structure ArgDef.Named (a : ArgDef) : Prop where
  type : a.type.Named
  kind : a.kind.Named
  markers : ∀ t ∈ a.markers, t.Named

/-- An endpoint with a known method, of which all parts have names. -/
structure EndpointDef.Proper (e : EndpointDef) : Prop where
  method : e.method ∈ EndpointDef.methods
  auth : e.auth.Named
  args : ∀ a ∈ e.args, a.Named
  returns : ∀ t ∈ e.returns, t.Named
  markers : ∀ t ∈ e.markers, t.Named

/-- An error with a known code, of which all arguments have names. -/
structure ErrorDef.Proper (e : ErrorDef) : Prop where
  code : e.code ∈ ErrorDef.codes
  args : ∀ f ∈ e.args, f.Named

/-- A contract of which all parts are proper. Its primitive types are known ones by their type. -/
structure Contract.Proper (c : Contract) : Prop where
  types : ∀ d ∈ c.types, d.Named
  errors : ∀ e ∈ c.errors, e.Proper
  services : ∀ s ∈ c.services, ∀ e ∈ s.endpoints, e.Proper

/-! ### Types -/

open Outcome (Yields)

namespace TypeExpr

/-- Every name in a type that was decoded is given, at any depth. -/
theorem yields_decode (fuel : Nat) (source : Text) (j : Json) :
    Yields (decode fuel source j) Named := by
  -- On the fuel, which the decoder spends one unit of per level.
  induction fuel generalizing source j with
  | zero => exact .error _
  | succ fuel ih =>
    rw [decode]
    split
    · exact .error _
    dsimp only
    split
    · split
      · exact .ok trivial
      · exact .error _
    -- Each container wraps an item type, which has to be there.
    iterate 3
      split
      · split
        · exact .error _
        · refine .map (.mapError ?_ _)
          split
          · exact .error _
          · exact .error _
          · exact ih _ _
    split
    · split
      · exact .error _
      · refine .bind (P := Named) (.mapError ?_ _) fun _ hkey =>
          .bind (P := Named) (.mapError ?_ _) fun _ hvalue => .ok ⟨hkey, hvalue⟩
        all_goals
          split
          · exact .error _
          · exact .error _
          · exact ih _ _
    split
    · split
      · split
        · exact .error _
        · next hname => exact .ok (by simpa [Named] using hname)
      · exact .error _
    split
    · split
      · exact .error _
      · split
        · exact .error _
        · next hname =>
          rw [List.isEmpty_iff] at hname
          split
          · exact .ok hname
          · exact .ok hname
          · exact .bind (.mapError (ih _ _) _) fun _ hfallback => .ok ⟨hname, hfallback⟩
    · exact .error _

theorem yields_ofJson? (j : Option Json) : Yields (ofJson? j) Named := by
  unfold ofJson?
  split
  · exact .error _
  · exact .error _
  · exact yields_decode _ _ _

end TypeExpr

/-! ### Definitions -/

theorem FieldDef.yields_ofRecord (r : Json.Record) :
    Yields (FieldDef.ofRecord r) FieldDef.Named := by
  unfold FieldDef.ofRecord
  dsimp only
  split
  · exact .error _
  · next hname =>
    rw [List.isEmpty_iff] at hname
    exact .bind (.mapError (TypeExpr.yields_ofJson? _) _) fun _ htype =>
      .bind (.trivial _) fun _ _ => .ok ⟨hname, htype⟩

theorem FieldDef.yields_ofItems (items : List Json) :
    Yields (FieldDef.ofItems items) fun fields => ∀ f ∈ fields, f.Named :=
  .mapM (fun _ => FieldDef.yields_ofRecord _) items

theorem EnumValue.yields_ofRecord (enum : TypeName) (r : Json.Record) :
    Yields (EnumValue.ofRecord enum r) fun v => v.value ≠ [] := by
  unfold EnumValue.ofRecord
  split
  · exact .error _
  · next hvalue => exact .ok (by simpa using hvalue)

theorem Definition.yields_ofJson (j : Json) : Yields (Definition.ofJson j) Definition.Named := by
  unfold Definition.ofJson
  split
  · exact .error _
  dsimp only
  iterate 2
    split
    · exact .bind (.trivial _) fun _ _ =>
        .bind (.mapError (FieldDef.yields_ofItems _) _) fun _ hfields => .ok hfields
  split
  · exact .bind (.trivial _) fun _ _ =>
      .bind (.mapM (fun _ => EnumValue.yields_ofRecord _ _) _) fun _ hvalues => .ok hvalues
  split
  · exact .bind (.trivial _) fun _ _ =>
      .bind (.mapError (TypeExpr.yields_ofJson? _) _) fun _ htarget =>
        .bind (.trivial _) fun _ _ => .ok htarget
  · exact .error _

theorem ErrorDef.yields_ofRecord (r : Json.Record) :
    Yields (ErrorDef.ofRecord r) ErrorDef.Proper := by
  unfold ErrorDef.ofRecord
  dsimp only
  split
  · exact .error _
  · next hcode =>
    refine .bind (.mapError (FieldDef.yields_ofItems _) _) fun _ hsafe =>
      .bind (.mapError (FieldDef.yields_ofItems _) _) fun _ hother => .ok ⟨?_, ?_⟩
    · simpa using hcode
    · exact List.forall_mem_append.mpr ⟨hsafe, hother⟩

/-! ### Services -/

theorem Auth.yields_ofRecord? (r : Option Json.Record) : Yields (Auth.ofRecord? r) Auth.Named := by
  unfold Auth.ofRecord?
  split
  · exact .ok trivial
  dsimp only
  split
  · exact .ok trivial
  split
  · split
    · exact .error _
    · next hname => exact .ok (by simpa [Auth.Named] using hname)
  · exact .error _

theorem ParamKind.yields_ofRecord (r : Json.Record) :
    Yields (ParamKind.ofRecord r) ParamKind.Named := by
  unfold ParamKind.ofRecord
  dsimp only
  split
  · exact .ok trivial
  split
  · exact .ok trivial
  iterate 2
    split
    · split
      · exact .error _
      · next hid => exact .ok (by simpa [ParamKind.Named] using hid)
  · exact .error _

theorem yields_readMarkers (items : List Json) :
    Yields (readMarkers items) fun markers => ∀ t ∈ markers, t.Named :=
  .mapM (fun _ => .mapError (TypeExpr.yields_ofJson? _) _) items

theorem ArgDef.yields_ofRecord (r : Json.Record) : Yields (ArgDef.ofRecord r) ArgDef.Named := by
  unfold ArgDef.ofRecord
  exact .mapError (.bind (TypeExpr.yields_ofJson? _) fun _ htype =>
    .bind (ParamKind.yields_ofRecord _) fun _ hkind =>
      .bind (yields_readMarkers _) fun _ hmarkers =>
        .bind (.trivial _) fun _ _ => .ok ⟨htype, hkind, hmarkers⟩) _

theorem EndpointDef.yields_ofRecord (r : Json.Record) :
    Yields (EndpointDef.ofRecord r) EndpointDef.Proper := by
  unfold EndpointDef.ofRecord
  dsimp only
  split
  · exact .error _
  · next hmethod =>
    refine .bind (Auth.yields_ofRecord? _) fun _ hauth => ?_
    -- What follows is the same whether there is a type that is returned or not.
    split
    all_goals
      refine .bind (P := fun returns : Option TypeExpr => ∀ t ∈ returns, t.Named) ?_
        fun _ hreturns =>
        .bind (yields_readMarkers _) fun _ hmarkers =>
          .bind (.mapM (fun _ => ArgDef.yields_ofRecord _) _) fun _ hargs =>
            .ok ⟨by simpa using hmethod, hauth, hargs, hreturns, hmarkers⟩
    · exact .ok (by simp)
    · exact .ok (by simp)
    · refine .map (.mapError ?_ _)
      intro t ht u hu
      obtain rfl := Option.some.inj hu
      exact TypeExpr.yields_ofJson? _ t ht

theorem ServiceDef.yields_ofRecord (r : Json.Record) :
    Yields (ServiceDef.ofRecord r) fun s => ∀ e ∈ s.endpoints, e.Proper :=
  .bind (.mapM (fun _ => .mapError (EndpointDef.yields_ofRecord _) _) _)
    fun _ hendpoints => .ok hendpoints

/-! ### Documents -/

namespace Contract

theorem yields_ofJson (j : Json) : Yields (ofJson j) Proper := by
  unfold ofJson
  split
  · exact .error _
  dsimp only
  exact .bind (.mapM Definition.yields_ofJson _) fun _ htypes =>
    .bind (.mapM (fun _ => ErrorDef.yields_ofRecord _) _) fun _ herrors =>
      .bind (.mapM (fun _ => ServiceDef.yields_ofRecord _) _) fun _ hservices =>
        .ok ⟨htypes, herrors, hservices⟩

theorem yields_ofText (t : Text) : Yields (ofText t) Proper := by
  unfold ofText
  split
  · exact .error _
  · exact yields_ofJson _

variable {t : Text} {c : Contract} {e : ReadError}

theorem receive_of_ok (h : ofText t = .ok c) (held : Contract) :
    (receive t).run.run held = (.ok (), c) := by
  rw [receive, h]
  rfl

theorem receive_of_error (h : ofText t = .error e) (held : Contract) :
    (receive t).run.run held = (.error e.fault, held) := by
  rw [receive, h]
  rfl

/-- Any text is read into any contract as a whole, and what is read keeps the rules, or it is
refused with a fault that is marked as one of an unreadable document, and the contract that was
held is unchanged. A document that is read on its own comes out the same way. -/
theorem read_or_marked (t : Text) (held : Contract) :
    (∃ c, parse t = .ok c ∧ (receive t).run.run held = (.ok (), c) ∧ c.Proper) ∨
      ∃ f, parse t = .error f ∧ (receive t).run.run held = (.error f, held) ∧
        f.has .parse = true := by
  cases h : ofText t with
  | ok c =>
    refine .inl ⟨c, ?_, receive_of_ok h held, yields_ofText t c h⟩
    rw [parse, receive_of_ok h]
  | error e =>
    refine .inr ⟨e.fault, ?_, receive_of_error h held, e.has_parse_fault⟩
    rw [parse, receive_of_error h]

end Contract

end Accord
