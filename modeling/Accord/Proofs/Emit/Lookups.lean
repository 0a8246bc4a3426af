/-
# What generated code depends on

A resolver asks its contract for the definition of a name and for the number of types, and never
looks at the contract in another way. This module puts another contract into a resolver and shows
that every answer, and with it every declaration that is emitted, stays the same where the same
definitions are found.

## Main definitions

* `Resolver.asking`: a resolver that asks another contract.

## Main results

* `Resolver.goType_asking`, `Resolver.warnings_asking`: the types and warnings of a resolver;
* `Generate.file_asking`: the file of a name.
-/

import Accord.Generate
import Accord.Proofs.Contract.Reordering

namespace Accord

namespace Resolver

/-- A resolver that asks another contract. -/
def asking (r : Resolver) (c : Contract) : Resolver := { r with contract := c }

variable {r : Resolver} {c : Contract}

@[simp]
theorem contract_asking : (r.asking c).contract = c := rfl

@[simp]
theorem target_asking : (r.asking c).target = r.target := rfl

@[simp]
theorem names_asking : (r.asking c).names = r.names := rfl

/-! ### Questions to a resolver -/

theorem aliasTarget?_asking (h : r.contract.Alike c) :
    (r.asking c).aliasTarget? = r.aliasTarget? := by
  funext n
  simp only [aliasTarget?, contract_asking, h.definition?]

theorem isEnum_asking (h : r.contract.Alike c) : (r.asking c).isEnum = r.isEnum := by
  funext n
  simp only [isEnum, contract_asking, h.definition?]

theorem unwrap_asking : (r.asking c).unwrap = r.unwrap := by
  funext t
  induction t with
  | externalOr n fallback ih =>
    simp only [unwrap, ih]
    rfl
  | _ => rfl

theorem chaseFrom_asking (h : r.contract.Alike c) :
    (r.asking c).chaseFrom = r.chaseFrom := by
  funext fuel t
  induction fuel generalizing t with
  | zero => simp only [chaseFrom, unwrap_asking]
  | succ fuel ih => simp only [chaseFrom, unwrap_asking, aliasTarget?_asking h, ih]

theorem chase_asking (h : r.contract.Alike c) : (r.asking c).chase = r.chase := by
  funext t
  rw [chase, chaseFrom_asking h, contract_asking, h.length, chase]

theorem chaseAliases_asking (h : r.contract.Alike c) :
    (r.asking c).chaseAliases = r.chaseAliases := by
  funext fuel t
  induction fuel generalizing t with
  | zero => simp only [chaseAliases]
  | succ fuel ih => cases t <;> simp only [chaseAliases, aliasTarget?_asking h, ih]

theorem requiredBy_asking (h : r.contract.Alike c) : (r.asking c).requiredBy = r.requiredBy := by
  funext next t
  induction t with
  | reference n => simp only [requiredBy, aliasTarget?_asking h]
  | externalOr x fallback ih =>
    simp only [requiredBy, ih]
    rfl
  | _ => rfl

theorem isRequired_asking (h : r.contract.Alike c) : (r.asking c).isRequired = r.isRequired := by
  have hfrom (fuel : Nat) : (r.asking c).requiredFrom fuel = r.requiredFrom fuel := by
    induction fuel with
    | zero => simp only [requiredFrom, requiredBy_asking h]
    | succ fuel ih => simp only [requiredFrom, requiredBy_asking h, ih]
  funext t
  simp only [isRequired, hfrom, contract_asking, h.length]

theorem emptinessBy_asking (h : r.contract.Alike c) :
    (r.asking c).emptinessBy = r.emptinessBy := by
  funext next t
  induction t with
  | reference n => simp only [emptinessBy, aliasTarget?_asking h]
  | externalOr x fallback ih =>
    simp only [emptinessBy, ih]
    rfl
  | _ => rfl

theorem emptiness_asking (h : r.contract.Alike c) : (r.asking c).emptiness = r.emptiness := by
  have hfrom (fuel : Nat) : (r.asking c).emptinessFrom fuel = r.emptinessFrom fuel := by
    induction fuel with
    | zero => simp only [emptinessFrom, emptinessBy_asking h]
    | succ fuel ih => simp only [emptinessFrom, emptinessBy_asking h, ih]
  funext t
  simp only [emptiness, hfrom, contract_asking, h.length]

theorem isPlain_asking (h : r.contract.Alike c) : (r.asking c).isPlain = r.isPlain := by
  funext t
  simp only [isPlain, chase_asking h, isEnum_asking h]

theorem isKey_asking (h : r.contract.Alike c) : (r.asking c).isKey = r.isKey := by
  funext t
  simp only [isKey, chase_asking h, isEnum_asking h]

theorem isString_asking (h : r.contract.Alike c) : (r.asking c).isString = r.isString := by
  funext t
  simp only [isString, chaseAliases_asking h, contract_asking, h.length]

theorem isBinary_asking (h : r.contract.Alike c) : (r.asking c).isBinary = r.isBinary := by
  funext t
  simp only [isBinary, chaseAliases_asking h, contract_asking, h.length]

theorem boxed_asking : (r.asking c).boxed = r.boxed := rfl

theorem reference_asking (h : r.contract.Alike c) : (r.asking c).reference = r.reference := by
  funext n
  simp only [reference, contract_asking, h.definition?, target_asking, names_asking]

theorem goType_asking (h : r.contract.Alike c) : (r.asking c).goType = r.goType := by
  funext t
  induction t with
  | primitive p => rfl
  | optional item ih => simp only [goType, ih]
  | list item ih => simp only [goType, ih]
  | set item ih => simp only [goType, ih]
  | map key value ihk ihv =>
    simp only [goType, isKey_asking h, ihk, ihv]
    rfl
  | reference n => simp only [goType, reference_asking h]
  | external n => rfl
  | externalOr n fallback ih =>
    simp only [goType, ih]
    rfl

theorem warnings_asking (h : r.contract.Alike c) : (r.asking c).warnings = r.warnings := by
  funext t
  induction t with
  | optional item ih => simp only [warnings, ih]
  | list item ih => simp only [warnings, ih]
  | set item ih => simp only [warnings, ih]
  | map key value ihk ihv => simp only [warnings, isKey_asking h, goType_asking h, ihk, ihv]
  | externalOr n fallback ih =>
    simp only [warnings, ih]
    rfl
  | _ => rfl

theorem fieldType_asking (h : r.contract.Alike c) : (r.asking c).fieldType = r.fieldType := by
  funext owner t
  simp only [fieldType, goType_asking h]
  rfl

theorem ifPresent_asking (h : r.contract.Alike c) : (r.asking c).ifPresent = r.ifPresent := by
  funext t e s
  simp only [ifPresent, notEmpty?, emptiness_asking h]

theorem aliasCycle?_asking (h : r.contract.Alike c) :
    (r.asking c).aliasCycle? = r.aliasCycle? := by
  simp only [aliasCycle?, aliasTarget?_asking h]
  rfl

end Resolver

/-! ### Declarations -/

namespace Emit

open Resolver

variable {r : Resolver} {c : Contract}

theorem resolve_asking (h : r.contract.Alike c) : resolve (r.asking c) = resolve r := by
  funext t
  simp only [resolve, note, warnings_asking h, goType_asking h]

theorem resolveField_asking (h : r.contract.Alike c) :
    resolveField (r.asking c) = resolveField r := by
  funext owner t
  simp only [resolveField, note, warnings_asking h, fieldType_asking h]

theorem planFields_asking (h : r.contract.Alike c) : planFields (r.asking c) = planFields r := by
  have hfield : planField (r.asking c) = planField r := by
    funext owner members f
    simp only [planField, resolveField_asking h, resolve_asking h, isRequired_asking h,
      boxed_asking]
  funext owner members fields
  induction fields generalizing members with
  | nil => rfl
  | cons f rest ih => simp only [planFields, hfield, ih]

theorem object_asking (h : r.contract.Alike c) : object (r.asking c) = object r := by
  funext owner name fields docs seed
  simp only [object, planFields_asking h, objectMarshal, ifPresent_asking h]
  -- What is left depends on the target alone, here and for the other declarations.
  rfl

theorem enum_asking : enum (r.asking c) = enum r := rfl

theorem union_asking (h : r.contract.Alike c) : union (r.asking c) = union r := by
  have hvariants : planVariants (r.asking c) = planVariants r := by
    funext owner name scopes variants
    induction variants generalizing scopes with
    | nil => rfl
    | cons v rest ih => simp only [planVariants, planVariant, resolve_asking h, target_asking, ih]
  funext owner name variants docs
  simp only [union, hvariants]
  rfl

theorem aliasType_asking (h : r.contract.Alike c) : aliasType (r.asking c) = aliasType r := by
  funext name target docs
  simp only [aliasType, resolve_asking h, defined, isPlain_asking h, plainMethods,
    isString_asking h]
  rfl

theorem error_asking (h : r.contract.Alike c) : error (r.asking c) = error r := by
  funext e name
  simp only [error, object_asking h, errorParameters, ifPresent_asking h]
  rfl

theorem planEndpoints_asking (h : r.contract.Alike c) :
    planEndpoints (r.asking c) = planEndpoints r := by
  have hfits : fitsPlace (r.asking c) = fitsPlace r := by
    funext a
    simp only [fitsPlace, isPlain_asking h]
  have hargs : planArgs (r.asking c) = planArgs r := by
    funext locals queryFields args
    induction args generalizing locals queryFields with
    | nil => rfl
    | cons a rest ih => simp only [planArgs, resolve_asking h, hfits, ih]
  funext service name methods endpoints
  induction endpoints generalizing methods with
  | nil => rfl
  | cons e rest ih =>
    simp only [planEndpoints, planEndpoint, hargs, resolve_asking h, isBinary_asking h,
      target_asking, ih]

theorem service_asking (h : r.contract.Alike c) : service (r.asking c) = service r := by
  have hsend : sendArg (r.asking c) = sendArg r := by
    funext failure a
    simp only [sendArg, isBinary_asking h]
  have hreceive : receiveArg (r.asking c) = receiveArg r := by
    funext a
    simp only [receiveArg, isBinary_asking h, isRequired_asking h]
  have hclient : clientMethod (r.asking c) = clientMethod r := by
    funext impl e
    simp only [clientMethod, hsend]
    rfl
  have hregistration : registration (r.asking c) = registration r := by
    funext name e
    simp only [registration, handler, hreceive]
    rfl
  have hquery : queryStruct? (r.asking c) = queryStruct? r := by
    funext e
    simp only [queryStruct?, queryTag, isRequired_asking h]
  funext s name
  simp only [service, planEndpoints_asking h, hclient, hregistration, hquery]
  rfl

end Emit

/-! ### Files -/

namespace Generate

open Emit

variable {r : Resolver} {c : Contract}

theorem items_asking (h : r.contract.Alike c) : items (r.asking c) = items r := by
  funext n ident
  simp only [items, Resolver.contract_asking, h.definition?, h.errorDef?, h.serviceDef?,
    object_asking h, enum_asking, union_asking h, aliasType_asking h, error_asking h,
    service_asking h]

/-- The file of a name depends on the definitions that are found, not on the contract. -/
theorem file_asking (h : r.contract.Alike c) : file (r.asking c) = file r := by
  funext taken n
  simp only [file, items_asking h]
  rfl

theorem filesFrom_asking {σ : Type} (h : r.contract.Alike c)
    {receive : σ → GeneratedFile → Except Fault σ} {done : σ × List GeneratedFile}
    {names : List TypeName} :
    filesFrom (r.asking c) receive done names = filesFrom r receive done names := by
  induction names generalizing done with
  | nil => rfl
  | cons n rest ih => simp only [filesFrom, file_asking h, ih]

end Generate

end Accord
