/-
# Loading contracts

A contract is loaded from a file, unless the file is larger than what was agreed on.

## Main definitions

* `Stored`: what is found at a path;
* `Contract.load`: the contract at a path.
-/

import Accord.Contract.Reader

namespace Accord

/-- What is found at a path. -/
inductive Stored where
  | missing
  | directory
  | file (content : Text)
  deriving DecidableEq, Repr

/-- The contract at a path. A positive limit bounds the size of its file. -/
def Contract.load (path : Text) (limit : Int) : Stored → Except Fault Contract
  | .missing => .error (.context "stat conjure definition" (.foreign .file))
  | .directory => .error (.plain (path ++ " is a directory"))
  | .file content =>
    if 0 < limit && limit < content.length then
      .error (.hinted "raise max_idl_size in the generator config" (.plain
        (path ++ " is " ++ Text.ofNat content.length ++
          " bytes, larger than the configured maximum of " ++ Text.ofInt limit)))
    else (Contract.parse content).mapError (.context ("parse " ++ path))

end Accord
