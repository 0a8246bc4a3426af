/-
# Packages of generated code

Contract packages are dotted names; generated packages are directories below one
module prefix. A prefix of the dotted name can be dropped, and everything can be put
into the one package at the module prefix.

## Main definitions

* `PackageLayout`: how contract packages map to generated ones;
* `Package`: a generated package;
* `PackageLayout.package`: the generated package of a contract package.
-/

import Accord.Path.Clean
import Accord.Source.Identifier

namespace Accord.Source

/-- A generated package: its import path, its directory below the output and its name. -/
structure Package where
  path : Text
  dir : Text
  name : Text
  deriving DecidableEq, Repr, Inhabited

/-- How contract packages map to generated ones. -/
structure PackageLayout where
  modulePrefix : Text
  stripPrefix : Text := []
  single : Bool := false
  deriving DecidableEq, Repr, Inhabited

/-- A dotted name without a leading part of it. The whole name leaves its last part. -/
def strip (leading package : Text) : Text :=
  let dot := Text.byte '.'
  let rest : Text :=
    if !leading.isEmpty && (package = leading || package.startsWith (leading ++ ".")) then
      let tail := package.drop leading.length
      (Text.dropStart? "." tail).getD tail
    else package
  if rest.isEmpty then ((Text.cutLast? dot package).map (·.2)).getD package else rest

/-- The directory of a contract package. -/
def packageDir (leading package : Text) : Text :=
  Text.join "/" ((Text.split (Text.byte '.') (strip leading package)).map packageName)

/-- The generated package of a contract package. -/
def PackageLayout.package (l : PackageLayout) (package : Text) : Package :=
  if l.single then ⟨l.modulePrefix, [], packageName (Path.base l.modulePrefix)⟩
  else
    let dir := packageDir l.stripPrefix package
    ⟨Path.join [l.modulePrefix, dir], dir, packageName (Path.base dir)⟩

end Accord.Source
