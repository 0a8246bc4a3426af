/-
# Percent escapes

A byte that may not stand for itself in a part of an address is written as a percent
sign and two hexadecimal digits. Path segments and query components differ in the
bytes they keep, and a query writes a space as a plus sign.

## Main definitions

* `Percent.escapeSegment`, `Percent.escapeQuery`: the escaped forms;
* `Percent.unescape?`: the bytes behind escapes.
-/

import Accord.Text.Basic

namespace Accord.Percent

/-- A byte that stands for itself everywhere. -/
def isUnreserved (b : UInt8) : Bool :=
  Text.isLetterByte b || Text.isDigitByte b ||
    [Text.byte '-', Text.byte '_', Text.byte '.', Text.byte '~'].contains b

/-- A byte that stands for itself in a path segment. -/
def isSegmentByte (b : UInt8) : Bool :=
  isUnreserved b ||
    [Text.byte '$', Text.byte '&', Text.byte '+', Text.byte ':', Text.byte '=',
      Text.byte '@'].contains b

/-- The escape of a byte. -/
def escapeByte (b : UInt8) : Text :=
  [Text.byte '%', Text.hexDigitUpper (b.toNat / 16), Text.hexDigitUpper (b.toNat % 16)]

/-- A path segment. -/
def escapeSegment (t : Text) : Text :=
  t.flatMap fun b => if isSegmentByte b then [b] else escapeByte b

/-- A query component. -/
def escapeQuery (t : Text) : Text :=
  t.flatMap fun b =>
    if isUnreserved b then [b]
    else if b = Text.byte ' ' then [Text.byte '+']
    else escapeByte b

/-- The bytes behind escapes; a percent sign without two digits is an error. -/
def unescape? : Text → Option Text
  | [] => some []
  | b :: rest =>
    if b = Text.byte '%' then
      match rest with
      | h :: l :: rest => do
        let h ← Text.hexValue? h
        let l ← Text.hexValue? l
        let more ← unescape? rest
        return (h * 16 + l).toUInt8 :: more
      | _ => none
    else (unescape? rest).map (b :: ·)

end Accord.Percent
