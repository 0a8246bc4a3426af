/-
# Bearer tokens

A token is a credential: its text goes into a request and nowhere else, so the form
that is shown hides it.

## Main definitions

* `BearerToken`: a token, valid if it keeps to the token alphabet;
* `BearerToken.shown`: what a log or a message may show.
-/

import Accord.Text.Basic

namespace Accord

/-- A bearer token. -/
structure BearerToken where
  value : Text
  deriving DecidableEq, Repr, Inhabited

namespace BearerToken

/-- A byte of a token before its padding. -/
def isTokenByte (b : UInt8) : Bool :=
  Text.isLetterByte b || Text.isDigitByte b ||
    [Text.byte '-', Text.byte '.', Text.byte '_', Text.byte '~', Text.byte '+',
      Text.byte '/'].contains b

/-- Whether a text is a token: one token byte or more, then equal signs. -/
def isToken (t : Text) : Bool :=
  !(t.takeWhile isTokenByte).isEmpty && (t.dropWhile isTokenByte).all (· = Text.byte '=')

/-- Whether a token keeps to the alphabet. -/
def valid (t : BearerToken) : Bool := isToken t.value

/-- A text that is no token. -/
inductive Error where
  | invalid
  deriving DecidableEq, Repr

/-- The message of an error, which does not show the token. -/
def Error.message : Error → Text
  | invalid => "invalid bearer token"

/-- What may be shown of a token. -/
def shown (_ : BearerToken) : Text := "\x7bREDACTED\x7d"

/-- The text of a valid token. -/
def text? (t : BearerToken) : Except Error Text :=
  if t.valid then .ok t.value else .error .invalid

/-- Reads a token. -/
def ofText (t : Text) : Except Error BearerToken :=
  if isToken t then .ok ⟨t⟩ else .error .invalid

end BearerToken

end Accord
