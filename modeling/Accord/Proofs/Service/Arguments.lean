/-
# Arguments as they arrive

A handler reads its arguments from what a client has put into a request. A token
comes back from the header for credentials and from a cookie, whose value has no byte
that would be dropped, quoted or taken for the end of the cookie.

## Main definitions

* `Cookie.isPlainByte`: a byte that stands for itself in the value of a cookie.

## Main results

* `Cookie.ofLine?_text`: a cookie with a plain value is read back;
* `Incoming.bearerToken_eq`, `Incoming.cookieToken_eq`: the token of a call;
* `Form.field_eq`, `Form.required_eq`: a field that one key names;
* `Incoming.requiredBody_eq`: the body of a call.
-/

import Accord.Proofs.Outcome
import Accord.Proofs.Text.Pieces
import Accord.Proofs.Text.Utf8
import Accord.Service.Incoming

namespace Accord.Text

variable {t : Text}

/-- A text without bytes of a class is left alone. -/
theorem trimWhile_of_forall {p : UInt8 → Bool} (h : ∀ b ∈ t, p b = false) :
    trimWhile p t = t := by
  have drop : ∀ s : Text, (∀ b ∈ s, p b = false) → s.dropWhile p = s := by
    intro s hs
    cases s with
    | nil => rfl
    | cons b s => rw [List.dropWhile_cons_of_neg (by simp [hs b List.mem_cons_self])]
  have hreverse : ∀ b ∈ t.reverse, p b = false := fun b hb => h b (List.mem_reverse.mp hb)
  rw [trimWhile, dropRightWhile, drop t h, drop t.reverse hreverse, List.reverse_reverse]

end Accord.Text

namespace Accord.Cookie

open Text

variable {c : Cookie}

/-! ### Cookies -/

/-- A byte that stands for itself in the value of a cookie. -/
def isPlainByte (b : UInt8) : Bool := isValueByte b && b != byte ' ' && b != byte ','

/-- The bytes of a name end neither a name nor a cookie. -/
theorem isNameByte_spec : ∀ b, Header.isNameByte b = true →
    isBlank b = false ∧ b ≠ byte ';' ∧ b ≠ byte '=' :=
  forall_byte (by decide +kernel)

/-- The plain bytes do not end a cookie, and need no quotes. -/
theorem isPlainByte_spec : ∀ b, isPlainByte b = true →
    isValueByte b = true ∧ (b = byte ' ' || b = byte ',') = false ∧ isBlank b = false ∧
      b ≠ byte ';' ∧ b ≠ byte '"' :=
  forall_byte (by decide +kernel)

theorem sentValue_of_plain {value : Text} (h : ∀ b ∈ value, isPlainByte b = true) :
    sentValue value = value := by
  have hkept : value.filter isValueByte = value :=
    List.filter_eq_self.mpr fun b hb => (isPlainByte_spec b (h b hb)).1
  have hbare : (value.any fun b => b = byte ' ' || b = byte ',') = false :=
    List.any_eq_false.mpr fun b hb => by simpa using (isPlainByte_spec b (h b hb)).2.1
  unfold sentValue
  rw [hkept]
  dsimp only
  rw [hbare]
  rfl

theorem unquoted_of_plain {value : Text} (h : ∀ b ∈ value, isPlainByte b = true) :
    unquoted value = value := by
  have hhead : value.head? ≠ some (byte '"') := fun hhead =>
    (isPlainByte_spec _ (h _ (List.mem_of_mem_head? hhead))).2.2.2.2 rfl
  simp [unquoted, hhead]

/-- A cookie with a proper name and a plain value is read back. -/
theorem ofLine?_text (hname : Header.isName c.name = true)
    (hvalue : ∀ b ∈ c.value, isPlainByte b = true) : ofLine? c.text = some [c] := by
  have hbytes : ∀ b ∈ c.name, Header.isNameByte b = true := by
    simp only [Header.isName, Bool.and_eq_true, List.all_eq_true] at hname
    exact hname.2
  have htext : c.text = c.name ++ byte '=' :: c.value := by
    rw [text, if_pos hname, sentValue_of_plain hvalue, List.append_assoc]
    rfl
  -- No byte of the line ends it or is white space.
  have hline : ∀ b ∈ c.text, isBlank b = false ∧ b ≠ byte ';' := by
    intro b hb
    rw [htext] at hb
    rcases List.mem_append.mp hb with hb | hb
    · exact ⟨(isNameByte_spec b (hbytes b hb)).1, (isNameByte_spec b (hbytes b hb)).2.1⟩
    · rcases List.mem_cons.mp hb with rfl | hb
      · decide
      · obtain ⟨-, -, hblank, hsemicolon, -⟩ := isPlainByte_spec b (hvalue b hb)
        exact ⟨hblank, hsemicolon⟩
  have htrim : trimWhile isBlank c.text = c.text :=
    trimWhile_of_forall fun b hb => (hline b hb).1
  have hsplit : split (byte ';') c.text = [c.text] :=
    split_of_not_mem fun hmem => (hline _ hmem).2 rfl
  have hcut : cut? (byte '=') c.text = some (c.name, c.value) := by
    rw [htext]
    exact cut?_append (fun hmem => (isNameByte_spec _ (hbytes _ hmem)).2.2 rfl) c.value
  have hall : c.value.all isValueByte = true :=
    List.all_eq_true.mpr fun b hb => (isPlainByte_spec b (hvalue b hb)).1
  have hpart : ofPart? c.text = some c := by
    unfold ofPart?
    rw [htrim, hcut, Option.bind_eq_bind, Option.bind_some]
    dsimp only
    rw [unquoted_of_plain hvalue, hname, hall]
    rfl
  rw [ofLine?, htrim, hsplit]
  simp [hpart]

end Accord.Cookie

namespace Accord

/-! ### Tokens -/

namespace BearerToken

variable {token : BearerToken}

theorem ofText_value (h : token.valid = true) : ofText token.value = .ok token := if_pos h

theorem isPlainByte_of_isTokenByte : ∀ b, isTokenByte b = true → Cookie.isPlainByte b = true :=
  Text.forall_byte (by decide +kernel)

/-- A valid token can be the value of a cookie. -/
theorem isPlainByte_of_mem_value (h : token.valid = true) {b : UInt8} (hb : b ∈ token.value) :
    Cookie.isPlainByte b = true := by
  simp only [valid, isToken, Bool.and_eq_true] at h
  rw [← List.takeWhile_append_dropWhile (p := isTokenByte) (l := token.value)] at hb
  rcases List.mem_append.mp hb with hb | hb
  · exact isPlainByte_of_isTokenByte b (List.all_eq_true.mp List.all_takeWhile b hb)
  · have hpadding : b = Text.byte '=' := by simpa using List.all_eq_true.mp h.2 b hb
    rw [hpadding]
    decide

end BearerToken

/-! ### Forms -/

namespace Form

variable {α : Type} {q : Query} {name : Text} {c : Converter α} {a : α}

/-- A field takes its values from the one key that names it. -/
theorem field_eq {entry : Text × List Text}
    (hkey : (q.filter fun entry => Text.sameLetters entry.1 name) = [entry])
    (hvalue : c.convert c.initial entry.2 = .ok a) : field q name c = pure a := by
  have hfield : field q name c =
      (q.filter fun entry => Text.sameLetters entry.1 name).foldlM (take c) c.initial := rfl
  rw [hfield, hkey, List.foldlM_cons, take, hvalue]
  rfl

/-- A field that no key names keeps its initial value. -/
theorem field_eq_initial (hkey : (q.filter fun entry => Text.sameLetters entry.1 name) = []) :
    field q name c = pure c.initial := by
  have hfield : field q name c =
      (q.filter fun entry => Text.sameLetters entry.1 name).foldlM (take c) c.initial := rfl
  rw [hfield, hkey]
  rfl

theorem required_eq (hfield : field q name c = pure a) (hbrings : q.any (brings name c) = true) :
    required q name c = pure a := by
  rw [required, hfield, hbrings]
  rfl

end Form

namespace Converter

variable {α : Type} {initial held a : α} {read : Text → Option α} {t : Text}

/-- A scalar that can be read, from a single value. -/
theorem convert_scalar (ht : t ≠ []) (hread : read t = some a) :
    (scalar initial read).convert held [t] = .ok a := by
  have hcounted : counted [t] = t := rfl
  have hempty : t.isEmpty = false := by simp [ht]
  simp only [scalar, hcounted, hempty, hread]
  rfl

end Converter

namespace Incoming

variable {r : Incoming} {token : BearerToken}

/-- The token that a client sends in the header for credentials. -/
theorem bearerToken_eq (h : token.valid = true)
    (hheader : r.header.get "Authorization" = "Bearer " ++ token.value) :
    r.bearerToken = .ok token := by
  rw [bearerToken, hheader, Text.dropStart?_append]
  dsimp only
  rw [tokenOf, BearerToken.ofText_value h, Outcome.mapError_ok]

/-- The token that a client sends in a cookie. -/
theorem cookieToken_eq (h : token.valid = true) {name : Text} (hname : Header.isName name = true)
    (hheader : r.header.values "Cookie" = [Cookie.text ⟨name, token.value⟩]) :
    r.cookieToken name = .ok token := by
  have hcookies : r.cookies = [⟨name, token.value⟩] := by
    rw [cookies, hheader, List.flatMap_singleton, Cookie.ofLine?_text hname]
    · rfl
    · exact fun b hb => BearerToken.isPlainByte_of_mem_value h hb
  rw [cookieToken, hcookies, List.find?_cons_of_pos (by simp)]
  dsimp only
  rw [tokenOf, BearerToken.ofText_value h, Outcome.mapError_ok]

/-! ### Bodies -/

/-- A body that is not blank and can be read. -/
theorem requiredBody_eq {α : Type} {read : Text → Except Fault α} {a : α}
    (hblank : r.body.trim ≠ []) (hread : read r.body = .ok a) : r.requiredBody read = .ok a := by
  rw [requiredBody, hasBlankBody, if_neg (by simp [hblank]), hread, Outcome.mapError_ok]

end Incoming

end Accord
