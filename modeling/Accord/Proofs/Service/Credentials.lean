/-
# Credentials as they arrive

A client may set credentials on a request again and again. The header for a bearer token holds the
last one that was set, whereas cookies are added one after the other, each on a line of its own.
The server goes through the lines and takes the first cookie of a name, also if its token turns out
to be malformed. A token with an equal sign inside travels like any other, because the name of a
cookie ends at the first one, and is refused only when it is read.

## Main definitions

* `BearerToken.WellFormed`: the grammar of tokens;
* `Credential`: a credential that a client sets, and `Credential.setAll`: several of them in turn;
* `Incoming.Answers`: what a handler that asks for a credential is to be told.

## Main results

* `Credential.values_authorization`, `Credential.values_cookie`: the headers after any sequence of
  calls;
* `Credential.cookies_eq`: every cookie is read back, in order;
* `Credential.arrive`: what a handler is told.
-/

import Accord.Proofs.Service.Arguments
import Accord.Proofs.Text.Entries
import Accord.Service.Request
import Mathlib.Data.List.Induction

namespace Accord

/-! ### The grammar of tokens -/

namespace BearerToken

variable {b : UInt8} {t : BearerToken}

/-- The alphabet of tokens: letters, digits and six marks. -/
def InAlphabet (b : UInt8) : Prop :=
  (Text.byte 'A' ≤ b ∧ b ≤ Text.byte 'Z') ∨ (Text.byte 'a' ≤ b ∧ b ≤ Text.byte 'z') ∨
    (Text.byte '0' ≤ b ∧ b ≤ Text.byte '9') ∨ b ∈ Text.ofString "-._~+/"

/-- The grammar of tokens: at least one byte of the alphabet, and then any number of equal
signs. -/
def WellFormed (t : BearerToken) : Prop :=
  ∃ (body : Text) (padding : Nat), body ≠ [] ∧ (∀ b ∈ body, InAlphabet b) ∧
    t.value = body ++ List.replicate padding (Text.byte '=')

theorem isTokenByte_iff : isTokenByte b = true ↔ InAlphabet b := by
  have hmarks : Text.ofString "-._~+/" = [Text.byte '-', Text.byte '.', Text.byte '_',
      Text.byte '~', Text.byte '+', Text.byte '/'] := rfl
  simp only [isTokenByte, InAlphabet, hmarks, Text.isLetterByte, Text.isUpperByte,
    Text.isLowerByte, Text.isDigitByte, Bool.or_eq_true, Bool.and_eq_true, decide_eq_true_eq,
    List.contains_iff_mem, or_assoc]

/-- A token is valid exactly if it keeps to the grammar. -/
theorem valid_iff : t.valid = true ↔ t.WellFormed := by
  rw [valid, isToken, Bool.and_eq_true]
  constructor
  · rintro ⟨hbody, hpadding⟩
    have hsplit : t.value = t.value.takeWhile isTokenByte ++ t.value.dropWhile isTokenByte :=
      List.takeWhile_append_dropWhile.symm
    have hequals : ∀ b ∈ t.value.dropWhile isTokenByte, b = Text.byte '=' := by
      simpa using hpadding
    refine ⟨t.value.takeWhile isTokenByte, (t.value.dropWhile isTokenByte).length, ?_, ?_, ?_⟩
    · simpa using hbody
    · intro b hb
      exact isTokenByte_iff.mp (List.all_eq_true.mp List.all_takeWhile b hb)
    · rw [← List.eq_replicate_of_mem hequals]
      exact hsplit
  · rintro ⟨body, padding, hne, hbody, hvalue⟩
    have htoken : ∀ b ∈ body, isTokenByte b = true := fun b hb => isTokenByte_iff.mpr (hbody b hb)
    -- The first equal sign ends the body.
    have hend : isTokenByte (Text.byte '=') = false := by decide
    rw [hvalue, List.takeWhile_append_of_pos htoken, List.dropWhile_append_of_pos htoken,
      List.takeWhile_replicate, List.dropWhile_replicate, hend]
    simp [hne]

/-- The bytes of tokens, well formed or not, stand for themselves in a cookie. -/
theorem isPlainByte_of_inAlphabet (h : InAlphabet b ∨ b = Text.byte '=') :
    Cookie.isPlainByte b = true := by
  rcases h with h | rfl
  · exact isPlainByte_of_isTokenByte b (isTokenByte_iff.mpr h)
  · decide

end BearerToken

/-! ### Headers -/

namespace Header

theorem values_set (h : Header) (name value other : Text) : (h.set name value).values other =
    if canonical other = canonical name then [value] else h.values other := by
  rw [values, set, Text.lookup_upsert]
  split <;> rfl

theorem values_add (h : Header) (name value other : Text) : (h.add name value).values other =
    if canonical other = canonical name then h.values name ++ [value] else h.values other := by
  rw [values, add, Text.lookup_upsert]
  split <;> rfl

end Header

/-! ### Sequences of credentials -/

/-- A credential that a client sets on a request. -/
inductive Credential where
  | bearer (token : BearerToken)
  | cookie (name : Text) (token : BearerToken)

namespace Credential

variable {r : Request} {cs : List Credential}

/-- Sets a credential on a request. -/
def setOn (r : Request) : Credential → Request
  | bearer token => r.setBearerToken token
  | cookie name token => r.setCookieToken name token

/-- Sets credentials on a request, one after the other. -/
def setAll (r : Request) (cs : List Credential) : Request := cs.foldl setOn r

/-- The token of a bearer credential. -/
def bearer? : Credential → Option BearerToken
  | bearer token => some token
  | cookie _ _ => none

/-- The token of a cookie of a name. -/
def cookieOf? (name : Text) : Credential → Option BearerToken
  | bearer _ => none
  | cookie other token => if other = name then some token else none

/-- The cookie of a credential. -/
def cookie? : Credential → Option Cookie
  | bearer _ => none
  | cookie name token => some ⟨name, token.value⟩

/-- A cookie can be sent if it has a proper name, and a token of the alphabet and equal signs in
any order. -/
def Sendable : Credential → Prop
  | bearer _ => True
  | cookie name token => Header.isName name = true ∧
      ∀ b ∈ token.value, BearerToken.InAlphabet b ∨ b = Text.byte '='

theorem setAll_concat (r : Request) (cs : List Credential) (c : Credential) :
    setAll r (cs ++ [c]) = setOn (setAll r cs) c := by
  rw [setAll, List.foldl_append]
  rfl

theorem canonical_ne : Header.canonical "Authorization" ≠ Header.canonical "Cookie" := by
  decide +kernel

/-- The header for a bearer token holds the last one that was set. -/
theorem values_authorization (r : Request) (cs : List Credential) :
    (setAll r cs).header.values "Authorization" =
      match (cs.filterMap bearer?).getLast? with
      | some token => [Text.ofString "Bearer " ++ token.value]
      | none => r.header.values "Authorization" := by
  induction cs using List.reverseRecOn with
  | nil => rfl
  | append_singleton cs c ih =>
    rw [setAll_concat, List.filterMap_append, List.getLast?_append]
    cases c with
    | bearer token =>
      rw [setOn, Request.setBearerToken, Header.values_set, if_pos rfl]
      rfl
    | cookie name token =>
      rw [setOn, Request.setCookieToken, Header.values_add, if_neg canonical_ne, ih]
      rfl

/-- The header for cookies holds one line for each cookie that was set, in order. -/
theorem values_cookie (r : Request) (cs : List Credential) :
    (setAll r cs).header.values "Cookie" =
      r.header.values "Cookie" ++ (cs.filterMap cookie?).map Cookie.text := by
  induction cs using List.reverseRecOn with
  | nil => simp [setAll]
  | append_singleton cs c ih =>
    rw [setAll_concat, List.filterMap_append, List.map_append, ← List.append_assoc, ← ih]
    cases c with
    | bearer token =>
      rw [setOn, Request.setBearerToken, Header.values_set, if_neg canonical_ne.symm]
      exact (List.append_nil _).symm
    | cookie name token =>
      rw [setOn, Request.setCookieToken, Header.values_add, if_pos rfl]
      rfl

theorem filterMap_cookie_cons (name : Text) (token : BearerToken) (cs : List Credential) :
    (cookie name token :: cs).filterMap cookie? = ⟨name, token.value⟩ :: cs.filterMap cookie? :=
  rfl

/-- Every cookie that can be sent is read back, in order. -/
theorem cookies_eq (hcs : ∀ c ∈ cs, c.Sendable) {seen : Incoming}
    (hlines : seen.header.values "Cookie" = (cs.filterMap cookie?).map Cookie.text) :
    seen.cookies = cs.filterMap cookie? := by
  rw [Incoming.cookies, hlines, List.flatMap_map]
  clear hlines
  induction cs with
  | nil => rfl
  | cons c rest ih =>
    have hrest := ih fun c hc => hcs c (List.mem_cons_of_mem _ hc)
    cases c with
    | bearer token => exact hrest
    | cookie name token =>
      obtain ⟨hname, hbytes⟩ : Sendable (.cookie name token) := hcs _ List.mem_cons_self
      have hread : Cookie.ofLine? (Cookie.text ⟨name, token.value⟩) =
          some [⟨name, token.value⟩] :=
        Cookie.ofLine?_text hname fun b hb => BearerToken.isPlainByte_of_inAlphabet (hbytes b hb)
      rw [filterMap_cookie_cons, List.flatMap_cons, hread, hrest]
      rfl

/-- Of the cookies that are set, the first of a name is the one that the first call for the name
has set. -/
theorem find?_cookies (name : Text) (cs : List Credential) :
    ((cs.filterMap cookie?).find? (·.name = name)).map (fun c => BearerToken.mk c.value) =
      cs.findSome? (cookieOf? name) := by
  induction cs with
  | nil => rfl
  | cons c rest ih =>
    cases c with
    | bearer token => exact ih
    | cookie other token =>
      rw [filterMap_cookie_cons, List.findSome?_cons]
      by_cases hname : other = name
      · rw [List.find?_cons_of_pos (by simp [hname]), cookieOf?, if_pos hname]
        rfl
      · rw [List.find?_cons_of_neg (by simp [hname]), ih, cookieOf?, if_neg hname]

end Credential

/-! ### What a handler is told -/

namespace Incoming

/-- What a handler that asks for a credential is to be told: the token that was sent if there is one
and it keeps to the grammar, and otherwise that the call is unauthorized. -/
def Answers (sent : Option BearerToken) (answer : Except Fault BearerToken) : Prop :=
  (∀ token, sent = some token → token.WellFormed → answer = .ok token) ∧
    ((∀ token, sent = some token → ¬ token.WellFormed) →
      ∃ f, answer = .error f ∧ f.has .unauthorized = true)

theorem has_unauthorized (message : Text) : (unauthorized message).has .unauthorized = true := rfl

theorem answers_missing (message : Text) : Answers none (.error (unauthorized message)) := by
  constructor
  · intro token hsent
    cases hsent
  · exact fun _ => ⟨_, rfl, has_unauthorized message⟩

theorem answers_tokenOf (token : BearerToken) : Answers (some token) (tokenOf token.value) := by
  constructor
  · intro sent hsent hwell
    cases hsent
    rw [tokenOf, BearerToken.ofText_value (BearerToken.valid_iff.mpr hwell), Outcome.mapError_ok]
  · intro hbad
    have hvalid : ¬ token.valid = true := fun h => hbad token rfl (BearerToken.valid_iff.mp h)
    have hrefused : BearerToken.ofText token.value = .error .invalid := if_neg hvalid
    refine ⟨unauthorized BearerToken.Error.invalid.message, ?_, has_unauthorized _⟩
    rw [tokenOf, hrefused]
    rfl

end Incoming

namespace Credential

/-- Credentials arrive as they were set. Whatever sequence of credentials a client sets on a
request that has none, a handler that asks for the bearer token is told the last one that was set,
and one that asks for a cookie is told the first one of that name. A token that does not keep to
the grammar makes the call unauthorized, and so does asking for one that was not set. -/
theorem arrive {r : Request} (hauthorization : r.header.values "Authorization" = [])
    (hcookie : r.header.values "Cookie" = []) {cs : List Credential} (hcs : ∀ c ∈ cs, c.Sendable)
    {seen : Incoming} (hseen : seen.header = (setAll r cs).header) :
    Incoming.Answers (cs.filterMap bearer?).getLast? seen.bearerToken ∧
      ∀ name : Text,
        Incoming.Answers (cs.findSome? (cookieOf? name)) (seen.cookieToken name) := by
  constructor
  · have hvalues := values_authorization r cs
    rw [hauthorization, ← hseen] at hvalues
    rw [Incoming.bearerToken, Header.get, hvalues]
    cases (cs.filterMap bearer?).getLast? with
    | none => exact Incoming.answers_missing _
    | some token =>
      dsimp only
      rw [List.headD_cons, Text.dropStart?_append]
      exact Incoming.answers_tokenOf token
  · intro name
    have hlines := values_cookie r cs
    rw [hcookie, List.nil_append, ← hseen] at hlines
    rw [Incoming.cookieToken, cookies_eq hcs hlines, ← find?_cookies]
    cases (cs.filterMap cookie?).find? (·.name = name) with
    | none => exact Incoming.answers_missing _
    | some c => exact Incoming.answers_tokenOf ⟨c.value⟩

/-- A bearer token that is set twice, and a cookie whose first token has an equal sign inside. -/
def resent : List Credential :=
  [bearer ⟨"abc"⟩, cookie "SESSION" ⟨"a=b"⟩, cookie "SESSION" ⟨"ab"⟩, bearer ⟨"x/y=="⟩]

/-- The call with these credentials. -/
def resentCall : Incoming := { header := (setAll { method := "GET", template := [] } resent).header }

theorem sendable_resent : ∀ c ∈ resent, c.Sendable := by
  have hname : Header.isName "SESSION" = true := by decide
  have hbytes (t : Text) (h : (t.all fun b => BearerToken.isTokenByte b || b = Text.byte '=') =
      true) : ∀ b ∈ t, BearerToken.InAlphabet b ∨ b = Text.byte '=' := by
    intro b hb
    simpa [BearerToken.isTokenByte_iff] using List.all_eq_true.mp h b hb
  simp only [resent, List.forall_mem_cons, List.not_mem_nil, false_imp_iff, implies_true,
    and_true]
  exact ⟨trivial, ⟨hname, hbytes _ rfl⟩, ⟨hname, hbytes _ rfl⟩, trivial⟩

/-- The last bearer token arrives, and the first cookie makes the call unauthorized although a
proper one follows. -/
theorem arrive_resent :
    resentCall.bearerToken = .ok ⟨"x/y=="⟩ ∧
      ∃ f, resentCall.cookieToken "SESSION" = .error f ∧ f.has .unauthorized = true := by
  have hwell : BearerToken.WellFormed ⟨"x/y=="⟩ := BearerToken.valid_iff.mp (by decide)
  have hbad : ¬ BearerToken.WellFormed ⟨"a=b"⟩ := fun h =>
    absurd (BearerToken.valid_iff.mpr h) (by decide)
  obtain ⟨hbearer, hcookie⟩ := @arrive { method := "GET", template := [] } rfl rfl resent
    sendable_resent resentCall rfl
  refine ⟨hbearer.1 _ rfl hwell, (hcookie "SESSION").2 ?_⟩
  intro token htoken
  obtain rfl : BearerToken.mk "a=b" = token := Option.some.inj htoken
  exact hbad

end Credential

end Accord
