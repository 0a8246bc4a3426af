/-
# Envelopes that arrive

An envelope that is written as JSON is read back with its identifier and its parameters, and its
code and its name as well as UTF-8 can hold them. An error that is not declared and names one text
is put into such an envelope, and arrives as it is.

## Main results

* `Envelope.ofText_members`: what an envelope that is written is read back as;
* `GenericError.json?_of_isWritable`: the JSON of parameters that can be written;
* `Mux.receivedFault_of_unpack`: a caller gets what is unpacked from the envelope;
* `Mux.receivedFault_withParam`: an error with a text parameter arrives as it is.
-/

import Accord.Proofs.Json.Values
import Accord.Proofs.Outcome
import Accord.Proofs.Primitive.Uuid
import Accord.Proofs.Text.Entries
import Accord.Service.Mux

namespace Accord

/-! ### Envelopes as JSON -/

namespace Envelope

variable {e : Envelope} {j : Json}

/-- The members of an envelope's JSON. -/
def members (e : Envelope) : List (Text × Text) :=
  [("errorCode", Json.quote e.code), ("errorName", Json.quote e.name),
    ("errorInstanceId", Json.quote e.id.text), ("parameters", e.parameters)]

/-- The JSON of an envelope with parameters that are compact JSON. -/
theorem json_eq (h : Json.Reads e.parameters j)
    (hcompact : Json.compact e.parameters = e.parameters) :
    e.json = .ok (Json.objectOf e.members) := by
  have hne : e.parameters.isEmpty = false := by
    obtain ⟨b, rest, hb, -⟩ := h.first
    rw [hb]
    rfl
  have hvalid : Json.valid e.parameters = true := by
    rw [Json.valid, Json.read_of_reads h]
    rfl
  rw [json, hne, hvalid, hcompact]
  rfl

/-- An envelope that is written is read back with the stray bytes of its code and its name
replaced. -/
theorem ofText_members (h : Json.Reads e.parameters j) :
    ofText (Json.objectOf e.members) = .ok ⟨e.code.scrub, e.name.scrub, e.id, e.parameters⟩ := by
  have hread : Json.Reads (Json.objectOf e.members) (.object (Json.objectOf e.members)
      [("errorCode", .string (Json.quote e.code) e.code.scrub),
        ("errorName", .string (Json.quote e.name) e.name.scrub),
        ("errorInstanceId", .string (Json.quote e.id.text) e.id.text), ("parameters", j)]) :=
    Json.reads_objectOf
      (.cons (Json.readsMember (by decide +kernel) (Json.reads_quote e.code))
        (.cons (Json.readsMember (by decide +kernel) (Json.reads_quote e.name))
          (.cons (Json.readsMember (by decide +kernel)
              (Json.reads_quote_of_isUtf8 e.id.isUtf8_text))
            (.cons (Json.readsMember (by decide +kernel) h) .nil))))
  have huuid : memberId .zero (.string (Json.quote e.id.text) e.id.text) = .ok e.id := by
    have hplain : Wire.ofPlain .uuid e.id.text = .ok (.uuid e.id) := by
      show Wire.readOwn Uuid.ofText .uuid _ e.id.text = _
      simp only [Wire.readOwn, Uuid.ofText_text]
    have hjson : Wire.ofJson .uuid (.string (Json.quote e.id.text) e.id.text) =
        Wire.ofPlain .uuid e.id.text.scrub := rfl
    rw [memberId, hjson, Text.scrub_of_isUtf8 e.id.isUtf8_text, hplain]
    rfl
  have hsource := h.source
  have hcodes : member empty ("errorCode", .string (Json.quote e.code) e.code.scrub) =
      .ok ⟨e.code.scrub, [], .zero, []⟩ := rfl
  have hnames : member ⟨e.code.scrub, [], .zero, []⟩
      ("errorName", .string (Json.quote e.name) e.name.scrub) =
      .ok ⟨e.code.scrub, e.name.scrub, .zero, []⟩ := rfl
  have hids : member ⟨e.code.scrub, e.name.scrub, .zero, []⟩
      ("errorInstanceId", .string (Json.quote e.id.text) e.id.text) =
      .ok ⟨e.code.scrub, e.name.scrub, e.id, []⟩ := by
    change (memberId .zero (.string (Json.quote e.id.text) e.id.text) >>= fun id =>
      pure (Envelope.mk e.code.scrub e.name.scrub id [])) = _
    rw [huuid]
    rfl
  have hparameters : member ⟨e.code.scrub, e.name.scrub, e.id, []⟩ ("parameters", j) =
      .ok ⟨e.code.scrub, e.name.scrub, e.id, e.parameters⟩ := by
    change Except.ok (Envelope.mk e.code.scrub e.name.scrub e.id j.source) = _
    rw [hsource]
  -- The members are taken in the order in which they were written.
  rw [ofText, Json.read_of_reads hread]
  simp only [ofJson, List.foldlM_cons, List.foldlM_nil, hcodes, hnames, hids, hparameters,
    Outcome.ok_bind]
  rfl

end Envelope

/-! ### Errors with parameters that can be written -/

namespace GenericError

/-- Untyped values as the parameters of an error. -/
def paramsOf (entries : List (Text × Any)) : List (Text × ErrorParam) :=
  entries.map fun entry => (entry.1, .value entry.2)

/-- Untyped values as the members of an object. -/
def membersOf (entries : List (Text × Any)) : List (Text × Text) :=
  Text.sortKeys (entries.map fun entry => (entry.1, entry.2.json))

/-- Parameters that can be written are the members of an object, in the order of their keys. -/
theorem json?_of_isWritable {e : GenericError} {entries : List (Text × Any)}
    (h : e.params = paramsOf entries) (hwritable : ∀ entry ∈ entries, entry.2.isWritable = true) :
    e.json? = some (Json.objectOf (membersOf entries)) := by
  have hsorted : e.sorted = paramsOf (Text.sortKeys entries) := by
    rw [sorted, h, paramsOf, paramsOf, Text.map_sortKeys]
  have hmembers : membersOf entries =
      (Text.sortKeys entries).map fun entry => (entry.1, entry.2.json) := by
    rw [membersOf, Text.map_sortKeys]
  have hall : ∀ entry ∈ Text.sortKeys entries, entry.2.isWritable = true := fun entry hentry =>
    hwritable entry ((Text.sortKeys_perm entries).mem_iff.mp hentry)
  rw [json?, hsorted, hmembers]
  generalize Text.sortKeys entries = kept at hall
  have hmapM : (paramsOf kept).mapM (fun entry => entry.2.json?.map (entry.1, ·)) =
      some (kept.map fun entry => (entry.1, entry.2.json)) := by
    induction kept with
    | nil => rfl
    | cons entry kept ih =>
      obtain ⟨hentry, hkept⟩ := List.forall_mem_cons.mp hall
      have hjson : (ErrorParam.value entry.2).json? = some entry.2.json := by
        rw [ErrorParam.json?, if_pos hentry]
      rw [paramsOf, List.map_cons, List.mapM_cons, ← paramsOf, ih hkept, hjson]
      rfl
  rw [hmapM]
  rfl

theorem envelope?_of_isWritable {e : GenericError} {entries : List (Text × Any)}
    (h : e.params = paramsOf entries) (hwritable : ∀ entry ∈ entries, entry.2.isWritable = true)
    (id : Uuid) :
    e.envelope? id = some ⟨e.code, e.name, id, Json.objectOf (membersOf entries)⟩ := by
  rw [envelope?, ServiceError.envelope?, ServiceError.json?, json?_of_isWritable h hwritable]
  rfl

/-- An error without parameters can be written. -/
theorem envelope?_of_nil {e : GenericError} (h : e.params = []) (id : Uuid) :
    e.envelope? id = some ⟨e.code, e.name, id, "\x7b\x7d"⟩ := by
  have hnone : membersOf [] = [] := List.mergeSort_nil
  rw [@envelope?_of_isWritable e [] h (by simp) id, hnone]
  rfl

end GenericError

/-! ### What arrives -/

/-- A service error that can be written is put into its own envelope. -/
theorem Fault.toEnvelope_service {id : Uuid} {e : ServiceError} {sent : Envelope}
    (h : e.envelope? id = some sent) : (Fault.service e).toEnvelope id = sent := by
  have hserialized : (Fault.service e).serialize? id =
      (e.envelope? id).or (GenericError.internal.envelope? id) := rfl
  rw [toEnvelope, hserialized, h]
  rfl

/-- A caller gets what is unpacked from the envelope that was written, if its parameters are compact
JSON. -/
theorem Mux.receivedFault_of_unpack {σ : Type} {m : Mux σ} {e received : ServiceError}
    {parameters : Text} {j : Json} (hjson : e.json? = some parameters)
    (hreads : Json.Reads parameters j) (hcompact : Json.compact parameters = parameters) {id : Uuid}
    (hunpack : (Envelope.mk e.code.scrub e.name.scrub id parameters).unpack m.registry =
      .ok received) :
    m.receivedFault id (.service e) = .service received := by
  let sent : Envelope := ⟨e.code, e.name, id, parameters⟩
  have henvelope : (Fault.service e).toEnvelope id = sent := by
    refine Fault.toEnvelope_service ?_
    rw [ServiceError.envelope?, hjson]
    rfl
  have htext : Envelope.ofText (Json.objectOf sent.members) =
      .ok ⟨e.code.scrub, e.name.scrub, id, parameters⟩ := @Envelope.ofText_members sent j hreads
  rw [receivedFault, henvelope, @Envelope.json_eq sent j hreads hcompact]
  simp only [htext, hunpack]

/-! ### Errors that name one text -/

namespace GenericError

variable {e : GenericError} {key value : Text}

/-- The JSON of a single text parameter. -/
def paramJson (key value : Text) : Text := Json.objectOf [(key, Json.quote value)]

theorem json?_withParam (h : e.params = []) :
    (e.withParam key (.string value)).json? = some (paramJson key value) := by
  have hparams : (e.withParam key (.string value)).params = paramsOf [(key, .string value)] := by
    rw [withParam, h]
    rfl
  have hmembers : membersOf [(key, .string value)] = [(key, Json.quote value)] :=
    List.mergeSort_singleton _
  have hwritable : ∀ entry ∈ [(key, Any.string value)], entry.2.isWritable = true := by
    intro entry hentry
    obtain rfl := List.mem_singleton.mp hentry
    rfl
  rw [json?_of_isWritable hparams hwritable, hmembers, paramJson]

theorem reads_paramJson (hkey : key.isUtf8 = true) (hvalue : value.isUtf8 = true) :
    Json.Reads (paramJson key value)
      (.object (paramJson key value) [(key, .string (Json.quote value) value)]) :=
  Json.reads_objectOf (.cons (Json.readsMember hkey (Json.reads_quote_of_isUtf8 hvalue)) .nil)

theorem readParams_paramJson (hkey : key.isUtf8 = true) (hvalue : value.isUtf8 = true) :
    readParams (paramJson key value) = .ok [(key, .value (.string value))] := by
  rw [readParams, Json.read_of_reads (reads_paramJson hkey hvalue)]
  rfl

end GenericError

namespace Mux

variable {σ : Type} {m : Mux σ} {e : GenericError} {key value : Text}

/-- An error with a text parameter arrives as it is, unless the caller knows another error of its
name. -/
theorem receivedFault_withParam (h : e.params = []) (hcode : e.code.isUtf8 = true)
    (hname : e.name.isUtf8 = true) (hkey : key.isUtf8 = true) (hvalue : value.isUtf8 = true)
    (hcompact : Json.compact (GenericError.paramJson key value) =
      GenericError.paramJson key value)
    (hregistry : m.registry.decoders.lookup e.name = none) (id : Uuid) :
    m.receivedFault id (.service (.generic (e.withParam key (.string value)))) =
      .service (.generic (e.withParam key (.string value))) := by
  have hjson : (ServiceError.generic (e.withParam key (.string value))).json? =
      some (GenericError.paramJson key value) := GenericError.json?_withParam h
  refine receivedFault_of_unpack hjson (GenericError.reads_paramJson hkey hvalue) hcompact ?_
  have hunpack : (Envelope.mk e.code e.name id (GenericError.paramJson key value)).unpack
      m.registry = .ok (.generic ⟨e.code, e.name, [(key, .value (.string value))]⟩) := by
    rw [Envelope.unpack, hregistry]
    simp only [GenericError.readParams_paramJson hkey hvalue]
    rfl
  have hparams : e.withParam key (.string value) =
      ⟨e.code, e.name, [(key, .value (.string value))]⟩ := by
    rw [GenericError.withParam, h]
    rfl
  rw [hparams, ServiceError.code, ServiceError.name, Text.scrub_of_isUtf8 hcode,
    Text.scrub_of_isUtf8 hname]
  exact hunpack

end Mux

end Accord
