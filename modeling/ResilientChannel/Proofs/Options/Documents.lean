import Mathlib.Data.List.Perm.Basic
import ResilientChannel.Options.Form
import ResilientChannel.Proofs.Json.RoundTrip

/-!
What options are read from.

* **Members in any order.** A field is read from the values that its key has among the members, so neither
  their order nor the members of other keys matter (`Json.Arranges`, `Json.field?_of_arranges`), and a field
  that is left out takes its default (`Json.field?_given`).
* **Partial values.** `Capabilities.only` and `Options.only` keep some fields and leave the others at their
  defaults. An object with these fields reads as that (`Capabilities.ofJson?_arranged`,
  `Options.ofJson?_arranged`), and an array reads as the object that has its elements for its first fields.
* `Options.documents_faithful`: options survive their written form, whatever they are, and every document that
  gives some of the fields, in any of the shapes, reads as options with these fields.
-/

namespace ResilientChannel

/-! ### Members in any order -/

namespace Json

variable {α : Type} {fields : List String} {given members : List (Option String × Json)} {key : String}

/-- The member belongs to one of the fields. -/
def isField (fields : List String) (member : Option String × Json) : Bool := member.1.any (· ∈ fields)

/-- The keys of the members are texts, and those that belong to the fields are the given ones, in any order. -/
structure Arranges (fields : List String) (given members : List (Option String × Json)) : Prop where
  keyed : textKeyed members = true
  perm : (members.filter (isField fields)).Perm given

/-- The given members whose keys are chosen. -/
def choose (chosen : String → Bool) (given : List (Option String × Json)) : List (Option String × Json) :=
  given.filter (·.1.any chosen)

/-- The order of the values of a key does not matter: there is a field to read only if there are none or one. -/
lemma field?_congr {members' : List (Option String × Json)} (read : Json → Option α) (default : α)
    (h : (occurrences key members).Perm (occurrences key members')) :
    field? members key read default = field? members' key read default := by
  rw [field?, field?]
  generalize occurrences key members = values at h ⊢
  generalize occurrences key members' = values' at h ⊢
  match values, values' with
  | [], [] => rfl
  | [_], [_] => rw [List.singleton_perm_singleton.mp h]
  | _ :: _ :: _, _ :: _ :: _ => rfl
  | [], _ :: _ | _ :: _, [] | [_], _ :: _ :: _ | _ :: _ :: _, [_] => simpa using h.length_eq

/-- Members that belong to no field have no part in the values of a field. -/
lemma occurrences_filter (hkey : key ∈ fields) :
    occurrences key (members.filter (isField fields)) = occurrences key members := by
  rw [occurrences, occurrences, List.filter_filter]
  congr 1
  refine List.filter_congr fun m _ => ?_
  cases hm : m.1 == some key with
  | false => rfl
  | true => simp [isField, eq_of_beq hm, hkey]

/-- **A field is read from the given members alone**, whatever stands between them. -/
lemma field?_of_arranges (h : Arranges fields given members) (hkey : key ∈ fields)
    (read : Json → Option α) (default : α) :
    field? members key read default = field? given key read default := by
  refine field?_congr read default ?_
  rw [← occurrences_filter hkey]
  exact (h.perm.filter _).map _

/-- A chosen field is read, and one that is not chosen takes its default. -/
lemma field?_choose (chosen : String → Bool) (read : Json → Option α) (default : α) :
    field? (choose chosen given) key read default =
      if chosen key then field? given key read default else some default := by
  by_cases hchosen : chosen key
  · have hvalues : occurrences key (choose chosen given) = occurrences key given := by
      rw [occurrences, occurrences, choose, List.filter_filter]
      congr 1
      refine List.filter_congr fun m _ => ?_
      cases hm : m.1 == some key with
      | false => rfl
      | true => simp [eq_of_beq hm, hchosen]
    rw [if_pos hchosen, field?, field?, hvalues]
  · have hnone : occurrences key (choose chosen given) = [] := by
      rw [occurrences, choose, List.filter_filter, List.map_eq_nil_iff, List.filter_eq_nil_iff]
      intro m _ hm
      rw [Bool.and_eq_true, beq_iff_eq] at hm
      exact hchosen (by simpa [hm.1] using hm.2)
    rw [if_neg hchosen, field?, hnone]

/-- An array reads as the object that has its elements for its first fields. -/
lemma record?_array {values : List Json} (h : values.length ≤ fields.length)
    (read : List (Option String × Json) → Option α) :
    record? fields read (array values) = record? fields read (object ((fields.map some).zip values)) := by
  have hkeyed : textKeyed ((fields.map some).zip values) = true := by
    refine List.all_eq_true.mpr fun m hm => ?_
    obtain ⟨field, -, hfield⟩ := List.mem_map.mp (List.of_mem_zip hm).1
    rw [← hfield]
    rfl
  rw [record?, record?, if_pos h, if_pos hkeyed]

end Json

open Json

/-! ### Partial values -/

namespace Capabilities

/-- The members that are written. -/
def members (c : Capabilities) : List (Option String × Json) := [(some "websocket", bool c.websocket)]

/-- The chosen fields as they are, and the others at their defaults. -/
def only (chosen : String → Bool) (c : Capabilities) : Capabilities :=
  { websocket := if chosen "websocket" then c.websocket else ({} : Capabilities).websocket }

variable {c : Capabilities} {chosen : String → Bool} {ms : List (Option String × Json)}

lemma ofMembers?_choose : ofMembers? (choose chosen c.members) = some (c.only chosen) := by
  have hwebsocket : field? c.members "websocket" bool? ({} : Capabilities).websocket =
      some c.websocket := rfl
  rw [ofMembers?, field?_choose, hwebsocket, ← apply_ite]
  rfl

/-- An object with the chosen fields, in any order and among others. -/
lemma ofJson?_arranged (h : Arranges fields (choose chosen c.members) ms) :
    ofJson? (object ms) = some (c.only chosen) := by
  rw [ofJson?, record?, if_pos h.keyed, ← ofMembers?_choose, ofMembers?, ofMembers?,
    field?_of_arranges h (by decide)]

end Capabilities

namespace Options

/-- The members that are written, with the capabilities in a form of their own. -/
def members (o : Options) (capabilities : Json) : List (Option String × Json) :=
  [(some "page_url", string (some o.pageUrl)),
    (some "url_context", string (some o.context)),
    (some "url_prefix", string (some o.mount)),
    (some "socket_id",
      match o.socketId with
      | some id => string (some id)
      | none => null),
    (some "capabilities", capabilities)]

/-- The chosen fields as they are, and the others at their defaults. -/
def only (chosen : String → Bool) (o : Options) : Options :=
  let unset : Options := {}
  { pageUrl := if chosen "page_url" then o.pageUrl else unset.pageUrl
    context := if chosen "url_context" then o.context else unset.context
    mount := if chosen "url_prefix" then o.mount else unset.mount
    socketId := if chosen "socket_id" then o.socketId else unset.socketId
    capabilities := if chosen "capabilities" then o.capabilities else unset.capabilities }

variable {o : Options} {capabilities : Json} {chosen : String → Bool} {ms : List (Option String × Json)}

/-- A socket id is `null` if there is none. -/
lemma field?_socketId (o : Options) (capabilities : Json) :
    field? (o.members capabilities) "socket_id" (nullable? text?) ({} : Options).socketId =
      some o.socketId := by
  obtain ⟨_, _, _, socketId, _⟩ := o
  cases socketId <;> rfl

lemma ofMembers?_choose (h : Capabilities.ofJson? capabilities = some o.capabilities) :
    ofMembers? (choose chosen (o.members capabilities)) = some (o.only chosen) := by
  have hpage : field? (o.members capabilities) "page_url" text? ({} : Options).pageUrl =
      some o.pageUrl := rfl
  have hcontext : field? (o.members capabilities) "url_context" text? ({} : Options).context =
      some o.context := rfl
  have hmount : field? (o.members capabilities) "url_prefix" text? ({} : Options).mount =
      some o.mount := rfl
  have hcapabilities : field? (o.members capabilities) "capabilities" Capabilities.ofJson?
      ({} : Options).capabilities = some o.capabilities := h
  rw [ofMembers?, field?_choose, field?_choose, field?_choose, field?_choose, field?_choose, hpage,
    hcontext, hmount, field?_socketId, hcapabilities]
  simp only [← apply_ite some]
  rfl

/-- An object with the chosen fields, in any order and among others. -/
lemma ofJson?_arranged (h : Capabilities.ofJson? capabilities = some o.capabilities)
    (hms : Arranges fields (choose chosen (o.members capabilities)) ms) :
    ofJson? (object ms) = some (o.only chosen) := by
  rw [ofJson?, record?, if_pos hms.keyed, ← ofMembers?_choose h, ofMembers?, ofMembers?,
    field?_of_arranges hms (by decide), field?_of_arranges hms (by decide),
    field?_of_arranges hms (by decide), field?_of_arranges hms (by decide),
    field?_of_arranges hms (by decide)]

lemma ofJson?_toJson (o : Options) : ofJson? o.toJson = some o := by
  obtain ⟨_, _, _, socketId, _⟩ := o
  cases socketId <;> rfl

lemma numberless_toJson (o : Options) : o.toJson.Numberless := by
  obtain ⟨_, _, _, socketId, _⟩ := o
  cases socketId <;> simp [toJson, Capabilities.toJson, Numberless, NumberlessMembers]

/-- **Options are read back from their text.** -/
lemma parse?_print (o : Options) : parse? o.print = some o := by
  rw [parse?, print, Json.parse?_print (numberless_toJson o), Option.bind_some, ofJson?_toJson]

lemma parse?_of_parse? {text : String} {json : Json} (h : Json.parse? text = some json) :
    parse? text = ofJson? json := by
  rw [parse?, h, Option.bind_some]

/-! ### The result -/

section First

variable (o : Options) (capabilities : Json) (n : Nat)

/-- There are five members. -/
lemma take_members : (o.members capabilities).take (n + 5) = o.members capabilities :=
  List.take_of_length_le (Nat.le_add_left 5 n)

/-- The first `n` members are those whose keys are the first `n` fields. -/
lemma arranges_take :
    Arranges fields (choose (· ∈ fields.take n) (o.members capabilities)) ((o.members capabilities).take n) := by
  match n with
  | 0 | 1 | 2 | 3 | 4 => exact ⟨rfl, .refl _⟩
  | n + 5 =>
      have hfields : fields.take (n + 5) = fields := List.take_of_length_le (Nat.le_add_left 5 n)
      rw [take_members, hfields]
      exact ⟨rfl, .refl _⟩

/-- The first `n` values make up the first `n` members. -/
lemma zip_take :
    (fields.map some).zip (((o.members capabilities).take n).map (·.2)) = (o.members capabilities).take n := by
  match n with
  | 0 | 1 | 2 | 3 | 4 => rfl
  | n + 5 =>
      rw [take_members]
      rfl

end First

/-- **Options survive their written form, and what is left out takes its default.**

* Options are read back from their text.
* Of any options let some fields be chosen, and let a document hold an object with just these, once each and in
  any order, its other keys being no fields. However the capabilities are given, the document is read as the
  options with the chosen fields and the defaults of the others; and likewise for the capabilities themselves.
* A document with an array is read as one with the object that has the elements for its first fields, also if it
  cannot be read; in particular, an array of the first `n` fields of options as the options with these fields;
  and likewise for the capabilities.
* What any document is read as has a text that is read and written as itself. -/
theorem documents_faithful :
    (∀ o : Options, parse? o.print = some o) ∧
    (∀ (o : Options) capabilities chosen ms text,
      Capabilities.ofJson? capabilities = some o.capabilities →
      Arranges fields (choose chosen (o.members capabilities)) ms →
      Json.parse? text = some (object ms) → parse? text = some (o.only chosen)) ∧
    (∀ (c : Capabilities) chosen ms, Arranges Capabilities.fields (choose chosen c.members) ms →
      Capabilities.ofJson? (object ms) = some (c.only chosen)) ∧
    (∀ values text text', values.length ≤ fields.length → Json.parse? text = some (array values) →
      Json.parse? text' = some (object ((fields.map some).zip values)) → parse? text = parse? text') ∧
    (∀ (o : Options) capabilities n text, Capabilities.ofJson? capabilities = some o.capabilities →
      Json.parse? text = some (array (((o.members capabilities).take n).map (·.2))) →
      parse? text = some (o.only (· ∈ fields.take n))) ∧
    (∀ values, values.length ≤ Capabilities.fields.length →
      Capabilities.ofJson? (array values) =
        Capabilities.ofJson? (object ((Capabilities.fields.map some).zip values))) ∧
    ∀ text written, (parse? text).map print = some written →
      (parse? written).map print = some written := by
  refine ⟨parse?_print, ?_, fun _ _ _ => Capabilities.ofJson?_arranged, ?_, ?_,
    fun _ h => record?_array h _, ?_⟩
  · intro o capabilities chosen ms text hcapabilities hms htext
    rw [parse?_of_parse? htext, ofJson?_arranged hcapabilities hms]
  · intro values text text' hlength htext htext'
    rw [parse?_of_parse? htext, parse?_of_parse? htext']
    exact record?_array hlength _
  · intro o capabilities n text hcapabilities htext
    have hlength : (((o.members capabilities).take n).map (·.2)).length ≤ fields.length := by
      rw [List.length_map, List.length_take]
      exact Nat.min_le_right _ _
    have harray := record?_array hlength ofMembers?
    rw [zip_take] at harray
    rw [parse?_of_parse? htext]
    exact harray.trans (ofJson?_arranged hcapabilities (arranges_take o capabilities n))
  · intro text written htext
    obtain ⟨o, -, rfl⟩ := Option.map_eq_some_iff.mp htext
    rw [parse?_print, Option.map_some]

/-- A document with three of the five fields in another order, with a key that is no field, and with a key of
that kind also among its capabilities. -/
theorem documents_faithful_shuffled :
    let o : Options :=
      { pageUrl := "http://h", context := "/c", mount := "/m", socketId := some "é\n"
        capabilities := { websocket := false } }
    let capabilities := object [(some "x", array [null]), (some "websocket", bool false)]
    let chosen : String → Bool := (· ∈ ["socket_id", "capabilities", "page_url"])
    let ms := [(some "socket_id", string (some "é\n")), (some "x", object []),
      (some "capabilities", capabilities), (some "page_url", string (some "http://h"))]
    Capabilities.ofJson? capabilities = some o.capabilities ∧
      Arranges fields (choose chosen (o.members capabilities)) ms ∧
      Json.parse? (object ms).print = some (object ms) ∧
      parse? (object ms).print =
        some { pageUrl := "http://h", socketId := some "é\n", capabilities := { websocket := false } } := by
  intro o capabilities chosen ms
  have hcapabilities : Capabilities.ofJson? capabilities = some o.capabilities := rfl
  have hms : Arranges fields (choose chosen (o.members capabilities)) ms := by
    refine ⟨rfl, ?_⟩
    exact @List.perm_append_comm _ [ms[0], ms[2]] [ms[3]]
  have htext : Json.parse? (object ms).print = some (object ms) :=
    Json.parse?_print (by simp [ms, capabilities, Numberless, NumberlessMembers, NumberlessElements])
  exact ⟨hcapabilities, hms, htext,
    documents_faithful.2.1 o capabilities chosen ms _ hcapabilities hms htext⟩

end Options

end ResilientChannel
