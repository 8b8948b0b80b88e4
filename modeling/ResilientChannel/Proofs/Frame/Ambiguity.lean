import Mathlib.Data.List.TakeDrop
import ResilientChannel.Frame

/-!
When two frames have the same written form.

Nothing is escaped, so a separator in the written form of a frame may be the one behind its event name
or one that belongs to the name or to the data.

* **The overlap.** Two texts that are each cut at a separator are the same text only if they are cut at the
  same place, or if what lies between the two cuts is the end of one name and the beginning of the other's
  data (`separated_eq_iff`, `Straddles`).
* **The first separator.** `cut?` cuts a text there. It gives back a tagged frame exactly if the event name
  holds no separator (`cut?_encode_iff`).
* `encode_ambiguous_iff`: all frames with the same written form, and how to tell them apart.
-/

namespace ResilientChannel.Frame

/-! ### The overlap -/

/-- A list that is cut behind `xs` and behind `xs'`, each time at an `a`. -/
lemma separated_eq_iff {α : Type} {a : α} {xs ys xs' ys' : List α} :
    xs ++ a :: ys = xs' ++ a :: ys' ↔
      (xs = xs' ∧ ys = ys') ∨ (∃ m, xs' = xs ++ a :: m ∧ ys = m ++ a :: ys') ∨
        (∃ m, xs = xs' ++ a :: m ∧ ys' = m ++ a :: ys) := by
  constructor
  · intro h
    rcases List.append_eq_append_iff.mp h with ⟨m, hxs, hys⟩ | ⟨m, hxs, hys⟩
    · cases m with
      | nil =>
          rw [List.append_nil] at hxs
          exact .inl ⟨hxs.symm, (List.cons.inj hys).2⟩
      | cons b m =>
          obtain ⟨rfl, htail⟩ := List.cons.inj hys
          exact .inr (.inl ⟨m, hxs, htail⟩)
    · cases m with
      | nil =>
          rw [List.append_nil] at hxs
          exact .inl ⟨hxs, (List.cons.inj hys).2.symm⟩
      | cons b m =>
          obtain ⟨rfl, htail⟩ := List.cons.inj hys
          exact .inr (.inr ⟨m, hxs, htail⟩)
  · rintro (⟨rfl, rfl⟩ | ⟨m, rfl, rfl⟩ | ⟨m, rfl, rfl⟩)
    · rfl
    · rw [List.append_assoc, List.cons_append]
    · rw [List.append_assoc, List.cons_append]

/-- The second name goes on, behind a separator, with the text with which the first data begin; behind that
text and a separator come the second data. -/
def Straddles (event data event' data' : String) : Prop :=
  ∃ x : String, event' = event ++ ":" ++ x ∧ data = x ++ ":" ++ data'

lemma toList_separated (event data : String) :
    (event ++ ":" ++ data).toList = event.toList ++ ':' :: data.toList := by
  rw [String.toList_append, String.toList_append, List.append_assoc]
  rfl

lemma toList_encode_tagged (event data : String) :
    (encode { event := some event, data }).toList = event.toList ++ ':' :: data.toList := by
  rw [encode_tagged, String.toList_append, String.toList_push, List.append_assoc]
  rfl

lemma straddles_iff {event data event' data' : String} :
    Straddles event data event' data' ↔
      ∃ m, event'.toList = event.toList ++ ':' :: m ∧ data.toList = m ++ ':' :: data'.toList := by
  constructor
  · rintro ⟨x, rfl, rfl⟩
    exact ⟨x.toList, toList_separated event x, toList_separated x data'⟩
  · rintro ⟨m, hevent, hdata⟩
    refine ⟨String.ofList m, String.toList_injective ?_, String.toList_injective ?_⟩
    · rw [hevent, toList_separated, String.toList_ofList]
    · rw [hdata, toList_separated, String.toList_ofList]

/-- Two tagged frames are written alike if they are the same, or if one's name runs into the other's data. -/
lemma encode_tagged_eq_iff {event data event' data' : String} :
    encode { event := some event, data } = encode { event := some event', data := data' } ↔
      (event = event' ∧ data = data') ∨ Straddles event data event' data' ∨
        Straddles event' data' event data := by
  rw [← String.toList_inj, toList_encode_tagged, toList_encode_tagged, separated_eq_iff, straddles_iff,
    straddles_iff, String.toList_inj, String.toList_inj]

lemma encode_tagged_eq_untagged_iff {event data text : String} :
    encode { event := some event, data } = encode { data := text } ↔ text = event ++ ":" ++ data := by
  rw [encode_untagged, ← String.toList_inj, toList_encode_tagged, ← toList_separated, String.toList_inj,
    eq_comm]

/-! ### The first separator -/

/-- The text cut at its first separator: what is in front of it, and what is behind. -/
def cut? (text : String) : Option (String × String) :=
  match text.toList.span (· ≠ Parameters.frameSeparator) with
  | (front, _ :: back) => some (String.ofList front, String.ofList back)
  | _ => none

/-- A text with a separator is cut into a front without one and the rest. -/
lemma cut?_separated {front : List Char} (hfront : ':' ∉ front) (back : List Char) :
    cut? (String.ofList (front ++ ':' :: back)) = some (String.ofList front, String.ofList back) := by
  have hpass : ∀ c ∈ front, decide (c ≠ Parameters.frameSeparator) = true := by
    intro c hc
    have hne : c ≠ ':' := fun h => hfront (h ▸ hc)
    exact decide_eq_true hne
  have hspan : (front ++ ':' :: back).span (fun c => decide (c ≠ Parameters.frameSeparator)) =
      (front, ':' :: back) := by
    rw [List.span_eq_takeWhile_dropWhile, List.takeWhile_append_of_pos hpass,
      List.dropWhile_append_of_pos hpass]
    simp [Parameters.frameSeparator]
  rw [cut?, String.toList_ofList, hspan]

/-- **The first separator is the one behind the name**, and the frame can be read back, exactly if the name
holds none. -/
lemma cut?_encode_iff {event data : String} :
    cut? (encode { event := some event, data }) = some (event, data) ↔ ':' ∉ event.toList := by
  have hwritten : encode { event := some event, data } =
      String.ofList (event.toList ++ ':' :: data.toList) :=
    String.toList_injective (by rw [toList_encode_tagged, String.toList_ofList])
  constructor
  · intro hcut hmem
    obtain ⟨front, back, hsplit, hfront⟩ := List.eq_append_cons_of_mem hmem
    have hfirst : event.toList ++ ':' :: data.toList = front ++ ':' :: (back ++ ':' :: data.toList) := by
      rw [hsplit, List.append_assoc, List.cons_append]
    rw [hwritten, hfirst, cut?_separated hfront, Option.some.injEq, Prod.mk.injEq] at hcut
    have hlength := congrArg (List.length ∘ String.toList) hcut.1
    simp [hsplit] at hlength
  · intro hfree
    rw [hwritten, cut?_separated hfree, String.ofList_toList, String.ofList_toList]

/-! ### The keep-alive frame -/

/-- A tagged frame that is written as the keep-alive frame is the keep-alive frame: its one separator is at the
end. -/
lemma encode_tagged_eq_ping {event data : String}
    (h : encode { event := some event, data } = "ping:") : event = Parameters.pingEvent ∧ data = "" := by
  have hping : encode { event := some event, data } =
      encode { event := some Parameters.pingEvent, data := "" } := h.trans encode_ping.symm
  rcases encode_tagged_eq_iff.mp hping with h | ⟨x, hevent, -⟩ | ⟨x, -, hdata⟩
  · exact h
  · -- the name of the keep-alive frame holds no separator
    have hmem : ':' ∈ Parameters.pingEvent.toList := by
      rw [hevent, toList_separated]
      simp
    exact absurd hmem (by decide)
  · have hlength := congrArg (List.length ∘ String.toList) hdata
    simp at hlength

/-! ### The result -/

/-- **Frames are ambiguous exactly where the separator allows it.** Whatever the texts:

* two tagged frames are written alike exactly if they are equal, or if the name of one goes on, behind a
  separator, into the data of the other;
* a tagged frame is written as an untagged one exactly if the data of the latter are the name, a separator and
  the data of the former, and two untagged frames exactly if their data are equal;
* cutting the written form at its first separator gives back the name and the data, whatever separators the
  data hold, exactly if the name holds none;
* only the keep-alive frame and the untagged frame with the same text are written `ping:`. -/
theorem encode_ambiguous_iff :
    (∀ event data event' data' : String,
      encode { event := some event, data } = encode { event := some event', data := data' } ↔
        (event = event' ∧ data = data') ∨
          (∃ x : String, event' = event ++ ":" ++ x ∧ data = x ++ ":" ++ data') ∨
          (∃ x : String, event = event' ++ ":" ++ x ∧ data' = x ++ ":" ++ data)) ∧
    (∀ event data text : String,
      encode { event := some event, data } = encode { data := text } ↔ text = event ++ ":" ++ data) ∧
    (∀ text text' : String, encode { data := text } = encode { data := text' } ↔ text = text') ∧
    (∀ event data : String,
      cut? (encode { event := some event, data }) = some (event, data) ↔ ':' ∉ event.toList) ∧
    ∀ f : Frame, f.encode = "ping:" ↔ f = ping ∨ f = { data := "ping:" } := by
  refine ⟨fun _ _ _ _ => encode_tagged_eq_iff, fun _ _ _ => encode_tagged_eq_untagged_iff,
    fun _ _ => Iff.rfl, fun _ _ => cut?_encode_iff, fun f => ⟨fun h => ?_, ?_⟩⟩
  · obtain ⟨event, data⟩ := f
    cases event with
    | none => exact .inr (congrArg (fun data => ({ data } : Frame)) h)
    | some event =>
        obtain ⟨rfl, rfl⟩ := encode_tagged_eq_ping h
        exact .inl rfl
  · rintro (rfl | rfl)
    · exact encode_ping
    · rfl

/-- A name with a separator is not told from data with one. -/
example : encode { event := some "a:b", data := "c" } = encode { event := some "a", data := "b:c" } := by
  decide

end ResilientChannel.Frame
