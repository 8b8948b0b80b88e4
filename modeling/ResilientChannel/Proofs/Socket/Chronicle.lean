import Mathlib.Logic.Basic
import ResilientChannel.Transport.Socket

/-!
What the history of a persistent socket transport says, and how its entries follow from one another.

* **The readings.** The newest conduit, what the transport shows (its state and the queue that it holds)
  and the events of each conduit are read off the history (`newest`, `face`, `events`).
* **The reports.** The events of a conduit are a part of a `Report`: it opens and brings messages, or
  does not open, and then it ends, with or without a fault before.
* **The chronicle.** Every entry has its grounds in those before it (`Lawful`), and what calls for an
  answer is answered at once: a connect that is not ignored by a conduit, the end of the newest conduit by
  a `Disconnect` (`awaited?`).
-/

namespace ResilientChannel.Socket

open Transport

variable {e : Nat} {h older : List Deed} {d : Deed}

/-! ### The readings -/

/-- The epoch of the newest conduit, 0 before the first. -/
def newest : List Deed → Nat
  | [] => 0
  | .began e :: _ => e
  | _ :: older => newest older

/-- What the transport shows: its state, and the conduit whose queue it holds. -/
def face : List Deed → ConnectionState × Option Nat
  | [] => (.idle, none)
  | .began e :: _ => (.connecting, some e)
  | .established _ :: older => (.opened, (face older).2)
  | .ended e :: older => if newest older = e then (.idle, none) else face older
  | .called .disconnect _ :: older =>
    if (face older).2.isSome then (.closing, none) else face older
  | _ :: older => face older

/-- The event that was fired for a conduit. -/
def Deed.event? (e : Nat) : Deed → Option TransportEvent
  | .fired e' event _ => if e' = e then some event else none
  | _ => none

/-- The events of a conduit, in order. -/
def events (e : Nat) (h : List Deed) : List TransportEvent := (h.filterMap (Deed.event? e)).reverse

lemma events_cons (e : Nat) (d : Deed) (h : List Deed) :
    events e (d :: h) = events e h ++ (d.event? e).toList := by
  cases hd : d.event? e <;> simp [events, hd]

lemma events_append (e : Nat) (h h' : List Deed) :
    events e (h ++ h') = events e h' ++ events e h := by
  simp [events]

/-- What an entry does to what the transport shows: nothing, or a conduit is opened or established, the
newest one ends, or the queue that is held is let go. -/
inductive Turn : Deed → List Deed → Prop
  | kept {d : Deed} {h : List Deed} (hface : face (d :: h) = face h)
      (hnewest : newest (d :: h) = newest h) (hd : ∀ e, d ≠ .established e) : Turn d h
  | began {e : Nat} {h : List Deed} : Turn (.began e) h
  | established {e : Nat} {h : List Deed} : Turn (.established e) h
  | ended {h : List Deed} (hface : face (.ended (newest h) :: h) = (.idle, none)) :
      Turn (.ended (newest h)) h
  | dismissed {state : ConnectionState} {h : List Deed}
      (hface : face (.called .disconnect state :: h) = (.closing, none)) :
      Turn (.called .disconnect state) h

lemma turn (d : Deed) (h : List Deed) : Turn d h := by
  cases d with
  | began => exact .began
  | established => exact .established
  | ended e =>
      by_cases he : newest h = e
      · subst he
        exact .ended (if_pos rfl)
      · exact .kept (if_neg he) rfl nofun
  | called call state =>
      cases call with
      | disconnect =>
          by_cases hheld : (face h).2.isSome
          · exact .dismissed (if_pos hheld)
          · exact .kept (if_neg hheld) rfl nofun
      | _ => exact .kept rfl rfl nofun
  | _ => exact .kept rfl rfl nofun

/-- An idle transport has no conduit, or the newest has ended. -/
lemma ended_of_idle (hidle : (face h).1 = .idle) : newest h = 0 ∨ .ended (newest h) ∈ h := by
  induction h with
  | nil => exact .inl rfl
  | cons d h ih =>
      cases turn d h with
      | kept hface hnewest =>
          rw [hface] at hidle
          rw [hnewest]
          exact (ih hidle).imp_right (.tail _)
      | began => cases hidle
      | established => cases hidle
      | ended => exact .inr (.head _)
      | dismissed hface => simp [hface] at hidle

/-- The queue that is held is that of the newest conduit. -/
lemma newest_of_held (hheld : (face h).2 = some e) : newest h = e := by
  induction h with
  | nil => cases hheld
  | cons d h ih =>
      cases turn d h with
      | kept hface hnewest =>
          rw [hface] at hheld
          rw [hnewest, ih hheld]
      | began => exact Option.some.inj hheld
      | established => exact ih hheld
      | ended hface => simp [hface] at hheld
      | dismissed hface => simp [hface] at hheld

/-- A transport that is not live holds no queue. -/
lemma not_held_of_not_live (hlive : (face h).1.isLive = false) : (face h).2 = none := by
  induction h with
  | nil => rfl
  | cons d h ih =>
      cases turn d h with
      | kept hface =>
          rw [hface] at hlive ⊢
          exact ih hlive
      | began => cases hlive
      | established => cases hlive
      | ended hface => rw [hface]
      | dismissed hface => rw [hface]

/-! ### The reports -/

/-- How a conduit ends: a fault may be told before. -/
inductive Ending : List TransportEvent → Prop
  | plain : Ending [.disconnect]
  | fault (reason : String) : Ending [.error reason, .disconnect]

/-- The events of a conduit that has ended: it never opened, or it opened and brought messages. -/
inductive Report : List TransportEvent → Prop
  | refused {last : List TransportEvent} (h : Ending last) : Report last
  | opened (bodies : List String) {last : List TransportEvent} (h : Ending last) :
      Report (.connect :: bodies.map .message ++ last)

/-- The events so far of a conduit that may go on. -/
def IsPartial (evs : List TransportEvent) : Prop := ∃ report, Report report ∧ evs <+: report

/-- The events of a conduit that has not ended, before and after it is established. -/
def Underway (established : Bool) (evs : List TransportEvent) : Prop :=
  if established then ∃ bodies : List String, evs = .connect :: bodies.map .message else evs = []

/-- The events of a conduit whose fault was told. -/
def Broken (evs : List TransportEvent) : Prop :=
  ∃ established before reason, Underway established before ∧ evs = before ++ [.error reason]

section Reports

variable {established : Bool} {evs : List TransportEvent}

/-- From here every ending makes a report. -/
lemma Underway.report (h : Underway established evs) {last : List TransportEvent}
    (hlast : Ending last) : Report (evs ++ last) := by
  cases established with
  | true =>
      obtain ⟨bodies, rfl⟩ := h
      exact .opened bodies hlast
  | false =>
      obtain rfl : evs = [] := h
      exact .refused hlast

lemma Underway.isPartial (h : Underway established evs) : IsPartial evs :=
  ⟨_, h.report .plain, List.prefix_append _ _⟩

lemma Underway.disconnect (h : Underway established evs) : IsPartial (evs ++ [.disconnect]) :=
  ⟨_, h.report .plain, List.prefix_rfl⟩

lemma Underway.error (h : Underway established evs) (reason : String) :
    IsPartial (evs ++ [.error reason]) :=
  ⟨_, h.report (.fault reason), by simp⟩

lemma Underway.connect (h : Underway false evs) : Underway true (evs ++ [.connect]) := by
  obtain rfl : evs = [] := h
  exact ⟨[], rfl⟩

lemma Underway.message (h : Underway true evs) (data : String) :
    Underway true (evs ++ [.message data]) := by
  obtain ⟨bodies, rfl⟩ := h
  exact ⟨bodies ++ [data], by simp⟩

lemma Broken.disconnect (h : Broken evs) : IsPartial (evs ++ [.disconnect]) := by
  obtain ⟨established, before, reason, hunder, rfl⟩ := h
  exact ⟨_, hunder.report (.fault reason), by simp⟩

lemma Ending.eq_append {last : List TransportEvent} (h : Ending last) :
    ∃ init, last = init ++ [.disconnect] ∧ .disconnect ∉ init := by
  cases h with
  | plain => exact ⟨[], rfl, by simp⟩
  | fault reason => exact ⟨[.error reason], rfl, by simp⟩

/-- A report has one `Disconnect`, and it comes last. -/
lemma Report.eq_append {report : List TransportEvent} (h : Report report) :
    ∃ init, report = init ++ [.disconnect] ∧ .disconnect ∉ init := by
  cases h with
  | refused hlast => exact hlast.eq_append
  | opened bodies hlast =>
      obtain ⟨init, rfl, hinit⟩ := hlast.eq_append
      exact ⟨.connect :: bodies.map .message ++ init, by simp, by simp [hinit]⟩

/-- Nothing comes after the `Disconnect`, and none before it. -/
lemma IsPartial.eq_nil_of_disconnect {before after : List TransportEvent}
    (h : IsPartial (before ++ .disconnect :: after)) : after = [] ∧ .disconnect ∉ before := by
  obtain ⟨report, hreport, rest, heq⟩ := h
  obtain ⟨init, rfl, hinit⟩ := hreport.eq_append
  rw [List.append_assoc, List.cons_append] at heq
  rcases List.eq_nil_or_concat (after ++ rest) with hnil | ⟨r, x, hcut⟩
  · rw [hnil] at heq
    obtain ⟨rfl, -⟩ := List.append_inj' heq rfl
    exact ⟨(List.append_eq_nil_iff.mp hnil).1, hinit⟩
  · -- an entry after the `Disconnect` would put that among those before the last
    rw [hcut, List.concat_eq_append, ← List.cons_append, ← List.append_assoc] at heq
    obtain ⟨rfl, -⟩ := List.append_inj' heq rfl
    simp at hinit

end Reports

/-! ### The chronicle -/

/-- The grounds of an entry: a call is made in the state that shows; a conduit is opened by a connect in
a state that is not live, and the one before it has ended or was told to close; only the newest conduit
is established or fires, in the state that shows and within its report; a conduit ends once. -/
def Deed.Lawful : Deed → List Deed → Prop
  | .called _ state, older => state = (face older).1
  | .began e, older => e = newest older + 1 ∧ ∃ state before, older = .called .connect state :: before ∧
      state.isLive = false ∧ (newest older = 0 ∨ .ended (newest older) ∈ older ∨ state = .closing)
  | .established e, older => e = newest older
  | .fired e event state, older =>
    e = newest older ∧ state = (face older).1 ∧ IsPartial (events e older ++ [event])
  | .ended e, older => 0 < e ∧ e ≤ newest older ∧ .ended e ∉ older
  | _, _ => True

/-- What must come next. -/
def awaited? : List Deed → Option Deed
  | .called .connect state :: older =>
    if state.isLive then none else some (.began (newest older + 1))
  | .ended e :: older => if newest older = e then some (.fired e .disconnect .idle) else none
  | _ => none

/-- Every entry is lawful, and what was awaited came at once. -/
def Chronicle : List Deed → Prop
  | [] => True
  | d :: older => (∀ d' ∈ awaited? older, d = d') ∧ d.Lawful older ∧ Chronicle older

namespace Chronicle

lemma suffix {newer : List Deed} (hc : Chronicle (newer ++ h)) : Chronicle h := by
  induction newer with
  | nil => exact hc
  | cons _ newer ih => exact ih hc.2.2

/-- The events of every conduit are part of a report. -/
lemma isPartial (hc : Chronicle h) (e : Nat) : IsPartial (events e h) := by
  induction h with
  | nil =>
      have hfresh : Underway false (events e []) := rfl
      exact hfresh.isPartial
  | cons d h ih =>
      rw [events_cons]
      cases hd : d.event? e with
      | none => simpa [hd] using ih hc.2.2
      | some event =>
          cases d <;> simp [Deed.event?] at hd
          next e' event' state =>
            obtain ⟨rfl, rfl⟩ := hd
            exact hc.2.1.2.2

/-- What was awaited is there. -/
lemma answered {newer : List Deed} {d' : Deed} (hc : Chronicle (newer ++ d :: older))
    (hnone : awaited? (newer ++ d :: older) = none) (hd : awaited? (d :: older) = some d') :
    ∃ later, newer = later ++ [d'] := by
  rcases List.eq_nil_or_concat newer with rfl | ⟨later, last, rfl⟩
  · simp [hd] at hnone
  · rw [List.concat_eq_append] at hc ⊢
    rw [List.append_assoc] at hc
    obtain rfl : last = d' := hc.suffix.1 d' hd
    exact ⟨later, rfl⟩

lemma newest_le (hc : Chronicle (d :: h)) : newest h ≤ newest (d :: h) := by
  cases d with
  | began e =>
      obtain ⟨rfl, -⟩ := hc.2.1
      exact Nat.le_succ _
  | _ => exact Nat.le_refl _

/-- Nothing is known of a conduit before it is opened. -/
lemma untold (hc : Chronicle h) (he : newest h < e) : events e h = [] ∧ .ended e ∉ h := by
  induction h with
  | nil => exact ⟨rfl, by simp⟩
  | cons d h ih =>
      have hlt : newest h < e := Nat.lt_of_le_of_lt hc.newest_le he
      obtain ⟨hevents, hended⟩ := ih hc.2.2 hlt
      refine ⟨?_, ?_⟩
      · rw [events_cons, hevents]
        cases d with
        | fired e' event state =>
            obtain ⟨rfl, -⟩ := hc.2.1
            simp [Deed.event?, Nat.ne_of_lt hlt]
        | _ => rfl
      · intro hmem
        rcases List.mem_cons.mp hmem with rfl | hmem
        · exact absurd hc.2.1.2.1 (by omega)
        · exact hended hmem

end Chronicle

end ResilientChannel.Socket
