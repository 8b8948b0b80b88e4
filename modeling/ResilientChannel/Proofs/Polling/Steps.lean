import Mathlib.Logic.Relation
import ResilientChannel.Transport.Polling

/-!
What calls do to a long-polling transport.

* **The steps.** A call, made from outside or from a handler, is a row of `Step`s: something is
  noted, a handler is registered, a run of polls begins, a GET is started, or everything is torn
  down. `Step` says what each of them fires and in which state.
* **The handlers.** Whatever a handler does is a row of steps as well, however deep handlers call the
  transport that runs them (`enter_steps`).
* **The end of a GET.** It is told to the handlers while the GET is still counted (`told`), and what
  comes after them depends on how many GETs remain (`conclude`).
-/

namespace ResilientChannel.Polling

open Transport

variable {p q : Polling} {enter : Entry}

/-! ### The fields -/

@[simp] lemma note_session (p : Polling) (d : Deed) : (p.note d).session = p.session := rfl

@[simp] lemma note_outstanding (p : Polling) (d : Deed) :
    (p.note d).outstanding = p.outstanding := rfl

@[simp] lemma note_inFlight (p : Polling) (d : Deed) : (p.note d).inFlight = p.inFlight := rfl

@[simp] lemma note_history (p : Polling) (d : Deed) : (p.note d).history = d :: p.history := rfl

/-! ### The steps -/

/-- A deed that is only entered into the history. -/
def Deed.isTalk : Deed → Bool
  | .called _ | .handled .. | .did .. | .posted _ => true
  | _ => false

/-- A run of polls begins. Only the first is reported straight away. -/
def begun (p : Polling) : Polling :=
  let q := { p with first := false, announced := p.first }
  if p.first then q.note (.fired .connect q.state) else q

/-- Everything is torn down. It is reported if a GET was counted. -/
def tornDown (p : Polling) : Polling :=
  let q := { p with session := p.session + 1, inFlight := [], outstanding := 0 }
  if 0 < p.outstanding then q.note (.fired .disconnect q.state) else q

/-- The smallest things that a call does. -/
inductive Step (p : Polling) : Polling → Prop
  | note {d : Deed} (talk : d.isTalk) : Step p (p.note d)
  | register (kind : TransportEventKind) (handler : Handler) :
      Step p { p with handlers := p.handlers.register kind handler }
  | begin (idle : p.state.isOpen = false) : Step p p.begun
  | arm : Step p p.arm
  | tearDown : Step p p.tornDown

/-- A row of steps. -/
abbrev Steps : Polling → Polling → Prop := Relation.ReflTransGen Step

/-- Entering a handler is a row of steps. -/
def Entry.IsSteps (enter : Entry) : Prop := ∀ handler p, Steps p (enter handler p)

/-- Once an event is fired, the rest is its handler's. -/
lemma fire_steps (henter : enter.IsSteps) (event : TransportEvent) (p : Polling) :
    Steps (p.note (.fired event p.state)) (p.fire enter event) := by
  simp only [fire]
  split
  · exact .refl
  · exact .head (.note rfl) (henter _ _)

lemma connect_steps (henter : enter.IsSteps) (p : Polling) : Steps p (p.connect enter) := by
  rw [connect]
  refine .head (.note (d := .called .connect) rfl) ?_
  dsimp only
  split
  · exact .refl
  next hidle =>
    have hbegin := Step.begin (by simpa using hidle)
    refine .head hbegin (.tail ?_ .arm)
    rw [begun]
    split
    · exact fire_steps henter .connect _
    · exact .refl

lemma disconnect_steps (henter : enter.IsSteps) (p : Polling) :
    Steps p (p.disconnect enter) := by
  rw [disconnect]
  refine .head (.note (d := .called .disconnect) rfl) (.head .tearDown ?_)
  simp only [tornDown]
  split
  · exact fire_steps henter .disconnect _
  · exact .refl

lemma send_steps (message : String) (p : Polling) : Steps p (p.send message) := by
  unfold send
  refine .head (.note (d := .called (.send message)) rfl) ?_
  dsimp only
  split
  · exact .single (.note rfl)
  · exact .refl

mutual

/-- **A call is a row of steps.** -/
lemma perform_steps (henter : enter.IsSteps) (p : Polling) :
    ∀ call : Call, Steps p (p.perform enter call).1
  | .connect => by
      simp only [perform]
      exact connect_steps henter p
  | .disconnect => by
      simp only [perform]
      exact disconnect_steps henter p
  | .send message => by
      simp only [perform]
      exact send_steps message p
  | .state | .url | .peer _ => by
      simp only [perform]
      exact .refl
  | .on kind tag script => by
      simp only [perform]
      exact .single (.register kind _)
  | .batch calls => by
      simp only [perform]
      exact performAll_steps henter p calls

lemma performAll_steps (henter : enter.IsSteps) (p : Polling) :
    ∀ calls : List Call, Steps p (p.performAll enter calls).1
  | [] => by
      simp only [performAll]
      exact .refl
  | c :: cs => by
      simp only [performAll]
      exact (perform_steps henter p c).trans (performAll_steps henter _ cs)

end

/-- **Whatever a handler does is a row of steps**, at every depth of nesting. -/
lemma enter_steps (depth : Nat) : (Polling.enter depth).IsSteps := by
  induction depth with
  | zero => exact fun _ _ => .refl
  | succ depth ih =>
      intro handler p
      simp only [Polling.enter]
      induction handler.script generalizing p with
      | nil => exact .refl
      | cons call calls ihcalls =>
          exact ((perform_steps ih p call).tail (.note rfl)).trans (ihcalls _)

/-! ### The end of a GET -/

section Completion

variable {get : Get} {outcome : Except RequestFault String}

/-- The end of a GET has been told to the handlers, and the GET is still counted. -/
def told (enter : Entry) (get : Get) (outcome : Except RequestFault String) (p : Polling) :
    Polling :=
  let p := { p with inFlight := p.inFlight.erase get }.note (.ended get outcome)
  match outcome with
  | .ok body =>
    (if p.announced then p else { p with announced := true }.fire enter .connect).fire enter
      (.message body)
  | .error fault => p.fire enter (.error (ChannelError.request fault).message)

/-- What comes of it when so many GETs remain, if a disconnect did not come first. -/
def conclude (enter : Entry) (outcome : Except RequestFault String) (remaining : Option Nat)
    (p : Polling) : Polling :=
  match outcome with
  | .ok _ => if remaining.any (· ≤ 1) then p.arm else p
  | .error _ => if remaining = some 0 then p.fire enter .disconnect else p

lemma complete_of_not_mem (h : get ∉ p.inFlight) : p.complete enter get outcome = p := by
  rw [complete, if_pos h]

lemma complete_of_mem (h : get ∈ p.inFlight) (hsession : get.session = p.session) :
    p.complete enter get outcome =
      ((p.told enter get outcome).release get.session).2.conclude enter outcome
        ((p.told enter get outcome).release get.session).1 := by
  rw [complete, if_neg (not_not_intro h)]
  dsimp only
  rw [if_neg (by simp [hsession])]
  cases outcome <;> rfl

end Completion

end ResilientChannel.Polling
