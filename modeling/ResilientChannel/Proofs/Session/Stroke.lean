import ResilientChannel.Proofs.Session.Chronicle
import ResilientChannel.Proofs.Session.Desk

/-!
What the driver's deeds are made of.

* **The flow.** As long as nothing is taken from it, the queue grows by the signals that the new entries
  of the history say were put on it, in this order (`Flow`).
* **The strokes.** All that the driver does in a deed, besides calling a callback, is a row of strokes
  (`Stroke`): it sets a part of its state, enters what it does, has the line connect or disconnect, or
  hands over a frame. A stroke belongs to a class of deeds: it makes no entry and answers no signal that
  lies outside of the class.
* **What strokes keep.** The clock and the desk are left alone, and so is every part of the driver's state
  that no deed of the class is about. A flow that leaves a part of that state alone is a `Spares`.
-/

namespace ResilientChannel.Session

variable {s t u : Session} {q q' : Deed → Bool}

/-! ### The flow -/

/-- The signal that was put on the queue. -/
def Deed.posted? : Deed → Option Signal
  | .posted x => some x
  | _ => none

/-- The signals put on the queue, in order. -/
def postings (history : List Record) : List Signal := (history.filterMap (·.deed.posted?)).reverse

lemma postings_append (h h' : List Record) :
    postings (h ++ h') = postings h' ++ postings h := by
  simp [postings]

/-- Between the two sessions nothing was taken from the queue, and all that was noted is of one
kind. -/
structure Flow (q : Deed → Bool) (s t : Session) : Prop where
  running : t.running = s.running
  entries : ∃ new, t.history = new ++ s.history ∧ t.queue = s.queue ++ postings new ∧
    ∀ r ∈ new, q r.deed

namespace Flow

lemma of_eq (hrunning : t.running = s.running) (hhistory : t.history = s.history)
    (hqueue : t.queue = s.queue) : Flow q s t :=
  ⟨hrunning, [], hhistory, by simpa [postings] using hqueue, by simp⟩

lemma trans (h : Flow q s t) (h' : Flow q t u) : Flow q s u := by
  obtain ⟨new, hnew, hqueue, hr⟩ := h.entries
  obtain ⟨new', hnew', hqueue', hr'⟩ := h'.entries
  refine ⟨h'.running.trans h.running, new' ++ new, by rw [hnew', hnew, List.append_assoc],
    by rw [hqueue', hqueue, postings_append, List.append_assoc], fun r hmem => ?_⟩
  rcases List.mem_append.mp hmem with hmem | hmem
  · exact hr' r hmem
  · exact hr r hmem

lemma mono (h : Flow q s t) (hq : ∀ d, q d → q' d) : Flow q' s t := by
  obtain ⟨new, hnew, hqueue, hr⟩ := h.entries
  exact ⟨h.running, new, hnew, hqueue, fun r hmem => hq _ (hr r hmem)⟩

/-- One entry is made. -/
lemma entry {r : Record} (hrunning : t.running = s.running) (hhistory : t.history = r :: s.history)
    (hqueue : t.queue = s.queue) (hposted : r.deed.posted? = none) (hr : q r.deed) : Flow q s t :=
  ⟨hrunning, [r], hhistory, by simpa [postings, hposted] using hqueue, by simpa using hr⟩

lemma post (s : Session) {x : Signal} (hx : q (.posted x)) : Flow q s (s.post x) := by
  refine ⟨by simp, ?_⟩
  rw [post_history, post_queue]
  split
  · exact ⟨[{ time := s.now, deed := .posted x }], rfl, rfl, by simpa using hx⟩
  · exact ⟨[], rfl, by simp [postings], by simp⟩

lemma hear (s : Session) (hposted : ∀ e, q (.posted (.transport e))) (es : List TransportEvent) :
    Flow q s (s.hear es) := by
  induction es generalizing s with
  | nil => exact .of_eq rfl rfl rfl
  | cons e es ih => exact (post s (hposted e)).trans (ih _)

lemma handIfOpen (s : Session) (f : Frame) (o : Origin) (hf : q (.handed f.encode o)) :
    Flow q s (s.handIfOpen f o) := by
  rw [Session.handIfOpen]
  split
  · exact .entry rfl rfl rfl rfl hf
  · exact .of_eq rfl rfl rfl

end Flow

/-- What is entered without the driver: signals queued, and frames handed over for the application. -/
def Deed.isErrand : Deed → Bool
  | .posted _ | .handed _ .application => true
  | _ => false

lemma Deed.isTraffic_of_isErrand {d : Deed} (h : d.isErrand) : d.isTraffic := by
  simp only [isErrand] at h
  split at h <;> simp_all [isTraffic]

lemma Touch.flow {within : Action → Prop} (h : Touch within s t) : Flow Deed.isErrand s t := by
  cases h with
  | post => exact .post s rfl
  | hand => exact .handIfOpen s _ _ rfl
  | @line line events _ =>
      have hmoved : Flow Deed.isErrand s { s with line } := .of_eq rfl rfl rfl
      exact hmoved.trans (.hear _ (fun _ => rfl) events)
  | aside => exact .of_eq rfl rfl rfl

lemma performAll_flow (s : Session) (actions : List Action) :
    Flow Deed.isErrand s (s.performAll actions).1 :=
  (performAll_touches (p := fun _ => True) s actions
    (Action.within_all_of_forall (fun _ => trivial) actions)).keeps (I := Flow Deed.isErrand s)
      (fun h step => h.trans step.flow) (.of_eq rfl rfl rfl)

/-- Between the two sessions all that was noted is of one kind, and a part of the driver's state was left
alone. -/
structure Spares {α : Type} (part : Lifecycle Callback → α) (q : Deed → Bool) (s t : Session) : Prop
    extends Flow q s t where
  spared : part t.life = part s.life

lemma Touch.spares {α : Type} {part : Lifecycle Callback → α} {within : Action → Prop}
    (h : Touch within s t) (herrand : ∀ d, d.isErrand → q d) : Spares part q s t :=
  ⟨h.flow.mono herrand, by rw [h.traffic.life]⟩

/-! ### The strokes -/

/-- An entry that the driver makes of its own accord. -/
def Deed.isOwn : Deed → Bool
  | .opened | .closed | .lost _ | .accelerated | .forced | .beat _ | .handed .. | .answered _ => true
  | _ => false

/-- Inbound activity: a handled `Connect` or message. -/
def Deed.isActivity : Deed → Bool
  | .took (.transport .connect) | .took (.transport (.message _)) => true
  | _ => false

/-- An activity or a beat: what arms the heartbeat. -/
def Deed.isArming : Deed → Bool
  | .took (.transport .connect) | .took (.transport (.message _)) | .beat _ => true
  | _ => false

lemma Deed.isArming_of_isActivity {d : Deed} (hd : d.isActivity) : d.isArming := by
  simp only [isActivity] at hd
  split at hd <;> simp_all [isArming]

/-- The smallest things that the driver does in a deed, besides calling a callback. Each belongs to a
class of deeds: those that may be entered, and the signals that may be answered. -/
inductive Stroke (p : Deed → Prop) (s : Session) : Session → Prop
  | resolve (started : Bool) (retry : Retry) :
      Stroke p s { s with life.started := started, life.retry := retry }
  | arm (heartbeat : Heartbeat) {d : Deed} (arming : d.isArming) (h : p d) :
      Stroke p s { s with life.heartbeat := heartbeat }
  | learn (presence : Presence) {status : NetworkStatus} (h : p (.took (.network status))) :
      Stroke p s { s with life.presence := presence }
  | register {kind : NoticeKind} {callback : Callback} (h : p (.took (.register kind callback))) :
      Stroke p s { s with life.callbacks := s.life.callbacks.register kind callback }
  | note {d : Deed} (own : d.isOwn) (h : p d) : Stroke p s (s.note d)
  | opens (h : p .opened) : Stroke p s s.openLine
  | closes (h : p .closed) : Stroke p s s.closeLine
  | hand {frame : Frame} {origin : Origin} (h : p (.handed frame.encode origin)) :
      Stroke p s (s.handIfOpen frame origin)

/-- A row of strokes. -/
abbrev Strokes (p : Deed → Prop) : Session → Session → Prop := Relation.ReflTransGen (Stroke p)

variable {p p' : Deed → Prop}

lemma Stroke.mono (h : Stroke p s t) (hp : ∀ d, p d → p' d) : Stroke p' s t := by
  cases h with
  | resolve started retry => exact .resolve started retry
  | arm heartbeat arming h => exact .arm heartbeat arming (hp _ h)
  | learn presence h => exact .learn presence (hp _ h)
  | register h => exact .register (hp _ h)
  | note own h => exact .note own (hp _ h)
  | opens h => exact .opens (hp _ h)
  | closes h => exact .closes (hp _ h)
  | hand h => exact .hand (hp _ h)

lemma Strokes.mono (h : Strokes p s t) (hp : ∀ d, p d → p' d) : Strokes p' s t :=
  Relation.ReflTransGen.mono (r := Stroke p) (fun _ _ step => step.mono hp) _ _ h

/-! ### What strokes keep -/

@[simp] lemma openLine_life (s : Session) : s.openLine.life = s.life := by
  simp [openLine]

@[simp] lemma closeLine_life (s : Session) : s.closeLine.life = s.life := by
  simp [closeLine]

lemma Stroke.now (h : Stroke p s t) : t.now = s.now := by
  cases h <;> simp [openLine, closeLine]

lemma Stroke.desk (h : Stroke p s t) : t.desk = s.desk := by
  cases h <;> simp [openLine, closeLine] <;> rfl

/-- The callbacks are left alone unless a registration is answered. -/
lemma Stroke.callbacks (h : Stroke p s t) (hp : ∀ kind c, ¬ p (.took (.register kind c))) :
    t.life.callbacks = s.life.callbacks := by
  cases h with
  | register h => exact absurd h (hp _ _)
  | _ => simp

/-- What is known of the network is left alone unless news of it is answered. -/
lemma Stroke.presence (h : Stroke p s t) (hp : ∀ status, ¬ p (.took (.network status))) :
    t.life.presence = s.life.presence := by
  cases h with
  | learn _ h => exact absurd h (hp _)
  | _ => simp

/-- The heartbeat is left alone unless an activity is answered or a beat entered. -/
lemma Stroke.heartbeat (h : Stroke p s t) (hp : ∀ d, d.isArming → ¬ p d) :
    t.life.heartbeat = s.life.heartbeat := by
  cases h with
  | arm _ arming h => exact absurd h (hp _ arming)
  | _ => simp

/-- What every stroke leaves alone, a row of strokes leaves alone. -/
lemma Strokes.spared {α : Type} {f : Session → α} (h : Strokes p s t)
    (hf : ∀ {s t}, Stroke p s t → f t = f s) : f t = f s :=
  h.keeps (I := fun t => f t = f s) (fun hs step => (hf step).trans hs) rfl

/-- A stroke enters what the line fires, and one entry of its own. -/
lemma Stroke.flow (h : Stroke p s t) (hposted : ∀ e, q (.posted (.transport e)))
    (hp : ∀ d, d.isOwn → p d → q d) : Flow q s t := by
  cases h with
  | resolve | arm | learn | register => exact .of_eq rfl rfl rfl
  | @note d own h =>
      have hnone : d.posted? = none := by cases d <;> simp_all [Deed.isOwn, Deed.posted?]
      exact .entry rfl rfl rfl hnone (hp _ own h)
  | opens h =>
      have hnoted : Flow q s ({ s with line := s.line.connect.1 }.note .opened) :=
        .entry rfl rfl rfl rfl (hp _ rfl h)
      exact hnoted.trans (.hear _ hposted _)
  | closes h =>
      have hnoted : Flow q s ({ s with line := s.line.disconnect.1 }.note .closed) :=
        .entry rfl rfl rfl rfl (hp _ rfl h)
      exact hnoted.trans (.hear _ hposted _)
  | hand h => exact .handIfOpen s _ _ (hp _ rfl h)

lemma Strokes.flow (h : Strokes p s t) (hposted : ∀ e, q (.posted (.transport e)))
    (hp : ∀ d, d.isOwn → p d → q d) : Flow q s t :=
  h.keeps (I := Flow q s) (fun hs step => hs.trans (step.flow hposted hp)) (.of_eq rfl rfl rfl)

end ResilientChannel.Session
