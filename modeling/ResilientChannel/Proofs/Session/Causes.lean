import Mathlib.Data.List.Range
import Mathlib.Data.List.Perm.Basic
import ResilientChannel.Proofs.Session.Attempts
import ResilientChannel.Proofs.Session.Shutdown

/-!
A forced reconnect counts exactly once.

Over a line that goes idle when told to disconnect, every forced reconnect leads to one loss: the one
that is made at once, or the one that the line's report of the disconnect leads to when its turn comes
(`forced_once`).

* **The causes.** The history tells what a loss goes back to: to a `Disconnect` that the line fired by
  itself, or to the force in whose course the line was told to disconnect (`cause`). Signals are taken in
  the order in which they came, so the report behind a handled `Disconnect` is found by counting
  (`origins`, `served`).
* **The balance.** `Balance due h` says that the losses so far, the loss that is due and the reports
  still queued account for every force once. A force makes a loss due; a report takes it to the queue,
  and whoever takes the report makes it due again. There is one lemma for each kind of entry.
* **The invariant.** Between its deeds the driver owes nothing (`Settled`). A force over a live line
  leaves the loss to the report, and any other makes it itself (`Settled.force`).
-/

namespace ResilientChannel.Session

variable {s t : Session} {due : List (Option Nat)}

/-- The line keeps going idle when told to disconnect. -/
def Action.StaysGraceful : Action → Prop
  | .lineReacts _ toDisconnect => ∀ r ∈ toDisconnect, r = .graceful
  | _ => True

/-! ### The causes -/

/-- A reconnect was forced on a started channel. -/
def Deed.isForced : Deed → Bool
  | .forced => true
  | _ => false

/-- How many reconnects were forced. -/
def forces (history : List Record) : Nat := history.countP (·.deed.isForced)

/-- The force in whose course the line was told to disconnect just now, by its number. -/
def closer : List Record → Option Nat
  | { deed := .closed, .. } :: older => some (forces older)
  | _ => none

/-- For every signal put on the queue, in order, the force in whose course the line fired it. -/
def origins : List Record → List (Option Nat)
  | [] => []
  | r :: older =>
    match r.deed with
    | .posted _ => origins older ++ [closer older]
    | _ => origins older

/-- The origin of the signal that is next to be taken. -/
def nextOrigin (history : List Record) : Option Nat :=
  ((origins history)[served history]?).join

/-- What a loss made now goes back to: the origin of the signal that was just taken, or the force that
told the line to disconnect just now. A line that reports by itself is no force. -/
def cause : List Record → Option Nat
  | { deed := .took _, .. } :: older => nextOrigin older
  | history => closer history

/-- The causes of the losses. -/
def causes : List Record → List (Option Nat)
  | [] => []
  | r :: older =>
    match r.deed with
    | .lost _ => cause older :: causes older
    | _ => causes older

/-- The `Disconnect`s handled on a started channel that the line had fired by itself. -/
def ownDrops : List Record → Nat
  | [] => 0
  | r :: older =>
    match r.deed with
    | .took (.transport .disconnect) =>
      ownDrops older + if begun older ∧ nextOrigin older = none then 1 else 0
    | _ => ownDrops older

/-- Every loss goes back to a force or to the line itself. -/
lemma length_causes (h : List Record) : (causes h).length = h.countP (·.deed.isLost) := by
  induction h with
  | nil => rfl
  | cons r older ih =>
      rw [causes, List.countP_cons]
      split <;> simp_all [Deed.isLost]

/-! ### The balance -/

/-- The losses so far, those that are due and the reports still queued account for every force once,
and for every `Disconnect` that the line fired by itself. -/
structure Balance (due : List (Option Nat)) (h : List Record) : Prop where
  length : (origins h).length = (postings h).length
  served_le : served h ≤ (origins h).length
  answers : ∀ (i : Nat) (k : Nat), (origins h)[i]? = some (some k) →
    (postings h)[i]? = some (Signal.transport .disconnect) ∧ begun h = true
  forced : ((due ++ causes h).filterMap id ++ ((origins h).drop (served h)).filterMap id).Perm
    (List.range' 1 (forces h))
  own : (due ++ causes h).count none = ownDrops h

/-- An entry that neither posts nor takes a signal, neither makes a loss nor forces one, and does not
have the line disconnect. -/
def Deed.isInert : Deed → Bool
  | .opened | .accelerated | .beat _ | .handed .. | .called .. | .answered _ => true
  | _ => false

lemma Deed.isStart_of_isInert {d : Deed} (hd : d.isInert) : d.isStart = false := by
  cases d <;> simp_all [isInert, isStart]

lemma closer_of_isInert {d : Deed} (hd : d.isInert) (time : Time) (h : List Record) :
    closer ({ time, deed := d } :: h) = none := by
  cases d with
  | closed => cases hd
  | _ => rfl

namespace Balance

variable {h : List Record} {time : Time}

lemma nil : Balance [] [] := ⟨rfl, Nat.le_refl _, by simp [origins], .refl _, rfl⟩

/-- Nothing that the balance reads counts an entry that is inert. -/
lemma inert (hb : Balance due h) {d : Deed} (hd : d.isInert) :
    Balance due ({ time, deed := d } :: h) := by
  cases d with
  | opened | accelerated | beat | handed | called | answered =>
      exact ⟨hb.length, hb.served_le, hb.answers, hb.forced, hb.own⟩
  | posted | took | closed | lost | forced | ended => cases hd

lemma closed (hb : Balance due h) : Balance due ({ time, deed := .closed } :: h) :=
  ⟨hb.length, hb.served_le, hb.answers, hb.forced, hb.own⟩

lemma postings_posted (x : Signal) :
    postings ({ time, deed := .posted x } :: h) = postings h ++ [x] := by
  simp [postings, Deed.posted?]

/-- The origin of a signal that was posted just now comes last. -/
lemma answers_posted (hb : Balance due h) {x : Signal}
    (hx : ∀ k, closer h = some k → x = .transport .disconnect ∧ begun h = true) (i k : Nat)
    (hi : (origins h ++ [closer h])[i]? = some (some k)) :
    (postings h ++ [x])[i]? = some (.transport .disconnect) ∧ begun h = true := by
  rcases Nat.lt_or_ge i (origins h).length with hlt | hge
  · rw [List.getElem?_append_left hlt] at hi
    rw [List.getElem?_append_left (hb.length ▸ hlt)]
    exact hb.answers i k hi
  · rw [List.getElem?_append_right hge, List.getElem?_singleton] at hi
    rw [List.getElem?_append_right (hb.length ▸ hge), ← hb.length, List.getElem?_singleton]
    split at hi
    next heq =>
      obtain ⟨rfl, hbegun⟩ := hx k (Option.some.inj hi)
      exact ⟨if_pos heq, hbegun⟩
    next => cases hi

/-- What is posted in the course of a force takes the loss that is due to the queue; anything else is
the line's or the application's own. -/
lemma posted (hb : Balance ((closer h).toList.map some) h) {x : Signal}
    (hx : ∀ k, closer h = some k → x = .transport .disconnect ∧ begun h = true) :
    Balance [] ({ time, deed := .posted x } :: h) where
  length := by simp [origins, postings_posted, hb.length]
  served_le := by
    simp only [origins, List.length_append]
    exact Nat.le_add_right_of_le hb.served_le
  answers i k hi := by
    rw [postings_posted]
    exact hb.answers_posted hx i k hi
  forced := by
    have hserved : served ({ time, deed := .posted x } :: h) = served h := rfl
    have hforced := hb.forced
    have hdue : ((closer h).toList.map some).filterMap id = [closer h].filterMap id := by
      cases closer h <;> rfl
    rw [List.filterMap_append, hdue] at hforced
    simp only [origins, hserved, List.nil_append, causes]
    rw [List.drop_append_of_le_length hb.served_le, List.filterMap_append]
    refine .trans ?_ hforced
    rw [List.append_assoc, ← List.append_assoc (causes h |>.filterMap id)]
    exact List.perm_append_comm
  own := by
    have hown := hb.own
    rw [List.count_append] at hown
    have hdue : ((closer h).toList.map some).count none = 0 := by cases closer h <;> rfl
    rw [hdue, Nat.zero_add] at hown
    exact hown

/-- A force makes a loss due. -/
lemma force (hb : Balance [] h) : Balance [some (forces h + 1)] ({ time, deed := .forced } :: h) where
  length := hb.length
  served_le := hb.served_le
  answers := hb.answers
  forced := by
    have hforces : forces ({ time, deed := .forced } :: h) = forces h + 1 :=
      List.countP_cons_of_pos rfl
    rw [hforces, List.range'_1_concat, Nat.add_comm 1]
    exact (hb.forced.cons _).trans (List.perm_append_singleton _ _).symm
  own := by
    rw [List.singleton_append, List.count_cons_of_ne (by simp)]
    exact hb.own

/-- The loss that is due is made. -/
lemma lost (hb : Balance [cause h] h) {n : Nat} : Balance [] ({ time, deed := .lost n } :: h) :=
  ⟨hb.length, hb.served_le, hb.answers, hb.forced, hb.own⟩

lemma served_took (x : Signal) : served ({ time, deed := .took x } :: h) = served h + 1 :=
  List.countP_cons_of_pos rfl

/-- The signal that is taken is the one that comes next. -/
lemma drop_served (hb : Balance due h) (hlt : served h < (postings h).length) :
    (origins h).drop (served h) = nextOrigin h :: (origins h).drop (served h + 1) := by
  have hlength := hb.length ▸ hlt
  rw [List.drop_eq_getElem_cons hlength, nextOrigin, List.getElem?_eq_getElem hlength,
    Option.join_some]

/-- Whatever stands behind a report of the line is due when a started channel takes the report. -/
lemma tookReport (hb : Balance [] h) (hlt : served h < (postings h).length)
    (hbegun : begun h = true) :
    Balance [nextOrigin h] ({ time, deed := .took (.transport .disconnect) } :: h) where
  length := hb.length
  served_le := by
    rw [served_took]
    exact hb.length ▸ hlt
  answers := hb.answers
  forced := by
    have hforced := hb.forced
    rw [hb.drop_served hlt, ← List.singleton_append, List.filterMap_append (l := [nextOrigin h]),
      ← List.append_assoc] at hforced
    rw [served_took, List.filterMap_append]
    exact (List.perm_append_comm.append_right _).trans hforced
  own := by
    have hsame : causes ({ time, deed := .took (.transport .disconnect) } :: h) = causes h := rfl
    rw [hsame, ownDrops, List.singleton_append, List.count_cons]
    simpa [hbegun] using hb.own

/-- Nothing stands behind any other signal. -/
lemma took (hb : Balance [] h) {x : Signal} (hx : (postings h)[served h]? = some x)
    (hother : x = .transport .disconnect → begun h = false) :
    Balance [] ({ time, deed := .took x } :: h) := by
  obtain ⟨hlt, -⟩ := List.getElem?_eq_some_iff.mp hx
  have hnone : nextOrigin h = none := by
    cases horigin : nextOrigin h with
    | none => rfl
    | some k =>
        obtain ⟨hposted, hbegun⟩ := hb.answers _ k (Option.join_eq_some_iff.mp horigin)
        rw [hx, Option.some.injEq] at hposted
        simp [hother hposted] at hbegun
  have hbegun : begun h = true → begun ({ time, deed := .took x } :: h) = true := by
    intro hstarted
    rw [begun, List.any_cons, Bool.or_eq_true]
    exact .inr hstarted
  refine ⟨hb.length, ?_, fun i k hi => (hb.answers i k hi).imp_right hbegun, ?_, ?_⟩
  · rw [served_took]
    exact hb.length ▸ hlt
  · have hforced := hb.forced
    rw [hb.drop_served hlt, hnone] at hforced
    rw [served_took]
    exact hforced
  · have hsame : ownDrops ({ time, deed := .took x } :: h) = ownDrops h := by
      rw [ownDrops]
      split
      next heq =>
        cases heq
        rw [hother rfl]
        simp
      next => rfl
    rw [hsame]
    exact hb.own

end Balance

/-! ### The invariant -/

/-- What holds at every moment, also in the middle of a deed. -/
structure Steady (s : Session) : Prop where
  carries : Carries Action.StaysGraceful s
  graceful : s.line.onDisconnect = .graceful
  started : s.life.started = begun s.history

/-- The driver owes no loss, and the line has not just been told to disconnect. -/
structure Settled (s : Session) : Prop extends Steady s where
  balance : Balance [] s.history
  rest : closer s.history = none

/-- The line's state, the queue and the rest of the lifecycle do not matter. -/
lemma Steady.congr (h : Steady s) (hcarries : Carries Action.StaysGraceful t)
    (hline : t.line.onDisconnect = s.line.onDisconnect)
    (hstarted : t.life.started = s.life.started) (hbegun : begun t.history = begun s.history) :
    Steady t :=
  ⟨hcarries, hline.trans h.graceful, by rw [hstarted, hbegun, h.started]⟩

lemma Steady.note (h : Steady s) {d : Deed} (hd : d.isStart = false) : Steady (s.note d) := by
  refine h.congr (h.carries.congr rfl fun _ hx => hx) rfl rfl ?_
  rw [note_history, begun, List.any_cons, hd, Bool.false_or]
  rfl

lemma Settled.congr (h : Settled s) (hcarries : Carries Action.StaysGraceful t)
    (hline : t.line.onDisconnect = s.line.onDisconnect)
    (hstarted : t.life.started = s.life.started) (hhistory : t.history = s.history) :
    Settled t :=
  ⟨h.toSteady.congr hcarries hline hstarted (congrArg begun hhistory), hhistory ▸ h.balance,
    hhistory ▸ h.rest⟩

/-- Neither the clock nor the queue matters, and of the lifecycle only the callbacks and the start do. -/
lemma Settled.aside (h : Settled s) (hline : t.line.onDisconnect = s.line.onDisconnect)
    (hqueue : t.queue = s.queue) (hcallbacks : t.life.callbacks = s.life.callbacks)
    (hstarted : t.life.started = s.life.started) (hhistory : t.history = s.history) : Settled t :=
  h.congr (h.carries.congr hcallbacks fun _ hx => hqueue ▸ hx) hline hstarted hhistory

lemma Settled.note (h : Settled s) {d : Deed} (hd : d.isInert) : Settled (s.note d) where
  toSteady := h.toSteady.note (Deed.isStart_of_isInert hd)
  balance := h.balance.inert hd
  rest := closer_of_isInert hd _ _

/-! ### Touches -/

lemma Settled.post (h : Settled s) {x : Signal} (hx : x.Within Action.StaysGraceful) :
    Settled (s.post x) := by
  have hbegun : begun (s.post x).history = begun s.history := by
    rw [post_history]
    split <;> rfl
  have hsteady := h.toSteady.congr (h.carries.post hx) (by simp) (by simp) hbegun
  refine ⟨hsteady, ?_, ?_⟩
  · rw [post_history]
    split
    · refine Balance.posted (h := s.history) ?_ (by simp [h.rest])
      rw [h.rest]
      exact h.balance
    · exact h.balance
  · rw [post_history]
    split
    · rfl
    · exact h.rest

lemma Settled.hear (h : Settled s) (es : List TransportEvent) : Settled (s.hear es) := by
  induction es generalizing s with
  | nil => exact h
  | cons e es ih => exact ih (h.post trivial)

lemma Settled.handIfOpen (h : Settled s) (f : Frame) (o : Origin) : Settled (s.handIfOpen f o) := by
  rw [Session.handIfOpen]
  split
  · exact h.note rfl
  · exact h

/-- Whatever the line does by itself, its events are its own. -/
lemma Settled.lineMove (h : Settled s) {line : Line} {events : List TransportEvent}
    (hmove : LineMove Action.StaysGraceful s.line line events) :
    Settled ({ s with line }.hear events) := by
  have hkept : line.onDisconnect = s.line.onDisconnect := by
    cases hmove with
    | opens | drops | moves | fires => rfl
    | @reacts toConnect toDisconnect hp =>
        cases toDisconnect with
        | none => rfl
        | some r => exact (hp r rfl).trans h.graceful.symm
  have hmoved : Settled { s with line } := h.aside hkept rfl rfl rfl rfl
  exact hmoved.hear events

lemma Settled.touch (h : Settled s) (ht : Touch Action.StaysGraceful s t) : Settled t := by
  cases ht with
  | post hx => exact h.post hx
  | hand => exact h.handIfOpen _ _
  | line hmove => exact h.lineMove hmove
  | aside => exact h.aside rfl rfl rfl rfl rfl

lemma Settled.dispatch (h : Settled s) (notice : Notice) : Settled (s.dispatch notice) := by
  cases hc : s.life.callbacks.receiver notice with
  | none => exact (dispatch_of_none hc).symm ▸ h
  | some c =>
      obtain ⟨t, did, ht, heq⟩ := dispatch_of_some hc (h.carries.held _ c hc)
      exact heq ▸ (ht.keeps Settled.touch h).note rfl

/-! ### The operations -/

/-- The driver makes the loss that is due. -/
lemma Steady.lose (h : Steady s) (hs : s.life.started = true)
    (hdue : Balance [cause s.history] s.history) : Settled s.lose := by
  have hnoted : Settled s.lossNoted :=
    { toSteady := h.congr (h.carries.congr rfl fun _ hx => hx) rfl rfl rfl
      balance := hdue.lost
      rest := rfl }
  rw [lose_of_started hs]
  split
  · exact hnoted.dispatch _
  · exact hnoted

/-- The line's report of the disconnect takes the loss to the queue. -/
lemma Steady.reported (h : Steady s) (hrunning : s.running) (hs : s.life.started = true)
    (hdue : Balance [some (forces s.history)] (s.note .closed).history) :
    Settled (({ s with line.state := .idle }.note .closed).hear [.disconnect]) := by
  have hclosed : Steady ({ s with line.state := .idle }.note .closed) :=
    (h.congr (h.carries.congr rfl fun _ hx => hx) rfl rfl rfl :
      Steady { s with line.state := .idle }).note rfl
  have hbegun : begun (s.note .closed).history = true := by
    have hstarted := hclosed.started
    exact hstarted.symm.trans hs
  have hposted : (({ s with line.state := .idle }.note .closed).hear [.disconnect]).history =
      { time := s.now, deed := .posted (.transport .disconnect) } :: (s.note .closed).history := by
    rw [hear_cons, hear_nil, post_history]
    exact if_pos hrunning
  refine ⟨hclosed.congr (hclosed.carries.hear _) (by simp) (by simp) ?_, ?_, ?_⟩
  · rw [hposted]
    rfl
  · rw [hposted]
    exact Balance.posted (h := (s.note .closed).history) hdue fun k _ => ⟨rfl, hbegun⟩
  · rw [hposted]
    rfl

/-- **One loss for a force.** A live line reports that it was told to disconnect, and the loss waits
for the report. Any other line reports nothing, and the loss is made at once. -/
lemma Settled.force (h : Settled s) (hrunning : s.running) : Settled s.force := by
  cases hs : s.life.started with
  | false => exact (force_of_not_started hs).symm ▸ h
  | true =>
      have hforced : Steady (s.note .forced) := h.toSteady.note rfl
      have hdue : Balance [some (forces s.history + 1)] (s.note .forced).history :=
        h.balance.force
      have hnumber : forces (s.note .forced).history = forces s.history + 1 :=
        List.countP_cons_of_pos rfl
      rw [← hnumber] at hdue
      rw [force_of_started hs]
      cases hlive : s.line.state.isLive with
      | true =>
          have hclose := closeLine_of_isLive hforced.graceful hlive
          rw [if_neg (by simp [hclose, ConnectionState.isOpen]), hclose]
          exact hforced.reported hrunning hs hdue.closed
      | false =>
          rw [if_pos (by simp), closeLine_of_not_isLive hforced.graceful hlive]
          exact (hforced.note rfl).lose hs hdue.closed

lemma Settled.accelerate (h : Settled s) : Settled s.accelerate := by
  have hcut : Settled { s with life.retry := s.life.retry.accelerate } := h.aside rfl rfl rfl rfl rfl
  exact hcut.note rfl

lemma Settled.observe (h : Settled s) (hrunning : s.running) (status : NetworkStatus) :
    Settled (s.observe status) := by
  rw [Session.observe]
  generalize s.life.presence.observe status _ _ = decided
  obtain ⟨decision, presence⟩ := decided
  have hseen : Settled { s with life.presence := presence } := h.aside rfl rfl rfl rfl rfl
  cases decision with
  | ignore => exact hseen
  | forceReconnect cut =>
      cases cut with
      | false => exact hseen.force hrunning
      | true => exact hseen.accelerate.force hrunning

lemma Settled.openLine (h : Settled s) : Settled s.openLine := by
  have hconnected : Settled { s with line := s.line.connect.1 } := h.aside ?_ rfl rfl rfl rfl
  · exact (hconnected.note (d := .opened) rfl).hear _
  · simp only [Line.connect, Line.react]
    split <;> rfl

lemma Settled.beat (h : Settled s) (hrunning : s.running) : Settled s.beat := by
  rw [Session.beat]
  generalize s.life.heartbeat.tick s.now = ticked
  obtain ⟨beat, heartbeat⟩ := ticked
  have hticked : Settled { s with life.heartbeat := heartbeat } := h.aside rfl rfl rfl rfl rfl
  have hnoted := hticked.note (d := .beat beat) rfl
  cases beat with
  | ping => exact hnoted.handIfOpen _ _
  | stale silentFor =>
      dsimp only
      split
      · exact hnoted
      · exact hnoted.force hrunning

lemma Settled.retry (h : Settled s) (hdue : s.life.retry.isDue s.now) : Settled s.retry := by
  have htaken : Settled { s with life.retry := { s.life.retry with dueAt := none } } :=
    h.aside rfl rfl rfl rfl rfl
  rw [retry_of_isDue hdue]
  exact htaken.openLine

/-! ### The signals -/

section Signals

variable {rest : List Signal} (h : Settled s) (ho : InTurn s) (hrunning : s.running)

include h ho hrunning

/-- No loss is due after a signal that is no report of a lost line, or that comes before the start. -/
lemma Settled.tookOther {x : Signal} (hqueue : s.queue = x :: rest)
    (hother : x = .transport .disconnect → s.life.started = false) :
    Balance [] ({ s with queue := rest }.note (.took x)).history :=
  h.balance.took (ho.head hrunning hqueue) fun hx => h.started ▸ hother hx

lemma Settled.took {x : Signal} (hqueue : s.queue = x :: rest) (hstart : (Deed.took x).isStart = false)
    (hother : x = .transport .disconnect → s.life.started = false) :
    Settled ({ s with queue := rest }.note (.took x)) where
  toSteady :=
    (h.toSteady.congr (h.carries.congr rfl fun _ hy => hqueue ▸ .tail _ hy) rfl rfl rfl :
      Steady { s with queue := rest }).note hstart
  balance := h.tookOther ho hrunning hqueue hother
  rest := rfl

lemma Settled.start (hqueue : s.queue = .start :: rest) :
    Settled ({ s with queue := rest }.note (.took .start)).start := by
  have hnoted : Settled { { s with queue := rest }.note (.took .start) with
      life.started := true } :=
    { carries := h.carries.congr rfl fun y hy => hqueue ▸ .tail _ hy
      graceful := h.graceful
      started := rfl
      balance := h.tookOther ho hrunning hqueue nofun
      rest := rfl }
  cases hs : s.life.started with
  | true =>
      rw [start_of_started (by simpa using hs)]
      exact hnoted.aside rfl rfl rfl hs rfl
  | false =>
      rw [start_of_not_started (by simpa using hs)]
      exact hnoted.openLine

lemma Settled.greet (hqueue : s.queue = .transport .connect :: rest) :
    Settled ({ s with queue := rest }.note (.took (.transport .connect))).greet := by
  have hnoted : Settled (s.connectNoted rest) :=
    (h.took ho hrunning hqueue rfl nofun).aside rfl rfl rfl rfl rfl
  rw [greet_eq]
  refine Settled.handIfOpen ?_ _ _
  split
  · exact hnoted.dispatch _
  · exact hnoted

/-- The report is the line's own or that of a force, and leads to one loss. -/
lemma Settled.loseReported (hqueue : s.queue = .transport .disconnect :: rest) :
    Settled ({ s with queue := rest }.note (.took (.transport .disconnect))).lose := by
  cases hs : s.life.started with
  | false =>
      rw [lose_of_not_started (by simpa using hs)]
      exact h.took ho hrunning hqueue rfl fun _ => hs
  | true =>
      have hpopped : Steady { s with queue := rest } :=
        h.toSteady.congr (h.carries.congr rfl fun y hy => hqueue ▸ .tail _ hy) rfl rfl rfl
      obtain ⟨hlt, -⟩ := List.getElem?_eq_some_iff.mp (ho.head hrunning hqueue)
      exact (hpopped.note rfl).lose hs (h.balance.tookReport hlt (h.started ▸ hs))

lemma Settled.handle {x : Signal} (hqueue : s.queue = x :: rest) (hx : x.isShutdown = false) :
    Settled (({ s with queue := rest }.note (.took x)).handle x) := by
  match x with
  | .start => exact h.start ho hrunning hqueue
  | .transport .connect => exact h.greet ho hrunning hqueue
  | .transport .disconnect => exact h.loseReported ho hrunning hqueue
  | .transport (.error _) => exact h.took ho hrunning hqueue rfl nofun
  | .transport (.message data) =>
      have hheard : Settled ({ s with queue := rest }.note
          (.took (.transport (.message data)))).recordActivity :=
        (h.took ho hrunning hqueue rfl nofun).aside rfl rfl rfl rfl rfl
      exact hheard.dispatch _
  | .register kind callback =>
      have htook := h.took ho hrunning hqueue rfl nofun
      have hwithin : callback.Within Action.StaysGraceful :=
        h.carries.queued (.register kind callback) (by simp [hqueue])
      exact htook.congr (htook.carries.register kind hwithin) rfl rfl rfl
  | .forceReconnect => exact (h.took ho hrunning hqueue rfl nofun).force hrunning
  | .network status => exact (h.took ho hrunning hqueue rfl nofun).observe hrunning status
  | .inspect => exact (h.took ho hrunning hqueue rfl nofun).note rfl
  | .shutdown => cases hx

end Signals

/-! ### Runs -/

/-- Until it ends, the driver settles every loss. -/
lemma settled_invariant :
    Invariant Action.StaysGraceful fun s => InTurn s ∧ (s.running → Settled s) where
  touch h ht := ⟨h.1.touch ht, fun hrunning => (h.2 (ht.flow.running ▸ hrunning)).touch ht⟩
  drive {s t} h ht := by
    refine ⟨inTurn_invariant.drive h.1 ht, fun hend => ?_⟩
    obtain ⟨hrunning, ⟨x, rest, hqueue, rfl⟩ | ⟨-, hdue, rfl⟩ | ⟨-, -, -, rfl⟩⟩ := drive?_cases ht
    · cases hx : x.isShutdown with
      | false => exact (h.2 hrunning).handle h.1 hrunning hqueue hx
      | true =>
          obtain rfl : x = .shutdown := by cases x <;> simp_all [Signal.isShutdown]
          simp [Session.handle] at hend
    · exact (h.2 hrunning).retry hdue
    · exact (h.2 hrunning).beat hrunning
  pass _ h := ⟨h.1, fun hrunning => (h.2 hrunning).aside rfl rfl rfl rfl rfl⟩

lemma settled_fresh (now : Time) {line : Line} (hline : line.onDisconnect = .graceful) :
    Settled (fresh now line) where
  carries := ⟨by simp [fresh], by simp [fresh]⟩
  graceful := hline
  started := rfl
  balance := .nil
  rest := rfl

/-- **A forced reconnect counts exactly once.** In every run without a shutdown over a line that goes
idle when told to disconnect, once the queue is empty

* there were as many losses as `Disconnect`s that the line fired by itself and that were handled on a
  started channel, and reconnects that were forced on a started channel;
* every force is the cause of one loss, be it made at once or on the line's report, and the other losses
  have a `Disconnect` of the line's own for their cause. -/
theorem forced_once (now : Time) {line : Line} (hline : line.onDisconnect = .graceful)
    {moves : List Move} (hmoves : ∀ m ∈ moves, m.Within Action.StaysGraceful)
    (hshutdown : shutdowns ((fresh now line).run moves).history = 0)
    (hqueue : ((fresh now line).run moves).queue = []) :
    let h := ((fresh now line).run moves).history
    h.countP (·.deed.isLost) = ownDrops h + forces h ∧
    ((causes h).filterMap id).Perm (List.range' 1 (forces h)) ∧
    (causes h).count none = ownDrops h := by
  intro h
  obtain ⟨horder, hsettled⟩ :=
    settled_invariant.run ⟨inTurn_fresh now line, fun _ => settled_fresh now hline⟩ hmoves
  have hrunning : ((fresh now line).run moves).running := by
    by_contra hended
    have hpos := (expectant_run now line moves).ended (by simpa using hended)
    omega
  have hbalance : Balance [] h := (hsettled hrunning).balance
  have hempty : (origins h).drop (served h) = [] := by
    refine List.drop_of_length_le ?_
    rw [hbalance.length, horder.served_eq hrunning hqueue]
  have hforced := hbalance.forced
  rw [hempty, List.nil_append, List.filterMap_nil, List.append_nil] at hforced
  refine ⟨?_, hforced, hbalance.own⟩
  have hown : (causes h).countP (fun k => !k.isSome) = ownDrops h := by
    rw [← hbalance.own, List.nil_append, List.count_eq_countP]
    exact List.countP_congr fun k _ => by cases k <;> simp
  have hforces : (causes h).countP Option.isSome = forces h := by
    have hlength := hforced.length_eq
    rwa [List.length_filterMap_eq_countP, List.length_range'] at hlength
  have hsplit : (causes h).length =
      (causes h).countP Option.isSome + (causes h).countP (fun k => !k.isSome) := by
    rw [List.length_eq_countP_add_countP Option.isSome]
    exact congrArg _ (List.countP_congr fun k _ => by cases k <;> simp)
  rw [← length_causes]
  omega

/-- Over a connecting line two forces and a drop in one batch: the first force has the line disconnect
and leads to a loss on its report, the second makes its loss at once. -/
theorem forced_once_in_batch :
    let moves : List Move := [.act .connect, .drive,
      .act (.batch [.forceReconnect, .forceReconnect, .lineDrops]), .drive, .drive, .drive, .drive]
    let h := ((fresh 0 {}).run moves).history
    ownDrops h = 1 ∧ forces h = 2 ∧ h.countP (·.deed.isLost) = ownDrops h + forces h ∧
      ((causes h).filterMap id).Perm (List.range' 1 (forces h)) ∧
      (causes h).count none = ownDrops h := by
  intro moves h
  have hmoves : ∀ m ∈ moves, m.Within Action.StaysGraceful := by
    have hstarts : Action.Within Action.StaysGraceful .connect := .mk trivial nofun
    have hforces : Action.Within Action.StaysGraceful .forceReconnect := .mk trivial nofun
    have hdrops : Action.Within Action.StaysGraceful .lineDrops := .mk trivial nofun
    have hbatch : Action.Within Action.StaysGraceful
        (.batch [.forceReconnect, .forceReconnect, .lineDrops]) :=
      .mk trivial (by simpa [Action.parts] using ⟨hforces, hdrops⟩)
    simp [moves, Move.Within, hstarts, hbatch]
  exact ⟨rfl, rfl, forced_once 0 rfl hmoves rfl rfl⟩

end ResilientChannel.Session
