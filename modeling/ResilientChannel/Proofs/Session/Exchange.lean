import ResilientChannel.Proofs.Session.Stroke

/-!
What a deed of the driver does to the queue, and what the application has to do with it.

* **The exchange.** A deed of the driver is a row of strokes with at most one call in between: it runs the
  script of the callback and enters the call (`Exchange`). Of what class it is depends on the signal that the
  driver has taken (`Signal.Licenses`, `handle_exchange`) or on the timer (`retry_exchange`,
  `beat_exchange`). What the strokes of the class leave alone, the exchange leaves alone
  (`Exchange.flow_of`, `Exchange.spared`, `Exchange.spares`).
* **The end.** A shutdown ends the driver and throws away what is queued behind it (`stop_eq`).
* **One deed.** `drive?_exchange` says all this of everything that the driver does next, but for its end.
* **First come, first served.** The signals put on the queue are those taken from it and those still
  waiting, in this order, in every run (`InTurn`, `inTurn_run`).
-/

namespace ResilientChannel.Session

variable {s t u : Session} {p p' : Deed → Prop} {q : Deed → Bool}

/-- A shutdown. -/
def Signal.isShutdown : Signal → Bool
  | .shutdown => true
  | _ => false

/-! ### The exchange -/

/-- What happens in a deed of the driver: a row of strokes, or one call with strokes before and after. The
script of the callback is taken over the line as it was before the deed, or as it was torn down in it. -/
inductive Exchange (p : Deed → Prop) (s t : Session) : Prop
  | silent (h : Strokes p s t)
  | call {u v : Session} {notice : Notice} {c : Callback} (before : Strokes p s u)
      (line : u.line = s.line ∨ p .closed ∧ u.line = s.line.disconnect.1)
      (held : s.life.callbacks.receiver notice = some c)
      (call : p (.called c.tag c.view notice (u.performAll c.script).2))
      (called : v = (u.performAll c.script).1.note
        (.called c.tag c.view notice (u.performAll c.script).2))
      (after : Strokes p v t)

/-- An entry that neither takes a signal nor ends the driver. -/
def Deed.isOngoing : Deed → Bool
  | .took _ | .ended => false
  | _ => true

lemma Deed.isOngoing_of_isOwn {d : Deed} (h : d.isOwn) : d.isOngoing := by
  cases d <;> simp_all [isOwn, isOngoing]

lemma Deed.isOngoing_of_isTraffic {d : Deed} (h : d.isTraffic) : d.isOngoing := by
  cases d <;> simp_all [isTraffic, isOngoing]

lemma Deed.isOngoing_of_isErrand {d : Deed} (h : d.isErrand) : d.isOngoing :=
  isOngoing_of_isTraffic (isTraffic_of_isErrand h)

namespace Exchange

lemma mono (h : Exchange p s t) (hp : ∀ d, p d → p' d) : Exchange p' s t := by
  cases h with
  | silent h => exact .silent (h.mono hp)
  | call before line held call called after =>
      exact .call (before.mono hp) (line.imp_right fun ⟨hclosed, hline⟩ => ⟨hp _ hclosed, hline⟩) held
        (hp _ call) called (after.mono hp)

/-- More strokes may follow. -/
lemma followed (h : Exchange p s t) (ht : Strokes p t u) : Exchange p s u := by
  cases h with
  | silent h => exact .silent (h.trans ht)
  | call before line held call called after =>
      exact .call before line held call called (after.trans ht)

/-- More strokes may come first that register nothing and leave the line alone. -/
lemma after (hs : Strokes p s t) (hcallbacks : t.life.callbacks = s.life.callbacks)
    (hline : t.line = s.line) (h : Exchange p t u) : Exchange p s u := by
  cases h with
  | silent h => exact .silent (hs.trans h)
  | call before line held call called after =>
      exact .call (hs.trans before) (hline ▸ line) (hcallbacks ▸ held) call called after

/-- What is entered are errands, for the script, and deeds of the class. -/
lemma flow_of (h : Exchange p s t) (herrand : ∀ d, d.isErrand → q d)
    (hp : ∀ d, d.isOngoing → p d → q d) : Flow q s t := by
  have hstrokes : ∀ {s t}, Strokes p s t → Flow q s t := fun h =>
    h.flow (fun _ => herrand _ rfl) fun d hd => hp d (Deed.isOngoing_of_isOwn hd)
  cases h with
  | silent h => exact hstrokes h
  | @call u v notice c before _ _ call called after =>
      have hscript := (performAll_flow u c.script).mono herrand
      have hcalled : Flow q (u.performAll c.script).1 v :=
        called ▸ .entry rfl rfl rfl rfl (hp _ rfl call)
      exact (((hstrokes before).trans hscript).trans hcalled).trans (hstrokes after)

/-- Nothing is taken from the queue in an exchange. -/
lemma flow (h : Exchange p s t) : Flow Deed.isOngoing s t :=
  h.flow_of (fun _ => Deed.isOngoing_of_isErrand) fun _ hd _ => hd

lemma now (h : Exchange p s t) : t.now = s.now := by
  cases h with
  | silent h => exact h.spared Stroke.now
  | @call u v notice c before _ _ _ called after =>
      rw [after.spared Stroke.now, called, note_now, (performAll_traffic u c.script).now,
        before.spared Stroke.now]

/-- What strokes leave alone of the driver's state, an exchange leaves alone. -/
lemma spared {α : Type} {part : Lifecycle Callback → α} (h : Exchange p s t)
    (hpart : ∀ {s t}, Stroke p s t → part t.life = part s.life) : part t.life = part s.life := by
  have hstrokes : ∀ {s t}, Strokes p s t → part t.life = part s.life := fun h =>
    h.spared (f := fun s => part s.life) hpart
  cases h with
  | silent h => exact hstrokes h
  | @call u v notice c before _ _ _ called after =>
      rw [hstrokes after, called, note_life, (performAll_traffic u c.script).life, hstrokes before]

lemma spares {α : Type} {part : Lifecycle Callback → α} (h : Exchange p s t)
    (herrand : ∀ d, d.isErrand → q d) (hp : ∀ d, d.isOngoing → p d → q d)
    (hpart : ∀ {s t}, Stroke p s t → part t.life = part s.life) : Spares part q s t :=
  ⟨h.flow_of herrand hp, h.spared hpart⟩

end Exchange

/-! ### Losses -/

/-- A loss, or its report to the application. -/
def Deed.isSetback : Deed → Bool
  | .lost _ | .called _ _ .disconnect _ => true
  | _ => false

/-- A forced reconnect, with the loss that it leads to. -/
def Deed.isUpheaval : Deed → Bool
  | .forced | .closed | .lost _ | .called _ _ .disconnect _ => true
  | _ => false

lemma Deed.isUpheaval_of_isSetback {d : Deed} (h : d.isSetback) : d.isUpheaval := by
  simp only [isSetback] at h
  split at h <;> simp_all [isUpheaval]

lemma dispatch_exchange (s : Session) {notice : Notice}
    (hp : ∀ tag view did, p (.called tag view notice did)) : Exchange p s (s.dispatch notice) := by
  cases hc : s.life.callbacks.receiver notice with
  | none => exact (dispatch_of_none hc).symm ▸ .silent .refl
  | some c =>
      have hcalled : s.dispatch notice = (s.performAll c.script).1.note
          (.called c.tag c.view notice (s.performAll c.script).2) := by simp [dispatch, hc]
      exact .call .refl (.inl rfl) hc (hp _ _ _) hcalled .refl

lemma lossNoted_strokes (s : Session) (hp : ∀ n, p (.lost n)) : Strokes p s s.lossNoted :=
  .head (.resolve s.life.started (s.life.retry.onDisconnect s.now).2) (.single (.note rfl (hp _)))

lemma lose_exchange (s : Session) : Exchange (Deed.isSetback ·) s s.lose := by
  cases hs : s.life.started with
  | false => exact (lose_of_not_started hs).symm ▸ .silent .refl
  | true =>
      have hnoted : Strokes (Deed.isSetback ·) s s.lossNoted := lossNoted_strokes s fun _ => rfl
      rw [lose_of_started hs]
      split
      · exact .after hnoted rfl rfl (dispatch_exchange _ fun _ _ _ => rfl)
      · exact .silent hnoted

lemma force_exchange (s : Session) : Exchange (Deed.isUpheaval ·) s s.force := by
  cases hs : s.life.started with
  | false => exact (force_of_not_started hs).symm ▸ .silent .refl
  | true =>
      have hclosed : Strokes (Deed.isUpheaval ·) s (s.note .forced).closeLine :=
        .head (.note rfl rfl) (.single (.closes rfl))
      rw [force_of_started hs]
      split
      · -- the loss is made over the line as it was torn down
        cases lose_exchange (s.note .forced).closeLine with
        | silent h => exact .silent (hclosed.trans (h.mono fun _ => Deed.isUpheaval_of_isSetback))
        | call before line held call called after =>
            refine .call (hclosed.trans (before.mono fun _ => Deed.isUpheaval_of_isSetback))
              (.inr ⟨rfl, ?_⟩) (by simpa using held) (Deed.isUpheaval_of_isSetback call) called
              (after.mono fun _ => Deed.isUpheaval_of_isSetback)
            rcases line with hline | ⟨hclosed, -⟩
            · simpa [closeLine] using hline
            · cases hclosed
      · exact .silent hclosed

/-! ### Signals -/

/-- What the driver may enter when it handles a signal, and the signal itself. -/
inductive Signal.Licenses : Signal → Deed → Prop
  | taken {x : Signal} : Licenses x (.took x)
  | start : Licenses .start .opened
  | greeting {tag : String} {view : View} {did : List Reply} :
      Licenses (.transport .connect) (.called tag view .connect did)
  | sync : Licenses (.transport .connect) (.handed Frame.ping.encode .sync)
  | loss {d : Deed} (h : d.isSetback) : Licenses (.transport .disconnect) d
  | message {data tag : String} {view : View} {did : List Reply} :
      Licenses (.transport (.message data)) (.called tag view (.message data) did)
  | force {d : Deed} (h : d.isUpheaval) : Licenses .forceReconnect d
  | acceleration {status : NetworkStatus} : Licenses (.network status) .accelerated
  | network {status : NetworkStatus} {d : Deed} (h : d.isUpheaval) : Licenses (.network status) d
  | answer {snapshot : Snapshot} : Licenses .inspect (.answered snapshot)

/-- The only signal that is licensed is the one that is handled. -/
lemma Signal.Licenses.eq_of_took {x y : Signal} (h : x.Licenses (.took y)) : y = x := by
  cases h with
  | taken => rfl
  | loss h | force h | network h => cases h

lemma observe_exchange (s : Session) (status : NetworkStatus) :
    Exchange (Signal.network status).Licenses s (s.observe status) := by
  rw [observe]
  generalize s.life.presence.observe status _ _ = decided
  obtain ⟨decision, presence⟩ := decided
  have hseen : Strokes (Signal.network status).Licenses s { s with life.presence := presence } :=
    .single (.learn presence .taken)
  cases decision with
  | ignore => exact .silent hseen
  | forceReconnect cut =>
      cases cut with
      | false => exact .after hseen rfl rfl ((force_exchange _).mono fun _ => .network)
      | true =>
          have hcut : Strokes (Signal.network status).Licenses s
              { s with life.presence := presence }.accelerate :=
            hseen.trans (.head (.resolve s.life.started s.life.retry.accelerate)
              (.single (.note rfl .acceleration)))
          exact .after hcut rfl rfl ((force_exchange _).mono fun _ => .network)

/-- The server gets its frame after the connect callback was called. -/
lemma exists_greeted (s : Session) (rest : List Signal)
    (hcalled : ∀ tag view did, p (.called tag view .connect did)) :
    ∃ u, Exchange p (s.connectNoted rest) u ∧
      ({ s with queue := rest }.note (.took (.transport .connect))).greet = u.handIfOpen .ping .sync := by
  rw [greet_eq]
  split
  · exact ⟨_, dispatch_exchange _ hcalled, rfl⟩
  · exact ⟨_, .silent .refl, rfl⟩

lemma greet_exchange (s : Session) (rest : List Signal)
    (hcalled : ∀ tag view did, p (.called tag view .connect did))
    (hhanded : p (.handed Frame.ping.encode .sync)) :
    Exchange p (s.connectNoted rest)
      ({ s with queue := rest }.note (.took (.transport .connect))).greet := by
  obtain ⟨u, hu, hgreet⟩ := exists_greeted s rest hcalled
  exact hgreet ▸ hu.followed (.single (.hand hhanded))

lemma start_strokes (s : Session) (hp : p .opened) : Strokes p s s.start := by
  cases hs : s.life.started with
  | true => exact (start_of_started hs).symm ▸ .refl
  | false =>
      rw [start_of_not_started hs]
      exact .head (.resolve true s.life.retry) (.single (.opens hp))

lemma receive_exchange (s : Session) (data : String) :
    Exchange (Signal.transport (.message data)).Licenses s (s.receive data) := by
  have hheard : Strokes (Signal.transport (.message data)).Licenses s s.recordActivity :=
    .single (.arm (s.life.heartbeat.recordActivity s.now) rfl .taken)
  exact .after hheard rfl rfl (dispatch_exchange _ fun _ _ _ => .message)

/-- Whatever signal is handled but a shutdown, nothing is done that it does not license. -/
lemma handle_exchange (s : Session) (rest : List Signal) {x : Signal}
    (hx : x.isShutdown = false) :
    Exchange x.Licenses ({ s with queue := rest }.note (.took x))
      (({ s with queue := rest }.note (.took x)).handle x) := by
  match x with
  | .start => exact .silent (start_strokes _ .start)
  | .transport .connect =>
      have hnoted : Strokes (Signal.transport .connect).Licenses
          ({ s with queue := rest }.note (.took (.transport .connect))) (s.connectNoted rest) :=
        .head (.arm (s.life.heartbeat.recordActivity s.now) rfl .taken)
          (.single (.resolve s.life.started {}))
      exact .after hnoted rfl rfl (greet_exchange s rest (fun _ _ _ => .greeting) .sync)
  | .transport .disconnect => exact (lose_exchange _).mono fun _ => .loss
  | .transport (.error _) => exact .silent .refl
  | .transport (.message data) => exact receive_exchange _ data
  | .register kind callback => exact .silent (.single (.register .taken))
  | .forceReconnect => exact (force_exchange _).mono fun _ => .force
  | .network status => exact observe_exchange _ status
  | .inspect => exact .silent (.single (.note rfl .answer))
  | .shutdown => cases hx

/-! ### Timers -/

/-- What the driver may enter when its heartbeat is due. -/
def Deed.isVigil : Deed → Bool
  | .beat _ | .handed _ .beat => true
  | d => d.isUpheaval

lemma Deed.isVigil_of_isUpheaval {d : Deed} (h : d.isUpheaval) : d.isVigil := by
  cases d <;> simp_all [isVigil, isUpheaval]

lemma retry_exchange (h : s.life.retry.isDue s.now) : Exchange (· = .opened) s s.retry := by
  rw [retry_of_isDue h]
  exact .silent (.head (.resolve s.life.started _) (.single (.opens rfl)))

lemma beat_exchange (s : Session) : Exchange (Deed.isVigil ·) s s.beat := by
  rw [beat]
  generalize s.life.heartbeat.tick s.now = ticked
  obtain ⟨beat, heartbeat⟩ := ticked
  have hnoted : Strokes (Deed.isVigil ·) s
      ({ s with life.heartbeat := heartbeat }.note (.beat beat)) :=
    .head (.arm heartbeat (d := .beat beat) rfl rfl) (.single (.note rfl rfl))
  cases beat with
  | ping => exact .silent (hnoted.tail (.hand rfl))
  | stale silentFor =>
      dsimp only
      split
      · exact .silent hnoted
      · exact .after hnoted rfl rfl ((force_exchange _).mono fun _ => Deed.isVigil_of_isUpheaval)

/-! ### One deed -/

/-- **One callback a deed.** The driver takes a shutdown and ends, takes another signal, or runs a
timer; unless it ends, its deed is an exchange. -/
lemma drive?_exchange (h : s.drive? = some t) :
    s.running ∧
      ((∃ rest, s.queue = .shutdown :: rest ∧
          t = ({ s with queue := rest }.note (.took .shutdown)).stop) ∨
        (∃ x rest, s.queue = x :: rest ∧ x.isShutdown = false ∧
          Exchange (fun _ => True) ({ s with queue := rest }.note (.took x)) t) ∨
        (s.queue = [] ∧ Exchange (fun _ => True) s t)) := by
  obtain ⟨hrunning, ⟨x, rest, hqueue, rfl⟩ | ⟨hqueue, hdue, rfl⟩ | ⟨hqueue, -, -, rfl⟩⟩ :=
    drive?_cases h
  · refine ⟨hrunning, ?_⟩
    cases hx : x.isShutdown with
    | true =>
        obtain rfl : x = .shutdown := by cases x <;> simp_all [Signal.isShutdown]
        exact .inl ⟨rest, hqueue, rfl⟩
    | false =>
        exact .inr (.inl ⟨x, rest, hqueue, hx, (handle_exchange s rest hx).mono fun _ _ => trivial⟩)
  · exact ⟨hrunning, .inr (.inr ⟨hqueue, (retry_exchange hdue).mono fun _ _ => trivial⟩)⟩
  · exact ⟨hrunning, .inr (.inr ⟨hqueue, (beat_exchange s).mono fun _ _ => trivial⟩)⟩

/-! ### The end -/

/-- Nobody hears of the line any more. -/
lemma hear_of_not_running (h : s.running = false) (es : List TransportEvent) : s.hear es = s := by
  induction es with
  | nil => rfl
  | cons e es ih => rw [hear_cons, show s.post (.transport e) = s by simp [post, h], ih]

/-- The driver has ended, and its line was not disconnected yet. -/
def ended (s : Session) : Session :=
  { s with
    running := false
    queue := []
    life.retry := s.life.retry.cancel
    life.heartbeat := s.life.heartbeat.stop }.note .ended

lemma stop_eq_ended (s : Session) :
    s.stop = if s.life.started then s.ended.closeLine else s.ended := rfl

/-- A driver that ends has a started line disconnect. -/
lemma stop_eq (s : Session) :
    s.stop =
      let ended := { s with
        running := false
        queue := []
        life.retry := s.life.retry.cancel
        life.heartbeat := s.life.heartbeat.stop }.note .ended
      if s.life.started then { ended with line := s.line.disconnect.1 }.note .closed else ended := by
  rw [stop]
  refine if_congr Iff.rfl ?_ rfl
  exact hear_of_not_running rfl _

@[simp] lemma stop_running (s : Session) : s.stop.running = false := by
  rw [stop_eq]; dsimp only; split <;> rfl

@[simp] lemma stop_queue (s : Session) : s.stop.queue = [] := by
  rw [stop_eq]; dsimp only; split <;> rfl

@[simp] lemma stop_life (s : Session) :
    s.stop.life = { s.life with
      retry := s.life.retry.cancel
      heartbeat := s.life.heartbeat.stop } := by
  rw [stop_eq]; dsimp only; split <;> rfl

@[simp] lemma stop_desk (s : Session) : s.stop.desk = s.desk := by
  rw [stop_eq]; dsimp only; split <;> rfl

lemma stop_history (s : Session) :
    s.stop.history = (if s.life.started then [{ time := s.now, deed := .closed }] else []) ++
      { time := s.now, deed := .ended } :: s.history := by
  rw [stop_eq]; dsimp only; split <;> rfl

/-! ### The queue -/

/-- The signal that was taken from the queue. -/
def Deed.took? : Deed → Option Signal
  | .took x => some x
  | _ => none

/-- The signals taken from the queue, in order. -/
def taken (history : List Record) : List Signal := (history.filterMap (·.deed.took?)).reverse

/-- A signal was taken from the queue. -/
def Deed.isTook : Deed → Bool
  | .took _ => true
  | _ => false

/-- How many signals were taken from the queue. -/
def served (history : List Record) : Nat := history.countP (·.deed.isTook)

lemma served_append (h h' : List Record) : served (h ++ h') = served h + served h' :=
  List.countP_append

lemma length_taken (h : List Record) : (taken h).length = served h := by
  rw [taken, List.length_reverse, List.length_filterMap_eq_countP, served]
  refine List.countP_congr fun r _ => ?_
  cases r.deed <;> simp [Deed.took?, Deed.isTook]

@[simp] lemma taken_cons (r : Record) (h : List Record) :
    taken (r :: h) = taken h ++ r.deed.took?.toList := by
  cases hr : r.deed.took? <;> simp [taken, hr]

lemma Deed.took?_of_isOngoing {d : Deed} (h : d.isOngoing) : d.took? = none := by
  cases d <;> simp_all [isOngoing, took?]

lemma Deed.took?_of_isErrand {d : Deed} (h : d.isErrand) : d.took? = none :=
  Deed.took?_of_isOngoing (Deed.isOngoing_of_isErrand h)

lemma Flow.taken_eq (h : Flow q s t) (hq : ∀ d, q d → d.took? = none) :
    taken t.history = taken s.history := by
  obtain ⟨new, hnew, -, hr⟩ := h.entries
  have hnone : new.filterMap (·.deed.took?) = [] :=
    List.filterMap_eq_nil_iff.mpr fun r hmem => hq _ (hr r hmem)
  simp [taken, hnew, hnone]

@[simp] lemma stop_taken (s : Session) : taken s.stop.history = taken s.history := by
  rw [stop_history]
  split
  · simp [Deed.took?]
  · simp [Deed.took?]

@[simp] lemma stop_postings (s : Session) : postings s.stop.history = postings s.history := by
  rw [stop_history]
  split
  · simp [postings, Deed.posted?]
  · simp [postings, Deed.posted?]

/-- The signals taken are the first of those put on the queue, and the rest is waiting. -/
def InTurn (s : Session) : Prop :=
  ∃ waiting, postings s.history = taken s.history ++ waiting ∧ (s.running → s.queue = waiting)

namespace InTurn

variable {x : Signal} {rest : List Signal}

/-- What is put on the queue waits behind what waits there already. -/
lemma flow (h : InTurn s) (ht : Flow q s t) (hq : ∀ d, q d → d.took? = none) : InTurn t := by
  obtain ⟨new, hnew, hqueue, -⟩ := ht.entries
  obtain ⟨waiting, hsplit, hwaiting⟩ := h
  refine ⟨waiting ++ postings new, ?_, fun hrunning => ?_⟩
  · rw [ht.taken_eq hq, hnew, postings_append, hsplit, List.append_assoc]
  · rw [hqueue, hwaiting (ht.running ▸ hrunning)]

lemma touch {within : Action → Prop} (h : InTurn s) (ht : Touch within s t) : InTurn t :=
  h.flow ht.flow fun _ => Deed.took?_of_isErrand

/-- The signal at the head is the next of all that were put on the queue. -/
lemma head (h : InTurn s) (hrunning : s.running) (hqueue : s.queue = x :: rest) :
    (postings s.history)[served s.history]? = some x := by
  obtain ⟨waiting, hsplit, hwaiting⟩ := h
  rw [hsplit, ← length_taken, ← hwaiting hrunning, hqueue, List.getElem?_append_right (Nat.le_refl _),
    Nat.sub_self, List.getElem?_cons_zero]

/-- Once nothing waits, all that was put on the queue was taken from it. -/
lemma served_eq (h : InTurn s) (hrunning : s.running) (hqueue : s.queue = []) :
    served s.history = (postings s.history).length := by
  obtain ⟨waiting, hsplit, hwaiting⟩ := h
  rw [hsplit, ← hwaiting hrunning, hqueue, List.append_nil, length_taken]

/-- The signal at the head is taken, and the others wait. -/
lemma pop (h : InTurn s) (hrunning : s.running) (hqueue : s.queue = x :: rest) :
    InTurn ({ s with queue := rest }.note (.took x)) := by
  obtain ⟨waiting, hsplit, hwaiting⟩ := h
  refine ⟨rest, ?_, fun _ => rfl⟩
  rw [note_history, taken_cons, List.append_assoc, Deed.took?, Option.toList_some,
    List.singleton_append, ← hqueue, hwaiting hrunning, ← hsplit]
  rfl

/-- What an ended driver has left is not taken any more. -/
lemma stop (h : InTurn s) : InTurn s.stop := by
  obtain ⟨waiting, hsplit, -⟩ := h
  refine ⟨waiting, by rwa [stop_postings, stop_taken], fun hrunning => ?_⟩
  rw [stop_running] at hrunning
  cases hrunning

end InTurn

lemma inTurn_invariant : Invariant (fun _ => True) InTurn where
  touch h ht := h.touch ht
  drive h ht := by
    obtain ⟨hrunning, ⟨rest, hqueue, rfl⟩ | ⟨x, rest, hqueue, -, hex⟩ | ⟨-, hex⟩⟩ :=
      drive?_exchange ht
    · exact (h.pop hrunning hqueue).stop
    · exact (h.pop hrunning hqueue).flow hex.flow fun _ => Deed.took?_of_isOngoing
    · exact h.flow hex.flow fun _ => Deed.took?_of_isOngoing
  pass _ h := h

lemma inTurn_fresh (now : Time) (line : Line) : InTurn (fresh now line) :=
  ⟨[], rfl, fun _ => rfl⟩

/-- **First come, first served.** -/
theorem inTurn_run (now : Time) (line : Line) (moves : List Move) :
    InTurn ((fresh now line).run moves) :=
  inTurn_invariant.run (inTurn_fresh now line) fun m _ => m.within_of_forall fun _ => trivial

end ResilientChannel.Session
