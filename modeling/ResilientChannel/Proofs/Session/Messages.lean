import ResilientChannel.Proofs.Session.Exchange

/-!
Inbound messages reach the application once each, in order, and unchanged.

A message goes to the callback whose registration was called last before the message was fired, and is
dropped if there was none (`messages_delivered`).

* **The letters.** `letters` says what the messages among a row of signals call for: each looks back at
  the registrations before it. `deliveries` says what the application was given.
* **The mute deeds.** Apart from a message, a registration and a shutdown, whatever the driver does
  delivers no message and leaves the callbacks alone (`Mute`, `Exchange.mute`).
* **The effect.** `Heeds xs` says that the callback in force is the last that the signals `xs` register,
  and that what was delivered is what they call for. Handling a signal adds it to the row
  (`Heeds.handle`), so that the signals taken have had their effect in every run (`heeds_run`), and they
  are taken in turn (`inTurn_run`).
-/

namespace ResilientChannel.Session

variable {s t : Session} {x : Signal} {xs : List Signal}

/-! ### The letters -/

/-- A message as it is delivered: to which callback, how much it is shown, and the data. -/
structure Letter where
  tag : String
  view : View
  data : String
deriving DecidableEq, Repr

/-- The message that was delivered. -/
def Deed.letter? : Deed → Option Letter
  | .called tag view (.message data) _ => some { tag, view, data }
  | _ => none

/-- The messages delivered, in order. -/
def deliveries (history : List Record) : List Letter :=
  (history.filterMap (·.deed.letter?)).reverse

/-- The callback that a signal registers for messages. -/
def Signal.messageCallback? : Signal → Option Callback
  | .register .message callback => some callback
  | _ => none

/-- The callback that was registered last for messages. -/
def latest? (xs : List Signal) : Option Callback := (xs.filterMap Signal.messageCallback?).getLast?

/-- What a signal calls for after others: a message is delivered to the callback registered last. -/
def Signal.letter? (before : List Signal) : Signal → Option Letter
  | .transport (.message data) => (latest? before).map fun c => { tag := c.tag, view := c.view, data }
  | _ => none

/-- What signals call for that come after others. -/
def lettersAfter (before : List Signal) : List Signal → List Letter
  | [] => []
  | x :: after => (x.letter? before).toList ++ lettersAfter (before ++ [x]) after

/-- What the messages among signals call for, in order. -/
def letters (xs : List Signal) : List Letter := lettersAfter [] xs

lemma lettersAfter_append (before xs ys : List Signal) :
    lettersAfter before (xs ++ ys) = lettersAfter before xs ++ lettersAfter (before ++ xs) ys := by
  induction xs generalizing before with
  | nil => simp [lettersAfter]
  | cons x xs ih => simp [lettersAfter, ih]

lemma letters_concat (xs : List Signal) (x : Signal) :
    letters (xs ++ [x]) = letters xs ++ (x.letter? xs).toList := by
  simp [letters, lettersAfter_append, lettersAfter]

lemma latest?_concat (xs : List Signal) (x : Signal) :
    latest? (xs ++ [x]) = x.messageCallback?.or (latest? xs) := by
  cases hx : x.messageCallback? <;> simp [latest?, hx]

/-- What is called for depends on the registrations before only through the last of them. -/
lemma lettersAfter_congr {before before' : List Signal} (hlatest : latest? before = latest? before')
    (xs : List Signal) : lettersAfter before xs = lettersAfter before' xs := by
  induction xs generalizing before before' with
  | nil => rfl
  | cons x xs ih =>
      have hletter : x.letter? before = x.letter? before' := by
        rw [Signal.letter?.eq_def, Signal.letter?.eq_def, hlatest]
      rw [lettersAfter, lettersAfter, hletter, ih]
      rw [latest?_concat, latest?_concat, hlatest]

/-- A registration of another kind changes nothing. -/
lemma letters_insert {kind : NoticeKind} (hkind : kind ≠ .message) (xs : List Signal) (c : Callback)
    (ys : List Signal) : letters (xs ++ .register kind c :: ys) = letters (xs ++ ys) := by
  have hcallback : Signal.messageCallback? (.register kind c) = none := by
    cases kind with
    | message => exact absurd rfl hkind
    | connect => rfl
    | disconnect => rfl
  have hlatest : latest? (xs ++ [.register kind c]) = latest? xs := by
    rw [latest?_concat, hcallback, Option.none_or]
  rw [letters, letters, lettersAfter_append, lettersAfter_append, lettersAfter, List.nil_append,
    lettersAfter_congr hlatest]
  rfl

/-- Without a message nothing is called for. -/
lemma lettersAfter_eq_nil (before : List Signal) (hxs : ∀ data, .transport (.message data) ∉ xs) :
    lettersAfter before xs = [] := by
  induction xs generalizing before with
  | nil => rfl
  | cons x xs ih =>
      have hnone : x.letter? before = none := by
        cases x with
        | transport event =>
            cases event with
            | message data => exact absurd (List.mem_cons_self ..) (hxs data)
            | _ => rfl
        | _ => rfl
      rw [lettersAfter, hnone, ih]
      · rfl
      · exact fun data hmem => hxs data (List.mem_cons_of_mem _ hmem)

/-! ### The mute deeds -/

/-- An entry that neither delivers a message nor takes a signal. -/
def Deed.isMute (d : Deed) : Bool := d.letter?.isNone && d.took?.isNone

/-- Between the two sessions no message was delivered, no signal taken and no callback registered. -/
abbrev Mute : Session → Session → Prop := Spares (·.callbacks) Deed.isMute

lemma Deed.isMute_of_isErrand {d : Deed} (h : d.isErrand) : d.isMute := by
  simp only [isErrand] at h
  split at h <;> first | rfl | cases h

lemma Deed.took?_of_isMute {d : Deed} (h : d.isMute) : d.took? = none := by
  simp_all [isMute]

lemma Deed.letter?_of_isUpheaval {d : Deed} (h : d.isUpheaval) : d.letter? = none := by
  simp only [isUpheaval] at h
  split at h <;> first | rfl | cases h

lemma Deed.letter?_of_isVigil {d : Deed} (h : d.isVigil) : d.letter? = none := by
  rw [isVigil.eq_def] at h
  split at h
  · rfl
  · rfl
  · exact letter?_of_isUpheaval h

/-- Nothing but a message leads to a delivery. -/
lemma Signal.Licenses.letter?_eq_none {d : Deed} (h : x.Licenses d)
    (hx : ∀ data, x ≠ .transport (.message data)) : d.letter? = none := by
  cases h with
  | taken | start | greeting | sync | acceleration | answer => rfl
  | loss h => exact Deed.letter?_of_isUpheaval (Deed.isUpheaval_of_isSetback h)
  | force h | network h => exact Deed.letter?_of_isUpheaval h
  | message => exact absurd rfl (hx _)

lemma Touch.mute {within : Action → Prop} (h : Touch within s t) : Mute s t :=
  h.spares fun _ => Deed.isMute_of_isErrand

lemma Exchange.mute {p : Deed → Prop} (h : Exchange p s t) (hletter : ∀ d, p d → d.letter? = none)
    (hregister : ∀ kind c, ¬ p (.took (.register kind c))) : Mute s t :=
  h.spares (fun _ => Deed.isMute_of_isErrand)
    (fun d hd hp => by simp [Deed.isMute, hletter d hp, Deed.took?_of_isOngoing hd])
    fun step => step.callbacks hregister

/-! ### The invariant -/

@[simp] lemma deliveries_cons (r : Record) (h : List Record) :
    deliveries (r :: h) = deliveries h ++ r.deed.letter?.toList := by
  cases hr : r.deed.letter? <;> simp [deliveries, hr]

lemma deliveries_append_of_mute {new old : List Record} (h : ∀ r ∈ new, r.deed.isMute) :
    deliveries (new ++ old) = deliveries old := by
  have hnone : new.filterMap (·.deed.letter?) = [] := by
    refine List.filterMap_eq_nil_iff.mpr fun r hr => ?_
    have hmute := h r hr
    simp_all [Deed.isMute]
  simp [deliveries, hnone]

/-- These signals, in this order, have had their effect: the callback in force is the last of them, and
what was delivered is what they call for. -/
structure Heeds (xs : List Signal) (s : Session) : Prop where
  held : s.life.callbacks.slot .message = latest? xs
  delivered : deliveries s.history = letters xs

lemma Heeds.mute (h : Heeds xs s) (ht : Mute s t) : Heeds xs t := by
  obtain ⟨new, hnew, -, hmute⟩ := ht.entries
  have hcallbacks : t.life.callbacks = s.life.callbacks := ht.spared
  refine ⟨by rw [hcallbacks, h.held], ?_⟩
  rw [hnew, deliveries_append_of_mute hmute, h.delivered]

/-- A message goes to the callback in force. -/
lemma Heeds.receive (h : Heeds xs s) (data : String) :
    Heeds (xs ++ [.transport (.message data)]) (s.receive data) := by
  have hheard : Heeds xs s.recordActivity := ⟨h.held, h.delivered⟩
  have hslot : s.recordActivity.life.callbacks.receiver (.message data) = latest? xs := hheard.held
  refine ⟨?_, ?_⟩
  · rw [Session.receive, latest?_concat, ← h.held]
    simp [Session.recordActivity, Signal.messageCallback?]
  · rw [letters_concat, Signal.letter?, Session.receive]
    cases hc : latest? xs with
    | none => rw [dispatch_of_none (hslot.trans hc), hheard.delivered]; simp
    | some c =>
        obtain ⟨new, hnew, -, hmute⟩ := (performAll_flow s.recordActivity c.script).entries
        have hscript : deliveries (new ++ s.recordActivity.history) =
            deliveries s.recordActivity.history :=
          deliveries_append_of_mute fun r hr => Deed.isMute_of_isErrand (hmute r hr)
        rw [Session.dispatch, hslot, hc]
        simp [hnew, hscript, hheard.delivered, Deed.letter?]

/-- A signal that neither registers for messages nor is one has its effect without a word. -/
lemma Heeds.pass (h : Heeds xs s) (hcallback : x.messageCallback? = none)
    (hletter : x.letter? xs = none) : Heeds (xs ++ [x]) s := by
  refine ⟨?_, ?_⟩
  · rw [latest?_concat, hcallback, h.held]
    rfl
  · rw [letters_concat, hletter, h.delivered]
    simp

/-- A registration for messages takes the place of the one before, and the other two kinds have places of
their own. -/
lemma Heeds.register (h : Heeds xs s) (kind : NoticeKind) (c : Callback) :
    Heeds (xs ++ [.register kind c]) (s.handle (.register kind c)) := by
  refine ⟨?_, ?_⟩
  · show (s.life.callbacks.register kind c).slot .message = _
    rw [Callbacks.slot_register, latest?_concat, h.held]
    cases kind with
    | message => rfl
    | connect => rfl
    | disconnect => rfl
  · rw [letters_concat]
    simpa [Signal.letter?, Session.handle] using h.delivered

/-- The end delivers nothing. -/
lemma Heeds.stop (h : Heeds xs s) : Heeds xs s.stop := by
  refine ⟨by rw [stop_life]; exact h.held, ?_⟩
  rw [stop_history, ← h.delivered]
  split
  · simp [Deed.letter?]
  · simp [Deed.letter?]

/-- **One signal.** Whatever is handled has its effect, and no other. -/
lemma Heeds.handle (h : Heeds xs s) (rest : List Signal) (x : Signal) :
    Heeds (xs ++ [x]) (({ s with queue := rest }.note (.took x)).handle x) := by
  have htook : Heeds xs ({ s with queue := rest }.note (.took x)) :=
    ⟨h.held, by simpa [Deed.letter?] using h.delivered⟩
  have hmute (hshutdown : x.isShutdown = false) (hmessage : ∀ data, x ≠ .transport (.message data))
      (hregister : ∀ kind c, x ≠ .register kind c) :
      Heeds xs (({ s with queue := rest }.note (.took x)).handle x) :=
    htook.mute ((handle_exchange s rest hshutdown).mute (fun _ hd => hd.letter?_eq_none hmessage)
      fun kind c hc => hregister kind c hc.eq_of_took.symm)
  cases x with
  | transport event =>
      cases event with
      | message data => exact htook.receive data
      | connect | disconnect | error => exact (hmute rfl nofun nofun).pass rfl rfl
  | register kind c => exact htook.register kind c
  | shutdown => exact htook.stop.pass rfl rfl
  | start | forceReconnect | network | inspect => exact (hmute rfl nofun nofun).pass rfl rfl

/-- The signal that is handled is the last one taken. -/
lemma taken_handle (s : Session) (x : Signal) (rest : List Signal) :
    taken (({ s with queue := rest }.note (.took x)).handle x).history = taken s.history ++ [x] := by
  have htook : taken ({ s with queue := rest }.note (.took x)).history = taken s.history ++ [x] := by
    simp [Deed.took?]
  cases hx : x.isShutdown with
  | true =>
      obtain rfl : x = .shutdown := by cases x <;> simp_all [Signal.isShutdown]
      rw [Session.handle, stop_taken, htook]
  | false => rw [(handle_exchange s rest hx).flow.taken_eq fun _ => Deed.took?_of_isOngoing, htook]

/-- As long as no signal is taken, nothing more is called for. -/
lemma Mute.heeds (ht : Mute s t) (h : Heeds (taken s.history) s) : Heeds (taken t.history) t := by
  rw [ht.taken_eq fun _ => Deed.took?_of_isMute]
  exact h.mute ht

lemma heeds_invariant : Invariant (fun _ => True) fun s => Heeds (taken s.history) s where
  touch h ht := ht.mute.heeds h
  drive {s t} h ht := by
    obtain ⟨-, ⟨x, rest, -, rfl⟩ | ⟨-, hdue, rfl⟩ | ⟨-, -, -, rfl⟩⟩ := drive?_cases ht
    · rw [taken_handle]
      exact h.handle rest x
    · exact ((retry_exchange hdue).mute (by rintro _ rfl; rfl) nofun).heeds h
    · exact ((beat_exchange s).mute (fun _ => Deed.letter?_of_isVigil) nofun).heeds h
  pass _ h := ⟨h.held, h.delivered⟩

/-- The signals taken have had their effect, in the order in which they were put on the queue. -/
theorem heeds_run (now : Time) (line : Line) (moves : List Move) :
    Heeds (taken ((fresh now line).run moves).history) ((fresh now line).run moves) :=
  heeds_invariant.run (s := fresh now line) ⟨rfl, rfl⟩ fun m _ => m.within_of_forall fun _ => trivial

/-! ### The messages -/

/-- The registration that a call makes, if it is one. -/
def Action.registration? : Action → Option (NoticeKind × Callback)
  | .on event tag script =>
      (NoticeKind.ofName? event).map fun kind => (kind, { tag, view := .notice, script })
  | .onMessage tag script => some (.message, { tag, view := .data, script })
  | .onReconnect tag script => some (.connect, { tag, view := .nothing, script })
  | .onDisconnect tag script => some (.disconnect, { tag, view := .nothing, script })
  | _ => none

lemma postings_post (hrunning : s.running) (x : Signal) :
    postings (s.post x).history = postings s.history ++ [x] := by
  rw [post_history, if_pos hrunning]
  simp [postings, Deed.posted?]

/-- A registration counts from its call on. -/
lemma perform_registration {a : Action} {kind : NoticeKind} {c : Callback}
    (ha : a.registration? = some (kind, c)) (hrunning : s.running) (hhandles : s.handles ≠ 0) :
    s.perform a = (s.post (.register kind c), .done) := by
  cases a with
  | on event tag script =>
      obtain ⟨kind', hkind, hpair⟩ := Option.map_eq_some_iff.mp ha
      cases hpair
      simp [perform, onHandle, hhandles, hkind, signal, hrunning]
  | onMessage | onReconnect | onDisconnect =>
      cases ha
      simp [perform, onHandle, hhandles, signal, hrunning]
  | _ => cases ha

/-- What the line fires counts in the order in which it is fired. -/
lemma postings_hear (hrunning : s.running) (events : List TransportEvent) :
    postings (s.hear events).history = postings s.history ++ events.map .transport := by
  induction events generalizing s with
  | nil => simp
  | cons e events ih =>
      rw [hear_cons, ih (by simpa using hrunning), postings_post hrunning]
      simp

/-- **Once each, in order, and unchanged.** In every run the signals taken are the first of those put on
the queue, and the messages delivered are those among the signals taken: each once, as it is, to the
callback registered last before it, or to nobody if there was none. As long as the driver runs and no
message waits, these are all messages that were put on the queue. Registrations of another kind change
nothing. At any moment, also in the midst of a callback, a registration or an event is put on the queue as it
is made or fired. -/
theorem messages_delivered (now : Time) (line : Line) (moves : List Move) :
    let s := (fresh now line).run moves
    (∃ waiting, postings s.history = taken s.history ++ waiting ∧
        (s.running → s.queue = waiting)) ∧
      deliveries s.history = letters (taken s.history) ∧
      (s.running → (∀ data, .transport (.message data) ∉ s.queue) →
        deliveries s.history = letters (postings s.history)) ∧
      (∀ xs kind c ys, kind ≠ .message → taken s.history = xs ++ .register kind c :: ys →
        deliveries s.history = letters (xs ++ ys)) ∧
      (∀ (u : Session) a kind c, a.registration? = some (kind, c) → u.running → u.handles ≠ 0 →
        postings (u.perform a).1.history = postings u.history ++ [.register kind c]) ∧
      (∀ (u : Session) events, u.running →
        postings (u.hear events).history = postings u.history ++ events.map .transport) := by
  intro s
  have horder : InTurn s := inTurn_run now line moves
  have hdelivered : deliveries s.history = letters (taken s.history) :=
    (heeds_run now line moves).delivered
  refine ⟨horder, hdelivered, ?_, ?_, ?_, ?_⟩
  · intro hrunning hnone
    obtain ⟨waiting, hsplit, hwaiting⟩ := horder
    have hrest : lettersAfter (taken s.history) waiting = [] :=
      lettersAfter_eq_nil _ (hwaiting hrunning ▸ hnone)
    rw [hdelivered, hsplit, letters, letters, lettersAfter_append, List.nil_append, hrest,
      List.append_nil]
  · intro xs kind c ys hkind htaken
    rw [hdelivered, htaken, letters_insert hkind]
  · intro u a kind c ha hrunning hhandles
    rw [perform_registration ha hrunning hhandles]
    exact postings_post hrunning _
  · intro u events hrunning
    exact postings_hear hrunning events

end ResilientChannel.Session
