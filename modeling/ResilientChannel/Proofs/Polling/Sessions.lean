import Mathlib.Logic.Basic
import ResilientChannel.Proofs.Polling.Steps

/-!
The event log of a long-polling transport is a row of sessions.

With handlers that only watch, a connect that is not ignored opens a session. Its events are an
announcement, one message for each GET that succeeds, and a closing, and no other events are fired
(`sessions_proper`).

* **The accounts.** A session is told by what was done since its connect: an `Account` of the GETs
  begun, the events fired, the bodies and faults of the GETs that ended, and whether it was torn down.
  `sessions` reads the accounts off a history, and `Account.IsProper` says what the events must be.
* **The watchers.** A passive handler leaves nothing behind but entries that no account counts
  (`fire_aside`).
* **The invariant.** `Orderly` says that all accounts are proper and that the transport rests after a
  closing (`Rests`), or polls with one GET of the current session in flight (`Polls`). Each call and end of
  a GET keeps it.
-/

namespace ResilientChannel

/-! ### Passive calls -/

namespace Transport.Call

mutual

/-- The call only watches: neither it nor any handler that it registers connects, disconnects or
sends. -/
def isPassive : Call → Bool
  | .connect | .disconnect | .send _ => false
  | .state | .url | .peer _ => true
  | .on _ _ script => allPassive script
  | .batch calls => allPassive calls

/-- All calls only watch. -/
def allPassive : List Call → Bool
  | [] => true
  | c :: cs => c.isPassive && allPassive cs

end

mutual

/-- Whatever the call does, the handlers that it registers only watch. -/
def isOutside : Call → Bool
  | .connect | .disconnect | .send _ | .state | .url | .peer _ => true
  | .on _ _ script => allPassive script
  | .batch calls => allOutside calls

/-- All handlers that are registered only watch. -/
def allOutside : List Call → Bool
  | [] => true
  | c :: cs => c.isOutside && allOutside cs

end

end Transport.Call

namespace Polling

open Transport

/-! ### The accounts -/

/-- An event, with the state in which its handler is entered. -/
abbrev Report : Type := TransportEvent × ConnectionState

/-- The event that was fired. -/
def Deed.report? : Deed → Option Report
  | .fired event state => some (event, state)
  | _ => none

/-- All events of a history, in order. -/
def log (h : List Deed) : List Report := (h.filterMap Deed.report?).reverse

/-- What was done in a session. -/
structure Account where
  /-- The GETs begun. -/
  gets : List Get := []
  /-- The events fired, in order. -/
  events : List Report := []
  /-- The bodies of its GETs that succeeded before it ended, in order. -/
  bodies : List String := []
  /-- The faults of its GETs that failed before it ended. -/
  faults : List RequestFault := []
  /-- The transport was told to disconnect before it ended. -/
  torn : Bool := false

namespace Account

/-- A session ends with the first `Disconnect`. -/
def isOver (a : Account) : Bool := a.events.any (·.1 = .disconnect)

/-- The account with one more deed. -/
def note (a : Account) : Deed → Account
  | .began get => { a with gets := a.gets ++ [get] }
  | .fired event state => { a with events := a.events ++ [(event, state)] }
  | .ended get outcome =>
    if a.isOver || get ∉ a.gets then a
    else
      match outcome with
      | .ok body => { a with bodies := a.bodies ++ [body] }
      | .error fault => { a with faults := a.faults ++ [fault] }
  | .called .disconnect => if a.isOver then a else { a with torn := true }
  | _ => a

/-- A session is announced at once if it is the first, and otherwise by its first success. -/
def announcement (first : Bool) (a : Account) : List Report :=
  if first then [(.connect, .idle)] else if a.bodies = [] then [] else [(.connect, .opened)]

/-- One message for each success. -/
def messages (a : Account) : List Report := a.bodies.map fun body => (.message body, .opened)

/-- A failure is told before the end. -/
def closing (a : Account) : List Report :=
  a.faults.map (fun fault => (.error (ChannelError.request fault).message, .opened)) ++
    if a.isOver then [(.disconnect, .idle)] else []

/-- The events are those that the session calls for, and it has ended if and only if a GET failed or it
was torn down, one of the two and no more than once. -/
structure IsProper (first : Bool) (a : Account) : Prop where
  events : a.events = a.announcement first ++ a.messages ++ a.closing
  ending : a.faults.length + a.torn.toNat = a.isOver.toNat

end Account

/-- The sessions of a history, the latest first: a connect opens one unless the latest goes on. -/
def sessions : List Deed → List Account
  | [] => []
  | .called .connect :: older =>
    match sessions older with
    | [] => [{}]
    | a :: past => if a.isOver then {} :: a :: past else a :: past
  | d :: older =>
    match sessions older with
    | [] => []
    | a :: past => a.note d :: past

variable {p q : Polling} {a : Account} {past : List Account} {depth : Nat} {get : Get}

/-! ### The watchers -/

/-- Every handler only watches. -/
def Watching (h : Handlers Handler) : Prop :=
  ∀ kind handler, h.slot kind = some handler → Call.allPassive handler.script

lemma Watching.register {h : Handlers Handler} (hw : Watching h) (kind : TransportEventKind)
    {handler : Handler} (hh : Call.allPassive handler.script) :
    Watching (h.register kind handler) := by
  intro other handler' hslot
  rw [Handlers.slot_register] at hslot
  split at hslot
  · cases hslot
    exact hh
  · exact hw other handler' hslot

/-- An entry that no account counts. -/
def Deed.isAside : Deed → Bool
  | .handled .. | .did .. | .posted _ | .called (.send _) => true
  | _ => false

/-- Between the two states nothing was done but to register handlers that watch, and to enter what no
account counts. -/
structure Aside (p q : Polling) : Prop where
  same : q = { p with handlers := q.handlers, history := q.history }
  watching : Watching q.handlers
  history : ∃ talk, q.history = talk ++ p.history ∧ ∀ d ∈ talk, d.isAside

namespace Aside

lemma refl (hw : Watching p.handlers) : Aside p p := ⟨rfl, hw, [], rfl, nofun⟩

lemma trans {r : Polling} (h : Aside p q) (h' : Aside q r) : Aside p r := by
  obtain ⟨talk, htalk, hd⟩ := h.history
  obtain ⟨talk', htalk', hd'⟩ := h'.history
  refine ⟨?_, h'.watching, talk' ++ talk, by rw [htalk', htalk, List.append_assoc], fun d hmem => ?_⟩
  · rw [h'.same, h.same]
  · rcases List.mem_append.mp hmem with hmem | hmem
    · exact hd' d hmem
    · exact hd d hmem

lemma note (h : Aside p q) {d : Deed} (hd : d.isAside) : Aside p (q.note d) :=
  h.trans ⟨rfl, h.watching, [d], rfl, by simpa using hd⟩

end Aside

mutual

/-- A passive call leaves no trace but its handlers. -/
lemma perform_aside (enter : Entry) {p : Polling} (hw : Watching p.handlers) :
    ∀ c : Call, c.isPassive → Aside p (p.perform enter c).1
  | .connect, h | .disconnect, h | .send _, h => by
      simp only [Call.isPassive] at h
      cases h
  | .state, _ | .url, _ | .peer _, _ => by
      simp only [perform]
      exact .refl hw
  | .on kind _ script, h => by
      simp only [Call.isPassive] at h
      simp only [perform]
      exact ⟨rfl, hw.register kind h, [], rfl, nofun⟩
  | .batch calls, h => by
      simp only [Call.isPassive] at h
      simp only [perform]
      exact performAll_aside enter hw calls h

lemma performAll_aside (enter : Entry) {p : Polling} (hw : Watching p.handlers) :
    ∀ calls : List Call, Call.allPassive calls → Aside p (p.performAll enter calls).1
  | [], _ => by
      simp only [performAll]
      exact .refl hw
  | c :: cs, h => by
      simp only [Call.allPassive, Bool.and_eq_true] at h
      simp only [performAll]
      have hfirst := perform_aside enter hw c h.1
      exact hfirst.trans (performAll_aside enter hfirst.watching cs h.2)

end

/-- Entering a handler that watches. -/
lemma enter_aside (depth : Nat) (hw : Watching p.handlers) {handler : Handler}
    (h : Call.allPassive handler.script) : Aside p (enter depth handler p) := by
  cases depth with
  | zero => exact .refl hw
  | succ depth =>
      obtain ⟨tag, script⟩ := handler
      rw [enter]
      induction script generalizing p with
      | nil => exact .refl hw
      | cons c cs ih =>
          simp only [Call.allPassive, Bool.and_eq_true] at h
          have hfirst := (perform_aside (enter depth) hw c h.1).note
            (d := .did c (p.perform (enter depth) c).2) rfl
          exact hfirst.trans (ih hfirst.watching h.2)

/-- Once an event is fired, all that follows is aside. -/
lemma fire_aside (hw : Watching p.handlers) (depth : Nat) (event : TransportEvent) :
    Aside (p.note (.fired event p.state)) (p.fire (enter depth) event) := by
  have hfired : Aside (p.note (.fired event p.state)) (p.note (.fired event p.state)) := .refl hw
  rw [fire]
  split
  · exact hfired
  next handler hreceiver =>
    have hentered := hfired.note (d := .handled handler.tag event) rfl
    exact hentered.trans (enter_aside depth hentered.watching (hw event.kind handler hreceiver))

/-! ### The log -/

lemma log_cons (d : Deed) (h : List Deed) : log (d :: h) = log h ++ d.report?.toList := by
  cases hd : d.report? <;> simp [log, hd]

lemma Account.events_note (a : Account) (d : Deed) :
    (a.note d).events = a.events ++ d.report?.toList := by
  cases d with
  | called call => cases call <;> simp [note, Deed.report?, apply_ite events]
  | ended get outcome =>
      cases outcome <;> simp [note, Deed.report?, apply_ite events]
  | _ => simp [note, Deed.report?]

lemma Account.isOver_note (a : Account) (d : Deed) :
    (a.note d).isOver = (a.isOver || d.report?.any (·.1 = .disconnect)) := by
  rw [isOver, events_note, List.any_append]
  cases d.report? <;> simp [isOver]

lemma sessions_of_cons {h : List Deed} (hs : sessions h = a :: past) {d : Deed}
    (hd : d ≠ .called .connect) : sessions (d :: h) = a.note d :: past := by
  cases d with
  | called call => cases call <;> simp_all [sessions]
  | _ => simp [sessions, hs]

lemma sessions_of_nil {h : List Deed} (hs : sessions h = []) {d : Deed}
    (hd : d ≠ .called .connect) : sessions (d :: h) = [] := by
  cases d with
  | called call => cases call <;> simp_all [sessions]
  | _ => simp [sessions, hs]

lemma sessions_aside {h : List Deed} {d : Deed} (hd : d.isAside) : sessions (d :: h) = sessions h := by
  have hother : d ≠ .called .connect := by
    rintro rfl
    cases hd
  cases hs : sessions h with
  | nil => exact sessions_of_nil hs hother
  | cons a past =>
      have hsame : a.note d = a := by
        cases d with
        | called call => cases call <;> simp_all [Deed.isAside, Account.note]
        | _ => simp_all [Deed.isAside, Account.note]
      rw [sessions_of_cons hs hother, hsame]

lemma sessions_talk {h talk : List Deed} (ht : ∀ d ∈ talk, d.isAside) :
    sessions (talk ++ h) = sessions h := by
  induction talk with
  | nil => rfl
  | cons d talk ih =>
      rw [List.cons_append, sessions_aside (ht d (by simp)), ih fun d' hd' => ht d' (by simp [hd'])]

/-- Every event belongs to a session. -/
def Logged (h : List Deed) : Prop := log h = (sessions h).reverse.flatMap (·.events)

/-- Before the first connect no event may be fired. -/
lemma Logged.cons {h : List Deed} (hl : Logged h) {d : Deed}
    (hd : sessions h = [] → d.report? = none) : Logged (d :: h) := by
  rw [Logged, log_cons, hl]
  by_cases hconnect : d = .called .connect
  · subst hconnect
    cases hs : sessions h with
    | nil => simp [sessions, hs, Deed.report?]
    | cons a past => cases hover : a.isOver <;> simp [sessions, hs, hover, Deed.report?]
  · cases hs : sessions h with
    | nil => simp [sessions_of_nil hs hconnect, hd hs]
    | cons a past => simp [sessions_of_cons hs hconnect, Account.events_note]

lemma Logged.talk {h talk : List Deed} (hl : Logged h) (ht : ∀ d ∈ talk, d.isAside) :
    Logged (talk ++ h) := by
  induction talk with
  | nil => exact hl
  | cons d talk ih =>
      refine (ih fun d' hd' => ht d' (by simp [hd'])).cons fun _ => ?_
      have haside := ht d (by simp)
      cases d <;> simp_all [Deed.isAside, Deed.report?]

/-! ### The invariant -/

/-- Every session is proper, the oldest as the first. -/
def AllProper : List Account → Prop
  | [] => True
  | a :: past => a.IsProper past.isEmpty ∧ AllProper past

/-- The latest session goes on: one of its GETs is in flight, and counted. -/
structure Polls (get : Get) (a : Account) (past : List Account) (p : Polling) : Prop where
  goesOn : a.isOver = false
  outstanding : p.outstanding = 1
  inFlight : p.inFlight = [get]
  session : get.session = p.session
  began : get ∈ a.gets
  announced : p.announced = (past.isEmpty || !a.bodies.isEmpty)

/-- There is no session that goes on: nothing is in flight, and nothing counted. -/
structure Rests (all : List Account) (p : Polling) : Prop where
  closed : ∀ a ∈ all.head?, a.isOver
  outstanding : p.outstanding = 0
  inFlight : p.inFlight = []

/-- The sessions so far are proper, and the transport is at rest or polls. -/
structure Orderly (p : Polling) : Prop where
  watching : Watching p.handlers
  proper : AllProper (sessions p.history)
  logged : Logged p.history
  first : p.first = (sessions p.history).isEmpty
  stage : Rests (sessions p.history) p ∨
    ∃ get a past, sessions p.history = a :: past ∧ Polls get a past p

/-! ### A session in progress -/

namespace Aside

variable (h : Aside p q)

include h

lemma outstanding : q.outstanding = p.outstanding := by rw [h.same]

lemma inFlight : q.inFlight = p.inFlight := by rw [h.same]

lemma session : q.session = p.session := by rw [h.same]

lemma announced : q.announced = p.announced := by rw [h.same]

lemma first : q.first = p.first := by rw [h.same]

end Aside

/-- The latest session has the account `a`, which need not be proper in the midst of a call. -/
structure Draft (a : Account) (past : List Account) (p : Polling) : Prop where
  watching : Watching p.handlers
  logged : Logged p.history
  first : p.first = false
  sessions : sessions p.history = a :: past

namespace Draft

lemma congr (h : Draft a past p) (hhandlers : q.handlers = p.handlers)
    (hfirst : q.first = p.first) (hhistory : q.history = p.history) : Draft a past q :=
  ⟨hhandlers ▸ h.watching, hhistory ▸ h.logged, hfirst ▸ h.first, hhistory ▸ h.sessions⟩

lemma note (h : Draft a past p) {d : Deed} (hd : d ≠ .called .connect) :
    Draft (a.note d) past (p.note d) :=
  ⟨h.watching, h.logged.cons fun hnil => by simp [h.sessions] at hnil, h.first,
    sessions_of_cons h.sessions hd⟩

lemma aside (h : Draft a past p) (ha : Aside p q) : Draft a past q := by
  obtain ⟨talk, htalk, hd⟩ := ha.history
  exact ⟨ha.watching, htalk ▸ h.logged.talk hd, ha.first.trans h.first,
    by rw [htalk, sessions_talk hd, h.sessions]⟩

/-- The event goes into the account, and its handler only watches. -/
lemma fire (h : Draft a past p) (depth : Nat) (event : TransportEvent) :
    Draft (a.note (.fired event p.state)) past (p.fire (enter depth) event) :=
  (h.note (by simp)).aside (fire_aside h.watching depth event)

/-- A call is over when the account is proper again. -/
lemma orderly (h : Draft a past p) (ha : a.IsProper past.isEmpty) (hpast : AllProper past)
    (hstage : Rests (a :: past) p ∨ ∃ get, Polls get a past p) : Orderly p where
  watching := h.watching
  proper := h.sessions ▸ ⟨ha, hpast⟩
  logged := h.logged
  first := by rw [h.first, h.sessions]; rfl
  stage := by
    rw [h.sessions]
    exact hstage.imp_right fun ⟨get, hp⟩ => ⟨get, a, past, rfl, hp⟩

end Draft

/-- The latest session goes on and is proper so far. -/
structure Going (get : Get) (a : Account) (past : List Account) (p : Polling) : Prop
    extends Draft a past p, Polls get a past p where
  proper : a.IsProper past.isEmpty
  allProper : AllProper past

lemma Going.orderly (h : Going get a past p) : Orderly p :=
  h.toDraft.orderly h.proper h.allProper (.inr ⟨get, h.toPolls⟩)

/-- The transport rests, or the latest session goes on. -/
lemma Orderly.stage_cases (h : Orderly p) :
    Rests (sessions p.history) p ∨ ∃ get a past, Going get a past p := by
  refine h.stage.imp_right fun ⟨get, a, past, hs, hp⟩ => ?_
  have hproper := h.proper
  have hfirst := h.first
  rw [hs] at hproper hfirst
  exact ⟨get, a, past, ⟨h.watching, h.logged, hfirst, hs⟩, hp, hproper.1, hproper.2⟩

/-! ### What a session calls for -/

namespace Account

variable {first : Bool}

/-- Nothing has ended a session that goes on. -/
lemma IsProper.faults_eq_nil (h : a.IsProper first) (hopen : a.isOver = false) : a.faults = [] := by
  have hending := h.ending
  rw [hopen, Bool.toNat_false] at hending
  exact List.length_eq_zero_iff.mp (by omega)

lemma IsProper.torn_eq_false (h : a.IsProper first) (hopen : a.isOver = false) : a.torn = false := by
  have hending := h.ending
  rw [hopen, Bool.toNat_false] at hending
  cases htorn : a.torn with
  | false => rfl
  | true => simp [htorn] at hending

/-- So far the events are an announcement and messages. -/
lemma IsProper.events_eq (h : a.IsProper first) (hopen : a.isOver = false) :
    a.events = a.announcement first ++ a.messages := by
  simp [h.events, closing, h.faults_eq_nil hopen, hopen]

lemma IsProper.began (h : a.IsProper first) (get : Get) : (a.note (.began get)).IsProper first :=
  ⟨h.events, h.ending⟩

lemma note_ended (hopen : a.isOver = false) (hget : get ∈ a.gets)
    (outcome : Except RequestFault String) :
    a.note (.ended get outcome) =
      match outcome with
      | .ok body => { a with bodies := a.bodies ++ [body] }
      | .error fault => { a with faults := a.faults ++ [fault] } := by
  cases outcome <;> simp [note, hopen, hget]

lemma note_disconnect (hopen : a.isOver = false) :
    a.note (.called .disconnect) = { a with torn := true } := by
  simp [note, hopen]

/-- A success is told as a message. Unless the session was announced before, it is announced first. -/
lemma IsProper.answered (h : a.IsProper first) (hopen : a.isOver = false) (hget : get ∈ a.gets)
    (body : String) :
    ((if first || !a.bodies.isEmpty then a.note (.ended get (.ok body))
      else (a.note (.ended get (.ok body))).note (.fired .connect .opened)).note
        (.fired (.message body) .opened)).IsProper first := by
  have hfaults := h.faults_eq_nil hopen
  have htorn := h.torn_eq_false hopen
  have hevents := h.events_eq hopen
  have hopen' : (a.events.any fun x => decide (x.1 = .disconnect)) = false := hopen
  rw [note_ended hopen hget]
  refine ⟨?_, ?_⟩
  · cases first <;> cases hbodies : a.bodies <;>
      simp [note, closing, isOver, announcement, messages, *]
  · split <;> simp [note, isOver, hfaults, htorn, hopen']

lemma IsProper.failed (h : a.IsProper first) (hopen : a.isOver = false) (hget : get ∈ a.gets)
    (fault : RequestFault) :
    (((a.note (.ended get (.error fault))).note
      (.fired (.error (ChannelError.request fault).message) .opened)).note
        (.fired .disconnect .idle)).IsProper first := by
  have hfaults := h.faults_eq_nil hopen
  have htorn := h.torn_eq_false hopen
  have hevents := h.events_eq hopen
  rw [note_ended hopen hget]
  refine ⟨?_, ?_⟩
  · simp [note, closing, isOver, hfaults, hevents, announcement, messages]
  · simp [note, isOver, hfaults, htorn]

lemma IsProper.tornDown (h : a.IsProper first) (hopen : a.isOver = false) :
    ((a.note (.called .disconnect)).note (.fired .disconnect .idle)).IsProper first := by
  have hfaults := h.faults_eq_nil hopen
  have hevents := h.events_eq hopen
  rw [note_disconnect hopen]
  refine ⟨?_, ?_⟩
  · simp [note, closing, isOver, hfaults, hevents, announcement, messages]
  · simp [note, isOver, hfaults]

end Account

/-! ### The calls and the ends of GETs -/

lemma state_of_pos (h : 0 < p.outstanding) : p.state = .opened := if_pos h

lemma state_of_zero (h : p.outstanding = 0) : p.state = .idle := if_neg (by omega)

/-- In the midst of a GET's end: it is told that nothing else is in flight, and the GET still counts. -/
structure Ending (session : Nat) (p : Polling) : Prop where
  outstanding : p.outstanding = 1
  inFlight : p.inFlight = []
  session : p.session = session

lemma Ending.aside {σ : Nat} (h : Ending σ p) (ha : Aside p q) : Ending σ q :=
  ⟨ha.outstanding.trans h.outstanding, ha.inFlight.trans h.inFlight, ha.session.trans h.session⟩

lemma Ending.fire {σ : Nat} (h : Ending σ p) (hw : Watching p.handlers) (depth : Nat)
    (event : TransportEvent) : Ending σ (p.fire (enter depth) event) :=
  Ending.aside (p := p.note (.fired event p.state)) ⟨h.outstanding, h.inFlight, h.session⟩
    (fire_aside hw depth event)

lemma Ending.release {σ : Nat} (h : Ending σ p) :
    p.release σ = (some 0, { p with outstanding := 0 }) := by
  simp [Polling.release, h.outstanding, h.session]

lemma Draft.fireOpened (h : Draft a past p) {σ : Nat} (he : Ending σ p) (depth : Nat)
    (event : TransportEvent) :
    Draft (a.note (.fired event .opened)) past (p.fire (enter depth) event) := by
  have hstate : p.state = .opened := state_of_pos (by rw [he.outstanding]; omega)
  exact hstate ▸ h.fire depth event

/-- The GET's end is noted first. -/
lemma Draft.ended (h : Draft a past p) (hp : Polls get a past p)
    (outcome : Except RequestFault String) :
    let q := { p with inFlight := p.inFlight.erase get }.note (.ended get outcome)
    Draft (a.note (.ended get outcome)) past q ∧ Ending p.session q := by
  have hremoved : Draft a past { p with inFlight := p.inFlight.erase get } := h.congr rfl rfl rfl
  exact ⟨hremoved.note nofun, hp.outstanding, by simp [hp.inFlight], rfl⟩

/-- The session is announced, unless it was before. -/
def announce (enter : Entry) (p : Polling) : Polling :=
  if p.announced then p else { p with announced := true }.fire enter .connect

lemma told_ok (enter : Entry) (p : Polling) (get : Get) (body : String) :
    p.told enter get (.ok body) =
      (({ p with inFlight := p.inFlight.erase get }.note (.ended get (.ok body))).announce enter).fire
        enter (.message body) := rfl

lemma Draft.announce (h : Draft a past p) {σ : Nat} (he : Ending σ p) (depth : Nat) :
    Draft (if p.announced then a else a.note (.fired .connect .opened)) past
        (p.announce (enter depth)) ∧
      Ending σ (p.announce (enter depth)) ∧ (p.announce (enter depth)).announced = true := by
  rw [Polling.announce]
  cases hannounced : p.announced with
  | true => exact ⟨h, he, hannounced⟩
  | false =>
      have hset : Draft a past { p with announced := true } := h.congr rfl rfl rfl
      have hset' : Ending σ { p with announced := true } := ⟨he.outstanding, he.inFlight, he.session⟩
      exact ⟨hset.fireOpened hset' depth _, hset'.fire hset.watching depth _,
        (fire_aside hset.watching depth .connect).announced⟩

/-- A poll goes on with a new GET. -/
lemma Draft.arm (h : Draft a past p) (hproper : a.IsProper past.isEmpty) (hpast : AllProper past)
    (hopen : a.isOver = false) (hcount : p.outstanding = 0) (hin : p.inFlight = [])
    (hannounced : p.announced = (past.isEmpty || !a.bodies.isEmpty)) :
    ∃ get a', Going get a' past p.arm := by
  have hcounted : Draft a past { p with
      outstanding := p.outstanding + 1
      inFlight := p.inFlight ++ [{ id := p.started, session := p.session }]
      started := p.started + 1 } := h.congr rfl rfl rfl
  exact ⟨{ id := p.started, session := p.session }, _, {
    toDraft := hcounted.note (d := .began { id := p.started, session := p.session }) nofun
    goesOn := hopen
    outstanding := congrArg (· + 1) hcount
    inFlight := congrArg (· ++ [_]) hin
    session := rfl
    began := by simp [Account.note]
    announced := hannounced
    proper := hproper.began _
    allProper := hpast }⟩

/-- Once the end of a GET has been told, nothing is left to count. -/
lemma complete_of_ending (hp : Polls get a past p) {outcome : Except RequestFault String}
    (he : Ending p.session (p.told (enter depth) get outcome)) :
    p.complete (enter depth) get outcome =
      { p.told (enter depth) get outcome with outstanding := 0 }.conclude (enter depth) outcome
        (some 0) := by
  rw [complete_of_mem (by simp [hp.inFlight]) hp.session, hp.session, he.release]

/-- A GET that succeeds is told, and the poll goes on. -/
lemma Going.answered (h : Going get a past p) (depth : Nat) (body : String) :
    Orderly (p.complete (enter depth) get (.ok body)) := by
  obtain ⟨hended, hending⟩ := h.toDraft.ended h.toPolls (.ok body)
  obtain ⟨hannounced, hannounced', hset⟩ := hended.announce hending depth
  have htold := hannounced.fireOpened hannounced' depth (.message body)
  have htold' := hannounced'.fire hannounced.watching depth (.message body)
  have hset' := (fire_aside hannounced.watching depth (.message body)).announced.trans hset
  rw [← told_ok] at htold htold' hset'
  have hanswered := h.proper.answered h.goesOn h.began body
  rw [← h.announced] at hanswered
  rw [complete_of_ending h.toPolls htold']
  have hcounted : Draft _ past { p.told (enter depth) get (.ok body) with outstanding := 0 } :=
    htold.congr rfl rfl rfl
  have hagain : ∃ next a', Going next a' past
      { p.told (enter depth) get (.ok body) with outstanding := 0 }.arm := by
    refine hcounted.arm hanswered h.allProper ?_ rfl htold'.inFlight (hset'.trans ?_)
    · rw [Account.isOver_note]
      split <;> simp [Account.isOver_note, h.goesOn, Deed.report?]
    · rw [Account.note_ended h.goesOn h.began]
      split <;> simp [Account.note]
  obtain ⟨_, _, hgoing⟩ := hagain
  exact hgoing.orderly

/-- A session ends with its `Disconnect`, once nothing is in flight or counted. -/
lemma Draft.close (h : Draft a past p) (hcount : p.outstanding = 0) (hin : p.inFlight = [])
    (hproper : (a.note (.fired .disconnect .idle)).IsProper past.isEmpty) (hpast : AllProper past)
    (depth : Nat) : Orderly (p.fire (enter depth) .disconnect) := by
  have hlast := h.fire depth .disconnect
  have hfired := fire_aside h.watching depth .disconnect
  rw [state_of_zero hcount] at hlast
  refine hlast.orderly hproper hpast (.inl ⟨?_, hfired.outstanding.trans hcount,
    hfired.inFlight.trans hin⟩)
  simp [Account.isOver_note, Deed.report?]

lemma told_error (enter : Entry) (p : Polling) (get : Get) (fault : RequestFault) :
    p.told enter get (.error fault) =
      ({ p with inFlight := p.inFlight.erase get }.note (.ended get (.error fault))).fire enter
        (.error (ChannelError.request fault).message) := rfl

/-- A GET that fails is told, and the session ends. -/
lemma Going.failed (h : Going get a past p) (depth : Nat) (fault : RequestFault) :
    Orderly (p.complete (enter depth) get (.error fault)) := by
  obtain ⟨hended, hending⟩ := h.toDraft.ended h.toPolls (.error fault)
  have htold := hended.fireOpened hending depth (.error (ChannelError.request fault).message)
  have htold' := hending.fire hended.watching depth (.error (ChannelError.request fault).message)
  rw [← told_error] at htold htold'
  rw [complete_of_ending h.toPolls htold']
  have hcounted : Draft _ past { p.told (enter depth) get (.error fault) with outstanding := 0 } :=
    htold.congr rfl rfl rfl
  exact hcounted.close rfl htold'.inFlight (h.proper.failed h.goesOn h.began fault) h.allProper depth

/-- Whatever GET ends, the sessions stay proper. -/
lemma Orderly.complete (h : Orderly p) (depth : Nat) (get : Get)
    (outcome : Except RequestFault String) : Orderly (p.complete (enter depth) get outcome) := by
  obtain hrests | ⟨polled, a, past, hgoing⟩ := h.stage_cases
  · rw [complete_of_not_mem (by simp [hrests.inFlight])]
    exact h
  · by_cases hget : get ∈ p.inFlight
    · obtain rfl : get = polled := by simpa [hgoing.inFlight] using hget
      cases outcome with
      | ok body => exact hgoing.answered depth body
      | error fault => exact hgoing.failed depth fault
    · rw [complete_of_not_mem hget]
      exact h

/-! ### Calls -/

/-- What is done aside keeps the sessions, and the transport at rest or polling. -/
lemma Orderly.aside (h : Orderly p) (ha : Aside p q) : Orderly q := by
  obtain ⟨talk, htalk, hd⟩ := ha.history
  have hsame : sessions q.history = sessions p.history := by rw [htalk, sessions_talk hd]
  refine ⟨ha.watching, hsame ▸ h.proper, htalk ▸ h.logged.talk hd, ?_, ?_⟩
  · rw [ha.first, hsame, h.first]
  · rw [hsame]
    obtain hrests | ⟨get, a, past, hs, hp⟩ := h.stage
    · exact .inl ⟨hrests.closed, ha.outstanding.trans hrests.outstanding,
        ha.inFlight.trans hrests.inFlight⟩
    · exact .inr ⟨get, a, past, hs, hp.goesOn, ha.outstanding.trans hp.outstanding,
        ha.inFlight.trans hp.inFlight, hp.session.trans ha.session.symm, hp.began,
        ha.announced.trans hp.announced⟩

lemma Orderly.send (h : Orderly p) (message : String) : Orderly (p.send message) := by
  refine h.aside ?_
  have hcalled : Aside p (p.note (.called (.send message))) := (Aside.refl h.watching).note rfl
  rw [Polling.send]
  split
  · exact hcalled.note rfl
  · exact hcalled

lemma connect_of_opened (hopen : p.state = .opened) (enter : Entry) :
    p.connect enter = p.note (.called .connect) := by
  rw [Polling.connect]
  exact if_pos (by rw [show (p.note (.called .connect)).state = p.state from rfl, hopen]; rfl)

lemma connect_of_idle (hidle : p.state = .idle) (enter : Entry) :
    p.connect enter =
      (if p.first then
        { p.note (.called .connect) with first := false, announced := p.first }.fire enter .connect
      else { p.note (.called .connect) with first := false, announced := p.first }).arm := by
  rw [Polling.connect]
  exact if_neg (by rw [show (p.note (.called .connect)).state = p.state from rfl, hidle]; decide)

/-- At rest a connect opens a session. -/
lemma sessions_connect {h : List Deed} (hover : ∀ a ∈ (sessions h).head?, a.isOver) :
    sessions (.called .connect :: h) = {} :: sessions h := by
  cases hs : sessions h with
  | nil => simp [sessions, hs]
  | cons a past =>
      rw [hs] at hover
      simp [sessions, hs, hover a rfl]

lemma sessions_connect_of_goesOn {h : List Deed} (hs : sessions h = a :: past)
    (hopen : a.isOver = false) : sessions (.called .connect :: h) = a :: past := by
  simp [sessions, hs, hopen]

/-- At rest a connect opens a session. Only the first is announced at once. -/
lemma Orderly.opens (h : Orderly p) (hrests : Rests (sessions p.history) p) (depth : Nat) :
    ∃ get a, Going get a (sessions p.history) (p.connect (enter depth)) := by
  have hdraft : Draft {} (sessions p.history)
      { p.note (.called .connect) with first := false, announced := p.first } :=
    ⟨h.watching, h.logged.cons fun _ => rfl, rfl, sessions_connect hrests.closed⟩
  have hidle : { p.note (.called .connect) with first := false, announced := p.first }.state =
      .idle := state_of_zero hrests.outstanding
  rw [connect_of_idle (state_of_zero hrests.outstanding)]
  cases hfirst : p.first with
  | true =>
      have hall : sessions p.history = [] := by simpa [hfirst] using h.first
      have hconnect := hdraft.fire depth .connect
      have hfired := fire_aside hdraft.watching depth .connect
      rw [hidle, hall, hfirst] at hconnect
      rw [hfirst] at hfired
      rw [hall]
      exact hconnect.arm ⟨rfl, rfl⟩ trivial rfl (hfired.outstanding.trans hrests.outstanding)
        (hfired.inFlight.trans hrests.inFlight) (by rw [hfired.announced]; rfl)
  | false =>
      have hsome : (sessions p.history).isEmpty = false := by rw [← h.first, hfirst]
      have hproper : ({} : Account).IsProper (sessions p.history).isEmpty := by
        rw [hsome]
        exact ⟨rfl, rfl⟩
      rw [hfirst] at hdraft
      exact hdraft.arm hproper h.proper rfl hrests.outstanding hrests.inFlight (by rw [hsome]; rfl)

lemma Orderly.connect (h : Orderly p) (depth : Nat) : Orderly (p.connect (enter depth)) := by
  obtain hrests | ⟨get, a, past, hgoing⟩ := h.stage_cases
  · obtain ⟨_, _, hopened⟩ := h.opens hrests depth
    exact hopened.orderly
  · rw [connect_of_opened (state_of_pos (by rw [hgoing.outstanding]; omega))]
    have hcalled : Draft a past (p.note (.called .connect)) :=
      ⟨hgoing.watching, hgoing.logged.cons fun _ => rfl, hgoing.first,
        sessions_connect_of_goesOn hgoing.sessions hgoing.goesOn⟩
    exact hcalled.orderly hgoing.proper hgoing.allProper (.inr ⟨get, hgoing.goesOn,
      hgoing.outstanding, hgoing.inFlight, hgoing.session, hgoing.began, hgoing.announced⟩)

lemma Orderly.disconnect (h : Orderly p) (depth : Nat) : Orderly (p.disconnect (enter depth)) := by
  rw [Polling.disconnect]
  obtain hrests | ⟨get, a, past, hgoing⟩ := h.stage_cases
  · have hsame : sessions (.called .disconnect :: p.history) = sessions p.history := by
      cases hs : sessions p.history with
      | nil => exact sessions_of_nil hs (by simp)
      | cons a past =>
          have hover : a.isOver = true := hrests.closed a (by simp [hs])
          rw [sessions_of_cons hs (d := .called .disconnect) (by simp)]
          simp [Account.note, hover]
    rw [if_neg (by simp [hrests.outstanding])]
    exact {
      watching := h.watching
      proper := hsame ▸ h.proper
      logged := h.logged.cons fun _ => rfl
      first := h.first.trans (congrArg List.isEmpty hsame.symm)
      stage := .inl ⟨hsame ▸ hrests.closed, rfl, rfl⟩ }
  · have hcalled := hgoing.toDraft.note (d := .called .disconnect) (by simp)
    have hcut : Draft _ past { p.note (.called .disconnect) with
        session := p.session + 1, inFlight := [], outstanding := 0 } := hcalled.congr rfl rfl rfl
    rw [if_pos (by simp [hgoing.outstanding])]
    exact hcut.close rfl rfl (hgoing.proper.tornDown hgoing.goesOn) hgoing.allProper depth

mutual

/-- A call from outside keeps the sessions proper. -/
lemma Orderly.perform {p : Polling} (h : Orderly p) (depth : Nat) :
    ∀ c : Call, c.isOutside → Orderly (p.perform (enter depth) c).1
  | .connect, _ => by
      simp only [Polling.perform]
      exact h.connect depth
  | .disconnect, _ => by
      simp only [Polling.perform]
      exact h.disconnect depth
  | .send message, _ => by
      simp only [Polling.perform]
      exact h.send message
  | .state, _ | .url, _ | .peer _, _ => by
      simp only [Polling.perform]
      exact h
  | .on kind _ script, hc => by
      simp only [Call.isOutside] at hc
      simp only [Polling.perform]
      exact h.aside ⟨rfl, h.watching.register kind hc, [], rfl, nofun⟩
  | .batch calls, hc => by
      simp only [Call.isOutside] at hc
      simp only [Polling.perform]
      exact h.performAll depth calls hc

lemma Orderly.performAll {p : Polling} (h : Orderly p) (depth : Nat) :
    ∀ calls : List Call, Call.allOutside calls → Orderly (p.performAll (enter depth) calls).1
  | [], _ => by
      simp only [Polling.performAll]
      exact h
  | c :: cs, hcs => by
      simp only [Call.allOutside, Bool.and_eq_true] at hcs
      simp only [Polling.performAll]
      exact (h.perform depth c hcs.1).performAll depth cs hcs.2

end

/-! ### Runs -/

/-- The move registers no handler but such as only watch. -/
def Move.isOutside : Move → Bool
  | .call c => c.isOutside
  | .complete .. => true

lemma Orderly.run (h : Orderly p) (depth : Nat) {moves : List Move}
    (hmoves : ∀ m ∈ moves, m.isOutside) : Orderly (p.run depth moves) := by
  induction moves generalizing p with
  | nil => exact h
  | cons m moves ih =>
      refine ih ?_ fun m' hm' => hmoves m' (by simp [hm'])
      have hm := hmoves m (by simp)
      cases m with
      | call call => exact h.perform depth call hm
      | complete get outcome => exact h.complete depth get outcome

lemma orderly_new (url : String) {handlers : Handlers Handler} (h : Watching handlers) :
    Orderly { url, handlers } :=
  ⟨h, trivial, rfl, rfl, .inl ⟨nofun, rfl, rfl⟩⟩

lemma AllProper.of_split {newer older : List Account} (h : AllProper (newer ++ a :: older)) :
    a.IsProper older.isEmpty := by
  induction newer with
  | nil => exact h.1
  | cons _ newer ih => exact ih h.2

/-- Only the latest session may go on. -/
lemma isOver_of_mem_past {h : List Deed} (hs : sessions h = a :: past) : ∀ b ∈ past, b.isOver := by
  induction h generalizing a past with
  | nil => cases hs
  | cons d h ih =>
      by_cases hd : d = .called .connect
      · subst hd
        cases hold : sessions h with
        | nil => simp_all [sessions]
        | cons b past' =>
            cases hover : b.isOver with
            | true =>
                rw [sessions_connect (by simp [hold, hover]), hold] at hs
                obtain ⟨rfl, rfl⟩ := List.cons.inj hs
                simpa [hover] using ih hold
            | false =>
                rw [sessions_connect_of_goesOn hold hover] at hs
                obtain ⟨rfl, rfl⟩ := List.cons.inj hs
                exact ih hold
      · cases hold : sessions h with
        | nil =>
            rw [sessions_of_nil hold hd] at hs
            cases hs
        | cons b past' =>
            rw [sessions_of_cons hold hd] at hs
            obtain ⟨-, rfl⟩ := List.cons.inj hs
            exact ih hold

/-- The transport is open exactly while the latest session goes on. -/
lemma Orderly.state_eq (h : Orderly p) :
    p.state = if (sessions p.history).head?.any (!·.isOver) then .opened else .idle := by
  obtain hrests | ⟨get, a, past, hs, hp⟩ := h.stage
  · rw [state_of_zero hrests.outstanding, if_neg]
    cases hs : sessions p.history with
    | nil => simp
    | cons a past => simp [hrests.closed a (by simp [hs])]
  · rw [state_of_pos (by rw [hp.outstanding]; omega), hs]
    simp [hp.goesOn]

/-- **The event log is a row of well-formed sessions.** Whatever calls are made from outside over
handlers that only watch, and however the GETs end,

* at most one GET is in flight, it is what the transport counts, and it is one of the latest session's,
  which goes on;
* the events are those of the sessions, one session after another, and only the latest may go on;
* the events of every session are its announcement, its messages and its closing, and it has ended if
  and only if one of its GETs failed or it was torn down;
* the transport is open while the latest session goes on, and idle otherwise;
* a connect is ignored while the transport is open; otherwise it opens a session. -/
theorem sessions_proper (depth : Nat) (url : String) {handlers : Handlers Handler}
    (hhandlers : Watching handlers) {moves : List Move} (hmoves : ∀ m ∈ moves, m.isOutside) :
    let p := run depth { url, handlers } moves
    p.inFlight.length ≤ 1 ∧ p.outstanding = p.inFlight.length ∧
    (∀ get ∈ p.inFlight, ∃ a past, sessions p.history = a :: past ∧ a.isOver = false ∧
      get ∈ a.gets) ∧
    log p.history = (sessions p.history).reverse.flatMap (·.events) ∧
    (∀ a past, sessions p.history = a :: past → ∀ b ∈ past, b.isOver) ∧
    (∀ newer a older, sessions p.history = newer ++ a :: older → a.IsProper older.isEmpty) ∧
    p.state = (if (sessions p.history).head?.any (!·.isOver) then .opened else .idle) ∧
    (p.state = .opened → p.connect (enter depth) = p.note (.called .connect)) ∧
    (p.state = .idle → (p.connect (enter depth)).state = .opened ∧
      ∃ a, sessions (p.connect (enter depth)).history = a :: sessions p.history) := by
  intro p
  have h : Orderly p := (orderly_new url hhandlers).run depth hmoves
  have hflight : p.inFlight.length ≤ 1 ∧ p.outstanding = p.inFlight.length ∧
      ∀ get ∈ p.inFlight, ∃ a past, sessions p.history = a :: past ∧ a.isOver = false ∧
        get ∈ a.gets := by
    obtain hrests | ⟨get, a, past, hs, hp⟩ := h.stage
    · simp [hrests.inFlight, hrests.outstanding]
    · simp [hp.inFlight, hp.outstanding, hs, hp.goesOn, hp.began]
  refine ⟨hflight.1, hflight.2.1, hflight.2.2, h.logged, fun a past hs => isOver_of_mem_past hs,
    fun newer a older hs => (hs ▸ h.proper).of_split, h.state_eq,
    fun hopen => connect_of_opened hopen _, fun hidle => ?_⟩
  have hrests : Rests (sessions p.history) p := by
    refine h.stage.resolve_right fun ⟨get, a, past, _, hp⟩ => ?_
    rw [state_of_pos (by rw [hp.outstanding]; omega)] at hidle
    cases hidle
  obtain ⟨get, a, hgoing⟩ := h.opens hrests depth
  exact ⟨state_of_pos (by rw [hgoing.outstanding]; omega), a, hgoing.sessions⟩

/-- Two sessions over a handler that watches every message: the first is announced at once and ends with
a failure, the second is announced by its first answer and torn down. -/
theorem sessions_proper_twice :
    let handlers : Handlers Handler := { message := some { tag := "m", script := [.state] } }
    let get (id session : Nat) : Get := { id, session }
    let moves : List Move := [.call .connect, .complete (get 0 0) (.ok "a"),
      .complete (get 1 0) (.error .malformed), .call .connect, .complete (get 2 0) (.ok "b"),
      .call .disconnect]
    let p := run 1 { url := "poll", handlers } moves
    (∀ newer a older, sessions p.history = newer ++ a :: older → a.IsProper older.isEmpty) ∧
      (sessions p.history).map (·.bodies) = [["b"], ["a"]] ∧
      log p.history =
        [(.connect, .idle), (.message "a", .opened),
          (.error (ChannelError.request .malformed).message, .opened), (.disconnect, .idle),
          (.connect, .opened), (.message "b", .opened), (.disconnect, .idle)] := by
  intro handlers get moves p
  have hhandlers : Watching handlers := by
    intro kind handler hslot
    cases kind <;> cases hslot
    rfl
  obtain ⟨-, -, -, -, -, hproper, -⟩ := sessions_proper 1 "poll" hhandlers (show ∀ m ∈ moves, _ by decide)
  exact ⟨hproper, by decide +kernel, by decide +kernel⟩

end Polling

end ResilientChannel
