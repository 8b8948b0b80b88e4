import ResilientChannel.Proofs.Socket.Steps

/-!
A persistent socket transport writes what it accepted, in order and once, and only to the conduit that was
the newest when it was accepted.

* **The readings.** `accepted`, `queued` and `written` read off the history what became of the messages
  for each conduit.
* **The ledger.** What is written is the first part of what is queued, and that of what is accepted; nothing
  is missing as long as the queue is held (`Ledger`).
* **The queues.** The queue of a conduit that runs holds what is queued and not written, and then the request
  to close if the transport was told to disconnect (`Loaded`). `Carriage` says so of all conduits, but for
  one whose write has failed, which is lost with the message. Calls keep it, hence so do handlers, and so
  does whatever the task of a conduit finds ready.
* **The end.** A conduit that opened and is not cut off begins its closing handshake before it ends
  (`Closes`).
* **The result.** `frames_in_order`.
-/

namespace ResilientChannel.Socket

open Transport

variable {s t : Socket} {e : Nat} {h : List Deed} {d : Deed} {c : Conduit} {lost : Option Nat}

/-! ### The readings -/

/-- The messages passed to the transport while a conduit was the newest and the state was open, in
order. -/
def accepted (e : Nat) : List Deed → List String
  | [] => []
  | .called (.send message) .opened :: older =>
    if newest older = e then accepted e older ++ [message] else accepted e older
  | _ :: older => accepted e older

/-- The message that was queued for a conduit. -/
def Deed.queued? (e : Nat) : Deed → Option String
  | .queued e' message => if e' = e then some message else none
  | _ => none

/-- The messages queued for a conduit, in order. -/
def queued (e : Nat) (h : List Deed) : List String := (h.filterMap (Deed.queued? e)).reverse

/-- The message that was written by a conduit. -/
def Deed.wrote? (e : Nat) : Deed → Option String
  | .wrote e' message => if e' = e then some message else none
  | _ => none

/-- The messages written by a conduit, in order. -/
def written (e : Nat) (h : List Deed) : List String := (h.filterMap (Deed.wrote? e)).reverse

/-- The transport was told to disconnect while it held the queue of a conduit, for which these messages had
been accepted by then. -/
def Dismissed (e : Nat) (h : List Deed) (ms : List String) : Prop :=
  ∃ later state before, h = later ++ .called .disconnect state :: before ∧
    (face before).2 = some e ∧ accepted e before = ms

lemma Dismissed.cons {ms : List String} (hd : Dismissed e h ms) (d : Deed) :
    Dismissed e (d :: h) ms := by
  obtain ⟨later, state, before, rfl, hheld, hms⟩ := hd
  exact ⟨d :: later, state, before, rfl, hheld, hms⟩

/-- An entry that is about no message. -/
def Deed.isQuiet : Deed → Bool
  | .called (.send _) _ | .queued .. | .wrote .. | .closing _ => false
  | _ => true

lemma accepted_quiet (hd : d.isQuiet) (e : Nat) (h : List Deed) :
    accepted e (d :: h) = accepted e h := by
  cases d with
  | called call state =>
      cases call with
      | send => cases hd
      | _ => rfl
  | _ => rfl

lemma accepted_prefix_send (e : Nat) (message : String) (state : ConnectionState) (h : List Deed) :
    accepted e h <+: accepted e (.called (.send message) state :: h) := by
  cases state with
  | opened =>
      rw [accepted]
      split
      · exact List.prefix_append _ _
      · exact List.prefix_rfl
  | _ => exact List.prefix_rfl

/-- A message is not accepted for a conduit that is not the newest, or in another state. -/
lemma accepted_send_of_ne {state : ConnectionState} (hne : state = .opened → newest h ≠ e)
    (message : String) : accepted e (.called (.send message) state :: h) = accepted e h := by
  cases state with
  | opened => exact if_neg (hne rfl)
  | _ => rfl

@[simp] lemma queued_cons (e : Nat) (d : Deed) (h : List Deed) :
    queued e (d :: h) = queued e h ++ (d.queued? e).toList := by
  cases hd : d.queued? e <;> simp [queued, hd]

@[simp] lemma written_cons (e : Nat) (d : Deed) (h : List Deed) :
    written e (d :: h) = written e h ++ (d.wrote? e).toList := by
  cases hd : d.wrote? e <;> simp [written, hd]

lemma queued_quiet (hd : d.isQuiet) (e : Nat) (h : List Deed) :
    queued e (d :: h) = queued e h := by
  cases d <;> first | rfl | cases hd

lemma written_quiet (hd : d.isQuiet) (e : Nat) (h : List Deed) :
    written e (d :: h) = written e h := by
  cases d <;> first | rfl | cases hd

/-! ### The ledger -/

/-- A closing handshake begins when all that had been accepted at the disconnect is written. -/
def Timely (h : List Deed) : Prop :=
  ∀ newer e older, h = newer ++ .closing e :: older → Dismissed e older (written e older)

/-- What is written was queued, and what is queued was accepted, in order. All that was accepted is queued
as long as the queue is held. -/
structure Ledger (h : List Deed) : Prop where
  unknown : ∀ e, newest h < e → accepted e h = [] ∧ queued e h = []
  whole : ∀ e, (face h).2 = some e → queued e h = accepted e h
  queued : ∀ e, queued e h <+: accepted e h
  written : ∀ e, written e h <+: Socket.queued e h
  timely : Timely h

lemma Timely.cons (ht : Timely h) (hd : ∀ e, d = .closing e → Dismissed e h (written e h)) :
    Timely (d :: h) := by
  intro newer e older hh
  rcases List.cons_eq_append_iff.mp hh with ⟨rfl, heq⟩ | ⟨newer', rfl, rfl⟩
  · obtain ⟨rfl, rfl⟩ := List.cons_eq_cons.mp heq
    exact hd _ rfl
  · exact ht newer' e older rfl

namespace Ledger

/-- An entry that is about no message, and with which the queue of no older conduit is taken hold of. -/
lemma quiet (hl : Ledger h) (hd : d.isQuiet) (hnewest : newest h ≤ newest (d :: h))
    (hheld : ∀ e, (face (d :: h)).2 = some e → (face h).2 = some e ∨ newest h < e) :
    Ledger (d :: h) where
  unknown e he := by
    rw [accepted_quiet hd, queued_quiet hd]
    exact hl.unknown e (Nat.lt_of_le_of_lt hnewest he)
  whole e he := by
    rw [accepted_quiet hd, queued_quiet hd]
    rcases hheld e he with hold | hnew
    · exact hl.whole e hold
    · rw [(hl.unknown e hnew).1, (hl.unknown e hnew).2]
  queued e := by
    rw [accepted_quiet hd, queued_quiet hd]
    exact hl.queued e
  written e := by
    rw [written_quiet hd, queued_quiet hd]
    exact hl.written e
  timely := hl.timely.cons fun e he => by subst he; cases hd

/-- A message that is not queued: the state is not open, or no queue is held. -/
lemma dropped (hl : Ledger h) {state : ConnectionState} (message : String)
    (hdrop : state = .opened → (face h).2 = none) : Ledger (.called (.send message) state :: h) where
  unknown e he := by
    have hne : state = .opened → newest h ≠ e := fun _ => Nat.ne_of_lt he
    rw [accepted_send_of_ne hne]
    simpa [Deed.queued?] using hl.unknown e he
  whole e he := by
    have hclosed : state ≠ .opened := by
      rintro rfl
      have hnone : (face h).2 = none := hdrop rfl
      simp [face, hnone] at he
    rw [accepted_send_of_ne (fun hstate => absurd hstate hclosed)]
    simpa [Deed.queued?] using hl.whole e he
  queued e := by
    refine List.IsPrefix.trans ?_ (accepted_prefix_send e message state h)
    simpa [Deed.queued?] using hl.queued e
  written e := by
    simpa [Deed.wrote?, Deed.queued?] using hl.written e
  timely := hl.timely.cons fun _ he => by cases he

/-- A message that is accepted for the newest conduit and queued. -/
lemma sent (hl : Ledger h) {e' : Nat} (hheld : (face h).2 = some e') (message : String) :
    Ledger (.queued e' message :: .called (.send message) .opened :: h) := by
  have hnewest := newest_of_held hheld
  have hqueued : ∀ e, Socket.queued e (.queued e' message :: .called (.send message) .opened :: h) =
      if e' = e then Socket.queued e h ++ [message] else Socket.queued e h := by
    intro e
    by_cases he : e' = e
    · simp [Deed.queued?, he]
    · simp [Deed.queued?, he]
  have haccepted : ∀ e, accepted e (.queued e' message :: .called (.send message) .opened :: h) =
      if e' = e then accepted e h ++ [message] else accepted e h := by
    intro e
    rw [← hnewest]
    rfl
  refine ⟨fun e he => ?_, fun e he => ?_, fun e => ?_, fun e => ?_, ?_⟩
  · have hne : e' ≠ e := hnewest ▸ Nat.ne_of_lt he
    rw [hqueued, haccepted, if_neg hne, if_neg hne]
    exact hl.unknown e he
  · obtain rfl : e' = e := Option.some.inj (hheld.symm.trans he)
    rw [hqueued, haccepted, if_pos rfl, if_pos rfl, hl.whole e' hheld]
  · rw [hqueued, haccepted]
    split
    next he =>
      have hsame : Socket.queued e h = accepted e h := hl.whole e (he ▸ hheld)
      exact hsame ▸ List.prefix_rfl
    next => exact hl.queued e
  · rw [hqueued, written_cons, written_cons]
    have hwritten : Socket.written e h <+: Socket.queued e h := hl.written e
    simp only [Deed.wrote?, Option.toList_none, List.append_nil]
    split
    · exact hwritten.trans (List.prefix_append _ _)
    · exact hwritten
  · exact (hl.timely.cons fun _ he => by cases he).cons fun _ he => by cases he

/-- A message is written that is the next of those queued. -/
lemma wrote (hl : Ledger h) {e' : Nat} {message : String} {ms : List String}
    (hnext : Socket.queued e' h = Socket.written e' h ++ message :: ms) :
    Ledger (.wrote e' message :: h) where
  unknown e he := by
    simpa [accepted, Deed.queued?] using hl.unknown e he
  whole e he := by
    simpa [accepted, Deed.queued?] using hl.whole e he
  queued e := by
    simpa [accepted, Deed.queued?] using hl.queued e
  written e := by
    by_cases he : e' = e
    · subst he
      simp [Deed.wrote?, Deed.queued?, hnext]
    · simpa [Deed.wrote?, Deed.queued?, he] using hl.written e
  timely := hl.timely.cons fun _ he => by cases he

/-- A closing handshake begins in time. -/
lemma closing (hl : Ledger h) {e' : Nat} (hd : Dismissed e' h (Socket.written e' h)) :
    Ledger (.closing e' :: h) where
  unknown e he := by
    simpa [accepted, Deed.queued?] using hl.unknown e he
  whole e he := by
    simpa [accepted, Deed.queued?] using hl.whole e he
  queued e := by
    simpa [accepted, Deed.queued?] using hl.queued e
  written e := by
    simpa [Deed.wrote?, Deed.queued?] using hl.written e
  timely := hl.timely.cons fun e he => by cases he; exact hd

end Ledger

/-! ### The queues -/

/-- The queue of a conduit that runs: the messages that are queued and not written, and then the request
to close if its other end was let go. -/
structure Loaded (h : List Deed) (c : Conduit) : Prop where
  le : c.epoch ≤ newest h
  commands : ∃ ms, queued c.epoch h = written c.epoch h ++ ms ∧
    c.commands = ms.map .frame ++ if (face h).2 = some c.epoch then [] else [.close]
  hasSender : (face h).2 = some c.epoch → c.hasSender
  dismissed : (face h).2 ≠ some c.epoch → Dismissed c.epoch h (queued c.epoch h)

/-- The history tells what the transport shows, the ledger is right, and so are the queues of the conduits
that run, apart from a `lost` one that will not be written to any more. -/
structure Carriage (lost : Option Nat) (s : Socket) : Prop where
  epoch : s.epoch = newest s.history
  shows : (s.state, s.outbound) = face s.history
  ledger : Ledger s.history
  loaded : ∀ c ∈ s.conduits, lost ≠ some c.epoch → Loaded s.history c

namespace Loaded

variable {c' : Conduit}

lemma congr (hl : Loaded h c) (hepoch : c'.epoch = c.epoch) (hcommands : c'.commands = c.commands)
    (hsender : (face h).2 = some c.epoch → c'.hasSender = c.hasSender) : Loaded h c' := by
  obtain ⟨hle, hms, hheld, hdismissed⟩ := hl
  constructor
  · rwa [hepoch]
  · rwa [hepoch, hcommands]
  · intro he
    rw [hepoch] at he
    rw [hsender he]
    exact hheld he
  · rwa [hepoch]

/-- An entry with which nothing is queued or written, and the queue is neither taken hold of nor let
go. -/
lemma cons (hl : Loaded h c) (hqueued : d.queued? c.epoch = none) (hwrote : d.wrote? c.epoch = none)
    (hnewest : newest h ≤ newest (d :: h))
    (hheld : (face (d :: h)).2 = some c.epoch ↔ (face h).2 = some c.epoch) : Loaded (d :: h) c where
  le := Nat.le_trans hl.le hnewest
  commands := by
    simp only [queued_cons, written_cons, hqueued, hwrote, hheld]
    simpa using hl.commands
  hasSender he := hl.hasSender (hheld.mp he)
  dismissed he := by
    simp only [queued_cons, hqueued]
    simpa using (hl.dismissed fun hold => he (hheld.mpr hold)).cons d

lemma quiet (hl : Loaded h c) (hd : d.isQuiet) (hnewest : newest h ≤ newest (d :: h))
    (hheld : (face (d :: h)).2 = some c.epoch ↔ (face h).2 = some c.epoch) : Loaded (d :: h) c := by
  refine hl.cons ?_ ?_ hnewest hheld
  · cases d <;> first | rfl | cases hd
  · cases d <;> first | rfl | cases hd

/-- The queue of a new conduit is empty. -/
lemma began (hledger : Ledger h) :
    Loaded (.began (newest h + 1) :: h) { epoch := newest h + 1 } where
  le := Nat.le_refl _
  commands := by
    have hqueued : queued (newest h + 1) h = [] := (hledger.unknown _ (Nat.lt_succ_self _)).2
    have hwritten : written (newest h + 1) h = [] :=
      List.prefix_nil.mp (hqueued ▸ hledger.written _)
    refine ⟨[], ?_, (if_pos rfl).symm⟩
    rw [queued_quiet rfl, written_quiet rfl, hqueued, hwritten]
    rfl
  hasSender _ := rfl
  dismissed hne := absurd rfl hne

/-- A request to close is queued as the other end is let go. -/
lemma dismiss (hl : Loaded h c) (hledger : Ledger h) (hheld : (face h).2 = some c.epoch)
    (state : ConnectionState) (hepoch : c'.epoch = c.epoch)
    (hcommands : c'.commands = c.commands ++ [.close]) :
    Loaded (.called .disconnect state :: h) c' := by
  have hnone : (face (.called .disconnect state :: h)).2 = none := by simp [face, hheld]
  obtain ⟨ms, hms, hc⟩ := hl.commands
  refine ⟨hepoch ▸ hl.le, ⟨ms, ?_, ?_⟩, fun he => ?_, fun _ => ?_⟩
  · rw [hepoch]
    simpa [Deed.queued?, Deed.wrote?] using hms
  · rw [hcommands, hc, hnone, if_pos hheld, if_neg (by simp), List.append_nil]
  · rw [hnone] at he
    cases he
  · refine ⟨[], state, h, rfl, hepoch ▸ hheld, ?_⟩
    rw [hepoch, ← hledger.whole _ hheld]
    simp [Deed.queued?]

/-- A message is queued. -/
lemma send (hl : Loaded h c) (hheld : (face h).2 = some c.epoch) (message : String)
    (state : ConnectionState) (hepoch : c'.epoch = c.epoch)
    (hcommands : c'.commands = c.commands ++ [.frame message]) (hsender : c'.hasSender = c.hasSender) :
    Loaded (.queued c.epoch message :: .called (.send message) state :: h) c' := by
  have hheld' : (face (.queued c.epoch message :: .called (.send message) state :: h)).2 =
      some c'.epoch := hepoch ▸ hheld
  obtain ⟨ms, hms, hc⟩ := hl.commands
  refine ⟨hepoch ▸ hl.le, ⟨ms ++ [message], ?_, ?_⟩, fun _ => ?_, fun hne => absurd hheld' hne⟩
  · simp [Deed.queued?, Deed.wrote?, hepoch, hms]
  · rw [hcommands, hc, if_pos hheld, if_pos hheld']
    simp
  · rw [hsender]
    exact hl.hasSender hheld

/-- The history determines what is left in a queue. -/
lemma commands_eq (hl : Loaded h c) (hl' : Loaded h c') (hepoch : c'.epoch = c.epoch) :
    c'.commands = c.commands := by
  obtain ⟨ms, hms, hc⟩ := hl.commands
  obtain ⟨ms', hms', hc'⟩ := hl'.commands
  rw [hepoch] at hms' hc'
  obtain rfl : ms = ms' := List.append_cancel_left (hms.symm.trans hms')
  rw [hc, hc']

/-- The next command of a conduit is a message that is queued and not written, or the request to close. -/
lemma next (hl : Loaded h c) {message : String} {rest : List Command}
    (hc : c.commands = .frame message :: rest) :
    ∃ ms, queued c.epoch h = written c.epoch h ++ message :: ms ∧
      rest = ms.map .frame ++ if (face h).2 = some c.epoch then [] else [.close] := by
  obtain ⟨ms, hms, hcommands⟩ := hl.commands
  cases ms with
  | nil =>
      rw [hc] at hcommands
      split at hcommands <;> simp at hcommands
  | cons m ms =>
      rw [hc, List.map_cons, List.cons_append, List.cons_eq_cons] at hcommands
      obtain ⟨hm, hrest⟩ := hcommands
      cases hm
      exact ⟨ms, hms, hrest⟩

/-- The next message is written. -/
lemma wrote (hl : Loaded h c) {message : String} {rest : List Command}
    (hc : c.commands = .frame message :: rest) (hepoch : c'.epoch = c.epoch)
    (hcommands : c'.commands = rest) (hsender : c'.hasSender = c.hasSender) :
    Loaded (.wrote c.epoch message :: h) c' := by
  obtain ⟨ms, hms, hrest⟩ := hl.next hc
  refine ⟨hepoch ▸ hl.le, ⟨ms, ?_, ?_⟩, fun he => ?_, fun he => ?_⟩
  · simp [Deed.queued?, Deed.wrote?, hepoch, hms]
  · rw [hcommands, hrest, hepoch]
    rfl
  · rw [hsender]
    exact hl.hasSender (hepoch ▸ he)
  · have hold := hl.dismissed (hepoch ▸ he)
    rw [hepoch]
    simpa [Deed.queued?] using hold.cons (.wrote c.epoch message)

/-- A conduit that is to close has written all that was accepted. -/
lemma done (hl : Loaded h c) (hc : ∀ message rest, c.commands ≠ .frame message :: rest)
    (hclose : c.commands = [] → c.hasSender = false) :
    Dismissed c.epoch h (written c.epoch h) := by
  obtain ⟨ms, hms, hcommands⟩ := hl.commands
  cases ms with
  | cons m ms => exact absurd hcommands (hc m _)
  | nil =>
      rw [List.append_nil] at hms
      rw [← hms]
      refine hl.dismissed fun hheld => ?_
      rw [if_pos hheld] at hcommands
      have hsender := hl.hasSender hheld
      rw [hclose hcommands] at hsender
      cases hsender

end Loaded

namespace Carriage

lemma state_eq (hs : Carriage lost s) : s.state = (face s.history).1 := congrArg Prod.fst hs.shows

lemma outbound_eq (hs : Carriage lost s) : s.outbound = (face s.history).2 :=
  congrArg Prod.snd hs.shows

lemma loaded_of_mem (hs : Carriage none s) (hc : c ∈ s.conduits) : Loaded s.history c :=
  hs.loaded c hc (by simp)

/-- An entry that is about no message, and with which no queue is taken hold of or let go. -/
lemma entry (hs : Carriage lost s) (hd : d.isQuiet) (hhistory : t.history = d :: s.history)
    (hepoch : t.epoch = s.epoch) (hshows : (t.state, t.outbound) = face (d :: s.history))
    (hnewest : newest (d :: s.history) = newest s.history)
    (hheld : (face (d :: s.history)).2 = (face s.history).2)
    (hconduits : ∀ c ∈ t.conduits, ∃ c' ∈ s.conduits, c.epoch = c'.epoch ∧
      c.commands = c'.commands ∧ c.hasSender = c'.hasSender) : Carriage lost t where
  epoch := by rw [hepoch, hhistory, hnewest, hs.epoch]
  shows := by rw [hhistory, hshows]
  ledger := by
    rw [hhistory]
    exact hs.ledger.quiet hd (Nat.le_of_eq hnewest.symm) fun e he => .inl (hheld ▸ he)
  loaded c hc hlost := by
    obtain ⟨c', hc', hepoch', hcommands, hsender⟩ := hconduits c hc
    have hold := hs.loaded c' hc' (hepoch' ▸ hlost)
    rw [hhistory]
    exact (hold.quiet hd (Nat.le_of_eq hnewest.symm) (by rw [hheld])).congr hepoch' hcommands
      fun _ => hsender

lemma note (hs : Carriage lost s) (hd : d.isQuiet)
    (hnewest : newest (d :: s.history) = newest s.history)
    (hface : face (d :: s.history) = face s.history) : Carriage lost (s.note d) :=
  hs.entry hd rfl rfl (hs.shows.trans hface.symm) hnewest (by rw [hface])
    fun c hc => ⟨c, hc, rfl, rfl, rfl⟩

/-! ### Calls -/

lemma connect (hs : Carriage lost s) : Carriage lost s.connect := by
  have hcalled : Carriage lost (s.note (.called .connect s.state)) := hs.note rfl rfl rfl
  cases hlive : s.state.isLive with
  | true =>
      rw [connect_of_isLive hlive]
      exact hcalled
  | false =>
      have hnone : (face s.history).2 = none := not_held_of_not_live (hs.state_eq ▸ hlive)
      have hnone' : (face (.called .connect s.state :: s.history)).2 = none := hnone
      rw [connect_of_not_isLive hlive (hs.outbound_eq.trans hnone), hs.epoch]
      refine ⟨rfl, rfl, ?_, fun c hc hlost => ?_⟩
      · refine hcalled.ledger.quiet rfl (Nat.le_succ _) fun e he => .inr ?_
        cases he
        exact Nat.lt_succ_self _
      · rcases List.mem_append.mp hc with hold | hnew
        · have hloaded := hcalled.loaded c hold hlost
          refine hloaded.quiet rfl (Nat.le_succ _) ?_
          have hle : c.epoch ≤ newest s.history := hloaded.le
          have hne : newest s.history + 1 ≠ c.epoch := by omega
          show some (newest s.history + 1) = some c.epoch ↔ (face s.history).2 = some c.epoch
          simp [hnone, hne]
        · obtain rfl := List.mem_singleton.mp hnew
          exact .began hcalled.ledger

lemma disconnect (hs : Carriage lost s) : Carriage lost s.disconnect := by
  cases houtbound : s.outbound with
  | none =>
      have hface : (face s.history).2 = none := hs.outbound_eq.symm.trans houtbound
      rw [disconnect_of_none houtbound]
      exact hs.note rfl rfl (if_neg (by simp [hface]))
  | some e =>
      have hheld : (face s.history).2 = some e := hs.outbound_eq.symm.trans houtbound
      have hface : face (.called .disconnect s.state :: s.history) = (.closing, none) :=
        if_pos (by simp [hheld])
      have hledger : Ledger (.called .disconnect s.state :: s.history) := by
        refine hs.ledger.quiet rfl (Nat.le_refl _) fun e' he' => ?_
        rw [hface] at he'
        cases he'
      rw [disconnect_of_some houtbound]
      refine ⟨hs.epoch, hface.symm, hledger, ?_⟩
      simp only [List.forall_mem_map]
      intro c hc hlost
      by_cases he : c.epoch = e
      · rw [if_pos he] at hlost ⊢
        exact (hs.loaded c hc hlost).dismiss hs.ledger (he ▸ hheld) s.state rfl rfl
      · rw [if_neg he] at hlost ⊢
        refine (hs.loaded c hc hlost).quiet rfl (Nat.le_refl _) ?_
        simp [hface, hheld, Ne.symm he]

lemma send (hs : Carriage lost s) (message : String) : Carriage lost (s.send message) := by
  by_cases hdrop : s.state = .opened → s.outbound = none
  · rw [send_of_dropped hdrop]
    refine ⟨hs.epoch, hs.shows, ?_, fun c hc hlost => ?_⟩
    · exact hs.ledger.dropped message fun hopened => hs.outbound_eq.symm.trans (hdrop hopened)
    · exact (hs.loaded c hc hlost).cons rfl rfl (Nat.le_refl _) Iff.rfl
  · obtain ⟨hopened, hheld⟩ : s.state = .opened ∧ s.outbound ≠ none := by simpa using hdrop
    obtain ⟨e, hsome⟩ := Option.ne_none_iff_exists'.mp hheld
    have hface : (face s.history).2 = some e := hs.outbound_eq.symm.trans hsome
    rw [send_of_opened hopened hsome]
    refine ⟨hs.epoch, hs.shows, ?_, ?_⟩
    · rw [hopened]
      exact hs.ledger.sent hface message
    · simp only [List.forall_mem_map]
      intro c hc hlost
      by_cases he : c.epoch = e
      · subst he
        rw [if_pos rfl] at hlost ⊢
        exact (hs.loaded c hc hlost).send hface message s.state rfl rfl rfl
      · rw [if_neg he] at hlost ⊢
        have hcalled := (hs.loaded c hc hlost).cons (d := .called (.send message) s.state) rfl rfl
          (Nat.le_refl _) Iff.rfl
        exact hcalled.cons (if_neg (Ne.symm he)) rfl (Nat.le_refl _) Iff.rfl

end Carriage

/-- Calls and handlers keep the carriage. -/
lemma carriage_keeps (lost : Option Nat) : Keeps (Carriage lost) where
  connect hs := hs.connect
  disconnect hs := hs.disconnect
  send message hs := hs.send message
  register _ hs := ⟨hs.epoch, hs.shows, hs.ledger, hs.loaded⟩
  handled _ _ hs := hs.note rfl rfl rfl
  did _ _ hs := hs.note rfl rfl rfl

/-! ### The conduit's task -/

namespace Carriage

lemma fire (hs : Carriage lost s) (e : Nat) (event : TransportEvent) :
    Carriage lost (s.fire e event) :=
  (carriage_keeps lost).fire hs fun _ => hs.note rfl rfl rfl

/-- A conduit is gone, and it was the lost one if there was any. -/
lemma gone (hs : Carriage lost s) (hlost : ∀ e' ∈ lost, e' = e) :
    Carriage none { s with conduits := s.conduits.filter (·.epoch ≠ e) } where
  epoch := hs.epoch
  shows := hs.shows
  ledger := hs.ledger
  loaded c hc _ := by
    obtain ⟨hold, hne⟩ := List.mem_filter.mp hc
    refine hs.loaded c hold fun hc' => ?_
    simp [hlost _ hc'] at hne

lemma finish (hs : Carriage lost s) (hlost : ∀ e' ∈ lost, e' = e) : Carriage none (s.finish e) := by
  have hgone := hs.gone hlost
  refine (carriage_keeps none).finish (fun he => ?_) fun he => ?_
  · have hface : face (.ended e :: s.history) = face s.history := if_neg (hs.epoch ▸ he)
    exact hgone.note rfl rfl hface
  · have hnewest : newest s.history = e := hs.epoch ▸ he
    have hface : face (.ended e :: s.history) = (.idle, none) := if_pos hnewest
    have hended : Ledger (.ended e :: s.history) := by
      refine hs.ledger.quiet rfl (Nat.le_refl _) fun e' he' => ?_
      rw [hface] at he'
      cases he'
    have hfired : Ledger (.fired e .disconnect .idle :: .ended e :: s.history) :=
      hended.quiet rfl (Nat.le_refl _) fun _ he' => .inl he'
    constructor
    · simpa [Socket.note, newest] using hs.epoch
    · simpa [Socket.note, face] using hface.symm
    · simpa [Socket.note] using hfired
    · intro c hc _
      obtain ⟨c', hc', hepoch, hcommands⟩ := mem_letGo hc
      have hloaded := hgone.loaded_of_mem hc'
      have hne : c'.epoch ≠ e := by simpa using (List.mem_filter.mp hc').2
      have hother : (face s.history).2 ≠ some c'.epoch := fun hheld =>
        hne ((newest_of_held hheld).symm.trans hnewest)
      have hended : Loaded (.ended e :: s.history) c' :=
        hloaded.quiet rfl (Nat.le_refl _) (by simp [hface, hother])
      have hfired : Loaded (.fired e .disconnect .idle :: .ended e :: s.history) c' :=
        hended.quiet rfl (Nat.le_refl _) Iff.rfl
      have hnone : (face (.fired e .disconnect .idle :: .ended e :: s.history)).2 = none :=
        congrArg Prod.snd hface
      show Loaded (.fired e .disconnect .idle :: (letGo _).history) c
      rw [letGo_history]
      exact hfired.congr hepoch hcommands fun hheld => by simp [hnone] at hheld

lemma ends (hs : Carriage none s) (e : Nat) : Carriage none (s.finish e) := hs.finish (by simp)

lemma fail (hs : Carriage lost s) (hlost : ∀ e' ∈ lost, e' = e) (reason : String) :
    Carriage none ((s.fire e (.error reason)).finish e) :=
  (hs.fire e _).finish hlost

/-- The newest conduit opens. -/
lemma establish (hs : Carriage none s) (e : Nat) :
    Carriage none (({ s.modify e ({ · with established := true }) with state := .opened }.note
      (.established e)).fire e .connect) := by
  refine Carriage.fire ?_ e .connect
  refine hs.entry (d := .established e) rfl rfl rfl ?_ rfl rfl fun c hc => ?_
  · exact congrArg (ConnectionState.opened, ·) hs.outbound_eq
  · obtain ⟨c', hc', rfl⟩ := List.mem_map.mp hc
    refine ⟨c', hc', ?_⟩
    split
    · exact ⟨rfl, rfl, rfl⟩
    · exact ⟨rfl, rfl, rfl⟩

/-- A command is taken from the queue of a conduit that is lost with it. -/
lemma lose (hs : Carriage none s) (e : Nat) (rest : List Command) :
    Carriage (some e) (s.modify e ({ · with commands := rest })) where
  epoch := hs.epoch
  shows := hs.shows
  ledger := hs.ledger
  loaded := by
    simp only [modify, List.forall_mem_map]
    intro c hc hlost
    by_cases he : c.epoch = e
    · rw [if_pos he, he] at hlost
      exact absurd rfl hlost
    · rw [if_neg he]
      exact hs.loaded_of_mem hc

/-- The next message of a conduit is written. -/
lemma wrote (hs : Carriage none s) (hmem : c ∈ s.conduits) {message : String}
    {rest : List Command} (hcommands : c.commands = .frame message :: rest) :
    Carriage none (((s.modify c.epoch ({ · with commands := rest })).modify c.epoch
      fun c => { c with written := c.written ++ [message] }).note (.wrote c.epoch message)) := by
  have hloaded := hs.loaded_of_mem hmem
  obtain ⟨ms, hms, -⟩ := hloaded.next hcommands
  refine ⟨hs.epoch, hs.shows, hs.ledger.wrote hms, ?_⟩
  simp only [Socket.note, modify, List.forall_mem_map]
  intro c' hc' _
  have hloaded' := hs.loaded_of_mem hc'
  by_cases he : c'.epoch = c.epoch
  · have hsame : c'.commands = .frame message :: rest :=
      (hloaded.commands_eq hloaded' he).trans hcommands
    rw [if_pos he, if_pos he, ← he]
    exact hloaded'.wrote hsame rfl rfl rfl
  · rw [if_neg he, if_neg he]
    exact hloaded'.cons rfl (if_neg (Ne.symm he)) (Nat.le_refl _) Iff.rfl

/-- A conduit begins its closing handshake, and ends. -/
lemma close (hs : Carriage none s) (hmem : c ∈ s.conduits)
    (hdone : ∀ message rest, c.commands ≠ .frame message :: rest)
    (hclose : c.commands = [] → c.hasSender = false) :
    Carriage none ((s.note (.closing c.epoch)).finish c.epoch) := by
  have hdismissed := (hs.loaded_of_mem hmem).done hdone hclose
  have hclosing : Carriage none (s.note (.closing c.epoch)) :=
    ⟨hs.epoch, hs.shows, hs.ledger.closing hdismissed, fun c' hc' _ =>
      (hs.loaded_of_mem hc').cons rfl rfl (Nat.le_refl _) Iff.rfl⟩
  exact hclosing.ends c.epoch

/-- Whatever the task of a conduit finds ready, and whoever calls. -/
lemma move (hs : Carriage none s) (m : Move) : Carriage none (s.move m) := by
  have hstep := step s m
  generalize s.move m = t at hstep ⊢
  cases hstep with
  | rest => exact hs
  | called call => exact (carriage_keeps none).perform hs call
  | refused _ reason => exact hs.fail (by simp) reason
  | @givenUp c => exact hs.ends c.epoch
  | @opened c => exact hs.establish c.epoch
  | wrote _ hmem _ hcommands => exact hs.wrote hmem hcommands
  | @broke c _ rest reason => exact (hs.lose c.epoch rest).fail (by simp) reason
  | closed _ hmem _ hdone hclose => exact hs.close hmem hdone hclose
  | @brought c _ data => exact hs.fire c.epoch (.message data)
  | @hungUp c => exact hs.ends c.epoch
  | failed reason => exact hs.fail (by simp) reason

lemma run (hs : Carriage none s) (moves : List Move) : Carriage none (s.run moves) := by
  induction moves generalizing s with
  | nil => exact hs
  | cons m moves ih => exact ih (hs.move m)

end Carriage

lemma carriage_new (url : String) (handlers : Handlers Handler) : Carriage none { url, handlers } where
  epoch := rfl
  shows := rfl
  ledger := {
    unknown := fun _ _ => ⟨rfl, rfl⟩
    whole := fun _ hheld => by cases hheld
    queued := fun _ => List.prefix_rfl
    written := fun _ => List.prefix_rfl
    timely := fun newer e older hh => by simp at hh }
  loaded := fun _ hc => by cases hc

/-! ### How a conduit ends -/

/-- The move cuts a conduit off: a write fails, or an end or a fault is read. -/
def Move.CutsOff (e : Nat) : Move → Prop
  | .obey e' (some _) | .read e' .closed | .read e' (.failed _) => e' = e
  | _ => False

/-- A conduit has begun its closing handshake, or never opened. -/
def Closed (e : Nat) (h : List Deed) : Prop := .closing e ∈ h ∨ .connect ∉ events e h

/-- A conduit that has ended had begun its closing handshake, or never opened. -/
def Closes (e : Nat) (h : List Deed) : Prop := .ended e ∈ h → Closed e h

lemma Closed.cons (hc : Closed e h) (hd : d.event? e ≠ some .connect) : Closed e (d :: h) := by
  refine hc.imp (.tail _) fun hnone => ?_
  rw [events_cons, List.mem_append, not_or]
  exact ⟨hnone, by simpa [eq_comm] using hd⟩

lemma Closes.cons (hc : Closes e h) (hended : d ≠ .ended e) (hd : d.event? e ≠ some .connect) :
    Closes e (d :: h) := by
  intro hmem
  refine Closed.cons (hc ?_) hd
  exact (List.mem_cons.mp hmem).resolve_left (Ne.symm hended)

lemma closed_keeps (e : Nat) : Keeps fun s => Closed e s.history :=
  .of_history fun hd hc => hc.cons (by simp [Deed.event?_of_isCalls hd])

lemma closes_keeps (e : Nat) : Keeps fun s => Closes e s.history := by
  refine .of_history fun hd hc => hc.cons ?_ (by simp [Deed.event?_of_isCalls hd])
  rintro rfl
  cases hd

lemma Closed.finish (hc : Closed e s.history) (e' : Nat) : Closed e (s.finish e').history := by
  have hended : Closed e (.ended e' :: s.history) := hc.cons (by simp [Deed.event?])
  exact (closed_keeps e).finish_history hended (hended.cons (by simp [Deed.event?]))

lemma Closed.fire (hc : Closed e s.history) (e' : Nat) {event : TransportEvent}
    (hevent : event ≠ .connect) : Closed e (s.fire e' event).history :=
  (closed_keeps e).fire hc fun _ => hc.cons (by simp [Deed.event?, hevent])

lemma Closes.fire (hc : Closes e s.history) (e' : Nat) {event : TransportEvent}
    (hevent : event ≠ .connect) : Closes e (s.fire e' event).history :=
  (closes_keeps e).fire hc fun _ => hc.cons (by simp) (by simp [Deed.event?, hevent])

/-- A conduit may end that has begun its closing handshake or never opened. -/
lemma Closes.finish {e' : Nat} (hc : Closes e s.history) (hclosed : e' = e → Closed e s.history) :
    Closes e (s.finish e').history := by
  by_cases he : e' = e
  · exact fun _ => (hclosed he).finish e'
  · have hended : Closes e (.ended e' :: s.history) :=
      hc.cons (by simpa using he) (by simp [Deed.event?])
    exact (closes_keeps e).finish_history hended (hended.cons (by simp) (by simp [Deed.event?]))

lemma Closes.fail {e' : Nat} (hc : Closes e s.history) (hclosed : e' = e → Closed e s.history)
    (reason : String) : Closes e ((s.fire e' (.error reason)).finish e').history := by
  have herror : TransportEvent.error reason ≠ .connect := by simp
  exact (hc.fire e' herror).finish fun he => (hclosed he).fire e' herror

/-- A conduit whose handshake is not done never opened. -/
lemma Sound.closed (hs : Sound none s) (hmem : c ∈ s.conduits) (hc : c.established = false) :
    Closed c.epoch s.history := by
  have htold := (hs.census.runs c hmem).told
  rw [if_neg (by simp), hc] at htold
  have hnone : events c.epoch s.history = [] := htold
  exact .inr (by simp [hnone])

/-- A conduit may open that has not ended. -/
lemma Closes.establish {e' : Nat} (hc : Closes e s.history) (he : s.epoch = e')
    (hlasting : .ended e' ∉ s.history) :
    Closes e (({ s.modify e' ({ · with established := true }) with state := .opened }.note
      (.established e')).fire e' .connect).history := by
  have hestablished : Closes e (.established e' :: s.history) :=
    hc.cons (by simp) (by simp [Deed.event?])
  refine (closes_keeps e).fired (by exact he) ?_
  by_cases hsame : e' = e
  · intro hended
    subst hsame
    simp [Socket.note, modify, hlasting] at hended
  · exact hestablished.cons (by simp) (by simp [Deed.event?, hsame])

/-- A conduit that is not cut off begins its closing handshake before it ends, if it ever opened. -/
lemma Closes.move (hc : Closes e s.history) (hs : Sound none s) {m : Move} (hm : ¬ m.CutsOff e) :
    Closes e (s.move m).history := by
  have hstep := step s m
  generalize s.move m = t at hstep ⊢
  cases hstep with
  | rest => exact hc
  | called call => exact (closes_keeps e).perform hc call
  | refused _ reason hmem hnew => exact hc.fail (fun he => he ▸ hs.closed hmem hnew) reason
  | givenUp _ hmem hnew => exact hc.finish fun he => he ▸ hs.closed hmem hnew
  | opened _ hmem _ he => exact hc.establish he (hs.census.runs _ hmem).lasting
  | wrote => exact hc.cons (by simp) (by simp [Deed.event?])
  | @broke c _ _ reason =>
      exact hc.fail (s := s.modify c.epoch _) (fun he => absurd he hm) reason
  | @closed c =>
      have hclosing : Closes e (s.note (.closing c.epoch)).history :=
        hc.cons (by simp) (by simp [Deed.event?])
      exact hclosing.finish fun he => .inl (he ▸ .head _)
  | @brought c => exact hc.fire c.epoch (by simp)
  | hungUp => exact hc.finish fun he => absurd he hm
  | failed reason => exact hc.fail (fun he => absurd he hm) reason

lemma Closes.run (hc : Closes e s.history) (hs : Sound none s) {moves : List Move}
    (hmoves : ∀ m ∈ moves, ¬ m.CutsOff e) : Closes e (s.run moves).history := by
  induction moves generalizing s with
  | nil => exact hc
  | cons m moves ih =>
      have hm : ¬ m.CutsOff e := hmoves m (by simp)
      exact ih (hc.move hs hm) (hs.move m) fun m' hm' => hmoves m' (by simp [hm'])

/-! ### The result -/

/-- **Every conduit carries its own messages, in order and once.** In every run, whatever the handlers call
and whatever the tasks find ready in whatever order,

* the messages written by a conduit are the first of those passed to the transport while it was the newest
  conduit and the state was open, in the order of the calls;
* when a conduit begins its closing handshake, the transport was told to disconnect while it held that
  conduit's queue, and all messages accepted before are written;
* a conduit that opened and ended had begun its closing handshake, unless a write of it failed, or an end or
  a fault was read. -/
theorem frames_in_order (url : String) (handlers : Handlers Handler) (moves : List Move) :
    let s := run { url, handlers } moves
    (∀ e, written e s.history <+: accepted e s.history) ∧
    (∀ newer e older, s.history = newer ++ .closing e :: older →
      ∃ later state before, older = later ++ .called .disconnect state :: before ∧
        (face before).2 = some e ∧ accepted e before = written e older) ∧
    ∀ e, (∀ m ∈ moves, ¬ m.CutsOff e) → .connect ∈ events e s.history → .ended e ∈ s.history →
      .closing e ∈ s.history := by
  intro s
  have hs : Carriage none s := (carriage_new url handlers).run moves
  refine ⟨fun e => (hs.ledger.written e).trans (hs.ledger.queued e), hs.ledger.timely, ?_⟩
  intro e hmoves hopened hended
  have hnew : Closes e [] := fun hmem => absurd hmem (by simp)
  have hcloses : Closes e s.history := hnew.run (sound_new url handlers) hmoves
  exact (hcloses hended).resolve_right (not_not_intro hopened)

end ResilientChannel.Socket
