import ResilientChannel.Proofs.Socket.Chronicle

/-!
A persistent socket transport reports each conduit once and keeps epochs apart.

* **The census.** Every conduit opened so far runs or has ended. One that runs has not ended yet, and its
  events are those of a conduit underway; only in the midst of its end its fault has been told
  (`Census`).
* **The invariant.** `Sound` says that the history is a chronicle with nothing awaited, that it tells what
  the transport shows, and that the census is right. Calls keep it, hence so do handlers, and so does
  whatever the task of a conduit finds ready.
* **The result.** What `Sound` says of a history is read off as statements about the conduits
  (`epochs_apart`).
-/

namespace ResilientChannel.Socket

open Transport

variable {s t : Socket} {e : Nat} {busy : Option Nat} {h : List Deed} {cs : List Conduit} {c : Conduit}

/-! ### The census -/

/-- The conduit runs: it was opened and has not ended. What it has told is what a conduit underway tells,
or its fault if it is `busy` ending. -/
structure Runs (busy : Option Nat) (h : List Deed) (c : Conduit) : Prop where
  pos : 0 < c.epoch
  le : c.epoch ≤ newest h
  lasting : .ended c.epoch ∉ h
  told : if busy = some c.epoch then Broken (events c.epoch h)
    else Underway c.established (events c.epoch h)

/-- The conduits that run, and no others, have not ended. -/
structure Census (busy : Option Nat) (h : List Deed) (cs : List Conduit) : Prop where
  runs : ∀ c ∈ cs, Runs busy h c
  whole : ∀ e, 0 < e → e ≤ newest h → (∃ c ∈ cs, c.epoch = e) ∨ .ended e ∈ h
  busy : ∀ e ∈ busy, ∃ c ∈ cs, c.epoch = e

/-- An entry that neither opens nor ends a conduit, and fires nothing. -/
def Deed.isStill : Deed → Bool
  | .began _ | .fired .. | .ended _ => false
  | _ => true

lemma newest_still {d : Deed} (hd : d.isStill) (h : List Deed) : newest (d :: h) = newest h := by
  cases d <;> first | rfl | cases hd

lemma events_still {d : Deed} (hd : d.isStill) (e : Nat) (h : List Deed) :
    events e (d :: h) = events e h := by
  cases d <;> first | rfl | cases hd

lemma ended_mem_still {d : Deed} (hd : d.isStill) (e : Nat) (h : List Deed) :
    .ended e ∈ d :: h ↔ .ended e ∈ h := by
  rw [List.mem_cons]
  exact or_iff_right fun heq => by subst heq; cases hd

namespace Census

lemma still (hc : Census busy h cs) {d : Deed} (hd : d.isStill) : Census busy (d :: h) cs where
  runs c hmem := by
    obtain ⟨hpos, hle, hlasting, htold⟩ := hc.runs c hmem
    refine ⟨hpos, by rwa [newest_still hd], by rwa [ended_mem_still hd], ?_⟩
    rwa [events_still hd]
  whole e hpos hle := by
    rw [newest_still hd] at hle
    rw [ended_mem_still hd]
    exact hc.whole e hpos hle
  busy := hc.busy

/-- The queues do not matter, nor what was written. -/
lemma map (hc : Census busy h cs) {f : Conduit → Conduit}
    (hf : ∀ c, (f c).epoch = c.epoch ∧ (f c).established = c.established) :
    Census busy h (cs.map f) where
  runs := by
    simp only [List.forall_mem_map]
    intro c hmem
    obtain ⟨hpos, hle, hlasting, htold⟩ := hc.runs c hmem
    obtain ⟨hepoch, hestablished⟩ := hf c
    constructor <;> simpa only [hepoch, hestablished]
  whole e hpos hle := by
    refine (hc.whole e hpos hle).imp_left fun ⟨c, hmem, hepoch⟩ => ?_
    exact ⟨f c, List.mem_map_of_mem hmem, (hf c).1.trans hepoch⟩
  busy e he := by
    obtain ⟨c, hmem, hepoch⟩ := hc.busy e he
    exact ⟨f c, List.mem_map_of_mem hmem, (hf c).1.trans hepoch⟩

/-- A conduit is opened. -/
lemma began (hc : Census busy h cs) (hchronicle : Chronicle h) :
    Census busy (.began (newest h + 1) :: h) (cs ++ [{ epoch := newest h + 1 }]) where
  runs c hmem := by
    rcases List.mem_append.mp hmem with hold | hnew
    · obtain ⟨hpos, hle, hlasting, htold⟩ := hc.runs c hold
      exact ⟨hpos, Nat.le_succ_of_le hle, by simpa using hlasting, htold⟩
    · obtain rfl := List.mem_singleton.mp hnew
      obtain ⟨hevents, hended⟩ := hchronicle.untold (Nat.lt_succ_self (newest h))
      have hidle : busy ≠ some (newest h + 1) := fun hbusy => by
        obtain ⟨c, hmem, hepoch⟩ := hc.busy _ hbusy
        have hle := (hc.runs c hmem).le
        omega
      refine ⟨Nat.succ_pos _, Nat.le_refl _, by simpa using hended, ?_⟩
      rw [if_neg hidle, events_cons, hevents]
      rfl
  whole e hpos hle := by
    rcases Nat.lt_or_ge (newest h) e with hlt | hge
    · have heq : newest h + 1 = e := Nat.le_antisymm hlt hle
      exact .inl ⟨{ epoch := newest h + 1 }, by simp, heq⟩
    · refine (hc.whole e hpos hge).imp (fun ⟨c, hmem, hepoch⟩ => ?_) (.tail _)
      exact ⟨c, List.mem_append_left _ hmem, hepoch⟩
  busy e he := by
    obtain ⟨c, hmem, hepoch⟩ := hc.busy e he
    exact ⟨c, List.mem_append_left _ hmem, hepoch⟩

/-- A conduit fires, and may change as it does. -/
lemma firedAs (hc : Census none h cs) {event : TransportEvent} {state : ConnectionState}
    {f : Conduit → Conduit} (hepoch : ∀ c, (f c).epoch = c.epoch)
    (hother : ∀ c, c.epoch ≠ e → (f c).established = c.established)
    (hbusy : ∀ e' ∈ busy, e' = e ∧ ∃ c ∈ cs, c.epoch = e)
    (htold : ∀ c ∈ cs, c.epoch = e → if busy = some e then Broken (events e h ++ [event])
      else Underway (f c).established (events e h ++ [event])) :
    Census busy (.fired e event state :: h) (cs.map f) where
  runs := by
    simp only [List.forall_mem_map]
    intro c hmem
    obtain ⟨hpos, hle, hlasting, hunder⟩ := hc.runs c hmem
    refine ⟨by rwa [hepoch], by rwa [hepoch], by simpa [hepoch] using hlasting, ?_⟩
    rw [hepoch, events_cons]
    by_cases he : e = c.epoch
    · subst he
      simpa [Deed.event?] using htold c hmem rfl
    · have hidle : busy ≠ some c.epoch := fun hb => he (hbusy _ hb).1.symm
      simpa [Deed.event?, he, hidle, hother c (Ne.symm he)] using hunder
  whole e' hpos hle := by
    obtain ⟨c, hmem, he⟩ | hended := hc.whole e' hpos hle
    · exact .inl ⟨f c, List.mem_map_of_mem hmem, (hepoch c).trans he⟩
    · exact .inr (.tail _ hended)
  busy e' he' := by
    obtain ⟨rfl, c, hmem, he⟩ := hbusy e' he'
    exact ⟨f c, List.mem_map_of_mem hmem, (hepoch c).trans he⟩

/-- A conduit fires and stays as it is. -/
lemma fired (hc : Census none h cs) {event : TransportEvent} {state : ConnectionState}
    (hbusy : ∀ e' ∈ busy, e' = e ∧ ∃ c ∈ cs, c.epoch = e)
    (htold : ∀ c ∈ cs, c.epoch = e → if busy = some e then Broken (events e h ++ [event])
      else Underway c.established (events e h ++ [event])) :
    Census busy (.fired e event state :: h) cs := by
  simpa using hc.firedAs (f := id) (fun _ => rfl) (fun _ _ => rfl) hbusy htold

/-- A conduit ends. -/
lemma ended (hc : Census busy h cs) (hbusy : ∀ e' ∈ busy, e' = e) :
    Census none (.ended e :: h) (cs.filter (·.epoch ≠ e)) where
  runs c hmem := by
    obtain ⟨hold, hne⟩ := List.mem_filter.mp hmem
    have hother : c.epoch ≠ e := by simpa using hne
    obtain ⟨hpos, hle, hlasting, htold⟩ := hc.runs c hold
    refine ⟨hpos, hle, by simpa [hother] using hlasting, ?_⟩
    have hidle : busy ≠ some c.epoch := fun hb => hother (hbusy _ hb)
    rw [if_neg hidle] at htold
    simpa [events_cons, Deed.event?] using htold
  whole e' hpos hle := by
    rcases hc.whole e' hpos hle with ⟨c, hmem, hepoch⟩ | hended
    · by_cases he : e' = e
      · exact .inr (he ▸ .head _)
      · refine .inl ⟨c, List.mem_filter.mpr ⟨hmem, ?_⟩, hepoch⟩
        simpa [hepoch] using he
    · exact .inr (.tail _ hended)
  busy := nofun

end Census

/-! ### The invariant -/

/-- The history is a chronicle that tells what the transport shows, and the census is right. -/
structure Sound (busy : Option Nat) (s : Socket) : Prop where
  chronicle : Chronicle s.history
  answered : awaited? s.history = none
  epoch : s.epoch = newest s.history
  shows : (s.state, s.outbound) = face s.history
  census : Census busy s.history s.conduits

namespace Sound

/-- The handlers do not matter. -/
lemma congr (hs : Sound busy s) (hstate : t.state = s.state) (houtbound : t.outbound = s.outbound)
    (hepoch : t.epoch = s.epoch) (hhistory : t.history = s.history)
    (hcensus : Census busy s.history t.conduits) : Sound busy t := by
  refine ⟨hhistory ▸ hs.chronicle, hhistory ▸ hs.answered, ?_, ?_, hhistory ▸ hcensus⟩
  · rw [hepoch, hhistory, hs.epoch]
  · rw [hstate, houtbound, hhistory, hs.shows]

lemma state_eq (hs : Sound busy s) : s.state = (face s.history).1 := congrArg Prod.fst hs.shows

lemma outbound_eq (hs : Sound busy s) : s.outbound = (face s.history).2 := congrArg Prod.snd hs.shows

lemma not_awaited (hs : Sound busy s) {d : Deed} : ∀ d' ∈ awaited? s.history, d = d' := by
  simp [hs.answered]

/-- An entry that changes nothing of what the history tells. -/
lemma note (hs : Sound busy s) {d : Deed} (hd : d.isStill) (hlawful : d.Lawful s.history)
    (hawaited : awaited? (d :: s.history) = none) (hface : face (d :: s.history) = face s.history) :
    Sound busy (s.note d) where
  chronicle := ⟨hs.not_awaited, hlawful, hs.chronicle⟩
  answered := hawaited
  epoch := hs.epoch.trans (newest_still hd _).symm
  shows := hs.shows.trans hface.symm
  census := hs.census.still hd

/-- The queues do not matter, nor what was written. -/
lemma modify (hs : Sound busy s) (e : Nat) {change : Conduit → Conduit}
    (hchange : ∀ c, (change c).epoch = c.epoch ∧ (change c).established = c.established) :
    Sound busy (s.modify e change) := by
  refine hs.congr rfl rfl rfl rfl (hs.census.map fun c => ?_)
  split
  · exact hchange c
  · exact ⟨rfl, rfl⟩

end Sound

/-! ### Calls -/

@[simp] lemma letGo_state (s : Socket) : s.letGo.state = s.state := by
  rw [letGo]; split <;> rfl

@[simp] lemma letGo_outbound (s : Socket) : s.letGo.outbound = none := by
  rw [letGo]; split
  · rfl
  · assumption

@[simp] lemma letGo_epoch (s : Socket) : s.letGo.epoch = s.epoch := by
  rw [letGo]; split <;> rfl

@[simp] lemma letGo_history (s : Socket) : s.letGo.history = s.history := by
  rw [letGo]; split <;> rfl

lemma Census.letGo (hc : Census busy h s.conduits) : Census busy h s.letGo.conduits := by
  rw [Socket.letGo]
  split
  · refine hc.map fun c => ?_
    split <;> exact ⟨rfl, rfl⟩
  · exact hc

namespace Sound

/-- A call is made in the state that shows. -/
lemma called (hs : Sound busy s) {call : Call} (hconnect : call = .connect → s.state.isLive)
    (hdisconnect : call = .disconnect → s.outbound = none) :
    Sound busy (s.note (.called call s.state)) := by
  refine hs.note rfl hs.state_eq ?_ ?_
  · cases call <;> simp_all [awaited?]
  · cases call with
    | disconnect =>
        have hnone := hdisconnect rfl
        rw [hs.outbound_eq] at hnone
        simp [face, hnone]
    | _ => rfl

/-- A connect is answered at once by a new conduit, unless the transport is live. -/
lemma connect (hs : Sound busy s) : Sound busy s.connect := by
  rw [Socket.connect]
  cases hlive : s.state.isLive with
  | true =>
      rw [if_pos (by simpa [Socket.note] using hlive)]
      exact hs.called (fun _ => hlive) nofun
  | false =>
      rw [if_neg (by simpa [Socket.note] using hlive)]
      have hlawful : (Deed.called .connect s.state).Lawful s.history := hs.state_eq
      have hcalled : Chronicle (.called .connect s.state :: s.history) :=
        ⟨hs.not_awaited, hlawful, hs.chronicle⟩
      have hclosing : newest s.history = 0 ∨ .ended (newest s.history) ∈ s.history ∨
          s.state = .closing := by
        cases hstate : s.state with
        | idle => exact (ended_of_idle (hs.state_eq.symm.trans hstate)).imp_right .inl
        | closing => exact .inr (.inr rfl)
        | connecting => simp [hstate, ConnectionState.isLive] at hlive
        | opened => simp [hstate, ConnectionState.isLive] at hlive
      have hbegan : Chronicle (.began (newest s.history + 1) :: .called .connect s.state ::
          s.history) := by
        refine ⟨fun d' hd' => ?_, ⟨rfl, s.state, s.history, rfl, hlive,
          hclosing.imp_right (.imp_left (.tail _))⟩, hcalled⟩
        simpa [awaited?, hlive, newest] using hd'
      have hcensus : Census busy (.called .connect s.state :: s.history)
          (s.note (.called .connect s.state)).conduits := hs.census.still rfl
      have hopened := hcensus.letGo.began hcalled
      constructor
      · simpa [hs.epoch, Socket.note, newest] using hbegan
      · rfl
      · rfl
      · rfl
      · simpa [hs.epoch, Socket.note, newest] using hopened

/-- A disconnect lets go of the queue, if one is held. -/
lemma disconnect (hs : Sound busy s) : Sound busy s.disconnect := by
  rw [Socket.disconnect]
  split
  next hnone => exact hs.called nofun fun _ => hnone
  next e hsome =>
    have hlawful : (Deed.called .disconnect s.state).Lawful s.history := hs.state_eq
    have hheld : (face s.history).2 = some e := by rw [← hs.outbound_eq]; exact hsome
    have hcensus : Census busy (.called .disconnect s.state :: s.history)
        (s.note (.called .disconnect s.state)).conduits := hs.census.still rfl
    constructor
    · rw [letGo_history]
      exact ⟨hs.not_awaited, hlawful, hs.chronicle⟩
    · rw [letGo_history]
      rfl
    · rw [letGo_epoch, letGo_history]
      exact hs.epoch
    · rw [letGo_state, letGo_outbound, letGo_history]
      exact (if_pos (by simp [hheld])).symm
    · rw [letGo_history]
      refine Census.letGo (hcensus.map fun c => ?_)
      split <;> exact ⟨rfl, rfl⟩

lemma send (hs : Sound busy s) (message : String) : Sound busy (s.send message) := by
  have hcalled : Sound busy (s.note (.called (.send message) s.state)) := hs.called nofun nofun
  rw [Socket.send]
  split
  · refine Sound.note ?_ (d := .queued _ message) rfl trivial rfl rfl
    exact hcalled.modify _ fun _ => ⟨rfl, rfl⟩
  · exact hcalled

end Sound

mutual

/-- Calls keep the history sound, also in the midst of a conduit's end. -/
lemma Sound.perform {s : Socket} (hs : Sound busy s) : ∀ call : Call, Sound busy (s.perform call).1
  | .connect => by
      simp only [Socket.perform]
      exact hs.connect
  | .disconnect => by
      simp only [Socket.perform]
      exact hs.disconnect
  | .send message => by
      simp only [Socket.perform]
      exact hs.send message
  | .state | .url | .peer _ => by
      simp only [Socket.perform]
      exact hs
  | .on .. => by
      simp only [Socket.perform]
      exact hs.congr rfl rfl rfl rfl hs.census
  | .batch calls => by
      simp only [Socket.perform]
      exact hs.performAll calls

lemma Sound.performAll {s : Socket} (hs : Sound busy s) :
    ∀ calls : List Call, Sound busy (s.performAll calls).1
  | [] => by
      simp only [Socket.performAll]
      exact hs
  | c :: cs => by
      simp only [Socket.performAll]
      exact (hs.perform c).performAll cs

end

/-- Whatever a handler does keeps the history sound. -/
lemma Sound.enter (hs : Sound busy s) (handler : Handler) : Sound busy (s.enter handler) := by
  rw [Socket.enter]
  induction handler.script generalizing s with
  | nil => exact hs
  | cons call calls ih => exact ih ((hs.perform call).note rfl trivial rfl rfl)

/-! ### The conduit's task -/

lemma fire_of_ne (he : s.epoch ≠ e) (event : TransportEvent) : s.fire e event = s := by
  rw [fire, if_pos he]

/-- Once the newest conduit has fired, the rest is its handler's. -/
lemma Sound.fire {event : TransportEvent} (hs : Sound busy (s.note (.fired e event s.state)))
    (he : s.epoch = e) : Sound busy (s.fire e event) := by
  rw [Socket.fire, if_neg (by simp [he])]
  dsimp only
  split
  · exact hs
  · refine Sound.enter ?_ _
    exact hs.note rfl trivial rfl rfl

/-- The newest conduit fires. -/
lemma Sound.fired (hs : Sound none s) (he : s.epoch = e) {event : TransportEvent}
    (hpartial : IsPartial (events e s.history ++ [event]))
    (hcensus : Census busy (.fired e event s.state :: s.history) s.conduits) :
    Sound busy (s.note (.fired e event s.state)) where
  chronicle := ⟨hs.not_awaited,
    ⟨he.symm.trans hs.epoch, hs.state_eq, hpartial⟩, hs.chronicle⟩
  answered := rfl
  epoch := hs.epoch
  shows := hs.shows
  census := hcensus

/-- A superseded conduit ends in silence. -/
lemma finish_of_ne (he : s.epoch ≠ e) :
    s.finish e = { s with conduits := s.conduits.filter (·.epoch ≠ e) }.note (.ended e) := by
  rw [finish]
  exact if_pos he

/-- The newest conduit leaves the transport idle and reports its end. -/
lemma finish_of_eq (he : s.epoch = e) :
    s.finish e =
      { ({ s with conduits := s.conduits.filter (·.epoch ≠ e) }.note (.ended e)).letGo with
        state := .idle }.fire e .disconnect := by
  rw [finish]
  exact if_neg (not_not_intro he)

/-- A conduit that runs ends, whether its fault was told or not. -/
lemma Sound.finish (hs : Sound busy s) (hbusy : ∀ e' ∈ busy, e' = e) (hc : c ∈ s.conduits)
    (hepoch : c.epoch = e) : Sound none (s.finish e) := by
  obtain ⟨hpos, hle, hlasting, htold⟩ := hs.census.runs c hc
  rw [hepoch] at hpos hle hlasting htold
  have hcensus := hs.census.ended hbusy
  have hended : Chronicle (.ended e :: s.history) :=
    ⟨hs.not_awaited, ⟨hpos, hle, hlasting⟩, hs.chronicle⟩
  by_cases he : s.epoch = e
  · have hnewest : newest s.history = e := hs.epoch ▸ he
    have hidle : face (.ended e :: s.history) = (.idle, none) := if_pos hnewest
    have hpartial : IsPartial (events e (.ended e :: s.history) ++ [.disconnect]) := by
      split at htold
      · simpa [events_cons, Deed.event?] using htold.disconnect
      · simpa [events_cons, Deed.event?] using htold.disconnect
    have hreported : Chronicle (.fired e .disconnect .idle :: .ended e :: s.history) := by
      refine ⟨fun d' hd' => ?_, ⟨hnewest.symm, by rw [hidle], hpartial⟩, hended⟩
      simpa [awaited?, hnewest] using hd'
    have hgone : Census none (.fired e .disconnect .idle :: .ended e :: s.history)
        (s.conduits.filter (·.epoch ≠ e)) :=
      hcensus.fired (by simp) fun c hmem hc => by simp [hc] at hmem
    rw [finish_of_eq he]
    refine Sound.fire ?_ (by rw [letGo_epoch]; exact he)
    constructor
    · simpa [Socket.note] using hreported
    · rfl
    · simpa [Socket.note, newest] using hs.epoch
    · simp [Socket.note, face, hnewest]
    · change Census none (.fired e .disconnect .idle :: (letGo _).history) (letGo _).conduits
      rw [letGo_history]
      exact Census.letGo (s := { s with conduits := s.conduits.filter (·.epoch ≠ e) }.note _) hgone
  · have hother : newest s.history ≠ e := hs.epoch ▸ he
    rw [finish_of_ne he]
    exact {
      chronicle := hended
      answered := if_neg hother
      epoch := hs.epoch
      shows := hs.shows.trans (if_neg hother).symm
      census := hcensus }

/-- A conduit tells its fault, if it is the newest, and ends. -/
lemma Sound.fail (hs : Sound none s) (hc : c ∈ s.conduits) (hepoch : c.epoch = e)
    (reason : String) : Sound none ((s.fire e (.error reason)).finish e) := by
  by_cases he : s.epoch = e
  · obtain ⟨-, -, -, hunder⟩ := hs.census.runs c hc
    rw [hepoch, if_neg (by simp)] at hunder
    have hcensus : Census (some e) (.fired e (.error reason) s.state :: s.history) s.conduits := by
      refine hs.census.fired (fun e' he' => ?_) fun c' _ _ => ?_
      · exact ⟨(Option.some.inj he').symm, c, hc, hepoch⟩
      · rw [if_pos rfl]
        exact ⟨_, _, reason, hunder, rfl⟩
    have htold := (hs.fired he (hunder.error reason) hcensus).fire he
    obtain ⟨c', hc', hepoch'⟩ := htold.census.busy e rfl
    exact htold.finish (fun e' he' => (Option.some.inj he').symm) hc' hepoch'
  · rw [fire_of_ne he]
    exact hs.finish nofun hc hepoch

lemma mem_of_conduit? (h : s.conduit? e = some c) : c ∈ s.conduits ∧ c.epoch = e :=
  ⟨List.mem_of_find?_eq_some h, by simpa using List.find?_some h⟩

/-- The events tell whether a conduit underway is established. -/
lemma Underway.unique {a b : Bool} {evs : List TransportEvent} (ha : Underway a evs)
    (hb : Underway b evs) : a = b := by
  cases a <;> cases b <;> simp_all [Underway]

/-- An established conduit brings a message. -/
lemma Sound.bring (hs : Sound none s) (hc : c ∈ s.conduits) (hepoch : c.epoch = e)
    (hestablished : c.established = true) (data : String) :
    Sound none (s.fire e (.message data)) := by
  by_cases he : s.epoch = e
  · obtain ⟨-, -, -, hunder⟩ := hs.census.runs c hc
    rw [hepoch, if_neg (by simp), hestablished] at hunder
    have hmessage := hunder.message data
    have hcensus : Census none (.fired e (.message data) s.state :: s.history) s.conduits := by
      refine hs.census.fired nofun fun c' hc' hepoch' => ?_
      obtain ⟨-, -, -, hunder'⟩ := hs.census.runs c' hc'
      rw [hepoch', if_neg (by simp)] at hunder'
      rw [if_neg (by simp), hunder'.unique hunder]
      exact hmessage
    exact (hs.fired he hmessage.isPartial hcensus).fire he
  · rw [fire_of_ne he]
    exact hs

/-- A handshake that succeeds opens the newest conduit. -/
lemma Sound.establish (hs : Sound none s) (he : s.epoch = e) (hc : c ∈ s.conduits)
    (hepoch : c.epoch = e) (hestablished : c.established = false) :
    Sound none (({ s.modify e ({ · with established := true }) with state := .opened }.note
      (.established e)).fire e .connect) := by
  obtain ⟨hpos, hle, hlasting, hunder⟩ := hs.census.runs c hc
  rw [hepoch, if_neg (by simp), hestablished] at hunder
  have hconnect := hunder.connect
  have hnewest : e = newest s.history := he.symm.trans hs.epoch
  have hcensus : Census none (.fired e .connect .opened :: .established e :: s.history)
      (s.modify e ({ · with established := true })).conduits := by
    refine (hs.census.still rfl).firedAs (fun c => ?_) (fun c hne => ?_) nofun fun c' _ hepoch' => ?_
    · dsimp only
      split <;> rfl
    · simp [hne]
    · rw [if_neg nofun, events_still rfl, if_pos hepoch']
      exact hconnect
  refine Sound.fire ?_ he
  exact {
    chronicle := ⟨nofun, ⟨hnewest, rfl, hconnect.isPartial⟩,
      hs.not_awaited, hnewest, hs.chronicle⟩
    answered := rfl
    epoch := hs.epoch
    shows := congrArg (ConnectionState.opened, ·) hs.outbound_eq
    census := hcensus }

/-! ### Moves -/

lemma Sound.handshake (hs : Sound none s) (e : Nat) (outcome : Except SocketFault Unit) :
    Sound none (s.handshake e outcome) := by
  rw [Socket.handshake.eq_def]
  split
  next commands hasSender written hc =>
    obtain ⟨hmem, hepoch⟩ := mem_of_conduit? hc
    cases outcome with
    | error fault => exact hs.fail hmem hepoch _
    | ok =>
        dsimp only
        by_cases he : s.epoch = e
        · rw [if_neg (not_not_intro he)]
          exact hs.establish he hmem hepoch rfl
        · rw [if_pos he, ← finish_of_ne he]
          exact hs.finish nofun hmem hepoch
  next => exact hs

lemma Sound.abandon (hs : Sound none s) (e : Nat) : Sound none (s.abandon e) := by
  rw [Socket.abandon]
  split
  next c hc =>
    obtain ⟨hmem, hepoch⟩ := mem_of_conduit? hc
    split
    · exact hs.finish nofun hmem hepoch
    · exact hs
  next => exact hs

lemma Sound.obey (hs : Sound none s) (e : Nat) (failure : Option String) :
    Sound none (s.obey e failure) := by
  rw [Socket.obey]
  split
  next c hc =>
    obtain ⟨hmem, hepoch⟩ := mem_of_conduit? hc
    have hclosed : Sound none ((s.note (.closing e)).finish e) :=
      (hs.note (d := .closing e) rfl trivial rfl rfl).finish nofun hmem hepoch
    split
    · exact hs
    · split
      next message rest _ =>
        have htaken : Sound none (s.modify e ({ · with commands := rest })) :=
          hs.modify e fun _ => ⟨rfl, rfl⟩
        cases failure with
        | some reason => exact htaken.fail (List.mem_map_of_mem hmem) (by simp [hepoch]) reason
        | none =>
            refine Sound.note ?_ (d := .wrote e message) rfl trivial rfl rfl
            exact htaken.modify e fun _ => ⟨rfl, rfl⟩
      next => exact hclosed
      next =>
        split
        · exact hs
        · exact hclosed
  next => exact hs

lemma Sound.read (hs : Sound none s) (e : Nat) (inbound : Inbound) : Sound none (s.read e inbound) := by
  rw [Socket.read.eq_def]
  split
  next hc =>
    obtain ⟨hmem, hepoch⟩ := mem_of_conduit? hc
    cases inbound with
    | text data => exact hs.bring hmem hepoch rfl data
    | other => exact hs
    | closed => exact hs.finish nofun hmem hepoch
    | failed reason => exact hs.fail hmem hepoch reason
  next => exact hs

/-- Whatever the task of a conduit finds ready, and whoever calls. -/
lemma Sound.move (hs : Sound none s) (m : Move) : Sound none (s.move m) := by
  cases m with
  | call call => exact hs.perform call
  | handshake e outcome => exact hs.handshake e outcome
  | abandon e => exact hs.abandon e
  | obey e failure => exact hs.obey e failure
  | read e inbound => exact hs.read e inbound

lemma Sound.run (hs : Sound none s) (moves : List Move) : Sound none (s.run moves) := by
  induction moves generalizing s with
  | nil => exact hs
  | cons m moves ih => exact ih (hs.move m)

lemma sound_new (url : String) (handlers : Handlers Handler) : Sound none { url, handlers } where
  chronicle := trivial
  answered := rfl
  epoch := rfl
  shows := rfl
  census := ⟨nofun, fun _ hpos hle => absurd hle (Nat.not_le_of_lt hpos), nofun⟩

/-! ### The result -/

/-- The conduit on whose behalf something was done. -/
def Deed.conduit? : Deed → Option Nat
  | .established e | .fired e .. | .wrote e _ | .closing e | .ended e => some e
  | _ => none

/-- What a superseded conduit does is no event, and changes nothing of what shows. -/
lemma Chronicle.superseded {d : Deed} (hc : Chronicle (d :: h)) (hd : d.conduit? = some e)
    (he : newest h ≠ e) : d.event? e = none ∧ face (d :: h) = face h := by
  cases d with
  | established e' =>
      obtain rfl : e' = e := by simpa [Deed.conduit?] using hd
      exact absurd (show e' = newest h from hc.2.1).symm he
  | fired e' event state =>
      obtain rfl : e' = e := by simpa [Deed.conduit?] using hd
      exact absurd hc.2.1.1.symm he
  | ended e' =>
      obtain rfl : e' = e := by simpa [Deed.conduit?] using hd
      exact ⟨rfl, if_neg he⟩
  | wrote | closing => exact ⟨rfl, rfl⟩
  | _ => simp [Deed.conduit?] at hd

/-- The end of the newest conduit is told at once, as its last event and its only `Disconnect`. -/
lemma Sound.ended (hs : Sound busy s) {newer older : List Deed}
    (hh : s.history = newer ++ .ended e :: older) (he : newest older = e) :
    ∃ later, newer = later ++ [.fired e .disconnect .idle] ∧ events e later = [] ∧
      .disconnect ∉ events e older := by
  have hc := hs.chronicle
  have hnone := hs.answered
  rw [hh] at hc hnone
  obtain ⟨later, rfl⟩ := hc.answered hnone (if_pos he)
  have hpartial := hc.isPartial e
  have hevents : events e (later ++ [.fired e .disconnect .idle] ++ .ended e :: older) =
      events e older ++ .disconnect :: events e later := by
    simp [events_append, events_cons, Deed.event?]
  rw [hevents] at hpartial
  exact ⟨later, rfl, hpartial.eq_nil_of_disconnect⟩

/-- A connect is followed at once by a conduit exactly if the state was not live. -/
lemma Sound.connected (hs : Sound busy s) {newer older : List Deed} {state : ConnectionState}
    (hh : s.history = newer ++ .called .connect state :: older) :
    state.isLive = false ↔ ∃ later, newer = later ++ [.began (newest older + 1)] := by
  have hc := hs.chronicle
  have hnone := hs.answered
  rw [hh] at hc hnone
  constructor
  · intro hlive
    exact hc.answered hnone (if_neg (by simp [hlive]))
  · rintro ⟨later, rfl⟩
    rw [List.append_assoc] at hc
    obtain ⟨-, state', before, heq, hlive, -⟩ := hc.suffix.2.1
    cases heq
    exact hlive

/-- **Each conduit is reported once, and epochs are kept apart.** In every run, whatever the handlers call
and whatever the tasks find ready in whatever order,

* the events of a conduit are part of a report;
* an event is fired for the newest conduit only, in the state that shows;
* a conduit that ends while it is the newest fires a `Disconnect` at once, in the idle state, as its last
  event and its only `Disconnect`;
* nothing that is done for a superseded conduit is an event, or changes the state or whose queue is held;
* a conduit is opened by a connect in a state that is not live, when the one before it has ended or was
  told to close, and every such connect opens one at once;
* the conduits that were opened and have not ended are those that run. -/
theorem epochs_apart (url : String) (handlers : Handlers Handler) (moves : List Move) :
    let s := run { url, handlers } moves
    (∀ e, IsPartial (events e s.history)) ∧
    (∀ newer e event state older, s.history = newer ++ .fired e event state :: older →
      e = newest older ∧ state = (face older).1) ∧
    (∀ newer e older, s.history = newer ++ .ended e :: older → newest older = e →
      ∃ later, newer = later ++ [.fired e .disconnect .idle] ∧ events e later = [] ∧
        .disconnect ∉ events e older) ∧
    (∀ newer d older e, s.history = newer ++ d :: older → d.conduit? = some e → newest older ≠ e →
      d.event? e = none ∧ face (d :: older) = face older) ∧
    (∀ newer e older, s.history = newer ++ .began e :: older →
      e = newest older + 1 ∧ ∃ state before, older = .called .connect state :: before ∧
        state.isLive = false ∧
        (newest older = 0 ∨ .ended (newest older) ∈ older ∨ state = .closing)) ∧
    (∀ newer state older, s.history = newer ++ .called .connect state :: older →
      state = (face older).1 ∧
        (state.isLive = false ↔ ∃ later, newer = later ++ [.began (newest older + 1)])) ∧
    (s.state, s.outbound) = face s.history ∧ s.epoch = newest s.history ∧
    ∀ e, 0 < e → e ≤ s.epoch → ((∃ c ∈ s.conduits, c.epoch = e) ↔ .ended e ∉ s.history) := by
  intro s
  have hs : Sound none s := (sound_new url handlers).run moves
  have hsuffix : ∀ {newer h}, s.history = newer ++ h → Chronicle h := fun hh =>
    Chronicle.suffix (hh ▸ hs.chronicle)
  refine ⟨hs.chronicle.isPartial, fun newer e event state older hh => ?_,
    fun newer e older hh he => hs.ended hh he, fun newer d older e hh hd he => ?_,
    fun newer e older hh => (hsuffix hh).2.1, fun newer state older hh => ?_, hs.shows, hs.epoch,
    fun e hpos hle => ?_⟩
  · obtain ⟨hnewest, hstate, -⟩ := (hsuffix hh).2.1
    exact ⟨hnewest, hstate⟩
  · exact (hsuffix hh).superseded hd he
  · exact ⟨(hsuffix hh).2.1, hs.connected hh⟩
  · refine ⟨fun ⟨c, hmem, hepoch⟩ => hepoch ▸ (hs.census.runs c hmem).lasting, fun hnot => ?_⟩
    exact (hs.census.whole e hpos (hs.epoch ▸ hle)).resolve_right hnot

end ResilientChannel.Socket
