import ResilientChannel.Proofs.Socket.Epochs

/-!
The steps of a persistent socket transport.

* **The methods.** What each of them does to the transport, by the state in which it is called.
* **The rule.** A property that connecting, disconnecting, sending, registering and the notes of a handler
  keep is kept by every call, by every handler, and, once it holds as the event is noted, by whatever is
  fired (`Keeps`).
* **The entries.** A property of the history alone is kept by calls if it is kept by each of the entries
  that calls make (`Keeps.of_history`).
* **The moves.** All that a move can do: a call, or one of the things that the task of a conduit does when
  it finds something ready (`Step`, `step`).
-/

namespace ResilientChannel.Socket

open Transport

variable {I : Socket → Prop} {P : List Deed → Prop} {s : Socket} {e : Nat} {c : Conduit}

/-- The property is kept by each method, by a registration, and by the entries that stand for a handler
and for the calls of its script. -/
structure Keeps (I : Socket → Prop) : Prop where
  connect {s : Socket} : I s → I s.connect
  disconnect {s : Socket} : I s → I s.disconnect
  send {s : Socket} (message : String) : I s → I (s.send message)
  register {s : Socket} (handlers : Handlers Handler) : I s → I { s with handlers }
  handled {s : Socket} (tag : String) (event : TransportEvent) : I s → I (s.note (.handled tag event))
  did {s : Socket} (call : Call) (reply : Reply) : I s → I (s.note (.did call reply))

/-! ### The methods -/

lemma letGo_of_none (hnone : s.outbound = none) : s.letGo = s := by
  rw [letGo, hnone]

lemma letGo_of_some (hsome : s.outbound = some e) :
    s.letGo = { s.modify e ({ · with hasSender := false }) with outbound := none } := by
  rw [letGo, hsome]

/-- Letting go changes nothing of the queues but for their other ends. -/
lemma mem_letGo (hc : c ∈ s.letGo.conduits) :
    ∃ c' ∈ s.conduits, c.epoch = c'.epoch ∧ c.commands = c'.commands := by
  rw [letGo] at hc
  split at hc
  · obtain ⟨c', hc', rfl⟩ := List.mem_map.mp hc
    refine ⟨c', hc', ?_⟩
    split
    · exact ⟨rfl, rfl⟩
    · exact ⟨rfl, rfl⟩
  · exact ⟨c, hc, rfl, rfl⟩

/-- A live transport ignores a connect. -/
lemma connect_of_isLive (hlive : s.state.isLive) : s.connect = s.note (.called .connect s.state) := by
  rw [connect]
  exact if_pos hlive

/-- A transport that is not live and holds no queue opens a conduit. -/
lemma connect_of_not_isLive (hlive : s.state.isLive = false) (hnone : s.outbound = none) :
    s.connect =
      { s with
        epoch := s.epoch + 1
        outbound := some (s.epoch + 1)
        state := .connecting
        conduits := s.conduits ++ [{ epoch := s.epoch + 1 }]
        history := .began (s.epoch + 1) :: .called .connect s.state :: s.history } := by
  have hletGo : (s.note (.called .connect s.state)).letGo = s.note (.called .connect s.state) :=
    letGo_of_none hnone
  rw [connect]
  dsimp only
  rw [if_neg (by simp [note, hlive]), hletGo]
  rfl

lemma disconnect_of_none (hnone : s.outbound = none) :
    s.disconnect = s.note (.called .disconnect s.state) := by
  have hnone' : (s.note (.called .disconnect s.state)).outbound = none := hnone
  rw [disconnect]
  dsimp only
  rw [hnone']

/-- The conduit whose queue is held is asked to close, and its queue let go. -/
lemma disconnect_of_some (hsome : s.outbound = some e) :
    s.disconnect =
      { s with
        state := .closing
        outbound := none
        conduits := s.conduits.map fun c =>
          if c.epoch = e then { c with commands := c.commands ++ [.close], hasSender := false } else c
        history := .called .disconnect s.state :: s.history } := by
  have hsome' : (s.note (.called .disconnect s.state)).outbound = some e := hsome
  have hletGo : s.disconnect = letGo { s with
      state := .closing
      conduits := s.conduits.map fun c =>
        if c.epoch = e then { c with commands := c.commands ++ [.close] } else c
      history := .called .disconnect s.state :: s.history } := by
    rw [disconnect]
    dsimp only
    rw [hsome']
    rfl
  rw [hletGo, letGo_of_some (by exact hsome)]
  simp only [modify, List.map_map]
  congr 2
  funext c
  by_cases hc : c.epoch = e
  · simp [hc]
  · simp [hc]

/-- A message is dropped by a transport that is not open or holds no queue. -/
lemma send_of_dropped {message : String} (hdrop : s.state = .opened → s.outbound = none) :
    s.send message = s.note (.called (.send message) s.state) := by
  rw [send]
  split
  next e hopen hsome =>
    have hopened : s.state = .opened := by simpa [note, ConnectionState.isOpen] using hopen
    have hheld : s.outbound = some e := hsome
    rw [hdrop hopened] at hheld
    cases hheld
  next => rfl

/-- A message is queued by a transport that is open and holds a queue. -/
lemma send_of_opened {message : String} (hopened : s.state = .opened) (hsome : s.outbound = some e) :
    s.send message =
      { s with
        conduits := s.conduits.map fun c =>
          if c.epoch = e then { c with commands := c.commands ++ [.frame message] } else c
        history := .queued e message :: .called (.send message) s.state :: s.history } := by
  rw [send]
  split
  next e' _ hsome' =>
    obtain rfl : e' = e := Option.some.inj (hsome'.symm.trans hsome)
    rfl
  next hnot => exact absurd hsome (hnot _ (by simp [note, hopened, ConnectionState.isOpen]))

/-! ### Calls and handlers -/

mutual

/-- Every call keeps what the methods keep. -/
lemma Keeps.perform (hI : Keeps I) {s : Socket} (hs : I s) : ∀ call : Call, I (s.perform call).1
  | .connect => by
      simp only [Socket.perform]
      exact hI.connect hs
  | .disconnect => by
      simp only [Socket.perform]
      exact hI.disconnect hs
  | .send message => by
      simp only [Socket.perform]
      exact hI.send message hs
  | .state | .url | .peer _ => by
      simp only [Socket.perform]
      exact hs
  | .on .. => by
      simp only [Socket.perform]
      exact hI.register _ hs
  | .batch calls => by
      simp only [Socket.perform]
      exact hI.performAll hs calls

lemma Keeps.performAll (hI : Keeps I) {s : Socket} (hs : I s) :
    ∀ calls : List Call, I (s.performAll calls).1
  | [] => by
      simp only [Socket.performAll]
      exact hs
  | c :: cs => by
      simp only [Socket.performAll]
      exact hI.performAll (hI.perform hs c) cs

end

namespace Keeps

lemma enter (hI : Keeps I) (hs : I s) (handler : Handler) : I (s.enter handler) := by
  rw [Socket.enter]
  induction handler.script generalizing s with
  | nil => exact hs
  | cons call calls ih => exact ih (hI.did _ _ (hI.perform hs call))

/-- Once the event of the newest conduit is noted, the rest is its handler's. -/
lemma fired (hI : Keeps I) (he : s.epoch = e) {event : TransportEvent}
    (hfired : I (s.note (.fired e event s.state))) : I (s.fire e event) := by
  rw [Socket.fire, if_neg (not_not_intro he)]
  dsimp only
  split
  · exact hfired
  · exact hI.enter (hI.handled _ _ hfired) _

/-- A conduit fires if it is the newest. -/
lemma fire (hI : Keeps I) (hs : I s) {event : TransportEvent}
    (hfired : s.epoch = e → I (s.note (.fired e event s.state))) : I (s.fire e event) := by
  by_cases he : s.epoch = e
  · exact hI.fired he (hfired he)
  · rwa [fire_of_ne he]

/-- A conduit ends in silence, or the newest one reports it. -/
lemma finish (hI : Keeps I)
    (hsilent : s.epoch ≠ e →
      I ({ s with conduits := s.conduits.filter (·.epoch ≠ e) }.note (.ended e)))
    (htold : s.epoch = e →
      I ({ ({ s with conduits := s.conduits.filter (·.epoch ≠ e) }.note (.ended e)).letGo with
        state := .idle }.note (.fired e .disconnect .idle))) : I (s.finish e) := by
  by_cases he : s.epoch = e
  · rw [finish_of_eq he]
    exact hI.fired (by rw [letGo_epoch]; exact he) (htold he)
  · rw [finish_of_ne he]
    exact hsilent he

end Keeps

/-! ### The entries -/

/-- An entry that a call makes, or that a handler is entered with. -/
def Deed.isCalls : Deed → Bool
  | .called .. | .began _ | .queued .. | .handled .. | .did .. => true
  | _ => false

/-- What calls do is no event. -/
lemma Deed.event?_of_isCalls {d : Deed} (hd : d.isCalls) (e : Nat) : d.event? e = none := by
  cases d <;> first | rfl | cases hd

namespace Keeps

/-- What is kept by each entry that calls make is kept by calls. -/
lemma of_history (hP : ∀ {d : Deed} {h : List Deed}, d.isCalls → P h → P (d :: h)) :
    Keeps fun s => P s.history where
  connect {s} hs := by
    have hcalled : P (.called .connect s.state :: s.history) := hP rfl hs
    rw [Socket.connect]
    dsimp only
    split
    · exact hcalled
    · refine hP rfl ?_
      rwa [letGo_history]
  disconnect {s} hs := by
    have hcalled : P (.called .disconnect s.state :: s.history) := hP rfl hs
    rw [Socket.disconnect]
    split
    · exact hcalled
    · rwa [letGo_history]
  send {s} message hs := by
    have hcalled : P (.called (.send message) s.state :: s.history) := hP rfl hs
    rw [Socket.send]
    split
    · exact hP rfl hcalled
    · exact hcalled
  register _ hs := hs
  handled _ _ hs := hP rfl hs
  did _ _ hs := hP rfl hs

/-- The end of a conduit makes an entry of its own, and another one if it is reported. -/
lemma finish_history (hI : Keeps fun s => P s.history) (hended : P (.ended e :: s.history))
    (hfired : P (.fired e .disconnect .idle :: .ended e :: s.history)) :
    P (s.finish e).history := by
  refine hI.finish (fun _ => hended) fun _ => ?_
  show P (.fired e .disconnect .idle :: (letGo _).history)
  rwa [letGo_history]

end Keeps

/-! ### The moves -/

/-- What a move does. A conduit whose handshake is not done fails, is given up for a command or since it is
superseded, or opens; one whose handshake is done writes, closes, brings a message, or is cut off. -/
inductive Step (s : Socket) : Move → Socket → Prop
  | rest (m : Move) : Step s m s
  | called (call : Call) : Step s (.call call) (s.perform call).1
  | refused {c : Conduit} (m : Move) (reason : String) (hmem : c ∈ s.conduits)
      (hnew : c.established = false) : Step s m ((s.fire c.epoch (.error reason)).finish c.epoch)
  | givenUp {c : Conduit} (m : Move) (hmem : c ∈ s.conduits) (hnew : c.established = false)
      (hwhy : c.hasCommand ∨ s.epoch ≠ c.epoch) : Step s m (s.finish c.epoch)
  | opened {c : Conduit} (m : Move) (hmem : c ∈ s.conduits) (hnew : c.established = false)
      (he : s.epoch = c.epoch) :
      Step s m (({ s.modify c.epoch ({ · with established := true }) with state := .opened }.note
        (.established c.epoch)).fire c.epoch .connect)
  | wrote {c : Conduit} {message : String} {rest : List Command} (m : Move) (hmem : c ∈ s.conduits)
      (hopen : c.established) (hcommands : c.commands = .frame message :: rest) :
      Step s m (((s.modify c.epoch ({ · with commands := rest })).modify c.epoch
        fun c => { c with written := c.written ++ [message] }).note (.wrote c.epoch message))
  | broke {c : Conduit} {message : String} {rest : List Command} (reason : String)
      (hmem : c ∈ s.conduits) (hopen : c.established) (hcommands : c.commands = .frame message :: rest) :
      Step s (.obey c.epoch (some reason))
        (((s.modify c.epoch ({ · with commands := rest })).fire c.epoch (.error reason)).finish c.epoch)
  | closed {c : Conduit} (m : Move) (hmem : c ∈ s.conduits) (hopen : c.established)
      (hdone : ∀ message rest, c.commands ≠ .frame message :: rest)
      (hclose : c.commands = [] → c.hasSender = false) :
      Step s m ((s.note (.closing c.epoch)).finish c.epoch)
  | brought {c : Conduit} (m : Move) (data : String) (hmem : c ∈ s.conduits) (hopen : c.established) :
      Step s m (s.fire c.epoch (.message data))
  | hungUp {c : Conduit} (hmem : c ∈ s.conduits) (hopen : c.established) :
      Step s (.read c.epoch .closed) (s.finish c.epoch)
  | failed {c : Conduit} (reason : String) (hmem : c ∈ s.conduits) (hopen : c.established) :
      Step s (.read c.epoch (.failed reason)) ((s.fire c.epoch (.error reason)).finish c.epoch)

lemma handshake_step (s : Socket) (e : Nat) (outcome : Except SocketFault Unit) :
    Step s (.handshake e outcome) (s.handshake e outcome) := by
  rw [handshake.eq_def]
  split
  next epoch commands hasSender written hc =>
    obtain ⟨hmem, rfl⟩ := mem_of_conduit? hc
    cases outcome with
    | error fault => exact .refused _ _ hmem rfl
    | ok =>
        dsimp only
        by_cases he : s.epoch = epoch
        · rw [if_neg (not_not_intro he)]
          exact .opened _ hmem rfl he
        · rw [if_pos he, ← finish_of_ne he]
          exact .givenUp _ hmem rfl (.inr he)
  next => exact .rest _

lemma abandon_step (s : Socket) (e : Nat) : Step s (.abandon e) (s.abandon e) := by
  rw [abandon]
  split
  next c hc =>
    obtain ⟨hmem, rfl⟩ := mem_of_conduit? hc
    split
    next hcommand =>
      obtain ⟨hnew, hwhy⟩ : c.established = false ∧ c.hasCommand = true := by simpa using hcommand
      exact .givenUp _ hmem hnew (.inl hwhy)
    next => exact .rest _
  next => exact .rest _

lemma obey_step (s : Socket) (e : Nat) (failure : Option String) :
    Step s (.obey e failure) (s.obey e failure) := by
  rw [obey]
  split
  next c hc =>
    obtain ⟨hmem, rfl⟩ := mem_of_conduit? hc
    split
    next => exact .rest _
    next hnot =>
      have hopen : c.established := by simpa using hnot
      split
      next message rest hcommands =>
        cases failure with
        | some reason => exact .broke reason hmem hopen hcommands
        | none => exact .wrote _ hmem hopen hcommands
      next rest hcommands => exact .closed _ hmem hopen (by simp [hcommands]) (by simp [hcommands])
      next hcommands =>
        split
        · exact .rest _
        next hsender =>
          exact .closed _ hmem hopen (by simp [hcommands]) fun _ => by simpa using hsender
  next => exact .rest _

lemma read_step (s : Socket) (e : Nat) (inbound : Inbound) :
    Step s (.read e inbound) (s.read e inbound) := by
  rw [read.eq_def]
  split
  next hc =>
    obtain ⟨hmem, rfl⟩ := mem_of_conduit? hc
    cases inbound with
    | text data => exact .brought _ data hmem rfl
    | other => exact .rest _
    | closed => exact .hungUp hmem rfl
    | failed reason => exact .failed reason hmem rfl
  next => exact .rest _

/-- Every move is one of the steps. -/
lemma step (s : Socket) (m : Move) : Step s m (s.move m) := by
  cases m with
  | call call => exact .called call
  | handshake e outcome => exact handshake_step s e outcome
  | abandon e => exact abandon_step s e
  | obey e failure => exact obey_step s e failure
  | read e inbound => exact read_step s e inbound

end ResilientChannel.Socket
