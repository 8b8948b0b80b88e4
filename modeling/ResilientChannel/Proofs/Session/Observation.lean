import Mathlib.Data.List.Basic
import ResilientChannel.Proofs.Session.HalfOpen
import ResilientChannel.Proofs.Session.Mirror

/-!
Observation does not disturb the lifecycle.

* **Runs without observations.** `essence` is what a run comes to without the observations: the moves from
  outside but for those that observe, and the turns of the driver but for those that it spends on an
  observation or on nothing. A run in which no callback takes any action is mirrored by its essence
  (`Mirrors.run`).
* **What is seen.** Both ask the line for the same at the same times (`Mirrors.conduct`), and a snapshot shows
  the same in both (`Mirrors.snapshot`).
* **Turns for the observations.** Observations may be put in anywhere: the driver takes those that stand
  before the next signal of the lifecycle, and goes on as it would have without them
  (`Mirrors.exists_paced`).
* `observation_undisturbing`: two runs with one essence agree in what they ask of the line and in the
  snapshots, and every way to put observations into a run leads to a run with the same essence.
-/

namespace ResilientChannel.Session

variable {s t : Session}

/-! ### Runs without observations -/

/-- The driver's next turn is spent on an observation, or on nothing. -/
def isSpare (s : Session) : Bool := s.drive?.all fun _ => s.queue.head?.any (·.observes)

/-- The moves that a move comes to without observations, if every turn of the driver counts. -/
def Move.outline : Move → List Move
  | .act a => a.essence.map .act
  | m => [m]

/-- The moves that a move comes to without observations. -/
def Move.essence (s : Session) : Move → List Move
  | .drive => if s.isSpare then [] else [.drive]
  | m => m.outline

/-- What a run comes to without observations. -/
def essence (s : Session) : List Move → List Move
  | [] => []
  | m :: moves => m.essence s ++ essence (s.move m) moves

/-- No callback that the move registers takes any action. -/
def Move.isDiscreet : Move → Bool
  | .act a => a.isDiscreet
  | _ => true

lemma essence_append (s : Session) (moves moves' : List Move) :
    essence s (moves ++ moves') = essence s moves ++ essence (s.run moves) moves' := by
  induction moves generalizing s with
  | nil => rfl
  | cons m moves ih =>
      rw [List.cons_append, essence, essence, ih, List.append_assoc]
      rfl

lemma Mirrors.fresh (now : Time) (line : Line) : Mirrors (fresh now line.hush) (fresh now line) where
  held := .of_callbacks_eq_empty rfl
  queued := nofun
  hush := rfl

/-- A turn that is spent on an observation, or on nothing, is not mirrored. -/
lemma Mirrors.driveSpare (h : Mirrors t s) (hspare : s.isSpare) : Mirrors t (s.move .drive) := by
  rw [Session.move]
  cases hu : s.drive? with
  | none => exact h
  | some u =>
      rw [isSpare, hu, Option.all_some] at hspare
      obtain ⟨-, ⟨x, rest, hqueue, rfl⟩ | ⟨hqueue, -⟩ | ⟨hqueue, -⟩⟩ := drive?_cases hu
      · exact h.handleGlance hqueue (by simpa [hqueue] using hspare)
      · simp [hqueue] at hspare
      · simp [hqueue] at hspare

/-- Any other turn of the driver has something to do in the mirror too, and is mirrored. -/
lemma Mirrors.driveEssential (h : Mirrors t s) (hspare : s.isSpare = false) :
    t.drive?.isSome ∧ Mirrors (t.move .drive) (s.move .drive) := by
  obtain ⟨u, hu⟩ : ∃ u, s.drive? = some u := by
    refine Option.ne_none_iff_exists'.mp fun hnone => ?_
    simp [isSpare, hnone] at hspare
  rw [isSpare, hu, Option.all_some] at hspare
  obtain ⟨hnone, -⟩ | ⟨u', v, hs, ht, hmoved⟩ := h.drive? hspare
  · cases hnone.symm.trans hu
  · simpa [Session.move, hs, ht] using hmoved

/-- **A move is mirrored by its essence.** -/
lemma Mirrors.move (h : Mirrors t s) {m : Move} (hm : m.isDiscreet) :
    Mirrors (t.run (m.essence s)) (s.move m) := by
  cases m with
  | act a => exact h.perform a hm
  | watch id => exact h.watch id
  | pass duration => exact h.pass duration
  | drive =>
      cases hspare : s.isSpare with
      | true =>
          rw [Move.essence, if_pos hspare]
          exact h.driveSpare hspare
      | false =>
          rw [Move.essence, if_neg (by simp [hspare])]
          exact (h.driveEssential hspare).2

/-- **A run is mirrored by its essence.** -/
lemma Mirrors.run (h : Mirrors t s) {moves : List Move} (hmoves : ∀ m ∈ moves, m.isDiscreet) :
    Mirrors (t.run (essence s moves)) (s.run moves) := by
  induction moves generalizing t s with
  | nil => exact h
  | cons m moves ih =>
      have hrest := ih (h.move (hmoves m (by simp))) fun m' hm' => hmoves m' (by simp [hm'])
      rw [essence, Session.run, List.foldl_append]
      exact hrest

/-! ### What the line and the application get to see -/

/-- The line is asked to connect or to disconnect, or is handed a frame. -/
def Deed.isConduct : Deed → Bool
  | .opened | .closed | .handed .. => true
  | _ => false

/-- Everything that the line was asked for, and when. -/
def conduct (history : List Record) : List Record := history.filter (·.deed.isConduct)

/-- The line is asked for the same in both. -/
lemma Mirrors.conduct (h : Mirrors t s) : conduct t.history = conduct s.history := by
  rw [Session.conduct, Session.conduct, h.history, List.filter_filter]
  refine List.filter_congr fun r _ => ?_
  cases r.deed <;> rfl

/-- The driver's next turn takes a request for a snapshot and answers it with `x`. -/
def Answers (s : Session) (x : Snapshot) : Prop :=
  (s.move .drive).history =
    { time := s.now, deed := .answered x } :: { time := s.now, deed := .took .inspect } :: s.history

/-- A deed with a taken signal for its first entry handles this signal. -/
lemma drive?_of_took (h : s.drive? = some t) {new : List Record} {x : Signal}
    (hhistory : t.history = new ++ { time := s.now, deed := .took x } :: s.history) :
    ∃ rest, s.queue = x :: rest ∧ t = ({ s with queue := rest }.note (.took x)).handle x := by
  obtain ⟨hrunning, hcases⟩ := drive?_exchange h
  cases hqueue : s.queue with
  | cons y rest =>
      obtain rfl := Option.some.inj ((drive?_of_queue hrunning hqueue).symm.trans h)
      obtain ⟨older, holder⟩ := handle_history s rest y
      obtain ⟨-, hcons⟩ := List.append_inj' (holder.symm.trans hhistory) (by simp)
      cases (List.cons.inj hcons).1
      exact ⟨rest, rfl, rfl⟩
  | nil =>
      -- the entries of a timer are none of a taken signal
      have hex : Exchange (fun _ => True) s t := by simpa [hqueue] using hcases
      obtain ⟨older, holder, -, hongoing⟩ := hex.flow.entries
      rw [holder, List.append_cons] at hhistory
      rw [List.append_cancel_right hhistory] at hongoing
      exact nomatch hongoing _ (List.mem_append_right _ (List.mem_singleton_self _))

/-- What is answered is the snapshot of the moment. -/
lemma Answers.eq_snapshot {x : Snapshot} (h : Answers s x) :
    x = s.life.snapshot s.line.state s.now := by
  rw [Answers, move] at h
  cases hu : s.drive? with
  | none =>
      rw [hu, Option.getD_none] at h
      exact absurd (congrArg List.length h) (by simp; omega)
  | some u =>
      rw [hu, Option.getD_some, ← List.singleton_append] at h
      obtain ⟨rest, -, rfl⟩ := drive?_of_took hu h
      cases h
      rfl

/-- A snapshot shows the same in both. -/
lemma Mirrors.snapshot (h : Mirrors t s) :
    t.life.snapshot t.line.state t.now = s.life.snapshot s.line.state s.now := by
  rw [h.state, h.now, h.life]
  rfl

/-! ### Turns for the observations -/

/-- The move is a turn of the driver. -/
def Move.isTurn : Move → Bool
  | .drive => true
  | _ => false

lemma Move.eq_drive {m : Move} (hm : m.isTurn) : m = .drive := by
  cases m with
  | drive => rfl
  | act | watch | pass => cases hm

lemma Move.essence_eq_outline {m : Move} (hm : m.isTurn = false) (s : Session) :
    m.essence s = m.outline := by
  cases m with
  | drive => cases hm
  | act | watch | pass => rfl

/-- Every turn that the driver gets in the run has something to do. -/
def Busy : Session → List Move → Prop
  | _, [] => True
  | s, m :: moves => (m.isTurn → s.drive?.isSome) ∧ Busy (s.move m) moves

lemma busy_append {moves moves' : List Move} :
    Busy s (moves ++ moves') ↔ Busy s moves ∧ Busy (s.run moves) moves' := by
  induction moves generalizing s with
  | nil => simp [Busy, Session.run]
  | cons m moves ih => simp [Busy, ih, Session.run, and_assoc]

lemma busy_acts (s : Session) (actions : List Action) : Busy s (actions.map .act) := by
  induction actions generalizing s with
  | nil => trivial
  | cons a actions ih => exact ⟨nofun, ih _⟩

/-- No turn is left over in the essence of a run. -/
lemma Mirrors.busy (h : Mirrors t s) {moves : List Move} (hmoves : ∀ m ∈ moves, m.isDiscreet) :
    Busy t (essence s moves) := by
  induction moves generalizing t s with
  | nil => trivial
  | cons m moves ih =>
      have hm := hmoves m (by simp)
      refine busy_append.mpr ⟨?_, ih (h.move hm) fun m' hm' => hmoves m' (by simp [hm'])⟩
      cases m with
      | act a => exact busy_acts t a.essence
      | watch id => exact ⟨nofun, trivial⟩
      | pass duration => exact ⟨nofun, trivial⟩
      | drive =>
          cases hspare : s.isSpare with
          | true => rw [Move.essence, if_pos hspare]; trivial
          | false =>
              rw [Move.essence, if_neg (by simp [hspare])]
              exact ⟨fun _ => (h.driveEssential hspare).1, trivial⟩

/-- Handling an observation leaves the queue to the others. -/
lemma handle_observation (s : Session) {x : Signal} (hx : x.observes) :
    (s.handle x).queue = s.queue := by
  match x with
  | .transport (.error _) | .inspect | .register .. => rfl
  | .start | .transport .connect | .transport .disconnect | .transport (.message _) | .forceReconnect
  | .network _ | .shutdown => cases hx

/-- With enough turns the driver gets to the next signal of the lifecycle, and nothing is mirrored. -/
lemma Mirrors.exists_turns (h : Mirrors t s) (hrunning : s.running) :
    ∃ n, let turns := List.replicate n Move.drive
      essence s turns = [] ∧ Mirrors t (s.run turns) ∧
        (s.run turns).queue.head?.any (·.observes) = false := by
  induction hqueue : s.queue generalizing s with
  | nil => exact ⟨0, rfl, h, by simp [Session.run, hqueue]⟩
  | cons x rest ih =>
      cases hx : x.observes with
      | false => exact ⟨0, rfl, h, by simp [Session.run, hqueue, hx]⟩
      | true =>
          have hdrive := drive?_of_queue hrunning hqueue
          have hspare : s.isSpare := by simp [isSpare, hqueue, hx]
          have hmoved := h.driveSpare hspare
          have hleft : (s.move .drive).queue = rest := by
            rw [Session.move, hdrive]
            exact handle_observation _ hx
          obtain ⟨n, hessence, hmirrors, hhead⟩ :=
            ih hmoved (hmoved.running.symm.trans (h.running.trans hrunning)) hleft
          refine ⟨n + 1, ?_, hmirrors, hhead⟩
          rw [List.replicate_succ, essence, Move.essence, if_pos hspare]
          exact hessence

/-- **Turns can be found for all observations.** Over the mirror of a run the driver may be given turns for
the observations, and no others, so that every turn of the lifecycle is what it is in the mirror. -/
lemma Mirrors.exists_paced (h : Mirrors t s) {fuller : List Move} (hfuller : ∀ m ∈ fuller, m.isDiscreet)
    (hbusy : Busy t (fuller.flatMap Move.outline)) :
    ∃ paced, fuller.Sublist paced ∧ paced.filter (!·.isTurn) = fuller.filter (!·.isTurn) ∧
      essence s paced = fuller.flatMap Move.outline := by
  induction fuller generalizing t s with
  | nil => exact ⟨[], .slnil, rfl, rfl⟩
  | cons m fuller ih =>
      rw [List.flatMap_cons] at hbusy ⊢
      obtain ⟨hbusy, hbusy'⟩ := busy_append.mp hbusy
      have hrest : ∀ m' ∈ fuller, m'.isDiscreet := fun m' hm' => hfuller m' (by simp [hm'])
      have hm := hfuller m (by simp)
      cases hturn : m.isTurn with
      | false =>
          have heq := Move.essence_eq_outline hturn s
          obtain ⟨paced, hsub, hfilter, hessence⟩ := ih (heq ▸ h.move hm) hrest hbusy'
          refine ⟨m :: paced, hsub.cons_cons m, by simp [hturn, hfilter], ?_⟩
          rw [essence, heq, hessence]
      | true =>
          obtain rfl := Move.eq_drive hturn
          obtain ⟨v, hv⟩ := Option.isSome_iff_exists.mp (hbusy.1 rfl)
          obtain ⟨n, hnothing, hreached, hhead⟩ := h.exists_turns (h.running ▸ (drive?_cases hv).1)
          have hspare : (s.run (List.replicate n .drive)).isSpare = false := by
            obtain ⟨-, hnone⟩ | ⟨u, -, hu, -⟩ := hreached.drive? hhead
            · cases hnone.symm.trans hv
            · simp [isSpare, hu, hhead]
          obtain ⟨paced, hsub, hfilter, hessence⟩ :=
            ih (hreached.driveEssential hspare).2 hrest hbusy'
          refine ⟨List.replicate n .drive ++ .drive :: paced,
            (hsub.cons_cons .drive).trans (List.sublist_append_right ..), ?_, ?_⟩
          · simp [hturn, hfilter]
          · rw [essence_append, hnothing, List.nil_append, essence, hessence, Move.essence,
              if_neg (by simp [hspare])]
            rfl

/-- **Observation does not disturb the lifecycle.** Take any run over any line in which no callback takes any
action, and a second one over a line that differs at most in the errors that it fires.

* If both come to the same without the errors, the requests for snapshots and the registrations, valid or
  not, and without the turns that the driver spends on these or on nothing, then the line is asked to connect,
  to disconnect and to send the same frames at the same times in both. And a snapshot that is answered at the
  same point of both is the same.
* Wherever observations are put into what the first run comes to, the driver can be given turns for them, and
  no other, so that the second run comes to the same. -/
theorem observation_undisturbing (now : Time) (line line' : Line) (moves : List Move)
    (hline : line'.hush = line.hush) (hmoves : ∀ m ∈ moves, m.isDiscreet) :
    (∀ moves', (∀ m ∈ moves', m.isDiscreet) →
      essence (fresh now line') moves' = essence (fresh now line) moves →
      conduct ((fresh now line').run moves').history = conduct ((fresh now line).run moves).history ∧
      ∀ before before', before <+: moves → before' <+: moves' →
        essence (fresh now line') before' = essence (fresh now line) before →
        ∀ x x', Answers ((fresh now line).run before) x → Answers ((fresh now line').run before') x' →
          x' = x) ∧
    ∀ fuller : List Move, (∀ m ∈ fuller, m.isDiscreet) →
      fuller.flatMap Move.outline = essence (fresh now line) moves →
      ∃ paced, fuller.Sublist paced ∧ paced.filter (!·.isTurn) = fuller.filter (!·.isTurn) ∧
        essence (fresh now line') paced = essence (fresh now line) moves := by
  have hfresh := Mirrors.fresh now line
  have hfresh' : Mirrors (fresh now line.hush) (fresh now line') := hline ▸ Mirrors.fresh now line'
  refine ⟨fun moves' hmoves' hessence => ⟨?_, ?_⟩, fun fuller hfuller houtline => ?_⟩
  · rw [← (hfresh.run hmoves).conduct, ← hessence, (hfresh'.run hmoves').conduct]
  · intro before before' hbefore hbefore' heq x x' hx hx'
    have hmirrors := hfresh.run fun m hm => hmoves m (hbefore.subset hm)
    have hmirrors' := hfresh'.run fun m hm => hmoves' m (hbefore'.subset hm)
    rw [hx.eq_snapshot, hx'.eq_snapshot, ← hmirrors.snapshot, ← hmirrors'.snapshot, heq]
  · rw [← houtline]
    exact hfresh'.exists_paced hfuller (houtline ▸ hfresh.busy hmoves)

/-- A channel whose connection drops and is asked for again, and the same channel observed: its line fires
errors, callbacks are registered, and one more snapshot is asked for than the one that both answer. -/
theorem observation_undisturbing_with_errors :
    let line' : Line := { onConnect := { target := some .connecting, fires := [.error "slow"] } }
    let before : List Move := [.act .connect, .drive, .act .lineOpens, .drive, .pass (.ms 25000), .drive,
      .act .lineDrops, .drive, .act .inspect]
    let before' : List Move := [.act .connect, .act (.onDisconnect "down" []), .drive, .act .lineOpens,
      .drive, .drive, .drive, .act (.batch [.inspect, .on "no such event" "lost" []]), .pass (.ms 25000),
      .drive, .drive, .act (.lineFires (.error "late")), .act .lineDrops, .act .inspect, .drive, .drive]
    let moves := before ++ [.drive, .pass (.ms 100), .drive]
    let moves' := before' ++ [.drive, .pass (.ms 100), .drive]
    let x : Snapshot := {
      started := true, transportState := .idle, attempts := 1, reconnectAt := some (.ms 25100),
      heartbeatAt := some (.ms 50000), lastActivity := some 0, heartbeatLate := false, network := none }
    line'.hush = Line.hush {} ∧ (∀ m ∈ moves, m.isDiscreet) ∧ (∀ m ∈ moves', m.isDiscreet) ∧
      essence (fresh 0 line') moves' = essence (fresh 0 {}) moves ∧
      conduct ((fresh 0 line').run moves').history = conduct ((fresh 0 {}).run moves).history ∧
      (conduct ((fresh 0 {}).run moves).history).length = 4 ∧
      Answers ((fresh 0 {}).run before) x ∧ Answers ((fresh 0 line').run before') x ∧
      ∀ x', Answers ((fresh 0 line').run before') x' → x' = x := by
  intro line' before before' moves moves' x
  have hline : line'.hush = Line.hush {} := by decide
  have hmoves : ∀ m ∈ moves, m.isDiscreet := by decide
  have hmoves' : ∀ m ∈ moves', m.isDiscreet := by decide
  have hessence : essence (fresh 0 line') moves' = essence (fresh 0 {}) moves := by cbv
  have hbefore : essence (fresh 0 line') before' = essence (fresh 0 {}) before := by cbv
  have hx : Answers ((fresh 0 {}).run before) x := by rw [Answers]; cbv
  have hx' : Answers ((fresh 0 line').run before') x := by rw [Answers]; cbv
  obtain ⟨hconduct, hanswers⟩ :=
    (observation_undisturbing 0 {} line' moves hline hmoves).1 moves' hmoves' hessence
  exact ⟨hline, hmoves, hmoves', hessence, hconduct, by decide +kernel, hx, hx', fun x' =>
    hanswers before before' (List.prefix_append ..) (List.prefix_append ..) hbefore x x' hx⟩

end ResilientChannel.Session
