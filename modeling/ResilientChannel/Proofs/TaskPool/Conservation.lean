import Mathlib.Data.List.Nodup
import ResilientChannel.TaskPool

/-!
What becomes of every task of a pool.

A run is a list of moves, the latest first: tasks are spawned, everything tracked is aborted, and the tasks
get turns in which any of them may end. Beside the pool it is kept which tasks were spawned since the latest
abort (`recent`), which were counted by an abort and how often (`counted`), and in how many turns a task has
worked (`turnsWorked`).

* **The invariant.** `Accounted` says that an abort would mark exactly the recent tasks that have not ended,
  and how the status of a task goes with the number of times that it was counted. Every move keeps it
  (`Accounted.spawn`, `Accounted.abort`, `Accounted.turn`).
* **Two ends.** A task that ended by itself stays so (`status_of_finished`); a marked one is destroyed by the
  next turn and works no more (`status_of_aborting`, `turnsWorked_of_aborting`).
* `every_task_accounted`: no task is forgotten, and none is counted twice.
-/

namespace ResilientChannel.TaskPool

/-! ### Runs -/

/-- What can happen to a pool. -/
inductive Move
  | spawn
  | abort
  | turn (mayEnd : Nat → Bool)

/-- It is a turn of the tasks. -/
def Move.isTurn : Move → Bool
  | .turn _ => true
  | _ => false

/-- The pool after a move. -/
def after (p : TaskPool) : Move → TaskPool
  | .spawn => p.spawn
  | .abort => p.abortAll.2
  | .turn mayEnd => p.turn mayEnd

/-- The pool after a run. -/
def pool : List Move → TaskPool
  | [] => {}
  | m :: ms => (pool ms).after m

/-- The tasks that an abort marks and counts. -/
def marked (p : TaskPool) : List Nat := p.tracked.filter p.isUnfinished

/-- How many tasks were spawned. They are numbered in the order of their spawning. -/
def spawned : List Move → Nat
  | [] => 0
  | .spawn :: ms => spawned ms + 1
  | _ :: ms => spawned ms

/-- The tasks spawned since the latest abort. -/
def recent : List Move → List Nat
  | [] => []
  | .spawn :: ms => recent ms ++ [spawned ms]
  | .abort :: _ => []
  | .turn _ :: ms => recent ms

/-- The tasks counted by aborts, each as often as it was counted. -/
def counted : List Move → List Nat
  | [] => []
  | .abort :: ms => counted ms ++ (pool ms).marked
  | _ :: ms => counted ms

/-- In how many turns a task has worked: those in which it was running. -/
def turnsWorked : List Move → Nat → Nat
  | [], _ => 0
  | .turn _ :: ms, id => turnsWorked ms id + if (pool ms).tasks[id]? = some .running then 1 else 0
  | _ :: ms, id => turnsWorked ms id

variable {p : TaskPool} {ms : List Move} {id : Nat}

/-! ### The status of a task -/

lemma isUnfinished_iff : p.isUnfinished id = true ↔
    p.tasks[id]? = some .running ∨ p.tasks[id]? = some .aborting := by
  rw [isUnfinished]
  cases p.tasks[id]? with
  | none => simp
  | some s => cases s <;> simp [TaskStatus.isEnded]

lemma abortAll_fst (p : TaskPool) : p.abortAll.1 = p.marked.length := rfl

lemma status_spawn (p : TaskPool) (id : Nat) :
    p.spawn.tasks[id]? = if id = p.tasks.length then some .running else p.tasks[id]? := by
  rw [spawn, List.getElem?_append]
  split
  · next hlt => rw [if_neg (Nat.ne_of_lt hlt)]
  · next hge =>
    split
    · next heq => simp [heq]
    · next hne =>
      have hlt : p.tasks.length < id := by omega
      rw [List.getElem?_eq_none (Nat.le_of_lt hlt), List.getElem?_eq_none]
      rw [List.length_singleton]
      omega

lemma status_abort (p : TaskPool) (id : Nat) :
    p.abortAll.2.tasks[id]? =
      p.tasks[id]?.map fun s => if id ∈ p.marked then .aborting else s :=
  List.getElem?_mapIdx

lemma status_turn (p : TaskPool) (mayEnd : Nat → Bool) (id : Nat) :
    (p.turn mayEnd).tasks[id]? = p.tasks[id]?.map (·.afterTurn (mayEnd id)) :=
  List.getElem?_mapIdx

lemma mem_marked : id ∈ p.marked ↔ id ∈ p.tracked ∧ p.isUnfinished id = true := List.mem_filter

lemma not_mem_marked_of_isEnded {s : TaskStatus} (h : p.tasks[id]? = some s)
    (hended : s.isEnded = true) : id ∉ p.marked := by
  intro hmem
  have hopen := (mem_marked.mp hmem).2
  rw [isUnfinished, h, Option.any_some, hended] at hopen
  cases hopen

/-- A turn opens no task anew. -/
lemma isUnfinished_of_turn {mayEnd : Nat → Bool} (h : (p.turn mayEnd).isUnfinished id = true) :
    p.isUnfinished id = true := by
  rw [isUnfinished, status_turn] at h
  rw [isUnfinished]
  cases hs : p.tasks[id]? with
  | none =>
    rw [hs] at h
    cases h
  | some s =>
    rw [hs] at h
    cases s with
    | running => rfl
    | aborting => rfl
    | finished => cases h
    | destroyed => cases h

/-! ### The two ends of a task -/

/-- A task that ended by itself stays as it is. -/
lemma status_of_finished (h : (pool ms).tasks[id]? = some .finished) (later : List Move) :
    (pool (later ++ ms)).tasks[id]? = some .finished := by
  induction later with
  | nil => exact h
  | cons m later ih =>
    rw [List.cons_append, pool]
    cases m with
    | spawn =>
      have hlt := (List.getElem?_eq_some_iff.mp ih).1
      rw [after, status_spawn, if_neg (Nat.ne_of_lt hlt), ih]
    | abort => rw [after, status_abort, ih, Option.map_some, if_neg (not_mem_marked_of_isEnded ih rfl)]
    | turn mayEnd =>
      rw [after, status_turn, ih]
      rfl

/-- A marked task is destroyed by the next turn. -/
lemma status_of_aborting (h : (pool ms).tasks[id]? = some .aborting) (later : List Move) :
    (pool (later ++ ms)).tasks[id]? =
      some (if later.any (·.isTurn) then .destroyed else .aborting) := by
  induction later with
  | nil => exact h
  | cons m later ih =>
    rw [List.cons_append, pool, List.any_cons]
    cases m with
    | spawn =>
      have hlt := (List.getElem?_eq_some_iff.mp ih).1
      rw [after, status_spawn, if_neg (Nat.ne_of_lt hlt), ih]
      rfl
    | abort =>
      have hmove : Move.abort.isTurn = false := rfl
      rw [after, status_abort, ih, Option.map_some, hmove, Bool.false_or]
      split
      · next hmem =>
        -- What is marked again was not destroyed before.
        split
        · next hturn =>
          rw [if_pos hturn] at ih
          exact absurd hmem (not_mem_marked_of_isEnded ih rfl)
        · rfl
      · rfl
    | turn mayEnd =>
      rw [after, status_turn, ih, Option.map_some, Move.isTurn, Bool.true_or, if_pos rfl]
      split <;> rfl

/-- A marked task works no more. -/
lemma turnsWorked_of_aborting (h : (pool ms).tasks[id]? = some .aborting) (later : List Move) :
    turnsWorked (later ++ ms) id = turnsWorked ms id := by
  induction later with
  | nil => rfl
  | cons m later ih =>
    cases m with
    | spawn => exact ih
    | abort => exact ih
    | turn mayEnd =>
      have hidle : (pool (later ++ ms)).tasks[id]? ≠ some .running := by
        rw [status_of_aborting h]
        split <;> simp
      rw [List.cons_append, turnsWorked, ih, if_neg hidle, Nat.add_zero]

/-! ### The invariant -/

/-- How the status of a task goes with its spawning and with the number of times that it was counted. -/
def Fits (ms : List Move) (id : Nat) : TaskStatus → Prop
  | .running => id ∈ recent ms ∧ id ∉ counted ms
  | .finished => id ∉ counted ms
  | .aborting | .destroyed => id ∉ recent ms ∧ (counted ms).count id = 1

/-- An abort would mark exactly the recent tasks that have not ended, and the status of every task fits. -/
structure Accounted (ms : List Move) : Prop where
  length : (pool ms).tasks.length = spawned ms
  marked : (pool ms).marked = (recent ms).filter (pool ms).isUnfinished
  nodup : (recent ms).Nodup
  recent_lt : ∀ id ∈ recent ms, id < spawned ms
  counted_lt : ∀ id ∈ counted ms, id < spawned ms
  fits : ∀ id s, (pool ms).tasks[id]? = some s → Fits ms id s

namespace Accounted

lemma nil : Accounted [] where
  length := rfl
  marked := rfl
  nodup := List.nodup_nil
  recent_lt _ h := nomatch h
  counted_lt _ h := nomatch h
  fits _ _ h := nomatch h

lemma not_recent_spawned (h : Accounted ms) : spawned ms ∉ recent ms := fun hmem =>
  Nat.lt_irrefl _ (h.recent_lt _ hmem)

lemma spawn (h : Accounted ms) : Accounted (.spawn :: ms) := by
  have hnew : (pool ms).spawn.isUnfinished (spawned ms) = true := by
    rw [isUnfinished_iff, status_spawn, h.length, if_pos rfl]
    exact .inl rfl
  have hold : ∀ id, id ≠ spawned ms →
      (pool ms).spawn.tasks[id]? = (pool ms).tasks[id]? := fun id hne => by
    rw [status_spawn, h.length, if_neg hne]
  have hopen : ∀ id, id ≠ spawned ms →
      (pool ms).spawn.isUnfinished id = (pool ms).isUnfinished id := fun id hne => by
    rw [isUnfinished, isUnfinished, hold id hne]
  refine ⟨?_, ?_, ?_, ?_, ?_, ?_⟩
  · rw [pool, after, TaskPool.spawn, List.length_append, h.length]
    rfl
  · -- Both sides get the new task; what pruning forgets has ended anyway.
    have hne : ∀ id ∈ (pool ms).marked, id ≠ spawned ms := fun id hmem heq => by
      rw [h.marked] at hmem
      exact h.not_recent_spawned (heq ▸ (List.mem_filter.mp hmem).1)
    have hkept : (pool ms).marked.filter (pool ms).spawn.isUnfinished = (pool ms).marked :=
      List.filter_eq_self.mpr fun id hmem => by
        rw [hopen id (hne id hmem)]
        exact (mem_marked.mp hmem).2
    have hrecent : (recent ms).filter (pool ms).spawn.isUnfinished =
        (recent ms).filter (pool ms).isUnfinished :=
      List.filter_congr fun id hmem => hopen id fun heq => h.not_recent_spawned (heq ▸ hmem)
    calc (pool (.spawn :: ms)).marked
        = ((pool ms).marked ++ [spawned ms]).filter (pool ms).spawn.isUnfinished := by
          rw [← h.length]
          rfl
      _ = (recent ms).filter (pool ms).isUnfinished ++ [spawned ms] := by
          rw [List.filter_append, hkept, h.marked, List.filter_cons_of_pos hnew, List.filter_nil]
      _ = (recent (.spawn :: ms)).filter (pool (.spawn :: ms)).isUnfinished := by
          rw [recent, List.filter_append, pool, after, hrecent, List.filter_cons_of_pos hnew,
            List.filter_nil]
  · rw [recent, ← List.concat_eq_append]
    exact h.nodup.concat h.not_recent_spawned
  · intro id hmem
    rw [recent, List.mem_append, List.mem_singleton] at hmem
    rcases hmem with hmem | rfl
    · exact Nat.lt_succ_of_lt (h.recent_lt id hmem)
    · exact Nat.lt_succ_self _
  · exact fun id hmem => Nat.lt_succ_of_lt (h.counted_lt id hmem)
  · intro id s hs
    rw [pool, after] at hs
    by_cases hid : id = spawned ms
    · rw [status_spawn, h.length, if_pos hid] at hs
      obtain rfl := Option.some.inj hs
      refine ⟨List.mem_append_right _ (List.mem_singleton.mpr hid), fun hmem => ?_⟩
      exact Nat.lt_irrefl _ (hid ▸ h.counted_lt id hmem)
    · rw [hold id hid] at hs
      have hfits := h.fits id s hs
      have hrecent : id ∈ recent (.spawn :: ms) ↔ id ∈ recent ms := by
        rw [recent, List.mem_append, List.mem_singleton]
        exact or_iff_left hid
      cases s <;> simpa [Fits, hrecent, counted] using hfits

lemma abort (h : Accounted ms) : Accounted (.abort :: ms) where
  length := by rw [pool, after, abortAll, List.length_mapIdx, h.length]; rfl
  marked := rfl
  nodup := List.nodup_nil
  recent_lt _ hmem := nomatch hmem
  counted_lt id hmem := by
    rw [counted, List.mem_append, h.marked, List.mem_filter] at hmem
    exact hmem.elim (h.counted_lt id) fun hmem => h.recent_lt id hmem.1
  fits id s hs := by
    rw [pool, after, status_abort] at hs
    obtain ⟨s₀, hs₀, hs⟩ := Option.map_eq_some_iff.mp hs
    have hfits := h.fits id s₀ hs₀
    have hcount : (counted (.abort :: ms)).count id =
        (counted ms).count id + (pool ms).marked.count id := List.count_append
    split at hs
    · next hmem =>
      -- A marked task is a recent one, and those were not counted before.
      subst hs
      have hrecent : id ∈ recent ms := by
        rw [h.marked, List.mem_filter] at hmem
        exact hmem.1
      have hrunning : s₀ = .running := by
        cases s₀ with
        | running => rfl
        | finished => exact absurd hmem (not_mem_marked_of_isEnded hs₀ rfl)
        | aborting => exact absurd hrecent hfits.1
        | destroyed => exact absurd hrecent hfits.1
      subst hrunning
      have hnodup : (pool ms).marked.Nodup := h.marked ▸ h.nodup.filter _
      refine ⟨List.not_mem_nil, ?_⟩
      rw [hcount, List.count_eq_zero.mpr hfits.2, List.count_eq_one_of_mem hnodup hmem]
    · next hnot =>
      subst hs
      rw [List.count_eq_zero.mpr hnot, Nat.add_zero] at hcount
      cases s₀ with
      | running =>
        have hmem : id ∈ (pool ms).marked := by
          rw [h.marked, List.mem_filter, isUnfinished_iff]
          exact ⟨hfits.1, .inl hs₀⟩
        exact absurd hmem hnot
      | finished =>
        rw [Fits, ← List.count_eq_zero, hcount]
        exact List.count_eq_zero.mpr hfits
      | aborting => exact ⟨List.not_mem_nil, hcount.trans hfits.2⟩
      | destroyed => exact ⟨List.not_mem_nil, hcount.trans hfits.2⟩

lemma turn (h : Accounted ms) (mayEnd : Nat → Bool) : Accounted (.turn mayEnd :: ms) where
  length := by rw [pool, after, TaskPool.turn, List.length_mapIdx, h.length]; rfl
  marked := by
    have hopen : ∀ l : List Nat, l.filter ((pool ms).turn mayEnd).isUnfinished =
        (l.filter (pool ms).isUnfinished).filter ((pool ms).turn mayEnd).isUnfinished := fun l => by
      rw [List.filter_filter]
      refine List.filter_congr fun id _ => ?_
      cases hturn : ((pool ms).turn mayEnd).isUnfinished id with
      | false => rfl
      | true => rw [isUnfinished_of_turn hturn]; rfl
    calc (pool (.turn mayEnd :: ms)).marked
        = (pool ms).marked.filter ((pool ms).turn mayEnd).isUnfinished := hopen (pool ms).tracked
      _ = ((recent ms).filter (pool ms).isUnfinished).filter
            ((pool ms).turn mayEnd).isUnfinished := by rw [h.marked]
      _ = (recent ms).filter ((pool ms).turn mayEnd).isUnfinished := (hopen _).symm
  nodup := h.nodup
  recent_lt := h.recent_lt
  counted_lt := h.counted_lt
  fits id s hs := by
    rw [pool, after, status_turn] at hs
    obtain ⟨s₀, hs₀, rfl⟩ := Option.map_eq_some_iff.mp hs
    have hfits := h.fits id s₀ hs₀
    cases s₀ with
    | running =>
      rw [TaskStatus.afterTurn]
      split
      · exact hfits.2
      · exact hfits
    | finished => exact hfits
    | aborting => exact hfits
    | destroyed => exact hfits

end Accounted

lemma accounted (ms : List Move) : Accounted ms := by
  induction ms with
  | nil => exact .nil
  | cons m ms ih =>
    cases m with
    | spawn => exact ih.spawn
    | abort => exact ih.abort
    | turn mayEnd => exact ih.turn mayEnd

/-! ### Every task -/

/-- A recent task is running or has ended by itself. -/
lemma status_of_recent (h : id ∈ recent ms) :
    (pool ms).tasks[id]? = some .running ∨ (pool ms).tasks[id]? = some .finished := by
  have hinv := accounted ms
  have hlt : id < (pool ms).tasks.length := hinv.length ▸ hinv.recent_lt id h
  have hfits := hinv.fits id _ (List.getElem?_eq_getElem hlt)
  rw [List.getElem?_eq_getElem hlt]
  cases hs : (pool ms).tasks[id] with
  | running => exact .inl rfl
  | finished => exact .inr rfl
  | aborting => exact absurd h (hs ▸ hfits).1
  | destroyed => exact absurd h (hs ▸ hfits).1

/-- A spawned task is recent, or an abort found it among the recent ones. -/
lemma recent_or_found (h : id < spawned ms) :
    id ∈ recent ms ∨ ∃ later before, ms = later ++ .abort :: before ∧ id ∈ recent before := by
  induction ms with
  | nil => cases h
  | cons m ms ih =>
    cases m with
    | spawn =>
      rcases Nat.lt_succ_iff_lt_or_eq.mp h with hlt | heq
      · rcases ih hlt with hrecent | ⟨later, before, rfl, hfound⟩
        · exact .inl (List.mem_append_left _ hrecent)
        · exact .inr ⟨.spawn :: later, before, rfl, hfound⟩
      · exact .inl (List.mem_append_right _ (List.mem_singleton.mpr heq))
    | abort =>
      rcases ih h with hrecent | ⟨later, before, rfl, hfound⟩
      · exact .inr ⟨[], ms, rfl, hrecent⟩
      · exact .inr ⟨.abort :: later, before, rfl, hfound⟩
    | turn mayEnd =>
      rcases ih h with hrecent | ⟨later, before, rfl, hfound⟩
      · exact .inl hrecent
      · exact .inr ⟨.turn mayEnd :: later, before, rfl, hfound⟩

lemma mem_reached : id ∈ (recent ms).filter (pool ms).isUnfinished ↔
    id ∈ recent ms ∧ (pool ms).tasks[id]? = some .running := by
  rw [List.mem_filter, isUnfinished_iff]
  refine and_congr_right fun hrecent => ⟨fun h => ?_, .inl⟩
  rcases status_of_recent hrecent with hs | hs
  · exact hs
  · rw [hs] at h
    simp at h

/-- An abort marks the recent tasks that run. -/
lemma status_of_reached (h : id ∈ (recent ms).filter (pool ms).isUnfinished) :
    (pool (.abort :: ms)).tasks[id]? = some .aborting := by
  rw [pool, after, status_abort, (mem_reached.mp h).2, Option.map_some, (accounted ms).marked, if_pos h]

/-- **No task is forgotten, and none is counted twice.** After every run, every task spawned since the latest
abort that has not ended is tracked. An abort returns the number of these tasks and leaves none tracked, and
each of them is destroyed by the next turn without working once more. Of the tasks that were among the recent
ones at some abort, those that had ended by then never were and never are counted, and each of the others was
counted exactly once and does not end by itself; all other tasks are recent and not counted yet. -/
theorem every_task_accounted (ms : List Move) :
    (∀ id ∈ recent ms, (pool ms).isUnfinished id = true → id ∈ (pool ms).tracked) ∧
      ((pool ms).abortAll.1 = ((recent ms).filter (pool ms).isUnfinished).length ∧
        (pool ms).abortAll.2.tracked = []) ∧
      (∀ id ∈ (recent ms).filter (pool ms).isUnfinished, ∀ later,
        (pool (later ++ .abort :: ms)).tasks[id]? =
            some (if later.any (·.isTurn) then .destroyed else .aborting) ∧
          turnsWorked (later ++ .abort :: ms) id = turnsWorked ms id) ∧
      (∀ later before, ms = later ++ .abort :: before → ∀ id ∈ recent before,
        (pool before).tasks[id]? = some .finished ∧ (pool ms).tasks[id]? = some .finished ∧
            (counted ms).count id = 0 ∨
          (pool before).isUnfinished id = true ∧ (pool ms).tasks[id]? ≠ some .finished ∧
            (counted ms).count id = 1) ∧
      ∀ id < spawned ms,
        id ∈ recent ms ∧ (counted ms).count id = 0 ∨
          ∃ later before, ms = later ++ .abort :: before ∧ id ∈ recent before := by
  have hinv := accounted ms
  refine ⟨fun id hrecent hopen => ?_, ⟨?_, rfl⟩, fun id hreached later => ?_, ?_, fun id hlt => ?_⟩
  · have hmem : id ∈ (pool ms).marked := by
      rw [hinv.marked]
      exact List.mem_filter.mpr ⟨hrecent, hopen⟩
    exact (mem_marked.mp hmem).1
  · rw [abortAll_fst, hinv.marked]
  · have hmarked := status_of_reached hreached
    exact ⟨status_of_aborting hmarked later, turnsWorked_of_aborting hmarked later⟩
  · rintro later before rfl id hrecent
    rcases status_of_recent hrecent with hrunning | hfinished
    · have hreached := mem_reached.mpr ⟨hrecent, hrunning⟩
      have hdoomed := status_of_aborting (status_of_reached hreached) later
      refine .inr ⟨(List.mem_filter.mp hreached).2, ?_, ?_⟩
      · rw [hdoomed]
        split <;> simp
      · have hfits := hinv.fits id _ hdoomed
        split at hfits
        · exact hfits.2
        · exact hfits.2
    · have hstays : (pool (later ++ .abort :: before)).tasks[id]? = some .finished := by
        rw [← List.singleton_append, ← List.append_assoc]
        exact status_of_finished hfinished _
      exact .inl ⟨hfinished, hstays, List.count_eq_zero.mpr (hinv.fits id _ hstays)⟩
  · refine (recent_or_found hlt).imp_left fun hrecent => ⟨hrecent, List.count_eq_zero.mpr ?_⟩
    rcases status_of_recent hrecent with hrunning | hfinished
    · exact (hinv.fits id _ hrunning).2
    · exact hinv.fits id _ hfinished

end ResilientChannel.TaskPool
