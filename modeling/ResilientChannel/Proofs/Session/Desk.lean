import ResilientChannel.Proofs.Session.Touch
import ResilientChannel.Proofs.Watcher.Events

/-!
What the application holds: handles, watchers, and the sender that it keeps.

* **The desk.** `Action.tend` says what an action makes of the desk, whatever the driver and the line are
  doing (`desk_perform`), and `Action.events` what it does to a watcher.
* **Leading on.** `Desk.Leads id k es k'` says that the events `es` make of the watcher on one desk the watcher
  on the other; it composes, and every action leads on by its events (`Desk.leads_tendAll`).
-/

namespace ResilientChannel.Session

open Watcher

/-! ### The desk -/

/-- What the application holds. -/
structure Desk where
  handles : Nat := 1
  watchers : List Watcher := []
  kept : Option Nat := none

namespace Desk

/-- A watcher, or a fresh one if it was not started yet. -/
def watcher (k : Desk) (id : Nat) : Watcher := k.watchers[id]?.getD {}

/-- Changes a watcher. -/
def stir (k : Desk) (id : Nat) (change : Watcher → Watcher) : Desk :=
  { k with watchers := k.watchers.modify id change }

/-- Drops the kept sender. -/
def release (k : Desk) : Desk :=
  match k.kept with
  | some id => { k.stir id (·.dropSender) with kept := none }
  | none => k

/-- Starts a watcher and keeps its sender. -/
def start (k : Desk) : Desk :=
  { k.release with watchers := k.release.watchers ++ [{}], kept := some k.release.watchers.length }

/-- Publishes a status on the kept sender. -/
def publish (k : Desk) (status : NetworkStatus) : Desk :=
  match k.kept with
  | some id => if k.watchers[id]?.any (·.running) then k.stir id (·.publish status) else k
  | none => k

/-- The turn of a watcher. -/
def turn (k : Desk) (id : Nat) (deliverable : Bool) : Desk :=
  k.stir id fun w => (w.turn deliverable).2

end Desk

mutual

/-- What an action makes of the desk. -/
def Action.tend : Action → Desk → Desk
  | .clone, k => if k.handles = 0 then k else { k with handles := k.handles + 1 }
  | .drop, k => { k with handles := k.handles - 1 }
  | .watch, k => if k.handles = 0 then k else k.start
  | .publish statuses, k => statuses.foldl Desk.publish k
  | .endWatch, k => k.release
  | .batch actions, k => Action.tendAll actions k
  | _, k => k

/-- What actions make of the desk, one after another. -/
def Action.tendAll : List Action → Desk → Desk
  | [], k => k
  | a :: actions, k => Action.tendAll actions (a.tend k)

end

/-- The desk of a session. -/
def desk (s : Session) : Desk := { handles := s.handles, watchers := s.watchers, kept := s.kept }

variable {s t : Session}

@[simp] lemma note_desk (s : Session) (d : Deed) : (s.note d).desk = s.desk := rfl

@[simp] lemma wake_desk (s : Session) (w : Worker) : (s.wake w).desk = s.desk := by
  rw [wake]; split <;> rfl

@[simp] lemma post_desk (s : Session) (x : Signal) : (s.post x).desk = s.desk := by
  rw [post]; split
  · simp only [wake_desk, note_desk]; rfl
  · rfl

@[simp] lemma hear_desk (s : Session) (es : List TransportEvent) : (s.hear es).desk = s.desk := by
  induction es generalizing s with
  | nil => rfl
  | cons e es ih => rw [hear_cons, ih, post_desk]

@[simp] lemma handIfOpen_desk (s : Session) (f : Frame) (o : Origin) :
    (s.handIfOpen f o).desk = s.desk := by
  rw [handIfOpen]; split <;> rfl

lemma desk_stirWatcher (s : Session) (id : Nat) (change : Watcher → Watcher) :
    (s.stirWatcher id change).desk = s.desk.stir id change := by
  rw [stirWatcher, wake_desk]; rfl

lemma desk_releaseKept (s : Session) : s.releaseKept.desk = s.desk.release := by
  have hkept : s.desk.kept = s.kept := rfl
  rw [releaseKept, Desk.release, hkept]
  cases s.kept with
  | none => rfl
  | some id =>
      dsimp only
      rw [← desk_stirWatcher]
      rfl

lemma desk_startWatcher (s : Session) : s.startWatcher.desk = s.desk.start := by
  rw [startWatcher, Desk.start, wake_desk, ← desk_releaseKept]
  rfl

lemma desk_publish (s : Session) (status : NetworkStatus) :
    (s.publish status).desk = s.desk.publish status := by
  have hkept : s.desk.kept = s.kept := rfl
  rw [publish, Desk.publish, hkept]
  cases s.kept with
  | none => rfl
  | some id =>
      dsimp only
      rw [← desk_stirWatcher]
      exact apply_ite desk _ _ _

lemma desk_publishAll (s : Session) (statuses : List NetworkStatus) :
    (statuses.foldl publish s).desk = statuses.foldl Desk.publish s.desk := by
  induction statuses generalizing s with
  | nil => rfl
  | cons status statuses ih => rw [List.foldl_cons, ih, desk_publish, List.foldl_cons]

lemma desk_dropHandle (s : Session) :
    s.dropHandle.1.desk = { s.desk with handles := s.desk.handles - 1 } := by
  rw [dropHandle]
  split
  next hzero => simp [desk, hzero]
  next hone => rw [post_desk]; simp [desk, hone]
  next n hmore => simp [desk, hmore]

/-- A call on a handle. -/
lemma desk_onHandle {call : Session → Session × Reply} {k : Desk} (h : (call s).1.desk = k) :
    (s.onHandle call).1.desk = if s.desk.handles = 0 then s.desk else k := by
  have hhandles : s.desk.handles = s.handles := rfl
  rw [onHandle, hhandles]
  split
  · rfl
  · exact h

lemma desk_onHandle_self {call : Session → Session × Reply} (h : (call s).1.desk = s.desk) :
    (s.onHandle call).1.desk = s.desk := by
  rw [desk_onHandle h, ite_self]

lemma desk_signal (s : Session) (x : Signal) : (s.signal x).1.desk = s.desk := by
  rw [signal]
  split
  · exact post_desk s x
  · rfl

mutual

/-- **The desk is the application's.** Over any driver and line an action makes of it what `Action.tend`
says. -/
lemma desk_perform (s : Session) : ∀ a : Action, (s.perform a).1.desk = a.tend s.desk
  | .connect | .forceReconnect | .network _ | .onMessage .. | .onReconnect .. | .onDisconnect .. => by
      simp only [perform, Action.tend]
      exact desk_onHandle_self (desk_signal s _)
  | .send _ | .sync => by
      simp only [perform, Action.tend]
      exact desk_onHandle_self (handIfOpen_desk s _ _)
  | .isOpen | .url => by
      simp only [perform, Action.tend]
      exact desk_onHandle_self rfl
  | .shutdown | .inspect => by
      simp only [perform, Action.tend]
      exact desk_onHandle_self (post_desk s _)
  | .on .. => by
      simp only [perform, Action.tend]
      refine desk_onHandle_self ?_
      split
      · exact desk_signal s _
      · rfl
  | .clone => by
      simp only [perform, Action.tend]
      exact desk_onHandle rfl
  | .drop => by
      simp only [perform, Action.tend]
      exact desk_dropHandle s
  | .watch => by
      simp only [perform, Action.tend]
      exact desk_onHandle (desk_startWatcher s)
  | .lineOpens | .lineDrops | .lineFires _ => by
      simp only [perform, Action.tend]
      exact hear_desk _ _
  | .lineMoves _ | .lineReacts .. => by
      simp only [perform, Action.tend]
      rfl
  | .publish statuses => by
      simp only [perform, Action.tend]
      exact desk_publishAll s statuses
  | .endWatch => by
      simp only [perform, Action.tend]
      exact desk_releaseKept s
  | .batch actions => by
      simp only [perform, Action.tend]
      exact desk_performAll s actions

lemma desk_performAll (s : Session) :
    ∀ actions : List Action, (s.performAll actions).1.desk = Action.tendAll actions s.desk
  | [] => by simp only [performAll, Action.tendAll]
  | a :: actions => by
      simp only [performAll, Action.tendAll]
      rw [desk_performAll (s.perform a).1 actions, desk_perform s a]

end

/-- A watcher's turn, of which the driver's state decides whether it delivers. -/
lemma desk_watch (s : Session) (id : Nat) : (s.watch id).desk = s.desk.turn id s.running := by
  rw [watch, Desk.turn, Desk.stir]
  cases hw : s.watchers[id]? with
  | none =>
      have hlength : s.desk.watchers.length ≤ id := List.getElem?_eq_none_iff.mp hw
      rw [List.modify_eq_self hlength]
  | some w =>
      have hset : s.desk.watchers.modify id (fun w => (w.turn s.running).2) =
          s.watchers.set id (w.turn s.running).2 := by
        rw [List.modify_eq_set, show s.desk.watchers[id]? = some w from hw]
        rfl
      rw [hset]
      dsimp only
      cases (w.turn s.running).1 with
      | none => rfl
      | some status => exact post_desk _ _

/-! ### Leading on -/

namespace Desk

/-- The kept sender exists, and no other sender does. -/
structure Sound (k : Desk) : Prop where
  kept : ∀ {id}, k.kept = some id → ∃ w, k.watchers[id]? = some w
  sender : ∀ {id w}, k.watchers[id]? = some w → (w.hasSender = true ↔ k.kept = some id)

lemma sound_empty : Sound {} where
  kept h := by cases h
  sender h := by simp at h

/-- What dropping the kept sender means to a watcher. -/
def released (k : Desk) (id : Nat) : List Watcher.Event :=
  if k.kept = some id then [.released] else []

/-- What publishing on the kept sender means to a watcher. -/
def published (k : Desk) (id : Nat) (statuses : List NetworkStatus) : List Watcher.Event :=
  if k.kept = some id ∧ (k.watcher id).running then statuses.map .published else []

/-- The desk is sound, and the events have made of the watcher what it is. -/
structure Leads (id : Nat) (k : Desk) (es : List Watcher.Event) (k' : Desk) : Prop where
  sound : k'.Sound
  watcher : k'.watcher id = (k.watcher id).afterAll es
  proper : Proper (k.watcher id) es

variable {k k' k'' : Desk} {id : Nat} {es es' : List Watcher.Event}

namespace Leads

lemma refl (h : k.Sound) : Leads id k [] k := ⟨h, rfl, trivial⟩

lemma trans (h : Leads id k es k') (h' : Leads id k' es' k'') : Leads id k (es ++ es') k'' := by
  refine ⟨h'.sound, ?_, ?_⟩
  · rw [h'.watcher, h.watcher, afterAll_append]
  · rw [proper_append, ← h.watcher]
    exact ⟨h.proper, h'.proper⟩

end Leads

lemma getElem?_stir (k : Desk) (id j : Nat) (change : Watcher → Watcher) :
    (k.stir id change).watchers[j]? = (k.watchers[j]?).map fun w => if id = j then change w else w := by
  rw [stir, List.getElem?_modify]
  rfl

lemma watcher_stir_ne {j : Nat} (h : j ≠ id) (change : Watcher → Watcher) :
    (k.stir j change).watcher id = k.watcher id := by
  simp [Desk.watcher, getElem?_stir, h]

lemma watcher_stir_self {change : Watcher → Watcher}
    (h : (∃ w, k.watchers[id]? = some w) ∨ change {} = {}) :
    (k.stir id change).watcher id = change (k.watcher id) := by
  rw [Desk.watcher, getElem?_stir, Desk.watcher]
  cases hw : k.watchers[id]? with
  | some w => simp
  | none =>
      rcases h with ⟨w, hsome⟩ | hfresh
      · simp [hw] at hsome
      · simp [hfresh]

/-- A change that leaves the sender alone keeps a desk sound. -/
lemma Sound.stir (h : k.Sound) {j : Nat} {change : Watcher → Watcher}
    (hchange : ∀ w, (change w).hasSender = w.hasSender) : (k.stir j change).Sound := by
  refine ⟨fun {i} hkept => ?_, fun {i w} hw => ?_⟩
  · obtain ⟨w, hw⟩ := h.kept hkept
    exact ⟨_, by rw [getElem?_stir, hw]; rfl⟩
  · rw [getElem?_stir] at hw
    obtain ⟨v, hv, rfl⟩ := Option.map_eq_some_iff.mp hw
    rw [← show k.kept = (k.stir j change).kept from rfl, ← h.sender hv]
    split
    · rw [hchange]
    · rfl

lemma leads_release (h : k.Sound) : Leads id k (k.released id) k.release := by
  rw [release, released]
  cases hkept : k.kept with
  | none => exact .refl h
  | some j =>
      have hsound : ({ k.stir j (·.dropSender) with kept := none } : Desk).Sound := by
        refine ⟨nofun, fun {i w} hw => ?_⟩
        have hw' : (k.stir j (·.dropSender)).watchers[i]? = some w := hw
        rw [getElem?_stir] at hw'
        obtain ⟨v, hv, rfl⟩ := Option.map_eq_some_iff.mp hw'
        have hother := h.sender hv
        rw [hkept] at hother
        by_cases hj : j = i
        · simp [hj, dropSender]
        · simp_all
      by_cases hj : j = id
      · subst hj
        rw [if_pos rfl]
        refine ⟨hsound, ?_, ?_⟩
        · exact watcher_stir_self (.inl (h.kept hkept))
        · simp [Proper, Event.status?]
      · rw [if_neg (by simpa using hj)]
        exact ⟨hsound, watcher_stir_ne hj _, trivial⟩

lemma release_kept (k : Desk) : k.release.kept = none := by
  rw [release]
  split
  · rfl
  · assumption

/-- A watcher that was not started yet is fresh when it is. -/
lemma leads_begin (h : k.Sound) (hkept : k.kept = none) :
    Leads id k [] { k with watchers := k.watchers ++ [{}], kept := some k.watchers.length } := by
  have hold : ∀ {i w}, i < k.watchers.length → (k.watchers ++ [({} : Watcher)])[i]? = some w →
      k.watchers[i]? = some w := fun hi hw => by rwa [List.getElem?_append_left hi] at hw
  refine ⟨⟨fun {i} hi => ?_, fun {i w} hw => ?_⟩, ?_, trivial⟩
  · obtain rfl : k.watchers.length = i := Option.some.inj hi
    exact ⟨{}, by simp⟩
  · rcases Nat.lt_trichotomy i k.watchers.length with hlt | rfl | hgt
    · have hsender := h.sender (hold hlt hw)
      rw [hkept] at hsender
      simp_all [Nat.ne_of_gt hlt]
    · obtain rfl : ({} : Watcher) = w := by simpa using hw
      simp
    · rw [List.getElem?_eq_none (by rw [List.length_append, List.length_singleton]; omega)] at hw
      cases hw
  · rw [afterAll_nil, Desk.watcher, Desk.watcher]
    rcases Nat.lt_trichotomy id k.watchers.length with hlt | rfl | hgt
    · rw [List.getElem?_append_left hlt]
    · simp
    · rw [List.getElem?_eq_none (by rw [List.length_append, List.length_singleton]; omega),
        List.getElem?_eq_none (Nat.le_of_lt hgt)]

lemma leads_start (h : k.Sound) : Leads id k (k.released id) k.start := by
  have hrelease : Leads id k (k.released id) k.release := leads_release h
  have hbegin := hrelease.trans (leads_begin hrelease.sound (release_kept k))
  rwa [List.append_nil] at hbegin

/-- A single status is published to the watcher if it runs and its sender is kept. -/
lemma leads_publish (h : k.Sound) (status : NetworkStatus) :
    Leads id k (k.published id [status]) (k.publish status) := by
  rw [publish, published]
  cases hkept : k.kept with
  | none => exact .refl h
  | some j =>
      obtain ⟨w, hw⟩ := h.kept hkept
      have hsound : (k.stir j (·.publish status)).Sound := h.stir fun _ => rfl
      have hwatcher : k.watcher j = w := by rw [Desk.watcher, hw]; rfl
      have hany : k.watchers[j]?.any (·.running) = (k.watcher j).running := by rw [hw, hwatcher]; rfl
      dsimp only
      rw [hany]
      by_cases hj : j = id
      · subst hj
        cases hrunning : (k.watcher j).running with
        | false => simpa using Leads.refl h
        | true =>
            rw [if_pos ⟨rfl, rfl⟩, if_pos rfl]
            refine ⟨hsound, watcher_stir_self (.inl ⟨w, hw⟩), fun _ => ⟨hrunning, ?_⟩, trivial⟩
            rw [hwatcher]
            exact (h.sender hw).mpr hkept
      · rw [if_neg (by simp [hj])]
        split
        · exact ⟨hsound, watcher_stir_ne hj _, trivial⟩
        · exact .refl h

lemma publish_kept (k : Desk) (status : NetworkStatus) : (k.publish status).kept = k.kept := by
  rw [publish]
  split
  · split <;> rfl
  · rfl

/-- Publishing changes neither which sender is kept nor whether the watcher runs. -/
lemma published_publish (h : k.Sound) (status : NetworkStatus) (statuses : List NetworkStatus) :
    (k.publish status).published id statuses = k.published id statuses := by
  have hrunning : ((k.publish status).watcher id).running = (k.watcher id).running := by
    rw [(leads_publish h status).watcher, published]
    split <;> rfl
  rw [published, published, publish_kept, hrunning]

lemma published_cons (k : Desk) (id : Nat) (status : NetworkStatus) (statuses : List NetworkStatus) :
    k.published id (status :: statuses) = k.published id [status] ++ k.published id statuses := by
  rw [published, published, published]
  split <;> rfl

lemma leads_publishAll (h : k.Sound) (statuses : List NetworkStatus) :
    Leads id k (k.published id statuses) (statuses.foldl publish k) := by
  induction statuses generalizing k with
  | nil => simpa [published] using Leads.refl h
  | cons status statuses ih =>
      have hfirst : Leads id k (k.published id [status]) (k.publish status) := leads_publish h status
      have hrest := ih hfirst.sound
      rw [published_publish h] at hrest
      rw [published_cons]
      exact hfirst.trans hrest

lemma leads_turn (h : k.Sound) (j : Nat) (d : Bool) :
    Leads id k (if j = id then [.turned d] else []) (k.turn j d) := by
  have hsound : (k.turn j d).Sound := h.stir fun w => by
    have hsender := after_hasSender (w := w) (e := .turned d)
    rwa [show (Event.turned d != Event.released) = true from rfl, Bool.and_true] at hsender
  by_cases hj : j = id
  · subst hj
    rw [if_pos rfl]
    refine ⟨hsound, watcher_stir_self (.inr ?_), by simp [Event.status?], trivial⟩
    cases d <;> rfl
  · rw [if_neg hj]
    exact ⟨hsound, watcher_stir_ne hj _, trivial⟩

/-- How many handles are held does not matter. -/
lemma leads_handles (h : k.Sound) (n : Nat) : Leads id k [] { k with handles := n } :=
  ⟨⟨h.kept, h.sender⟩, rfl, trivial⟩

end Desk

mutual

/-- What an action does to a watcher. -/
def Action.events (id : Nat) : Action → Desk → List Watcher.Event
  | .watch, k => if k.handles = 0 then [] else k.released id
  | .endWatch, k => k.released id
  | .publish statuses, k => k.published id statuses
  | .batch actions, k => Action.eventsAll id actions k
  | _, _ => []

/-- What actions do to a watcher, one after another. -/
def Action.eventsAll (id : Nat) : List Action → Desk → List Watcher.Event
  | [], _ => []
  | a :: actions, k => a.events id k ++ Action.eventsAll id actions (a.tend k)

end

mutual

/-- **An action leads on by its events.** -/
lemma leads_tend {id : Nat} {k : Desk} (h : k.Sound) :
    ∀ a : Action, Desk.Leads id k (a.events id k) (a.tend k)
  | .clone => by
      simp only [Action.events, Action.tend]
      split
      · exact .refl h
      · exact Desk.leads_handles h _
  | .drop => by
      simp only [Action.events, Action.tend]
      exact Desk.leads_handles h _
  | .watch => by
      simp only [Action.events, Action.tend]
      split
      · exact .refl h
      · exact Desk.leads_start h
  | .publish statuses => by
      simp only [Action.events, Action.tend]
      exact Desk.leads_publishAll h statuses
  | .endWatch => by
      simp only [Action.events, Action.tend]
      exact Desk.leads_release h
  | .batch actions => by
      simp only [Action.events, Action.tend]
      exact leads_tendAll h actions
  | .connect | .forceReconnect | .network _ | .send _ | .sync | .isOpen | .url | .shutdown | .inspect
  | .on .. | .onMessage .. | .onReconnect .. | .onDisconnect .. | .lineOpens | .lineDrops
  | .lineMoves _ | .lineFires _ | .lineReacts .. => by
      simp only [Action.events, Action.tend]
      exact .refl h

lemma leads_tendAll {id : Nat} {k : Desk} (h : k.Sound) :
    ∀ actions : List Action,
      Desk.Leads id k (Action.eventsAll id actions k) (Action.tendAll actions k)
  | [] => by
      simp only [Action.eventsAll, Action.tendAll]
      exact .refl h
  | a :: actions => by
      have ha : Desk.Leads id k (a.events id k) (a.tend k) := leads_tend h a
      simp only [Action.eventsAll, Action.tendAll]
      exact ha.trans (leads_tendAll ha.sound actions)

end

end ResilientChannel.Session
