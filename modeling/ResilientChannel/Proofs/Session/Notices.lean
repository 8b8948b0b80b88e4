import ResilientChannel.Proofs.Session.Chronicle

/-!
The counter and the lifecycle notices are functions of what the driver has handled.

* `counter_and_notices`: at every moment the counter, and with it every snapshot, is the outage up to
  the cap of 8; each deed of the driver is followed at once by the calls that it asks for, and every
  call follows a deed that asks for it; and a handled `Connect` clears the counter and the pending
  attempt.

What the run keeps is `Recorded`; here its `Punctual` row of milestones is read off place by place.
-/

namespace ResilientChannel.Session

variable {m n : Milestone} {ms newer older : List Milestone}

/-- All that is asked for are calls. -/
lemma isNotified_of_mem_answer (h : n ∈ answer m ms) : n.isNotified = true := by
  have hsummons : ∀ kind, n ∈ summons kind ms → n.isNotified = true := by
    intro kind hn
    obtain ⟨c, -, rfl⟩ := by simpa [summons] using hn
    rfl
  simp only [answer] at h
  split at h
  · split at h
    · exact hsummons _ h
    · simp at h
  · split at h
    · exact hsummons _ h
    · simp at h
  · simp at h

/-- At most one call is asked for. -/
lemma length_answer_le (m : Milestone) (ms : List Milestone) : (answer m ms).length ≤ 1 := by
  have hsummons : ∀ kind, (summons kind ms).length ≤ 1 := by
    intro kind
    cases hr : registered kind ms <;> simp [summons, hr]
  simp only [answer]
  split
  · split
    · exact hsummons _
    · simp
  · split
    · exact hsummons _
    · simp
  · simp

/-- What a deed asks for stands right after it. -/
lemma Punctual.answer_suffix (h : Punctual ms) (hm : m.isNotified = false)
    (heq : ms = newer ++ m :: older) : answer m older <:+ newer := by
  induction h generalizing newer with
  | nil => simp at heq
  | @step m' ms h hm' ih =>
      rcases List.append_eq_append_iff.mp heq with ⟨c, rfl, hcut⟩ | ⟨c, hanswer, hcut⟩
      · cases c with
        | nil =>
            obtain ⟨rfl, rfl⟩ : m' = m ∧ ms = older := by simpa using hcut
            simp
        | cons r c =>
            obtain ⟨rfl, hrest⟩ : m' = r ∧ ms = c ++ m :: older := by simpa using hcut
            obtain ⟨front, rfl⟩ := ih hrest
            exact ⟨answer m' ms ++ m' :: front, by simp⟩
      · cases c with
        | nil =>
            obtain ⟨rfl, rfl⟩ : m = m' ∧ older = ms := by simpa using hcut
            simp [hanswer]
        | cons r c =>
            obtain ⟨rfl, -⟩ : m = r ∧ older = c ++ m' :: ms := by simpa using hcut
            have hmem : m ∈ answer m' ms := by simp [hanswer]
            have hcall := isNotified_of_mem_answer hmem
            simp [hm] at hcall

/-- Every call stands right after a deed that asks for it. -/
lemma Punctual.exists_cause (h : Punctual ms) (hn : n.isNotified = true)
    (heq : ms = newer ++ n :: older) :
    ∃ m before, older = m :: before ∧ m.isNotified = false ∧ n ∈ answer m before := by
  induction h generalizing newer with
  | nil => simp at heq
  | @step m' ms h hm' ih =>
      rcases List.append_eq_append_iff.mp heq with ⟨c, rfl, hcut⟩ | ⟨c, hanswer, hcut⟩
      · cases c with
        | nil =>
            obtain ⟨rfl, -⟩ : m' = n ∧ ms = older := by simpa using hcut
            simp [hm'] at hn
        | cons r c =>
            obtain ⟨-, hrest⟩ : m' = r ∧ ms = c ++ n :: older := by simpa using hcut
            exact ih hrest
      · cases c with
        | nil =>
            obtain ⟨rfl, -⟩ : n = m' ∧ older = ms := by simpa using hcut
            simp [hm'] at hn
        | cons r c =>
            obtain ⟨rfl, rfl⟩ : n = r ∧ older = c ++ m' :: ms := by simpa using hcut
            -- there is only one call, so the deed itself comes next
            have hlength := length_answer_le m' ms
            rw [hanswer, List.length_append, List.length_cons] at hlength
            have hnil : c = [] := List.eq_nil_of_length_eq_zero (by omega)
            subst hnil
            exact ⟨m', ms, rfl, hm', by simp [hanswer]⟩

/-- **The counter and the notices.** In every run over any line, with `outage` the number `k` of losses
since the latest `Connect` or acceleration, counting an acceleration as one: the counter is
`min 8 k`, in the driver and in every snapshot; a loss that brings `k` to four or more is followed at
once by one call of the disconnect callback in force, a `Connect` with `k` above zero by one call of
the connect callback in force, and every call of either has such a deed right before it; and a
handled `Connect` leaves the counter at zero with nothing pending. -/
theorem counter_and_notices (now : Time) (line : Line) (moves : List Move) :
    let s := (fresh now line).run moves
    s.life.retry.attempts = min 8 (outage (milestones s.history)) ∧
    (∀ newer t snapshot older,
      s.history = newer ++ { time := t, deed := .answered snapshot } :: older →
        snapshot.attempts = min 8 (outage (milestones older))) ∧
    (∀ newer older, milestones s.history = newer ++ .lost :: older →
      4 ≤ outage (.lost :: older) → summons .disconnect older <:+ newer) ∧
    (∀ newer older, milestones s.history = newer ++ .connected :: older →
      0 < outage older → summons .connect older <:+ newer) ∧
    (∀ newer kind tag view older,
      milestones s.history = newer ++ .notified kind tag view :: older →
        ∃ before,
          (kind = .disconnect ∧ older = .lost :: before ∧ 4 ≤ outage older ∨
            kind = .connect ∧ older = .connected :: before ∧ 0 < outage before) ∧
          ∃ c, registered kind before = some c ∧ c.tag = tag ∧ c.view = view) ∧
    (∀ rest, s.running → s.queue = .transport .connect :: rest →
      (s.move .drive).life.retry = { attempts := 0, dueAt := none }) := by
  intro s
  have h : Recorded s := recorded_run now line moves
  refine ⟨h.attempts, ?_, ?_, ?_, ?_, ?_⟩
  · intro newer t snapshot older heq
    have hc := h.chronicle
    rw [heq] at hc
    exact hc.suffix.2.1
  · intro newer older heq hcount
    have hsuffix := h.notices.answer_suffix (m := .lost) rfl heq
    rwa [answer, if_pos (show 4 ≤ outage older + 1 from hcount)] at hsuffix
  · intro newer older heq hcount
    have hsuffix := h.notices.answer_suffix (m := .connected) rfl heq
    rwa [answer, if_pos hcount] at hsuffix
  · intro newer kind tag view older heq
    obtain ⟨m, before, rfl, -, hmem⟩ := h.notices.exists_cause rfl heq
    have hsummons : ∀ k, Milestone.notified kind tag view ∈ summons k before →
        kind = k ∧ ∃ c, registered k before = some c ∧ c.tag = tag ∧ c.view = view := by
      intro k hk
      obtain ⟨c, hc, hcall⟩ : ∃ c, registered k before = some c ∧
          Milestone.notified k c.tag c.view = .notified kind tag view := by
        simpa [summons] using hk
      cases hcall
      exact ⟨rfl, c, hc, rfl, rfl⟩
    simp only [answer] at hmem
    split at hmem
    · split at hmem
      next hcount =>
        obtain ⟨rfl, hc⟩ := hsummons _ hmem
        exact ⟨_, .inl ⟨rfl, rfl, hcount⟩, hc⟩
      next => simp at hmem
    · split at hmem
      next hcount =>
        obtain ⟨rfl, hc⟩ := hsummons _ hmem
        exact ⟨_, .inr ⟨rfl, rfl, hcount⟩, hc⟩
      next => simp at hmem
    · simp at hmem
  · intro rest hrunning hqueue
    rw [move, drive?_of_queue hrunning hqueue]
    exact greet_retry s rest

end ResilientChannel.Session
