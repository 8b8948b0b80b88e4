import ResilientChannel.Proofs.Registry.Chronicle

/-!
The tables of a board against its history.

A board keeps a table of handlers for each family of registries, and looks the handler up before its script
runs. So what it does is what its history demands: each fire reaches the handler registered last, for its
kind of event, on any of the registry's kin.

* **The invariant.** `Reflects b h` says that the board has one table for each family of kin, that the tables
  hold the handlers in force, and that the log holds the calls. Each operation keeps it
  (`Reflects.registered`, `Reflects.cloned`, `Reflects.created`, `Reflects.noted`).
* `Reflects.takes`: so do any steps, with the scripts in them.
* `fires_reach_latest`: what a run does at every moment.
-/

namespace ResilientChannel.Registry

variable {limit : Nat} {steps : List Step} {b : Board} {h old new : List Deed} {r : Nat}
  {kind : TransportEventKind} {f : Handler}

namespace Board

/-- Takes steps one after another. -/
def performAll (depth : Nat) (steps : List Step) (b : Board) : Board :=
  steps.foldl (fun b step => perform depth step b) b

/-- The handler that a registry's table holds for a kind of event. -/
def holder? (b : Board) (r : Nat) (kind : TransportEventKind) : Option Handler :=
  (b.table? r).bind (·.slot kind)

lemma performAll_cons (depth : Nat) (step : Step) (steps : List Step) (b : Board) :
    performAll depth (step :: steps) b = performAll depth steps (perform depth step b) := rfl

lemma perform_unheard {event : TransportEvent} (hnone : b.holder? r event.kind = none) (depth : Nat) :
    perform depth (.fire r event) b = b := by
  cases depth <;> simp only [perform] <;> rw [holder?] at hnone <;> simp [Handlers.receiver, hnone]

/-- A handler is noted, and then its script is followed if the depth allows for it. -/
lemma perform_heard {event : TransportEvent} (hsome : b.holder? r event.kind = some f) (depth : Nat) :
    perform depth (.fire r event) b =
      match depth with
      | 0 => { b with log := b.log ++ [{ tag := f.tag, event }] }
      | depth + 1 => performAll depth f.script { b with log := b.log ++ [{ tag := f.tag, event }] } := by
  cases depth <;> simp only [perform] <;> rw [holder?] at hsome <;>
    simp [Handlers.receiver, hsome, performAll]

end Board

/-- Registries share a table exactly if they are kin, the tables hold the handlers in force, and the log
holds the calls. -/
structure Reflects (b : Board) (h : List Deed) : Prop where
  length : b.registries.length = count h
  table_lt : ∀ t ∈ b.registries, t < b.tables.length
  shared : ∀ r r', r < count h → r' < count h →
    (b.registries[r]? = b.registries[r']? ↔ (origins h)[r]? = (origins h)[r']?)
  placed : Placed h
  holds : ∀ r kind, r < count h → b.holder? r kind = latest? h r kind
  log : b.log = calls h

namespace Reflects

lemma fresh : Reflects {} [] where
  length := rfl
  table_lt _ ht := by
    rw [List.mem_singleton.mp ht]
    exact Nat.zero_lt_one
  shared r r' hr hr' := by
    rw [Nat.lt_one_iff.mp hr, Nat.lt_one_iff.mp hr']
    exact iff_of_true rfl rfl
  placed _ _ _ hmem := nomatch hmem
  holds r kind hr := by
    rw [Nat.lt_one_iff.mp hr]
    exact Handlers.slot_empty kind
  log := rfl

lemma exists_table (hb : Reflects b h) (hr : r < count h) :
    ∃ t, b.registries[r]? = some t ∧ t < b.tables.length :=
  have hlt : r < b.registries.length := hb.length ▸ hr
  ⟨_, List.getElem?_eq_getElem hlt, hb.table_lt _ (List.getElem_mem hlt)⟩

lemma holder?_eq (hb : Reflects b h) (r : Nat) (kind : TransportEventKind) :
    b.holder? r kind = latest? h r kind := by
  by_cases hr : r < count h
  · exact hb.holds r kind hr
  · rw [latest?_of_not_lt (Nat.le_of_not_lt hr), Board.holder?, Board.table?,
      List.getElem?_eq_none (hb.length ▸ Nat.le_of_not_lt hr)]
    rfl

lemma knows (hb : Reflects b h) (r : Nat) : b.knows r = decide (r < count h) := by
  rw [Board.knows, hb.length]

lemma placed_cons (hb : Reflects b h) {d : Deed} (hd : ∀ r kind f, d = .registered r kind f → r < count h) :
    Placed (d :: h) := by
  intro r kind f hmem
  refine Nat.lt_of_lt_of_le ?_ (count_le_append [d] h)
  rcases List.mem_cons.mp hmem with heq | hmem
  · exact hd r kind f heq.symm
  · exact hb.placed r kind f hmem

lemma registered (hb : Reflects b h) (hr : r < count h) (kind : TransportEventKind) (f : Handler) :
    Reflects (b.register r kind f) (.registered r kind f :: h) := by
  obtain ⟨t, ht, hlt⟩ := hb.exists_table hr
  have hregister : b.register r kind f = { b with tables := b.tables.modify t (·.register kind f) } := by
    rw [Board.register, ht]
  rw [hregister]
  refine ⟨hb.length, fun t' ht' => ?_, hb.shared, hb.placed_cons fun _ _ _ heq => ?_, ?_, ?_⟩
  · rw [List.length_modify]
    exact hb.table_lt t' ht'
  · cases heq
    exact hr
  · -- The registration shows on a registry if its table is the changed one, that is, if it is kin.
    intro r' kind' hr'
    obtain ⟨t', ht', hlt'⟩ := hb.exists_table hr'
    have hold := hb.holds r' kind' hr'
    have hkin : t = t' ↔ Kin h r r' := by
      rw [Kin, ← hb.shared r r' hr hr', ht, ht', Option.some_inj]
      exact (and_iff_right hr).symm
    rw [Board.holder?, Board.table?, ht', Option.bind_some, List.getElem?_eq_getElem hlt',
      Option.bind_some] at hold
    rw [latest?_registered, Board.holder?, Board.table?, ht', Option.bind_some,
      List.getElem?_modify, List.getElem?_eq_getElem hlt', ← hold]
    by_cases heq : t = t'
    · simp [heq, hkin.mp heq, Handlers.slot_register, eq_comm]
    · simp [heq, mt hkin.mpr heq]
  · exact hb.log.trans (by simp [calls, Deed.call?])

/-- Each registry after a cloning stands where one stood before. -/
lemma exists_stand_in (hb : Reflects b h) (hr : r < count h) {r' : Nat}
    (hr' : r' < count (.cloned r :: h)) :
    ∃ s < count h, (b.clone r).registries[r']? = b.registries[s]? ∧
      (origins (.cloned r :: h))[r']? = (origins h)[s]? := by
  obtain ⟨t, ht, -⟩ := hb.exists_table hr
  have hclone : (b.clone r).registries = b.registries ++ [t] := by
    rw [Board.clone, ht]
  rw [count_cloned hr] at hr'
  rcases Nat.lt_succ_iff_lt_or_eq.mp hr' with hlt | rfl
  · refine ⟨r', hlt, ?_, getElem?_origins_append [.cloned r] hlt⟩
    rw [hclone, List.getElem?_append_left (hb.length ▸ hlt)]
  · refine ⟨r, hr, ?_, getElem?_origins_cloned hr⟩
    rw [hclone, ← hb.length, List.getElem?_concat_length, ht]

lemma cloned (hb : Reflects b h) (hr : r < count h) : Reflects (b.clone r) (.cloned r :: h) := by
  obtain ⟨t, ht, hlt⟩ := hb.exists_table hr
  have hclone : b.clone r = { b with registries := b.registries ++ [t] } := by
    rw [Board.clone, ht]
  refine ⟨?_, fun t' ht' => ?_, fun r₁ r₂ hr₁ hr₂ => ?_, hb.placed_cons (by simp), ?_, ?_⟩
  · rw [hclone, count_cloned hr, List.length_append, hb.length]
    rfl
  · rw [hclone] at ht' ⊢
    rcases List.mem_append.mp ht' with ht' | ht'
    · exact hb.table_lt t' ht'
    · rw [List.mem_singleton.mp ht']
      exact hlt
  · obtain ⟨s₁, hs₁, hregistry₁, horigin₁⟩ := hb.exists_stand_in hr hr₁
    obtain ⟨s₂, hs₂, hregistry₂, horigin₂⟩ := hb.exists_stand_in hr hr₂
    rw [hregistry₁, hregistry₂, horigin₁, horigin₂]
    exact hb.shared s₁ s₂ hs₁ hs₂
  · intro r' kind hr'
    obtain ⟨s, hs, hregistry, horigin⟩ := hb.exists_stand_in hr hr'
    have htables : (b.clone r).tables = b.tables := by rw [hclone]
    rw [latest?_stand_in hb.placed (fun _ => rfl) horigin, ← hb.holds s kind hs, Board.holder?,
      Board.holder?, Board.table?, Board.table?, hregistry, htables]
  · rw [hclone]
    exact hb.log.trans (by simp [calls, Deed.call?])

lemma created (hb : Reflects b h) (hr : r < count h) : Reflects (b.create r) (.created :: h) := by
  have hcreate : b.create r =
      { b with tables := b.tables ++ [{}], registries := b.registries ++ [b.tables.length] } := by
    rw [Board.create, hb.knows, decide_eq_true hr, if_pos rfl]
  have hold : ∀ r', r' < count h → (b.create r).registries[r']? = b.registries[r']? ∧
      (origins (.created :: h))[r']? = (origins h)[r']? := fun r' hr' => by
    refine ⟨?_, getElem?_origins_append [.created] hr'⟩
    rw [hcreate, List.getElem?_append_left (hb.length ▸ hr')]
  have hnew : (b.create r).registries[count h]? = some b.tables.length := by
    rw [hcreate, ← hb.length, List.getElem?_concat_length]
  -- No registry before it has the new one's table or goes back to it.
  have happart : ∀ r', r' < count h →
      (b.registries[r']? ≠ some b.tables.length ∧ (origins h)[r']? ≠ some (count h)) := fun r' hr' => by
    obtain ⟨t, ht, hlt⟩ := hb.exists_table hr'
    refine ⟨fun heq => ?_, fun heq => Nat.lt_irrefl _ (origins_lt (List.mem_of_getElem? heq))⟩
    rw [ht, Option.some_inj] at heq
    exact Nat.lt_irrefl _ (heq ▸ hlt)
  refine ⟨?_, fun t' ht' => ?_, fun r₁ r₂ hr₁ hr₂ => ?_, hb.placed_cons (by simp), ?_, ?_⟩
  · rw [hcreate, count_created, List.length_append, hb.length]
    rfl
  · rw [hcreate] at ht' ⊢
    rw [List.length_append]
    rcases List.mem_append.mp ht' with ht' | ht'
    · exact Nat.lt_succ_of_lt (hb.table_lt t' ht')
    · rw [List.mem_singleton.mp ht']
      exact Nat.lt_succ_self _
  · rw [count_created] at hr₁ hr₂
    rcases Nat.lt_succ_iff_lt_or_eq.mp hr₁ with hlt₁ | rfl <;>
      rcases Nat.lt_succ_iff_lt_or_eq.mp hr₂ with hlt₂ | rfl
    · rw [(hold r₁ hlt₁).1, (hold r₁ hlt₁).2, (hold r₂ hlt₂).1, (hold r₂ hlt₂).2]
      exact hb.shared r₁ r₂ hlt₁ hlt₂
    · rw [(hold r₁ hlt₁).1, (hold r₁ hlt₁).2, hnew, getElem?_origins_created]
      exact iff_of_false (happart r₁ hlt₁).1 (happart r₁ hlt₁).2
    · rw [(hold r₂ hlt₂).1, (hold r₂ hlt₂).2, hnew, getElem?_origins_created]
      exact iff_of_false (happart r₂ hlt₂).1.symm (happart r₂ hlt₂).2.symm
    · exact iff_of_true rfl rfl
  · intro r' kind hr'
    rw [count_created] at hr'
    rcases Nat.lt_succ_iff_lt_or_eq.mp hr' with hlt | rfl
    · obtain ⟨t, ht, htable⟩ := hb.exists_table hlt
      rw [latest?_stand_in hb.placed (fun _ => rfl) (hold r' hlt).2,
        ← hb.holds r' kind hlt, Board.holder?, Board.holder?, Board.table?, Board.table?,
        (hold r' hlt).1, ht, hcreate, Option.bind_some, Option.bind_some,
        List.getElem?_append_left htable]
    · rw [latest?_created hb.placed, Board.holder?, Board.table?, hnew, Option.bind_some, hcreate,
        List.getElem?_concat_length]
      exact Handlers.slot_empty kind
  · rw [hcreate]
    exact hb.log.trans (by simp [calls, Deed.call?])

/-- A deed that leaves tables and registries alone. -/
lemma noted (hb : Reflects b h) {d : Deed} (horigins : origins (d :: h) = origins h)
    (hd : ∀ r kind f, d ≠ .registered r kind f) :
    Reflects { b with log := b.log ++ d.call?.toList } (d :: h) := by
  have hcount : count (d :: h) = count h := congrArg List.length horigins
  refine ⟨hb.length.trans hcount.symm, hb.table_lt, ?_,
    hb.placed_cons fun r kind f heq => absurd heq (hd r kind f), ?_, ?_⟩
  · rw [hcount, horigins]
    exact hb.shared
  · intro r kind hr
    have hsilent : ∀ kind, d.installs? (d :: h) r kind = none := fun kind => by
      cases d with
      | registered r kind f => exact absurd rfl (hd r kind f)
      | _ => rfl
    rw [latest?_stand_in hb.placed hsilent (by rw [horigins])]
    exact hb.holds r kind (hcount ▸ hr)
  · rw [hb.log, calls, calls, List.reverse_cons, List.filterMap_append]
    cases hcall : d.call? <;> simp [hcall]

/-- A deed that leaves everything alone. -/
lemma unnoted (hb : Reflects b h) {d : Deed} (horigins : origins (d :: h) = origins h)
    (hd : ∀ r kind f, d ≠ .registered r kind f) (hcall : d.call? = none) : Reflects b (d :: h) := by
  have hnoted := hb.noted horigins hd
  rw [hcall, Option.toList_none, List.append_nil] at hnoted
  exact hnoted

lemma perform_unknown (hb : Reflects b h) {step : Step} (hunknown : count h ≤ step.registry)
    (depth : Nat) : b.perform depth step = b := by
  have hnone : b.registries[step.registry]? = none := List.getElem?_eq_none (hb.length ▸ hunknown)
  cases step with
  | register r kind tag script =>
    have hmissing : b.registries[r]? = none := hnone
    rw [Board.perform, Board.register, hmissing]
  | clone r =>
    have hmissing : b.registries[r]? = none := hnone
    rw [Board.perform, Board.clone, hmissing]
  | create r =>
    have hknows : b.knows r = false := by
      rw [hb.knows]
      exact decide_eq_false (Nat.not_lt.mpr hunknown)
    rw [Board.perform, Board.create, hknows, if_neg Bool.false_ne_true]
  | fire r event =>
    exact Board.perform_unheard ((hb.holder?_eq ..).trans (latest?_of_not_lt hunknown)) depth

/-- **Steps.** After any steps, with the scripts in them, a board reflects what took place. -/
lemma takes (hb : Reflects b old) (htakes : Takes limit steps old new) :
    Reflects (b.performAll (limit - nesting old) steps) new := by
  induction htakes generalizing b with
  | done h => exact hb
  | @register r kind tag script steps h new known rest ih =>
    rw [Board.performAll_cons, Board.perform]
    exact ih (hb.registered known kind { tag, script })
  | @clone r steps h new known rest ih =>
    rw [Board.performAll_cons, Board.perform]
    exact ih (hb.cloned known)
  | @create r steps h new known rest ih =>
    rw [Board.performAll_cons, Board.perform]
    exact ih (hb.created known)
  | unknown unknown rest ih =>
    rw [Board.performAll_cons, hb.perform_unknown unknown]
    exact ih hb
  | @unheard r event steps h new known none rest ih =>
    rw [Board.performAll_cons, Board.perform_unheard (by rw [hb.holder?_eq, none])]
    exact ih (hb.unnoted rfl (by simp) rfl)
  | @call r event f steps h mid new some room script rest ihscript ihrest =>
    obtain ⟨n, hn⟩ : ∃ n, limit - nesting h = n + 1 := ⟨limit - nesting h - 1, by omega⟩
    have hmid : nesting mid = nesting h + 1 := script.nesting_eq
    have hnoted := hb.noted (d := .called r event f) rfl (by simp)
    have hscript := ihscript hnoted
    have hafter := ihrest (hscript.unnoted (d := .returned f) rfl (by simp) rfl)
    have hinner : limit - nesting (.called r event f :: h) = n := by
      rw [nesting]
      omega
    have houter : limit - nesting (.returned f :: mid) = n + 1 := by
      rw [nesting, hmid]
      omega
    rw [hinner, houter] at hafter
    rw [hn, Board.performAll_cons, Board.perform_heard (by rw [hb.holder?_eq, some])]
    exact hafter
  | @cut r event f steps h new some full rest ih =>
    have hzero : limit - nesting h = 0 := by omega
    have hnoted := ih (hb.noted (d := .cut r event f) rfl (by simp))
    have hstill : limit - nesting (.cut r event f :: h) = 0 := hzero
    rw [hstill] at hnoted
    rw [hzero, Board.performAll_cons, Board.perform_heard (by rw [hb.holder?_eq, some])]
    exact hnoted

end Reflects

/-- **Each fire reaches the latest handler.** A run has a history in which every fire calls the handler that
was registered last, at that moment, for the kind of its event on any of its registry's kin, and calls none if
there is none; a called handler completes, with its whole script in between, whatever the script registers or
fires, unless the nesting is at its limit. The log lists these calls with the events as they were fired, and
the tables hold what the history says. Registries are kin only by cloning: a clone is kin to the registry
that it was cloned from, a new one to none before it, and what is registered on a registry changes nothing for
those that are not its kin. A run that never reaches the limit is the same at every greater one. -/
theorem fires_reach_latest (limit : Nat) (steps : List Step) :
    ∃ h, Takes limit steps [] h ∧
      (Board.performAll limit steps {}).log = calls h ∧
      (∀ r kind, (Board.performAll limit steps {}).holder? r kind = latest? h r kind) ∧
      (∀ later d earlier, h = later ++ d :: earlier → d.Fits limit later earlier) ∧
      (∀ later r earlier, h = later ++ .cloned r :: earlier → Kin h (count earlier) r) ∧
      (∀ later earlier, h = later ++ .created :: earlier →
        ∀ r < count earlier, ¬ Kin h r (count earlier)) ∧
      (∀ r kind f r' kind', r < count h → ¬ Kin h r r' →
        ((Board.performAll limit steps {}).register r kind f).holder? r' kind' =
          (Board.performAll limit steps {}).holder? r' kind') ∧
      ((∀ r event f, .cut r event f ∉ h) → ∀ deeper ≥ limit,
        (Board.performAll deeper steps {}).log = calls h) := by
  obtain ⟨h, htakes⟩ := exists_takes (h := []) (Nat.zero_add limit) steps
  have hreflects : Reflects (Board.performAll limit steps {}) h := Reflects.fresh.takes htakes
  have hfits : ∀ later d earlier, h = later ++ d :: earlier → d.Fits limit later earlier :=
    fun later d earlier hsplit => htakes.fits hsplit List.nil_suffix
  refine ⟨h, htakes, hreflects.log, hreflects.holder?_eq, hfits, ?_, ?_, ?_, ?_⟩
  · rintro later r earlier rfl
    have hr : r < count earlier := hfits later _ earlier rfl
    have hlt : count earlier < count (.cloned r :: earlier) := by
      rw [count_cloned hr]
      exact Nat.lt_succ_self _
    exact (kin_append later hlt (Nat.lt_trans hr hlt)).mpr (kin_cloned hr)
  · rintro later earlier rfl r hr
    have hlt : count earlier < count (.created :: earlier) := by
      rw [count_created]
      exact Nat.lt_succ_self _
    exact fun hkin => not_kin_created hr ((kin_append later (Nat.lt_trans hr hlt) hlt).mp hkin)
  · intro r kind f r' kind' hr hstranger
    rw [(hreflects.registered hr kind f).holder?_eq, hreflects.holder?_eq, latest?_registered,
      if_neg fun hinst => hstranger hinst.2]
  · intro hwhole deeper hle
    exact (Reflects.fresh.takes (htakes.deeper hwhole hle)).log

/-- A handler replaces itself through a clone while it runs: it completes, and later fires on either registry
call the new one. -/
example :
    (Board.performAll 2
      [.clone 0, .register 0 .connect "old" [.register 1 .connect "new" []], .fire 0 .connect,
        .fire 0 .connect, .fire 1 .connect] {}).log =
      [⟨"old", .connect⟩, ⟨"new", .connect⟩, ⟨"new", .connect⟩] := by
  decide

end ResilientChannel.Registry
