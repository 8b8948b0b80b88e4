import Mathlib.Data.List.Basic
import ResilientChannel.Registry

/-!
The history of a board of handler registries.

A history lists what took place, the latest first, and says without any table of handlers who is to be called
next.

* **Kin.** Registries are kin if they go back to the same one by cloning (`Kin`); a new one is kin to none
  before it (`not_kin_created`), a clone to the one it was cloned from (`kin_cloned`), and this never changes
  (`kin_append`).
* **The handler in force** for a kind of event is the one registered last for it on any of the kin
  (`latest?`).
* **Taking steps.** `Takes limit steps old new` says that the steps lead from one history to another. A fire
  calls the handler in force, whose script is then taken before anything else; at a nesting of `limit` its
  script is left out. Steps can always be taken (`exists_takes`).
* `Takes.fits`: what can be said of any moment of such a history.
-/

namespace ResilientChannel.Registry

/-- What takes place on a board. -/
inductive Deed
  | registered (registry : Nat) (kind : TransportEventKind) (handler : Handler)
  | cloned (registry : Nat)
  | created
  /-- A fire calls a handler, and its script follows. -/
  | called (registry : Nat) (event : TransportEvent) (handler : Handler)
  /-- A called handler has completed. -/
  | returned (handler : Handler)
  /-- A fire calls a handler at the greatest nesting, and its script is left out. -/
  | cut (registry : Nat) (event : TransportEvent) (handler : Handler)
  /-- A fire finds no handler. -/
  | unheard (registry : Nat) (event : TransportEvent)

/-- The note that a deed leaves in the log. -/
def Deed.call? : Deed → Option Call
  | .called _ event f | .cut _ event f => some { tag := f.tag, event }
  | _ => none

/-- The notes that a history leaves in the log, the first one first. -/
def calls (h : List Deed) : List Call := h.reverse.filterMap Deed.call?

/-- For each registry the one that it goes back to by cloning. -/
def origins : List Deed → List Nat
  | [] => [0]
  | .cloned r :: h => origins h ++ (origins h)[r]?.toList
  | .created :: h => origins h ++ [(origins h).length]
  | _ :: h => origins h

/-- How many registries there are. -/
def count (h : List Deed) : Nat := (origins h).length

/-- Both registries exist and go back to the same one. -/
def Kin (h : List Deed) (r r' : Nat) : Prop :=
  r < count h ∧ (origins h)[r]? = (origins h)[r']?

instance (h : List Deed) (r r' : Nat) : Decidable (Kin h r r') :=
  inferInstanceAs (Decidable (_ ∧ _))

/-- The handler that a deed installs for a kind of event on a registry, if it does. -/
def Deed.installs? (h : List Deed) (r : Nat) (kind : TransportEventKind) : Deed → Option Handler
  | .registered r' kind' f => if kind' = kind ∧ Kin h r' r then some f else none
  | _ => none

/-- The handler in force for a kind of event on a registry. -/
def latest? (h : List Deed) (r : Nat) (kind : TransportEventKind) : Option Handler :=
  h.findSome? (Deed.installs? h r kind)

/-- How many called handlers have not completed. -/
def nesting : List Deed → Nat
  | [] => 0
  | .called .. :: h => nesting h + 1
  | .returned _ :: h => nesting h - 1
  | _ :: h => nesting h

/-- Steps taken one after another, each with all that it entails. A step on a registry that does not exist
does nothing. -/
inductive Takes (limit : Nat) : List Step → List Deed → List Deed → Prop
  | done (h : List Deed) : Takes limit [] h h
  | register {r kind tag script steps h new} (known : r < count h)
      (rest : Takes limit steps (.registered r kind { tag, script } :: h) new) :
      Takes limit (.register r kind tag script :: steps) h new
  | clone {r steps h new} (known : r < count h) (rest : Takes limit steps (.cloned r :: h) new) :
      Takes limit (.clone r :: steps) h new
  | create {r steps h new} (known : r < count h) (rest : Takes limit steps (.created :: h) new) :
      Takes limit (.create r :: steps) h new
  | unknown {step steps h new} (unknown : count h ≤ step.registry) (rest : Takes limit steps h new) :
      Takes limit (step :: steps) h new
  | unheard {r event steps h new} (known : r < count h) (none : latest? h r event.kind = none)
      (rest : Takes limit steps (.unheard r event :: h) new) :
      Takes limit (.fire r event :: steps) h new
  | call {r event f steps h mid new} (some : latest? h r event.kind = some f)
      (room : nesting h < limit) (script : Takes limit f.script (.called r event f :: h) mid)
      (rest : Takes limit steps (.returned f :: mid) new) :
      Takes limit (.fire r event :: steps) h new
  | cut {r event f steps h new} (some : latest? h r event.kind = some f)
      (full : nesting h = limit) (rest : Takes limit steps (.cut r event f :: h) new) :
      Takes limit (.fire r event :: steps) h new

variable {limit : Nat} {steps : List Step} {h old new : List Deed} {r r' : Nat}
  {kind : TransportEventKind}

/-! ### Kin -/

lemma origins_lt {x : Nat} (hx : x ∈ origins h) : x < count h := by
  rw [count]
  induction h with
  | nil => simpa [origins] using hx
  | cons d h ih =>
    cases d with
    | cloned r =>
      rw [origins, List.mem_append, Option.mem_toList] at hx
      rw [origins, List.length_append]
      exact Nat.lt_add_right _ (ih (hx.elim id List.mem_of_getElem?))
    | created =>
      rw [origins, List.mem_append, List.mem_singleton] at hx
      rw [origins, List.length_append, List.length_singleton]
      exact Nat.lt_succ_of_le (hx.elim (fun hx => Nat.le_of_lt (ih hx)) Nat.le_of_eq)
    | _ => exact ih hx

lemma origins_mono (later : List Deed) (h : List Deed) : origins h <+: origins (later ++ h) := by
  induction later with
  | nil => exact List.prefix_rfl
  | cons d later ih =>
    rw [List.cons_append]
    cases d with
    | cloned r => exact ih.trans (List.prefix_append _ _)
    | created => exact ih.trans (List.prefix_append _ _)
    | _ => exact ih

lemma getElem?_origins_append (later : List Deed) (hr : r < count h) :
    (origins (later ++ h))[r]? = (origins h)[r]? := by
  obtain ⟨tail, htail⟩ := origins_mono later h
  rw [← htail, List.getElem?_append_left hr]

lemma count_le_append (later : List Deed) (h : List Deed) : count h ≤ count (later ++ h) :=
  (origins_mono later h).length_le

lemma Kin.lt (hkin : Kin h r r') : r' < count h := by
  have hsome := hkin.2
  rw [List.getElem?_eq_getElem hkin.1] at hsome
  exact (List.getElem?_eq_some_iff.mp hsome.symm).1

/-- Two registries stay kin or not. -/
lemma kin_append (later : List Deed) (hr : r < count h) (hr' : r' < count h) :
    Kin (later ++ h) r r' ↔ Kin h r r' := by
  rw [Kin, Kin, getElem?_origins_append later hr, getElem?_origins_append later hr']
  exact and_congr_left fun _ => iff_of_true (Nat.lt_of_lt_of_le hr (count_le_append later h)) hr

lemma count_created : count (.created :: h) = count h + 1 := List.length_append

lemma count_cloned (hr : r < count h) : count (.cloned r :: h) = count h + 1 := by
  rw [count, origins, List.getElem?_eq_getElem hr, List.length_append]
  rfl

lemma getElem?_origins_cloned (hr : r < count h) :
    (origins (.cloned r :: h))[count h]? = (origins h)[r]? := by
  rw [origins, List.getElem?_eq_getElem hr, count, List.getElem?_append_right (Nat.le_refl _)]
  simp

lemma getElem?_origins_created : (origins (.created :: h))[count h]? = some (count h) := by
  rw [origins, count, List.getElem?_append_right (Nat.le_refl _)]
  simp

/-- A clone is kin to the registry that it was cloned from. -/
lemma kin_cloned (hr : r < count h) : Kin (.cloned r :: h) (count h) r := by
  refine ⟨by rw [count_cloned hr]; exact Nat.lt_succ_self _, ?_⟩
  rw [getElem?_origins_cloned hr, ← List.singleton_append, getElem?_origins_append _ hr]

/-- A new registry is kin to none before it. -/
lemma not_kin_created (hr : r < count h) : ¬ Kin (.created :: h) r (count h) := by
  intro hkin
  have heq := hkin.2
  rw [getElem?_origins_created, ← List.singleton_append, getElem?_origins_append _ hr] at heq
  exact Nat.lt_irrefl _ (origins_lt (List.mem_of_getElem? heq))

/-! ### The handler in force -/

lemma latest?_of_not_lt (hr : count h ≤ r) : latest? h r kind = none := by
  rw [latest?, List.findSome?_eq_none_iff]
  intro d _
  cases d with
  | registered r' kind' f =>
    rw [Deed.installs?, if_neg]
    exact fun hinst => Nat.not_lt.mpr hr hinst.2.lt
  | _ => rfl

/-- A registration is in force for its kind of event on all the kin, and for nothing else. -/
lemma latest?_registered {f : Handler} {kind' : TransportEventKind} :
    latest? (.registered r' kind' f :: h) r kind =
      if kind' = kind ∧ Kin h r' r then some f else latest? h r kind := by
  have hinst : ∀ d, Deed.installs? (.registered r' kind' f :: h) r kind d =
      Deed.installs? h r kind d := fun d => by cases d <;> rfl
  rw [latest?, List.findSome?_cons, funext hinst, Deed.installs?]
  by_cases hforce : kind' = kind ∧ Kin h r' r
  · rw [if_pos hforce, if_pos hforce]
  · rw [if_neg hforce, if_neg hforce]
    rfl

/-- Every registration was made on a registry that existed. -/
def Placed (h : List Deed) : Prop := ∀ r kind f, .registered r kind f ∈ h → r < count h

lemma findSome?_congr {α β : Type} {p q : α → Option β} {l : List α} (heq : ∀ x ∈ l, p x = q x) :
    l.findSome? p = l.findSome? q := by
  induction l with
  | nil => rfl
  | cons x l ih =>
    rw [List.findSome?_cons, List.findSome?_cons, heq x List.mem_cons_self,
      ih fun y hy => heq y (List.mem_cons_of_mem x hy)]

/-- One registry stands in for another if both have the same kin among those that were registered on. -/
lemma latest?_stand_in {d : Deed} (hplaced : Placed h) (hd : ∀ kind, d.installs? (d :: h) r' kind = none)
    (horigin : (origins (d :: h))[r']? = (origins h)[r]?) :
    latest? (d :: h) r' kind = latest? h r kind := by
  rw [latest?, List.findSome?_cons, hd]
  refine findSome?_congr fun e he => ?_
  cases e with
  | registered s kind' f =>
    have hs := hplaced s kind' f he
    have hkin : Kin (d :: h) s r' ↔ Kin h s r := by
      rw [Kin, Kin, horigin, ← List.singleton_append, getElem?_origins_append _ hs]
      exact and_congr_left fun _ => iff_of_true (Nat.lt_of_lt_of_le hs (count_le_append [d] h)) hs
    rw [Deed.installs?, Deed.installs?]
    exact if_congr (and_congr_right fun _ => hkin) rfl rfl
  | _ => rfl

/-- Nothing is registered on a new registry. -/
lemma latest?_created (hplaced : Placed h) : latest? (.created :: h) (count h) kind = none := by
  rw [latest?, List.findSome?_eq_none_iff]
  intro d hd
  cases d with
  | registered s kind' f =>
    have hmem : .registered s kind' f ∈ h := (List.mem_cons.mp hd).resolve_left (by simp)
    rw [Deed.installs?, if_neg]
    exact fun hinst => not_kin_created (hplaced s kind' f hmem) hinst.2
  | _ => rfl

/-! ### Taking steps -/

/-- What a handler was called for has been done when it completes. -/
lemma Takes.nesting_eq (htakes : Takes limit steps old new) : nesting new = nesting old := by
  induction htakes with
  | done h => rfl
  | register _ _ ih => exact ih
  | clone _ _ ih => exact ih
  | create _ _ ih => exact ih
  | unknown _ _ ih => exact ih
  | unheard _ _ _ ih => exact ih
  | call _ _ _ _ ihscript ihrest =>
    rw [ihrest, nesting, ihscript, nesting, Nat.add_sub_cancel]
  | cut _ _ _ ih => exact ih

lemma Takes.suffix (htakes : Takes limit steps old new) : old <:+ new := by
  induction htakes with
  | done h => exact List.suffix_rfl
  | register _ _ ih => exact (List.suffix_cons _ _).trans ih
  | clone _ _ ih => exact (List.suffix_cons _ _).trans ih
  | create _ _ ih => exact (List.suffix_cons _ _).trans ih
  | unknown _ _ ih => exact ih
  | unheard _ _ _ ih => exact (List.suffix_cons _ _).trans ih
  | call _ _ _ _ ihscript ihrest =>
    exact (List.suffix_cons _ _).trans (ihscript.trans ((List.suffix_cons _ _).trans ihrest))
  | cut _ _ _ ih => exact (List.suffix_cons _ _).trans ih

/-- Any steps can be taken, scripts within scripts down to the limit. -/
lemma exists_takes {room : Nat} (hroom : nesting h + room = limit) (steps : List Step) :
    ∃ new, Takes limit steps h new := by
  -- The outer induction is on the nesting that is left, the inner one on the steps.
  induction room using Nat.strongRecOn generalizing steps h with
  | ind room deeper =>
    induction steps generalizing h with
    | nil => exact ⟨h, .done h⟩
    | cons step steps ih =>
      by_cases hknown : step.registry < count h
      · cases step with
        | register r kind tag script =>
          obtain ⟨new, hnew⟩ := ih (h := .registered r kind { tag, script } :: h) hroom
          exact ⟨new, .register hknown hnew⟩
        | clone r =>
          obtain ⟨new, hnew⟩ := ih (h := .cloned r :: h) hroom
          exact ⟨new, .clone hknown hnew⟩
        | create r =>
          obtain ⟨new, hnew⟩ := ih (h := .created :: h) hroom
          exact ⟨new, .create hknown hnew⟩
        | fire r event =>
          cases hlatest : latest? h r event.kind with
          | none =>
            obtain ⟨new, hnew⟩ := ih (h := .unheard r event :: h) hroom
            exact ⟨new, .unheard hknown hlatest hnew⟩
          | some f =>
            cases room with
            | zero =>
              obtain ⟨new, hnew⟩ := ih (h := .cut r event f :: h) hroom
              exact ⟨new, .cut hlatest hroom hnew⟩
            | succ room =>
              have hinner : nesting (.called r event f :: h) + room = limit := by
                rw [nesting]
                omega
              obtain ⟨mid, hmid⟩ := deeper room (Nat.lt_succ_self _) hinner f.script
              have hafter : nesting (.returned f :: mid) + (room + 1) = limit := by
                rw [nesting, hmid.nesting_eq, nesting]
                omega
              obtain ⟨new, hnew⟩ := ih hafter
              exact ⟨new, .call hlatest (by omega) hmid hnew⟩
      · obtain ⟨new, hnew⟩ := ih hroom
        exact ⟨new, .unknown (Nat.le_of_not_lt hknown) hnew⟩

/-- What is never left out at one limit is not left out at a greater one. -/
lemma Takes.deeper (htakes : Takes limit steps old new)
    (hwhole : ∀ r event f, .cut r event f ∉ new) {limit' : Nat} (hle : limit ≤ limit') :
    Takes limit' steps old new := by
  induction htakes with
  | done h => exact .done h
  | register known _ ih => exact .register known (ih hwhole)
  | clone known _ ih => exact .clone known (ih hwhole)
  | create known _ ih => exact .create known (ih hwhole)
  | unknown unknown _ ih => exact .unknown unknown (ih hwhole)
  | unheard known none _ ih => exact .unheard known none (ih hwhole)
  | call some room script rest ihscript ihrest =>
    have hsub := ((List.suffix_cons _ _).trans rest.suffix).subset
    exact .call some (Nat.lt_of_lt_of_le room hle)
      (ihscript fun r event f hmem => hwhole r event f (hsub hmem)) (ihrest hwhole)
  | cut _ _ rest => exact absurd (rest.suffix.subset List.mem_cons_self) (hwhole _ _ _)

/-! ### Moments of a history -/

/-- What is true of a deed between what came later and what came earlier. -/
def Deed.Fits (limit : Nat) (later earlier : List Deed) : Deed → Prop
  | .registered r _ _ => r < count earlier
  | .cloned r => r < count earlier
  | .created => True
  | .called r event f =>
      latest? earlier r event.kind = some f ∧ nesting earlier < limit ∧
        ∃ rest inner, later = rest ++ .returned f :: inner ∧
          Takes limit f.script (.called r event f :: earlier) (inner ++ .called r event f :: earlier)
  | .returned _ => True
  | .cut r event f => latest? earlier r event.kind = some f ∧ nesting earlier = limit
  | .unheard r event => latest? earlier r event.kind = none

/-- What is true of a deed stays true as the history goes on. -/
lemma Deed.Fits.append {later earlier : List Deed} {d : Deed} (hfits : d.Fits limit later earlier)
    (more : List Deed) : d.Fits limit (more ++ later) earlier := by
  cases d with
  | called r event f =>
    obtain ⟨hlatest, hroom, rest, inner, rfl, hscript⟩ := hfits
    exact ⟨hlatest, hroom, more ++ rest, inner, (List.append_assoc ..).symm, hscript⟩
  | _ => exact hfits

/-- Two ends of a history: one of them is an end of the other. -/
lemma suffix_cases {x d : Deed} {later earlier : List Deed} (hx : x :: h <:+ later ++ d :: earlier) :
    x :: h <:+ earlier ∨ (x = d ∧ h = earlier) ∨ d :: earlier <:+ h := by
  rcases List.suffix_or_suffix_of_suffix hx (List.suffix_append later (d :: earlier)) with hle | hge
  · rcases List.suffix_cons_iff.mp hle with heq | hlt
    · exact .inr (.inl (List.cons.inj heq))
    · exact .inl hlt
  · rcases List.suffix_cons_iff.mp hge with heq | hgt
    · obtain ⟨hhead, htail⟩ := List.cons.inj heq
      exact .inr (.inl ⟨hhead.symm, htail.symm⟩)
    · exact .inr (.inr hgt)

lemma suffix_cases_of_suffix {x d : Deed} {later earlier : List Deed}
    (hx : x :: h <:+ later ++ d :: earlier) (hh : h <:+ earlier) :
    x :: h <:+ earlier ∨ (x = d ∧ h = earlier) := by
  rcases suffix_cases hx with hle | heq | hge
  · exact .inl hle
  · exact .inr heq
  · exact absurd (hge.trans hh).length_le (by simp)

/-- **Every moment.** Whatever takes place while steps are taken fits its moment. -/
lemma Takes.fits (htakes : Takes limit steps old new) {later earlier : List Deed} {d : Deed}
    (hsplit : new = later ++ d :: earlier) (hold : old <:+ earlier) : d.Fits limit later earlier := by
  induction htakes generalizing later with
  | done h =>
    have hlength := (hsplit ▸ hold).length_le
    simp at hlength
    omega
  | register known rest ih =>
    rcases suffix_cases_of_suffix (hsplit ▸ rest.suffix) hold with hin | ⟨rfl, rfl⟩
    · exact ih hsplit hin
    · exact known
  | clone known rest ih =>
    rcases suffix_cases_of_suffix (hsplit ▸ rest.suffix) hold with hin | ⟨rfl, rfl⟩
    · exact ih hsplit hin
    · exact known
  | create known rest ih =>
    rcases suffix_cases_of_suffix (hsplit ▸ rest.suffix) hold with hin | ⟨rfl, rfl⟩
    · exact ih hsplit hin
    · trivial
  | unknown _ _ ih => exact ih hsplit hold
  | unheard known none rest ih =>
    rcases suffix_cases_of_suffix (hsplit ▸ rest.suffix) hold with hin | ⟨rfl, rfl⟩
    · exact ih hsplit hin
    · exact none
  | @call r event f steps h mid new some room script rest ihscript ihrest =>
    rcases suffix_cases (hsplit ▸ rest.suffix) with hin | ⟨rfl, rfl⟩ | ⟨inner, hinner⟩
    · exact ihrest hsplit hin
    · trivial
    · -- The deed belongs to the script, or it is the call itself.
      obtain ⟨after, hafter⟩ := rest.suffix
      have hwhole : later ++ d :: earlier = (after ++ .returned f :: inner) ++ d :: earlier := by
        rw [← hsplit, ← hafter, ← hinner]
        simp
      have hlater := List.append_cancel_right hwhole
      rcases suffix_cases_of_suffix (hinner ▸ script.suffix) hold with hin | ⟨rfl, rfl⟩
      · rw [hlater, List.append_cons]
        exact (ihscript hinner.symm hin).append _
      · exact ⟨some, room, after, inner, hlater, hinner ▸ script⟩
  | cut some full rest ih =>
    rcases suffix_cases_of_suffix (hsplit ▸ rest.suffix) hold with hin | ⟨rfl, rfl⟩
    · exact ih hsplit hin
    · exact ⟨some, full⟩

end ResilientChannel.Registry
