import Mathlib.Data.List.TakeDrop
import Mathlib.Data.List.TakeWhile
import ResilientChannel.Url.Parser

/-!
The fragment of a URL.

Whatever is read of a URL in front of its fragment, user information, host, port, path or query, ends at
the first fragment mark at the latest. So the fragment of a parsed text is what stands behind its first
mark, in every kind of URL.

* `Leaves cs rest`: reading `cs` up to `rest` passes no fragment mark. There is one lemma for each reader
  (`leaves_span`, `leaves_credentials`, `leaves_host`, `leaves_port`).
* `fragment_of_parse`: the fragment of a parsed text.
-/

namespace ResilientChannel.Url.Parser

/-! ### Marks passed and left -/

/-- What stands behind the first fragment mark. -/
def behindMark (cs : List Char) : List Char := (cs.dropWhile (· ≠ '#')).tail

/-- The fragment that a text ends with, if it has a fragment mark. -/
def fragmentOf (cs : List Char) : Option String :=
  if '#' ∈ cs then some (String.ofList (Percent.encode Percent.inFragment (behindMark cs))) else none

/-- The rest of a text, with no fragment mark in front of it. -/
def Leaves (cs rest : List Char) : Prop := ∃ front, '#' ∉ front ∧ cs = front ++ rest

variable {cs rest : List Char} {kind : SchemeKind}

lemma dropWhile_mark_append {front : List Char} (h : '#' ∉ front) (cs : List Char) :
    (front ++ cs).dropWhile (· ≠ '#') = cs.dropWhile (· ≠ '#') := by
  refine List.dropWhile_append_of_pos fun c hc => ?_
  rw [decide_eq_true_eq]
  rintro rfl
  exact h hc

lemma dropWhile_mark (h : '#' ∈ cs) : cs.dropWhile (· ≠ '#') = '#' :: behindMark cs := by
  have hne : cs.dropWhile (· ≠ '#') ≠ [] := by
    rw [ne_eq, List.dropWhile_eq_nil_iff]
    exact fun hall => by simpa using hall '#' h
  have hhead : (cs.dropWhile (· ≠ '#')).head hne = '#' := by
    simpa using List.head_dropWhile_not (fun c => decide (c ≠ '#')) hne
  calc cs.dropWhile (· ≠ '#')
      = (cs.dropWhile (· ≠ '#')).head hne :: behindMark cs := (List.cons_head_tail hne).symm
    _ = '#' :: behindMark cs := by rw [hhead]

lemma behindMark_append {front : List Char} (h : '#' ∉ front) (cs : List Char) :
    behindMark (front ++ cs) = behindMark cs := by
  rw [behindMark, dropWhile_mark_append h, behindMark]

lemma behindMark_append_of_mem {front : List Char} (h : '#' ∈ front) (cs : List Char) :
    behindMark (front ++ cs) = behindMark front ++ cs := by
  rw [behindMark, List.dropWhile_append, dropWhile_mark h]
  rfl

lemma Leaves.refl (cs : List Char) : Leaves cs cs := ⟨[], List.not_mem_nil, rfl⟩

lemma Leaves.trans {cs mid rest : List Char} (h : Leaves cs mid) (h' : Leaves mid rest) :
    Leaves cs rest := by
  obtain ⟨front, hfront, rfl⟩ := h
  obtain ⟨front', hfront', rfl⟩ := h'
  refine ⟨front ++ front', ?_, (List.append_assoc ..).symm⟩
  rw [List.mem_append]
  exact not_or.mpr ⟨hfront, hfront'⟩

lemma Leaves.cons {c : Char} (hc : c ≠ '#') (h : Leaves cs rest) : Leaves (c :: cs) rest :=
  Leaves.trans ⟨[c], by simpa using hc.symm, rfl⟩ h

lemma Leaves.fragmentOf (h : Leaves cs rest) : fragmentOf cs = fragmentOf rest := by
  obtain ⟨front, hfront, rfl⟩ := h
  simp only [Parser.fragmentOf, List.mem_append, hfront, false_or, behindMark_append hfront]

/-! ### The readers -/

lemma leaves_span {p : Char → Bool} (h : p '#' = false) (cs : List Char) :
    Leaves cs (cs.span p).2 := by
  rw [List.span_eq_takeWhile_dropWhile]
  refine ⟨cs.takeWhile p, fun hmem => ?_, List.takeWhile_append_dropWhile.symm⟩
  rw [List.mem_takeWhile_imp hmem] at h
  cases h

lemma endsAuthority_mark (kind : SchemeKind) : endsAuthority kind '#' = true := by
  simp [endsAuthority]

lemma leaves_credentials {info : Option UserInfo} (h : credentials kind cs = .ok (info, rest)) :
    Leaves cs rest := by
  have hauth : '#' ∉ cs.takeWhile (!endsAuthority kind ·) := fun hmem => by
    simpa [endsAuthority_mark] using List.mem_takeWhile_imp hmem
  have hcs : cs = cs.takeWhile (!endsAuthority kind ·) ++ cs.dropWhile (!endsAuthority kind ·) :=
    List.takeWhile_append_dropWhile.symm
  rw [credentials, List.span_eq_takeWhile_dropWhile] at h
  generalize cs.takeWhile (!endsAuthority kind ·) = auth at h hauth hcs
  generalize cs.dropWhile (!endsAuthority kind ·) = after at h hcs
  simp only at h
  split at h
  · next back front hback =>
    -- The at sign and what stands in front of it is what the reader passes.
    have hsplit : auth = front.reverse ++ '@' :: back.reverse := by
      have hwhole := congrArg (fun p => (p.1 ++ p.2).reverse) hback
      simpa [List.span_eq_takeWhile_dropWhile] using hwhole
    split at h
    · cases h
    · cases h
      refine ⟨front.reverse ++ ['@'], fun hmem => hauth ?_, by rw [hcs, hsplit]; simp⟩
      rw [hsplit]
      simp only [List.mem_append, List.mem_cons] at hmem ⊢
      tauto
  · cases h
    exact .refl _

lemma mark_not_mem_take_hostLength (cs : List Char) :
    ∀ inBrackets, '#' ∉ cs.take (hostLength kind inBrackets cs) := by
  induction cs with
  | nil => intro inBrackets; exact List.not_mem_nil
  | cons c cs ih =>
    intro inBrackets
    rw [hostLength]
    split
    · exact List.not_mem_nil
    · next hgoes =>
      rw [List.take_succ_cons, List.mem_cons]
      refine not_or.mpr ⟨?_, ih _⟩
      rintro rfl
      simp [endsAuthority_mark] at hgoes

lemma leaves_host {h : Host} (hread : host kind cs = .ok (h, rest)) : Leaves cs rest := by
  rw [host] at hread
  split at hread
  · cases hread
  · split at hread
    · cases hread
    · cases hread
      exact ⟨_, mark_not_mem_take_hostLength cs false, (List.take_append_drop _ cs).symm⟩

lemma leaves_portDigits {read : Option Nat} {result : Option Nat × List Char}
    (h : portDigits read cs = .ok result) : Leaves cs result.2 := by
  induction cs generalizing read with
  | nil =>
    cases h
    exact .refl _
  | cons c cs ih =>
    rw [portDigits] at h
    split at h
    · next hdigit =>
      simp only at h
      split at h
      · cases h
      · refine .cons ?_ (ih h)
        rintro rfl
        cases hdigit
    · split at h
      · cases h
        exact .refl _
      · cases h

lemma leaves_port {scheme : String} {p : Option Nat} (h : port scheme cs = .ok (p, rest)) :
    Leaves cs rest := by
  unfold port at h
  split at h
  · next digits =>
    cases hread : portDigits none digits with
    | error fault =>
      rw [hread] at h
      cases h
    | ok result =>
      rw [hread] at h
      cases h
      exact .cons (by decide) (leaves_portDigits hread)
  · cases h
    exact .refl _

lemma finish_fragment (kind : SchemeKind) (u : Url) (cs : List Char) :
    (finish kind u cs).fragment = fragmentOf cs := by
  rw [finish, Parser.tail, List.span_eq_takeWhile_dropWhile]
  simp only [fragmentOf]
  split
  · next fragment hrest =>
    have hmem : '#' ∈ cs := (List.dropWhile_suffix _).subset (hrest ▸ List.mem_cons_self)
    rw [if_pos hmem, behindMark, hrest, List.tail_cons]
  · next hnone =>
    split
    · next hmem => exact absurd (dropWhile_mark hmem) (hnone _)
    · rfl

/-! ### The three kinds of URL -/

lemma leaves_path (cs : List Char) : Leaves cs (cs.span (!endsPath ·)).2 := leaves_span rfl cs

lemma withAuthority_fragment {scheme : String} {u : Url} (h : withAuthority scheme kind cs = .ok u) :
    u.fragment = fragmentOf cs := by
  unfold withAuthority at h
  split at h
  · cases h
  · next info cs₁ hinfo =>
    split at h
    · cases h
    · next host cs₂ hhost =>
      split at h
      · cases h
      · next port cs₃ hport =>
        have hread : Leaves cs cs₃ :=
          ((leaves_credentials hinfo).trans (leaves_host hhost)).trans (leaves_port hport)
        simp only at h
        split at h
        · cases h
        · cases h
          rw [finish_fragment, (hread.trans (leaves_path cs₃)).fragmentOf]

lemma other_fragment {scheme : String} {u : Url} (h : other scheme cs = .ok u) :
    u.fragment = fragmentOf cs := by
  unfold other at h
  split at h
  · next rest =>
    rw [withAuthority_fragment h]
    exact (Leaves.fragmentOf (.cons (by decide) (.cons (by decide) (.refl rest)))).symm
  · cases h
    exact (finish_fragment _ _ _).trans (leaves_path cs).fragmentOf.symm

lemma leaves_fileHost {h : Host} (hread : fileHost cs = .ok (h, rest)) : Leaves cs rest := by
  have hspan := leaves_span (p := (!endsAuthority .file ·)) rfl cs
  rw [fileHost] at hread
  simp only at hread
  split at hread
  · cases hread
    exact .refl _
  · split at hread
    · cases hread
      exact hspan
    · cases hparse : Host.parse (cs.span (!endsAuthority .file ·)).1 with
      | error fault =>
        rw [hparse] at hread
        cases hread
      | ok parsed =>
        rw [hparse] at hread
        cases hread
        exact hspan

lemma file_fragment {u : Url} (h : file cs = .ok u) : u.fragment = fragmentOf cs := by
  unfold file at h
  simp only at h
  split at h
  · cases h
  · next host rest hlocated =>
    have hread : Leaves cs rest := by
      split at hlocated
      · next a b behind =>
        split at hlocated
        · next hslashes =>
          have hmark : isSlash .file '#' = false := rfl
          rw [Bool.and_eq_true] at hslashes
          refine .cons ?_ (.cons ?_ (leaves_fileHost hlocated)) <;>
            · rintro rfl
              simp [hmark] at hslashes
        · cases hlocated
          exact .refl _
      · cases hlocated
        exact .refl _
    cases h
    rw [finish_fragment, (hread.trans (leaves_path rest)).fragmentOf]

lemma leaves_of_scheme? {scheme : String} (h : scheme? cs = some (scheme, rest)) : Leaves cs rest := by
  have hspan := leaves_span (p := isSchemeChar) (by decide) cs
  rw [scheme?] at h
  split at h
  · next hcs =>
    rw [hcs] at hspan
    split at h
    · cases h
      exact hspan.trans (.cons (by decide) (.refl _))
    · cases h
  · cases h

end Parser

open ResilientChannel.Url.Parser

/-- **The fragment of a parsed text** is what stands behind its first fragment mark. -/
lemma fragment_of_parse {text : String} {u : Url} (h : parse text = .ok u) :
    u.fragment = fragmentOf (clean text.toList) := by
  unfold parse at h
  split at h
  · cases h
  · next scheme rest hscheme =>
    rw [(leaves_of_scheme? hscheme).fragmentOf]
    split at h
    · exact file_fragment h
    · rw [withAuthority_fragment h]
      have hspan := leaves_span (p := isSlash .special) rfl rest
      rw [List.span_eq_takeWhile_dropWhile] at hspan
      exact hspan.fragmentOf.symm
    · exact other_fragment h

lemma mark_mem_clean {cs : List Char} : '#' ∈ clean cs ↔ '#' ∈ cs := by
  have hkeep : ∀ p : Char → Bool, p '#' = false → ∀ l : List Char, '#' ∈ l.dropWhile p ↔ '#' ∈ l := by
    intro p hp l
    conv_rhs => rw [← List.takeWhile_append_dropWhile (p := p) (l := l), List.mem_append]
    refine ⟨.inr, fun h => h.resolve_left fun hmem => ?_⟩
    rw [List.mem_takeWhile_imp hmem] at hp
    cases hp
  have htrim : isTrimmed '#' = false := rfl
  rw [clean, List.mem_filter, List.mem_reverse, hkeep _ htrim, List.mem_reverse, hkeep _ htrim]
  exact and_iff_left rfl

/-- A parsed text has a fragment if there is a fragment mark in it. -/
lemma fragment_eq_none_iff {text : String} {u : Url} (h : parse text = .ok u) :
    u.fragment = none ↔ '#' ∉ text.toList := by
  rw [fragment_of_parse h, fragmentOf, ← @mark_mem_clean text.toList]
  split <;> simp [*]

end ResilientChannel.Url
