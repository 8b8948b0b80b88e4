import Mathlib.Data.List.TakeDrop
import Mathlib.Data.List.TakeWhile
import ResilientChannel.Url.Parser

/-!
What decides the server of a URL.

The authority of a URL with a special scheme ends at the first slash, backslash, question mark or fragment
mark. Its text alone decides what host and what port are read; user information, host and port are
read in turn, and none of the three looks beyond it.

* `credentials_cases`, `host_append`, `port_append`: one statement for each of the three.
* `readServer_append`: the server that is read does not depend on what stands behind the authority.
* `parse_server`: the server of a parsed text is the one that its authority names.
-/

namespace ResilientChannel.Url

/-- Where a URL leads. -/
structure Server where
  scheme : String
  host : Option Host
  port : Option Nat
deriving DecidableEq, Repr

/-- Scheme, host and port of a URL. -/
def server (u : Url) : Server := { scheme := u.scheme, host := u.host, port := u.port }

lemma exists_of_map_eq_ok {α β : Type} {x : Except Fault α} {f : α → β} {b : β} (h : x.map f = .ok b) :
    ∃ a, x = .ok a ∧ f a = b := by
  cases x with
  | error fault => cases h
  | ok a => exact ⟨a, rfl, Except.ok.inj h⟩

namespace Parser

/-- The text of the authority, for the text behind a special scheme and its colon. -/
def authority (cs : List Char) : List Char :=
  (cs.dropWhile (isSlash .special)).takeWhile (!endsAuthority .special ·)

/-- The server of the URL that begins with this authority, under a special scheme. -/
def readServer (scheme : String) (cs : List Char) : Except Fault Server :=
  (withAuthority scheme .special cs).map server

/-! ### The three parts of an authority -/

section Append

variable {cs tail : List Char}

lemma span_append (hcs : ∀ c ∈ cs, endsAuthority .special c = false)
    (htail : ∀ c ∈ tail.head?, endsAuthority .special c = true) :
    (cs ++ tail).span (!endsAuthority .special ·) = (cs, tail) := by
  have hpass : ∀ c ∈ cs, (!endsAuthority .special c) = true := fun c hc => by rw [hcs c hc]; rfl
  rw [List.span_eq_takeWhile_dropWhile, List.takeWhile_append_of_pos hpass,
    List.dropWhile_append_of_pos hpass]
  cases tail with
  | nil => simp
  | cons c tail => simp [htail c rfl]

/-- **User information.** An authority is a lone at sign, or reading its user information leaves a part of
it, whatever stands behind. -/
lemma credentials_cases (hcs : ∀ c ∈ cs, endsAuthority .special c = false) :
    cs = ['@'] ∨
      ∃ info rest, (∀ c ∈ rest, endsAuthority .special c = false) ∧
        ∀ tail : List Char, (∀ c ∈ tail.head?, endsAuthority .special c = true) →
          credentials .special (cs ++ tail) = .ok (info, rest ++ tail) := by
  rcases hsplit : cs.reverse.span (fun c => decide (c ≠ '@')) with ⟨back, front⟩
  have hwhole : cs = front.reverse ++ back.reverse := by
    have h := congrArg (fun p => (p.1 ++ p.2).reverse) hsplit
    simpa [List.span_eq_takeWhile_dropWhile] using h
  have hback : ∀ c ∈ back.reverse, endsAuthority .special c = false := fun c hc =>
    hcs c (hwhole ▸ List.mem_append_right _ hc)
  by_cases hat : ∃ name, front = '@' :: name
  · obtain ⟨name, rfl⟩ := hat
    by_cases hlone : (name.isEmpty && back.isEmpty) = true
    · left
      rw [Bool.and_eq_true, List.isEmpty_iff, List.isEmpty_iff] at hlone
      rw [hwhole, hlone.1, hlone.2]
      rfl
    · right
      refine ⟨if name.isEmpty then none else some (userInfo name.reverse), back.reverse, hback, ?_⟩
      intro tail htail
      rw [Bool.not_eq_true] at hlone
      simp only [credentials, span_append hcs htail, hsplit, hlone, Bool.false_and, Bool.false_eq_true,
        if_false]
  · right
    refine ⟨none, cs, hcs, fun tail htail => ?_⟩
    simp only [credentials, span_append hcs htail, hsplit]
    split
    · next heq => exact absurd ⟨_, (Prod.mk.inj heq).2⟩ hat
    · rfl

lemma hostLength_le (cs : List Char) :
    ∀ inBrackets, hostLength .special inBrackets cs ≤ cs.length := by
  induction cs with
  | nil => intro inBrackets; exact Nat.le_refl _
  | cons c cs ih =>
    intro inBrackets
    rw [hostLength]
    split
    · exact Nat.zero_le _
    · exact Nat.succ_le_succ (ih _)

lemma hostLength_append (htail : ∀ c ∈ tail.head?, endsAuthority .special c = true) (cs : List Char) :
    ∀ inBrackets, hostLength .special inBrackets (cs ++ tail) = hostLength .special inBrackets cs := by
  induction cs with
  | nil =>
    intro inBrackets
    cases tail with
    | nil => rfl
    | cons c tail =>
      simp [hostLength, htail c rfl]
  | cons c cs ih =>
    intro inBrackets
    rw [List.cons_append, hostLength, hostLength, ih]

lemma ne_colon_of_ends {c : Char} (h : endsAuthority .special c = true) : c ≠ ':' := by
  rintro rfl
  exact absurd h (by decide)

/-- **Host.** It is read from the authority, and what is left of the authority comes before the rest. -/
lemma host_append (htail : ∀ c ∈ tail.head?, endsAuthority .special c = true) (cs : List Char) :
    host .special (cs ++ tail) = (host .special cs).map fun (h, rest) => (h, rest ++ tail) := by
  have hle := hostLength_le cs false
  have hcolon : ∀ rest : List Char, ((rest ++ tail).head? = some ':') = (rest.head? = some ':') := by
    intro rest
    cases rest with
    | cons c rest => rfl
    | nil =>
      refine propext ⟨fun h => ?_, fun h => by cases h⟩
      exact absurd rfl (ne_colon_of_ends (htail ':' h))
  simp only [host, hostLength_append htail, List.take_append_of_le_length hle,
    List.drop_append_of_le_length hle, hcolon]
  split
  · rfl
  · split <;> rfl

/-- What ends an authority ends a port. -/
lemma ends_port {c : Char} (h : endsAuthority .special c = true) :
    c.isDigit = false ∧ c ∈ ['/', '\\', '?', '#'] := by
  have hc : c = '/' ∨ c = '\\' ∨ c = '?' ∨ c = '#' := by
    simpa [endsAuthority, isSlash, SchemeKind.isSpecial, or_assoc] using h
  rcases hc with rfl | rfl | rfl | rfl <;> exact ⟨by decide, by decide⟩

lemma portDigits_append (htail : ∀ c ∈ tail.head?, endsAuthority .special c = true) (cs : List Char) :
    ∀ read, portDigits read (cs ++ tail) =
      (portDigits read cs).map fun (n, rest) => (n, rest ++ tail) := by
  induction cs with
  | nil =>
    intro read
    cases tail with
    | nil => rfl
    | cons c tail =>
      obtain ⟨hdigit, hmem⟩ := ends_port (htail c rfl)
      simp [portDigits, hdigit, hmem, Except.map]
  | cons c cs ih =>
    intro read
    simp only [List.cons_append, portDigits]
    split
    · split
      · rfl
      · exact ih _
    · split <;> rfl

/-- **Port.** Its digits run to the end of the authority. -/
lemma port_append (htail : ∀ c ∈ tail.head?, endsAuthority .special c = true) (scheme : String)
    (cs : List Char) :
    port scheme (cs ++ tail) = (port scheme cs).map fun (p, rest) => (p, rest ++ tail) := by
  cases cs with
  | nil =>
    cases tail with
    | nil => rfl
    | cons c tail => simp [port, ne_colon_of_ends (htail c rfl), Except.map]
  | cons c cs =>
    by_cases hc : c = ':'
    · subst hc
      simp only [List.cons_append, port, portDigits_append htail]
      cases portDigits none cs <;> rfl
    · simp [port, hc, Except.map]

end Append

/-! ### The server -/

/-- What is read behind the user information and decides the server. -/
def readPlace (scheme : String) (cs : List Char) : Except Fault (Host × Option Nat) :=
  match host .special cs with
  | .error fault => .error fault
  | .ok (h, cs) => (port scheme cs).map fun (p, _) => (h, p)

lemma readServer_eq (scheme : String) (cs : List Char) :
    readServer scheme cs =
      match credentials .special cs with
      | .error fault => .error fault
      | .ok (info, rest) =>
        match readPlace scheme rest with
        | .error fault => .error fault
        | .ok (h, p) =>
          if h = .empty && ((info.getD {}).username ≠ "" || (info.getD {}).password.isSome) then
            .error .emptyHost
          else .ok { scheme, host := some h, port := p } := by
  unfold readServer withAuthority readPlace
  rcases credentials .special cs with fault | ⟨info, rest⟩
  · rfl
  · simp only
    rcases host .special rest with fault | ⟨h, rest⟩
    · rfl
    · simp only
      rcases port scheme rest with fault | ⟨p, rest⟩
      · rfl
      · exact apply_ite (Except.map server) _ _ _

lemma readPlace_append {tail : List Char} (htail : ∀ c ∈ tail.head?, endsAuthority .special c = true)
    (scheme : String) (cs : List Char) : readPlace scheme (cs ++ tail) = readPlace scheme cs := by
  unfold readPlace
  rw [host_append htail]
  rcases host .special cs with fault | ⟨h, rest⟩
  · rfl
  · simp only [Except.map, port_append htail]
    rcases port scheme rest with fault | ⟨p, rest⟩ <;> rfl

/-- A lone at sign leaves no host. -/
lemma readServer_at {tail : List Char} (htail : ∀ c ∈ tail.head?, endsAuthority .special c = true)
    (scheme : String) : readServer scheme ('@' :: tail) = .error .emptyHost := by
  have hat : ∀ c ∈ ['@'], endsAuthority .special c = false := by
    intro c hc
    rw [List.mem_singleton.mp hc]
    rfl
  have hspan : ('@' :: tail).span (!endsAuthority .special ·) = (['@'], tail) := span_append hat htail
  rw [readServer_eq, credentials, hspan]
  cases tail with
  | nil => rfl
  | cons c tail => rfl

/-- **The authority decides.** What stands behind it changes neither the server that is read nor the fault
that is found. -/
lemma readServer_append {cs tail : List Char} (hcs : ∀ c ∈ cs, endsAuthority .special c = false)
    (htail : ∀ c ∈ tail.head?, endsAuthority .special c = true) (scheme : String) :
    readServer scheme (cs ++ tail) = readServer scheme cs := by
  rcases credentials_cases hcs with rfl | ⟨info, rest, hrest, hread⟩
  · exact (readServer_at htail scheme).trans (readServer_at (by simp) scheme).symm
  · have hbare : credentials .special cs = .ok (info, rest) := by
      simpa using hread [] (by simp)
    rw [readServer_eq, readServer_eq, hread tail htail, hbare]
    simp only [readPlace_append htail]

lemma readServer_authority (scheme : String) (cs : List Char) :
    readServer scheme (cs.dropWhile (isSlash .special)) = readServer scheme (authority cs) := by
  have hcut : readServer scheme (authority cs ++
      (cs.dropWhile (isSlash .special)).dropWhile (!endsAuthority .special ·)) =
        readServer scheme (authority cs) := by
    refine readServer_append (fun c hc => ?_) (fun c hc => ?_) scheme
    · simpa using List.mem_takeWhile_imp hc
    · have hstop := List.head?_dropWhile_not (!endsAuthority .special ·)
        (cs.dropWhile (isSlash .special))
      rw [Option.mem_def.mp hc] at hstop
      simpa using hstop
  rwa [authority, List.takeWhile_append_dropWhile] at hcut

lemma readServer_nil (scheme : String) : readServer scheme [] = .error .emptyHost := rfl

/-! ### The scheme -/

/-- What a scheme looks like in front of its colon. -/
lemma scheme?_eq_some_iff {cs rest : List Char} {scheme : String} :
    scheme? cs = some (scheme, rest) ↔
      ∃ name, cs = name ++ ':' :: rest ∧ (∀ c ∈ name, isSchemeChar c = true) ∧
        (∃ c ∈ name.head?, c.isAlpha = true) ∧ scheme = String.ofList (name.map Char.toLower) := by
  constructor
  · intro h
    have hwhole := (List.takeWhile_append_dropWhile (p := isSchemeChar) (l := cs)).symm
    have hall : ∀ c ∈ cs.takeWhile isSchemeChar, isSchemeChar c = true := fun c hc =>
      List.mem_takeWhile_imp hc
    rw [scheme?, List.span_eq_takeWhile_dropWhile] at h
    split at h
    · next first back after heq =>
      obtain ⟨hname, hafter⟩ := Prod.mk.inj heq
      rw [hname] at hwhole hall
      rw [hafter] at hwhole
      split at h
      · next halpha =>
        obtain ⟨rfl, rfl⟩ := Prod.mk.inj (Option.some.inj h)
        exact ⟨first :: back, hwhole, hall, ⟨first, rfl, halpha⟩, rfl⟩
      · cases h
    · cases h
  · rintro ⟨name, rfl, hall, ⟨c, hc, halpha⟩, rfl⟩
    obtain ⟨first, back, rfl⟩ : ∃ first back, name = first :: back := by
      cases name with
      | nil => cases hc
      | cons first back => exact ⟨first, back, rfl⟩
    obtain rfl : first = c := Option.some.inj hc
    have hspan : (first :: back ++ ':' :: rest).span isSchemeChar = (first :: back, ':' :: rest) := by
      rw [List.span_eq_takeWhile_dropWhile, List.takeWhile_append_of_pos hall,
        List.dropWhile_append_of_pos hall]
      have hcolon : isSchemeChar ':' = false := by decide
      simp [hcolon]
    rw [scheme?, hspan]
    simp only [halpha, if_true]

lemma scheme?_append {cs rest : List Char} {scheme : String} (h : scheme? cs = some (scheme, rest))
    (tail : List Char) : scheme? (cs ++ tail) = some (scheme, rest ++ tail) := by
  obtain ⟨name, rfl, hname⟩ := scheme?_eq_some_iff.mp h
  exact scheme?_eq_some_iff.mpr ⟨name, by simp, hname⟩

/-- A character that no scheme may hold is taken out behind it. -/
lemma scheme?_erase {cs rest : List Char} {scheme : String} (h : scheme? cs = some (scheme, rest)) :
    scheme? (cs.erase '#') = some (scheme, rest.erase '#') := by
  obtain ⟨name, rfl, hall, hname⟩ := scheme?_eq_some_iff.mp h
  have hmark : '#' ∉ name := fun hmem => absurd (hall '#' hmem) (by decide)
  refine scheme?_eq_some_iff.mpr ⟨name, ?_, hall, hname⟩
  rw [List.erase_append_right _ hmark, List.erase_cons_tail (by decide)]

lemma withAuthority_scheme {scheme : String} {kind : SchemeKind} {cs : List Char} {u : Url}
    (h : withAuthority scheme kind cs = .ok u) : u.scheme = scheme := by
  unfold withAuthority at h
  split at h
  · cases h
  · split at h
    · cases h
    · split at h
      · cases h
      · simp only at h
        split at h
        · cases h
        · cases h
          rfl

lemma other_scheme {scheme : String} {cs : List Char} {u : Url} (h : other scheme cs = .ok u) :
    u.scheme = scheme := by
  unfold other at h
  split at h
  · exact withAuthority_scheme h
  · cases h
    rfl

lemma file_scheme {cs : List Char} {u : Url} (h : file cs = .ok u) : u.scheme = "file" := by
  unfold file at h
  simp only at h
  split at h
  · cases h
  · cases h
    rfl

end Parser

open ResilientChannel.Url.Parser

/-- The scheme of a parsed text is the one in front of its first colon. -/
lemma scheme?_of_parse {text : String} {u : Url} (h : parse text = .ok u) :
    ∃ rest, scheme? (clean text.toList) = some (u.scheme, rest) := by
  unfold parse at h
  split at h
  · cases h
  · next scheme rest hscheme =>
    refine ⟨rest, ?_⟩
    split at h
    · next hkind =>
      have hfile : scheme = "file" := by
        unfold SchemeKind.of at hkind
        split at hkind
        · assumption
        · split at hkind <;> cases hkind
      rw [hscheme, file_scheme h, hfile]
    · rw [hscheme, withAuthority_scheme h]
    · rw [hscheme, other_scheme h]

/-- **The server of a parsed text** is the one its authority names. -/
lemma parse_server {text scheme : String} {rest : List Char}
    (hscheme : scheme? (clean text.toList) = some (scheme, rest))
    (hspecial : SchemeKind.of scheme = .special) :
    (parse text).map server = readServer scheme (authority rest) := by
  simp only [parse, hscheme, hspecial]
  exact readServer_authority _ rest

end ResilientChannel.Url
