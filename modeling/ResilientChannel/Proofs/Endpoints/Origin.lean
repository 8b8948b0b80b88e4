import ResilientChannel.Proofs.Endpoints.Server
import ResilientChannel.Proofs.Url.Domain.Signs
import ResilientChannel.Proofs.Url.Host.Text
import ResilientChannel.Proofs.Url.Port

/-!
The origin of the socket endpoint.

* **What a page gives.** The host and the port of a page with a socket scheme are as reading leaves them
  (`isRead_of_readServer`).
* **What an origin gives.** Behind the scheme and the slashes the written host and port are read again, and
  nothing but them (`withAuthority_place`, `parse_origin`).
* `origin_faithful`: the origin leads where the page leads, under the socket scheme that goes with the page's,
  and it is its own origin. `origin_of_full_page` is a page whose name has a label in Punycode.
-/

namespace ResilientChannel

namespace Url.Parser

/-! ### What a page gives -/

lemma isRead_of_host {cs rest : List Char} {h : Host} (hhost : host .special cs = .ok (h, rest)) :
    h.IsRead := by
  have hspecial : SchemeKind.isSpecial .special = true := rfl
  simp only [host, hspecial, if_true] at hhost
  split at hhost
  · cases hhost
  · next hparsed =>
    split at hhost
    · cases hhost
    · cases hhost
      split at hparsed
      · cases hparsed
      · exact Host.isRead_of_parse hparsed

lemma isRead_of_readPlace {scheme : String} {cs : List Char} {h : Host} {p : Option Nat}
    (hplace : readPlace scheme cs = .ok (h, p)) : h.IsRead ∧ IsPort scheme p := by
  unfold readPlace at hplace
  split at hplace
  · cases hplace
  · next _ rest hhost =>
    obtain ⟨⟨q, behind⟩, hport, heq⟩ := exists_of_map_eq_ok hplace
    cases heq
    exact ⟨isRead_of_host hhost, isPort_of_port hport⟩

/-- Host and port of a text with a special scheme are as reading leaves them. -/
lemma isRead_of_readServer {scheme : String} {cs : List Char} {s : Server}
    (hread : readServer scheme cs = .ok s) :
    (∃ h, s.host = some h ∧ h.IsRead) ∧ IsPort scheme s.port := by
  rw [readServer_eq] at hread
  split at hread
  · cases hread
  · split at hread
    · cases hread
    · next h p hplace =>
      split at hread
      · cases hread
      · cases hread
        obtain ⟨hh, hp⟩ := isRead_of_readPlace hplace
        exact ⟨⟨h, rfl, hh⟩, hp⟩

/-! ### What an origin gives -/

section Place

variable {scheme : String} {h : Host} {p : Option Nat}

/-- The text of an authority with a host and perhaps a port. -/
def placeText (h : Host) (p : Option Nat) : List Char := h.text.toList ++ portText p

/-- The character is not blank, does not end an authority and does not part user information from the host. -/
structure IsBare (c : Char) : Prop where
  kept : isTrimmed c = false
  inside : endsAuthority .special c = false
  ne_at : c ≠ '@'

lemma isBare_of_isInner {c : Char} (hc : Host.isInner c = true) : IsBare c := by
  refine ⟨?_, Host.not_endsAuthority hc, by rintro rfl; exact absurd hc (by decide)⟩
  have hlow := (Bool.and_eq_true_iff.mp hc).1
  rw [decide_eq_true_eq] at hlow
  exact decide_eq_false (Nat.not_le.mpr hlow)

lemma isBare_of_mem_placeText (hh : h.IsRead) {c : Char} (hc : c ∈ placeText h p) : IsBare c := by
  rcases List.mem_append.mp hc with hc | hc
  · rcases Host.text_cases hh with ⟨-, hcs⟩ | ⟨cs, htext, hcs⟩
    · exact isBare_of_isInner (hcs c hc).1
    · rw [htext, List.mem_cons, List.mem_append, List.mem_singleton] at hc
      rcases hc with rfl | hc | rfl
      · exact ⟨by decide, by decide, by decide⟩
      · exact isBare_of_isInner (hcs c hc)
      · exact ⟨by decide, by decide, by decide⟩
  · cases p with
    | none => cases hc
    | some p =>
      rcases List.mem_cons.mp hc with rfl | hc
      · exact ⟨by decide, by decide, by decide⟩
      · obtain ⟨d, hd, rfl⟩ :=
          Ipv4.exists_digitChar (Nat.isDigit_of_mem_toDigits (by decide) (by decide) hc)
        exact isBare_of_isInner ((by decide : ∀ d < 10, Host.isInner (Nat.digitChar d) = true) d hd)

lemma placeText_ne_nil (hh : h.IsRead) : placeText h p ≠ [] :=
  List.append_ne_nil_of_left_ne_nil (Host.text_ne_nil hh) _

lemma credentials_place (hh : h.IsRead) :
    credentials .special (placeText h p) = .ok (none, placeText h p) := by
  have hspan : (placeText h p ++ []).span (!endsAuthority .special ·) = (placeText h p, []) :=
    span_append (fun c hc => (isBare_of_mem_placeText hh hc).inside) (by simp)
  have hat : ∀ c ∈ (placeText h p).reverse, decide (c ≠ '@') = true := fun c hc =>
    decide_eq_true (isBare_of_mem_placeText hh (List.mem_reverse.mp hc)).ne_at
  rw [List.append_nil] at hspan
  rw [credentials, hspan]
  simp only [List.span_eq_takeWhile_dropWhile, List.dropWhile_eq_nil_iff.mpr hat]

/-- A host is read up to where it ends in the authority. -/
lemma host_of_length {cs rest : List Char} (hlength : hostLength .special false (cs ++ rest) = cs.length)
    (hparse : Host.parse cs = .ok h) (hcs : cs ≠ []) (hne : h ≠ .empty) :
    host .special (cs ++ rest) = .ok (h, rest) := by
  have hspecial : SchemeKind.isSpecial .special = true := rfl
  simp [host, hlength, hspecial, hcs, hparse, hne]

lemma host_place (hh : h.IsRead) (hparse : Host.parse h.text.toList = .ok h) :
    host .special (placeText h p) = .ok (h, portText p) := by
  refine host_of_length (Host.hostLength_text hh fun c hc => ?_) hparse (Host.text_ne_nil hh) hh.ne_empty
  cases p with
  | none => cases hc
  | some p => exact (Option.some.inj hc).symm

/-- **Reading a host and a port** gives the two, and no other part of a URL. -/
lemma withAuthority_place (hh : h.IsRead) (hparse : Host.parse h.text.toList = .ok h)
    (hp : IsPort scheme p) :
    withAuthority scheme .special (placeText h p) =
      .ok { scheme, host := some h, port := p, path := .segments [""] } := by
  rw [withAuthority, credentials_place hh]
  simp only [host_place hh hparse, port_text hp]
  simp [pathAfterAuthority, finish, tail, SchemeKind.isSpecial]

end Place

end Url.Parser

namespace Endpoints

open ResilientChannel.Url.Parser

/-- The socket scheme is the secure one exactly for pages with a secure scheme, and it has the same default port
as the page's scheme. -/
lemma socketScheme?_cases {scheme name : String} (h : socketScheme? scheme = some name) :
    (name = "wss" ∧ scheme ∈ ["https", "wss"] ∨ name = "ws" ∧ scheme ∉ ["https", "wss"]) ∧
      socketScheme? name = some name ∧
      ∃ port, Url.defaultPort? scheme = some port ∧ Url.defaultPort? name = some port := by
  rcases cases_of_socketScheme? h with rfl | rfl | rfl | rfl <;> cases h
  · exact ⟨by decide, rfl, 80, rfl, rfl⟩
  · exact ⟨by decide, rfl, 80, rfl, rfl⟩
  · exact ⟨by decide, rfl, 443, rfl, rfl⟩
  · exact ⟨by decide, rfl, 443, rfl, rfl⟩

lemma clean_of_bare {cs : List Char} (hcs : ∀ c ∈ cs, isTrimmed c = false) : clean cs = cs := by
  have hkeep : ∀ l : List Char, (∀ c ∈ l, isTrimmed c = false) → l.dropWhile isTrimmed = l := by
    intro l hl
    cases l with
    | nil => rfl
    | cons c l => rw [List.dropWhile_cons_of_neg (by simp [hl c List.mem_cons_self])]
  have hreverse : ∀ c ∈ cs.reverse, isTrimmed c = false := fun c hc => hcs c (List.mem_reverse.mp hc)
  rw [clean, hkeep cs hcs, hkeep cs.reverse hreverse, List.reverse_reverse, List.filter_eq_self]
  intro c hc
  rw [not_isSkipped (hcs c hc)]
  rfl

lemma toList_origin {s : Url.Server} {h : Url.Host} (hhost : s.host = some h) (scheme : String) :
    (s.origin scheme).toList = scheme.toList ++ ':' :: '/' :: '/' :: placeText h s.port := by
  have hport : (s.port.elim "" fun p => ":" ++ toString p).toList = portText s.port := by
    cases s.port with
    | none => rfl
    | some p => simp [portText]
  rw [Url.Server.origin, hhost, String.toList_append, hport]
  simp [placeText]

/-- An origin is read as the server that it is written from. -/
lemma parse_origin {s : Url.Server} {scheme : String} {h : Url.Host} (hscheme : scheme = "ws" ∨ scheme = "wss")
    (hhost : s.host = some h) (hh : h.IsRead) (hparse : Url.Host.parse h.text.toList = .ok h)
    (hport : IsPort scheme s.port) :
    Url.parse (s.origin scheme) =
      .ok { scheme, host := s.host, port := s.port, path := .segments [""] } := by
  have hbare : ∀ c ∈ (s.origin scheme).toList, isTrimmed c = false := by
    rw [toList_origin hhost]
    simp only [List.forall_mem_append, List.forall_mem_cons]
    refine ⟨?_, by decide, by decide, by decide, fun c hc => (isBare_of_mem_placeText hh hc).kept⟩
    rcases hscheme with rfl | rfl <;> simp [isTrimmed]
  have hread : scheme? (clean (s.origin scheme).toList) = some (scheme, '/' :: '/' :: placeText h s.port) := by
    rw [clean_of_bare hbare, toList_origin hhost]
    refine scheme?_eq_some_iff.mpr ⟨scheme.toList, rfl, ?_⟩
    rcases hscheme with rfl | rfl
    · exact ⟨by simp [isSchemeChar], ⟨'w', rfl, rfl⟩, rfl⟩
    · exact ⟨by simp [isSchemeChar], ⟨'w', rfl, rfl⟩, rfl⟩
  have hspecial : Url.SchemeKind.of scheme = .special := by
    rcases hscheme with rfl | rfl <;> rfl
  have hslashes : (['/', '/'] ++ (placeText h s.port ++ [])).dropWhile (isSlash .special) =
      placeText h s.port ++ [] :=
    dropWhile_layout (by simp [isSlash]) (fun c hc => (isBare_of_mem_placeText hh hc).inside) (placeText_ne_nil hh)
  rw [List.append_nil, List.cons_append, List.singleton_append] at hslashes
  rw [Url.parse, hread]
  simp only [hspecial, hslashes, withAuthority_place hh hparse hport, hhost]

lemma socketOrigin_of_parse {page scheme : String} {u : Url} {h : Url.Host} (hu : Url.parse page = .ok u)
    (hscheme : socketScheme? u.scheme = some scheme) (hhost : u.host = some h) (hne : h ≠ .empty) :
    socketOrigin page = .ok (u.server.origin scheme) := by
  have hnamed : u.namedHost? = some h := by
    rw [Url.namedHost?, hhost, Option.filter_some, if_pos (decide_eq_true hne)]
  rw [socketOrigin, hu]
  simp only [hscheme, hnamed]
  cases hport : u.port with
  | none => simp [Url.Server.origin, Url.server, hhost, hport]
  | some port => simp [Url.Server.origin, Url.server, hhost, hport, String.append_assoc]

/-- **The origin of the socket endpoint** leads where the page leads. Its scheme is `wss` for secure pages and
`ws` for all others; it has the page's host and the page's port, be it written or the default of the scheme;
and it has neither user information nor path, query or fragment. Taken for a page, it is its own origin. That
the name of a host is read as it is written is taken as given only for names that are not plain. -/
theorem origin_faithful {page origin : String} (h : socketOrigin page = .ok origin)
    (hname : ∀ u name, Url.parse page = .ok u → u.host = some (.domain name) →
      Url.Domain.isPlain name.toList = false → Url.Host.parse name.toList = .ok (.domain name)) :
    ∃ u v host port, Url.parse page = .ok u ∧ Url.parse origin = .ok v ∧
      ("wss://".toList <+: origin.toList ↔ u.scheme ∈ ["https", "wss"]) ∧
      ("ws://".toList <+: origin.toList ↔ u.scheme ∉ ["https", "wss"]) ∧
      (u.host = some host ∧ v.host = some host) ∧
      (u.effectivePort? = some port ∧ v.effectivePort? = some port) ∧
      (v.username = "" ∧ v.password = none) ∧ v.path.text = "/" ∧ v.query = none ∧ v.fragment = none ∧
      socketOrigin origin = .ok origin := by
  obtain ⟨u, scheme, hu, hsocket, rfl⟩ := socketOrigin_eq_ok h
  obtain ⟨hcases, hsame, default, hdefault, hdefault'⟩ := socketScheme?_cases hsocket
  obtain ⟨rest, hrest⟩ := Url.scheme?_of_parse hu
  have hread : readServer u.scheme (authority rest) = .ok u.server := by
    rw [← Url.parse_server hrest (of_socketScheme? hsocket), hu]
    rfl
  obtain ⟨⟨host, hhost, hh⟩, hport⟩ := isRead_of_readServer hread
  have hparse : Url.Host.parse host.text.toList = .ok host := by
    refine Url.Host.parse_text hh fun name hdomain hplain => ?_
    rw [hdomain] at hhost ⊢
    exact hname u name hu hhost hplain
  have hport' : IsPort scheme u.server.port := fun p hp => by
    rw [hdefault', ← hdefault]
    exact hport p hp
  have hv := parse_origin (hcases.imp And.left And.left).symm hhost hh hparse hport'
  have heffective : ∀ s : String, Url.defaultPort? s = some default →
      (u.port <|> Url.defaultPort? s) = some (u.port.getD default) := fun s hs => by
    rw [hs]
    cases u.port <;> rfl
  have hagain := socketOrigin_of_parse hv hsame hhost hh.ne_empty
  refine ⟨u, _, host, u.port.getD default, hu, hv, ?_, ?_, ⟨hhost, hhost⟩,
    ⟨heffective _ hdefault, heffective _ hdefault'⟩, ⟨rfl, rfl⟩, rfl, rfl, rfl, hagain⟩
  · rw [toList_origin hhost]
    rcases hcases with ⟨rfl, hmem⟩ | ⟨rfl, hmem⟩ <;> simp [hmem]
  · rw [toList_origin hhost]
    rcases hcases with ⟨rfl, hmem⟩ | ⟨rfl, hmem⟩ <;> simp [hmem]

/-- A name with a sign in Punycode is read in upper case as in lower case. -/
lemma parse_sign_name {cs : List Char}
    (hmapped : Url.Domain.mapped? cs = Url.Domain.mapped? "xn--gba.example".toList) (hcs : cs ≠ [])
    (hall : cs.all (!Url.Domain.isForbidden ·) = true) :
    Url.Host.parse cs = .ok (.domain "xn--gba.example") := by
  have hascii : Url.Domain.toAscii? "xn--gba.example".toList = some "xn--gba.example".toList :=
    Url.Domain.toAscii?_of_signs (by decide +kernel) (by decide +kernel)
  exact Url.Host.parse_of_toAscii? ((Url.Domain.toAscii?_congr hmapped).trans hascii) (by decide +kernel)
    hcs hall

/-- A page with credentials, a name with a sign in Punycode, a port of its own, path, query and fragment. -/
lemma parse_full_page : Url.parse "https://me:pw@XN--gba.Example:8443/a?q#f" = .ok
    { scheme := "https", username := "me", password := some "pw", host := some (.domain "xn--gba.example")
      port := some 8443, path := .segments ["a"], query := some "q", fragment := some "f" } := by
  have hscheme : scheme? (clean "https://me:pw@XN--gba.Example:8443/a?q#f".toList) =
      some ("https", "//me:pw@XN--gba.Example:8443/a?q#f".toList) := by decide +kernel
  have hkind : Url.SchemeKind.of "https" = .special := by decide +kernel
  have hslashes : "//me:pw@XN--gba.Example:8443/a?q#f".toList.dropWhile (isSlash .special) =
      "me:pw@XN--gba.Example:8443/a?q#f".toList := by decide +kernel
  have hinfo : credentials .special "me:pw@XN--gba.Example:8443/a?q#f".toList =
      .ok (some { username := "me", password := some "pw" },
        "XN--gba.Example".toList ++ ":8443/a?q#f".toList) := by decide +kernel
  have hhost : host .special ("XN--gba.Example".toList ++ ":8443/a?q#f".toList) =
      .ok (.domain "xn--gba.example", ":8443/a?q#f".toList) := by
    refine host_of_length (by decide +kernel) ?_ (by decide +kernel) nofun
    exact parse_sign_name (by decide +kernel) (by decide +kernel) (by decide +kernel)
  have hport : port "https" ":8443/a?q#f".toList = .ok (some 8443, "/a?q#f".toList) := by decide +kernel
  rw [Url.parse, hscheme]
  simp only [hkind, hslashes, withAuthority, hinfo, hhost, hport]
  decide +kernel

/-- The origin of this page has its host and port only, and is its own origin. -/
theorem origin_of_full_page :
    Url.Domain.isPlain "xn--gba.example".toList = false ∧
      socketOrigin "https://me:pw@XN--gba.Example:8443/a?q#f" = .ok "wss://xn--gba.example:8443" ∧
      ∃ u v, Url.parse "https://me:pw@XN--gba.Example:8443/a?q#f" = .ok u ∧
        Url.parse "wss://xn--gba.example:8443" = .ok v ∧
        u.host = some (.domain "xn--gba.example") ∧ v.host = some (.domain "xn--gba.example") ∧
        v.effectivePort? = u.effectivePort? ∧ (v.username = "" ∧ v.password = none) ∧
        v.path.text = "/" ∧ v.query = none ∧ v.fragment = none ∧
        socketOrigin "wss://xn--gba.example:8443" = .ok "wss://xn--gba.example:8443" := by
  have horigin := socketOrigin_of_parse parse_full_page rfl rfl (by decide)
  obtain ⟨u, v, host, port, hu, hv, -, -, ⟨huhost, hvhost⟩, ⟨huport, hvport⟩, hinfo, hpath, hquery,
      hfragment, hagain⟩ :=
    origin_faithful horigin fun u name hu hdomain _ => by
      cases parse_full_page.symm.trans hu
      cases hdomain
      exact parse_sign_name rfl (by decide +kernel) (by decide +kernel)
  cases parse_full_page.symm.trans hu
  cases huhost
  exact ⟨by decide +kernel, horigin, _, v, parse_full_page, hv, rfl, hvhost, hvport.trans huport.symm, hinfo,
    hpath, hquery, hfragment, hagain⟩

end Endpoints

end ResilientChannel
