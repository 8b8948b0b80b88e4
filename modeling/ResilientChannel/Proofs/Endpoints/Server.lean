import Mathlib.Data.List.DropRight
import ResilientChannel.Endpoints
import ResilientChannel.Proofs.Url.Authority

/-!
The servers that the two endpoints address.

The socket endpoint is built from the page's server as it was parsed. The polling endpoint goes on with the
page's text, so what stands there behind the authority, a fragment without its mark or blanks at the end,
runs into the host or the port.

* **The page's text.** Between the scheme and the rest stand slashes, the authority and a remainder
  (`exists_layout`).
* **The polling endpoint's text.** It has the page's authority, continued by an overhang, for its own
  (`scheme?_polling`).
* `polling_server_iff`: when polls go to the page's server.
* `polled_elsewhere`: pages whose fragment redirects the polls or makes the endpoint no URL at all.
-/

namespace ResilientChannel

/-- The written form of a server under a scheme of one's own choice. -/
def Url.Server.origin (s : Url.Server) (scheme : String) : String :=
  scheme ++ "://" ++ s.host.elim "" Url.Host.text ++ s.port.elim "" fun port => ":" ++ toString port

namespace Endpoints

open ResilientChannel.Url.Parser

/-! ### Surroundings -/

section Clean

variable {front back : List Char}

lemma not_isSkipped {c : Char} (h : isTrimmed c = false) : isSkipped c = false := by
  refine Bool.eq_false_iff.mpr fun hskip => ?_
  have hc : c = '\t' ∨ c = '\n' ∨ c = '\x0d' := by simpa [isSkipped] using hskip
  rcases hc with rfl | rfl | rfl <;> cases h

lemma rdropWhile_append (hback : ∃ c ∈ back, isTrimmed c = false) :
    (front ++ back).rdropWhile isTrimmed = front ++ back.rdropWhile isTrimmed := by
  have hkeep : ((back.reverse).dropWhile isTrimmed).isEmpty = false := by
    obtain ⟨c, hc, htrim⟩ := hback
    rw [List.isEmpty_eq_false_iff, ne_eq, List.dropWhile_eq_nil_iff]
    intro hall
    rw [hall c (List.mem_reverse.mpr hc)] at htrim
    cases htrim
  simp [List.rdropWhile, List.dropWhile_append, hkeep]

lemma clean_append (hfront : ∃ c ∈ front, isTrimmed c = false)
    (hback : ∃ c ∈ back, isTrimmed c = false) :
    clean (front ++ back) =
      (front.dropWhile isTrimmed).filter (!isSkipped ·) ++
        (back.rdropWhile isTrimmed).filter (!isSkipped ·) := by
  have hkeep : (front.dropWhile isTrimmed).isEmpty = false := by
    obtain ⟨c, hc, htrim⟩ := hfront
    rw [List.isEmpty_eq_false_iff, ne_eq, List.dropWhile_eq_nil_iff]
    intro hall
    rw [hall c hc] at htrim
    cases htrim
  have hclean : clean (front ++ back) =
      (((front ++ back).dropWhile isTrimmed).rdropWhile isTrimmed).filter (!isSkipped ·) := rfl
  rw [hclean, List.dropWhile_append, hkeep, if_neg Bool.false_ne_true, rdropWhile_append hback,
    List.filter_append]

end Clean

/-! ### The page's text -/

/-- What is read of the page's URL when text is put behind it: blanks at its end count. -/
def kept (page : String) : List Char :=
  (page.toList.dropWhile isTrimmed).filter (!isSkipped ·)

/-- The authority of the page's URL. -/
def pageAuthority (page : String) : List Char :=
  match scheme? (clean page.toList) with
  | some (_, rest) => authority rest
  | none => []

/-- The page's URL from its authority on, blanks at the end included. -/
def fromAuthority (page : String) : List Char :=
  match scheme? (kept page) with
  | some (_, rest) => rest.dropWhile (isSlash .special)
  | none => []

/-- What stands behind the authority of the page's URL. -/
def remainder (page : String) : List Char := (fromAuthority page).drop (pageAuthority page).length

/-- What comes to stand directly behind the authority when the first fragment mark is taken out. -/
def overhang (page : String) : List Char :=
  ((remainder page).erase '#').takeWhile (!endsAuthority .special ·)

/-- Only blanks are read at the end of the page's URL when text is put behind it. -/
lemma exists_kept (page : String) : ∃ blanks, kept page = clean page.toList ++ blanks := by
  refine ⟨((page.toList.dropWhile isTrimmed).rtakeWhile isTrimmed).filter (!isSkipped ·), ?_⟩
  have hclean : clean page.toList =
      ((page.toList.dropWhile isTrimmed).rdropWhile isTrimmed).filter (!isSkipped ·) := rfl
  rw [hclean, ← List.filter_append, List.rdropWhile_append_rtakeWhile, kept]

section Layout

variable {slashes auth behind : List Char}

lemma dropWhile_layout (hslashes : ∀ c ∈ slashes, isSlash .special c = true)
    (hauth : ∀ c ∈ auth, endsAuthority .special c = false) (hne : auth ≠ []) :
    (slashes ++ (auth ++ behind)).dropWhile (isSlash .special) = auth ++ behind := by
  rw [List.dropWhile_append_of_pos hslashes]
  cases auth with
  | nil => exact absurd rfl hne
  | cons c auth =>
    have hends := hauth c List.mem_cons_self
    simp only [endsAuthority, Bool.or_eq_false_iff] at hends
    rw [List.cons_append, List.dropWhile_cons_of_neg (by simp [hends.1.1])]

/-- Behind the slashes the authority is read up to its first end. -/
lemma authority_layout (hslashes : ∀ c ∈ slashes, isSlash .special c = true)
    (hauth : ∀ c ∈ auth, endsAuthority .special c = false) (hne : auth ≠ []) :
    authority (slashes ++ (auth ++ behind)) =
      auth ++ behind.takeWhile (!endsAuthority .special ·) := by
  rw [authority, dropWhile_layout hslashes hauth hne, List.takeWhile_append_of_pos]
  exact fun c hc => by rw [hauth c hc]; rfl

end Layout

/-- **The layout of the page's URL.** The blanks at its end belong to the remainder. -/
lemma exists_layout {page scheme : String} {rest : List Char}
    (hscheme : scheme? (clean page.toList) = some (scheme, rest)) (hne : authority rest ≠ []) :
    ∃ slashes, (∀ c ∈ slashes, isSlash .special c = true) ∧
      (∀ c ∈ pageAuthority page, endsAuthority .special c = false) ∧
      pageAuthority page = authority rest ∧
      scheme? (kept page) = some (scheme, slashes ++ (pageAuthority page ++ remainder page)) := by
  have hpage : pageAuthority page = authority rest := by rw [pageAuthority, hscheme]
  have hslashes : ∀ c ∈ rest.takeWhile (isSlash .special), isSlash .special c = true := fun c hc =>
    List.mem_takeWhile_imp hc
  have hauth : ∀ c ∈ authority rest, endsAuthority .special c = false := fun c hc => by
    simpa using List.mem_takeWhile_imp hc
  have hrest : rest = rest.takeWhile (isSlash .special) ++ (authority rest ++
      (rest.dropWhile (isSlash .special)).dropWhile (!endsAuthority .special ·)) := by
    rw [authority, List.takeWhile_append_dropWhile, List.takeWhile_append_dropWhile]
  generalize rest.takeWhile (isSlash .special) = slashes at hslashes hrest
  generalize (rest.dropWhile (isSlash .special)).dropWhile (!endsAuthority .special ·) = behind at hrest
  generalize authority rest = auth at hne hpage hauth hrest
  obtain ⟨blanks, hblanks⟩ := exists_kept page
  have hkept : scheme? (kept page) = some (scheme, slashes ++ (auth ++ (behind ++ blanks))) := by
    rw [hblanks, scheme?_append hscheme, hrest, List.append_assoc, List.append_assoc]
  have hbehind : remainder page = behind ++ blanks := by
    rw [remainder, fromAuthority, hkept, hpage]
    simp only [dropWhile_layout hslashes hauth hne, List.drop_left]
  rw [hpage, hbehind]
  exact ⟨slashes, hslashes, hauth, rfl, hkept⟩

/-! ### The polling endpoint's text -/

/-- In front of the scheme stand only blanks, so taking out a fragment mark leaves what is kept as it is. -/
lemma exists_dropWhile_page {page scheme : String} {rest : List Char}
    (hkept : scheme? (kept page) = some (scheme, rest)) :
    ∃ c cs, page.toList.dropWhile isTrimmed = c :: cs ∧ isTrimmed c = false ∧ c ≠ '#' := by
  obtain ⟨name, hname, hall, ⟨first, hfirst, -⟩, -⟩ := scheme?_eq_some_iff.mp hkept
  obtain ⟨back, rfl⟩ : ∃ back, name = first :: back := List.head?_eq_some_iff.mp hfirst
  cases hpage : page.toList.dropWhile isTrimmed with
  | nil => simp [kept, hpage] at hname
  | cons c cs =>
    have htrim : isTrimmed c = false := by
      have hstop := List.head?_dropWhile_not isTrimmed page.toList
      rwa [hpage] at hstop
    refine ⟨c, cs, rfl, htrim, ?_⟩
    rintro rfl
    rw [kept, hpage, List.filter_cons_of_pos (by rw [not_isSkipped htrim]; rfl)] at hname
    have hmark := hall first List.mem_cons_self
    rw [← (List.cons.inj hname).1] at hmark
    exact absurd hmark (by decide)

lemma dropWhile_erase {cs : List Char} {c : Char} {rest : List Char}
    (hcs : cs.dropWhile isTrimmed = c :: rest) (htrim : isTrimmed c = false) (hne : c ≠ '#') :
    (cs.erase '#').dropWhile isTrimmed = (cs.dropWhile isTrimmed).erase '#' := by
  have hblanks : ∀ b ∈ cs.takeWhile isTrimmed, isTrimmed b = true := fun b hb =>
    List.mem_takeWhile_imp hb
  have hmark : '#' ∉ cs.takeWhile isTrimmed := fun hmem => absurd (hblanks _ hmem) (by decide)
  have hsplit : cs = cs.takeWhile isTrimmed ++ cs.dropWhile isTrimmed :=
    List.takeWhile_append_dropWhile.symm
  rw [hsplit, List.erase_append_right _ hmark, List.dropWhile_append_of_pos hblanks,
    List.dropWhile_append_of_pos hblanks, List.dropWhile_idempotent, hcs,
    List.erase_cons_tail (by simpa using hne), List.dropWhile_cons_of_neg (by simp [htrim])]

/-- The text of the polling endpoint as it is read: what is kept of the page's URL, less its first fragment
mark, and then text behind a slash. -/
lemma clean_baseUrl_append {page scheme : String} {rest suffix : List Char}
    (hkept : scheme? (kept page) = some (scheme, rest))
    (hsuffix : ∃ c ∈ suffix, isTrimmed c = false) :
    ∃ tail, clean ((baseUrl page).toList ++ suffix) = (kept page).erase '#' ++ tail ∧
      (((kept page).erase '#').getLast? = some '/' ∨ tail.head? = some '/') := by
  obtain ⟨c, cs, hpage, htrim, hne⟩ := exists_dropWhile_page hkept
  have hdrop := dropWhile_erase hpage htrim hne
  have herase : (kept page).erase '#' =
      ((page.toList.erase '#').dropWhile isTrimmed).filter (!isSkipped ·) := by
    rw [hdrop, kept, List.erase_filter]
  have hbase : ∃ c ∈ page.toList.erase '#', isTrimmed c = false := by
    refine ⟨c, ?_, htrim⟩
    rw [List.mem_erase_of_ne hne]
    exact List.dropWhile_subset _ (hpage ▸ List.mem_cons_self)
  rw [herase]
  by_cases hlast : (page.toList.erase '#').getLast? = some '/'
  · rw [baseUrl, if_pos hlast, String.toList_ofList, clean_append hbase hsuffix]
    refine ⟨_, rfl, .inl ?_⟩
    obtain ⟨front, hfront⟩ := List.getLast?_eq_some_iff.mp hlast
    rw [hfront, List.dropWhile_append]
    split <;> simp [isTrimmed, isSkipped]
  · rw [baseUrl, if_neg hlast, String.toList_ofList, List.append_assoc,
      clean_append hbase ⟨'/', by simp, by decide⟩, rdropWhile_append hsuffix]
    refine ⟨_, rfl, .inr ?_⟩
    simp [isSkipped]

lemma takeWhile_append_of_slash {behind tail : List Char}
    (hslash : '/' ∈ behind ∨ tail.head? = some '/') :
    (behind ++ tail).takeWhile (!endsAuthority .special ·) =
      behind.takeWhile (!endsAuthority .special ·) := by
  have hends : (!endsAuthority .special '/') = false := by decide
  rw [List.takeWhile_append]
  split
  · next hlength =>
    have hall : behind.takeWhile (!endsAuthority .special ·) = behind :=
      (List.takeWhile_prefix _).eq_of_length hlength
    rcases hslash with hmem | hhead
    · rw [← hall] at hmem
      exact absurd (List.mem_takeWhile_imp hmem) (by decide)
    · obtain ⟨rest, rfl⟩ := List.head?_eq_some_iff.mp hhead
      rw [hall, List.takeWhile_cons_of_neg (by rw [hends]; exact Bool.false_ne_true), List.append_nil]
  · rfl

/-- An authority does not end with a slash. -/
lemma slash_mem_of_getLast? {front auth behind : List Char}
    (hauth : ∀ c ∈ auth, endsAuthority .special c = false) (hne : auth ≠ [])
    (hlast : (front ++ (auth ++ behind)).getLast? = some '/') : '/' ∈ behind := by
  rcases behind.eq_nil_or_concat with rfl | ⟨init, c, rfl⟩
  · rw [List.append_nil, List.getLast?_append_of_ne_nil _ hne] at hlast
    exact absurd (hauth _ (List.mem_of_getLast? hlast)) (by decide)
  · have hc : c = '/' := by simpa [List.getLast?_append] using hlast
    simp [hc]

/-- **The authority of the polling endpoint** is the page's, continued by the overhang. -/
lemma scheme?_polling {page scheme : String} {rest suffix : List Char}
    (hscheme : scheme? (clean page.toList) = some (scheme, rest)) (hne : authority rest ≠ [])
    (hsuffix : ∃ c ∈ suffix, isTrimmed c = false) :
    ∃ polled, scheme? (clean ((baseUrl page).toList ++ suffix)) = some (scheme, polled) ∧
      authority polled = pageAuthority page ++ overhang page := by
  obtain ⟨slashes, hslashes, hauth, hpage, hkept⟩ := exists_layout hscheme hne
  rw [← hpage] at hne
  obtain ⟨tail, hclean, hstop⟩ := clean_baseUrl_append hkept hsuffix
  have hmark : '#' ∉ slashes := fun hmem => absurd (hslashes _ hmem) (by decide)
  have hmark' : '#' ∉ pageAuthority page := fun hmem => absurd (hauth _ hmem) (by decide)
  have herase : scheme? ((kept page).erase '#') =
      some (scheme, slashes ++ (pageAuthority page ++ (remainder page).erase '#')) := by
    rw [scheme?_erase hkept, List.erase_append_right _ hmark, List.erase_append_right _ hmark']
  refine ⟨slashes ++ (pageAuthority page ++ ((remainder page).erase '#' ++ tail)), ?_, ?_⟩
  · rw [hclean, scheme?_append herase, List.append_assoc, List.append_assoc]
  · -- The overhang ends within what is left of the page's URL, or at the slash that is put behind it.
    rw [authority_layout hslashes hauth hne, overhang, takeWhile_append_of_slash]
    refine hstop.imp_left fun hlast => ?_
    obtain ⟨name, hname, -⟩ := scheme?_eq_some_iff.mp herase
    rw [hname, List.append_cons, ← List.append_assoc] at hlast
    exact slash_mem_of_getLast? hauth hne hlast

/-! ### Both endpoints -/

/-- The socket endpoint begins with the page's server, under the socket scheme that goes with the page's. -/
lemma socketOrigin_eq_ok {page origin : String} (h : socketOrigin page = .ok origin) :
    ∃ u scheme, Url.parse page = .ok u ∧ socketScheme? u.scheme = some scheme ∧
      origin = u.server.origin scheme := by
  unfold socketOrigin at h
  split at h
  · cases h
  · next u hu =>
    split at h
    · cases h
    · next scheme hscheme =>
      refine ⟨u, scheme, hu, hscheme, ?_⟩
      split at h
      · cases h
      · next host hnamed =>
        have hhost : u.host = some host := (Option.filter_eq_some_iff.mp hnamed).1
        simp only at h
        split at h
        · next port hport =>
          cases h
          simp [Url.Server.origin, Url.server, hhost, hport, String.append_assoc]
        · next hport =>
          cases h
          simp [Url.Server.origin, Url.server, hhost, hport]

lemma resolve_eq_ok {page context mount id : String} {e : Endpoints}
    (h : resolve page context mount id = .ok e) :
    ∃ u scheme, Url.parse page = .ok u ∧ socketScheme? u.scheme = some scheme ∧
      e.socket = u.server.origin scheme ++ context ++ mount ++ Parameters.socketPath ++ idQuery id ∧
      e.polling = baseUrl page ++ mount ++ Parameters.pollingPath ++ idQuery id := by
  unfold resolve at h
  split at h
  · cases h
  · next socket hsocket =>
    split at h
    · cases h
    · next polling hpolling =>
      cases h
      unfold socketEndpoint at hsocket
      cases horigin : socketOrigin page with
      | error fault =>
        rw [horigin] at hsocket
        cases hsocket
      | ok origin =>
        obtain ⟨u, scheme, hu, hscheme, rfl⟩ := socketOrigin_eq_ok horigin
        rw [horigin] at hsocket
        rw [pollingEndpoint, hu] at hpolling
        exact ⟨u, scheme, hu, hscheme, (Except.ok.inj hsocket).symm, (Except.ok.inj hpolling).symm⟩

lemma cases_of_socketScheme? {scheme name : String} (h : socketScheme? scheme = some name) :
    scheme = "http" ∨ scheme = "ws" ∨ scheme = "https" ∨ scheme = "wss" := by
  by_contra hnot
  simp only [not_or] at hnot
  simp [socketScheme?, hnot] at h

/-- Pages with a socket scheme have a special one. -/
lemma of_socketScheme? {scheme name : String} (h : socketScheme? scheme = some name) :
    Url.SchemeKind.of scheme = .special := by
  rcases cases_of_socketScheme? h with rfl | rfl | rfl | rfl <;> rfl

/-- **Where the polls go.** The socket endpoint is on the page's server always. The polling endpoint is on the
server that the page's authority names when the overhang is put behind it, so the two agree exactly if this
leaves the server as it is; they do whenever what stands behind the authority, less the first fragment mark,
is nothing or begins with a slash, a question mark or another fragment mark. Blanks in front of the page's URL,
the context, the mount and the socket id have no say in it. -/
theorem polling_server_iff {page context mount id : String} {e : Endpoints}
    (h : resolve page context mount id = .ok e) :
    ∃ u scheme, Url.parse page = .ok u ∧ socketScheme? u.scheme = some scheme ∧
      e.socket = u.server.origin scheme ++ context ++ mount ++ Parameters.socketPath ++ idQuery id ∧
      readServer u.scheme (pageAuthority page) = .ok u.server ∧
      ((Url.parse e.polling).map Url.server = .ok u.server ↔
        readServer u.scheme (pageAuthority page ++ overhang page) = .ok u.server) ∧
      ((∀ c ∈ ((remainder page).erase '#').head?, endsAuthority .special c = true) →
        (Url.parse e.polling).map Url.server = .ok u.server) := by
  obtain ⟨u, socketScheme, hu, hsocket, hsock, hpoll⟩ := resolve_eq_ok h
  have hspecial := of_socketScheme? hsocket
  obtain ⟨rest, hscheme⟩ := Url.scheme?_of_parse hu
  have hpage : pageAuthority page = authority rest := by rw [pageAuthority, hscheme]
  have hread : readServer u.scheme (pageAuthority page) = .ok u.server := by
    rw [hpage, ← Url.parse_server hscheme hspecial, hu]
    rfl
  have hne : authority rest ≠ [] := by
    intro hnil
    rw [hpage, hnil, readServer_nil] at hread
    cases hread
  have hsuffix : ∃ c ∈ (mount ++ Parameters.pollingPath ++ idQuery id).toList, isTrimmed c = false :=
    ⟨'=', by simp [idQuery], by decide⟩
  obtain ⟨polled, hpolled, hauth⟩ := scheme?_polling hscheme hne hsuffix
  have hserver : (Url.parse e.polling).map Url.server =
      readServer u.scheme (pageAuthority page ++ overhang page) := by
    rw [← hauth]
    refine Url.parse_server ?_ hspecial
    rw [hpoll]
    simpa [String.append_assoc] using hpolled
  refine ⟨u, socketScheme, hu, hsocket, hsock, hread, by rw [hserver], fun hhead => ?_⟩
  have hover : overhang page = [] := by
    rw [overhang]
    cases hrem : (remainder page).erase '#' with
    | nil => rfl
    | cons c cs => 
      have hc := hhead c (by rw [hrem]; rfl)
      rw [List.takeWhile_cons_of_neg (by simp [hc])]
  rw [hserver, hover, List.append_nil, hread]

lemma eq_ok_of_toOption {α : Type} {x : Except ChannelError α} {a : α} (h : x.toOption = some a) :
    x = .ok a := by
  cases x with
  | error e => cases h
  | ok b => rw [Option.some.inj h]

/-- A page with a path is polled on its own server. -/
theorem polled_at_home :
    ∃ u, Url.parse " http://[::1]:8080/app#top" = .ok u ∧
      (Url.parse " http://[::1]:8080/apptop//async?SBSocketId=i").map Url.server = .ok u.server := by
  have hresolve : resolve " http://[::1]:8080/app#top" "" "" "i" =
      .ok { socket := "ws://[::1]:8080/websocket?SBSocketId=i"
            polling := " http://[::1]:8080/apptop//async?SBSocketId=i" } :=
    eq_ok_of_toOption (by decide +kernel)
  have hpath : ((remainder " http://[::1]:8080/app#top").erase '#').head? = some '/' := by
    decide +kernel
  obtain ⟨u, -, hu, -, -, -, -, hsame⟩ := polling_server_iff hresolve
  refine ⟨u, hu, hsame fun c hc => ?_⟩
  rw [hpath] at hc
  rw [← Option.some.inj hc]
  rfl

/-- Without a path the fragment runs into the authority: polls go to the host that it names, or to an address
that is no URL. -/
theorem polled_elsewhere :
    ((resolve "http://[::1]#@[::2]" "" "" "i").toOption =
        some { socket := "ws://[::1]/websocket?SBSocketId=i"
               polling := "http://[::1]@[::2]//async?SBSocketId=i" } ∧
      ((Url.parse "http://[::1]#@[::2]").map Url.server).toOption =
        some { scheme := "http", host := some (.ipv6 ⟨[0, 0, 0, 0, 0, 0, 0, 1], rfl⟩), port := none } ∧
      ((Url.parse "http://[::1]@[::2]//async?SBSocketId=i").map Url.server).toOption =
        some { scheme := "http", host := some (.ipv6 ⟨[0, 0, 0, 0, 0, 0, 0, 2], rfl⟩), port := none }) ∧
    ((resolve "http://[::1]:81#x" "" "" "i").toOption =
        some { socket := "ws://[::1]:81/websocket?SBSocketId=i"
               polling := "http://[::1]:81x//async?SBSocketId=i" } ∧
      (Url.parse "http://[::1]:81x//async?SBSocketId=i").toOption = none) := by
  decide +kernel

end Endpoints

end ResilientChannel
