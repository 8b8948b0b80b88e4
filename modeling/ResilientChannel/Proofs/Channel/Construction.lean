import Mathlib.Data.List.Infix
import ResilientChannel.Channel
import ResilientChannel.Proofs.Endpoints.Origin

/-!
Building a channel.

The page's URL alone decides whether a channel is built. It is looked at three times, for blanks, for the socket
endpoint and for the polling endpoint, and `Refuses` says in one place what comes of it.

* **The page.** Unless a page is blank, the socket origin finds what is wrong with it (`refuses_iff`). That it has
  no host is never found: a page with one of the four schemes has one (`exists_namedHost?`).
* **Both endpoints.** Where there is a socket origin there are both endpoints, so the polling endpoint has no
  error of its own to add (`resolve_eq`). Both end with the socket id (`idQuery_suffix`), and they are never the
  same (`socket_ne_polling`).
* **The channel.** What refuses the options is what is wrong with the page (`build_eq_error_iff`); what is built of
  them is the two endpoints and a transport for one of the two (`of_build_eq_ok`).
* `build_by_page`: when a channel is built, and what it is like.
-/

namespace ResilientChannel

namespace Text

/-- The text without the white space at either end. -/
def trimmed (s : String) : List Char := (s.toList.dropWhile isSpace).rdropWhile isSpace

lemma trimmed_eq_nil_iff {s : String} : trimmed s = [] ↔ isBlank s = true := by
  rw [trimmed, List.rdropWhile_eq_nil_iff, isBlank, List.all_eq_true]
  refine ⟨fun h => ?_, fun h c hc => h c (List.dropWhile_subset _ hc)⟩
  -- the first character kept would be no white space
  have hnone : s.toList.dropWhile isSpace = [] := by
    have hstop := List.head?_dropWhile_not isSpace s.toList
    cases hkept : s.toList.dropWhile isSpace with
    | nil => rfl
    | cons c cs =>
        rw [hkept] at hstop h
        simp [h c List.mem_cons_self] at hstop
  exact List.dropWhile_eq_nil_iff.mp hnone

end Text

namespace Endpoints

open ResilientChannel.Url.Parser

/-! ### The page -/

/-- The schemes of pages that servers can be reached by. -/
def pageSchemes : List String := ["http", "https", "ws", "wss"]

/-- What is wrong with a page: it is blank, it is no URL, its scheme is none of `pageSchemes`, or it has no host.
What comes first counts. -/
inductive Refuses (page : String) : ChannelError → Prop
  | blank (hblank : Text.trimmed page = []) : Refuses page (.endpoint .pageUrlRequired)
  | malformed {fault : Url.Fault} (hblank : Text.trimmed page ≠ []) (hparse : Url.parse page = .error fault) :
      Refuses page (.url fault)
  | scheme {u : Url} (hblank : Text.trimmed page ≠ []) (hparse : Url.parse page = .ok u)
      (hscheme : u.scheme ∉ pageSchemes) : Refuses page (.endpoint (.unsupportedScheme u.scheme page))
  | host {u : Url} (hblank : Text.trimmed page ≠ []) (hparse : Url.parse page = .ok u)
      (hscheme : u.scheme ∈ pageSchemes) (hhost : u.namedHost? = none) :
      Refuses page (.endpoint (.noHost page))

lemma exists_socketScheme? {scheme : String} (h : scheme ∈ pageSchemes) :
    ∃ name, socketScheme? scheme = some name := by
  simp only [pageSchemes, List.mem_cons, List.not_mem_nil, or_false] at h
  rcases h with rfl | rfl | rfl | rfl <;> exact ⟨_, rfl⟩

lemma mem_pageSchemes {scheme name : String} (h : socketScheme? scheme = some name) :
    scheme ∈ pageSchemes := by
  rcases cases_of_socketScheme? h with rfl | rfl | rfl | rfl <;> decide

lemma socketScheme?_eq_none {scheme : String} (h : scheme ∉ pageSchemes) : socketScheme? scheme = none :=
  Option.eq_none_iff_forall_ne_some.mpr fun _ hname => h (mem_pageSchemes hname)

/-- A page with one of the schemes has a host. -/
lemma exists_namedHost? {page : String} {u : Url} (hparse : Url.parse page = .ok u)
    (hscheme : u.scheme ∈ pageSchemes) : ∃ host, u.namedHost? = some host := by
  obtain ⟨name, hname⟩ := exists_socketScheme? hscheme
  obtain ⟨rest, hrest⟩ := Url.scheme?_of_parse hparse
  have hread : readServer u.scheme (authority rest) = .ok u.server := by
    rw [← Url.parse_server hrest (of_socketScheme? hname), hparse]
    rfl
  obtain ⟨⟨host, hhost, hh⟩, -⟩ := isRead_of_readServer hread
  have hhost' : u.host = some host := hhost
  exact ⟨host, by rw [Url.namedHost?, hhost', Option.filter_some, if_pos (decide_eq_true hh.ne_empty)]⟩

/-- That there is no host is never what is wrong. -/
lemma not_refuses_noHost (page : String) : ¬ Refuses page (.endpoint (.noHost page)) := by
  intro h
  cases h with
  | host _ hparse hscheme hhost =>
      obtain ⟨host, hsome⟩ := exists_namedHost? hparse hscheme
      rw [hhost] at hsome
      cases hsome

/-- Of a page that is not blank the socket origin finds all that is wrong with it. -/
lemma refuses_iff {page : String} {e : ChannelError} (hblank : Text.trimmed page ≠ []) :
    Refuses page e ↔ socketOrigin page = .error e := by
  constructor
  · intro h
    cases h with
    | blank h => exact absurd h hblank
    | malformed _ hparse => rw [socketOrigin, hparse]
    | scheme _ hparse hscheme =>
        rw [socketOrigin, hparse]
        simp only [socketScheme?_eq_none hscheme]
    | host _ hparse hscheme hhost =>
        obtain ⟨name, hname⟩ := exists_socketScheme? hscheme
        rw [socketOrigin, hparse]
        simp only [hname, hhost]
  · intro h
    unfold socketOrigin at h
    split at h
    · next hparse =>
        cases h
        exact .malformed hblank hparse
    · next u hparse =>
        split at h
        · next hscheme =>
            cases h
            refine .scheme hblank hparse fun hmem => ?_
            obtain ⟨name, hname⟩ := exists_socketScheme? hmem
            cases hscheme.symm.trans hname
        · next name hname =>
            split at h
            · next hhost =>
                cases h
                exact .host hblank hparse (mem_pageSchemes hname) hhost
            · simp only at h
              split at h <;> cases h

/-- A page is refused for one of the four reasons. -/
lemma exists_refuses_iff {page : String} :
    (∃ e, Refuses page e) ↔
      Text.trimmed page = [] ∨ (∃ fault, Url.parse page = .error fault) ∨
        ∃ u, Url.parse page = .ok u ∧ (u.scheme ∉ pageSchemes ∨ u.namedHost? = none) := by
  constructor
  · rintro ⟨e, h⟩
    cases h with
    | blank hblank => exact .inl hblank
    | malformed _ hparse => exact .inr (.inl ⟨_, hparse⟩)
    | scheme _ hparse hscheme => exact .inr (.inr ⟨_, hparse, .inl hscheme⟩)
    | host _ hparse _ hhost => exact .inr (.inr ⟨_, hparse, .inr hhost⟩)
  · intro h
    by_cases hblank : Text.trimmed page = []
    · exact ⟨_, .blank hblank⟩
    · rcases h with h | ⟨fault, hparse⟩ | ⟨u, hparse, h⟩
      · exact absurd h hblank
      · exact ⟨_, .malformed hblank hparse⟩
      · by_cases hscheme : u.scheme ∈ pageSchemes
        · exact ⟨_, .host hblank hparse hscheme (h.resolve_left (not_not_intro hscheme))⟩
        · exact ⟨_, .scheme hblank hparse hscheme⟩

/-! ### Both endpoints -/

/-- **One validation.** With the socket origin there are both endpoints, and without it there is neither. -/
lemma resolve_eq (page context mount id : String) :
    resolve page context mount id = (socketOrigin page).map fun origin =>
      { socket := origin ++ context ++ mount ++ Parameters.socketPath ++ idQuery id
        polling := baseUrl page ++ mount ++ Parameters.pollingPath ++ idQuery id } := by
  cases horigin : socketOrigin page with
  | error e => rw [resolve, socketEndpoint, horigin]; rfl
  | ok origin =>
      obtain ⟨u, -, hparse, -⟩ := socketOrigin_eq_ok horigin
      rw [resolve, socketEndpoint, horigin, pollingEndpoint, hparse]
      rfl

/-- Wherever sockets have an address, polls have one. -/
lemma exists_pollingEndpoint {page context mount id socket : String}
    (h : socketEndpoint page context mount id = .ok socket) (mount' id' : String) :
    ∃ polling, pollingEndpoint page mount' id' = .ok polling := by
  unfold socketEndpoint at h
  cases horigin : socketOrigin page with
  | error e =>
      rw [horigin] at h
      cases h
  | ok origin =>
      obtain ⟨u, -, hparse, -⟩ := socketOrigin_eq_ok horigin
      exact ⟨_, by rw [pollingEndpoint, hparse]⟩

/-- The two end differently in front of the query, whatever the page, the context and the mount. -/
lemma socket_ne_polling {page context mount id : String} {e : Endpoints}
    (h : resolve page context mount id = .ok e) : e.socket ≠ e.polling := by
  obtain ⟨u, scheme, -, -, hsocket, hpolling⟩ := resolve_eq_ok h
  intro heq
  rw [hsocket, hpolling, ← String.toList_inj] at heq
  simp only [String.toList_append] at heq
  have hlast := congrArg List.getLast? (List.append_cancel_right heq)
  simp [Parameters.socketPath, Parameters.pollingPath] at hlast

lemma idQuery_suffix {page context mount id : String} {e : Endpoints}
    (h : resolve page context mount id = .ok e) :
    (idQuery id).toList <:+ e.socket.toList ∧ (idQuery id).toList <:+ e.polling.toList := by
  obtain ⟨u, scheme, -, -, hsocket, hpolling⟩ := resolve_eq_ok h
  rw [hsocket, hpolling]
  exact ⟨⟨_, String.toList_append.symm⟩, ⟨_, String.toList_append.symm⟩⟩

end Endpoints

/-! ### The channel -/

namespace SelectedTransport

lemma url_select (endpoints : Endpoints) (capabilities : Capabilities) :
    (select endpoints capabilities).url =
      if capabilities.websocket then endpoints.socket else endpoints.polling := by
  rw [select]
  split <;> rfl

/-- The URL tells which transport was selected. -/
lemma url_select_eq_iff {endpoints : Endpoints} (hne : endpoints.socket ≠ endpoints.polling)
    (capabilities : Capabilities) :
    ((select endpoints capabilities).url = endpoints.socket ↔ capabilities.websocket = true) ∧
      ((select endpoints capabilities).url = endpoints.polling ↔ capabilities.websocket = false) := by
  rw [url_select]
  cases capabilities.websocket with
  | true => simp [hne]
  | false => simp [hne.symm]

lemma state_select (endpoints : Endpoints) (capabilities : Capabilities) :
    (select endpoints capabilities).state = .idle := by
  rw [select]
  split <;> rfl

lemma send_of_not_isOpen {t : SelectedTransport} (h : t.state.isOpen = false) (message : String) :
    t.send message = (false, t) := by
  simp [send, h]

end SelectedTransport

namespace Channel

open Endpoints

variable {options : Options} {freshId : String}

lemma build_of_blank (h : Text.trimmed options.pageUrl = []) :
    build options freshId = .error (.endpoint .pageUrlRequired) :=
  if_pos (Text.trimmed_eq_nil_iff.mp h)

lemma build_of_not_blank (h : Text.trimmed options.pageUrl ≠ []) :
    build options freshId =
      (resolve options.pageUrl options.context options.mount (options.socketId.getD freshId)).map
        fun endpoints => { endpoints, transport := .select endpoints options.capabilities } :=
  if_neg (mt Text.trimmed_eq_nil_iff.mpr h)

/-- **What refuses the options** is what is wrong with the page. -/
lemma build_eq_error_iff {e : ChannelError} :
    build options freshId = .error e ↔ Refuses options.pageUrl e := by
  by_cases hblank : Text.trimmed options.pageUrl = []
  · rw [build_of_blank hblank]
    constructor
    · rintro ⟨⟩
      exact .blank hblank
    · intro h
      cases h with
      | blank => rfl
      | malformed h | scheme h | host h => exact absurd hblank h
  · rw [build_of_not_blank hblank, refuses_iff hblank, resolve_eq]
    cases socketOrigin options.pageUrl with
    | error fault =>
        constructor <;>
          · rintro ⟨⟩
            rfl
    | ok origin => exact ⟨nofun, nofun⟩

/-- **What is built**: the endpoints, and a transport that is made for one of them. -/
lemma of_build_eq_ok {c : Channel} (h : build options freshId = .ok c) :
    ∃ endpoints,
      resolve options.pageUrl options.context options.mount (options.socketId.getD freshId) =
          .ok endpoints ∧
        c = { endpoints, transport := .select endpoints options.capabilities } := by
  by_cases hblank : Text.trimmed options.pageUrl = []
  · rw [build_of_blank hblank] at h
    cases h
  · rw [build_of_not_blank hblank] at h
    cases hresolve : resolve options.pageUrl options.context options.mount
        (options.socketId.getD freshId) with
    | error e =>
        rw [hresolve] at h
        cases h
    | ok endpoints =>
        rw [hresolve] at h
        cases h
        exact ⟨endpoints, rfl, rfl⟩

/-- **A channel is built by its page.** Building fails exactly if the page's URL is nothing but white space, is no
URL, has none of the four schemes, or has no host, which never happens by itself; and what it fails with depends
on nothing but the page. A page with a socket endpoint has a polling endpoint. Both endpoints of a channel end
with the same socket id, the given one if there is one; its URL is the socket endpoint if sockets are available
and the polling endpoint if not; and as it is built it is idle, was not started, has a counter of zero and drops
what is sent. -/
theorem build_by_page (options : Options) (freshId : String) :
    ((∃ e, build options freshId = .error e) ↔
        Text.trimmed options.pageUrl = [] ∨ (∃ fault, Url.parse options.pageUrl = .error fault) ∨
          ∃ u, Url.parse options.pageUrl = .ok u ∧
            (u.scheme ∉ ["http", "https", "ws", "wss"] ∨ u.namedHost? = none)) ∧
      (∀ e, build options freshId = .error e ↔ Refuses options.pageUrl e) ∧
      build options freshId ≠ .error (.endpoint (.noHost options.pageUrl)) ∧
      (∀ (others : Options) (otherId : String), others.pageUrl = options.pageUrl →
        ∀ e, build options freshId = .error e ↔ build others otherId = .error e) ∧
      (∀ context mount id socket, socketEndpoint options.pageUrl context mount id = .ok socket →
        ∀ mount' id', ∃ polling, pollingEndpoint options.pageUrl mount' id' = .ok polling) ∧
      ∀ c, build options freshId = .ok c →
        ("?SBSocketId=" ++ options.socketId.getD freshId).toList <:+ c.endpoints.socket.toList ∧
        ("?SBSocketId=" ++ options.socketId.getD freshId).toList <:+ c.endpoints.polling.toList ∧
        (c.url = c.endpoints.socket ↔ options.capabilities.websocket = true) ∧
        (c.url = c.endpoints.polling ↔ options.capabilities.websocket = false) ∧
        (∀ now, c.snapshot now =
          { started := false, transportState := .idle, attempts := 0, reconnectAt := none
            heartbeatAt := none, lastActivity := none, heartbeatLate := false, network := none }) ∧
        ∀ message, c.transport.send message = (false, c.transport) := by
  refine ⟨?_, fun e => build_eq_error_iff, ?_, ?_, ?_, ?_⟩
  · rw [← pageSchemes, ← exists_refuses_iff]
    exact exists_congr fun e => build_eq_error_iff
  · rw [ne_eq, build_eq_error_iff]
    exact not_refuses_noHost _
  · intro others otherId hpage e
    rw [build_eq_error_iff, build_eq_error_iff, hpage]
  · intro context mount id socket hsocket mount' id'
    exact exists_pollingEndpoint hsocket mount' id'
  · intro c hc
    obtain ⟨endpoints, hresolve, rfl⟩ := of_build_eq_ok hc
    obtain ⟨hsocket, hpolling⟩ := idQuery_suffix hresolve
    obtain ⟨hurl, hurl'⟩ :=
      SelectedTransport.url_select_eq_iff (socket_ne_polling hresolve) options.capabilities
    have hidle := SelectedTransport.state_select endpoints options.capabilities
    refine ⟨hsocket, hpolling, hurl, hurl', fun now => ?_, fun message => ?_⟩
    · rw [snapshot, hidle]
      rfl
    · exact SelectedTransport.send_of_not_isOpen (by rw [hidle]; rfl) message

/-- A page on an address of its own, with polls only. -/
example : (build { pageUrl := "http://[::1]/", mount := "/sb", capabilities := { websocket := false } }
    "i").toOption.map url = some "http://[::1]//sb/async?SBSocketId=i" := by
  decide +kernel

end Channel

end ResilientChannel
