import ResilientChannel.Proofs.Url.Authority
import ResilientChannel.Proofs.Url.Domain.Characters
import ResilientChannel.Proofs.Url.Host.Ipv4
import ResilientChannel.Proofs.Url.Host.Ipv6

/-!
Hosts are read as they are written.

* `IsRead` is what reading says of a host under a special scheme: it is an address, or a name that is not
  empty, holds no forbidden character and does not end in a number (`isRead_of_parse`).
* `parse_text`: the written form of such a host is read as the host again. For addresses and for plain names
  this is proved; for other names, such as those with labels in Punycode, it is taken as a hypothesis.
* `hostLength_text`: the written form is all of what an authority gives for its host, so no character of it
  ends the host and none is taken for user information.
-/

namespace ResilientChannel.Url.Host

/-- What reading says of a host under a special scheme. -/
def IsRead : Host → Prop
  | empty => False
  | domain name => name.toList ≠ [] ∧ (∀ c ∈ name.toList, Domain.isForbidden c = false) ∧
      Ipv4.endsInNumber name.toList = false
  | ipv4 _ => True
  | ipv6 address => ∀ p ∈ address.pieces, p < 65536

lemma IsRead.ne_empty {h : Host} (hread : h.IsRead) : h ≠ empty := by
  rintro rfl
  exact hread

lemma isRead_of_bracketed {cs : List Char} {h : Host} (hread : bracketed cs = .ok h) : h.IsRead := by
  unfold bracketed at hread
  split at hread
  · obtain ⟨address, haddress, rfl⟩ := exists_of_map_eq_ok hread
    exact Ipv6.piece_lt_of_parse haddress
  · cases hread

lemma isRead_of_parse {cs : List Char} {h : Host} (hread : parse cs = .ok h) : h.IsRead := by
  unfold parse at hread
  split at hread
  · exact isRead_of_bracketed hread
  · split at hread
    · cases hread
    · cases hread
    · next name hne hname =>
      obtain ⟨decoded, -, hascii⟩ := Option.bind_eq_some_iff.mp hname
      split at hread
      · obtain ⟨address, -, rfl⟩ := exists_of_map_eq_ok hread
        trivial
      · next hnumber =>
        cases hread
        rw [Bool.not_eq_true] at hnumber
        simpa only [IsRead, String.toList_ofList] using
          ⟨hne, Domain.not_isForbidden hascii, hnumber⟩

/-! ### Reading a written host -/

/-- A name without forbidden characters is read as what it is within ASCII. -/
lemma parse_of_toAscii? {cs name : List Char} (hascii : Domain.toAscii? cs = some name) (hne : name ≠ [])
    (hcs : cs ≠ []) (hall : cs.all (!Domain.isForbidden ·) = true) :
    parse cs =
      if Ipv4.endsInNumber name then (Ipv4.parse name).map ipv4
      else .ok (domain (String.ofList name)) := by
  have hallowed : ∀ c ∈ cs, Domain.isForbidden c = false := by simpa using hall
  have hpercent : '%' ∉ cs := fun hmem => absurd (hallowed '%' hmem) (by decide)
  obtain ⟨c, cs, rfl⟩ := List.exists_cons_of_ne_nil hcs
  obtain ⟨d, name, rfl⟩ := List.exists_cons_of_ne_nil hne
  have hbracket : c ≠ '[' := fun heq => absurd (hallowed c List.mem_cons_self) (by rw [heq]; decide)
  simp [parse, hbracket, Percent.decode?_of_not_mem hpercent, hascii]

lemma parse_of_isPlain {name : List Char} (hplain : Domain.isPlain name = true) (hne : name ≠ []) :
    parse name =
      if Ipv4.endsInNumber name then (Ipv4.parse name).map ipv4
      else .ok (domain (String.ofList name)) :=
  parse_of_toAscii? (Domain.toAscii?_of_isPlain hplain) hne hne
    (by simpa using Domain.not_isForbidden (Domain.toAscii?_of_isPlain hplain))

lemma isPlain_ipv4 (address : Ipv4) : Domain.isPlain address.text.toList = true := by
  have hchar := fun c (hc : c ∈ address.text.toList) => address.digitChar_of_mem_text hc
  refine Bool.and_eq_true_iff.mpr ⟨List.all_eq_true.mpr fun c hc => ?_,
    List.all_eq_true.mpr fun label hlabel => ?_⟩
  · rcases hchar c hc with rfl | ⟨d, hd, rfl⟩
    · decide
    · exact (by decide : ∀ d < 10, ((Nat.digitChar d).toNat < 0x80 &&
        (Nat.digitChar d).toLower = Nat.digitChar d && !Domain.isForbidden (Nat.digitChar d)) = true) d hd
  · rw [Bool.not_eq_true', ← Bool.not_eq_true, List.isPrefixOf_iff_prefix]
    rintro ⟨rest, rfl⟩
    rcases hchar 'x' (Text.mem_of_mem_splitOn hlabel (by simp [Domain.acePrefix])) with hx | ⟨d, hd, hx⟩
    · cases hx
    · exact (by decide : ∀ d < 10, 'x' ≠ Nat.digitChar d) d hd hx

/-- **Reading a written host** gives the host. -/
theorem parse_text {h : Host} (hread : h.IsRead)
    (hname : ∀ name, h = domain name → Domain.isPlain name.toList = false → parse name.toList = .ok h) :
    parse h.text.toList = .ok h := by
  cases h with
  | empty => exact absurd hread id
  | domain name =>
    obtain ⟨hne, -, hnumber⟩ := hread
    cases hplain : Domain.isPlain name.toList with
    | false => exact hname name rfl hplain
    | true =>
      rw [text, parse_of_isPlain hplain hne, hnumber, if_neg Bool.false_ne_true, String.ofList_toList]
  | ipv4 address =>
    rw [text, parse_of_isPlain (isPlain_ipv4 address) address.text_ne_nil, address.endsInNumber_text,
      if_pos rfl, address.parse_text]
    rfl
  | ipv6 address =>
    have htext : (ipv6 address).text.toList = '[' :: (address.text.toList ++ [']']) := by simp [text]
    rw [htext, parse, bracketed, List.getLast?_concat, List.dropLast_concat]
    simp only [address.parse_text hread]
    rfl

/-! ### The characters of a host -/

/-- Neither blank nor a character that means something in an authority. -/
def isInner (c : Char) : Bool := 0x20 < c.toNat && c ∉ ['/', '\\', '?', '#', '@', '[', ']']

lemma isInner_of_allowed {c : Char} (hc : Domain.isForbidden c = false) :
    isInner c = true ∧ c ≠ ':' := by
  simp [Domain.isForbidden] at hc
  simp [isInner, hc]

/-- The written form stands between brackets, or it holds neither brackets nor colons. -/
lemma text_cases {h : Host} (hread : h.IsRead) :
    (h.text.toList ≠ [] ∧ ∀ c ∈ h.text.toList, isInner c = true ∧ c ≠ ':') ∨
      ∃ cs, h.text.toList = '[' :: (cs ++ [']']) ∧ ∀ c ∈ cs, isInner c = true := by
  cases h with
  | empty => exact absurd hread id
  | domain name => exact .inl ⟨hread.1, fun c hc => isInner_of_allowed (hread.2.1 c hc)⟩
  | ipv4 address =>
    refine .inl ⟨address.text_ne_nil, fun c hc => ?_⟩
    rcases address.digitChar_of_mem_text hc with rfl | ⟨d, hd, rfl⟩
    · decide
    · exact (by decide : ∀ d < 10, isInner (Nat.digitChar d) = true ∧ Nat.digitChar d ≠ ':') d hd
  | ipv6 address =>
    refine .inr ⟨address.text.toList, by simp [text], fun c hc => ?_⟩
    rcases Ipv6.digitChar_of_mem_text hc with rfl | ⟨d, hd, rfl⟩
    · decide
    · exact (by decide : ∀ d < 16, isInner (Nat.digitChar d) = true) d hd

lemma text_ne_nil {h : Host} (hread : h.IsRead) : h.text.toList ≠ [] := by
  rcases text_cases hread with ⟨hne, -⟩ | ⟨cs, htext, -⟩
  · exact hne
  · rw [htext]
    exact List.cons_ne_nil _ _

/-! ### The host of an authority -/

lemma not_endsAuthority {c : Char} (hc : isInner c = true) : Parser.endsAuthority .special c = false := by
  simp [isInner] at hc
  simp [Parser.endsAuthority, Parser.isSlash, hc]

lemma hostLength_inner {cs : List Char} {inBrackets : Bool}
    (hcs : ∀ c ∈ cs, isInner c = true ∧ (c = ':' → inBrackets = true)) (rest : List Char) :
    Parser.hostLength .special inBrackets (cs ++ rest) =
      Parser.hostLength .special inBrackets rest + cs.length := by
  induction cs with
  | nil => rfl
  | cons c cs ih =>
    obtain ⟨⟨hc, hcolon⟩, hcs⟩ := List.forall_mem_cons.mp hcs
    have hstop : (Parser.endsAuthority .special c || (c = ':' && !inBrackets)) = false := by
      rw [not_endsAuthority hc, Bool.false_or]
      simpa using hcolon
    have hbrackets : c ≠ '[' ∧ c ≠ ']' := by
      constructor <;> (rintro rfl; exact absurd hc (by decide))
    rw [List.cons_append, Parser.hostLength, hstop, if_neg hbrackets.1, if_neg hbrackets.2, ih hcs]
    rfl

/-- The written form is all of what is taken for the host, up to the end or a colon. -/
lemma hostLength_text {h : Host} (hread : h.IsRead) {rest : List Char} (hrest : ∀ c ∈ rest.head?, c = ':') :
    Parser.hostLength .special false (h.text.toList ++ rest) = h.text.toList.length := by
  have hstop : Parser.hostLength .special false rest = 0 := by
    cases rest with
    | nil => rfl
    | cons c rest => rw [hrest c rfl]; rfl
  rcases text_cases hread with ⟨-, hcs⟩ | ⟨cs, htext, hcs⟩
  · rw [hostLength_inner (fun c hc => ⟨(hcs c hc).1, fun heq => absurd heq (hcs c hc).2⟩), hstop,
      Nat.zero_add]
  · have hopen : Parser.hostLength .special false ('[' :: (cs ++ ']' :: rest)) =
        Parser.hostLength .special true (cs ++ ']' :: rest) + 1 := rfl
    have hclose : Parser.hostLength .special true (']' :: rest) =
        Parser.hostLength .special false rest + 1 := rfl
    rw [htext, List.cons_append, List.append_assoc, List.singleton_append, hopen,
      hostLength_inner (fun c hc => ⟨hcs c hc, fun _ => rfl⟩), hclose, hstop]
    simp [Nat.add_comm]

end ResilientChannel.Url.Host
