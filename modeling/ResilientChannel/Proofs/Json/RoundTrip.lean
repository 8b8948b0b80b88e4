import Mathlib.Data.List.Basic
import ResilientChannel.Json.Parser
import ResilientChannel.Json.Printer

/-!
Documents are read back as they are written.

* **Strings.** The escapes that are written for a character read as the code point of this character
  (`codePoints?_escape`), and the characters of a text are no halves of surrogate pairs (`joinPairs?_text`), so
  a string is read back whatever it holds, and so is one that makes no text (`stringBody?_quote`).
* **Values.** The written form of a value begins with neither a blank nor the end of an array
  (`exists_written_eq_cons`), so every reader takes the branch that it is meant to take. Twice the length of the
  written form is depth enough, by induction on the document (`value?_written`).
* `parse?_print`: a document without numbers is read back from its text.
-/

namespace ResilientChannel.Json

/-! ### Strings -/

/-- A character that is neither escaped nor a quote stands for itself. -/
lemma codePoints?_plain {c : Char} (hquote : c ≠ '"') (hslash : c ≠ '\\') (hcontrol : ¬ c.toNat < 0x20)
    (rest : List Char) :
    codePoints? (c :: rest) = (codePoints? rest).map fun (ns, rest) => (c.toNat :: ns, rest) := by
  rw [codePoints?.eq_def]
  split
  · contradiction
  next h => exact absurd (List.cons.inj h).1 hquote
  next h => exact absurd (List.cons.inj h).1 hslash
  next h => exact absurd (List.cons.inj h).1 hslash
  next h =>
    obtain ⟨rfl, rfl⟩ := List.cons.inj h
    rw [if_neg (by simp [hslash, hcontrol])]

/-- Four digits of a number below 32 in base sixteen. -/
lemma hexNumber?_control {n : Nat} (hn : n < 0x20) :
    hexNumber? ['0', '0', Hex.lower (n / 16), Hex.lower (n % 16)] = some n := by
  have hhigh : Hex.value? (Hex.lower (n / 16)) = some (n / 16) := Hex.value?_lower (by omega)
  have hlow : Hex.value? (Hex.lower (n % 16)) = some (n % 16) := Hex.value?_lower (by omega)
  have hzero : Hex.value? '0' = some 0 := by decide
  simp only [hexNumber?, List.foldlM_cons, List.foldlM_nil, hhigh, hlow, hzero, Option.map_some,
    Option.bind_eq_bind, Option.bind_some, Option.pure_def]
  congr 1
  omega

/-- The letter that is written for a control character stands for it. -/
lemma unescape?_controlLetter? {c letter : Char} (h : controlLetter? c = some letter) :
    unescape? letter = some c ∧ letter ≠ 'u' := by
  rw [controlLetter?.eq_def] at h
  split at h <;> cases h <;> decide

/-- What stands behind a backslash, unless it is the mark of a number, is read as a letter. -/
lemma codePoints?_letter {letter c : Char} (h : unescape? letter = some c) (hmark : letter ≠ 'u')
    (rest : List Char) :
    codePoints? ('\\' :: letter :: rest) =
      (codePoints? rest).map fun (ns, rest) => (c.toNat :: ns, rest) := by
  rw [codePoints?.eq_def]
  split
  next h => simp at h
  next h => simp at h
  next h => simp_all
  next h =>
    simp only [List.cons.injEq, true_and] at h
    obtain ⟨rfl, rfl⟩ := h
    rw [‹unescape? _ = _›, Option.bind_some]
  next hne h =>
    obtain ⟨hslash, hrest⟩ := List.cons.inj h
    exact (hne letter rest hslash.symm hrest.symm).elim

/-- **A character is read as its code point**, however it is written. -/
lemma codePoints?_escape (c : Char) (rest : List Char) :
    codePoints? (escape c ++ rest) =
      (codePoints? rest).map fun (ns, rest) => (c.toNat :: ns, rest) := by
  rw [escape]
  split
  next h =>
    simp only [Bool.or_eq_true, decide_eq_true_eq] at h
    rcases h with rfl | rfl
    · exact codePoints?_letter rfl (by decide) rest
    · exact codePoints?_letter rfl (by decide) rest
  next h =>
    simp only [Bool.or_eq_true, decide_eq_true_eq, not_or] at h
    split
    next hcontrol =>
      cases hletter : controlLetter? c with
      | some letter =>
          obtain ⟨hread, hmark⟩ := unescape?_controlLetter? hletter
          exact codePoints?_letter hread hmark rest
      | none =>
          show codePoints? ('\\' :: 'u' :: '0' :: '0' :: _ :: _ :: rest) = _
          rw [codePoints?, hexNumber?_control hcontrol, Option.bind_some]
    next hcontrol => exact codePoints?_plain h.1 h.2 hcontrol rest

/-- A text is read up to its closing quote. -/
lemma codePoints?_text (cs rest : List Char) :
    codePoints? (cs.flatMap escape ++ '"' :: rest) = some (cs.map Char.toNat, rest) := by
  induction cs with
  | nil => rfl
  | cons c cs ih => rw [List.flatMap_cons, List.append_assoc, codePoints?_escape, ih]; rfl

/-- A character is no half of a surrogate pair. -/
lemma not_half (c : Char) : isHighHalf c.toNat = false ∧ isLowHalf c.toNat = false := by
  have hvalid := c.valid
  simp only [UInt32.isValidChar, Nat.isValidChar] at hvalid
  have hval : c.toNat = c.val.toNat := rfl
  simp only [isHighHalf, isLowHalf, Bool.and_eq_false_iff, decide_eq_false_iff_not]
  omega

/-- The code points of a text make the text. -/
lemma joinPairs?_text (cs : List Char) : joinPairs? (cs.map Char.toNat) = some cs := by
  induction cs with
  | nil => rfl
  | cons c cs ih =>
      obtain ⟨hhigh, hlow⟩ := not_half c
      rw [List.map_cons, joinPairs?.eq_def]
      simp [hhigh, hlow, ih, Char.ofNat_toNat]

/-- **A string is read back**, also one that makes no text. -/
lemma stringBody?_quote (text : Option String) :
    ∃ body, quote text = '"' :: body ∧ ∀ rest, stringBody? (body ++ rest) = some (text, rest) := by
  cases text with
  | none => exact ⟨_, rfl, fun _ => rfl⟩
  | some s =>
      refine ⟨s.toList.flatMap escape ++ ['"'], rfl, fun rest => ?_⟩
      rw [List.append_assoc, List.singleton_append, stringBody?, codePoints?_text, Option.map_some]
      dsimp only
      rw [joinPairs?_text, Option.map_some, String.ofList_toList]

/-! ### Values -/

mutual

/-- No number occurs in the document. -/
def Numberless : Json → Prop
  | number _ => False
  | array elements => NumberlessElements elements
  | object members => NumberlessMembers members
  | null | bool _ | string _ => True

/-- No number occurs in the elements. -/
def NumberlessElements : List Json → Prop
  | [] => True
  | j :: js => Numberless j ∧ NumberlessElements js

/-- No number occurs in the values of the members. -/
def NumberlessMembers : List (Option String × Json) → Prop
  | [] => True
  | (_, j) :: ms => Numberless j ∧ NumberlessMembers ms

end

/-- A value begins with neither a blank nor the end of an array. -/
lemma exists_written_eq_cons {j : Json} (h : j.Numberless) :
    ∃ c cs, j.written = c :: cs ∧ isBlank c = false ∧ c ≠ ']' := by
  cases j with
  | null => exact ⟨_, _, rfl, rfl, by decide⟩
  | bool value => cases value <;> exact ⟨_, _, rfl, rfl, by decide⟩
  | number literal => exact h.elim
  | string text => exact ⟨_, _, rfl, rfl, by decide⟩
  | array elements => exact ⟨_, _, rfl, rfl, by decide⟩
  | object members => exact ⟨_, _, rfl, rfl, by decide⟩

lemma skipBlanks_cons {c : Char} (h : isBlank c = false) (cs : List Char) :
    skipBlanks (c :: cs) = c :: cs := by
  simp [skipBlanks, h]

/-- The written forms of several values, the first one in front. -/
lemma separate_cons (form : List Char) (forms : List (List Char)) :
    separate (form :: forms) = form ++ (if forms = [] then [] else ',' :: separate forms) := by
  cases forms with
  | nil => simp [separate]
  | cons next forms => simp [separate, List.intercalate]

/-- Behind its opening quote a string is read. -/
lemma value?_string (depth : Nat) (cs : List Char) :
    value? (depth + 1) ('"' :: cs) =
      (stringBody? cs).map fun (text, rest) => (string text, rest) := by
  rw [value?]
  rfl

/-- Behind the bracket of an array that does not end at once come its elements. -/
lemma value?_array {c : Char} (hblank : isBlank c = false) (hend : c ≠ ']') (depth : Nat)
    (cs : List Char) :
    value? (depth + 1) ('[' :: c :: cs) =
      (elements? depth (c :: cs)).map fun (js, rest) => (array js, rest) := by
  have hbracket : skipBlanks ('[' :: c :: cs) = '[' :: c :: cs := skipBlanks_cons (by decide) _
  rw [value?, hbracket]
  simp [skipBlanks_cons hblank, hend]

/-- Behind the brace of an object that does not end at once come its members. -/
lemma value?_object (depth : Nat) (cs : List Char) :
    value? (depth + 1) ('\x7b' :: '"' :: cs) =
      (members? depth ('"' :: cs)).map fun (ms, rest) => (object ms, rest) := by
  rw [value?]
  rfl

/-- The element in front is the last one. -/
lemma elements?_last {depth : Nat} {cs rest : List Char} {j : Json}
    (hvalue : value? depth cs = some (j, ']' :: rest)) :
    elements? (depth + 1) cs = some ([j], rest) := by
  rw [elements?, hvalue]
  rfl

/-- More elements follow on the one in front. -/
lemma elements?_more {depth : Nat} {cs rest : List Char} {j : Json}
    (hvalue : value? depth cs = some (j, ',' :: rest)) :
    elements? (depth + 1) cs =
      (elements? depth rest).map fun (js, rest) => (j :: js, rest) := by
  rw [elements?, hvalue]
  rfl

section Members

variable {depth : Nat} {cs value rest : List Char} {key : Option String} {j : Json}

/-- The member in front is the last one. -/
lemma members?_last (hkey : stringBody? cs = some (key, ':' :: value))
    (hvalue : value? depth value = some (j, '\x7d' :: rest)) :
    members? (depth + 1) ('"' :: cs) = some ([(key, j)], rest) := by
  rw [members?]
  show (stringBody? cs).bind _ = _
  rw [hkey]
  show (value? depth value).bind _ = _
  rw [hvalue]
  rfl

/-- More members follow on the one in front. -/
lemma members?_more (hkey : stringBody? cs = some (key, ':' :: value))
    (hvalue : value? depth value = some (j, ',' :: rest)) :
    members? (depth + 1) ('"' :: cs) =
      (members? depth rest).map fun (ms, rest) => ((key, j) :: ms, rest) := by
  rw [members?]
  show (stringBody? cs).bind _ = _
  rw [hkey]
  show (value? depth value).bind _ = _
  rw [hvalue]
  rfl

end Members

mutual

/-- **A value is read back**, whatever stands behind it. -/
lemma value?_written : ∀ {j : Json}, j.Numberless → ∀ {depth : Nat}, 2 * j.written.length ≤ depth →
    ∀ rest, value? depth (j.written ++ rest) = some (j, rest)
  | null, _, depth + 1, _, rest => by
      rw [value?]
      rfl
  | bool true, _, depth + 1, _, rest | bool false, _, depth + 1, _, rest => by
      rw [value?]
      rfl
  | string text, _, depth + 1, _, rest => by
      obtain ⟨body, hquote, hread⟩ := stringBody?_quote text
      rw [written, hquote, List.cons_append, value?_string, hread, Option.map_some]
  | array [], _, depth + 1, _, rest => by
      rw [value?]
      rfl
  | array (j :: js), h, depth + 1, hdepth, rest => by
      obtain ⟨c, cs, hwritten, hblank, hend⟩ := exists_written_eq_cons h.1
      have hform : ∃ tail, separate (writtenElements (j :: js)) = c :: tail := by
        rw [writtenElements, separate_cons, hwritten]
        exact ⟨_, rfl⟩
      obtain ⟨tail, hform⟩ := hform
      have hlength : 2 * (separate (writtenElements (j :: js))).length + 1 ≤ depth := by
        simp only [written, List.length_cons, List.length_append, List.length_nil] at hdepth
        omega
      have helements := elements?_written h hlength rest
      rw [hform] at helements
      rw [written, hform]
      simp only [List.cons_append, List.append_assoc, List.nil_append] at helements ⊢
      rw [value?_array hblank hend, helements, Option.map_some]
  | object [], _, depth + 1, _, rest => by
      rw [value?]
      rfl
  | object ((key, j) :: ms), h, depth + 1, hdepth, rest => by
      obtain ⟨body, hquote, -⟩ := stringBody?_quote key
      have hform : ∃ tail, separate (writtenMembers ((key, j) :: ms)) = '"' :: tail := by
        rw [writtenMembers, separate_cons, hquote]
        exact ⟨_, rfl⟩
      obtain ⟨tail, hform⟩ := hform
      have hlength : 2 * (separate (writtenMembers ((key, j) :: ms))).length + 1 ≤ depth := by
        simp only [written, List.length_cons, List.length_append, List.length_nil] at hdepth
        omega
      have hmembers := members?_written h hlength rest
      rw [hform] at hmembers
      rw [written, hform]
      simp only [List.cons_append, List.append_assoc, List.nil_append] at hmembers ⊢
      rw [value?_object, hmembers, Option.map_some]

/-- Elements are read back up to the end of their array. -/
lemma elements?_written : ∀ {j : Json} {js : List Json}, NumberlessElements (j :: js) →
    ∀ {depth : Nat}, 2 * (separate (writtenElements (j :: js))).length + 1 ≤ depth →
    ∀ rest, elements? depth (separate (writtenElements (j :: js)) ++ ']' :: rest) = some (j :: js, rest)
  | j, js, h, depth + 1, hdepth, rest => by
      rw [writtenElements, separate_cons] at hdepth ⊢
      rw [List.length_append] at hdepth
      have hvalue : ∀ rest, value? depth (j.written ++ rest) = some (j, rest) :=
        value?_written h.1 (by omega)
      rw [List.append_assoc]
      cases js with
      | nil => exact elements?_last (hvalue _)
      | cons next js =>
          have hforms : writtenElements (next :: js) ≠ [] := by simp [writtenElements]
          rw [if_neg hforms, List.length_cons] at hdepth
          have hlater : elements? depth (separate (writtenElements (next :: js)) ++ ']' :: rest) =
              some (next :: js, rest) := elements?_written h.2 (by omega) rest
          rw [if_neg hforms, List.cons_append, elements?_more (hvalue _), hlater, Option.map_some]

/-- Members are read back up to the end of their object. -/
lemma members?_written : ∀ {key : Option String} {j : Json} {ms : List (Option String × Json)},
    NumberlessMembers ((key, j) :: ms) →
    ∀ {depth : Nat}, 2 * (separate (writtenMembers ((key, j) :: ms))).length + 1 ≤ depth →
    ∀ rest, members? depth (separate (writtenMembers ((key, j) :: ms)) ++ '\x7d' :: rest) =
      some ((key, j) :: ms, rest)
  | key, j, ms, h, depth + 1, hdepth, rest => by
      obtain ⟨body, hquote, hkey⟩ := stringBody?_quote key
      rw [writtenMembers, separate_cons, hquote] at hdepth ⊢
      simp only [List.length_append, List.length_cons] at hdepth
      have hvalue : ∀ rest, value? depth (j.written ++ rest) = some (j, rest) :=
        value?_written h.1 (by omega)
      rw [List.append_assoc, List.append_assoc, List.cons_append, List.cons_append]
      cases ms with
      | nil => exact members?_last (hkey _) (hvalue _)
      | cons next ms =>
          obtain ⟨key', j'⟩ := next
          have hforms : writtenMembers ((key', j') :: ms) ≠ [] := by simp [writtenMembers]
          rw [if_neg hforms, List.length_cons] at hdepth
          have hlater : members? depth (separate (writtenMembers ((key', j') :: ms)) ++ '\x7d' :: rest) =
              some ((key', j') :: ms, rest) := members?_written h.2 (by omega) rest
          rw [if_neg hforms, List.cons_append, members?_more (hkey _) (hvalue _), hlater,
            Option.map_some]

end

/-- **A document without numbers is read back from its text.** -/
theorem parse?_print {j : Json} (h : j.Numberless) : parse? j.print = some j := by
  have hread : value? (2 * j.written.length + 1) (j.written ++ []) = some (j, []) :=
    value?_written h (by omega) []
  rw [List.append_nil] at hread
  rw [parse?, print, String.toList_ofList]
  dsimp only
  rw [hread]
  rfl

end ResilientChannel.Json
