import ResilientChannel.Proofs.Url.Domain.Characters

/-!
Names with signs of Latin-1 in Punycode.

* **Tables in parts.** To look a character up is to read a table from its beginning. A blank parts what is
  read before it from what is read after it (`Numerals.read_append`), so the rows of Latin-1, which come first
  in their tables, are known without the others (`Mapping.keptRuns_eq`, `Direction.table_eq`).
* **Signs.** The signs in front of the letters of Latin-1 stand for themselves and have no direction, and
  the Punycode of one spells it (`spells_sign`). So a name in lower case is left as it is if its labels are
  within ASCII or the Punycode of a sign (`toAscii?_of_signs`).
-/

namespace ResilientChannel.Url.Domain

/-! ### Tables in parts -/

namespace Numerals

/-- One more character is read. -/
def Reading.next (r : Reading) (c : Char) : Reading :=
  match Hex.value? c with
  | some d => { r with current := some (16 * r.current.getD 0 + d) }
  | none => { done := r.finish, current := none }

lemma read_eq (text : String) : read text = (text.toList.foldl Reading.next {}).finish.reverse := by
  rw [read, String.foldl_eq_foldl_toList]
  rfl

/-- What has been read is not touched any more. -/
lemma finish_foldl (cs : List Char) (r : Reading) :
    (cs.foldl Reading.next r).finish =
      (cs.foldl Reading.next { r with done := [] }).finish ++ r.done := by
  induction cs generalizing r with
  | nil => cases hcurrent : r.current <;> simp [Reading.finish, hcurrent]
  | cons c cs ih =>
      rw [List.foldl_cons, List.foldl_cons, ih (r.next c), ih (Reading.next { r with done := [] } c)]
      rw [Reading.next, Reading.next]
      split
      · simp
      · cases hcurrent : r.current <;> simp [Reading.finish, hcurrent]

/-- Two texts, the first of which ends in a blank, are read one after the other. -/
lemma read_append {a : String} (ha : (a.toList.foldl Reading.next {}).current = none) (b : String) :
    read (a ++ b) = read a ++ read b := by
  have hfirst : (a.toList.foldl Reading.next {}).finish = (a.toList.foldl Reading.next {}).done := by
    rw [Reading.finish, ha]
  rw [read_eq, read_eq, read_eq, String.toList_append, List.foldl_append, finish_foldl b.toList, ha, hfirst,
    List.reverse_append]

end Numerals

/-- The first rows of `Mapping.keptRuns`: the signs of Latin-1. -/
def Mapping.signRuns : List Run :=
  [{ first := 0xa1, count := 7 }, { first := 0xa9, count := 1 }, { first := 0xab, count := 2 },
    { first := 0xae, count := 1 }, { first := 0xb0, count := 2 }, { first := 0xb6, count := 2 },
    { first := 0xbb, count := 1 }, { first := 0xbf, count := 1 }]

lemma Mapping.keptRuns_eq : ∃ others, keptRuns = (signRuns ++ others).toArray := by
  have hlatin : Numerals.read keptLatin = [0xa1, 7, 0xa9, 1, 0xab, 2, 0xae, 1, 0xb0, 2, 0xb6, 2, 0xbb, 1,
      0xbf, 1, 0xd7, 1, 0xdf, 0x21] := by
    rw [Numerals.read_eq]
    decide +kernel
  rw [keptRuns, Run.ofPairs, kept, Numerals.read_append (by decide +kernel), hlatin]
  exact ⟨_, rfl⟩

/-- The first rows of `Direction.table`: the signs of Latin-1. -/
def Direction.signRuns : List Run :=
  [{ first := 0xa1, count := 1, value := 7 }, { first := 0xa2, count := 4, value := 6 },
    { first := 0xa6, count := 9, value := 7 }, { first := 0xb0, count := 2, value := 6 },
    { first := 0xb6, count := 0x22, value := 7 }]

lemma Direction.table_eq : ∃ others, table = (signRuns ++ others).toArray := by
  have hlatin : Numerals.read runsLatin = [0xa1, 1, 7, 0xa2, 4, 6, 0xa6, 9, 7, 0xb0, 2, 6, 0xb6, 0x22, 7,
      0xf7, 1, 7] := by
    rw [Numerals.read_eq]
    decide +kernel
  rw [table, Run.ofTriples, runs, Numerals.read_append (by decide +kernel), hlatin]
  exact ⟨_, rfl⟩

/-! ### Signs -/

/-- The signs of Latin-1, in front of its letters, that stand for themselves. -/
def signs : List Char :=
  ['¡', '¢', '£', '¤', '¥', '¦', '§', '©', '«', '¬', '®', '°', '±', '¶', '·', '»', '¿']

variable {c : Char}

/-- What a test finds of every sign. -/
lemma of_mem_signs {p : Char → Bool} (hp : signs.all p = true) (hc : c ∈ signs) : p c = true :=
  List.all_eq_true.mp hp c hc

lemma beyond_sign (hc : c ∈ signs) : 0x80 ≤ c.toNat :=
  of_decide_eq_true (of_mem_signs (p := fun c => decide (0x80 ≤ c.toNat)) (by decide +kernel) hc)

lemma isKept_sign (hc : c ∈ signs) : Mapping.isKept c = true := by
  have hrow : Mapping.signRuns.any (·.contains c) = true :=
    of_mem_signs (p := fun c => Mapping.signRuns.any (·.contains c)) (by decide +kernel) hc
  obtain ⟨others, hothers⟩ := Mapping.keptRuns_eq
  rw [Mapping.isKept, hothers, List.any_toArray, List.any_append, hrow, Bool.true_or]

lemma rightward_sign (hc : c ∈ signs) : (Direction.ofChar c).isRightToLeft = false := by
  have hrow := of_mem_signs (p := fun c => (Direction.signRuns.find? (·.contains c)).any fun r =>
    !(Direction.coded[r.value]?.getD .left).isRightToLeft) (by decide +kernel) hc
  obtain ⟨r, hr, hdirection⟩ := (Option.any_eq_true ..).mp hrow
  obtain ⟨others, hothers⟩ := Direction.table_eq
  rw [Direction.ofChar, if_neg (Nat.not_lt.mpr (beyond_sign hc)), Run.value?, hothers, List.find?_toArray,
    List.find?_append, hr]
  simpa using hdirection

/-- The Punycode of a sign reads as the sign. -/
lemma reveal?_sign (hc : c ∈ signs) : reveal? (write [c]) = some [c] := by
  have hread := of_mem_signs (p := fun c => decide (acePrefix.isPrefixOf (write [c]) = true ∧
    Punycode.decode? ((write [c]).drop 4) = some [c] ∧ '.' ∉ [c] ∧ acePrefix.isPrefixOf [c] = false ∧
    Composition.normalize [c] = [c])) (by decide +kernel) hc
  obtain ⟨hace, hdecode, hdot, hplain, hcomposed⟩ := of_decide_eq_true hread
  have hstable : Mapping.isStable c = true := by
    rw [Mapping.isStable, if_neg (Nat.not_lt.mpr (beyond_sign hc)), isKept_sign hc]
  rw [reveal?, if_pos hace, hdecode, Option.filter_some, if_pos]
  simp [beyond_sign hc, hstable, hdot, hplain, hcomposed]

/-- The Punycode of a sign spells it. -/
lemma spells_sign (hc : c ∈ signs) : Spells (write [c]) [c] where
  reveal := reveal?_sign hc
  sound := of_mem_signs (p := fun c => isSound [c]) (by decide +kernel) hc
  rightward d hd := by
    rw [List.mem_singleton.mp hd]
    exact rightward_sign hc
  write := rfl

/-- **A name with signs in Punycode** is left as it is. -/
lemma toAscii?_of_signs {cs : List Char} (hlower : cs.all isLower = true)
    (h : ∀ label ∈ cs.splitOn '.', acePrefix.isPrefixOf label = true →
      label ∈ signs.map fun c => write [c]) : toAscii? cs = some cs := by
  refine toAscii?_of_spells hlower fun label hlabel => ?_
  cases hace : acePrefix.isPrefixOf label with
  | true =>
      obtain ⟨c, hc, rfl⟩ := List.mem_map.mp (h label hlabel hace)
      exact ⟨[c], spells_sign hc⟩
  | false =>
      refine ⟨label, spells_of_ascii (fun c hc => ?_) hace⟩
      exact (isLower_iff.mp (List.all_eq_true.mp hlower c (Text.mem_of_mem_splitOn hlabel hc))).1.1

end ResilientChannel.Url.Domain
