import Mathlib.Data.List.InsertIdx
import Mathlib.Data.List.TakeDrop
import ResilientChannel.Proofs.Text.Joined
import ResilientChannel.Url.Domain

/-!
The characters of domain names.

* **Punycode.** Reading it adds characters beyond ASCII to those that stand there already
  (`Punycode.mem_of_decode?`), and writing it adds a hyphen and digits to those within ASCII
  (`Punycode.mem_of_encode`).
* So no name within ASCII holds a forbidden character: the mapped name holds none, and none comes in when
  its labels are read and written (`not_isForbidden`).
* A name in lower case is left as it is if each of its labels is the written form of what it stands for
  (`toAscii?_of_spells`). So are plain names, which have no label in Punycode (`toAscii?_of_isPlain`).
-/

namespace ResilientChannel.Url.Domain

/-! ### Punycode -/

namespace Punycode

lemma le_of_char? {n : Nat} {c : Char} (h : char? n = some c) : c.toNat = n := by
  unfold char? at h
  split at h
  · next hvalid =>
    cases h
    rw [Char.ofNat, dif_pos hvalid]
    rfl
  · cases h

lemma mem_of_place {fuel : Nat} {text : List Char} {n i bias : Nat} {cs out : List Char} (hn : 0x80 ≤ n)
    (h : place fuel text n i bias cs = some out) {c : Char} (hc : c ∈ out) :
    c ∈ text ∨ 0x80 ≤ c.toNat := by
  fun_induction place fuel text n i bias cs with
  | case1 => exact .inl (Option.some.inj h ▸ hc)
  | case5 fuel text n i bias cs _ reached rest _ points d hd place ih =>
    have hd := le_of_char? hd
    refine (ih (Nat.le_trans hn (Nat.le_add_right _ _)) h).elim (fun hmem => ?_) .inr
    have hplace : place ≤ text.length := Nat.le_of_lt_succ (Nat.mod_lt _ (Nat.succ_pos _))
    rcases (List.mem_insertIdx hplace).mp hmem with rfl | hmem
    · exact .inr (hd ▸ Nat.le_trans hn (Nat.le_add_right _ _))
    · exact .inl hmem
  | _ => cases h

lemma mem_of_splitBasic {cs : List Char} {c : Char} (hc : c ∈ (splitBasic cs).1) : c ∈ cs := by
  unfold splitBasic at hc
  split at hc
  · next back front first rest heq =>
    have hwhole := congrArg (fun p => p.1 ++ p.2) heq
    simp only [List.span_eq_takeWhile_dropWhile, List.takeWhile_append_dropWhile] at hwhole
    rw [← List.mem_reverse, hwhole]
    rw [List.mem_reverse] at hc
    simp [hc]
  · cases hc

/-- The characters within ASCII of a text are in its Punycode already. -/
lemma mem_of_decode? {cs out : List Char} (h : decode? cs = some out) {c : Char} (hc : c ∈ out) :
    c ∈ cs ∨ 0x80 ≤ c.toNat := by
  unfold decode? at h
  simp only at h
  split at h
  · exact (mem_of_place (Nat.le_refl _) h hc).imp_left mem_of_splitBasic
  · cases h

/-- These are digits of distances. -/
def AreDigits (cs : List Char) : Prop := ∀ c ∈ cs, ∃ d < 36, c = digitChar d

lemma areDigits_digits (bias k q : Nat) : AreDigits (digits bias k q) := by
  have hpos := threshold_pos
  have hle := threshold_le
  fun_induction digits bias k q with
  | case1 k q t hlt =>
    intro c hc
    exact ⟨q, by have := hle k bias; omega, List.mem_singleton.mp hc⟩
  | case2 k q t hlt ih =>
    intro c hc
    rcases List.mem_cons.mp hc with rfl | hc
    · have := hle k bias
      have hmod := Nat.mod_lt (q - t) (y := 36 - t) (by omega)
      exact ⟨t + (q - t) % (36 - t), by omega, rfl⟩
    · exact ih c hc

lemma Encoder.areDigits_pass {basic m : Nat} {e : Encoder} (he : AreDigits e.out) (c : Char) :
    AreDigits (e.pass basic m c).out := by
  unfold Encoder.pass
  split
  · exact he
  · split
    · intro d hd
      exact (List.mem_append.mp hd).elim (he d) (areDigits_digits _ _ _ d)
    · exact he

lemma Encoder.areDigits_foldl {basic m : Nat} (text : List Char) {e : Encoder} (he : AreDigits e.out) :
    AreDigits (text.foldl (Encoder.pass basic m) e).out := by
  induction text generalizing e with
  | nil => exact he
  | cons c text ih => exact ih (Encoder.areDigits_pass he c)

lemma Encoder.areDigits_place {text : List Char} {basic : Nat} (ms : List Nat) {n : Nat} {e : Encoder}
    (he : AreDigits e.out) : AreDigits (Encoder.place text basic ms n e).out := by
  induction ms generalizing n e with
  | nil => exact he
  | cons m ms ih => exact ih (Encoder.areDigits_foldl text he)

/-- What Punycode is written with. -/
lemma mem_of_encode {text : List Char} {c : Char} (hc : c ∈ encode text) :
    c ∈ text ∧ c.toNat < 0x80 ∨ c = '-' ∨ ∃ d < 36, c = digitChar d := by
  unfold encode at hc
  simp only [List.mem_append] at hc
  rcases hc with (hc | hc) | hc
  · left
    simpa using hc
  · right; left
    split at hc
    · cases hc
    · exact List.mem_singleton.mp hc
  · right; right
    exact Encoder.areDigits_place _ (fun d hd => by cases hd) c hc

end Punycode

/-! ### Forbidden characters -/

lemma not_isForbidden_of_le {c : Char} (hc : 0x80 ≤ c.toNat) : isForbidden c = false := by
  have hlist : ∀ d ∈ ['#', '%', '/', ':', '<', '>', '?', '@', '[', '\\', ']', '^', '|'], d.toNat < 0x80 := by
    simp
  have hmem := mt (hlist c) (Nat.not_lt.mpr hc)
  have hlow : ¬c.toNat ≤ 0x20 := by omega
  have hdelete : c.toNat ≠ 0x7f := by omega
  simp only [isForbidden, hmem, hlow, hdelete, decide_false, Bool.or_false]

lemma not_isForbidden_of_reveal? {label text : List Char} (h : reveal? label = some text)
    (hlabel : ∀ c ∈ label, isForbidden c = false) : ∀ c ∈ text, isForbidden c = false := by
  intro c hc
  unfold reveal? at h
  split at h
  · rcases Punycode.mem_of_decode? (Option.filter_eq_some_iff.mp h).1 hc with hmem | hle
    · exact hlabel c (List.mem_of_mem_drop hmem)
    · exact not_isForbidden_of_le hle
  · exact hlabel c (Option.some.inj h ▸ hc)

lemma not_isForbidden_of_write {label : List Char} (hlabel : ∀ c ∈ label, isForbidden c = false) :
    ∀ c ∈ write label, isForbidden c = false := by
  intro c hc
  unfold write at hc
  split at hc
  · exact hlabel c hc
  · rcases List.mem_append.mp hc with hc | hc
    · exact (by simp [acePrefix, isForbidden] : ∀ c ∈ acePrefix, isForbidden c = false) c hc
    · rcases Punycode.mem_of_encode hc with ⟨hc, -⟩ | rfl | ⟨d, hd, rfl⟩
      · exact hlabel c hc
      · decide
      · exact (by decide : ∀ d < 36, isForbidden (Punycode.digitChar d) = false) d hd

/-- What a name within ASCII is made of. -/
lemma toAscii?_eq_some {name out : List Char} (h : toAscii? name = some out) :
    ∃ (mapped : List Char) (labels : List (List Char)),
      mapped.any isForbidden = false ∧ (mapped.splitOn '.').mapM reveal? = some labels ∧
        out = ['.'].intercalate (labels.map write) := by
  unfold toAscii? at h
  split at h
  · cases h
  · next mapped _ =>
    split at h
    · cases h
    · next hmapped =>
      split at h
      · cases h
      · next labels hlabels =>
        split at h
        · exact ⟨mapped, labels, Bool.eq_false_iff.mpr hmapped, hlabels, (Option.some.inj h).symm⟩
        · cases h

/-- **Forbidden characters** are in no name that comes out. -/
lemma not_isForbidden {name out : List Char} (h : toAscii? name = some out) :
    ∀ c ∈ out, isForbidden c = false := by
  obtain ⟨mapped, labels, hmapped, hlabels, rfl⟩ := toAscii?_eq_some h
  intro c hc
  rcases Text.mem_of_mem_intercalate hc with hdot | ⟨written, hwritten, hc⟩
  · rw [List.mem_singleton.mp hdot]
    decide
  · obtain ⟨label, hlabel, rfl⟩ := List.mem_map.mp hwritten
    obtain ⟨part, hpart, hreveal⟩ := Text.exists_of_mapM_eq_some hlabels hlabel
    refine not_isForbidden_of_write (not_isForbidden_of_reveal? hreveal fun d hd => ?_) c hc
    rw [← Bool.not_eq_true]
    exact List.any_eq_false.mp hmapped d (Text.mem_of_mem_splitOn hpart hd)

/-! ### Names that are left as they are -/

lemma not_isMark {c : Char} (hc : c.toNat < 0x80) : Mark.isMark c = false := by
  rw [Mark.isMark, decide_eq_false (by omega), Bool.false_and]

lemma not_joiner {c : Char} (hc : c.toNat < 0x80) : ¬(c = Joining.joiner ∨ c = Joining.nonJoiner) := by
  rintro (rfl | rfl) <;> exact absurd hc (by decide)

/-- Within ASCII nothing runs from right to left. -/
lemma not_isRightToLeft {c : Char} (hc : c.toNat < 0x80) :
    (Direction.ofChar c).isRightToLeft = false := by
  rw [Direction.ofChar, if_pos hc, Direction.ofAscii]
  split_ifs <;> decide

variable {cs label text : List Char}

/-- Lower case within ASCII, and not forbidden. -/
def isLower (c : Char) : Bool := c.toNat < 0x80 && c.toLower = c && !isForbidden c

lemma isLower_iff {c : Char} :
    isLower c = true ↔ (c.toNat < 0x80 ∧ c.toLower = c) ∧ isForbidden c = false := by
  simp [isLower]

/-- The label stands for a text that does not run from right to left, and is the written form of it. -/
structure Spells (label text : List Char) : Prop where
  reveal : reveal? label = some text
  sound : isSound text = true
  rightward : ∀ c ∈ text, (Direction.ofChar c).isRightToLeft = false
  write : write text = label

lemma mapped?_of_ascii (hcs : ∀ c ∈ cs, c.toNat < 0x80 ∧ c.toLower = c) : mapped? cs = some cs := by
  have himage : cs.mapM Mapping.image? = some (cs.map fun c => [c]) :=
    Text.mapM_eq_some fun c hc => by rw [Mapping.image?, if_pos (hcs c hc).1, (hcs c hc).2]
  have hflat : (cs.map fun c => [c]).flatten = cs := by
    rw [← List.flatMap_def, List.flatMap_singleton']
  have hall : cs.all (·.toNat < 0x80) = true := by simpa using fun c hc => (hcs c hc).1
  rw [mapped?, himage, Option.map_some, hflat, Composition.normalize, if_pos hall]

/-- Only what a name is mapped to matters. -/
lemma toAscii?_congr {ds : List Char} (h : mapped? cs = mapped? ds) : toAscii? cs = toAscii? ds := by
  rw [toAscii?, toAscii?, h]

lemma agrees_of_rightward {labels : List (List Char)}
    (h : ∀ label ∈ labels, ∀ c ∈ label, (Direction.ofChar c).isRightToLeft = false) :
    Direction.agrees labels = true := by
  have hright : labels.any (·.any (Direction.ofChar · |>.isRightToLeft)) = false :=
    List.any_eq_false.mpr fun label hlabel => by
      rw [Bool.not_eq_true]
      exact List.any_eq_false.mpr fun c hc => by simp [h label hlabel c hc]
  rw [Direction.agrees, hright, Bool.not_false, Bool.true_or]

/-- **A lower-case name** is left as it is if its labels are the written forms of what they stand for. -/
lemma toAscii?_of_spells (hlower : cs.all isLower = true)
    (h : ∀ label ∈ cs.splitOn '.', ∃ text, Spells label text) : toAscii? cs = some cs := by
  have hchar : ∀ c ∈ cs, (c.toNat < 0x80 ∧ c.toLower = c) ∧ isForbidden c = false := fun c hc =>
    isLower_iff.mp (List.all_eq_true.mp hlower c hc)
  have hspells : ∀ label ∈ cs.splitOn '.', Spells label ((reveal? label).getD []) := fun label hlabel => by
    obtain ⟨text, htext⟩ := h label hlabel
    rwa [htext.reveal]
  have hallowed : cs.any isForbidden = false := by simpa using fun c hc => (hchar c hc).2
  have hreveal : (cs.splitOn '.').mapM reveal? =
      some ((cs.splitOn '.').map fun label => (reveal? label).getD []) :=
    Text.mapM_eq_some fun label hlabel => (hspells label hlabel).reveal
  generalize hlabels : ((cs.splitOn '.').map fun label => (reveal? label).getD []) = labels at hreveal
  have hsound : labels.all isSound = true := by
    rw [← hlabels, List.all_map]
    exact List.all_eq_true.mpr fun label hlabel => (hspells label hlabel).sound
  have hagrees : Direction.agrees labels = true := agrees_of_rightward fun text htext => by
    obtain ⟨label, hlabel, rfl⟩ := List.mem_map.mp (hlabels ▸ htext)
    exact (hspells label hlabel).rightward
  have hwrite : labels.map write = cs.splitOn '.' := by
    rw [← hlabels, List.map_map]
    exact (List.map_congr_left fun label hlabel => (hspells label hlabel).write).trans (List.map_id _)
  rw [toAscii?, mapped?_of_ascii fun c hc => (hchar c hc).1]
  simp only [hallowed, hreveal, hsound, hagrees, hwrite, Bool.and_self, if_true, Bool.false_eq_true, if_false,
    List.intercalate_splitOn]

/-! ### Plain names -/

/-- Lower-case ASCII without forbidden characters, and no label in Punycode. -/
def isPlain (name : List Char) : Bool :=
  name.all (fun c => c.toNat < 0x80 && c.toLower = c && !isForbidden c) &&
    (name.splitOn '.').all (!acePrefix.isPrefixOf ·)

lemma isAllowed_of_ascii (hcs : ∀ c ∈ cs, c.toNat < 0x80) (before : List Char) :
    Joining.isAllowed before cs = true := by
  induction cs generalizing before with
  | nil => rfl
  | cons c cs ih =>
    obtain ⟨hc, hcs⟩ := List.forall_mem_cons.mp hcs
    rw [Joining.isAllowed, Joining.fits, if_neg (not_joiner hc), ih hcs, Bool.and_self]

lemma isSound_of_ascii (hcs : ∀ c ∈ cs, c.toNat < 0x80) : isSound cs = true := by
  have hmark : cs.head?.any Mark.isMark = false := by
    cases cs with
    | nil => rfl
    | cons c cs => exact not_isMark (hcs c List.mem_cons_self)
  rw [isSound, hmark, isAllowed_of_ascii hcs, Bool.not_false, Bool.and_self]

/-- A label within ASCII that is not in Punycode stands for itself. -/
lemma spells_of_ascii (hascii : ∀ c ∈ label, c.toNat < 0x80) (hace : acePrefix.isPrefixOf label = false) :
    Spells label label where
  reveal := by rw [reveal?, if_neg (by simp [hace])]
  sound := isSound_of_ascii hascii
  rightward c hc := not_isRightToLeft (hascii c hc)
  write := by rw [write, if_pos (by simpa using hascii)]

/-- **Plain names** are left as they are. -/
lemma toAscii?_of_isPlain (h : isPlain cs = true) : toAscii? cs = some cs := by
  obtain ⟨hlower, hlabels⟩ := Bool.and_eq_true_iff.mp h
  refine toAscii?_of_spells hlower fun label hlabel => ⟨label, spells_of_ascii (fun c hc => ?_) ?_⟩
  · have hc' := List.all_eq_true.mp hlower c (Text.mem_of_mem_splitOn hlabel hc)
    exact (isLower_iff.mp hc').1.1
  · simpa using List.all_eq_true.mp hlabels label hlabel

end ResilientChannel.Url.Domain
