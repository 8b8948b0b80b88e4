import Mathlib.Algebra.Group.Nat.Defs
import ResilientChannel.Proofs.Text.Joined
import ResilientChannel.Url.Ipv6

/-!
IPv6 addresses are read as they are written.

* **Pieces.** The digits of a piece below `2^16` are read as that piece, whatever stands behind them
  (`hexDigits_piece`), and no address has other pieces (`piece_lt_of_parse`).
* **Blocks.** A block of pieces between colons is read piece by piece, to the end of the text
  (`readPieces_block`) or up to a gap (`readPieces_front`).
* **The gap.** The run that the writer leaves out is one of zero pieces (`isRun_longestRun`), so the reader
  makes it up again.
* `parse_text`: reading the written form of an address gives the address.
-/

namespace ResilientChannel.Url.Ipv6

/-! ### Pieces -/

/-- The digits of a piece. -/
def pieceText (p : Nat) : List Char := Nat.toDigits 16 p

lemma value?_digitChar {d : Nat} (hd : d < 16) : Hex.value? (Nat.digitChar d) = some d :=
  (by decide : ∀ d < 16, Hex.value? (Nat.digitChar d) = some d) d hd

lemma value?_lt {c : Char} {d : Nat} (h : Hex.value? c = some d) : d < 16 := by
  unfold Hex.value? at h
  split at h
  · next hc =>
    have hle : c.toNat ≤ 57 := hc.2
    cases h
    omega
  · split at h
    · next hc =>
      have hle : c.toNat ≤ 102 := hc.2
      cases h
      omega
    · split at h
      · next hc =>
        have hle : c.toNat ≤ 70 := hc.2
        cases h
        omega
      · cases h

/-- The digits of a piece are hexadecimal, and read one after another they make the piece. -/
lemma exists_digits (p : Nat) :
    ∃ ds : List Nat, (∀ d ∈ ds, d < 16) ∧ pieceText p = ds.map Nat.digitChar ∧ ds ≠ [] ∧
      ds.foldl (fun v d => 16 * v + d) 0 = p := by
  induction p using Nat.strongRecOn with
  | ind p ih =>
    by_cases hlt : p < 16
    · exact ⟨[p], by simpa using hlt, Nat.toDigits_of_lt_base hlt, by simp, by simp⟩
    · obtain ⟨ds, hds, htext, hne, hvalue⟩ := ih (p / 16) (by omega)
      refine ⟨ds ++ [p % 16], ?_, ?_, by simp, ?_⟩
      · intro d hd
        rcases List.mem_append.mp hd with hd | hd
        · exact hds d hd
        · rw [List.mem_singleton.mp hd]
          omega
      · rw [pieceText, Nat.toDigits_of_base_le (by decide) (by omega), List.map_append]
        exact congrArg (· ++ _) htext
      · rw [List.foldl_append, hvalue, List.foldl_cons, List.foldl_nil]
        omega

lemma hexDigits_append {ds : List Nat} (hds : ∀ d ∈ ds, d < 16) {rest : List Char}
    (hrest : ∀ c ∈ rest.head?, Hex.value? c = none) :
    ∀ n value count, ds.length ≤ n →
      hexDigits n value count (ds.map Nat.digitChar ++ rest) =
        (ds.foldl (fun v d => 16 * v + d) value, count + ds.length, rest) := by
  induction ds with
  | nil =>
    intro n value count _
    cases n with
    | zero => rfl
    | succ n =>
      cases rest with
      | nil => rfl
      | cons c rest => simp [hexDigits, hrest c rfl]
  | cons d ds ih =>
    intro n value count hlength
    cases n with
    | zero => cases hlength
    | succ n =>
      have hrec := ih (fun e he => hds e (List.mem_cons_of_mem d he)) n (16 * value + d) (count + 1)
        (Nat.le_of_succ_le_succ hlength)
      simp only [List.map_cons, List.cons_append, hexDigits, value?_digitChar (hds d List.mem_cons_self)]
      rw [hrec]
      simp [Nat.add_assoc, Nat.add_comm 1]

/-- A piece is read whatever stands behind its digits, unless that is another digit. -/
lemma hexDigits_piece {p : Nat} (hp : p < 65536) {rest : List Char}
    (hrest : ∀ c ∈ rest.head?, Hex.value? c = none) :
    ∃ n, hexDigits 4 0 0 (pieceText p ++ rest) = (p, n, rest) := by
  obtain ⟨ds, hds, htext, -, hvalue⟩ := exists_digits p
  have hlength : ds.length ≤ 4 := by
    have hle := (Nat.length_toDigits_le_iff (b := 16) (n := p) (k := 4) (by decide) (by decide)).mpr hp
    rwa [← pieceText, htext, List.length_map] at hle
  exact ⟨0 + ds.length, by rw [htext, hexDigits_append hds hrest 4 0 0 hlength, hvalue]⟩

lemma exists_pieceText_cons (p : Nat) : ∃ c cs, pieceText p = c :: cs ∧ c ≠ ':' := by
  obtain ⟨ds, hds, htext, hne, -⟩ := exists_digits p
  obtain ⟨d, ds, rfl⟩ := List.exists_cons_of_ne_nil hne
  refine ⟨Nat.digitChar d, ds.map Nat.digitChar, htext, fun heq => ?_⟩
  have hvalue := value?_digitChar (hds d List.mem_cons_self)
  rw [heq] at hvalue
  cases hvalue

lemma hexDigits_lt (n : Nat) :
    ∀ (value count : Nat) (cs : List Char), (hexDigits n value count cs).1 < (value + 1) * 16 ^ n := by
  induction n with
  | zero =>
    intro value count cs
    simp [hexDigits]
  | succ n ih =>
    intro value count cs
    have hgrow : value < (value + 1) * 16 ^ (n + 1) :=
      Nat.lt_of_lt_of_le (Nat.lt_succ_self value) (Nat.le_mul_of_pos_right _ (Nat.pow_pos (by decide)))
    cases cs with
    | nil => exact hgrow
    | cons c cs =>
      cases hc : Hex.value? c with
      | none => simpa [hexDigits, hc] using hgrow
      | some d =>
        have hd := value?_lt hc
        calc (hexDigits (n + 1) value count (c :: cs)).1
            = (hexDigits n (16 * value + d) (count + 1) cs).1 := by simp [hexDigits, hc]
          _ < (16 * value + d + 1) * 16 ^ n := ih _ _ _
          _ ≤ ((value + 1) * 16) * 16 ^ n := Nat.mul_le_mul_right _ (by omega)
          _ = (value + 1) * 16 ^ (n + 1) := by rw [Nat.mul_assoc, Nat.pow_succ, Nat.mul_comm 16]

/-! ### The pieces of an address -/

/-- Every piece of the reading is below `2^16`. -/
def Reading.IsSmall (r : Reading) : Prop :=
  (∀ p ∈ r.front, p < 65536) ∧ ∀ back ∈ r.back, ∀ p ∈ back, p < 65536

lemma Reading.IsSmall.push {r : Reading} (hr : r.IsSmall) {p : Nat} (hp : p < 65536) :
    (r.push p).IsSmall := by
  obtain ⟨front, back⟩ := r
  cases back with
  | none =>
    refine ⟨fun q hq => ?_, by simp [Reading.push]⟩
    rcases List.mem_append.mp hq with hq | hq
    · exact hr.1 q hq
    · rwa [List.mem_singleton.mp hq]
  | some back =>
    refine ⟨hr.1, fun pieces hpieces q hq => ?_⟩
    cases hpieces
    rcases List.mem_append.mp hq with hq | hq
    · exact hr.2 back rfl q hq
    · rwa [List.mem_singleton.mp hq]

lemma Reading.IsSmall.foldl {r : Reading} (hr : r.IsSmall) {ps : List Nat} (hps : ∀ p ∈ ps, p < 65536) :
    (ps.foldl Reading.push r).IsSmall := by
  induction ps generalizing r with
  | nil => exact hr
  | cons p ps ih =>
    exact ih (hr.push (hps p List.mem_cons_self)) fun q hq => hps q (List.mem_cons_of_mem p hq)

lemma byte?_lt {cs : List Char} {b : Nat} (h : byte? cs = some b) : b < 256 := by
  unfold byte? at h
  split at h
  · cases h
  · cases h
    decide
  · cases h
  · split at h
    · simp only at h
      split at h
      · next hlt => exact Option.some.inj h ▸ hlt
      · cases h
    · cases h

lemma embedded?_lt {cs : List Char} {ps : List Nat} (h : embedded? cs = some ps) :
    ∀ p ∈ ps, p < 65536 := by
  unfold embedded? at h
  split at h
  · next a b c d hbytes =>
    have hlt : ∀ n ∈ [a, b, c, d], n < 256 := fun n hn => by
      obtain ⟨_, -, hn⟩ := Text.exists_of_mapM_eq_some hbytes hn
      exact byte?_lt hn
    simp only [List.forall_mem_cons] at hlt
    obtain ⟨ha, hb, hc, hd, -⟩ := hlt
    cases h
    intro p hp
    rcases List.mem_cons.mp hp with rfl | hp
    · omega
    · rw [List.mem_singleton.mp hp]
      omega
  · cases h

lemma isSmall_of_readPieces {fuel : Nat} {r read : Reading} {cs : List Char} (hr : r.IsSmall)
    (h : readPieces fuel r cs = some read) : read.IsSmall := by
  have hpiece : ∀ {cs rest : List Char} {value count : Nat},
      hexDigits 4 0 0 cs = (value, count, rest) → value < 65536 := fun {cs _ _ _} heq => by
    have hlt := hexDigits_lt 4 0 0 cs
    rwa [heq] at hlt
  fun_induction readPieces fuel r cs with
  | case1 => exact Option.some.inj h ▸ hr
  | case3 fuel r rest hback hcount ih =>
    refine ih ⟨hr.1, fun back hmem p hp => ?_⟩ h
    cases hmem
    cases hp
  | case7 fuel r cs _ _ _ value count hdigits => exact Option.some.inj h ▸ hr.push (hpiece hdigits)
  | case9 fuel r cs _ _ _ value count rest _ hdigits ih => exact ih (hr.push (hpiece hdigits)) h
  | case11 =>
    obtain ⟨ps, hps, rfl⟩ := Option.map_eq_some_iff.mp h
    exact hr.foldl (embedded?_lt hps)
  | _ => cases h

lemma lt_of_pieces? {r : Reading} (hr : r.IsSmall) {a : Ipv6} (h : r.pieces? = some a) :
    ∀ p ∈ a.pieces, p < 65536 := by
  obtain ⟨front, back⟩ := r
  obtain ⟨_, ha⟩ := Option.dite_none_right_eq_some.mp h
  cases ha
  intro p hp
  cases back with
  | none => exact hr.1 p hp
  | some back =>
    rcases List.mem_append.mp hp with hp | hp
    · rcases List.mem_append.mp hp with hp | hp
      · exact hr.1 p hp
      · rw [List.eq_of_mem_replicate hp]
        decide
    · exact hr.2 back rfl p hp

/-- An address that was read has pieces below `2^16`. -/
lemma piece_lt_of_parse {cs : List Char} {a : Ipv6} (h : parse cs = .ok a) :
    ∀ p ∈ a.pieces, p < 65536 := by
  have hempty : ∀ back : Option (List Nat), (∀ ps ∈ back, ps = []) →
      Reading.IsSmall { front := [], back } := fun back hback => by
    refine ⟨by simp, fun ps hps p hp => ?_⟩
    rw [hback ps hps] at hp
    cases hp
  unfold parse at h
  simp only at h
  split at h
  · next address hread =>
    cases h
    obtain ⟨r, hr, hpieces⟩ := Option.bind_eq_some_iff.mp hread
    refine lt_of_pieces? ?_ hpieces
    split at hr
    · exact isSmall_of_readPieces (hempty _ (by simp)) hr
    · cases hr
    · cases hr
    · cases hr
    · exact isSmall_of_readPieces (hempty _ (by simp)) hr
  · cases h

/-! ### Blocks -/

/-- Pieces between colons. -/
def joined (ps : List Nat) : List Char := [':'].intercalate (ps.map pieceText)

lemma toList_colons (ps : List Nat) : (colons ps).toList = joined ps := by
  rw [colons, String.toList_intercalate, List.map_map, joined]
  congr 1
  exact List.map_congr_left fun p _ => String.toList_ofList

lemma joined_singleton (p : Nat) : joined [p] = pieceText p := List.intercalate_singleton

lemma joined_cons_cons (p q : Nat) (ps : List Nat) :
    joined (p :: q :: ps) = pieceText p ++ ':' :: joined (q :: ps) := by
  simp [joined, List.intercalate_cons_cons]

lemma exists_joined_cons (p : Nat) (ps : List Nat) :
    ∃ c cs, joined (p :: ps) = c :: cs ∧ c ≠ ':' := by
  obtain ⟨c, cs, hp, hc⟩ := exists_pieceText_cons p
  cases ps with
  | nil => exact ⟨c, cs, by rw [joined_singleton, hp], hc⟩
  | cons q ps => exact ⟨c, _, by rw [joined_cons_cons, hp, List.cons_append], hc⟩

lemma length_le_joined (ps : List Nat) : ps.length ≤ (joined ps).length := by
  induction ps with
  | nil => exact Nat.zero_le _
  | cons p ps ih =>
    obtain ⟨c, cs, hp, -⟩ := exists_pieceText_cons p
    cases ps with
    | nil => simp [joined_singleton, hp]
    | cons q ps =>
      rw [joined_cons_cons, hp]
      simp only [List.length_append, List.length_cons] at ih ⊢
      omega

lemma Reading.count_push (r : Reading) (p : Nat) : (r.push p).count = r.count + 1 := by
  obtain ⟨front, back⟩ := r
  cases back with
  | none => simp [Reading.push, Reading.count]
  | some back => simp [Reading.push, Reading.count, Nat.add_assoc]

lemma Reading.foldl_push_front (front ps : List Nat) :
    ps.foldl Reading.push { front, back := none } = { front := front ++ ps, back := none } := by
  induction ps generalizing front with
  | nil => simp
  | cons p ps ih =>
    rw [List.foldl_cons, Reading.push, ih, List.append_assoc]
    rfl

lemma Reading.foldl_push_back (front back ps : List Nat) :
    ps.foldl Reading.push { front, back := some back } = { front, back := some (back ++ ps) } := by
  induction ps generalizing back with
  | nil => simp
  | cons p ps ih =>
    rw [List.foldl_cons, Reading.push, ih, List.append_assoc]
    rfl

section Blocks

variable {p : Nat} {ps : List Nat} {r : Reading} {fuel : Nat}

lemma readPieces_last (hp : p < 65536) (hr : r.count < 8) :
    readPieces (fuel + 1) r (pieceText p) = some (r.push p) := by
  obtain ⟨n, hdigits⟩ := @hexDigits_piece p hp [] (by simp)
  obtain ⟨c, cs, hcons, hc⟩ := exists_pieceText_cons p
  rw [List.append_nil] at hdigits
  rw [hcons] at hdigits ⊢
  simp [readPieces, hc, Nat.not_le.mpr hr, hdigits]

lemma readPieces_cons (hp : p < 65536) (hr : r.count < 8) (c : Char) (rest : List Char) :
    readPieces (fuel + 1) r (pieceText p ++ ':' :: c :: rest) = readPieces fuel (r.push p) (c :: rest) := by
  obtain ⟨n, hdigits⟩ := @hexDigits_piece p hp (':' :: c :: rest) (by simp; decide)
  obtain ⟨d, ds, hcons, hd⟩ := exists_pieceText_cons p
  rw [hcons, List.cons_append] at hdigits ⊢
  simp [readPieces, hd, Nat.not_le.mpr hr, hdigits]

lemma readPieces_gap (hback : r.back = none) (hr : r.count < 8) (rest : List Char) :
    readPieces (fuel + 1) r (':' :: rest) = readPieces fuel { r with back := some [] } rest := by
  simp [readPieces, hback, hr]

/-- A block at the end of the text is read piece by piece. -/
lemma readPieces_block (hps : ∀ p ∈ ps, p < 65536) (hr : r.count + ps.length ≤ 8)
    (hfuel : ps.length ≤ fuel) : readPieces fuel r (joined ps) = some (ps.foldl Reading.push r) := by
  induction ps generalizing r fuel with
  | nil => cases fuel <;> rfl
  | cons p ps ih =>
    obtain ⟨hp, hps⟩ := List.forall_mem_cons.mp hps
    simp only [List.length_cons] at hr hfuel
    obtain ⟨fuel, rfl⟩ := Nat.exists_eq_succ_of_ne_zero (Nat.ne_zero_of_lt hfuel)
    cases ps with
    | nil =>
      rw [joined_singleton, readPieces_last hp (by omega)]
      rfl
    | cons q ps =>
      obtain ⟨c, cs, hcons, -⟩ := exists_joined_cons q ps
      rw [joined_cons_cons, hcons, readPieces_cons hp (by omega), ← hcons,
        ih hps (by rw [Reading.count_push]; omega) (by omega)]
      rfl

/-- A block in front of a gap is read piece by piece, up to the second colon of the gap. -/
lemma readPieces_front (hne : ps ≠ []) (hps : ∀ p ∈ ps, p < 65536) (hr : r.count + ps.length ≤ 8)
    (rest : List Char) :
    readPieces (fuel + ps.length) r (joined ps ++ ':' :: ':' :: rest) =
      readPieces fuel (ps.foldl Reading.push r) (':' :: rest) := by
  induction ps generalizing r with
  | nil => exact absurd rfl hne
  | cons p ps ih =>
    obtain ⟨hp, hps⟩ := List.forall_mem_cons.mp hps
    simp only [List.length_cons] at hr
    cases ps with
    | nil =>
      rw [joined_singleton, List.length_singleton, readPieces_cons hp (by omega)]
      rfl
    | cons q ps =>
      obtain ⟨c, cs, hcons, -⟩ := exists_joined_cons q ps
      have hrec := ih (r := r.push p) (by simp) hps (by rw [Reading.count_push]; omega)
      rw [hcons, List.cons_append] at hrec
      rw [joined_cons_cons, hcons, List.append_assoc, List.cons_append, List.cons_append,
        List.length_cons, ← Nat.add_assoc, readPieces_cons hp (by omega), hrec]
      rfl

end Blocks

/-! ### The gap -/

/-- The pieces at these places are zero. -/
def IsRun (ps : List Nat) (run : Nat × Nat) : Prop :=
  ∀ i, run.1 ≤ i → i < run.1 + run.2 → ps[i]? = some 0

lemma isRun_longestRun {ps : List Nat} (rest : List Nat) :
    ∀ {index start length : Nat} {best : Nat × Nat}, ps.drop index = rest → IsRun ps best →
      IsRun ps (start, length) → (length ≠ 0 → start + length = index) →
        IsRun ps (longestRun index start length best rest) := by
  induction rest with
  | nil =>
    intro index start length best _ hbest hrun _
    rw [longestRun]
    split
    · exact hrun
    · exact hbest
  | cons p rest ih =>
    intro index start length best hdrop hbest hrun hend
    have hpiece : ps[index]? = some p := by
      rw [← List.head?_drop, hdrop, List.head?_cons]
    have hrest : ps.drop (index + 1) = rest := by
      rw [← List.tail_drop, hdrop, List.tail_cons]
    rw [longestRun]
    split
    · next hzero =>
      -- The run goes on, or begins here.
      refine ih hrest hbest (fun i hstart hi => ?_) (fun _ => ?_)
      · by_cases hlt : i < index
        · split at hstart
          · omega
          · next hlength => exact hrun i hstart (by have := hend hlength; omega)
        · have hindex : i = index := by
            split at hi <;> omega
          rw [hindex, hpiece, hzero]
      · split <;> omega
    · refine ih hrest ?_ (fun i hstart hi => absurd hi (Nat.not_lt.mpr hstart)) (fun h => absurd rfl h)
      split
      · exact hrun
      · exact hbest

lemma IsRun.length_le {ps : List Nat} {start length : Nat} (h : IsRun ps (start, length))
    (hlength : length ≠ 0) : start + length ≤ ps.length := by
  have hlast := h (start + length - 1) (by simp; omega) (by simp; omega)
  have := (List.getElem?_eq_some_iff.mp hlast).1
  omega

/-- What stands on the two sides of a run, with zeros between. -/
lemma IsRun.take_append_drop {ps : List Nat} {start length : Nat} (h : IsRun ps (start, length)) :
    ps.take start ++ List.replicate length 0 ++ ps.drop (start + length) = ps := by
  have hzeros : (ps.drop start).take length = List.replicate length 0 := by
    refine List.ext_getElem? fun i => ?_
    rw [List.getElem?_take, List.getElem?_drop, List.getElem?_replicate]
    split
    · next hi => exact h (start + i) (Nat.le_add_right _ _) (Nat.add_lt_add_left hi start)
    · rfl
  rw [← hzeros, ← List.drop_drop, List.append_assoc, List.take_append_drop, List.take_append_drop]

lemma Reading.pieces?_front (a : Ipv6) : Reading.pieces? { front := a.pieces, back := none } = some a := by
  simp [Reading.pieces?, a.length_eq]

lemma Reading.pieces?_gap (a : Ipv6) {start length : Nat} (hrun : IsRun a.pieces (start, length))
    (hlength : length ≠ 0) :
    Reading.pieces?
      { front := a.pieces.take start, back := some (a.pieces.drop (start + length)) } = some a := by
  have hle := hrun.length_le hlength
  have height := a.length_eq
  have hgap : 8 - ((a.pieces.take start).length + (a.pieces.drop (start + length)).length) = length := by
    rw [List.length_take, List.length_drop]
    omega
  simp only [Reading.pieces?, hgap, hrun.take_append_drop, height, dite_true]

/-! ### Addresses -/

lemma parse_eq_ok {cs : List Char} {r : Reading} {a : Ipv6} (hhead : cs.head? ≠ some ':')
    (hlength : 2 ≤ cs.length) (hread : readPieces cs.length { front := [], back := none } cs = some r)
    (hpieces : r.pieces? = some a) : parse cs = .ok a := by
  match cs, hlength with
  | c :: d :: rest, _ =>
    have hc : c ≠ ':' := fun heq => hhead (by rw [heq]; rfl)
    rw [List.length_cons, List.length_cons] at hread
    simp [parse, hc, hread, hpieces]

lemma parse_gap_eq_ok {rest : List Char} {r : Reading} {a : Ipv6}
    (hread : readPieces (rest.length + 2) { front := [], back := some [] } rest = some r)
    (hpieces : r.pieces? = some a) : parse (':' :: ':' :: rest) = .ok a := by
  simp [parse, hread, hpieces]

/-- Eight pieces, none of them left out. -/
lemma parse_joined {a : Ipv6} (ha : ∀ p ∈ a.pieces, p < 65536) : parse (joined a.pieces) = .ok a := by
  have height := a.length_eq
  have hfuel := length_le_joined a.pieces
  have hread := readPieces_block (r := { front := [], back := none }) ha
    (by simp [Reading.count, height]) hfuel
  rw [Reading.foldl_push_front] at hread
  obtain ⟨p, ps, hps⟩ := List.exists_cons_of_length_eq_add_one height
  obtain ⟨c, cs, hcons, hc⟩ := exists_joined_cons p ps
  refine parse_eq_ok ?_ (by omega) hread (Reading.pieces?_front a)
  rw [hps, hcons]
  simpa using hc

/-- A block, a gap, and another block; either block may be empty. -/
lemma parse_joined_gap {a : Ipv6} {front back : List Nat} (hfront : ∀ p ∈ front, p < 65536)
    (hback : ∀ p ∈ back, p < 65536) (hcount : front.length + back.length ≤ 6)
    (hpieces : Reading.pieces? { front, back := some back } = some a) :
    parse (joined front ++ ':' :: ':' :: joined back) = .ok a := by
  have hfuel := length_le_joined back
  cases front with
  | nil =>
    refine parse_gap_eq_ok (readPieces_block hback (by simp [Reading.count]; omega) (by omega)) ?_
    rw [Reading.foldl_push_back]
    exact hpieces
  | cons p ps =>
    have hfuel' := length_le_joined (p :: ps)
    obtain ⟨c, cs, hcons, hc⟩ := exists_joined_cons p ps
    refine parse_eq_ok (by rw [hcons]; simpa using hc) (by simp; omega) ?_ hpieces
    -- What the first block and the gap leave of the fuel is enough for the second block.
    obtain ⟨fuel, hlength, henough⟩ : ∃ fuel,
        (joined (p :: ps) ++ ':' :: ':' :: joined back).length = fuel + 1 + (p :: ps).length ∧
          back.length ≤ fuel := by
      refine ⟨(joined (p :: ps)).length + 1 + (joined back).length - (p :: ps).length, ?_, by omega⟩
      rw [List.length_append, List.length_cons, List.length_cons]
      omega
    rw [hlength, readPieces_front (by simp) hfront (by simp [Reading.count] at hcount ⊢; omega),
      Reading.foldl_push_front, readPieces_gap rfl (by simp [Reading.count] at hcount ⊢; omega),
      readPieces_block hback (by simp [Reading.count] at hcount ⊢; omega) henough,
      Reading.foldl_push_back]
    rfl

/-- **Reading a written address** gives the address. -/
theorem parse_text (a : Ipv6) (ha : ∀ p ∈ a.pieces, p < 65536) : parse a.text.toList = .ok a := by
  have hrun : IsRun a.pieces (longestRun 0 0 0 (0, 0) a.pieces) :=
    isRun_longestRun a.pieces rfl (fun i _ hi => absurd hi (Nat.not_lt_zero i))
      (fun i _ hi => absurd hi (Nat.not_lt_zero i)) (fun h => absurd rfl h)
  unfold text
  generalize longestRun 0 0 0 (0, 0) a.pieces = run at hrun ⊢
  obtain ⟨start, length⟩ := run
  simp only
  split
  · rw [toList_colons]
    exact parse_joined ha
  · next htwo =>
    have hle := hrun.length_le (by omega)
    have height := a.length_eq
    rw [String.toList_append, String.toList_append, toList_colons, toList_colons, List.append_assoc]
    refine parse_joined_gap (fun p hp => ha p (List.mem_of_mem_take hp))
      (fun p hp => ha p (List.mem_of_mem_drop hp)) ?_ (Reading.pieces?_gap a hrun (by omega))
    rw [List.length_take, List.length_drop]
    omega

example : parse "1:0:0:2::3".toList = .ok ⟨[1, 0, 0, 2, 0, 0, 0, 3], rfl⟩ := rfl

example : text ⟨[1, 0, 0, 2, 0, 0, 0, 3], rfl⟩ = "1:0:0:2::3" := by decide +kernel

lemma digitChar_of_mem_joined {ps : List Nat} {c : Char} (hc : c ∈ joined ps) :
    c = ':' ∨ ∃ d < 16, c = Nat.digitChar d := by
  refine (Text.mem_of_mem_intercalate hc).imp List.mem_singleton.mp fun ⟨digits, hdigits, hc⟩ => ?_
  obtain ⟨p, -, rfl⟩ := List.mem_map.mp hdigits
  obtain ⟨ds, hds, htext, -⟩ := exists_digits p
  rw [htext] at hc
  obtain ⟨d, hd, rfl⟩ := List.mem_map.mp hc
  exact ⟨d, hds d hd, rfl⟩

/-- An address is written in hexadecimal digits and colons. -/
lemma digitChar_of_mem_text {a : Ipv6} {c : Char} (hc : c ∈ a.text.toList) :
    c = ':' ∨ ∃ d < 16, c = Nat.digitChar d := by
  unfold text at hc
  simp only at hc
  split at hc
  · exact digitChar_of_mem_joined (toList_colons _ ▸ hc)
  · rw [String.toList_append, String.toList_append, toList_colons, toList_colons, List.mem_append,
      List.mem_append] at hc
    rcases hc with (hc | hc) | hc
    · exact digitChar_of_mem_joined hc
    · left
      simpa using hc
    · exact digitChar_of_mem_joined hc

end ResilientChannel.Url.Ipv6
