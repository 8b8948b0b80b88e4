import ResilientChannel.Proofs.Text.Joined
import ResilientChannel.Url.Ipv4

/-!
IPv4 addresses are read as they are written.

The written form is four decimal bytes between full stops. Each of them is read as the number that it is
(`number?_byte`), and the four numbers make up the address (`assemble_bytes`), so reading the written form of
an address gives the address (`parse_text`).
-/

namespace ResilientChannel.Url.Ipv4

variable (a : Ipv4)

lemma toList_text : a.text.toList = ['.'].intercalate (a.bytes.map (Nat.toDigits 10)) := by
  rw [text, String.toList_intercalate, List.map_map]
  congr 1
  exact List.map_congr_left fun b _ => Nat.toList_repr

lemma byte_lt {b : Nat} (hb : b ∈ a.bytes) : b < 256 := by
  have hvalue := a.value.toNat_lt
  simp only [bytes, Nat.shiftRight_eq_div_pow, List.mem_cons, List.not_mem_nil, or_false] at hb
  omega

/-- The digits of a byte are read as the number that they write, none of the other bases coming in. -/
lemma number?_byte {b : Nat} (hb : b < 256) : number? (Nat.toDigits 10 b) = some b :=
  (by decide +kernel : ∀ b < 256, number? (Nat.toDigits 10 b) = some b) b hb

lemma exists_digitChar {c : Char} (hc : c.isDigit = true) : ∃ d < 10, c = Nat.digitChar d := by
  have hbounds : 48 ≤ c.toNat ∧ c.toNat ≤ 57 := by
    simpa [Char.isDigit, UInt32.le_iff_toNat_le] using hc
  refine ⟨c.toNat - 48, by omega, ?_⟩
  rw [(by decide : ∀ d < 10, Nat.digitChar d = Char.ofNat (d + 48)) _ (by omega),
    Nat.sub_add_cancel hbounds.1, Char.ofNat_toNat]

/-- An address is written in decimal digits and full stops. -/
lemma digitChar_of_mem_text {c : Char} (hc : c ∈ a.text.toList) :
    c = '.' ∨ ∃ d < 10, c = Nat.digitChar d := by
  rw [toList_text] at hc
  refine (Text.mem_of_mem_intercalate hc).imp List.mem_singleton.mp fun ⟨digits, hdigits, hc⟩ => ?_
  obtain ⟨b, -, rfl⟩ := List.mem_map.mp hdigits
  exact exists_digitChar (Nat.isDigit_of_mem_toDigits (by decide) (by decide) hc)

lemma text_ne_nil : a.text.toList ≠ [] := by
  rw [toList_text, bytes, List.map_cons, List.map_cons, List.intercalate_cons_cons]
  simp

lemma labels_text : labels a.text.toList = a.bytes.map (Nat.toDigits 10) := by
  rw [labels, toList_text]
  refine List.splitOn_intercalate '.' (fun l hl hdot => ?_) (by simp [bytes])
  obtain ⟨b, -, rfl⟩ := List.mem_map.mp hl
  exact absurd (Nat.isDigit_of_mem_toDigits (by decide) (by decide) hdot) (by decide)

lemma dropFinalEmpty_labels :
    dropFinalEmpty (labels a.text.toList) = a.bytes.map (Nat.toDigits 10) := by
  rw [labels_text, dropFinalEmpty, if_neg]
  intro hlast
  obtain ⟨b, -, hb⟩ := List.mem_map.mp (List.mem_of_getLast? hlast)
  exact Nat.toDigits_ne_nil hb

lemma endsInNumber_text : endsInNumber a.text.toList = true := by
  have hlast : (a.bytes.map (Nat.toDigits 10)).getLast? =
      some (Nat.toDigits 10 (a.value.toNat % 256)) := rfl
  have hread : number? (Nat.toDigits 10 (a.value.toNat % 256)) = some (a.value.toNat % 256) :=
    number?_byte (Nat.mod_lt _ (by decide))
  rw [endsInNumber, dropFinalEmpty_labels, hlast]
  simp [hread]

/-- Four bytes make up the address that they were taken from. -/
lemma assemble_bytes : assemble a.bytes.dropLast (a.value.toNat % 256) = some a := by
  have hvalue := a.value.toNat_lt
  have hsum : ((256 * (256 * (256 * 0 + a.value.toNat >>> 24) + (a.value.toNat >>> 16) % 256)) +
      (a.value.toNat >>> 8) % 256) * 256 + a.value.toNat % 256 = a.value.toNat := by
    simp only [Nat.shiftRight_eq_div_pow]
    omega
  have hlead : a.value.toNat >>> 24 < 256 := a.byte_lt List.mem_cons_self
  have hbytes : a.bytes.dropLast =
      [a.value.toNat >>> 24, (a.value.toNat >>> 16) % 256, (a.value.toNat >>> 8) % 256] := rfl
  rw [assemble, hbytes, if_pos]
  · have hroom : 1 <<< (8 * (4 - 3)) = 256 := rfl
    simp only [List.length_cons, List.length_nil, List.foldl_cons, List.foldl_nil, Nat.zero_add,
      Nat.reduceAdd, hroom, hsum, UInt32.ofNat_toNat]
  · simp [hlead, Nat.mod_lt]

/-- **Reading a written address** gives the address. -/
lemma parse_text : parse a.text.toList = .ok a := by
  have hnumbers : (a.bytes.map (Nat.toDigits 10)).mapM number? = some (a.bytes.map id) := by
    rw [List.mapM_map]
    exact Text.mapM_eq_some fun b hb => number?_byte (a.byte_lt hb)
  have hlast : a.bytes.getLast? = some (a.value.toNat % 256) := rfl
  rw [parse, dropFinalEmpty_labels, hnumbers, List.map_id]
  simp only [hlast, assemble_bytes]

end ResilientChannel.Url.Ipv4
