import Mathlib.Data.List.Basic
import ResilientChannel.Endpoints
import ResilientChannel.Proofs.Url.Fragment

/-!
Fragment marks in the base of the polling endpoint.

The base is meant to hold no fragment mark. It is the page's URL without the first one, so it does for pages
with one mark at most; any further mark stays, and what is put behind the base, mount, path and socket id,
comes to stand in a fragment.

* **Slash and marks.** A slash at the end is put on or there already (`slashed`), which changes no mark
  (`count_slashed`); so the base has one mark less than the page (`count_baseUrl`).
* **The normal form.** `bareUrl` takes out every mark (`count_bareUrl`), and the base is that exactly if the
  page has one mark at most (`baseUrl_eq_bareUrl_iff`).
* `baseUrl_bare_iff`: all that depends on the number of marks.
* `polled_without_id`: a page that loses the socket id.
-/

namespace ResilientChannel.Endpoints

open ResilientChannel.Url.Parser

/-- The text with a slash at its end. -/
def slashed (cs : List Char) : List Char := if cs.getLast? = some '/' then cs else cs ++ ['/']

/-- The page's URL without any fragment mark and with a slash at its end. -/
def bareUrl (page : String) : String := String.ofList (slashed (page.toList.filter (· ≠ '#')))

/-- What is put behind the base. -/
def pollingTail (mount id : String) : String := mount ++ Parameters.pollingPath ++ idQuery id

/-! ### Slash and marks -/

lemma getLast?_slashed (cs : List Char) : (slashed cs).getLast? = some '/' := by
  rw [slashed]
  split
  · assumption
  · exact List.getLast?_concat

lemma count_slashed (cs : List Char) : (slashed cs).count '#' = cs.count '#' := by
  rw [slashed]
  split
  · rfl
  · rw [List.count_append]
    rfl

lemma slashed_of_getLast? {cs : List Char} (h : cs.getLast? = some '/') : slashed cs = cs := if_pos h

lemma toList_baseUrl (page : String) : (baseUrl page).toList = slashed (page.toList.erase '#') :=
  String.toList_ofList

lemma getLast?_baseUrl (page : String) : (baseUrl page).toList.getLast? = some '/' := by
  rw [toList_baseUrl, getLast?_slashed]

/-- The base has one fragment mark less than the page. -/
lemma count_baseUrl (page : String) :
    (baseUrl page).toList.count '#' = page.toList.count '#' - 1 := by
  rw [toList_baseUrl, count_slashed, List.count_erase_self]

lemma mark_mem_baseUrl {page : String} : '#' ∈ (baseUrl page).toList ↔ 2 ≤ page.toList.count '#' := by
  rw [← List.count_pos_iff, count_baseUrl]
  omega

/-! ### The normal form -/

lemma count_bareUrl (page : String) : (bareUrl page).toList.count '#' = 0 := by
  rw [bareUrl, String.toList_ofList, count_slashed, List.count_eq_zero]
  simp

lemma erase_eq_filter {cs : List Char} (h : cs.count '#' ≤ 1) :
    cs.erase '#' = cs.filter (· ≠ '#') := by
  induction cs with
  | nil => rfl
  | cons c cs ih =>
    by_cases hc : c = '#'
    · subst hc
      have hnone : cs.count '#' = 0 := by
        rw [List.count_cons_self] at h
        omega
      rw [List.erase_cons_head, List.filter_cons_of_neg (by simp), List.filter_eq_self.mpr]
      intro c hmem
      rw [decide_eq_true_eq]
      rintro rfl
      exact List.count_eq_zero.mp hnone hmem
    · rw [List.erase_cons_tail (by simpa using hc), List.filter_cons_of_pos (by simpa using hc), ih]
      rwa [List.count_cons_of_ne hc] at h

lemma baseUrl_eq_bareUrl_iff {page : String} :
    baseUrl page = bareUrl page ↔ page.toList.count '#' ≤ 1 := by
  refine ⟨fun h => ?_, fun h => ?_⟩
  · have hcount := count_baseUrl page
    rw [h, count_bareUrl] at hcount
    omega
  · rw [bareUrl, ← erase_eq_filter h]
    rfl

lemma baseUrl_baseUrl_iff {page : String} :
    baseUrl (baseUrl page) = baseUrl page ↔ page.toList.count '#' ≤ 1 := by
  refine ⟨fun h => ?_, fun h => ?_⟩
  · have hcount := count_baseUrl (baseUrl page)
    rw [h, count_baseUrl] at hcount
    omega
  · have hmark : '#' ∉ (baseUrl page).toList := by
      rw [mark_mem_baseUrl]
      omega
    rw [← String.toList_inj, toList_baseUrl, List.erase_of_not_mem hmark,
      slashed_of_getLast? (getLast?_baseUrl page)]

/-! ### The polling endpoint -/

lemma pollingEndpoint_eq_ok {page mount id endpoint : String}
    (h : pollingEndpoint page mount id = .ok endpoint) :
    endpoint.toList = (baseUrl page).toList ++ (pollingTail mount id).toList := by
  unfold pollingEndpoint at h
  split at h
  · cases h
  · cases h
    simp [pollingTail, String.append_assoc]

/-- **One mark at most.** The base ends with a slash always. It has one fragment mark less than the page, so
exactly for pages with one mark at most it is the page's URL without any mark, holds no mark, and is its own
base. For these pages the fragment of the polling endpoint comes from the mount and the socket id alone, and
for all others everything that is put behind the base stands in a fragment. -/
theorem baseUrl_bare_iff (page mount id : String) :
    (baseUrl page).toList.getLast? = some '/' ∧
      (baseUrl page).toList.count '#' = page.toList.count '#' - 1 ∧
      (baseUrl page = bareUrl page ↔ page.toList.count '#' ≤ 1) ∧
      ('#' ∉ (baseUrl page).toList ↔ page.toList.count '#' ≤ 1) ∧
      (baseUrl (baseUrl page) = baseUrl page ↔ page.toList.count '#' ≤ 1) ∧
      ∀ endpoint, pollingEndpoint page mount id = .ok endpoint →
        (page.toList.count '#' ≤ 1 →
          behindMark endpoint.toList = behindMark (pollingTail mount id).toList) ∧
        (2 ≤ page.toList.count '#' →
          (pollingTail mount id).toList <:+ behindMark endpoint.toList) ∧
        ∀ u, Url.parse endpoint = .ok u →
          (u.fragment = none ↔ page.toList.count '#' ≤ 1 ∧ '#' ∉ (pollingTail mount id).toList) := by
  have hmark : '#' ∉ (baseUrl page).toList ↔ page.toList.count '#' ≤ 1 := by
    rw [mark_mem_baseUrl]
    omega
  refine ⟨getLast?_baseUrl page, count_baseUrl page, baseUrl_eq_bareUrl_iff, hmark,
    baseUrl_baseUrl_iff, fun endpoint hendpoint => ?_⟩
  have htext := pollingEndpoint_eq_ok hendpoint
  refine ⟨fun hfew => ?_, fun hmany => ?_, fun u hu => ?_⟩
  · rw [htext, behindMark_append (hmark.mpr hfew)]
  · rw [htext, behindMark_append_of_mem (mark_mem_baseUrl.mpr hmany)]
    exact List.suffix_append _ _
  · rw [Url.fragment_eq_none_iff hu, htext, List.mem_append, not_or, hmark]

/-- A second fragment mark behind the one taken out: the base keeps it and is not its own base, and the
polls leave path and socket id out. -/
theorem polled_without_id :
    baseUrl "http://[::1]/app#/a#b" = "http://[::1]/app/a#b/" ∧
      bareUrl "http://[::1]/app#/a#b" = "http://[::1]/app/ab/" ∧
      baseUrl "http://[::1]/app/a#b/" = "http://[::1]/app/ab/" ∧
      ((pollingEndpoint "http://[::1]/app#/a#b" "" "i").toOption =
        some "http://[::1]/app/a#b//async?SBSocketId=i") ∧
      ((Url.parse "http://[::1]/app/a#b//async?SBSocketId=i").toOption.map fun u =>
        (u.path.text, u.query, u.fragment)) = some ("/app/a", none, some "b//async?SBSocketId=i") := by
  decide +kernel

end ResilientChannel.Endpoints
