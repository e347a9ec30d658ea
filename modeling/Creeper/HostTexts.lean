import Creeper.BindingRoundTrips
import Creeper.ResultCodec

/-!
# Texts of hostnames

Spaces at the ends of a text, and the hostnames that `normalize_official` leaves as they are.
-/

namespace Creeper.HostTexts
open Creeper.PyText Creeper.JsonText Creeper.EvidenceTasks Creeper.EvidenceSemantics
open Creeper.BatchPayload (charsOf charsOf_py)
open Creeper.BindingRoundTrips (strip_solid)
open Creeper.ResultCodec (official_chars hostChar_ascii)
open Creeper.FabricModels (blank)

/-- `str.lower` leaves ASCII in lower case as it is. -/
def Lowers (p : Python) : Prop := ∀ text : List Char, text.all (fun c => c.toNat < 128 && !c.isUpper) = true →
    p.lower (text.map .char) = text.map .char

theorem stripText_eq_nil (text : PyStr) : stripText text = [] ↔ ∀ c ∈ text, spaceAt c = true := by
  unfold stripText
  rw [List.reverse_eq_nil_iff, List.dropWhile_eq_nil_iff]
  constructor
  · intro spaces
    have none_ : text.dropWhile spaceAt = [] := by
      by_contra some_
      have first := List.head_dropWhile_not (p := spaceAt) some_
      exact absurd (spaces _ (List.mem_reverse.mpr (List.head_mem some_))) (by simp [first])
    exact List.dropWhile_eq_nil_iff.mp none_
  · intro spaces c member
    exact spaces c ((List.dropWhile_suffix spaceAt).subset (List.mem_reverse.mp member))

theorem stripText_py (text : String) : stripText (py text) = [] ↔ blank text = true := by
  rw [stripText_eq_nil, blank, List.all_eq_true]
  simp [py, spaceAt]

/-- A text that begins with no space keeps what it begins with. -/
theorem stripText_front {first rest : PyStr} (solid : ∀ c ∈ first, spaceAt c = false) (some_ : first ≠ []) :
    ∃ more, stripText (first ++ rest) = first ++ more := by
  have front : (first ++ rest).dropWhile spaceAt = first ++ rest := by
    obtain ⟨c, others, rfl⟩ := List.exists_cons_of_ne_nil some_
    rw [List.cons_append, List.dropWhile_cons_of_neg (by simp [solid c List.mem_cons_self])]
  have back : first.reverse.dropWhile spaceAt = first.reverse := by
    rw [List.dropWhile_eq_self_iff]
    intro long
    rw [solid _ (List.mem_reverse.mp (List.getElem_mem long))]
    exact Bool.false_ne_true
  unfold stripText
  rw [front, List.reverse_append, List.dropWhile_append]
  split_ifs
  · exact ⟨[], by rw [back, List.reverse_reverse, List.append_nil]⟩
  · exact ⟨_, by rw [List.reverse_append, List.reverse_reverse]⟩

theorem normalizeOfficial_official {p : Python} (lowers : Lowers p) {hostname : String} (official : officialHost hostname = true) :
    p.normalizeOfficial (py hostname) = some hostname := by
  have solid := official_chars official
  have strips : stripText (py hostname) = py hostname := by
    refine strip_solid fun c member => ?_
    obtain ⟨d, listed, rfl⟩ := List.mem_map.mp member
    exact (hostChar_ascii (solid d listed)).2.2
  have low : p.lower (py hostname) = py hostname := by
    refine lowers hostname.toList (List.all_eq_true.mpr fun c member => ?_)
    obtain ⟨small, other, -⟩ := hostChar_ascii (solid c member)
    simp [small, other]
  rw [EvidenceSemantics.Python.normalizeOfficial, strips, low, charsOf_py]
  simp [official]

end Creeper.HostTexts
