import Bookpress.Conversion.Basic
import Bookpress.Proofs.Citation.Carrying
import Bookpress.Proofs.Citation.Encoding

/-!
# The end of a cited document

A bibliography and the end of the document hold no links, and no brace in them belongs to the text
before.

* `misses_bibliography`, `balanced_listing` : no link and no loose brace stands in a bibliography.
* `appendix_ending` : so they may be added behind any text.
-/

namespace Bookpress
namespace Citation

open Tex

theorem misses_command {name : String} {x : Char} {v : Text} (hname : name.toList = x :: v)
    (hx : x ≠ 'h') (hv : '\\' ∉ x :: v) {w : Text} (hw : '\\' ∉ w) :
    Text.Misses readLink (Tex.control name ++ w) :=
  (misses_control hname hx hv).append (misses_of_not_mem hw)

theorem misses_item (e : Entry) : Text.Misses readLink e.item := by
  have digits := Text.slash_not_mem_ofNat e.number
  have target := slash_not_mem_encode e.target
  have hfront : Text.Misses readLink (Tex.control "bibitem"
      ++ ('[' :: (Text.ofNat e.number ++ (']' :: '{' :: (Text.ofNat e.number ++ ['}', '{']))))) :=
    misses_command String.toList_ofList (by decide) (by decide) (by simp [digits])
  have hurl : Text.Misses readLink
      (Tex.control "url" ++ '{' :: (encode e.target ++ ['}', '}', '\n'])) :=
    misses_command String.toList_ofList (by decide) (by decide) (by simp [target])
  have := hfront.append hurl
  simpa [Entry.item, line, group, command_one] using this

theorem misses_items (es : List Entry) : Text.Misses readLink (es.flatMap Entry.item) := by
  induction es with
  | nil => trivial
  | cons e es ih => exact (misses_item e).append ih

theorem balanced_item (e : Entry) : Balanced e.item := by
  have hnumber := Text.balanced_ofNat e.number
  have hurl : Balanced (Tex.control "url" ++ group (encode e.target)) :=
    (balanced_control (by decide)).append (balanced_group (balanced_encode e.target))
  have hitem : Balanced (Tex.control "bibitem") := balanced_control (by decide)
  rw [Entry.item, command_one]
  refine balanced_line (((hitem.append ?_).append (balanced_group hnumber)).append
    (balanced_group hurl))
  exact Balanced.cons (by decide) (hnumber.append (by decide))

theorem misses_ending : Text.Misses readLink Document.ending := by
  have hend : Text.Misses readLink (Tex.control "end" ++ "{document}\n".toList) :=
    misses_command String.toList_ofList (by decide) (by decide) (by decide_cbv)
  have := (misses_of_not_mem (u := ['\n']) (by decide)).append hend
  simpa [Document.ending, closeEnv, line, group, command_one] using this

theorem balanced_items (es : List Entry) : Balanced (es.flatMap Entry.item) := by
  induction es with
  | nil => exact .nil
  | cons e es ih => exact (balanced_item e).append ih

/-- the bibliography of some entries, from its first letter on. -/
def listing (es : List Entry) : Text :=
  "begin".toList ++ (group "thebibliography".toList ++ (group (Text.ofNat es.length) ++ '\n' ::
    (es.flatMap Entry.item ++ line (closeEnv "thebibliography"))))

theorem bibliography_eq {es : List Entry} (h : es ≠ []) : bibliography es = '\\' :: listing es := by
  simp [bibliography, h, listing, line, openEnv, command_one, Tex.control]

theorem balanced_listing (es : List Entry) :
    Balanced (listing es) ∧ Balanced ('\\' :: listing es) := by
  have hrest : Balanced (group "thebibliography".toList ++ (group (Text.ofNat es.length) ++ '\n' ::
      (es.flatMap Entry.item ++ line (closeEnv "thebibliography")))) :=
    (balanced_group (balanced_toList (by decide))).append
      ((balanced_group (Text.balanced_ofNat _)).append (Balanced.cons (by decide)
        ((balanced_items es).append (balanced_line (balanced_closeEnv (by decide))))))
  have hbegin : Balanced (Tex.control "begin") := balanced_control (by decide)
  exact ⟨(balanced_toList (by decide)).append hrest, hbegin.append hrest⟩

theorem misses_bibliography (es : List Entry) : Text.Misses readLink (bibliography es) := by
  have digits := Text.slash_not_mem_ofNat es.length
  have hopen : Text.Misses readLink (Tex.control "begin"
      ++ ("{thebibliography}".toList ++ '{' :: (Text.ofNat es.length ++ ['}', '\n']))) :=
    misses_command String.toList_ofList (by decide) (by decide) (by simp [digits])
  have hclose : Text.Misses readLink (Tex.control "end" ++ "{thebibliography}\n".toList) :=
    misses_command String.toList_ofList (by decide) (by decide) (by decide_cbv)
  unfold bibliography
  split
  · trivial
  · have := (hopen.append (misses_items es)).append hclose
    simpa [line, openEnv, closeEnv, group, command_one] using this

theorem appendix_ending (es : List Entry) : Appendix (bibliography es ++ Document.ending) := by
  have hclose : Balanced (line (closeEnv "document")) :=
    balanced_line (balanced_closeEnv (by decide))
  have hending : Balanced Document.ending := Balanced.cons (by decide) hclose
  have hmisses := (misses_bibliography es).append misses_ending
  by_cases hes : es = []
  · subst hes
    refine ⟨hending, hclose, fun c hc => ?_, hmisses⟩
    obtain rfl : '\n' = c := Option.some.inj hc
    decide_cbv
  · have hlist := balanced_listing es
    rw [bibliography_eq hes] at hmisses ⊢
    refine ⟨hlist.2.append hending, hlist.1.append hending, fun c hc => ?_, hmisses⟩
    obtain rfl : '\\' = c := Option.some.inj hc
    decide_cbv

end Citation
end Bookpress
