import Bookpress.Proofs.Conversion.Traces
import Bookpress.Proofs.Tex.NormalForm

/-!
# The final form of a conversion

The last step of a conversion is to tidy the document.  Whatever was written before it, the LaTeX
of a conversion is in normal form and ends with the end of the document.

* `finish_eq` : what is finished ends with the end of the document.
* `exists_finish` : the LaTeX of a conversion is a finished text.
* `tidies_documents` : what tidying makes of a text, and so of the LaTeX of every conversion.
-/

namespace Bookpress
namespace Conversion

open Tex

/-- the end of a document behind its first backslash. -/
def endName : Text := "end".toList ++ group "document".toList

theorem not_isLoose_of_mem_endName : ∀ c ∈ endName, isLoose c = false := by
  unfold endName
  repeat rw [String.toList_ofList]
  decide

theorem closeEnv_document : closeEnv "document" = '\\' :: endName := by
  rw [closeEnv, command_one]
  rfl

theorem endName_eq : endName = ("end".toList ++ '{' :: "document".toList) ++ ['}'] := by
  simp [endName, group]

/-- **The end of a document is kept by tidying.** -/
theorem finish_eq (s : Settings) (t : Text) :
    finish s t = squeeze ((cited s t).1 ++ ['\n']) ++ line (closeEnv "document") := by
  have htext : (cited s t).1 ++ Document.ending
      = ((cited s t).1 ++ ['\n']) ++ '\\' :: (endName ++ ['\n']) := by
    simp [Document.ending, line, closeEnv_document]
  have htidy : tidy ((cited s t).1 ++ Document.ending)
      = squeeze ((cited s t).1 ++ Document.ending) := by
    have hclose := tidy_append_close ((cited s t).1 ++ ['\n'] ++
      '\\' :: ("end".toList ++ '{' :: "document".toList))
    rw [htext, endName_eq]
    simpa using hclose
  unfold finish
  rw [htidy, htext, squeeze_append_cons (by decide), squeeze_append not_isLoose_of_mem_endName,
    squeeze_newline, line, closeEnv_document]
  rfl

/-- the LaTeX of a conversion is a finished text. -/
theorem exists_finish (g : Gallery) (stamp html : Text) (s : Session) {c : Conversion}
    (h : ((ofHtml g stamp html).run.run s).1 = .ok c) : ∃ t, c.latex = finish g.settings t := by
  unfold ofHtml at h
  cases hb : Book.read html with
  | error m => rw [hb] at h; cases h
  | ok b =>
    rw [hb] at h
    dsimp only at h
    rw [run_ofBook] at h
    split at h
    · cases h
    · rw [← Except.ok.inj h, ofDocument]
      exact ⟨_, rfl⟩

/-- **Tidying brings every text into normal form, and leaves it alone from then on.**  Of each run
of line feeds that is there once line ends are unified and invisible characters dropped, at most
two are left, before white space is cut off at the end; all other characters are kept in their
order, up to that white space.  So the LaTeX of every conversion is in normal form, and ends with
the end of the document. -/
theorem tidies_documents (x : Text) :
    Normal (tidy x) ∧ tidy (tidy x) = tidy x ∧ tidy x = Text.trimEnd (squeeze x) ++ ['\n'] ∧
    (∀ a k b, dropInvisible (unifyLineEnds x) = a ++ (List.replicate k '\n' ++ b) →
      a.getLast? ≠ some '\n' → b.head? ≠ some '\n' →
        squeeze x = foldBlankLines a ++ (List.replicate (min k 2) '\n' ++ foldBlankLines b) ∧
          (foldBlankLines a).getLast? ≠ some '\n' ∧ (foldBlankLines b).head? ≠ some '\n') ∧
    (∃ w, (∀ c ∈ w, Text.isBlank c = true) ∧
      x.filter (fun c => !isLoose c) = (tidy x).filter (fun c => !isLoose c) ++ w) ∧
    ∀ (g : Gallery) (stamp html : Text) (s : Session) (c : Conversion),
      ((ofHtml g stamp html).run.run s).1 = .ok c →
        Normal c.latex ∧ "\\end{document}\n".toList <:+ c.latex := by
  refine ⟨normal_tidy x, tidy_of_normal (normal_tidy x), rfl, ?_, filter_tidy x, ?_⟩
  · intro a k b hx ha hb
    refine ⟨?_, getLast?_foldBlankLines ha, head?_foldBlankLines hb⟩
    rw [squeeze, hx, foldBlankLines_run k ha hb]
  · intro g stamp html s c h
    obtain ⟨t, ht⟩ := exists_finish g stamp html s h
    rw [ht]
    refine ⟨normal_tidy _, ?_⟩
    rw [finish_eq, show "\\end{document}\n".toList = line (closeEnv "document") by decide_cbv]
    exact List.suffix_append _ _

/-- line ends of all kinds, and an invisible character between them. -/
def mixedLines : Text := "a\x0d\n".toList ++ Char.ofNat 0x200B :: "\x0d\n\x0d b \n".toList

/-- a gallery without pictures. -/
def emptyHall : Gallery := ⟨⟨fun _ _ => .error [], fun _ => []⟩, .standard, .page []⟩

/-- the conversion of a page without worksheets. -/
def headingResult : Except Fault Conversion :=
  ((ofHtml emptyHall [] headingPage).run.run (.start .empty)).1

theorem exists_headingResult : ∃ c, headingResult = .ok c := by
  have hsome : headingResult.toOption.isSome = true := by decide +kernel
  cases hc : headingResult with
  | error f =>
    rw [hc] at hsome
    cases hsome
  | ok c => exact ⟨c, rfl⟩

/-- three line feeds come together, and two of them are left; a page without worksheets is
converted. -/
theorem tidies_documents_mixed :
    dropInvisible (unifyLineEnds mixedLines)
      = ['a'] ++ (List.replicate 3 '\n' ++ " b \n".toList) ∧
    ['a'].getLast? ≠ some '\n' ∧ " b \n".toList.head? ≠ some '\n' ∧
    squeeze mixedLines = "a\n\n b \n".toList ∧ Normal (tidy mixedLines) ∧
    ∃ c, headingResult = .ok c ∧ Normal c.latex ∧ "\\end{document}\n".toList <:+ c.latex := by
  have hx : dropInvisible (unifyLineEnds mixedLines)
      = ['a'] ++ (List.replicate 3 '\n' ++ " b \n".toList) := by decide +kernel
  have ha : ['a'].getLast? ≠ some '\n' := by decide
  have hb : " b \n".toList.head? ≠ some '\n' := by decide +kernel
  obtain ⟨hnormal, -, -, hruns, -, hconversions⟩ := tidies_documents mixedLines
  have hshown : foldBlankLines ['a'] ++ (List.replicate (min 3 2) '\n' ++
      foldBlankLines " b \n".toList) = "a\n\n b \n".toList := by decide +kernel
  refine ⟨hx, ha, hb, hshown ▸ (hruns _ 3 _ hx ha hb).1, hnormal, ?_⟩
  obtain ⟨c, hc⟩ := exists_headingResult
  refine ⟨c, hc, ?_⟩
  -- by the equation: to compare the two sides by evaluation runs the conversion
  rw [headingResult] at hc
  exact hconversions emptyHall [] headingPage (.start .empty) c hc

end Conversion
end Bookpress
