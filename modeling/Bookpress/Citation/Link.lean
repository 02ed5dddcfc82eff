import Bookpress.Text.Search
import Bookpress.Tex.Brace

/-!
# Links

The links `\href{target}{caption}` of a document.  Target and caption are arguments between
balanced braces, and a link has a caption.

* `readLink_written` : a link is read back as it was written.
* `fill_written` : writing every link as it was found gives the text back.
-/

namespace Bookpress
namespace Citation

/-- a link of the document. -/
structure Link where
  target : Text
  caption : Text
deriving Repr, DecidableEq

/-- the link as it stands in the document. -/
def Link.written (l : Link) : Text := Tex.command "href" [l.target, l.caption]

/-- the link at the front. -/
def readLink (t : Text) : Option (Link × Text) :=
  match Text.strip? (Tex.control "href") t with
  | none => none
  | some r =>
    match Tex.readArgument r with
    | none => none
    | some (target, r) =>
      match Tex.readArgument r with
      | none => none
      | some (caption, r) => if caption = [] then none else some (⟨target, caption⟩, r)

/-- the links of a text, each with the text before it, and the text after the last. -/
def links (t : Text) : List (Text × Link) × Text := Text.cuts (Text.search readLink) t

theorem readLink_written {l : Link} (ht : Tex.Balanced l.target) (hc : Tex.Balanced l.caption)
    (hne : l.caption ≠ []) (r : Text) : readLink (l.written ++ r) = some (l, r) := by
  simp only [Link.written, Tex.command_two, List.append_assoc, readLink, Text.strip?_append,
    Tex.readArgument_group ht, Tex.readArgument_group hc]
  simp [hne]

theorem readLink_eq_some {t r : Text} {l : Link} (h : readLink t = some (l, r)) :
    t = l.written ++ r := by
  unfold readLink at h
  split at h
  · cases h
  · rename_i s hs
    split at h
    · cases h
    · rename_i target u hu
      split at h
      · cases h
      · rename_i caption v hv
        split at h
        · cases h
        · cases h
          rw [Text.strip?_eq_some.1 hs, Tex.readArgument_eq_some hu, Tex.readArgument_eq_some hv]
          simp [Link.written, Tex.command_two]

theorem fill_written (t : Text) : Text.fill Link.written (links t) = t :=
  Text.fill_cuts (fun t x h => by
    obtain ⟨s, hs, hr⟩ := Text.search_eq_some h
    rw [hs, readLink_eq_some hr]) t

end Citation
end Bookpress
