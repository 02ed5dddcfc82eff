import Bookpress.Text.Basic

/-!
# Languages

The language of a document: the name that selects it, the name of its hyphenation option, and the
captions of figures made from interactive elements.
-/

namespace Bookpress

/-- the two names of a language in LaTeX. -/
structure Language where
  /-- the name that selects the language. -/
  name : Text
  /-- the option that loads it. -/
  babel : Text
deriving Repr, DecidableEq

/-- the language of a book unless it is chosen. -/
def Language.english : Language := ⟨"english".toList, "english".toList⟩

/-- the language of a two-letter code, with or without a country; German is loaded with its new
spelling.  An unknown code means English. -/
def Language.ofCode (code : Text) : Language :=
  if code = "hu".toList ∨ code = "hu_HU".toList then ⟨"magyar".toList, "magyar".toList⟩
  else if code = "de".toList then ⟨"german".toList, "ngerman".toList⟩
  else if code = "de_AT".toList then ⟨"austrian".toList, "naustrian".toList⟩
  else .english

/-- how the captions of interactive elements begin. -/
structure Labels where
  applet : Text
  video : Text
deriving Repr, DecidableEq

/-- the labels in the language of a name. -/
def Labels.ofLanguage (name : Text) : Labels :=
  if name = "magyar".toList then ⟨"Interaktív alkalmazás".toList, "Videó".toList⟩
  else if ["german".toList, "ngerman".toList, "austrian".toList, "naustrian".toList].contains name
  then ⟨"Interaktives Applet".toList, "Video".toList⟩
  else ⟨"Interactive applet".toList, "Video".toList⟩

end Bookpress
