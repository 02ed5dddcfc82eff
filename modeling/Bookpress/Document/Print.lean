import Bookpress.Document.Basic
import Bookpress.Settings.Basic
import Bookpress.Tex.Command

/-!
# Printing documents

The LaTeX of a document: the preamble, which depends on the settings and the time alone, and the
text of the document up to its end.
-/

namespace Bookpress

open Tex

/-- the name and version that documents are signed with. -/
def signature : Text := "worksheet2tex 0.1.0".toList

namespace Document

/-- the line that loads a package. -/
def package (name : String) : Text := line (command "usepackage" [name.toList])

/-- the line that loads a package with an option. -/
def packageWith (option : Text) (name : String) : Text :=
  line (commandWith "usepackage" option [name.toList])

/-- the comment at the top. -/
def stampLines (stamp : Text) : Text :=
  line ("% This LaTeX document has been machine generated by ".toList ++ signature
    ++ " on ".toList ++ stamp ++ ['.'])
  ++ line (line "% Please visit https://www.geogebra.org for more information.".toList)

/-- the abstract, with a smaller distance below its title. -/
def abstractLines : Text :=
  line (command "renewenvironment" ["abstract".toList])
  ++ line ('{' :: (control "small" ++ ' ' :: (openEnv "center" ++ ' ' :: (control "bfseries"
    ++ ' ' :: (control "abstractname" ++ command "vspace" ["-.5em".toList]
      ++ command "vspace" ["0pt".toList])))))
  ++ line (closeEnv "center" ++ ' ' :: (control "list" ++ stop ++ "\x7b%".toList))
  ++ line (command "setlength" [control "parskip", "4pt".toList] ++ "\x7d%".toList)
  ++ line (control "item" ++ control "relax" ++ ['}'])
  ++ line (group (control "endlist"))

/-- a typewriter font that keeps quotation marks, which are quotes elsewhere. -/
def quoteLines : Text :=
  package "csquotes"
  ++ line (command "MakeOuterQuote" [['"']])
  ++ line (control "begingroup" ++ control "lccode" ++ "`~=`\"".toList)
  ++ line (control "lowercase" ++ '{' :: control "endgroup")
  ++ line (command "DeclareTextFontCommand" [control "texttt",
    control "ttfamily" ++ control "def" ++ '~' :: group ['"']] ++ ['%'])
  ++ line ['}']

/-- the preamble of a document. -/
def preamble (s : Settings) (stamp : Text) : Text :=
  stampLines stamp
  ++ line (command "documentclass" ["article".toList])
  ++ package "fullpage"
  ++ packageWith "utf8".toList "inputenc"
  ++ package "amssymb" ++ package "amsmath" ++ package "pbox" ++ package "fancybox"
  ++ line (command "renewcommand" [control "familydefault", control "sfdefault"])
  ++ line (command "newcommand" [control "hrefnoref", control "href"])
  ++ abstractLines
  ++ package "xcolor" ++ package "graphicx"
  ++ line (command "DeclareGraphicsExtensions" [".pdf,.png,.jpg".toList])
  ++ package "hyperref" ++ package "breakurl" ++ package "tabulary" ++ package "ctable"
  ++ packageWith ("greek,".toList ++ s.language.babel) "babel"
  ++ package "datetime"
  ++ quoteLines
  ++ package "float" ++ package "caption"
  ++ packageWith "official".toList "eurosym"
  ++ package "gensymb" ++ package "fixltx2e" ++ package "enumitem"
  ++ line (control "tolerance10000")
  ++ line (control "frenchspacing")
  ++ if s.noIndent then line (command "setlength" [control "parindent", "0pt".toList]) else []

/-- the lines of the title page and the table of contents. -/
def frontLines (d : Document) (s : Settings) : Text :=
  '\n' :: line (openEnv "document")
  ++ line (command "setlength" [control "parskip", "6pt plus0.2pt minus0.2pt".toList])
  ++ line (command "setlength" [control "fboxsep", "0pt".toList])
  ++ '\n' :: line (command "selectlanguage" [s.language.name])
  ++ line (command "title" [d.title])
  ++ line (command "author" [command "hrefnoref" [d.authorLink, d.authorName]])
  ++ line (command "date" [d.date])
  ++ line (control "maketitle")
  ++ (if d.summary = [] then []
    else '\n' :: line (openEnv "abstract") ++ line d.summary ++ line (line (closeEnv "abstract")))
  ++ line (control "tableofcontents")

/-- the command for the headings of subsections. -/
def headingCommand : Layout → String
  | .numbered => "subsection"
  | .simple => "section"

/-- the lines of a subsection. -/
def subsectionText (l : Layout) (s : Subsection) : Text :=
  line (command (headingCommand l) [s.title]) ++ s.body

/-- the lines of a section. -/
def sectionText (l : Layout) (s : Section) : Text :=
  (match s.title? with
  | some t => line (command "section" [t])
  | none => []) ++ s.subsections.flatMap (subsectionText l)

/-- the LaTeX after the preamble. -/
def body (d : Document) (s : Settings) : Text :=
  d.frontLines s ++ d.sections.flatMap (sectionText d.layout)

/-- the LaTeX of a document up to its end. -/
def toText (d : Document) (s : Settings) (stamp : Text) : Text := preamble s stamp ++ d.body s

/-- the end of a document. -/
def ending : Text := '\n' :: line (closeEnv "document")

end Document
end Bookpress
