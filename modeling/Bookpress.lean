import Bookpress.Book.Basic
import Bookpress.Book.Embed
import Bookpress.Book.Reading
import Bookpress.Citation.Bibliography
import Bookpress.Citation.Link
import Bookpress.Citation.Percent
import Bookpress.CommandLine.Basic
import Bookpress.CommandLine.Run
import Bookpress.CommandLine.Summary
import Bookpress.CommandLine.Words
import Bookpress.Conversion.Basic
import Bookpress.Conversion.Page
import Bookpress.Decimal.Binary
import Bookpress.Decimal.Fixed
import Bookpress.Decimal.Shortest
import Bookpress.Digest.Md5
import Bookpress.Disk.Basic
import Bookpress.Disk.Path
import Bookpress.Document.Basic
import Bookpress.Document.Compose
import Bookpress.Document.Element
import Bookpress.Document.Print
import Bookpress.Gallery.Basic
import Bookpress.Gallery.Serve
import Bookpress.Html.Builder.Basic
import Bookpress.Html.Builder.Body
import Bookpress.Html.Builder.Feed
import Bookpress.Html.Builder.Formats
import Bookpress.Html.Builder.Head
import Bookpress.Html.Builder.Table
import Bookpress.Html.Dom
import Bookpress.Html.Lexer
import Bookpress.Html.Named
import Bookpress.Html.Reference
import Bookpress.Html.Select
import Bookpress.Html.Token
import Bookpress.Journal
import Bookpress.Json
import Bookpress.Length.Scalar
import Bookpress.Length.Sizing
import Bookpress.Main
import Bookpress.Markup.Fragment
import Bookpress.Markup.Span
import Bookpress.Markup.Tag
import Bookpress.Picture.Bytes
import Bookpress.Picture.Format
import Bookpress.Picture.Gif
import Bookpress.Picture.Grid
import Bookpress.Picture.Inflate
import Bookpress.Picture.Jpeg
import Bookpress.Picture.Pixmap
import Bookpress.Picture.Png
import Bookpress.Proofs.Book.Previews
import Bookpress.Proofs.Citation.Bytewise
import Bookpress.Proofs.Citation.Carrying
import Bookpress.Proofs.Citation.Encoding
import Bookpress.Proofs.Citation.Ending
import Bookpress.Proofs.Citation.Listing
import Bookpress.Proofs.Citation.Marking
import Bookpress.Proofs.Citation.Meaning
import Bookpress.Proofs.Citation.Numbering
import Bookpress.Proofs.Citation.Places
import Bookpress.Proofs.Citation.Scanning
import Bookpress.Proofs.Citation.Survival
import Bookpress.Proofs.Citation.Tidying
import Bookpress.Proofs.Conversion.Finishing
import Bookpress.Proofs.Conversion.Traces
import Bookpress.Proofs.Disk.Folder
import Bookpress.Proofs.Disk.Growing
import Bookpress.Proofs.Disk.Parts
import Bookpress.Proofs.Disk.Slashes
import Bookpress.Proofs.Document.Again
import Bookpress.Proofs.Document.Enclosing
import Bookpress.Proofs.Document.Numbers
import Bookpress.Proofs.Document.Orders
import Bookpress.Proofs.Document.Walk
import Bookpress.Proofs.Gallery.Calls
import Bookpress.Proofs.Gallery.Darkroom
import Bookpress.Proofs.Gallery.Filling
import Bookpress.Proofs.Gallery.Runs
import Bookpress.Proofs.Gallery.Slots
import Bookpress.Proofs.Gallery.Stock
import Bookpress.Proofs.Gallery.Tally
import Bookpress.Proofs.Gallery.Visits
import Bookpress.Proofs.Length.Bounds
import Bookpress.Proofs.Length.Printing
import Bookpress.Proofs.Markup.Balance
import Bookpress.Proofs.Markup.Depth
import Bookpress.Proofs.Markup.Emphasis
import Bookpress.Proofs.Markup.Finding
import Bookpress.Proofs.Markup.Flow
import Bookpress.Proofs.Markup.Folding
import Bookpress.Proofs.Markup.Formula
import Bookpress.Proofs.Markup.Lines
import Bookpress.Proofs.Markup.Links
import Bookpress.Proofs.Markup.Marks
import Bookpress.Proofs.Markup.Naming
import Bookpress.Proofs.Markup.Pictures
import Bookpress.Proofs.Markup.Pieces
import Bookpress.Proofs.Markup.Rounds
import Bookpress.Proofs.Markup.Rules
import Bookpress.Proofs.Markup.Spans
import Bookpress.Proofs.Markup.Tables
import Bookpress.Proofs.Markup.Untagged
import Bookpress.Proofs.Markup.Verbatim
import Bookpress.Proofs.Markup.Writing
import Bookpress.Proofs.Picture.Bounds
import Bookpress.Proofs.Picture.Reading
import Bookpress.Proofs.Picture.Trimming
import Bookpress.Proofs.Tex.Breaking
import Bookpress.Proofs.Tex.Decoding
import Bookpress.Proofs.Tex.Escaping
import Bookpress.Proofs.Tex.Fitting
import Bookpress.Proofs.Tex.Leaving
import Bookpress.Proofs.Tex.Nesting
import Bookpress.Proofs.Tex.NormalForm
import Bookpress.Proofs.Tex.Squeezing
import Bookpress.Proofs.Tex.Tokens
import Bookpress.Proofs.Tex.Typesetting
import Bookpress.Proofs.Tex.Wrapping
import Bookpress.Proofs.Text.Bytes
import Bookpress.Proofs.Text.Casing
import Bookpress.Proofs.Text.Counting
import Bookpress.Proofs.Text.Gaps
import Bookpress.Proofs.Text.Numerals
import Bookpress.Proofs.Text.Rewriting
import Bookpress.Proofs.Text.Searching
import Bookpress.Proofs.Text.Splitting
import Bookpress.Settings.Basic
import Bookpress.Settings.Language
import Bookpress.Tex.Brace
import Bookpress.Tex.Command
import Bookpress.Tex.Escape
import Bookpress.Tex.Graphic
import Bookpress.Tex.Symbol
import Bookpress.Tex.Tidy
import Bookpress.Tex.Wrap
import Bookpress.Text.Basic
import Bookpress.Text.Blank
import Bookpress.Text.Quoted
import Bookpress.Text.Ranges
import Bookpress.Text.Search
import Bookpress.Text.Upper
import Bookpress.Text.Word
import Bookpress.Web.Host
import Bookpress.Web.Punycode
import Bookpress.Web.Resolve
import Bookpress.Web.Url
