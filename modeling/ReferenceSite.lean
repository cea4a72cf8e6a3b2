import ReferenceSite.Main
import ReferenceSite.Proofs.Proto.Reach
import ReferenceSite.Proofs.Proto.WalkCourse
import ReferenceSite.Proofs.Proto.WalkReach
import ReferenceSite.Proofs.Proto.WalkCollision
import ReferenceSite.Proofs.Files.Lexical
import ReferenceSite.Proofs.Files.Growth
import ReferenceSite.Proofs.Page.ImageCopies
import ReferenceSite.Proofs.Page.DeadReferences
import ReferenceSite.Proofs.Page.Unfinished
import ReferenceSite.Proofs.Page.Publication
import ReferenceSite.Proofs.Text.Lines
import ReferenceSite.Proofs.Tables.Declaration
import ReferenceSite.Proofs.Tables.LineReading
import ReferenceSite.Proofs.Tables.OptionalType
import ReferenceSite.Proofs.Tables.ColumnReading
import ReferenceSite.Proofs.Tables.BodyReading
import ReferenceSite.Proofs.Tables.ColumnLines
import ReferenceSite.Proofs.Tables.Announcements
import ReferenceSite.Proofs.Tables.Location
import ReferenceSite.Proofs.Tables.HeaderReading
import ReferenceSite.Proofs.Proto.WalkTree
import ReferenceSite.Proofs.Proto.LoadedFiles
import ReferenceSite.Proofs.Markdown.PlainText
import ReferenceSite.Proofs.Markdown.TameText
import ReferenceSite.Proofs.Markdown.LinkText
import ReferenceSite.Proofs.Markdown.BlockLines
import ReferenceSite.Proofs.Markdown.RowText
import ReferenceSite.Proofs.Markdown.ShownText
import ReferenceSite.Proofs.Page.ShownNodes
import ReferenceSite.Proofs.Reference.Anchors
import ReferenceSite.Proofs.Reference.CommentSigns
import ReferenceSite.Proofs.Reference.Document
import ReferenceSite.Proofs.Reference.SectionText
import ReferenceSite.Proofs.Reference.LiveReferences
import ReferenceSite.Proofs.Reference.Provenance
import ReferenceSite.Proofs.Reference.CrossLinks
import ReferenceSite.Proofs.Proto.PoolSchema
import ReferenceSite.Proofs.Tables.Concatenation
import ReferenceSite.Proofs.Tables.ReadTables
import ReferenceSite.Proofs.Reference.ColumnRows
import ReferenceSite.Proofs.Tables.TableNames
import ReferenceSite.Proofs.Tables.LineEnds
import ReferenceSite.Proofs.Proto.WalkAgreement
import ReferenceSite.Proofs.Reference.UnrelatedTypes
import ReferenceSite.Proofs.Page.ShownTree
import ReferenceSite.Proofs.Page.EditInPlace
import ReferenceSite.Proofs.Files.Room
import ReferenceSite.Proofs.Page.Consulted
import ReferenceSite.Proofs.Page.PublishOrder
import ReferenceSite.Proofs.Outcome
import ReferenceSite.Proofs.Tables.CommentReach
import ReferenceSite.Proofs.Tables.UnreadableLines
import ReferenceSite.Proofs.Settings.Entries
import ReferenceSite.Proofs.Text.LowerCase
import ReferenceSite.Proofs.Settings.Reading
import ReferenceSite.Proofs.Settings.Layering
import ReferenceSite.Proofs.Text.Parts
import ReferenceSite.Proofs.Text.Brackets
import ReferenceSite.Proofs.Tables.Extent
import ReferenceSite.Proofs.Tables.LineGrammar
import ReferenceSite.Proofs.Tables.WholeWrapper
import ReferenceSite.Proofs.Tables.ColumnForm
import ReferenceSite.Proofs.Text.WholeLines
import ReferenceSite.Proofs.Comment.SingleLine
import ReferenceSite.Proofs.Comment.Bookkeeping
import ReferenceSite.Proofs.Proto.PackagePrefix
import ReferenceSite.Proofs.Markdown.RowLines
import ReferenceSite.Proofs.Reference.DescriptionCells
import ReferenceSite.Proofs.Reference.TableDocument
import ReferenceSite.Proofs.Reference.DescriptionRows
import ReferenceSite.Proofs.Proto.Resolution
import ReferenceSite.Proofs.Link.Class
import ReferenceSite.Proofs.Link.Target
import ReferenceSite.Proofs.Link.Spelling
import ReferenceSite.Proofs.Text.Runs
import ReferenceSite.Proofs.Anchor.Derived
import ReferenceSite.Proofs.Anchor.Marker
import ReferenceSite.Proofs.Markdown.TextLeaves
import ReferenceSite.Proofs.Page.HeadingAnchors
import ReferenceSite.Proofs.Page.HeadingWords
import ReferenceSite.Proofs.Page.AssetPlan
import ReferenceSite.Proofs.Proto.WalkNesting
import ReferenceSite.Proofs.Html.Value
import ReferenceSite.Proofs.Html.Element
import ReferenceSite.Proofs.Anchor.Markup
import ReferenceSite.Proofs.Settings.Levels
