import MarkupLayout.Session
import MarkupLayout.Settings.Folder
import MarkupLayout.Proofs.Text.Decoding
import MarkupLayout.Proofs.Text.Encoding
import MarkupLayout.Proofs.Text.Fields
import MarkupLayout.Proofs.Text.Gaps
import MarkupLayout.Proofs.Text.Runs
import MarkupLayout.Proofs.Text.Squeezing
import MarkupLayout.Proofs.Text.Subparts
import MarkupLayout.Proofs.Markup.Cutting
import MarkupLayout.Proofs.Markup.Joining
import MarkupLayout.Proofs.Markup.Kinds
import MarkupLayout.Proofs.Markup.Shapes
import MarkupLayout.Proofs.Markup.Splitting
import MarkupLayout.Proofs.Layout.Idempotence
import MarkupLayout.Proofs.Layout.Independence
import MarkupLayout.Proofs.Layout.Ink
import MarkupLayout.Proofs.Layout.Joining
import MarkupLayout.Proofs.Layout.Journals
import MarkupLayout.Proofs.Layout.Lines
import MarkupLayout.Proofs.Layout.Matching
import MarkupLayout.Proofs.Layout.Nesting
import MarkupLayout.Proofs.Layout.Placing
import MarkupLayout.Proofs.Layout.Position
import MarkupLayout.Proofs.Layout.Repetition
import MarkupLayout.Proofs.Layout.Respacing
import MarkupLayout.Proofs.Layout.Restyling
import MarkupLayout.Proofs.Layout.Separation
import MarkupLayout.Proofs.Layout.Settling
import MarkupLayout.Proofs.Layout.Survival
import MarkupLayout.Proofs.Layout.Wording
import MarkupLayout.Proofs.Layout.Writing
import MarkupLayout.Proofs.Settings.Filling
import MarkupLayout.Proofs.Settings.Reading
import MarkupLayout.Proofs.Settings.RoundTrip
import MarkupLayout.Proofs.Settings.TagLists
