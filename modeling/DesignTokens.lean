import DesignTokens.Css.Scan
import DesignTokens.Main
import DesignTokens.Proofs.CommandLine.MisreadFiles
import DesignTokens.Proofs.CommandLine.Values
import DesignTokens.Proofs.CommandLine.Variants
import DesignTokens.Proofs.Config.ReadingBack
import DesignTokens.Proofs.Css.Agreement
import DesignTokens.Proofs.Css.ClassNames
import DesignTokens.Proofs.Css.ClassReferences
import DesignTokens.Proofs.Css.Comments
import DesignTokens.Proofs.Css.ExpandedRules
import DesignTokens.Proofs.Css.ReadingBack
import DesignTokens.Proofs.Css.Selectors
import DesignTokens.Proofs.Css.Widths
import DesignTokens.Proofs.Decimal.Denotation
import DesignTokens.Proofs.Expression.Formatting
import DesignTokens.Proofs.Mapping.LetterCase
import DesignTokens.Proofs.Mapping.Pending
import DesignTokens.Proofs.Mapping.Validity
import DesignTokens.Proofs.Naming
import DesignTokens.Proofs.Preview.Debouncing
import DesignTokens.Proofs.Preview.Reports
import DesignTokens.Proofs.Preview.UpToDate
import DesignTokens.Proofs.Render.Confirmation
import DesignTokens.Proofs.Render.Footprint
import DesignTokens.Proofs.Render.Grouping
import DesignTokens.Proofs.Render.History
import DesignTokens.Proofs.Render.Layout
import DesignTokens.Proofs.Render.Obstacles
import DesignTokens.Proofs.Render.Sections
import DesignTokens.Proofs.Token.Nesting
import DesignTokens.Proofs.Token.Overrides
import DesignTokens.Proofs.Token.Rekeying
