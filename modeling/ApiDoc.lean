import ApiDoc.Main
import ApiDoc.Proofs.Absorption
import ApiDoc.Proofs.Merge
import ApiDoc.Proofs.WellFormed
import ApiDoc.Proofs.MergeLaws
import ApiDoc.Proofs.Fold
import ApiDoc.Proofs.Combination
import ApiDoc.Proofs.Acceptance
import ApiDoc.Proofs.Permutation
import ApiDoc.Proofs.Results
import ApiDoc.Proofs.Documents
import ApiDoc.Proofs.Grouping
import ApiDoc.Proofs.Sequential
import ApiDoc.Proofs.Repetition
import ApiDoc.Proofs.Words
import ApiDoc.Proofs.LexedTokens
import ApiDoc.Proofs.TypeTokens
import ApiDoc.Proofs.Grammar
import ApiDoc.Proofs.RoundTrip
import ApiDoc.Proofs.TypeTexts
import ApiDoc.Proofs.Identity
import ApiDoc.Proofs.Fields
import ApiDoc.Proofs.Headers
import ApiDoc.Proofs.Runs
import ApiDoc.Proofs.Isolation
import ApiDoc.Proofs.References
import ApiDoc.Proofs.Links
import ApiDoc.Proofs.Extension
import ApiDoc.Proofs.Accounts
import ApiDoc.Proofs.JsonTexts
import ApiDoc.Proofs.Shapes
import ApiDoc.Proofs.WrittenRegistries
import ApiDoc.Proofs.WrittenTypes
import ApiDoc.Proofs.Changes
import ApiDoc.Proofs.Outcomes
import ApiDoc.Proofs.ShortNames
import ApiDoc.Proofs.Levels
import ApiDoc.Proofs.OutermostLinks
import ApiDoc.Proofs.InlineMarkup
import ApiDoc.Proofs.Positions
import ApiDoc.Proofs.Sections
import ApiDoc.Proofs.Filling
import ApiDoc.Proofs.ConstantPages
import ApiDoc.Proofs.Listings
import ApiDoc.Proofs.SelectedPages
import ApiDoc.Proofs.HeaderClauses
import ApiDoc.Proofs.ConstructorNames
import ApiDoc.Proofs.ArraySuffixes
import ApiDoc.Proofs.Lexemes
