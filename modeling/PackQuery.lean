import PackQuery.Attributes.Assignment
import PackQuery.Main
import PackQuery.Version.Order
import PackQuery.Files.Tree
import PackQuery.Proofs.Version.Range
import PackQuery.Proofs.Version.Compatible
import PackQuery.Proofs.Version.Metadata
import PackQuery.Proofs.Version.Notation
import PackQuery.Proofs.Version.Selector
import PackQuery.Proofs.Version.KeyOrder
import PackQuery.Proofs.Catalog.Resolution
import PackQuery.Proofs.Vendor.Spelling
import PackQuery.Proofs.Regex.Matching
import PackQuery.Proofs.Regex.Token
import PackQuery.Proofs.Vendor.CanonicalName
import PackQuery.Proofs.Wildcard.Language
import PackQuery.Proofs.Attributes.UniqueId
import PackQuery.Proofs.Letter
import PackQuery.Proofs.Numeral
import PackQuery.Proofs.Version.Strict
import PackQuery.Proofs.Vendor.CanonicalMatch
import PackQuery.Proofs.Version.StrictGrammar
import PackQuery.Proofs.Settings.Merging
import PackQuery.Proofs.Vendor.FullForm
import PackQuery.Proofs.Attributes.Storage
import PackQuery.Proofs.Attributes.Likeness
import PackQuery.Proofs.Version.GluedRelease
import PackQuery.Proofs.Version.NextMajor
import PackQuery.Proofs.Version.Sorting
import PackQuery.Proofs.Attributes.Change
import PackQuery.Proofs.Catalog.Index
import PackQuery.Proofs.Attributes.Argument
import PackQuery.Proofs.Text.Numeral
import PackQuery.Proofs.Version.ReleaseChain
import PackQuery.Proofs.Catalog.RoundTrip
import PackQuery.Proofs.Settings.RoundTrip
