import PackageModel.Main
import PackageModel.Proofs.Soundness
import PackageModel.Proofs.Completeness
import PackageModel.Proofs.RoundTrip
import PackageModel.Proofs.Parsed
import PackageModel.Proofs.Siblings
import PackageModel.Proofs.Pipeline
import PackageModel.Proofs.Reading.Places
import PackageModel.Proofs.Token.Lossless
import PackageModel.Proofs.Content
import PackageModel.Proofs.Validation.Survivors
import PackageModel.Proofs.Validation.Violations
import PackageModel.Proofs.Validation.Walk
import PackageModel.Proofs.Validation
import PackageModel.Proofs.Validation.Rules
import PackageModel.Proofs.Validation.Permutation
import PackageModel.Proofs.Validation.Removal
import PackageModel.Proofs.Validation.Pairing
import PackageModel.Proofs.Viable
import PackageModel.Proofs.Outcome
import PackageModel.Proofs.Generic.Names
import PackageModel.Proofs.Conservation
import PackageModel.Proofs.Lookahead
import PackageModel.Proofs.Reading.Refinement
import PackageModel.Proofs.Reading.Looks
import PackageModel.Proofs.Layout.OnePerLine
import PackageModel.Proofs.Layout.Indentation
import PackageModel.Proofs.Token.Comment
import PackageModel.Proofs.Excerpt
import PackageModel.Proofs.CommandLine
import PackageModel.Proofs.Token.Pattern
import PackageModel.Proofs.Batch
