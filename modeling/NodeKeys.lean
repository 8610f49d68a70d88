import NodeKeys.Main
import NodeKeys.RawKeyPair.Wipe
import NodeKeys.Scripted.Source
import NodeKeys.Files.Tree
import NodeKeys.Proofs.Derivation.Fallback
import NodeKeys.Proofs.Derivation.LastResort
import NodeKeys.Proofs.Derivation.Turns
import NodeKeys.Proofs.Loader.Once
import NodeKeys.Proofs.Loader.Cancellation
import NodeKeys.Proofs.Loader.Trials
import NodeKeys.Proofs.Generation.Reproducibility
import NodeKeys.Proofs.Generation.Secrecy
import NodeKeys.Proofs.Generation.Spelling
import NodeKeys.Proofs.Generation.Account
import NodeKeys.Proofs.Generation.KeyTexts
import NodeKeys.Proofs.Generation.EmptyKeys
import NodeKeys.Proofs.Uninterrupted
import NodeKeys.Proofs.Base64Url.Bits
import NodeKeys.Proofs.Base64Url.Grammar
import NodeKeys.Proofs.Base64Url.Canonical
import NodeKeys.Proofs.Base64Url.OnePass
import NodeKeys.Proofs.Base64Url.FirstStranger
import NodeKeys.Proofs.KeyLanguage
import NodeKeys.Proofs.TransportKeys.Rebuilding
import NodeKeys.Proofs.Builtin.SeedBound
import NodeKeys.Proofs.CommandLine.Output
import NodeKeys.Proofs.CommandLine.KeyText
import NodeKeys.Proofs.RawKeyPair.Chain
import NodeKeys.Proofs.RawKeyPair.Wiping
import NodeKeys.Proofs.RawKeyPair.Shape
import NodeKeys.Proofs.KeyRecords
import NodeKeys.Proofs.Module.Exports
import NodeKeys.Proofs.Configuration
import NodeKeys.Proofs.Builder
