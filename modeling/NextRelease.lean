import NextRelease.Main
import NextRelease.Command.Launch
import NextRelease.Proofs.Decision.Certainty
import NextRelease.Proofs.Decision.Consistency
import NextRelease.Proofs.Decision.Interleaving
import NextRelease.Proofs.Decision.Loop
import NextRelease.Proofs.Decision.Outside
import NextRelease.Proofs.Package.Delivery
import NextRelease.Proofs.Release.Floor
import NextRelease.Proofs.Run.Waiting
import NextRelease.Proofs.Witness.Encoding
