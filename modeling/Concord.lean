import Concord.Main
import Concord.NameTree.Decode
import Concord.Proofs.Growth
import Concord.Proofs.IndependentSeeds
import Concord.Proofs.MethodOrder
import Concord.Proofs.Namesakes
import Concord.Proofs.Renaming
import Concord.Proofs.OneToOne
import Concord.Proofs.Subtrees
import Concord.Proofs.JsonRecords
import Concord.Proofs.CommandFiles
import Concord.Proofs.WrittenNames
import Concord.Proofs.Flattening
import Concord.Proofs.Pruning
import Concord.Proofs.ReportedTypes
import Concord.Proofs.Outlines
import Concord.Proofs.Stripping
import Concord.Proofs.Signatures
import Concord.Proofs.MethodListing
import Concord.Proofs.MemberOrigins
import Concord.Proofs.DecodedValues
import Concord.Proofs.ReadBack
import Concord.Proofs.GeneratedNames
import Concord.Proofs.SelfRecovery
import Concord.Proofs.DuplicateNames
import Concord.Proofs.ModuleTexts
import Concord.Proofs.Repetition
import Concord.Proofs.Rounds
import Concord.Proofs.Listing
