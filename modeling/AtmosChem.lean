import AtmosChem.Main
import AtmosChem.Proofs.CommonFragment
import AtmosChem.Proofs.Contributions
import AtmosChem.Proofs.FalloffFactor
import AtmosChem.Proofs.KppLines
import AtmosChem.Proofs.KppTails
import AtmosChem.Proofs.MozartLayout
import AtmosChem.Proofs.WrittenDocuments
import AtmosChem.Proofs.ReactionRecords
import AtmosChem.Proofs.AmountSums
import AtmosChem.Proofs.FiniteMechanisms
import AtmosChem.Proofs.ShortestDecimals
import AtmosChem.Proofs.SpeciesRecords
import AtmosChem.Proofs.FilePlaces
import AtmosChem.Proofs.MadeDirectories
import AtmosChem.Proofs.WrittenFiles
import AtmosChem.Proofs.ConfinedRuns
import AtmosChem.Proofs.Reruns
import AtmosChem.Proofs.ProperTrees
import AtmosChem.Proofs.SourceListings
import AtmosChem.Proofs.WrittenLines
import AtmosChem.Proofs.SectionBlocks
import AtmosChem.Proofs.KppComments
import AtmosChem.Proofs.PhotonReactants
import AtmosChem.Proofs.UnlabelledLines
import AtmosChem.Proofs.EquationNames
import AtmosChem.Proofs.DeclaredTerms
import AtmosChem.Proofs.DeclaredNames
import AtmosChem.Proofs.SpeciesLists
import AtmosChem.Proofs.DeclaredSpecies
import AtmosChem.Proofs.SavedSettings
import AtmosChem.Proofs.WrittenCalls
import AtmosChem.Proofs.RateTable
import AtmosChem.Proofs.WrappedRates
import AtmosChem.Proofs.NumberSpellings
import AtmosChem.Proofs.MozartRejections
import AtmosChem.Proofs.MozartJoins
import AtmosChem.Proofs.SectionTexts
import AtmosChem.Proofs.UndeclaredSpecies
import AtmosChem.Proofs.ReportedLabels
import AtmosChem.Proofs.AddedTerms
