import PageHarvest.Main
import PageHarvest.Proofs.Amount
import PageHarvest.Proofs.Bounds
import PageHarvest.Proofs.BuildHistory
import PageHarvest.Proofs.Dialogue
import PageHarvest.Proofs.ExtractionState
import PageHarvest.Proofs.Faults
import PageHarvest.Proofs.FinalSpace
import PageHarvest.Proofs.Growth
import PageHarvest.Proofs.JsonPage
import PageHarvest.Proofs.OpenPlaceholder
import PageHarvest.Proofs.Outline
import PageHarvest.Proofs.PercentUnits
import PageHarvest.Proofs.PromptBlocks
import PageHarvest.Proofs.Reading
import PageHarvest.Proofs.Rendering
import PageHarvest.Proofs.Respacing
import PageHarvest.Proofs.ScannerState
import PageHarvest.Proofs.ShortestValue
import PageHarvest.Proofs.SpacedWords
import PageHarvest.Proofs.TextLines
import PageHarvest.Proofs.TrailingSpace
