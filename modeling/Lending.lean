import Lending.Check
import Lending.Proofs.Ageing
import Lending.Proofs.CatchUp
import Lending.Proofs.CollateralFlag
import Lending.Proofs.CurveTotality
import Lending.Proofs.Dust
import Lending.Proofs.Exits
import Lending.Proofs.FixedPoint
import Lending.Proofs.LumpSums
import Lending.Proofs.Projection
import Lending.Proofs.QuoteParts
import Lending.Proofs.Refusals
import Lending.Proofs.SameTime
import Lending.Proofs.Settlement
import Lending.Proofs.StableTracking
import Lending.Proofs.VariableTracking
import Lending.Scenario
