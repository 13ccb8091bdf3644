import CowServices.Basic.Primitives
import CowServices.Basic.BTreeMap
import CowServices.Basic.Json
import CowServices.Basic.TextCodecs
import CowServices.Basic.BigDecimal
import CowServices.Driver.SolveLoop
import CowServices.Driver.SolveLoopView
import CowServices.Driver.SolveLoopLaws
import CowServices.Driver.SolveLoopGuarantees
import CowServices.Driver.AuctionWon
import CowServices.Autopilot.AuctionStore
import CowServices.Model.SolverCompetition
import CowServices.Orderbook.CompetitionStore
import CowServices.Orderbook.ContractConstants
import CowServices.Autopilot.OrderMaterialiser
import CowServices.Solver.VolumeFilter
import CowServices.Solver.Factory
