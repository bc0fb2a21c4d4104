import Vivarium.Admission
import Vivarium.Headless
import Vivarium.Main
import Vivarium.Snapshot
import Vivarium.Dice.Twister
import Vivarium.Proofs.Bookkeeping
import Vivarium.Proofs.Ledger
import Vivarium.Proofs.Released
import Vivarium.Proofs.Schedule
import Vivarium.Proofs.Survey
import Vivarium.Proofs.Wealth
import Vivarium.Store.Lookup
import Vivarium.Text.Integer
import Vivarium.World.Lookup
import Vivarium.Proofs.Extents
import Vivarium.Proofs.Slots
import Vivarium.Proofs.Barren
import Vivarium.Proofs.Extinction
import Vivarium.Proofs.Lockstep
import Vivarium.Proofs.Relabelling
import Vivarium.Proofs.Equivariance
import Vivarium.Proofs.RoundsInStep
import Vivarium.Proofs.Shifts
import Vivarium.Proofs.Renaming
import Vivarium.Proofs.SideBySide
import Vivarium.Proofs.Parts
import Vivarium.Proofs.Lineage
import Vivarium.Proofs.Footprint
import Vivarium.Proofs.Release
import Vivarium.Proofs.Strikes
import Vivarium.Proofs.Vacancies
import Vivarium.Proofs.Sampling
import Vivarium.Proofs.Vicinity
import Vivarium.Proofs.Insulation
import Vivarium.Proofs.Edits
import Vivarium.Proofs.Shares
import Vivarium.Proofs.Reports
import Vivarium.Proofs.Steps
import Vivarium.Proofs.Addressing
import Vivarium.Proofs.CheckOut
import Vivarium.Proofs.Refusals
