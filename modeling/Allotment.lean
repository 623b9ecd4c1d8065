import Allotment.Json.Form
import Allotment.Json.Text
import Allotment.LogFilter
import Allotment.Rehearsal.Schedule
import Allotment.Settings.File
import Allotment.Proofs.Ownership
import Allotment.Proofs.Registry
import Allotment.Proofs.StaleWrites
import Allotment.Proofs.AddressText
import Allotment.Proofs.Hosts
import Allotment.Proofs.Claims
import Allotment.Proofs.Calls
import Allotment.Proofs.Traffic
import Allotment.Proofs.Commits
import Allotment.Proofs.BoundOnce
import Allotment.Proofs.RaceWindow
import Allotment.Proofs.Vacancy
import Allotment.Proofs.Extent
import Allotment.Proofs.ReadBack
import Allotment.Proofs.Verdict
import Allotment.Proofs.Passages
import Allotment.Proofs.Attempts
import Allotment.Proofs.Endings
import Allotment.Proofs.Weather
import Allotment.Proofs.Holdings
import Allotment.Proofs.Archive
import Allotment.Proofs.Alone
import Allotment.Proofs.AllOrNothing
import Allotment.Proofs.StaleEvents
import Allotment.Proofs.Errands
import Allotment.Proofs.Filling
import Allotment.Proofs.Phases
import Allotment.Proofs.Vigil
import Allotment.Proofs.Cancellation
import Allotment.Proofs.Confinement
import Allotment.Proofs.Gauges
import Allotment.Proofs.Accounts
import Allotment.Proofs.Bookkeeping
import Allotment.Proofs.Walk
import Allotment.Proofs.Company
import Allotment.Proofs.Idempotence
import Allotment.Proofs.Permanence
import Allotment.Proofs.ReadingRoom
import Allotment.Proofs.Bootstrap
import Allotment.Proofs.Conjunction
import Allotment.Proofs.Patience
import Allotment.Proofs.PoolText
import Allotment.Proofs.Precedence
import Allotment.Proofs.Listing
import Allotment.Proofs.Forms
import Allotment.Proofs.Census
import Allotment.Proofs.Effort
import Allotment.Proofs.Namesakes
