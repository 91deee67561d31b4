import Darasa.Events.Interleaving
import Darasa.Events.Delivery
import Darasa.Events.Passes
import Darasa.Curriculum.StaleCopies
import Darasa.Grading.HistoricalContext
import Darasa.Grading.Approval
import Darasa.Grading.StoredMarks
import Darasa.Grading.CorrectionHistory
import Darasa.Grading.GroupSizes
import Darasa.Grading.ReportedBands
import Darasa.Grading.Analytics
import Darasa.Grading.RowChecks
import Darasa.Grading.ComponentTotals
import Darasa.Grading.CompilationFacts
import Darasa.Grading.Compilability
import Darasa.Grading.Eligibility
import Darasa.Grading.BandCover
import Darasa.Grading.ImpactScopes
import Darasa.Academics.Rosters
import Darasa.Curriculum.Resolution
import Darasa.Curriculum.Diff
import Darasa.Curriculum.Verification
import Darasa.Events.StoredPayloads
import Darasa.Events.Selection
import Darasa.Events.EventNames
import Darasa.Events.IdempotencyKeys
import Darasa.Curriculum.Fingerprints
import Darasa.Curriculum.SourceUrls
import Darasa.Curriculum.Supersession
import Darasa.Grading.RoleChanges
import Darasa.Grading.Drafts
import Darasa.Grading.Freshness
import Darasa.Events.References
import Darasa.Grading.AnnouncedOnce
