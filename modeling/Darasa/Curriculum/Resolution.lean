import Darasa.Curriculum.Versions
import Darasa.Foundation.Ranking

/-!
Which publication is in force on a date.

The resolver sorts the publications in force by their start alone.  Publications that
start on one day tie, and the order they are handed over in decides between them.  The
query that hands them over is ordered, last saved first, as every time-stamped model is.
-/

namespace Darasa.Curriculum

open Darasa.Ranking (Foremost)

/-! ## The resolver -/

/-- Active, not superseded and effective on the date. -/
def CurriculumPublication.inForce (onDate : ℕ) (publication : CurriculumPublication) : Bool :=
  publication.isActive && publication.supersededBy.isNone &&
    publication.effectiveFrom ≤ onDate && publication.effectiveTo.all (onDate ≤ ·)

/-- The sort's key: the latest start first. -/
def latestStart (a b : CurriculumPublication) : Prop := b.effectiveFrom ≤ a.effectiveFrom

instance : DecidableRel latestStart := fun _ _ => inferInstanceAs (Decidable (_ ≤ _))

instance : Std.Total latestStart := ⟨fun _ _ => Nat.le_total _ _⟩

instance : IsTrans CurriculumPublication latestStart :=
  ⟨fun _ _ _ first second => Nat.le_trans second first⟩

/-- `resolve_publication_for_date`. -/
def resolvePublicationForDate (publications : List CurriculumPublication) (onDate : ℕ) :
    Option CurriculumPublication :=
  let candidates := publications.filter (·.inForce onDate)
  (candidates.insertionSort latestStart).head?

/-- The order of the query, `TimeStampedModel`'s: the last saved first. -/
def lastSaved (a b : CurriculumPublication) : Prop := b.updatedAt ≤ a.updatedAt

instance : DecidableRel lastSaved := fun _ _ => inferInstanceAs (Decidable (_ ≤ _))

/-- `resolve_curriculum_version_for_date`.  Rows saved at one moment are read as the table
has them. -/
def resolveCurriculumVersionForDate (t : CurriculumTables) (onDate : ℕ) :
    Option CurriculumVersion :=
  let publications :=
    (t.publications.filter fun row => row.effectiveFrom ≤ onDate).insertionSort lastSaved
  (resolvePublicationForDate publications onDate).bind fun publication =>
    t.version? publication.curriculumVersion

/-- `curriculum_one_active_publication_per_version`. -/
def OneActivePublication (publications : List CurriculumPublication) : Prop :=
  publications.Pairwise fun a b =>
    a.isActive = true → b.isActive = true → a.curriculumVersion ≠ b.curriculumVersion

instance (publications : List CurriculumPublication) :
    Decidable (OneActivePublication publications) :=
  inferInstanceAs (Decidable (List.Pairwise _ _))

/-! ## What it finds -/

variable {publications : List CurriculumPublication} {onDate : ℕ}
  {publication : CurriculumPublication}

/-- In force, and no other in force starts later. -/
theorem foremost_in_force_iff :
    Foremost latestStart (publications.filter (·.inForce onDate)) publication ↔
      publication ∈ publications ∧ publication.inForce onDate = true ∧
        ∀ other ∈ publications, other.inForce onDate = true →
          other.effectiveFrom ≤ publication.effectiveFrom := by
  unfold Foremost
  simp only [List.mem_filter, latestStart, and_assoc, and_imp]

theorem resolved_is_latest
    (resolved : resolvePublicationForDate publications onDate = some publication) :
    publication ∈ publications ∧ publication.inForce onDate = true ∧
      ∀ other ∈ publications, other.inForce onDate = true →
        other.effectiveFrom ≤ publication.effectiveFrom :=
  foremost_in_force_iff.mp (Ranking.foremost_of_head resolved)

/-- The query's own filter on the start drops nothing that is in force. -/
theorem in_force_of_started :
    (publications.filter fun row => row.effectiveFrom ≤ onDate).filter (·.inForce onDate) =
      publications.filter (·.inForce onDate) := by
  rw [List.filter_filter]
  refine List.filter_congr fun row _ => ?_
  unfold CurriculumPublication.inForce
  cases decide (row.effectiveFrom ≤ onDate) <;> simp

/-- The publication found is the same for every order of the rows when one start is
the latest. -/
theorem resolve_of_perm
    (single : ∀ a b, Foremost latestStart (publications.filter (·.inForce onDate)) a →
      Foremost latestStart (publications.filter (·.inForce onDate)) b → a = b)
    {order : List CurriculumPublication} (moved : order.Perm publications) :
    resolvePublicationForDate order onDate = resolvePublicationForDate publications onDate :=
  Ranking.head_of_perm_iff.mpr single _ (moved.filter _)

/-- The query hands over what is in force, in an order of its own. -/
theorem resolve_of_query
    (single : ∀ a b, Foremost latestStart (publications.filter (·.inForce onDate)) a →
      Foremost latestStart (publications.filter (·.inForce onDate)) b → a = b)
    {order : List CurriculumPublication} (moved : order.Perm publications) :
    resolvePublicationForDate
        ((order.filter fun row => row.effectiveFrom ≤ onDate).insertionSort lastSaved) onDate =
      resolvePublicationForDate publications onDate := by
  refine Ranking.head_of_perm_iff.mpr single _ (((List.perm_insertionSort _ _).filter _).trans ?_)
  rw [in_force_of_started]
  exact moved.filter _

/-- An order of the candidates is the order some read of the rows leaves them in. -/
theorem order_of_candidates {candidates : List CurriculumPublication}
    (moved : candidates.Perm (publications.filter (·.inForce onDate))) :
    ∃ order : List CurriculumPublication, order.Perm publications ∧
      order.filter (·.inForce onDate) = candidates := by
  refine ⟨candidates ++ publications.filter (!·.inForce onDate), ?_, ?_⟩
  · exact (moved.append_right _).trans (List.filter_append_perm _ _)
  · have kept : candidates.filter (·.inForce onDate) = candidates := by
      refine List.filter_eq_self.mpr fun row member => ?_
      exact (List.mem_filter.mp (moved.mem_iff.mp member)).2
    rw [List.filter_append, kept, List.filter_filter]
    simp

/-! ## The law -/

/-- Date resolution is a function of what the table holds: every order of the rows
gives one publication and one version, and the publication is in force with none in
force that starts later. -/
structure ResolvesByContent (t : CurriculumTables) (onDate : ℕ) : Prop where
  publication : ∀ order : List CurriculumPublication, order.Perm t.publications →
    resolvePublicationForDate order onDate = resolvePublicationForDate t.publications onDate
  latest : ∀ publication, resolvePublicationForDate t.publications onDate = some publication →
    publication ∈ t.publications ∧ publication.inForce onDate = true ∧
      ∀ other ∈ t.publications, other.inForce onDate = true →
        other.effectiveFrom ≤ publication.effectiveFrom
  version : ∀ order : List CurriculumPublication, order.Perm t.publications →
    resolveCurriculumVersionForDate { t with publications := order } onDate =
      resolveCurriculumVersionForDate t onDate

/-- No two publications in force on the date share the latest start. -/
def OneLatestStart (publications : List CurriculumPublication) (onDate : ℕ) : Prop :=
  ∀ a ∈ publications, ∀ b ∈ publications, a.inForce onDate = true → b.inForce onDate = true →
    (∀ other ∈ publications, other.inForce onDate = true →
      other.effectiveFrom ≤ a.effectiveFrom) →
    a.effectiveFrom = b.effectiveFrom → a = b

theorem one_latest_start_iff :
    OneLatestStart publications onDate ↔
      ∀ a b, Foremost latestStart (publications.filter (·.inForce onDate)) a →
        Foremost latestStart (publications.filter (·.inForce onDate)) b → a = b := by
  simp only [foremost_in_force_iff]
  constructor
  · intro single a b ⟨known, inForce, latest⟩ ⟨known', inForce', latest'⟩
    exact single a known b known' inForce inForce' latest
      (Nat.le_antisymm (latest' a known inForce) (latest b known' inForce'))
  · intro single a known b known' inForce inForce' latest same
    exact single a b ⟨known, inForce, latest⟩ ⟨known', inForce', same ▸ latest⟩

/-- **Date resolution depends on the table's content alone exactly when no two
publications in force share the latest start.** -/
theorem resolves_by_content_iff (t : CurriculumTables) (onDate : ℕ) :
    ResolvesByContent t onDate ↔ OneLatestStart t.publications onDate := by
  rw [one_latest_start_iff]
  constructor
  · intro ⟨same, _, _⟩
    refine Ranking.head_of_perm_iff.mp fun candidates moved => ?_
    obtain ⟨order, moved', rfl⟩ := order_of_candidates moved
    exact same order moved'
  · intro single
    refine ⟨fun order moved => resolve_of_perm single moved, fun _ => resolved_is_latest, ?_⟩
    intro order moved
    unfold resolveCurriculumVersionForDate
    simp only [resolve_of_query single moved, resolve_of_query single (.refl _)]
    rfl

/-- The publications of two versions that start on one day. -/
def sameDayPublications : List CurriculumPublication :=
  [1, 2].map fun version =>
    { id := version
      curriculumVersion := version
      effectiveFrom := 100
      effectiveTo := none
      isActive := true
      publicationNotes := "Approved."
      approvedBy := some 1
      publishedAt := version
      supersededBy := none
      updatedAt := version }

/-- Two published versions. -/
def sameDayTables : CurriculumTables where
  versions := [⟨1, true⟩, ⟨2, true⟩]
  learningAreas := []
  rubrics := []
  publications := sameDayPublications
  adoptions := []
  withdrawals := []
  rollbackPlans := []
  impactPlans := []

/-- Two versions published from one day: the order of the rows decides which publication is
resolved. -/
theorem same_day_publications_tie :
    OneActivePublication sameDayTables.publications ∧
      (resolvePublicationForDate sameDayPublications 100).map (·.id) = some 1 ∧
      (resolvePublicationForDate sameDayPublications.reverse 100).map (·.id) = some 2 ∧
      ¬ ResolvesByContent sameDayTables 100 := by
  refine ⟨by decide, by decide, by decide, fun same => ?_⟩
  have first := same.publication sameDayPublications.reverse (List.reverse_perm _)
  revert first
  decide

end Darasa.Curriculum
