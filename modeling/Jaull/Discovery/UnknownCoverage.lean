import Jaull.Discovery.CoarsePlacement
import Jaull.Discovery.RelevanceOrder
import Mathlib.Data.List.Find

/-!
# Unknown sizes in the coverage stage

The coverage stage explores a size that the name of a repository does not reveal only where the best candidate
of such a size shows that it runs text. What it then picks is another candidate where that one ties with the
best and is of a family that was not picked. All unknown sizes share a bucket, so nothing of it was picked
before the stage comes to it, and the redundancy keys of the earlier picks do not matter.
-/

namespace Jaull.Discovery
open Jaull.Domain Jaull.Lib

section Visits
variable (hardware : HardwareProfile) (coverSmall : Bool) (limit : ℕ)

/-- The buckets that the coverage stage comes to, each with what was selected before it. -/
def coverVisits (bestClass : Option ℕ) (larger : Bool) :
    List (List ShortlistEntry) → Selection → List (Selection × List ShortlistEntry)
  | [], _ => []
  | bucket :: buckets, selection =>
    if limit ≤ selection.selected.length then []
    else (selection, bucket) :: coverVisits bestClass larger buckets
      (coverBucket hardware coverSmall bestClass larger selection bucket).1

/-- The visits of the coverage stage of a shortlist. -/
def coverageVisits (requirements : SearchRequirements) (limit : ℤ) (hardware : HardwareProfile)
    (entries : List ShortlistEntry) (audit : Option Audit) : List (Selection × List ShortlistEntry) :=
  let coverSmall := coversSmall requirements hardware
  let buckets := shortlistBuckets hardware coverSmall (entries.filter (·.isPlausible))
  coverVisits hardware coverSmall limit.toNat (bestClassOf hardware buckets)
    (largerInBestClass hardware buckets) buckets { audit := audit }

end Visits

section Ties

/-- An entry ties with the leader of its bucket. -/
def ties (leader entry : ShortlistEntry) : Bool :=
  leader.score - scoreTieEpsilon ≤ entry.score && entry.otherTask = leader.otherTask

/-- An entry ties with the leader of its bucket and is of a family that was not picked. -/
def tiesNew (families : List String) (leader entry : ShortlistEntry) : Bool :=
  ties leader entry && familyKey entry.candidate ∉ families

/-- Where the best unknown size of a bucket has a signal, the entries of new families that tie with it do not
lack one. -/
def NewFamilySignals (selection : Selection) (bucket : List ShortlistEntry) : Prop :=
  ∀ leader, (sortedBy unknownKey bucket).head? = some leader → leader.hint.mode = none →
    hasTextExecutionSignal leader.candidate = true →
      (∃ entry ∈ bucket, tiesNew selection.families leader entry = true) →
        ∃ entry ∈ bucket, tiesNew selection.families leader entry = true ∧
          hasTextExecutionSignal entry.candidate = true

variable {redundancy : List RedundancyKey} {families : List String}
variable {leader entry : ShortlistEntry} {rest left : List ShortlistEntry}

/-- An entry ties with itself. -/
lemma ties_self (leader : ShortlistEntry) : ties leader leader = true := by
  have slack : leader.score - scoreTieEpsilon ≤ leader.score :=
    sub_le_self _ (by rw [scoreTieEpsilon]; norm_num)
  rw [ties, decide_eq_true slack, decide_eq_true rfl]
  rfl

/-- What is popped of a bucket of which nothing was picked: the first tie of a new family, or the leader. -/
lemma popBucketCandidate_fresh (fresh : ∀ entry ∈ leader :: rest, entry.redundancyKey ∉ redundancy)
    (popped : popBucketCandidate (leader :: rest) redundancy families = some (entry, left)) :
    entry = ((leader :: rest).find? (tiesNew families leader)).getD leader := by
  rw [popBucketCandidate] at popped
  dsimp only at popped
  obtain ⟨found, at', eq⟩ := Option.map_eq_some_iff.mp popped
  cases eq
  have same : (leader :: rest).find? (tiesNew families leader) = (leader :: rest).find? fun entry =>
      (leader.score - scoreTieEpsilon ≤ entry.score && entry.otherTask = leader.otherTask) &&
        decide (entry.redundancyKey ∉ redundancy) && decide (familyKey entry.candidate ∉ families) := by
    apply List.find?_congr
    intro entry mem
    rw [decide_eq_true (fresh entry mem), Bool.and_true]
    rfl
  rw [same, List.find?_eq_bind_findIdx?_getElem?]
  split at at'
  · rename_i index eq
    rw [eq, Option.bind_some, at']
    rfl
  · rename_i eq
    rw [eq]
    -- the leader ties with itself, and nothing of its bucket was picked
    have head : (leader :: rest).findIdx? (fun entry =>
        (leader.score - scoreTieEpsilon ≤ entry.score && entry.otherTask = leader.otherTask) &&
          decide (entry.redundancyKey ∉ redundancy)) = some 0 := by
      rw [List.findIdx?_cons, decide_eq_true (fresh leader List.mem_cons_self), Bool.and_true, if_pos]
      exact ties_self leader
    rw [head] at at'
    exact (Option.some.inj at').symm

/-- The order of a bucket of unknown sizes puts the ones with a signal first. -/
lemma signal_of_unknownKey_le {entry other : ShortlistEntry} (le : unknownKey entry ≤ unknownKey other)
    (signal : hasTextExecutionSignal other.candidate = true) :
    hasTextExecutionSignal entry.candidate = true := by
  rw [unknownKey, unknownKey, signal, Prod.Lex.toLex_le_toLex] at le
  cases own : hasTextExecutionSignal entry.candidate with
  | true => rfl
  | false =>
    rw [own] at le
    rcases le with lt | ⟨eq, -⟩
    · change true < false at lt
      exact absurd lt (by decide)
    · change true = false at eq
      cases eq

/-- What is found first in a bucket of unknown sizes has a signal if anything that could be found has one. -/
lemma signal_of_find {bucket : List ShortlistEntry} {p : ShortlistEntry → Bool} {found other : ShortlistEntry}
    (eq : (sortedBy unknownKey bucket).find? p = some found) (mem : other ∈ bucket) (own : p other = true)
    (signal : hasTextExecutionSignal other.candidate = true) :
    hasTextExecutionSignal found.candidate = true := by
  obtain ⟨-, before, after, split, none⟩ := List.find?_eq_some_iff_append.mp eq
  have sorted := sortedBy_pairwise unknownKey bucket
  have mem' : other ∈ sortedBy unknownKey bucket := mem_sortedBy.mpr mem
  rw [split] at sorted mem'
  rcases List.mem_append.mp mem' with first | later
  · have none := none other first
    rw [own] at none
    exact absurd none Bool.false_ne_true
  · rcases List.mem_cons.mp later with rfl | later
    · exact signal
    · obtain ⟨-, sorted, -⟩ := List.pairwise_append.mp sorted
      exact signal_of_unknownKey_le ((List.pairwise_cons.mp sorted).1 other later) signal

/-- The pick of a bucket of unknown sizes, of which nothing was picked and whose leader has a signal. -/
lemma popped_signal_iff {selection : Selection} {bucket : List ShortlistEntry}
    (leads : sortedBy unknownKey bucket = leader :: rest) (unknown : leader.hint.mode = none)
    (signal : hasTextExecutionSignal leader.candidate = true)
    (fresh : ∀ entry ∈ bucket, entry.redundancyKey ∉ selection.redundancy)
    (popped : popBucketCandidate (leader :: rest) selection.redundancy selection.families = some (entry, left)) :
    hasTextExecutionSignal entry.candidate = true ↔ NewFamilySignals selection bucket := by
  have fresh' : ∀ entry ∈ leader :: rest, entry.redundancyKey ∉ selection.redundancy := by
    intro entry mem
    rw [← leads] at mem
    exact fresh entry (mem_sortedBy.mp mem)
  -- with nothing redundant the pick is the first new tie of the leader, or the leader
  have picked := popBucketCandidate_fresh fresh' popped
  rw [← leads] at picked
  constructor
  · intro own leader' first _ _ some
    rw [leads, List.head?_cons, Option.some.injEq] at first
    subst first
    cases found : (sortedBy unknownKey bucket).find? (tiesNew selection.families leader) with
    | none =>
      obtain ⟨other, mem, tie⟩ := some
      exact absurd tie (List.find?_eq_none.mp found other (mem_sortedBy.mpr mem))
    | some first =>
      rw [found] at picked
      subst picked
      exact ⟨entry, mem_sortedBy.mp (List.mem_of_find?_eq_some found), List.find?_some found, own⟩
  · intro condition
    cases found : (sortedBy unknownKey bucket).find? (tiesNew selection.families leader) with
    | none =>
      rw [found] at picked
      rw [picked]
      exact signal
    | some first =>
      rw [found] at picked
      subst picked
      have mem := mem_sortedBy.mp (List.mem_of_find?_eq_some found)
      obtain ⟨other, own, tie, signal⟩ := condition leader (by rw [leads]; rfl) unknown signal
        ⟨entry, mem, List.find?_some found⟩
      exact signal_of_find found own tie signal

end Ties

section Run
variable {hardware : HardwareProfile} {coverSmall : Bool} {limit : ℕ} {bestClass : Option ℕ} {larger : Bool}
variable {selection : Selection} {bucket : List ShortlistEntry} {buckets : List (List ShortlistEntry)}

/-- A name that does not reveal the size gives no parameter count. -/
def NoCount (bucket : List ShortlistEntry) : Prop :=
  ∀ entry ∈ bucket, entry.hint.mode = none → entry.billions = none

/-- The entries of a bucket are of one mode. -/
def OneMode (bucket : List ShortlistEntry) : Prop :=
  ∀ entry ∈ bucket, ∀ other ∈ bucket, entry.hint.mode = other.hint.mode

/-- Only one of two buckets has unknown sizes. -/
def Apart (bucket other : List ShortlistEntry) : Prop :=
  ∀ entry ∈ bucket, ∀ entry' ∈ other, ¬(entry.hint.mode = none ∧ entry'.hint.mode = none)

/-- Nothing of the unknown sizes of a bucket was picked. -/
def Untouched (selection : Selection) (bucket : List ShortlistEntry) : Prop :=
  (∃ entry ∈ bucket, entry.hint.mode = none) → ∀ key ∈ selection.redundancy, key.2.2 ≠ none

/-- Entries of unknown size have a signal. -/
def Signalled (entries : List ShortlistEntry) : Prop :=
  ∀ entry ∈ entries, entry.hint.mode = none → hasTextExecutionSignal entry.candidate = true

/-- What a visit to a bucket picks, and that it is signalled where the condition holds. -/
structure Visited (selection selection' : Selection) (bucket taken : List ShortlistEntry) : Prop where
  selected : selection'.selected = selection.selected ++ taken
  redundancy : selection'.redundancy = taken.map (·.redundancyKey) ++ selection.redundancy
  sub : taken ⊆ bucket
  signalled : Signalled taken ↔ NewFamilySignals selection bucket

/-- A calm bucket may be skipped. -/
lemma Visited.skip (calm : NewFamilySignals selection bucket) : Visited selection selection bucket [] :=
  ⟨(List.append_nil _).symm, rfl, List.nil_subset _, fun _ => calm, fun _ _ mem => absurd mem List.not_mem_nil⟩

/-- A bucket of known sizes has no condition. -/
lemma newFamilySignals_of_known (known : ∀ entry ∈ bucket, entry.hint.mode ≠ none) :
    NewFamilySignals selection bucket := by
  intro leader first unknown
  have mem := mem_sortedBy.mp (List.mem_of_head? first)
  exact absurd unknown (known leader mem)

/-- A bucket whose leader lacks a signal has no condition. -/
lemma newFamilySignals_of_blind {leader : ShortlistEntry} {rest : List ShortlistEntry}
    (leads : sortedBy unknownKey bucket = leader :: rest)
    (blind : hasTextExecutionSignal leader.candidate = false) : NewFamilySignals selection bucket := by
  intro leader' first _ signal
  rw [leads, List.head?_cons, Option.some.injEq] at first
  subst first
  rw [blind] at signal
  cases signal

/-- The pick of a bucket, which may be rearranged before. -/
lemma coverPick_visited {bucket' : List ShortlistEntry} (perm : bucket'.Perm bucket) (some : bucket ≠ [])
    (signalled : ∀ entry rest, popBucketCandidate bucket' selection.redundancy selection.families =
      .some (entry, rest) → (Signalled [entry] ↔ NewFamilySignals selection bucket)) :
    ∃ taken, Visited selection (coverPick selection bucket').1 bucket taken := by
  have some' : bucket' ≠ [] := by
    intro empty
    subst empty
    exact some (List.nil_perm.mp perm)
  obtain ⟨entry, rest, popped⟩ := @popBucketCandidate_isSome bucket' selection.redundancy selection.families some'
  refine ⟨[entry], ?_⟩
  rw [coverPick, popped]
  refine ⟨rfl, rfl, ?_, signalled entry rest popped⟩
  intro other mem
  rw [List.mem_singleton.mp mem]
  exact perm.subset ((popBucketCandidate_perm popped).subset List.mem_cons_self)

/-- A known size is signalled. -/
lemma signalled_of_known {entry : ShortlistEntry} (known : entry.hint.mode ≠ none) : Signalled [entry] := by
  intro other mem unknown
  rw [List.mem_singleton.mp mem] at unknown
  exact absurd unknown known

/-- A bucket of one entry of unknown size is signalled by that entry. -/
lemma signalled_singleton {entry : ShortlistEntry} (unknown : entry.hint.mode = none) :
    Signalled [entry] ↔ hasTextExecutionSignal entry.candidate = true := by
  constructor
  · intro signalled
    exact signalled entry List.mem_cons_self unknown
  · intro signal other mem _
    rw [List.mem_singleton.mp mem]
    exact signal

/-- What a visit to a bucket does. -/
lemma coverBucket_visited (oneMode : OneMode bucket) (noCount : NoCount bucket)
    (untouched : Untouched selection bucket) :
    ∃ taken, Visited selection (coverBucket hardware coverSmall bestClass larger selection bucket).1 bucket taken := by
  cases bucket with
  | nil => exact ⟨[], Visited.skip (newFamilySignals_of_known fun _ mem => absurd mem List.not_mem_nil)⟩
  | cons first others =>
    rw [coverBucket]
    dsimp only
    cases mode : first.hint.mode with
    | some mode' =>
      have known : ∀ entry ∈ first :: others, entry.hint.mode ≠ none := by
        intro entry mem unknown
        rw [oneMode entry mem first List.mem_cons_self, mode] at unknown
        cases unknown
      have calm : NewFamilySignals selection (first :: others) := newFamilySignals_of_known known
      dsimp only
      split
      · exact ⟨[], Visited.skip calm⟩
      · apply coverPick_visited (List.Perm.refl _) (List.cons_ne_nil _ _)
        intro entry rest popped
        have mem := (popBucketCandidate_perm popped).subset List.mem_cons_self
        exact ⟨fun _ => calm, fun _ => signalled_of_known (known entry mem)⟩
    | none =>
      have unknown : ∀ entry ∈ first :: others, entry.hint.mode = none := by
        intro entry mem
        rw [oneMode entry mem first List.mem_cons_self, mode]
      have sorted := sortedBy_perm unknownKey (first :: others)
      have some : sortedBy unknownKey (first :: others) ≠ [] :=
        fun empty => List.cons_ne_nil first others (sortedBy_eq_nil.mp empty)
      obtain ⟨leader, rest, leads⟩ := List.exists_cons_of_ne_nil some
      have mem : leader ∈ first :: others := by
        apply sorted.subset
        rw [leads]
        exact List.mem_cons_self
      -- an unknown size is not small, so the visit depends on the signal of the leader alone
      have large : leader.isSmall = false := by
        rw [ShortlistEntry.isSmall, noCount leader mem (unknown leader mem)]
        decide
      dsimp only
      rw [leads, List.head?_cons, Option.any_some, large, Bool.and_false, Bool.or_false]
      cases signal : hasTextExecutionSignal leader.candidate with
      | false => exact ⟨[], Visited.skip (newFamilySignals_of_blind leads signal)⟩
      | true =>
        rw [if_neg (by decide), ← leads]
        apply coverPick_visited sorted (List.cons_ne_nil _ _)
        intro entry rest' popped
        have own := sorted.subset ((popBucketCandidate_perm popped).subset List.mem_cons_self)
        rw [leads] at popped
        rw [signalled_singleton (unknown entry own)]
        apply popped_signal_iff leads (unknown leader mem) signal ?_ popped
        intro other mem picked
        exact untouched ⟨first, List.mem_cons_self, mode⟩ _ picked (unknown other mem)

/-- Earlier picks of other modes do not touch the unknown sizes. -/
lemma Visited.untouched {selection' : Selection} {taken bucket' : List ShortlistEntry}
    (visited : Visited selection selection' bucket taken) (apart : Apart bucket bucket')
    (untouched : Untouched selection bucket') : Untouched selection' bucket' := by
  intro unknown key mem
  rw [visited.redundancy] at mem
  rcases List.mem_append.mp mem with own | earlier
  · obtain ⟨entry, picked, rfl⟩ := List.mem_map.mp own
    obtain ⟨other, mem', unknown'⟩ := unknown
    intro mode
    exact apart entry (visited.sub picked) other mem' ⟨mode, unknown'⟩
  · exact untouched unknown key earlier

/-- Of two stretches both must be signalled. -/
lemma signalled_append {first later : List ShortlistEntry} :
    Signalled (first ++ later) ↔ Signalled first ∧ Signalled later := by
  constructor
  · intro signalled
    exact ⟨fun entry mem => signalled entry (List.mem_append_left _ mem),
      fun entry mem => signalled entry (List.mem_append_right _ mem)⟩
  · intro both entry mem
    rcases List.mem_append.mp mem with mem | mem
    · exact both.1 entry mem
    · exact both.2 entry mem

/-- The picks of the coverage stage are signalled where every visit meets the condition. -/
lemma cover_signalled_iff (buckets : List (List ShortlistEntry)) (selection : Selection)
    (oneMode : ∀ bucket ∈ buckets, OneMode bucket) (noCount : ∀ bucket ∈ buckets, NoCount bucket)
    (apart : buckets.Pairwise Apart) (untouched : ∀ bucket ∈ buckets, Untouched selection bucket) :
    Signalled (cover hardware coverSmall limit bestClass larger buckets selection).1.selected ↔
      Signalled selection.selected ∧
        ∀ visit ∈ coverVisits hardware coverSmall limit bestClass larger buckets selection,
          NewFamilySignals visit.1 visit.2 := by
  induction buckets generalizing selection with
  | nil => exact ⟨fun signalled => ⟨signalled, fun _ mem => absurd mem List.not_mem_nil⟩, fun both => both.1⟩
  | cons bucket buckets ih =>
    rw [cover, coverVisits]
    split
    · exact ⟨fun signalled => ⟨signalled, fun _ mem => absurd mem List.not_mem_nil⟩, fun both => both.1⟩
    · obtain ⟨taken, visited⟩ := @coverBucket_visited hardware coverSmall bestClass larger selection bucket
        (oneMode bucket List.mem_cons_self) (noCount bucket List.mem_cons_self)
        (untouched bucket List.mem_cons_self)
      obtain ⟨others, apart⟩ := List.pairwise_cons.mp apart
      have later := ih (coverBucket hardware coverSmall bestClass larger selection bucket).1
        (fun bucket mem => oneMode bucket (List.mem_cons_of_mem _ mem))
        (fun bucket mem => noCount bucket (List.mem_cons_of_mem _ mem)) apart
        (fun bucket mem => visited.untouched (others bucket mem) (untouched bucket (List.mem_cons_of_mem _ mem)))
      dsimp only
      rw [later, visited.selected, signalled_append, visited.signalled, List.forall_mem_cons, and_assoc]

end Run

section Buckets
variable {hardware : HardwareProfile} {coverSmall : Bool} {entries : List ShortlistEntry}

/-- The buckets are the groups of one key, sorted. -/
lemma shortlistBuckets_groups (hardware : HardwareProfile) (coverSmall : Bool) (entries : List ShortlistEntry) :
    (shortlistBuckets hardware coverSmall entries).Perm
      ((grouped (fun entry => some (bucketKey hardware coverSmall entry)) entries).map fun group =>
        sortedBy ShortlistEntry.scoreKey group.2) := by
  have groups : ((groupShortlistBuckets hardware coverSmall entries).map
      (sortedBy ShortlistEntry.scoreKey)).Perm
        ((grouped (fun entry => some (bucketKey hardware coverSmall entry)) entries).map fun group =>
          sortedBy ShortlistEntry.scoreKey group.2) := by
    rw [groupShortlistBuckets, List.map_map]
    exact (sortedBy_perm Prod.fst _).map _
  rw [shortlistBuckets]
  split
  · exact (sortedBy_perm _ _).trans groups
  · exact groups

/-- The entries of a group have its key. -/
lemma bucketKey_of_mem_grouped {group : (ℕ ×ₗ ℕ) × List ShortlistEntry} {entry : ShortlistEntry}
    (mem : group ∈ grouped (fun entry => some (bucketKey hardware coverSmall entry)) entries)
    (own : entry ∈ group.2) : entry ∈ entries ∧ bucketKey hardware coverSmall entry = group.1 := by
  obtain ⟨eq, -⟩ := mem_grouped.mp mem
  rw [eq, List.mem_filter, decide_eq_true_eq] at own
  exact ⟨own.1, Option.some.inj own.2⟩

/-- The entries of a bucket share a key. -/
lemma bucketKey_of_mem_shortlistBuckets {bucket : List ShortlistEntry}
    (mem : bucket ∈ shortlistBuckets hardware coverSmall entries) :
    ∃ key, ∀ entry ∈ bucket, entry ∈ entries ∧ bucketKey hardware coverSmall entry = key := by
  obtain ⟨group, listed, rfl⟩ := List.mem_map.mp ((shortlistBuckets_groups _ _ _).subset mem)
  refine ⟨group.1, ?_⟩
  intro entry own
  exact bucketKey_of_mem_grouped listed (mem_sortedBy.mp own)

/-- A bucket holds one memory mode. -/
lemma oneMode_of_mem_shortlistBuckets {bucket : List ShortlistEntry}
    (mem : bucket ∈ shortlistBuckets hardware coverSmall entries) : OneMode bucket := by
  obtain ⟨key, same⟩ := bucketKey_of_mem_shortlistBuckets mem
  intro entry own other own'
  have keys := (same entry own).2.trans (same other own').2.symm
  exact modeOrder_injective hardware (congrArg (fun key : ℕ ×ₗ ℕ => (ofLex key).1) keys)

/-- Without counts in the pool there are none in its buckets. -/
lemma noCount_of_mem_shortlistBuckets (noCount : NoCount entries) {bucket : List ShortlistEntry}
    (mem : bucket ∈ shortlistBuckets hardware coverSmall entries) : NoCount bucket := by
  obtain ⟨key, same⟩ := bucketKey_of_mem_shortlistBuckets mem
  intro entry own
  exact noCount entry (same entry own).1

/-- All unknown sizes share a key. -/
lemma bucketKey_unknown {entry other : ShortlistEntry} (unknown : entry.hint.mode = none)
    (unknown' : other.hint.mode = none) (count : entry.billions = none) (count' : other.billions = none) :
    bucketKey hardware coverSmall entry = bucketKey hardware coverSmall other := by
  rw [bucketKey, bucketKey, bucketScale, bucketScale, unknown, unknown', count, count']

/-- The unknown sizes share a bucket. -/
lemma shortlistBuckets_apart (noCount : NoCount entries) :
    (shortlistBuckets hardware coverSmall entries).Pairwise Apart := by
  have symm : ∀ {bucket other : List ShortlistEntry}, Apart bucket other → Apart other bucket := by
    intro bucket other apart entry mem entry' mem' both
    exact apart entry' mem' entry mem both.symm
  rw [(shortlistBuckets_groups hardware coverSmall entries).pairwise_iff symm, List.pairwise_map]
  have keys := nodup_keys_grouped (fun entry => some (bucketKey hardware coverSmall entry)) entries
  rw [List.Nodup, List.pairwise_map] at keys
  apply keys.imp_of_mem
  intro group group' mem mem' differ entry own entry' own' both
  obtain ⟨listed, key⟩ := bucketKey_of_mem_grouped mem (mem_sortedBy.mp own)
  obtain ⟨listed', key'⟩ := bucketKey_of_mem_grouped mem' (mem_sortedBy.mp own')
  apply differ
  rw [← key, ← key']
  exact bucketKey_unknown both.1 both.2 (noCount entry listed both.1) (noCount entry' listed' both.2)

end Buckets

section Shortlist
variable {logs : Logarithms} {requirements : SearchRequirements} {hardware : HardwareProfile}
variable {targetsOtherTask : Option (SearchCandidate → Bool)} {candidates : List SearchCandidate}

/-- Only a candidate without a parameter count has an unknown size. -/
lemma noCount_shortlistEntries :
    NoCount ((shortlistEntries logs requirements hardware targetsOtherTask candidates).filter (·.isPlausible)) := by
  intro entry mem unknown
  have listed := (shortlistEntries_perm candidates).subset (List.mem_filter.mp mem).1
  obtain ⟨candidate, -, rfl⟩ := List.mem_map.mp listed
  change (coarsePlacementHint candidate requirements hardware).mode = none at unknown
  change parameterCountHint candidate.repoId = none
  cases named : parameterCountHint candidate.repoId with
  | none => rfl
  | some billions =>
    rw [(coarsePlacementHint_named named).1] at unknown
    cases unknown

/-- Every unknown size that the coverage stage picks has a signal if and only if, at each bucket it comes to,
the candidates of new families that tie with a leader that has a signal do not all lack one. -/
theorem coverageStage_signalled_iff (logs : Logarithms) (requirements : SearchRequirements) (limit : ℤ)
    (hardware : HardwareProfile) (targetsOtherTask : Option (SearchCandidate → Bool))
    (candidates : List SearchCandidate) (audit : Option Audit) :
    (∀ entry ∈ (coverageStage requirements limit hardware
        (shortlistEntries logs requirements hardware targetsOtherTask candidates) audit).1.selected,
      entry.hint.mode = none → hasTextExecutionSignal entry.candidate = true) ↔
    ∀ visit ∈ coverageVisits requirements limit hardware
        (shortlistEntries logs requirements hardware targetsOtherTask candidates) audit,
      NewFamilySignals visit.1 visit.2 := by
  have noCount := @noCount_shortlistEntries logs requirements hardware targetsOtherTask candidates
  rw [coverageVisits]
  refine (cover_signalled_iff _ _ (fun bucket mem => oneMode_of_mem_shortlistBuckets mem)
    (fun bucket mem => noCount_of_mem_shortlistBuckets noCount mem) (shortlistBuckets_apart noCount) ?_).trans ?_
  · intro bucket _ _ key mem
    exact absurd mem List.not_mem_nil
  · exact ⟨fun both => both.2, fun visits => ⟨fun entry mem => absurd mem List.not_mem_nil, visits⟩⟩

/-- A repository without a signal ties with a text model of a family that was picked. -/
theorem otherFamily_unsignalled :
    ∃ entry ∈ (coverageStage { useCase := .coding, priority := .quality, desiredContext := 4096 } 4
        { os := "Linux", arch := "x86_64", cpu := {},
          memory := { totalBytes := 64 * 1024 ^ 3, availableBytes := 32 * 1024 ^ 3 } }
        (shortlistEntries ⟨fun _ => 0, 23 / 5⟩
          { useCase := .coding, priority := .quality, desiredContext := 4096 }
          { os := "Linux", arch := "x86_64", cpu := {},
            memory := { totalBytes := 64 * 1024 ^ 3, availableBytes := 32 * 1024 ^ 3 } } none
          [{ repoId := "org/alpha-7b", pipelineTag := some "text-generation" },
            { repoId := "org/alpha", pipelineTag := some "text-generation" },
            { repoId := "org/beta" }]) none).1.selected,
      entry.hint.mode = none ∧ hasTextExecutionSignal entry.candidate = false := by
  decide +kernel

end Shortlist

end Jaull.Discovery
